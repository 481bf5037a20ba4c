import DeviceStatus.Rollback.Listing
import DeviceStatus.Proofs.Rollback.Records
import Mathlib

/-!
# What a listing tells apart

The lines of a listing are read back from their ends, since a name may hold anything: behind it
stand only numbers and words without blanks, and in front of it the words that its line starts with.
So a line gives back what it describes, and two records can be listed alike only if a name goes on,
behind a line break, as a line of the listing starts (`Mimics`): then one line with a long name can
be two lines with short ones. Without such names a line ends where it seems to end
(`line_ends_alike`), and the listing gives back all packages and causes.
-/

namespace DeviceStatus.Rollback

open Parcel

/-! ## Splitting where a character is -/

section Split

variable {c : Char} {x x' y y' : List Char}

/-- At its first place a character splits a text in one way. -/
theorem split_at_first (hx : c ∉ x) (hx' : c ∉ x') (h : x ++ c :: y = x' ++ c :: y') :
    x = x' ∧ y = y' := by
  induction x generalizing x' with
  | nil =>
    cases x' with
    | nil => exact ⟨rfl, List.tail_eq_of_cons_eq h⟩
    | cons d x' => exact absurd (List.head_eq_of_cons_eq h) (List.ne_of_not_mem_cons hx')
  | cons d x ih =>
    cases x' with
    | nil => exact absurd (List.head_eq_of_cons_eq h).symm (List.ne_of_not_mem_cons hx)
    | cons d' x' =>
      simp only [List.mem_cons, not_or] at hx hx'
      simp only [List.cons_append, List.cons.injEq] at h
      obtain ⟨rfl, rfl⟩ := ih hx.2 hx'.2 h.2
      exact ⟨by rw [h.1], rfl⟩

/-- So it does at its last place. -/
theorem split_at_last (hy : c ∉ y) (hy' : c ∉ y') (h : x ++ c :: y = x' ++ c :: y') :
    x = x' ∧ y = y' := by
  have hreverse := congrArg List.reverse h
  simp only [List.reverse_append, List.reverse_cons, List.append_assoc, List.singleton_append]
    at hreverse
  obtain ⟨hys, hxs⟩ := split_at_first (by simpa using hy) (by simpa using hy') hreverse
  exact ⟨List.reverse_inj.1 hxs, List.reverse_inj.1 hys⟩

/-- What stands between two parts of a line, up to the last place of a character, splits it in one
way. -/
theorem split_between (between : List Char) (hy : c ∉ y) (hy' : c ∉ y')
    (h : x ++ (between ++ c :: y) = x' ++ (between ++ c :: y')) : x = x' ∧ y = y' := by
  simp only [← List.append_assoc] at h
  obtain ⟨hx, hyy⟩ := split_at_last hy hy' h
  exact ⟨List.append_cancel_right hx, hyy⟩

end Split

/-! ## Numbers and words in a line -/

/-- The characters of a number. -/
theorem mem_repr {i : Int} {c : Char} (h : c ∈ i.repr.toList) : c = '-' ∨ c.isDigit = true := by
  have hnat : ∀ n : Nat, c ∈ n.repr.toList → c.isDigit = true := by
    intro n hn
    rw [Nat.repr, String.toList_ofList] at hn
    exact Nat.isDigit_of_mem_toDigits (by decide) (by decide) hn
  cases i with
  | ofNat n => exact .inr (hnat n h)
  | negSucc n =>
    simp only [Int.repr, String.toList_append, List.mem_append] at h
    rcases h with h | h
    · exact .inl (by simpa using h)
    · exact .inr (hnat _ h)

/-- A character that is in no number. -/
theorem notMem_repr {c : Char} (hsign : c ≠ '-') (hdigit : c.isDigit = false) (i : Int) :
    c ∉ i.repr.toList := by
  intro h
  rcases mem_repr h with rfl | h
  · exact hsign rfl
  · simp [hdigit] at h

/-- A number starts with a digit or a sign. -/
theorem exists_repr_eq_cons (i : Int) :
    ∃ d digits, i.repr.toList = d :: digits ∧ (d = '-' ∨ d.isDigit = true) := by
  have hsome : i.repr.toList ≠ [] := by
    cases i <;> simp [Int.repr, Nat.repr, Nat.toDigits_ne_nil]
  obtain ⟨d, digits, hd⟩ := List.exists_cons_of_ne_nil hsome
  exact ⟨d, digits, hd, mem_repr (by rw [hd]; exact List.mem_cons_self)⟩

theorem version_inj {v v' : Int64} (h : v.toInt.repr.toList = v'.toInt.repr.toList) : v = v' :=
  Int64.toInt_inj.1 (Int.repr_inj.1 (String.toList_inj.1 h))

theorem word_inj {v v' : Int32} (h : v.toInt.repr.toList = v'.toInt.repr.toList) : v = v' :=
  Int32.toInt_inj.1 (Int.repr_inj.1 (String.toList_inj.1 h))

theorem notMem_policyName {c : Char} (hc : c.isAlpha = false) (policy : DataPolicy) :
    c ∉ policy.name.toList := by
  rintro h
  have hletters : ∀ d ∈ policy.name.toList, d.isAlpha = true := by
    cases policy <;> simp [DataPolicy.name]
  simp [hletters c h] at hc

theorem policyName_inj {policy policy' : DataPolicy}
    (h : policy.name.toList = policy'.name.toList) : policy = policy' := by
  revert h
  cases policy <;> cases policy' <;> decide

/-! ## Where a line ends -/

/-- A text goes on with lines that start in one of these ways, or not at all. -/
def Continues (starts : List (List Char)) (text : List Char) : Prop :=
  text = [] ∨ ∃ start ∈ starts, start <+: text

/-- A name goes on, behind a line break, as a line of a listing starts. -/
def Mimics (name : String) (start : List Char) : Prop := ('\n' :: start) <:+: name.toList

instance (name : String) (start : List Char) : Decidable (Mimics name start) :=
  inferInstanceAs (Decidable (_ <:+: _))

/-- No end of a start can be mistaken for the facts with which a line ends. -/
def Apart (start facts : List Char) : Prop :=
  ∀ ending tail, ending <:+ start → ending ≠ [] → ¬ ending <+: facts ++ tail

section Lines

variable {starts : List (List Char)} {name name' : String} {facts facts' rest rest' : List Char}

/-- A line that could go on behind its end would go on inside the name of the other. -/
theorem not_longer_line (hfacts' : '\n' ∉ facts') (hrest : Continues starts rest)
    (hname' : ∀ start ∈ starts, ¬ Mimics name' start)
    (hapart : ∀ start ∈ starts, Apart start facts')
    (h : (name.toList ++ facts) ++ '\n' :: rest = (name'.toList ++ facts') ++ '\n' :: rest') :
    ¬ (name.toList ++ facts).length < (name'.toList ++ facts').length := by
  intro hlonger
  obtain ⟨inside, hinside, hbehind⟩ : ∃ inside,
      name'.toList ++ facts' = (name.toList ++ facts) ++ '\n' :: inside ∧
        rest = inside ++ '\n' :: rest' := by
    rcases List.append_eq_append_iff.1 h with ⟨more, hline, hmore⟩ | ⟨more, hline, -⟩
    · cases more with
      | nil => simp [hline] at hlonger
      | cons c inside =>
        obtain ⟨rfl, hinside⟩ := List.cons_eq_cons.1 hmore
        exact ⟨inside, hline, hinside⟩
    · rw [hline, List.length_append] at hlonger
      omega
  obtain ⟨middle, hlong, rfl⟩ : ∃ middle,
      name'.toList = (name.toList ++ facts) ++ '\n' :: middle ∧ inside = middle ++ facts' := by
    rcases List.append_eq_append_iff.1 hinside with ⟨more, -, hmore⟩ | ⟨more, hline, hmore⟩
    · exact absurd (hmore ▸ by simp) hfacts'
    · cases more with
      | nil =>
        obtain rfl : '\n' :: inside = facts' := hmore
        exact absurd List.mem_cons_self hfacts'
      | cons c middle =>
        obtain ⟨rfl, hmiddle⟩ := List.cons_eq_cons.1 hmore
        exact ⟨middle, hline, hmiddle⟩
  rcases hrest with hnone | ⟨start, hstart, hprefix⟩
  · simp [hnone] at hbehind
  have hnot : ¬ start <+: middle := by
    rintro ⟨others, rfl⟩
    refine hname' start hstart ⟨name.toList ++ facts, others, ?_⟩
    rw [hlong]
    simp
  rw [hbehind, List.append_assoc] at hprefix
  rcases List.prefix_or_prefix_of_prefix hprefix (List.prefix_append middle _) with
    hshort | ⟨ending, rfl⟩
  · exact hnot hshort
  · have hending : ending ≠ [] := by
      rintro rfl
      exact hnot (by simp)
    exact hapart _ hstart ending _ (List.suffix_append middle ending) hending
      ((List.prefix_append_right_inj middle).1 hprefix)

/-- Lines with what follows them end at the same place. -/
theorem line_ends_alike (hfacts : '\n' ∉ facts) (hfacts' : '\n' ∉ facts')
    (hrest : Continues starts rest) (hrest' : Continues starts rest')
    (hname : ∀ start ∈ starts, ¬ Mimics name start)
    (hname' : ∀ start ∈ starts, ¬ Mimics name' start)
    (hapart : ∀ start ∈ starts, Apart start facts) (hapart' : ∀ start ∈ starts, Apart start facts')
    (h : (name.toList ++ facts) ++ '\n' :: rest = (name'.toList ++ facts') ++ '\n' :: rest') :
    name.toList ++ facts = name'.toList ++ facts' ∧ rest = rest' := by
  have hle := not_longer_line hfacts' hrest hname' hapart' h
  have hge := not_longer_line hfacts hrest' hname hapart h.symm
  obtain ⟨hline, hrests⟩ := List.append_inj h (by omega)
  exact ⟨hline, List.tail_eq_of_cons_eq hrests⟩

end Lines

/-! ## What a line says -/

/-- What a line says of a package. -/
def PackageRollback.listed (p : PackageRollback) : String × Int64 × Int64 × DataPolicy :=
  (p.name, p.source.version, p.target.version, p.dataPolicy)

/-- The words that a line for a package starts with. -/
def packageStart : List Char := [' ', ' ', 'p', 'a', 'c', 'k', 'a', 'g', 'e', ' ']

/-- The words that a line for a cause starts with; a blank follows them. -/
def causeStart : List Char := [' ', ' ', 'c', 'a', 'u', 's', 'e', 'd', ' ', 'b', 'y']

/-- What stands behind the name of a package. -/
def PackageRollback.facts (p : PackageRollback) : List Char :=
  ':' :: ' ' :: p.source.version.toInt.repr.toList ++ ' ' :: '-' :: '>' :: ' ' ::
    p.target.version.toInt.repr.toList ++ ' ' :: '(' :: p.dataPolicy.name.toList ++ [')']

/-- What stands behind the name of a cause. -/
def VersionedPackage.facts (p : VersionedPackage) : List Char :=
  ' ' :: p.version.toInt.repr.toList

theorem PackageRollback.toList_describe (p : PackageRollback) :
    p.describe.toList = packageStart ++ (p.name.toList ++ p.facts) := by
  have hstart : "  package ".toList = packageStart := rfl
  have hcolon : ": ".toList = [':', ' '] := rfl
  have harrow : " -> ".toList = [' ', '-', '>', ' '] := rfl
  have hopen : " (".toList = [' ', '('] := rfl
  have hclose : ")".toList = [')'] := rfl
  delta describe
  simp only [facts, String.toList_append, hstart, hcolon, harrow, hopen, hclose,
    Int.toString_eq_repr, List.append_assoc, List.cons_append, List.nil_append]

theorem VersionedPackage.toList_describe (p : VersionedPackage) :
    p.describe.toList = causeStart ++ ' ' :: (p.name.toList ++ p.facts) := by
  have hstart : "  caused by ".toList = causeStart ++ [' '] := rfl
  have hblank : " ".toList = [' '] := rfl
  delta describe
  simp only [facts, String.toList_append, hstart, hblank, Int.toString_eq_repr,
    List.append_assoc, List.cons_append, List.nil_append]

theorem PackageRollback.notMem_facts (p : PackageRollback) : '\n' ∉ p.facts := by
  have hnumber := notMem_repr (c := '\n') (by decide) (by decide)
  have hpolicy := notMem_policyName (c := '\n') (by decide) p.dataPolicy
  simp [facts, hpolicy, hnumber]

theorem VersionedPackage.notMem_facts (p : VersionedPackage) : '\n' ∉ p.facts := by
  simp [facts, notMem_repr (c := '\n') (by decide) (by decide)]

/-- The facts of a package start with a colon, which no line starts with. -/
theorem PackageRollback.apart_facts (p : PackageRollback) {start : List Char}
    (h : ':' ∉ start) : Apart start p.facts := by
  rintro (_ | ⟨c, ending⟩) tail hsuffix hending hprefix
  · exact hending rfl
  · obtain ⟨rest, hrest⟩ := hprefix
    obtain rfl : c = ':' := List.head_eq_of_cons_eq hrest
    exact h (hsuffix.subset List.mem_cons_self)

/-- No word that a line for a cause starts with is a number. -/
theorem causeStart_words : ∀ ending ∈ causeStart.tails, ending.head? = some ' ' →
    ending[1]?.any (fun c => c ≠ '-' && !c.isDigit) = true := by
  decide

/-- The facts of a cause are a blank and a number. -/
theorem VersionedPackage.apart_facts (p : VersionedPackage) : Apart causeStart p.facts := by
  obtain ⟨d, digits, hnumber, hd⟩ := exists_repr_eq_cons p.version.toInt
  intro ending tail hsuffix hending hprefix
  have hwords := causeStart_words ending ((List.mem_tails _ _).2 hsuffix)
  rw [facts, hnumber] at hprefix
  rcases ending with _ | ⟨c, _ | ⟨e, ending⟩⟩
  · exact hending rfl
  · obtain rfl : c = ' ' := (List.cons_prefix_cons.1 hprefix).1
    simp at hwords
  · obtain ⟨rfl, hnext⟩ := List.cons_prefix_cons.1 hprefix
    obtain ⟨rfl, -⟩ := List.cons_prefix_cons.1 hnext
    obtain ⟨hsign, hdigit⟩ : e ≠ '-' ∧ e.isDigit = false := by simpa using hwords
    rcases hd with rfl | hd
    · exact hsign rfl
    · simp [hdigit] at hd

/-- The line for a package is read from its end: the policy stands in the last brackets, the
versions between the last blanks. -/
theorem PackageRollback.listed_eq {p p' : PackageRollback}
    (h : p.name.toList ++ p.facts = p'.name.toList ++ p'.facts) : p.listed = p'.listed := by
  have hnumber := notMem_repr (c := ' ') (by decide) (by decide)
  have hpolicy := notMem_policyName (c := '(') (by decide)
  simp only [facts, ← List.append_assoc, List.append_cancel_right_eq] at h
  obtain ⟨h, hpolicies⟩ := split_between [' '] (hpolicy _) (hpolicy _) h
  obtain ⟨h, htarget⟩ := split_between [' ', '-', '>'] (hnumber _) (hnumber _) h
  obtain ⟨hname, hsource⟩ := split_between [':'] (hnumber _) (hnumber _) h
  simp only [listed, Prod.mk.injEq]
  exact ⟨String.toList_inj.1 hname, version_inj hsource, version_inj htarget,
    policyName_inj hpolicies⟩

theorem VersionedPackage.eq_of_line {p p' : VersionedPackage}
    (h : p.name.toList ++ p.facts = p'.name.toList ++ p'.facts) : p = p' := by
  have hnumber := notMem_repr (c := ' ') (by decide) (by decide)
  obtain ⟨hname, hversion⟩ := split_at_last (hnumber _) (hnumber _) h
  obtain ⟨name, version⟩ := p
  obtain ⟨name', version'⟩ := p'
  obtain rfl : name = name' := String.toList_inj.1 hname
  obtain rfl : version = version' := version_inj hversion
  rfl

/-! ## Lines one after another -/

/-- The lines for packages. -/
def packageLines (packages : List PackageRollback) : List Char :=
  packages.flatMap fun p => p.describe.toList ++ ['\n']

/-- The lines for causes. -/
def causeLines (causes : List VersionedPackage) : List Char :=
  causes.flatMap fun p => p.describe.toList ++ ['\n']

theorem packageLines_cons (p : PackageRollback) (packages : List PackageRollback)
    (rest : List Char) : packageLines (p :: packages) ++ rest =
      packageStart ++ ((p.name.toList ++ p.facts) ++ '\n' :: (packageLines packages ++ rest)) := by
  simp [packageLines, PackageRollback.toList_describe]

theorem causeLines_cons (p : VersionedPackage) (causes : List VersionedPackage) :
    causeLines (p :: causes) =
      causeStart ++ ' ' :: ((p.name.toList ++ p.facts) ++ '\n' :: causeLines causes) := by
  simp [causeLines, VersionedPackage.toList_describe]

theorem continues_causeLines (causes : List VersionedPackage) :
    Continues [causeStart] (causeLines causes) := by
  cases causes with
  | nil => exact .inl rfl
  | cons p causes =>
    rw [causeLines_cons]
    exact .inr ⟨causeStart, by simp, List.prefix_append _ _⟩

theorem continues_lines (packages : List PackageRollback) (causes : List VersionedPackage) :
    Continues [packageStart, causeStart] (packageLines packages ++ causeLines causes) := by
  cases packages with
  | nil =>
    rcases continues_causeLines causes with hnone | ⟨start, hstart, hprefix⟩
    · exact .inl hnone
    · exact .inr ⟨start, List.mem_cons_of_mem _ hstart, hprefix⟩
  | cons p packages =>
    rw [packageLines_cons]
    exact .inr ⟨packageStart, by simp, List.prefix_append _ _⟩

/-- The lines for causes whose names mimic no line for a cause give the causes back. -/
theorem causes_of_lines {causes causes' : List VersionedPackage}
    (hplain : ∀ p ∈ causes, ¬ Mimics p.name causeStart)
    (hplain' : ∀ p ∈ causes', ¬ Mimics p.name causeStart)
    (h : causeLines causes = causeLines causes') : causes = causes' := by
  induction causes generalizing causes' with
  | nil =>
    cases causes' with
    | nil => rfl
    | cons p' causes' =>
      rw [causeLines_cons] at h
      simp [causeLines, causeStart] at h
  | cons p causes ih =>
    cases causes' with
    | nil =>
      rw [causeLines_cons] at h
      simp [causeLines, causeStart] at h
    | cons p' causes' =>
      obtain ⟨hp, hothers⟩ := List.forall_mem_cons.1 hplain
      obtain ⟨hp', hothers'⟩ := List.forall_mem_cons.1 hplain'
      rw [causeLines_cons, causeLines_cons] at h
      obtain ⟨hline, hlines⟩ := line_ends_alike p.notMem_facts p'.notMem_facts
        (continues_causeLines causes) (continues_causeLines causes') (by simpa using hp)
        (by simpa using hp') (by simpa using p.apart_facts) (by simpa using p'.apart_facts)
        (List.tail_eq_of_cons_eq (List.append_cancel_left h))
      rw [VersionedPackage.eq_of_line hline, ih hothers hothers' hlines]

/-- The lines for packages whose names mimic no line, and for causes behind them, give both back. -/
theorem packages_of_lines {packages packages' : List PackageRollback}
    {causes causes' : List VersionedPackage}
    (hplain : ∀ p ∈ packages, ¬ Mimics p.name packageStart ∧ ¬ Mimics p.name causeStart)
    (hplain' : ∀ p ∈ packages', ¬ Mimics p.name packageStart ∧ ¬ Mimics p.name causeStart)
    (h : packageLines packages ++ causeLines causes =
      packageLines packages' ++ causeLines causes') :
    packages.map (·.listed) = packages'.map (·.listed) ∧
      causeLines causes = causeLines causes' := by
  -- a line for a cause is no line for a package
  have hkinds : ∀ (causes : List VersionedPackage) (line : List Char),
      causeLines causes ≠ packageStart ++ line := by
    intro causes line
    cases causes with
    | nil => simp [causeLines, packageStart]
    | cons p causes =>
      rw [causeLines_cons]
      simp [causeStart, packageStart]
  induction packages generalizing packages' with
  | nil =>
    cases packages' with
    | nil => exact ⟨rfl, h⟩
    | cons p' packages' =>
      rw [packageLines_cons] at h
      exact absurd h (hkinds _ _)
  | cons p packages ih =>
    cases packages' with
    | nil =>
      rw [packageLines_cons] at h
      exact absurd h.symm (hkinds _ _)
    | cons p' packages' =>
      obtain ⟨hp, hothers⟩ := List.forall_mem_cons.1 hplain
      obtain ⟨hp', hothers'⟩ := List.forall_mem_cons.1 hplain'
      have hcolon : ∀ start ∈ [packageStart, causeStart], ':' ∉ start := by decide
      rw [packageLines_cons, packageLines_cons] at h
      obtain ⟨hline, hlines⟩ := line_ends_alike p.notMem_facts p'.notMem_facts
        (continues_lines packages causes) (continues_lines packages' causes')
        (by simpa using hp) (by simpa using hp') (fun start hs => p.apart_facts (hcolon start hs))
        (fun start hs => p'.apart_facts (hcolon start hs)) (List.append_cancel_left h)
      obtain ⟨hpackages, hcauses⟩ := ih hothers hothers' hlines
      exact ⟨by simp [PackageRollback.listed_eq hline, hpackages], hcauses⟩

/-! ## Listings -/

/-- No name of a package mimics a line, and none of a cause mimics a line for a cause, the only kind
of line that may follow. -/
structure HasPlainNames (r : Rollback) : Prop where
  /-- The names of packages. -/
  packages : ∀ p ∈ r.packages, ¬ Mimics p.name packageStart ∧ ¬ Mimics p.name causeStart
  /-- The names of causes. -/
  causes : ∀ p ∈ r.causes, ¬ Mimics p.name causeStart

theorem toList_listing (r : Rollback) :
    r.listing.toList =
      "rollback ".toList ++ (r.id.toInt.repr.toList ++ '\n' ::
        ("  staged: ".toList ++ ((Text.truth r.isStaged).toList ++ '\n' ::
          ("  committed session: ".toList ++ (r.session.toInt.repr.toList ++ '\n' ::
            (packageLines r.packages ++ causeLines r.causes)))))) := by
  have hbreak : "\n".toList = ['\n'] := rfl
  simp only [listing, Rollback.describe, Text.line, String.toList_join, packageLines, causeLines,
    List.flatMap_map, List.map_append, List.map_cons, List.flatMap_append, List.flatMap_cons,
    List.map_map, Function.comp_apply, String.toList_append, Int.toString_eq_repr, hbreak,
    List.append_assoc, List.cons_append, List.nil_append]

theorem truth_inj {b b' : Bool} (h : (Text.truth b).toList = (Text.truth b').toList) : b = b' := by
  revert h
  cases b <;> cases b' <;> decide

/-- The file holds a record, and nothing else, and is not too large to be read. -/
def Holds (file : Tool.File) (r : Rollback) : Prop :=
  ∃ octets, file.content = .ok octets ∧ octets.length ≤ greatestFileSize ∧
    decode .standard octets = .ok r

theorem command_of_holds {file : Tool.File} {r : Rollback} (h : Holds file r) :
    command file = ⟨0, r.listing, ""⟩ := by
  obtain ⟨octets, hcontent, hsmall, hdecode⟩ := h
  simp [command, describeFile, hcontent, Nat.not_lt.2 hsmall, hdecode, Tool.Outcome.ofResult]

/-- Records that are listed alike have the same id, need a restart alike and were committed by the
same session, whatever their names are; if no name mimics a line, they also have the same packages
and the same causes, as far as these are listed. -/
theorem listed_apart {file file' : Tool.File} {r r' : Rollback} (h : Holds file r)
    (h' : Holds file' r') (hsame : (command file).output = (command file').output) :
    r.id = r'.id ∧ r.isStaged = r'.isStaged ∧ r.session = r'.session ∧
      (HasPlainNames r → HasPlainNames r' →
        r.packages.map (·.listed) = r'.packages.map (·.listed) ∧ r.causes = r'.causes) := by
  have hnumber := notMem_repr (c := '\n') (by decide) (by decide)
  have htruth : ∀ b, '\n' ∉ (Text.truth b).toList := by decide
  rw [command_of_holds h, command_of_holds h', ← String.toList_inj, toList_listing,
    toList_listing] at hsame
  obtain ⟨hid, hsame⟩ := split_at_first (hnumber _) (hnumber _) (List.append_cancel_left hsame)
  obtain ⟨hstaged, hsame⟩ := split_at_first (htruth _) (htruth _) (List.append_cancel_left hsame)
  obtain ⟨hsession, hlines⟩ :=
    split_at_first (hnumber _) (hnumber _) (List.append_cancel_left hsame)
  refine ⟨word_inj hid, truth_inj hstaged, word_inj hsession, fun hplain hplain' => ?_⟩
  obtain ⟨hpackages, hcauses⟩ := packages_of_lines hplain.packages hplain'.packages hlines
  exact ⟨hpackages, causes_of_lines hplain.causes hplain'.causes hcauses⟩

/-- The octets of a record, in a file. -/
def fileOf (r : Rollback) : Tool.File := ⟨"record", .ok (octets r)⟩

theorem holds_fileOf {r : Rollback} (hlimits : WithinLimits r)
    (hsmall : (octets r).length ≤ greatestFileSize) : Holds (fileOf r) r :=
  ⟨octets r, rfl, hsmall, decode_octets .standard hlimits⟩

/-- A package of which nothing is to be saved or restored has only names to fit. -/
theorem withinLimits_of_names {source target : VersionedPackage} {isApex : Bool}
    (hsource : FitsText source.name) (htarget : FitsText target.name) :
    WithinLimits ({ source, target, isApex } : PackageRollback) :=
  ⟨hsource, htarget, Nat.zero_le _, ⟨Nat.zero_le _, by simp⟩, Nat.zero_le _⟩

/-- A name may hold line breaks, and what is not listed of a package may differ. -/
theorem listed_apart_but_for_data :
    let r (isApex : Bool) : Rollback :=
      { id := 1, packages := [{ source := ⟨"a\n  b (c)", -1⟩, target := ⟨"", 2⟩, isApex }],
        causes := [⟨"x\n  package y", 3⟩], isStaged := true }
    Holds (fileOf (r true)) (r true) ∧ Holds (fileOf (r false)) (r false) ∧
      (command (fileOf (r true))).output = (command (fileOf (r false))).output ∧
      HasPlainNames (r true) ∧ HasPlainNames (r false) ∧
      (r true).packages.map (·.listed) = (r false).packages.map (·.listed) ∧
      (r true).causes = (r false).causes := by
  intro r
  have hlimits : ∀ isApex, WithinLimits (r isApex) := by
    intro isApex
    have hpackage : WithinLimits
        ({ source := ⟨"a\n  b (c)", -1⟩, target := ⟨"", 2⟩, isApex } : PackageRollback) :=
      withinLimits_of_names (by decide) (by decide)
    have hcause : WithinLimits (⟨"x\n  package y", 3⟩ : VersionedPackage) :=
      show FitsText "x\n  package y" by decide
    exact ⟨⟨show 1 ≤ greatestLength by decide, by simpa [r] using hpackage⟩,
      show 1 ≤ greatestLength by decide, by simpa [r] using hcause⟩
  have hholds : ∀ isApex, Holds (fileOf (r isApex)) (r isApex) := fun isApex =>
    holds_fileOf (hlimits isApex) (by cases isApex <;> decide)
  have hplain : ∀ isApex, HasPlainNames (r isApex) := fun isApex =>
    ⟨by cases isApex <;> decide, by cases isApex <;> decide⟩
  have hsame : (command (fileOf (r true))).output = (command (fileOf (r false))).output := by
    rw [command_of_holds (hholds true), command_of_holds (hholds false)]
    rfl
  exact ⟨hholds true, hholds false, hsame, hplain true, hplain false,
    (listed_apart (hholds true) (hholds false) hsame).2.2.2 (hplain true) (hplain false)⟩

/-- One package with a long name is listed as two packages with short ones. -/
theorem not_listed_apart :
    ¬ ∀ (file file' : Tool.File) (r r' : Rollback), Holds file r → Holds file' r' →
      (command file).output = (command file').output →
      r.id = r'.id ∧ r.isStaged = r'.isStaged ∧ r.session = r'.session ∧
        r.packages.map (·.listed) = r'.packages.map (·.listed) ∧ r.causes = r'.causes := by
  intro h
  let one : Rollback :=
    { id := 1, isStaged := false,
      packages := [{ source := ⟨"a: 1 -> 2 (Restore)\n  package b", 1⟩, target := ⟨"", 2⟩ }] }
  let two : Rollback :=
    { id := 1, isStaged := false,
      packages := [{ source := ⟨"a", 1⟩, target := ⟨"", 2⟩ },
        { source := ⟨"b", 1⟩, target := ⟨"", 2⟩ }] }
  have hlimits : ∀ r ∈ [one, two], WithinLimits r := by
    have hname : ∀ {name version}, FitsText name →
        WithinLimits ({ source := ⟨name, version⟩, target := ⟨"", 2⟩ } : PackageRollback) :=
      fun hname => withinLimits_of_names hname (show FitsText "" by decide)
    simp only [List.forall_mem_cons, one, two]
    refine ⟨⟨⟨by decide, ?_⟩, by decide, by simp⟩, ⟨⟨by decide, ?_⟩, by decide, by simp⟩, by simp⟩
    · simpa using hname (by decide)
    · simpa using ⟨hname (by decide), hname (by decide)⟩
  have hone : Holds (fileOf one) one := holds_fileOf (hlimits one (by simp)) (by decide +kernel)
  have htwo : Holds (fileOf two) two := holds_fileOf (hlimits two (by simp)) (by decide +kernel)
  have hsame : (command (fileOf one)).output = (command (fileOf two)).output := by
    rw [command_of_holds hone, command_of_holds htwo]
    decide
  have hpackages := (h _ _ one two hone htwo hsame).2.2.2.1
  exact absurd (congrArg List.length hpackages) (by decide)

end DeviceStatus.Rollback
