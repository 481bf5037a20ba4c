/-!
# Registries

An ordered list of registered callbacks. Every registration gets a number of its own, by which it is
taken out again; numbers are never used twice.
-/

namespace DeviceStatus.Callbacks

/-- A registered callback. -/
structure Entry (κ : Type) where
  /-- The number of the registration. -/
  id : Nat
  /-- What is registered. -/
  callback : κ
deriving DecidableEq, Repr

/-- An ordered list of registered callbacks. -/
structure Registry (κ : Type) where
  /-- The number of the next registration. -/
  nextId : Nat := 0
  /-- The registrations, oldest first. -/
  entries : List (Entry κ) := []
deriving DecidableEq, Repr

namespace Registry

variable {κ : Type}

instance : Inhabited (Registry κ) := ⟨{}⟩

/-- The number of registered callbacks. -/
def size (r : Registry κ) : Nat := r.entries.length

/-- Registers a callback behind all others. -/
def register (r : Registry κ) (callback : κ) : Registry κ :=
  ⟨r.nextId + 1, r.entries ++ [⟨r.nextId, callback⟩]⟩

/-- Takes out the registration with a number, if there is one. -/
def remove (r : Registry κ) (id : Nat) : Registry κ :=
  { r with entries := r.entries.filter (·.id ≠ id) }

/-- The registration with a number. -/
def find? (r : Registry κ) (id : Nat) : Option (Entry κ) := r.entries.find? (·.id = id)

/-- The numbers of all registrations are below the next one, and in increasing order. -/
structure WellNumbered (r : Registry κ) : Prop where
  /-- Every number is below the next one. -/
  below : ∀ e ∈ r.entries, e.id < r.nextId
  /-- Older registrations have smaller numbers. -/
  increasing : r.entries.Pairwise fun a b => a.id < b.id

theorem wellNumbered_empty : WellNumbered ({} : Registry κ) :=
  ⟨by simp, List.Pairwise.nil⟩

theorem WellNumbered.register {r : Registry κ} (h : r.WellNumbered) (callback : κ) :
    (r.register callback).WellNumbered := by
  refine ⟨fun e he => ?_, List.pairwise_append.2 ⟨h.increasing, by simp, fun a ha b hb => ?_⟩⟩
  · rcases List.mem_append.1 he with he | he
    · exact Nat.lt_succ_of_lt (h.below e he)
    · rw [List.mem_singleton.1 he]
      exact Nat.lt_succ_self _
  · rw [List.mem_singleton.1 hb]
    exact h.below a ha

theorem WellNumbered.remove {r : Registry κ} (h : r.WellNumbered) (id : Nat) :
    (r.remove id).WellNumbered :=
  ⟨fun e he => h.below e (List.mem_filter.1 he).1, h.increasing.filter _⟩

end Registry

end DeviceStatus.Callbacks
