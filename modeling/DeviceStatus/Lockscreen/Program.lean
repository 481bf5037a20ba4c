import DeviceStatus.Lockscreen.Request

/-!
# Programs of requests

A program makes requests one after another, each depending on the answers to the earlier ones, and
ends with a value. It does not say who answers: it can be run under fixed answers, which is what
`under` does, or be interrupted at every request by whatever else goes on in the device.

Of a program whose surroundings are not known one says what it ensures whatever the answers are;
this judgement, `Program.Ensures`, stands beside the proofs that use it.
-/

namespace DeviceStatus.Lockscreen

/-- A program that makes requests and ends with a value. -/
inductive Program (α : Type) : Type where
  /-- The program has ended. -/
  | done (value : α)
  /-- The program makes a request and goes on with its answer. -/
  | ask (r : Request) (next : r.Answer → Program α)

namespace Program

variable {α β : Type}

/-- One program after another. -/
def bind : Program α → (α → Program β) → Program β
  | done value, f => f value
  | ask r next, f => ask r fun answer => (next answer).bind f

instance : Monad Program where
  pure := done
  bind := bind

/-- The program that makes one request and ends with the answer. -/
def request (r : Request) : Program r.Answer := ask r done

/-- The value of a program under fixed answers, and the requests that it makes, in order. -/
def under (answers : Answers) : Program α → α × List Request
  | done value => (value, [])
  | ask r next =>
    let (value, requests) := (next (answers r)).under answers
    (value, r :: requests)

@[simp] theorem done_bind (value : α) (f : α → Program β) : (done value).bind f = f value := rfl

@[simp] theorem ask_bind (r : Request) (next : r.Answer → Program α) (f : α → Program β) :
    (ask r next).bind f = ask r fun answer => (next answer).bind f := rfl

@[simp] theorem bind_done (p : Program α) : p.bind done = p := by
  induction p with
  | done value => rfl
  | ask r next ih => simp [ih]

theorem bind_assoc {γ : Type} (p : Program α) (f : α → Program β) (g : β → Program γ) :
    (p.bind f).bind g = p.bind fun value => (f value).bind g := by
  induction p with
  | done value => rfl
  | ask r next ih => simp [ih]

instance : LawfulMonad Program :=
  LawfulMonad.mk' Program bind_done (fun _ _ => rfl) bind_assoc

/-- A sequence makes the requests of its first part, then those of its second. -/
theorem under_bind (answers : Answers) (p : Program α) (f : α → Program β) :
    (p.bind f).under answers =
      (((f (p.under answers).1).under answers).1,
        (p.under answers).2 ++ ((f (p.under answers).1).under answers).2) := by
  induction p with
  | done value => rfl
  | ask r next ih => simp [under, ih]

end Program

end DeviceStatus.Lockscreen
