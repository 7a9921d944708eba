import Mathlib.Data.List.Basic
import Mathlib.Tactic.Common

/-! Loops that carry a state along and collect results. Where the state is only a memory of
answers, the results do not depend on it.
-/

namespace StorageBallast.Collecting

variable {σ α β : Type}

def collect (step : σ → α → σ × List β) (state : σ) : List α → σ × List β
  | [] => (state, [])
  | a :: rest =>
      let first := step state a
      let later := collect step first.1 rest
      (later.1, first.2 ++ later.2)

def Answers (I : σ → Prop) (step : σ → α → σ × List β) (results : α → List β) : Prop :=
  ∀ state a, I state → I (step state a).1 ∧ (step state a).2 = results a

theorem Answers.collect {I : σ → Prop} {step : σ → α → σ × List β} {results : α → List β}
    (answers : Answers I step results)
    : Answers I (collect step) fun list => list.flatMap results := by
  intro state list invariant
  induction list generalizing state with
  | nil => exact ⟨invariant, rfl⟩
  | cons a rest ih =>
      obtain ⟨kept, same⟩ := answers state a invariant
      obtain ⟨keptLater, sameLater⟩ := ih (step state a).1 kept
      exact ⟨keptLater, by simp [Collecting.collect, same, sameLater]⟩

end StorageBallast.Collecting

/-! Sequences of checks that stop at the first refusal. -/

namespace StorageBallast.Checks

variable {ε α β : Type}

def refuseWhen (condition : Bool) (reason : ε) : Except ε Unit :=
  if condition then .error reason else .ok ()

@[simp] theorem refuseWhen_eq_ok {condition : Bool} {reason : ε} {u : Unit}
    : refuseWhen condition reason = .ok u ↔ condition = false := by
  cases condition <;> simp [refuseWhen]

@[simp] theorem refuseWhen_eq_error {condition : Bool} {reason other : ε}
    : refuseWhen condition reason = .error other ↔ condition = true ∧ reason = other := by
  cases condition <;> simp [refuseWhen]

theorem bind_eq_ok {x : Except ε α} {f : α → Except ε β} {b : β}
    : (x >>= f) = .ok b ↔ ∃ a, x = .ok a ∧ f a = .ok b := by
  cases x <;> simp [bind, Except.bind]

/-- A sequence is refused by its first part, or by its second one after the first passed. -/
theorem bind_eq_error {x : Except ε α} {f : α → Except ε β} {e : ε}
    : (x >>= f) = .error e ↔ x = .error e ∨ ∃ a, x = .ok a ∧ f a = .error e := by
  cases x <;> simp [bind, Except.bind]

theorem mapError_eq_ok {δ : Type} {x : Except ε α} {f : ε → δ} {a : α}
    : x.mapError f = .ok a ↔ x = .ok a := by
  cases x <;> simp [Except.mapError]

/-- No reason is found by a chain of searches if none of them finds one. -/
theorem orElse_eq_none {first : Option α} {later : Unit → Option α}
    : first.orElse later = none ↔ first = none ∧ later () = none := by
  cases first <;> simp [Option.orElse]

theorem ite_some_eq_none {condition : Prop} [Decidable condition] {reason : α}
    {later : Option α}
    : (if condition then some reason else later) = none ↔ ¬ condition ∧ later = none := by
  split <;> simp_all

end StorageBallast.Checks
