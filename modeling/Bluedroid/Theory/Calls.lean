import Mathlib.Data.Nat.Notation

/-!
# Theory.Calls -- a function called again and again

A sender that hands out one piece at a time (`get next segment`) is a function
`step : σ → Option (σ × α)` from its state, `none` when it has nothing to give.
`calls step n s` is `n` calls of it in a row, with the pieces in the order they
were returned.  A caller that goes on "until" something happens is described by
the first `n` whose state has it, with every state before it (`Reached` for
each `m < n`) still without it; `reached_before_succ` builds that from the
first call and the calls after it.
-/

namespace Bluedroid.Theory

set_option autoImplicit false

variable {σ α : Type}

/-- `n` calls of `step` in a row from `s`, with what they returned in order;
`none` as soon as a call returns nothing. -/
def calls (step : σ → Option (σ × α)) : ℕ → σ → Option (σ × List α)
  | 0, s => some (s, [])
  | n + 1, s =>
      match step s with
      | none => none
      | some (s, a) => (calls step n s).map fun (s, as) => (s, a :: as)

theorem calls_succ {step : σ → Option (σ × α)} {s s₁ : σ} {a : α} (call : step s = some (s₁, a))
    (n : ℕ) : calls step (n + 1) s = (calls step n s₁).map fun (s, as) => (s, a :: as) := by
  rw [calls, call]

/-- After `m` calls from `s` the state satisfies `P`. -/
def Reached (step : σ → Option (σ × α)) (P : σ → Prop) (m : ℕ) (s : σ) : Prop :=
  ∃ s' as, calls step m s = some (s', as) ∧ P s'

/-- The states before `n + 1` calls from `s` are `s` itself and the states
before `n` calls from where the first call leaves. -/
theorem reached_before_succ {step : σ → Option (σ × α)} {P : σ → Prop} {s s₁ : σ} {a : α} {n : ℕ}
    (now : P s) (call : step s = some (s₁, a)) (later : ∀ m < n, Reached step P m s₁) :
    ∀ m < n + 1, Reached step P m s := by
  rintro (_ | m) before
  · exact ⟨s, [], rfl, now⟩
  · obtain ⟨s', as, run, holds⟩ := later m (by omega)
    refine ⟨s', a :: as, ?_, holds⟩
    rw [calls_succ call, run, Option.map_some]

end Bluedroid.Theory
