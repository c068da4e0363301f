import Mathlib.Data.Nat.Notation
import Mathlib.Logic.Relation

/-!
# Theory.Loop -- a loop whose body goes on or leaves

A C loop whose body may `break` or `return` is a function `body : σ → σ ⊕ ρ`
from the loop's state: `Sum.inl` is the state the next pass starts from,
`Sum.inr` the value the loop leaves with.  `loop body fuel s` runs at most
`fuel` passes and is `none` when they are used up.

The rules proofs about such a loop use:

* a property of the states that every pass keeps, and that every exit turns
  into a property of the value, holds of whatever the loop returns
  (`loop_invariant`), and of every state the passes go through
  (`passes_invariant`);
* if moreover every pass that goes on lowers a measure, the loop returns within
  one pass more than the measure (`loop_total`);
* a loop whose every pass, mapped through an abstraction, is the pass of
  another loop, returns what that loop returns, mapped (`loop_simulation`);
* a loop that returns returns the value of the first state its passes reach
  that leaves (`loop_of_passes`).

A development then proves one lemma about a single pass for each property.
-/

namespace Bluedroid.Theory

set_option autoImplicit false

variable {σ ρ : Type}

/-- At most `fuel` passes of `body` from `s`. -/
def loop (body : σ → σ ⊕ ρ) : ℕ → σ → Option ρ
  | 0, _ => none
  | fuel + 1, s =>
      match body s with
      | .inl s => loop body fuel s
      | .inr r => some r

@[simp] theorem loop_zero (body : σ → σ ⊕ ρ) (s : σ) : loop body 0 s = none := rfl

theorem loop_succ (body : σ → σ ⊕ ρ) (fuel : ℕ) (s : σ) :
    loop body (fuel + 1) s = Sum.elim (loop body fuel) some (body s) := by
  simp only [loop]
  cases body s <;> rfl

/-- **The invariant rule.**  Every pass from a state with `P` goes on in a state
with `P` or leaves with a value with `Q`. -/
theorem loop_invariant {body : σ → σ ⊕ ρ} (P : σ → Prop) (Q : ρ → Prop)
    (pass : ∀ s, P s → Sum.elim P Q (body s)) :
    ∀ {fuel : ℕ} {s : σ} {r : ρ}, P s → loop body fuel s = some r → Q r := by
  intro fuel
  induction fuel with
  | zero => intro s r _ ran; simp at ran
  | succ fuel ih =>
    intro s r holds ran
    rw [loop_succ] at ran
    have next := pass s holds
    cases passed : body s with
    | inl s' =>
      rw [passed] at ran next
      exact ih next ran
    | inr left =>
      rw [passed] at ran next
      rw [← Option.some.inj ran]
      exact next

/-- **The variant rule.**  Every pass from a state with `P` goes on in a state
with `P` and a smaller measure, or leaves with a value with `Q`: the loop then
leaves, with `Q`, given more passes than the measure. -/
theorem loop_total {body : σ → σ ⊕ ρ} (P : σ → Prop) (Q : ρ → Prop) (μ : σ → ℕ)
    (pass : ∀ s, P s →
      (∃ s', body s = .inl s' ∧ P s' ∧ μ s' < μ s) ∨ ∃ r, body s = .inr r ∧ Q r) :
    ∀ s, P s → ∃ r, Q r ∧ ∀ fuel, μ s < fuel → loop body fuel s = some r := by
  intro s
  -- strong induction on the measure of the state the loop starts from
  induction measure : μ s using Nat.strongRecOn generalizing s with
  | ind n ih =>
    intro holds
    rcases pass s holds with ⟨s', goes, holds', smaller⟩ | ⟨r, leaves, result⟩
    · obtain ⟨r, result, runs⟩ := ih (μ s') (measure ▸ smaller) s' rfl holds'
      refine ⟨r, result, ?_⟩
      rintro (_ | fuel) enough
      · omega
      · rw [loop_succ, goes, Sum.elim_inl]
        exact runs fuel (by omega)
    · refine ⟨r, result, ?_⟩
      rintro (_ | fuel) enough
      · omega
      · rw [loop_succ, leaves, Sum.elim_inr]

/-- **The simulation rule.**  While `R` holds, a pass of `f` mapped through
`abs` (for the states) and `out` (for the value) is the pass of `g` from the
mapped state, and `R` is kept: `f`'s loop then returns what `g`'s returns. -/
theorem loop_simulation {τ ρ' : Type} {f : σ → σ ⊕ ρ} {g : τ → τ ⊕ ρ'} (abs : σ → τ)
    (out : ρ → ρ') (R : σ → Prop) (sim : ∀ s, R s → Sum.map abs out (f s) = g (abs s))
    (keeps : ∀ s s', R s → f s = .inl s' → R s') :
    ∀ fuel s, R s → (loop f fuel s).map out = loop g fuel (abs s) := by
  intro fuel
  induction fuel with
  | zero => intro s _; rfl
  | succ fuel ih =>
    intro s holds
    have step := sim s holds
    rw [loop_succ, loop_succ]
    cases passed : f s with
    | inl s' =>
      rw [passed, Sum.map_inl] at step
      rw [← step, Sum.elim_inl, Sum.elim_inl]
      exact ih s' (keeps s s' holds passed)
    | inr r =>
      rw [passed, Sum.map_inr] at step
      rw [← step, Sum.elim_inr, Sum.elim_inr, Option.map_some]

/-- The states that passes of `body` go through from `s`, `s` included. -/
def Passes (body : σ → σ ⊕ ρ) : σ → σ → Prop :=
  Relation.ReflTransGen fun s s' => body s = .inl s'

/-- A property every pass keeps holds of every state the passes go through. -/
theorem passes_invariant {body : σ → σ ⊕ ρ} (P : σ → Prop)
    (keeps : ∀ s s', P s → body s = .inl s' → P s') {s s' : σ} (start : P s)
    (passes : Passes body s s') : P s' := by
  induction passes with
  | refl => exact start
  | tail _ passed holds => exact keeps _ _ holds passed

/-- **A loop leaves where its passes lead.**  Whatever fuel a run is given, if
it returns, it returns the value of the first state on the way that leaves. -/
theorem loop_of_passes {body : σ → σ ⊕ ρ} {s s' : σ} {r : ρ} (passes : Passes body s s')
    (leaves : body s' = .inr r) : ∀ {fuel : ℕ} {r' : ρ}, loop body fuel s = some r' → r' = r := by
  -- induction on the passes from the front: each one uses up one unit of fuel
  induction passes using Relation.ReflTransGen.head_induction_on with
  | refl =>
    rintro (_ | fuel) r' ran
    · simp at ran
    · rw [loop_succ, leaves, Sum.elim_inr] at ran
      exact (Option.some.inj ran).symm
  | head passed _ ih =>
    rintro (_ | fuel) r' ran
    · simp at ran
    · rw [loop_succ, passed, Sum.elim_inl] at ran
      exact ih ran

end Bluedroid.Theory
