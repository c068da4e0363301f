import Mathlib.Data.ZMod.Basic
import Mathlib.Tactic.Abel

/-!
# Theory.CyclicSeq -- sequence numbers that wrap, and queues labelled by them

Sequence numbers modulo `n` live in `ZMod n`, whose subtraction is the wrapping
distance `(b - a) mod n` that window protocols compute with unsigned
arithmetic and a mask; `ZMod.val` reads it back as a natural number.  Two
notions are enough for a sliding window:

* the cyclic intervals `CyclicIcc lo hi` and `CyclicIco lo hi`, read off the
  distance from `lo`;
* `Consecutive label start l`: the elements of `l` carry the labels
  `start, start + 1, …` in order.  Acknowledging a prefix (`Consecutive.drop`)
  and sending a new element (`Consecutive.concat`) keep it.

The distance lemmas (`val_sub_add_natCast`, `val_sub_sub_of_le`) say when the
wrapping distance behaves like the distance of natural numbers: as long as the
window never covers the whole circle.
-/

namespace Bluedroid.Theory

set_option autoImplicit false

/-! ## Wrapping distances -/

section Distance

variable {n : ℕ} [NeZero n]

/-- `x` lies in the cyclic interval from `lo` to `hi`, both ends included. -/
def CyclicIcc (lo hi x : ZMod n) : Prop := (x - lo).val ≤ (hi - lo).val

/-- `x` lies in the cyclic interval from `lo` up to, not including, `hi`. -/
def CyclicIco (lo hi x : ZMod n) : Prop := (x - lo).val < (hi - lo).val

instance (lo hi x : ZMod n) : Decidable (CyclicIcc lo hi x) :=
  inferInstanceAs (Decidable (_ ≤ _))

instance (lo hi x : ZMod n) : Decidable (CyclicIco lo hi x) :=
  inferInstanceAs (Decidable (_ < _))

omit [NeZero n] in
theorem val_add_natCast_sub_self (s : ZMod n) {i : ℕ} (lt : i < n) :
    ((s + (i : ZMod n)) - s).val = i := by
  rw [add_sub_cancel_left, ZMod.val_cast_of_lt lt]

omit [NeZero n] in
/-- A label at most a turn on that is not the start again is less than a turn on. -/
theorem lt_of_add_natCast_ne {s : ZMod n} {k : ℕ} (le : k ≤ n) (moved : s + (k : ZMod n) ≠ s) :
    k < n := by
  rcases Nat.lt_or_eq_of_le le with lt | same
  · exact lt
  · subst same
    exact absurd (by rw [ZMod.natCast_self, add_zero]) moved

theorem add_natCast_val_sub (a b : ZMod n) : b + (((a - b).val : ℕ) : ZMod n) = a := by
  rw [ZMod.natCast_zmod_val, add_sub_cancel]

/-- Moving the far end forward by `k` moves the distance by `k`, while the
window stays short of the whole circle. -/
theorem val_sub_add_natCast (a b : ZMod n) (k : ℕ) (room : (a - b).val + k < n) :
    ((a + (k : ZMod n)) - b).val = (a - b).val + k := by
  have shift : (a + (k : ZMod n)) - b = (a - b) + (k : ZMod n) := by abel
  rw [shift, ZMod.val_add, ZMod.val_cast_of_lt (by omega), Nat.mod_eq_of_lt room]

/-- Distances from `b` subtract: `c` between `b` and `a` splits the way from `b`
to `a` at `c`. -/
theorem val_sub_sub_of_le (a b c : ZMod n) (le : (c - b).val ≤ (a - b).val) :
    (a - c).val = (a - b).val - (c - b).val := by
  have split : a - b = (a - c) + (c - b) := by abel
  have sum : (a - b).val = ((a - c).val + (c - b).val) % n := by
    rw [← ZMod.val_add, ← split]
  have ac := ZMod.val_lt (a - c)
  have cb := ZMod.val_lt (c - b)
  by_cases fits : (a - c).val + (c - b).val < n
  · rw [Nat.mod_eq_of_lt fits] at sum
    omega
  · rw [Nat.mod_eq_sub_mod (by omega), Nat.mod_eq_of_lt (by omega)] at sum
    omega

end Distance

/-! ## Consecutively labelled lists -/

section Consecutive

variable {β M : Type} [AddMonoidWithOne M]

/-- The elements of `l` carry the labels `start, start + 1, …` in order. -/
def Consecutive (label : β → M) (start : M) (l : List β) : Prop :=
  ∀ i (lt : i < l.length), label l[i] = start + i

theorem consecutive_nil (label : β → M) (start : M) : Consecutive label start [] :=
  fun _ lt => absurd lt (Nat.not_lt_zero _)

/-- Dropping the first `k` elements starts the labels `k` later. -/
theorem Consecutive.drop {label : β → M} {start : M} {l : List β}
    (consecutive : Consecutive label start l) (k : ℕ) :
    Consecutive label (start + k) (l.drop k) := by
  intro i lt
  rw [List.getElem_drop, consecutive (k + i) (by simp at lt; omega), Nat.cast_add, add_assoc]

/-- Appending an element with the next label keeps the labels consecutive. -/
theorem Consecutive.concat {label : β → M} {start : M} {l : List β}
    (consecutive : Consecutive label start l) {x : β} (next : label x = start + l.length) :
    Consecutive label start (l ++ [x]) := by
  intro i lt
  rw [List.length_append, List.length_singleton] at lt
  by_cases old : i < l.length
  · rw [List.getElem_append_left old]
    exact consecutive i old
  · have last : i = l.length := by omega
    subst last
    simpa using next

/-- The head carries `start`, and the tail the labels from `start + 1`. -/
theorem consecutive_cons_iff {label : β → M} {start : M} {x : β} {l : List β} :
    Consecutive label start (x :: l) ↔ label x = start ∧ Consecutive label (start + 1) l := by
  -- the label `i + 1` of the whole list is the label `i` of the tail
  have shift : ∀ i : ℕ, start + ((i + 1 : ℕ) : M) = start + 1 + i := fun i => by
    rw [Nat.add_comm i 1, Nat.cast_add, Nat.cast_one, add_assoc]
  constructor
  · intro consecutive
    have first := consecutive 0 (by simp)
    rw [List.getElem_cons_zero, Nat.cast_zero, add_zero] at first
    refine ⟨first, fun i lt => ?_⟩
    rw [← shift]
    exact consecutive (i + 1) (by simpa using lt)
  · rintro ⟨first, rest⟩ i lt
    cases i with
    | zero => rw [List.getElem_cons_zero, Nat.cast_zero, add_zero]; exact first
    | succ i =>
        rw [List.getElem_cons_succ, shift]
        exact rest i (by simpa using lt)

/-- The last element carries the label just before `start + l.length`. -/
theorem Consecutive.getLast? {label : β → M} {start : M} {l : List β}
    (consecutive : Consecutive label start l) {last : β} (found : l.getLast? = some last) :
    label last + 1 = start + l.length := by
  obtain ⟨init, rfl⟩ := List.getLast?_eq_some_iff.mp found
  have labelled := consecutive init.length (by simp)
  rw [List.getElem_append_right (le_refl _), List.getElem_singleton] at labelled
  rw [labelled, List.length_append, List.length_singleton, Nat.cast_add, Nat.cast_one, add_assoc]

end Consecutive

end Bluedroid.Theory
