import Bluedroid.Theory.CyclicSeq

/-!
# Theory.SlidingWindow -- the sender side of a sliding-window protocol

A sender numbers what it sends `next, next + 1, …` modulo `n` and keeps what is
not yet acknowledged in a queue; an acknowledgement `ack` from the receiver
frees everything numbered before `ack`.  `SendWindow` is the invariant that
makes this sound: the queue holds the elements numbered `base, base + 1, …`,
as many as the wrapping distance from `base` to `next`, and no more than the
window `size`.

From it, an acknowledgement is acceptable (frees no more than is queued)
exactly when it lies in the cyclic interval from `base` to `next`, and the
elements it frees are exactly those numbered from `base` up to `ack`
(`SendWindow.acked_iff`, `SendWindow.drop_eq_filter`).  Sending keeps the
invariant as long as the window is smaller than the sequence space
(`SendWindow.send`), acknowledging keeps it always (`SendWindow.ack`).
-/

namespace Bluedroid.Theory

set_option autoImplicit false

/-! ## Dropping a prefix picked out by a predicate -/

/-- If `p` holds of exactly the first `k` elements, dropping them is filtering
by `¬ p`. -/
theorem List.drop_eq_filter_of_prefix {β : Type} (p : β → Bool) :
    ∀ (l : List β) (k : ℕ), (∀ i (lt : i < l.length), p l[i] = true ↔ i < k) →
      l.drop k = l.filter fun x => !p x
  | [], k, _ => by simp
  | x :: xs, k, picked => by
      have rest : ∀ i (lt : i < xs.length), p xs[i] = true ↔ i + 1 < k := fun i lt =>
        picked (i + 1) (by simp [lt])
      have head := picked 0 (by simp)
      cases k with
      | zero =>
          -- nothing is picked: the filter keeps every element
          have none : ∀ y ∈ x :: xs, (!p y) = true := by
            intro y mem
            obtain ⟨i, lt, rfl⟩ := List.getElem_of_mem mem
            simpa using (picked i lt).not.mpr (Nat.not_lt_zero i)
          rw [List.drop_zero, List.filter_eq_self.mpr none]
      | succ k =>
          have first : p x = true := by simpa using head
          have shifted : ∀ i (lt : i < xs.length), p xs[i] = true ↔ i < k := fun i lt => by
            rw [rest i lt]
            omega
          rw [List.drop_succ_cons, List.filter_cons_of_neg (by simp [first]),
            List.drop_eq_filter_of_prefix p xs k shifted]

/-! ## The send window -/

section SendWindow

variable {β : Type} {n : ℕ}

/-- The sender's window: `pending` holds what was sent and not acknowledged,
labelled `base, base + 1, …`, as many elements as the distance from `base` to
`next`, and at most `size` of them. -/
structure SendWindow (label : β → ZMod n) (next base : ZMod n) (pending : List β) (size : ℕ) :
    Prop where
  length_eq : pending.length = (next - base).val
  length_le : pending.length ≤ size
  consecutive : Consecutive label base pending

namespace SendWindow

variable {label : β → ZMod n} {next base : ZMod n} {pending : List β} {size : ℕ}

/-- Nothing sent: the window is empty. -/
theorem empty (label : β → ZMod n) (next : ZMod n) (size : ℕ) :
    SendWindow label next next [] size where
  length_eq := by simp
  length_le := Nat.zero_le size
  consecutive := consecutive_nil label next

theorem length_lt [NeZero n] (window : SendWindow label next base pending size) :
    pending.length < n :=
  window.length_eq ▸ ZMod.val_lt _

/-- An acknowledgement frees no more than is pending exactly when it lies between
`base` and `next`. -/
theorem ack_le_length_iff (window : SendWindow label next base pending size) (ack : ZMod n) :
    (ack - base).val ≤ pending.length ↔ CyclicIcc base next ack := by
  rw [window.length_eq]
  rfl

/-- The `i`-th pending element is freed by `ack` exactly when its label lies from
`base` up to `ack`. -/
theorem acked_iff [NeZero n] (window : SendWindow label next base pending size) (ack : ZMod n)
    {i : ℕ} (lt : i < pending.length) :
    CyclicIco base ack (label pending[i]) ↔ i < (ack - base).val := by
  have labelled : label pending[i] = base + i := window.consecutive i lt
  unfold CyclicIco
  rw [labelled, val_add_natCast_sub_self base (lt.trans window.length_lt)]

/-- Freeing the first `(ack - base).val` elements frees exactly those labelled
from `base` up to `ack`. -/
theorem drop_eq_filter [NeZero n] (window : SendWindow label next base pending size)
    (ack : ZMod n) :
    pending.drop (ack - base).val =
      pending.filter fun x => !decide (CyclicIco base ack (label x)) :=
  List.drop_eq_filter_of_prefix _ pending _ fun i lt => by
    rw [decide_eq_true_iff]
    exact window.acked_iff ack lt

/-- **Acknowledging.**  An acceptable acknowledgement moves `base` to `ack`. -/
theorem ack [NeZero n] (window : SendWindow label next base pending size) {ack : ZMod n}
    (within : (ack - base).val ≤ pending.length) :
    SendWindow label next ack (pending.drop (ack - base).val) size where
  length_eq := by
    rw [List.length_drop, window.length_eq,
      val_sub_sub_of_le next base ack (window.length_eq ▸ within)]
  length_le := by
    rw [List.length_drop]
    exact (Nat.sub_le _ _).trans window.length_le
  consecutive := by
    have moved := window.consecutive.drop (ack - base).val
    rwa [add_natCast_val_sub] at moved

/-- **Sending.**  While the window is not full, and is smaller than the sequence
space, the next element can be sent under the label `next`. -/
theorem send [NeZero n] (window : SendWindow label next base pending size)
    (room : pending.length < size) (fits : size < n) {x : β} (numbered : label x = next) :
    SendWindow label (next + 1) base (pending ++ [x]) size where
  length_eq := by
    have step := val_sub_add_natCast next base 1 (by rw [← window.length_eq]; omega)
    rw [Nat.cast_one] at step
    rw [List.length_append, List.length_singleton, step, window.length_eq]
  length_le := by
    rw [List.length_append, List.length_singleton]
    exact room
  consecutive := window.consecutive.concat (by
    rw [numbered, window.length_eq, add_natCast_val_sub])

end SendWindow

end SendWindow

end Bluedroid.Theory
