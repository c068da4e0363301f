import Bluedroid.Theory.Ring
import Bluedroid.Theory.Transition
import Mathlib

/-!
# Osi.Ringbuffer -- ringbuffer.cc refines a bounded FIFO of octets

`ringbuffer_t` keeps `total` octets from `base`, a `head` and a `tail` pointer
into them (indices here), and the count `available` of free octets; full and
empty both have `head == tail`, and `available` tells them apart.  The
specification is `Fifo`, a queue of octets with a capacity, whose operations
say what the claim says of each call: `insert` appends what fits, `delete` and
`pop` drop from the front, `peek` reads a slice.

`Represents rb f` is the refinement: the `ringbuffer_size(rb)` octets from
`head`, wrapping at `total` (`Ring.window`), are `f`'s queue, and `tail` is
where they end.  `ringbufferInit` starts it, every call keeps it and returns
what the specification returns (`Represents.insert`, `Represents.delete`,
`Represents.peek`, `Represents.pop`), so over a whole run of calls the buffer
and the queue answer alike (`Represents.call`, with `Theory.replies_simulation`).

One comparison is in `size_t`: `ringbuffer_peek` tests
`offset + length > ringbuffer_size(rb)`, and the sum wraps at `2^64`.  With a
length within `2^64 - offset` of the top the test fails, and the function
copies `length` octets from a buffer that holds fewer
(`peek_copies_past_contents`); the refinement of `peek` asks the sum not to
wrap.
-/

namespace Bluedroid.Osi

open Bluedroid.Theory Bluedroid.Theory.Ring

set_option autoImplicit false

/-! ## The model -/

/-- `ringbuffer_t`, with `head` and `tail` as indices into `base`. -/
structure RingbufferT where
  total : ℕ
  available : ℕ
  base : List UInt8
  head : ℕ
  tail : ℕ
  deriving DecidableEq, Repr

/-- `size_t` wraps at `2^64`. -/
def sizeTModulus : ℕ := 2 ^ 64

/-- `ringbuffer_init(size)`: `osi_calloc` zeroes the octets. -/
def ringbufferInit (size : ℕ) : RingbufferT := ⟨size, size, List.replicate size 0, 0, 0⟩

/-- `ringbuffer_available(rb)`. -/
def ringbufferAvailable (rb : RingbufferT) : ℕ := rb.available

/-- `ringbuffer_size(rb)`. -/
def ringbufferSize (rb : RingbufferT) : ℕ := rb.total - rb.available

/-- `ringbuffer_insert(rb, p, length)`, with `p` the memory it points to: the
octets that fit, one at a time at `tail`. -/
def ringbufferInsert (rb : RingbufferT) (p : ℕ → UInt8) (length : ℕ) : RingbufferT × ℕ :=
  let length := if length > ringbufferAvailable rb then ringbufferAvailable rb else length
  let written := writeLoop p rb.total length rb.base rb.tail 0
  ({ rb with base := written.1, tail := written.2, available := rb.available - length }, length)

/-- `ringbuffer_delete(rb, length)`. -/
def ringbufferDelete (rb : RingbufferT) (length : ℕ) : RingbufferT × ℕ :=
  let length := if length > ringbufferSize rb then ringbufferSize rb else length
  ({ rb with head := wrapAdd rb.head length rb.total, available := rb.available + length }, length)

/-- `ringbuffer_peek(rb, offset, p, length)`: the octets copied to `p`; `none`
where `CHECK(offset <= ringbuffer_size(rb))` aborts. -/
def ringbufferPeek (rb : RingbufferT) (offset length : ℕ) : Option (List UInt8) :=
  if offset > ringbufferSize rb then none
  else
    let b := (rb.head + offset) % rb.total
    -- `offset + length` is computed in `size_t`
    let bytesToCopy :=
      if (offset + length) % sizeTModulus > ringbufferSize rb then ringbufferSize rb - offset else length
    some (readLoop rb.base rb.total bytesToCopy b)

/-- `ringbuffer_pop(rb, p, length)`: a peek at offset `0`, whose `CHECK`s hold,
then the head moved past what was copied. -/
def ringbufferPop (rb : RingbufferT) (length : ℕ) : RingbufferT × List UInt8 :=
  let copied := (ringbufferPeek rb 0 length).getD []
  ({ rb with head := wrapAdd rb.head copied.length rb.total, available := rb.available + copied.length }, copied)

/-! ## The specification -/

/-- A queue of octets that never holds more than its capacity. -/
structure Fifo where
  capacity : ℕ
  contents : List UInt8
  fits : contents.length ≤ capacity

namespace Fifo

def empty (capacity : ℕ) : Fifo := ⟨capacity, [], Nat.zero_le _⟩

theorem fits_append (f : Fifo) (p : ℕ → UInt8) {k : ℕ} (room : k ≤ f.capacity - f.contents.length) :
    (f.contents ++ (List.range k).map p).length ≤ f.capacity := by
  have := f.fits
  rw [List.length_append, List.length_map, List.length_range]
  omega

theorem fits_drop (f : Fifo) (k : ℕ) : (f.contents.drop k).length ≤ f.capacity := by
  have := f.fits
  rw [List.length_drop]
  omega

/-- Append the first `length` octets of `p` that fit; how many. -/
def insert (f : Fifo) (p : ℕ → UInt8) (length : ℕ) : Fifo × ℕ :=
  let k := min length (f.capacity - f.contents.length)
  (⟨f.capacity, f.contents ++ (List.range k).map p, f.fits_append p (Nat.min_le_right _ _)⟩, k)

/-- Drop up to `length` octets from the front; how many. -/
def delete (f : Fifo) (length : ℕ) : Fifo × ℕ :=
  let k := min length f.contents.length
  (⟨f.capacity, f.contents.drop k, f.fits_drop k⟩, k)

/-- The octets `offset` to `offset + length`, as far as the queue goes. -/
def peek (f : Fifo) (offset length : ℕ) : List UInt8 := (f.contents.drop offset).take length

/-- Up to `length` octets from the front, taken off. -/
def pop (f : Fifo) (length : ℕ) : Fifo × List UInt8 :=
  ((f.delete length).1, f.contents.take length)

theorem insert_contents (f : Fifo) (p : ℕ → UInt8) (length : ℕ) :
    (f.insert p length).1.contents = f.contents ++ (List.range (min length (f.capacity - f.contents.length))).map p :=
  rfl

theorem delete_contents (f : Fifo) (length : ℕ) :
    (f.delete length).1.contents = f.contents.drop (min length f.contents.length) := rfl

end Fifo

/-! ## The refinement -/

/-- The octets of `rb` from `head` on are the queue of `f`. -/
structure Represents (rb : RingbufferT) (f : Fifo) : Prop where
  total : rb.total = f.capacity
  positive : 0 < rb.total
  cells : rb.base.length = rb.total
  head : rb.head < rb.total
  available : rb.available ≤ rb.total
  size : ringbufferSize rb = f.contents.length
  tail : rb.tail = (rb.head + ringbufferSize rb) % rb.total
  contents : window rb.base rb.total rb.head (ringbufferSize rb) = f.contents

theorem represents_init {n : ℕ} (positive : 0 < n) : Represents (ringbufferInit n) (Fifo.empty n) where
  total := rfl
  positive := positive
  cells := List.length_replicate
  head := positive
  available := Nat.le_refl n
  size := Nat.sub_self n
  tail := by simp [ringbufferInit, ringbufferSize]
  contents := by simp [ringbufferInit, ringbufferSize, Fifo.empty, window]

variable {rb : RingbufferT} {f : Fifo}

/-- `ringbuffer_available(rb)` is the room left in the queue. -/
theorem Represents.available_eq (rep : Represents rb f) :
    ringbufferAvailable rb = f.capacity - f.contents.length := by
  have := rep.available
  rw [ringbufferAvailable, ← rep.total, ← rep.size, ringbufferSize]
  omega

theorem Represents.clamp_insert (rep : Represents rb f) (length : ℕ) :
    (if length > ringbufferAvailable rb then ringbufferAvailable rb else length) =
      min length (f.capacity - f.contents.length) := by
  rw [rep.available_eq]
  split_ifs <;> omega

/-- What `ringbuffer_insert` leaves: `k` octets written, with `k` the clamped
length. -/
theorem Represents.insert_eq (rep : Represents rb f) (p : ℕ → UInt8) {length k : ℕ}
    (clamped : k = min length (f.capacity - f.contents.length)) :
    ringbufferInsert rb p length =
      (⟨rb.total, rb.available - k, (writeLoop p rb.total k rb.base rb.tail 0).1, rb.head,
        (writeLoop p rb.total k rb.base rb.tail 0).2⟩, k) := by
  rw [ringbufferInsert, rep.clamp_insert length, ← clamped]

/-- **`ringbuffer_insert` appends what fits.** -/
theorem Represents.insert (rep : Represents rb f) (p : ℕ → UInt8) (length : ℕ) :
    (ringbufferInsert rb p length).2 = (f.insert p length).2 ∧
      Represents (ringbufferInsert rb p length).1 (f.insert p length).1 := by
  obtain ⟨k, clamped⟩ : ∃ k, k = min length (f.capacity - f.contents.length) := ⟨_, rfl⟩
  have room : k ≤ rb.available := by
    have available := rep.available_eq
    unfold ringbufferAvailable at available
    omega
  have fitsK : ringbufferSize rb + k ≤ rb.total := by
    have := rep.available
    unfold ringbufferSize
    omega
  obtain ⟨extended, cursor⟩ := window_writeLoop p rep.head k rb.base (ringbufferSize rb) 0 rep.cells fitsK
  rw [← rep.tail] at extended cursor
  have grown : rb.total - (rb.available - k) = ringbufferSize rb + k := by
    unfold ringbufferSize
    have := rep.available
    omega
  rw [rep.insert_eq p clamped]
  refine ⟨clamped, ⟨rep.total, rep.positive, ?_, rep.head, ?_, ?_, ?_, ?_⟩⟩
  · exact (length_writeLoop p _ _ _ _ _).trans rep.cells
  · exact Nat.le_trans (Nat.sub_le _ _) rep.available
  · show rb.total - (rb.available - k) = _
    rw [grown, rep.size, Fifo.insert_contents, ← clamped, List.length_append, List.length_map, List.length_range]
  · show _ = (rb.head + (rb.total - (rb.available - k))) % rb.total
    rw [grown, cursor, Nat.add_assoc]
  · show window _ rb.total rb.head (rb.total - (rb.available - k)) = _
    rw [grown, extended, rep.contents, Fifo.insert_contents, ← clamped]
    simp only [Nat.zero_add]

/-- What `ringbuffer_delete` leaves: the head `k` octets on, with `k` the clamped
length. -/
theorem Represents.delete_eq (rep : Represents rb f) {length k : ℕ} (clamped : k = min length f.contents.length) :
    ringbufferDelete rb length = (⟨rb.total, rb.available + k, rb.base, (rb.head + k) % rb.total, rb.tail⟩, k) := by
  have clamp : (if length > ringbufferSize rb then ringbufferSize rb else length) = k := by
    rw [rep.size, clamped]
    split_ifs <;> omega
  have kLe : k ≤ rb.total := by
    have := f.fits
    rw [rep.total]
    omega
  rw [ringbufferDelete, clamp, wrapAdd_eq_mod rep.head kLe]

/-- **`ringbuffer_delete` drops from the front.** -/
theorem Represents.delete (rep : Represents rb f) (length : ℕ) :
    (ringbufferDelete rb length).2 = (f.delete length).2 ∧
      Represents (ringbufferDelete rb length).1 (f.delete length).1 := by
  obtain ⟨k, clamped⟩ : ∃ k, k = min length f.contents.length := ⟨_, rfl⟩
  have kLe : k ≤ ringbufferSize rb := by rw [rep.size]; omega
  have shrunk : rb.total - (rb.available + k) = ringbufferSize rb - k := by
    unfold ringbufferSize
    omega
  rw [rep.delete_eq clamped]
  refine ⟨clamped, ⟨rep.total, rep.positive, rep.cells, Nat.mod_lt _ rep.positive, ?_, ?_, ?_, ?_⟩⟩
  · show rb.available + k ≤ rb.total
    have := rep.available
    unfold ringbufferSize at kLe
    omega
  · show rb.total - (rb.available + k) = _
    rw [shrunk, rep.size, Fifo.delete_contents, ← clamped, List.length_drop]
  · show rb.tail = ((rb.head + k) % rb.total + (rb.total - (rb.available + k))) % rb.total
    rw [shrunk, rep.tail, Nat.mod_add_mod, Nat.add_assoc, Nat.add_sub_cancel' kLe]
  · show window rb.base rb.total ((rb.head + k) % rb.total) (rb.total - (rb.available + k)) = _
    rw [shrunk, ← window_drop, rep.contents, Fifo.delete_contents, ← clamped]

/-- **`ringbuffer_peek` reads a slice**, when `offset + length` does not wrap in
`size_t`. -/
theorem Represents.peek (rep : Represents rb f) {offset length : ℕ} (inside : offset ≤ f.contents.length)
    (noWrap : offset + length < sizeTModulus) :
    ringbufferPeek rb offset length = some (f.peek offset length) := by
  have within : ¬offset > ringbufferSize rb := by rw [rep.size]; omega
  have clamp : (if offset + length > ringbufferSize rb then ringbufferSize rb - offset else length) =
      min length (ringbufferSize rb - offset) := by
    split_ifs <;> omega
  rw [ringbufferPeek, if_neg within, Nat.mod_eq_of_lt noWrap, clamp]
  show some (readLoop rb.base rb.total (min length (ringbufferSize rb - offset)) ((rb.head + offset) % rb.total)) = _
  rw [readLoop_eq_window _ _ _ (Nat.mod_lt _ rep.positive), Fifo.peek, ← rep.contents, window_drop, window_take]

/-- What `ringbuffer_pop` leaves: the buffer `ringbuffer_delete` leaves, and the
front of the queue. -/
theorem Represents.pop_eq (rep : Represents rb f) {length : ℕ} (fits : length < sizeTModulus) :
    ringbufferPop rb length = ((ringbufferDelete rb length).1, f.contents.take length) := by
  obtain ⟨k, clamped⟩ : ∃ k, k = min length f.contents.length := ⟨_, rfl⟩
  have kLe : k ≤ rb.total := by
    have := f.fits
    rw [rep.total]
    omega
  have peeked := rep.peek (Nat.zero_le _) (show 0 + length < sizeTModulus by omega)
  have copied : (f.contents.take length).length = k := by rw [List.length_take, clamped, Nat.min_comm]
  rw [Fifo.peek, List.drop_zero] at peeked
  rw [rep.delete_eq clamped, ringbufferPop, peeked, Option.getD_some, copied, wrapAdd_eq_mod rep.head kLe]

/-- **`ringbuffer_pop` is a peek at the front, then a delete.** -/
theorem Represents.pop (rep : Represents rb f) {length : ℕ} (fits : length < sizeTModulus) :
    (ringbufferPop rb length).2 = (f.pop length).2 ∧ Represents (ringbufferPop rb length).1 (f.pop length).1 := by
  rw [rep.pop_eq fits]
  exact ⟨rfl, (rep.delete length).2⟩

/-! ## Runs of calls -/

/-- A call of the ringbuffer API. -/
inductive RingbufferCall where
  | insert (p : ℕ → UInt8) (length : ℕ)
  | delete (length : ℕ)
  | peek (offset length : ℕ)
  | pop (length : ℕ)

/-- What a call returns: a count, or the octets copied out (`none` for a failed
`CHECK`). -/
inductive RingbufferReply where
  | count (n : ℕ)
  | octets (bytes : Option (List UInt8))
  deriving DecidableEq, Repr

/-- One call on the buffer. -/
def ringbufferCall (rb : RingbufferT) : RingbufferCall → RingbufferT × RingbufferReply
  | .insert p length => ((ringbufferInsert rb p length).1, .count (ringbufferInsert rb p length).2)
  | .delete length => ((ringbufferDelete rb length).1, .count (ringbufferDelete rb length).2)
  | .peek offset length => (rb, .octets (ringbufferPeek rb offset length))
  | .pop length => ((ringbufferPop rb length).1, .octets (some (ringbufferPop rb length).2))

/-- One call on the queue; a peek past the end is refused, as the `CHECK` does. -/
def Fifo.call (f : Fifo) : RingbufferCall → Fifo × RingbufferReply
  | .insert p length => ((f.insert p length).1, .count (f.insert p length).2)
  | .delete length => ((f.delete length).1, .count (f.delete length).2)
  | .peek offset length =>
    (f, .octets (if offset ≤ f.contents.length then some (f.peek offset length) else none))
  | .pop length => ((f.pop length).1, .octets (some (f.pop length).2))

/-- The lengths of a call are `size_t` values, and a peek's `offset + length`
does not wrap. -/
def NoSizeTWrap : RingbufferCall → Prop
  | .peek offset length => offset + length < sizeTModulus
  | .pop length => length < sizeTModulus
  | _ => True

theorem Represents.peek_none (rep : Represents rb f) {offset : ℕ} (length : ℕ) (past : ¬offset ≤ f.contents.length) :
    ringbufferPeek rb offset length = none := by
  rw [ringbufferPeek, if_pos (by rw [rep.size]; omega)]

/-- **Every call keeps the refinement and answers as the queue does.** -/
theorem Represents.call (rep : Represents rb f) (c : RingbufferCall) (sized : NoSizeTWrap c) :
    (ringbufferCall rb c).2 = (f.call c).2 ∧ Represents (ringbufferCall rb c).1 (f.call c).1 := by
  cases c with
  | insert p length =>
    obtain ⟨same, next⟩ := rep.insert p length
    exact ⟨congrArg RingbufferReply.count same, next⟩
  | delete length =>
    obtain ⟨same, next⟩ := rep.delete length
    exact ⟨congrArg RingbufferReply.count same, next⟩
  | peek offset length =>
    refine ⟨?_, rep⟩
    show RingbufferReply.octets _ = RingbufferReply.octets _
    split_ifs with inside
    · rw [rep.peek inside sized]
    · rw [rep.peek_none length inside]
  | pop length =>
    obtain ⟨same, next⟩ := rep.pop sized
    exact ⟨congrArg (RingbufferReply.octets ∘ some) same, next⟩

theorem Fifo.capacity_call (f : Fifo) (c : RingbufferCall) : (f.call c).1.capacity = f.capacity := by
  cases c <;> rfl

theorem ringbuffer_refines_fifo {n : ℕ} (positive : 1 ≤ n) (calls : List RingbufferCall)
    (sized : ∀ c ∈ calls, NoSizeTWrap c) :
    (replies ringbufferCall (ringbufferInit n) calls).2 = (replies Fifo.call (Fifo.empty n) calls).2 ∧
      Represents (replies ringbufferCall (ringbufferInit n) calls).1 (replies Fifo.call (Fifo.empty n) calls).1 ∧
      ringbufferSize (replies ringbufferCall (ringbufferInit n) calls).1 =
        (replies Fifo.call (Fifo.empty n) calls).1.contents.length ∧
      (replies Fifo.call (Fifo.empty n) calls).1.contents.length ≤ n ∧
      ringbufferAvailable (replies ringbufferCall (ringbufferInit n) calls).1 =
        n - (replies Fifo.call (Fifo.empty n) calls).1.contents.length := by
  -- the refinement, with the queue's capacity fixed at `n`
  obtain ⟨same, rep, capacity⟩ := replies_simulation (fun rb f => Represents rb f ∧ f.capacity = n) NoSizeTWrap
    (fun _ f c allowed related => by
      obtain ⟨answer, next⟩ := related.1.call c allowed
      exact ⟨answer, next, (f.capacity_call c).trans related.2⟩)
    calls _ _ sized ⟨represents_init positive, rfl⟩
  have fits := (replies Fifo.call (Fifo.empty n) calls).1.fits
  rw [capacity] at fits
  refine ⟨same, rep, rep.size, fits, ?_⟩
  rw [rep.available_eq, capacity]

theorem ringbuffer_refines_fifo_insert_pop :
    (replies ringbufferCall (ringbufferInit 2) [.insert (fun i => UInt8.ofNat i) 3, .pop 1]).2 =
      [.count 2, .octets (some [0])] := by
  rw [(ringbuffer_refines_fifo (by decide) [.insert (fun i => UInt8.ofNat i) 3, .pop 1]
    (by simp [NoSizeTWrap, sizeTModulus])).1]
  rfl

/-- When `offset + length` wraps in `size_t` to at most the size, `ringbuffer_peek`
copies `length` octets, whatever the buffer holds. -/
theorem ringbufferPeek_of_wrap {offset length : ℕ} (inside : offset ≤ ringbufferSize rb)
    (wrapped : (offset + length) % sizeTModulus ≤ ringbufferSize rb) :
    (ringbufferPeek rb offset length).map List.length = some length := by
  rw [ringbufferPeek, if_neg (by omega)]
  simp only [if_neg (Nat.not_lt.mpr wrapped), Option.map_some, length_readLoop]

/-- A buffer of two octets holding two: a peek from offset `1` of `2^64 - 1`
octets copies `2^64 - 1` of them, where the queue holds one after the offset. -/
theorem peek_copies_past_contents :
    (ringbufferPeek (ringbufferInsert (ringbufferInit 2) (fun _ => 7) 2).1 1 (sizeTModulus - 1)).map List.length =
        some (sizeTModulus - 1) ∧
      (((Fifo.empty 2).insert (fun _ => 7) 2).1.peek 1 (sizeTModulus - 1)).length = 1 :=
  ⟨ringbufferPeek_of_wrap (by decide) (by decide), by decide⟩

end Bluedroid.Osi
