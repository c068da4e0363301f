import Mathlib
import Bluedroid.Packet.EndianInserter
import Bluedroid.Theory.Transition

/-!
# Packet.PacketView -- a packet as fragments of shared vectors

A GD `PacketView` does not copy: it is a forward list of `View`s, each the
bytes `begin_` to `end_` of a shared vector, and its `length_`.  Every
operation walks the fragments: `at` and the iterator's `operator*` subtract
fragment sizes until the index falls inside one, `GetSubviewList` cuts the
first and the last fragment of a range, and `Append` looks for the fragment
that holds the last byte and inserts the new fragments after it.  An `Iterator`
keeps the fragments, an unbounded index, and a window `begin_` to `end_` that
`Subrange` narrows.

A view stands for the bytes of its fragments, one after another (`bytes`), and
each operation is the list operation on them: `at` is indexing (`atIndex_eq`),
a subview is a slice (`getSubviewList_bytes`), and `Append` concatenates
(`append_bytes`) -- for a view with at least one fragment.  A view with none,
such as the empty subview at the end of any view, fails `Append`'s
`ASSERT(insertion_point != fragments_.end())` (`append_nil`).

An iterator stands for its `window`: the bytes from its index to the end of
its window.  `operator*` reads the window's first byte, `operator++` drops it,
`NumBytesRemaining` is its length, `Subrange(i, l)` is its slice from `i` of
`l` bytes (`subrange_spec`), and `extract` reads a field off its front
(`extract_eq`): a run of `extract`'s loop maps, step by step, to the loop over
the plain byte list of `Packet.EndianInserter` (`extract_refines`).
-/

namespace Bluedroid.Packet

set_option autoImplicit false

/-! ## Views -/

/-- The clamp of the `View` constructors, `x < n ? x : n`. -/
theorem clamp_eq_min (x n : ℕ) : (if x < n then x else n) = min x n := by
  split <;> omega

/-- A `View`: the bytes `beginIndex` to `endIndex` of a shared vector. -/
structure View where
  data : List UInt8
  beginIndex : ℕ
  endIndex : ℕ
  begin_le_end : beginIndex ≤ endIndex
  end_le_length : endIndex ≤ data.length

namespace View

/-- `View(data, begin, end)`, which clamps both ends to the vector. -/
def ofVector (data : List UInt8) (b e : ℕ) (ordered : b ≤ e) : View where
  data := data
  beginIndex := if b < data.length then b else data.length
  endIndex := if e < data.length then e else data.length
  begin_le_end := by simp only [clamp_eq_min]; omega
  end_le_length := by simp only [clamp_eq_min]; omega

/-- `View::size`. -/
def size (view : View) : ℕ := view.endIndex - view.beginIndex

/-- `View(view, begin, end)`: a view inside a view, both ends clamped to it. -/
def sub (view : View) (b e : ℕ) (ordered : b ≤ e) : View where
  data := view.data
  beginIndex := (if b < view.size then b else view.size) + view.beginIndex
  endIndex := (if e < view.size then e else view.size) + view.beginIndex
  begin_le_end := by simp only [clamp_eq_min]; omega
  end_le_length := by
    have := view.begin_le_end
    have := view.end_le_length
    have : view.size = view.endIndex - view.beginIndex := rfl
    simp only [clamp_eq_min]
    omega

/-- `View::operator[]`, which asserts that the index is inside the view. -/
def get (view : View) (i : ℕ) : Option UInt8 :=
  if i + view.beginIndex < view.endIndex then view.data[i + view.beginIndex]? else none

/-- The bytes a view stands for. -/
def bytes (view : View) : List UInt8 := (view.data.take view.endIndex).drop view.beginIndex

@[simp] theorem length_bytes (view : View) : view.bytes.length = view.size := by
  have := view.end_le_length
  simp only [bytes, size, List.length_drop, List.length_take]
  omega

theorem get_eq (view : View) (i : ℕ) : view.get i = view.bytes[i]? := by
  simp only [get, bytes, List.getElem?_drop, List.getElem?_take]
  by_cases inside : i + view.beginIndex < view.endIndex
  · rw [if_pos inside, if_pos (by omega), Nat.add_comm]
  · rw [if_neg inside, if_neg (by omega)]

theorem bytes_ofVector (data : List UInt8) (b e : ℕ) (ordered : b ≤ e) :
    (ofVector data b e ordered).bytes = (data.take e).drop b := by
  apply List.ext_getElem?
  intro i
  simp only [bytes, ofVector, clamp_eq_min, List.getElem?_drop, List.getElem?_take]
  split_ifs <;> first | rfl | omega | (congr 1; omega) | exact (List.getElem?_eq_none (by omega)).symm

/-- The bytes of a view inside a view are a slice of the outer view's. -/
theorem bytes_sub (view : View) (b e : ℕ) (ordered : b ≤ e) :
    (view.sub b e ordered).bytes = (view.bytes.take e).drop b := by
  have := view.begin_le_end
  have : view.size = view.endIndex - view.beginIndex := rfl
  apply List.ext_getElem?
  intro i
  simp only [bytes, sub, clamp_eq_min, List.getElem?_drop, List.getElem?_take]
  split_ifs <;> first | rfl | omega | (congr 1; omega)

end View

/-! ## Packet views -/

/-- A `PacketView<little_endian>`: its fragments, and `length_`, which every
constructor and `Append` keep equal to the sum of their sizes. -/
structure PacketView where
  littleEndian : Bool
  fragments : List View
  length : ℕ
  length_eq : length = (fragments.map View.size).sum

/-- The loop that `PacketView::at` and `Iterator::operator*` share: subtract the
sizes of the fragments before the one that holds the index; `none` where the
fragments run out (the `ASSERT_LOG`). -/
def fragmentsAt : List View → ℕ → Option UInt8
  | [], _ => none
  | fragment :: fragments, index =>
    if index < fragment.size then fragment.get index else fragmentsAt fragments (index - fragment.size)

/-- The loop of `GetSubviewList`: skip the fragments before `b`, then cut from
each the bytes still wanted, `length` in all; every fragment from the first one
cut on gives a view, of no bytes once `length` is used up. -/
def subviewLoop : List View → ℕ → ℕ → List View
  | [], _, _ => []
  | fragment :: fragments, b, length =>
    if b ≥ fragment.size then subviewLoop fragments (b - fragment.size) length
    else
      let view := fragment.sub b (b + min length (fragment.size - b)) (Nat.le_add_right _ _)
      view :: subviewLoop fragments 0 (length - view.size)

/-- The loop of `Append`, at the fragment `insertion_point` with
`remaining_length` bytes not passed yet: the fragments up to the one it stops
at, and those after it.  `none` where it would pass the last fragment; with no
fragment at all that is the `ASSERT(insertion_point != fragments_.end())`. -/
def insertionPoint : List View → ℕ → Option (List View × List View)
  | [], _ => none
  | fragment :: fragments, remainingLength =>
    if remainingLength > 0 then
      let remainingLength := remainingLength - fragment.size
      if remainingLength > 0 then
        (insertionPoint fragments remainingLength).map fun found => (fragment :: found.1, found.2)
      else some ([fragment], fragments)
    else some ([fragment], fragments)

/-- The fragments found are the fragments, cut in two. -/
theorem insertionPoint_append {fragments : List View} {remainingLength : ℕ}
    {upTo after : List View} (found : insertionPoint fragments remainingLength = some (upTo, after)) :
    upTo ++ after = fragments := by
  induction fragments generalizing remainingLength upTo with
  | nil => simp [insertionPoint] at found
  | cons fragment fragments ih =>
    unfold insertionPoint at found
    dsimp only at found
    split_ifs at found
    case pos =>
      -- the loop went on past this fragment
      obtain ⟨⟨upTo', after'⟩, rest, same⟩ := Option.map_eq_some_iff.mp found
      cases same
      rw [List.cons_append, ih rest]
    all_goals
      cases found
      rfl

namespace PacketView

/-- `PacketView(fragments)`. -/
def ofFragments (littleEndian : Bool) (fragments : List View) : PacketView :=
  ⟨littleEndian, fragments, (fragments.map View.size).sum, rfl⟩

/-- `PacketView(packet)`: one fragment, the whole vector. -/
def ofPacket (littleEndian : Bool) (packet : List UInt8) : PacketView where
  littleEndian := littleEndian
  fragments := [View.ofVector packet 0 packet.length (Nat.zero_le _)]
  length := packet.length
  length_eq := by
    simp only [List.map_cons, List.map_nil, List.sum_cons, List.sum_nil, View.size, View.ofVector]
    split_ifs <;> omega

/-- `PacketView::size`. -/
def size (v : PacketView) : ℕ := v.length

/-- `PacketView::at`, which asserts that the index is inside the view (`at` is
a keyword of Lean). -/
def atIndex (v : PacketView) (index : ℕ) : Option UInt8 :=
  if index < v.length then fragmentsAt v.fragments index else none

/-- `PacketView::GetSubviewList`, which asserts `begin <= end <= length_`. -/
def getSubviewList (v : PacketView) (b e : ℕ) : Option (List View) :=
  if b ≤ e ∧ e ≤ v.length then some (subviewLoop v.fragments b (e - b)) else none

/-- `PacketView::GetLittleEndianSubview`. -/
def getLittleEndianSubview (v : PacketView) (b e : ℕ) : Option PacketView :=
  (v.getSubviewList b e).map (ofFragments true)

/-- `PacketView::GetBigEndianSubview`. -/
def getBigEndianSubview (v : PacketView) (b e : ℕ) : Option PacketView :=
  (v.getSubviewList b e).map (ofFragments false)

/-- `PacketView::Append`: the fragments of `toAdd` go in, in order, after the
fragment the loop stops at. -/
def append (v toAdd : PacketView) : Option PacketView :=
  match found : insertionPoint v.fragments v.length with
  | none => none
  | some (upTo, after) => some
    { littleEndian := v.littleEndian
      fragments := upTo ++ toAdd.fragments ++ after
      length := v.length + toAdd.length
      length_eq := by
        rw [v.length_eq, toAdd.length_eq, ← insertionPoint_append found]
        simp only [List.map_append, List.sum_append]
        omega }

end PacketView

/-! ## Iterators -/

/-- An `Iterator<little_endian>`: the fragments it reads, its unbounded index,
and the window `beginIndex` to `endIndex` it may read in. -/
structure ViewIterator where
  littleEndian : Bool
  data : List View
  index : ℕ
  beginIndex : ℕ
  endIndex : ℕ

namespace ViewIterator

/-- `Iterator(data, offset)`: the window is every byte of the fragments. -/
def new (littleEndian : Bool) (data : List View) (offset : ℕ) : ViewIterator :=
  ⟨littleEndian, data, offset, 0, (data.map View.size).sum⟩

/-- `Iterator::operator++`. -/
def next (it : ViewIterator) : ViewIterator := { it with index := it.index + 1 }

/-- `Iterator::operator*`, which asserts that the index is inside the window. -/
def deref (it : ViewIterator) : Option UInt8 :=
  if it.index < it.endIndex ∧ ¬it.beginIndex > it.index then fragmentsAt it.data it.index else none

/-- `Iterator::NumBytesRemaining`. -/
def numBytesRemaining (it : ViewIterator) : ℕ :=
  if it.endIndex > it.index ∧ ¬it.beginIndex > it.index then it.endIndex - it.index else 0

/-- `Iterator::Subrange(index, length)`. -/
def subrange (it : ViewIterator) (index length : ℕ) : ViewIterator :=
  if it.numBytesRemaining > index then
    let moved := { it with index := it.index + index, beginIndex := it.index + index }
    if moved.numBytesRemaining ≥ length then { moved with endIndex := moved.index + length }
    else moved
  else { it with endIndex := 0 }

/-- One pass of the loop of `extract`. -/
def extractStep (littleEndian : Bool) (size : ℕ) (acc : List UInt8 × ViewIterator) (i : ℕ) :
    Option (List UInt8 × ViewIterator) := do
  let index := Iterator.extractIndex littleEndian size i
  let byte ← acc.2.deref
  pure (acc.1.set index byte, acc.2.next)

/-- `Iterator<little_endian>::extract<T>()` of a POD of `size` bytes: its object
representation, and the iterator past it. -/
def extract (size : ℕ) (it : ViewIterator) : Option (List UInt8 × ViewIterator) :=
  (List.range size).foldlM (extractStep it.littleEndian size) (List.replicate size 0, it)

end ViewIterator

/-- `PacketView::begin`. -/
def PacketView.begin (v : PacketView) : ViewIterator := ViewIterator.new v.littleEndian v.fragments 0

/-! ## What a view stands for -/

/-- The bytes of fragments, one after another. -/
def fragmentBytes (fragments : List View) : List UInt8 := fragments.flatMap View.bytes

@[simp] theorem fragmentBytes_nil : fragmentBytes [] = [] := rfl

@[simp] theorem fragmentBytes_cons (fragment : View) (fragments : List View) :
    fragmentBytes (fragment :: fragments) = fragment.bytes ++ fragmentBytes fragments := rfl

@[simp] theorem fragmentBytes_append (fragments fragments' : List View) :
    fragmentBytes (fragments ++ fragments') = fragmentBytes fragments ++ fragmentBytes fragments' :=
  List.flatMap_append

@[simp] theorem length_fragmentBytes (fragments : List View) :
    (fragmentBytes fragments).length = (fragments.map View.size).sum := by
  induction fragments with
  | nil => rfl
  | cons fragment fragments ih => simp [ih]

/-- The fragment walk reads the byte at the index of the bytes. -/
theorem fragmentsAt_eq (fragments : List View) (index : ℕ) :
    fragmentsAt fragments index = (fragmentBytes fragments)[index]? := by
  induction fragments generalizing index with
  | nil => rfl
  | cons fragment fragments ih =>
    rw [fragmentsAt, fragmentBytes_cons, View.get_eq]
    split
    case isTrue inside =>
      rw [List.getElem?_append_left (by rw [View.length_bytes]; exact inside)]
    case isFalse past =>
      rw [List.getElem?_append_right (by rw [View.length_bytes]; omega), View.length_bytes, ih]

/-- The cut of `GetSubviewList` is the slice of `length` bytes from `b`. -/
theorem fragmentBytes_subviewLoop (fragments : List View) (b length : ℕ) :
    fragmentBytes (subviewLoop fragments b length) = ((fragmentBytes fragments).drop b).take length := by
  induction fragments generalizing b length with
  | nil => simp [subviewLoop]
  | cons fragment fragments ih =>
    rw [subviewLoop, fragmentBytes_cons]
    split
    case isTrue skipped =>
      -- the slice starts past this fragment
      have gone : fragment.bytes.drop b = [] :=
        List.drop_eq_nil_of_le (by rw [View.length_bytes]; exact skipped)
      rw [ih, List.drop_append, gone, List.nil_append, View.length_bytes]
    case isFalse cut =>
      -- the slice starts inside this fragment: its part here, then the rest from the next
      have here : (fragment.bytes.drop b).length = fragment.size - b := by
        rw [List.length_drop, View.length_bytes]
      have cutSize : (fragment.sub b (b + min length (fragment.size - b)) (Nat.le_add_right _ _)).size =
          min length (fragment.size - b) := by
        rw [← View.length_bytes, View.bytes_sub, List.length_drop, List.length_take, View.length_bytes]
        omega
      rw [fragmentBytes_cons, View.bytes_sub, cutSize, ih, List.drop_zero, List.drop_take,
        Nat.add_sub_cancel_left, List.drop_append_of_le_length (by rw [View.length_bytes]; omega),
        List.take_append, here]
      congr 1
      · rw [List.take_eq_take_iff, here]
        omega
      · congr 1
        omega

/-- Past the fragment the loop of `Append` stops at, only empty fragments are
left. -/
theorem insertionPoint_sum {fragments : List View} (nonempty : fragments ≠ []) :
    ∃ upTo after, insertionPoint fragments (fragments.map View.size).sum = some (upTo, after) ∧
      fragmentBytes after = [] := by
  induction fragments with
  | nil => exact absurd rfl nonempty
  | cons fragment fragments ih =>
    have noBytes : (fragments.map View.size).sum = 0 → fragmentBytes fragments = [] := fun zero =>
      List.eq_nil_of_length_eq_zero (by rw [length_fragmentBytes, zero])
    unfold insertionPoint
    simp only [List.map_cons, List.sum_cons, Nat.add_sub_cancel_left]
    split_ifs with passing rest
    case pos =>
      -- bytes remain after this fragment: the loop goes on to the next
      obtain ⟨upTo, after, found, empty⟩ := ih (by rintro rfl; simp at rest)
      exact ⟨fragment :: upTo, after, by rw [found, Option.map_some], empty⟩
    case neg => exact ⟨[fragment], fragments, rfl, noBytes (by omega)⟩
    case neg => exact ⟨[fragment], fragments, rfl, noBytes (by omega)⟩

namespace PacketView

/-- The bytes a packet view stands for. -/
def bytes (v : PacketView) : List UInt8 := fragmentBytes v.fragments

theorem size_eq (v : PacketView) : v.size = v.bytes.length := by
  rw [size, bytes, length_fragmentBytes, v.length_eq]

theorem bytes_ofFragments (littleEndian : Bool) (fragments : List View) :
    (ofFragments littleEndian fragments).bytes = fragmentBytes fragments := rfl

theorem bytes_ofPacket (littleEndian : Bool) (packet : List UInt8) :
    (ofPacket littleEndian packet).bytes = packet := by
  simp [bytes, ofPacket, View.bytes_ofVector]

/-- `at` reads the byte at the index of the bytes; past them it asserts. -/
theorem atIndex_eq (v : PacketView) (index : ℕ) : v.atIndex index = v.bytes[index]? := by
  rw [atIndex, fragmentsAt_eq]
  split
  case isTrue inside => rfl
  case isFalse past =>
    rw [List.getElem?_eq_none (by rw [← size_eq]; exact Nat.le_of_not_lt past)]

/-- A range inside the view gives the fragments whose bytes are its slice. -/
theorem getSubviewList_bytes (v : PacketView) {b e : ℕ} (ordered : b ≤ e) (inside : e ≤ v.size) :
    ∃ views, v.getSubviewList b e = some views ∧ fragmentBytes views = (v.bytes.take e).drop b := by
  refine ⟨_, if_pos ⟨ordered, inside⟩, ?_⟩
  rw [fragmentBytes_subviewLoop, List.drop_take]
  rfl

/-- With at least one fragment, `Append` concatenates the bytes. -/
theorem append_bytes (v toAdd : PacketView) (hasFragment : v.fragments ≠ []) :
    ∃ v', v.append toAdd = some v' ∧ v'.bytes = v.bytes ++ toAdd.bytes := by
  obtain ⟨upTo, after, found, noBytes⟩ := insertionPoint_sum hasFragment
  rw [← v.length_eq] at found
  unfold append
  split
  case h_1 none =>
    rw [found] at none
    cases none
  case h_2 upTo' after' found' =>
    rw [found] at found'
    cases found'
    refine ⟨_, rfl, ?_⟩
    dsimp only [bytes]
    rw [← insertionPoint_append found]
    simp only [fragmentBytes_append, noBytes, List.append_nil]

/-- With no fragment, `Append` fails its `ASSERT`. -/
theorem append_nil (v toAdd : PacketView) (noFragment : v.fragments = []) :
    v.append toAdd = none := by
  unfold append
  split
  case h_1 => rfl
  case h_2 upTo after found =>
    rw [noFragment, insertionPoint] at found
    cases found

end PacketView

/-! ## What an iterator stands for -/

namespace ViewIterator

/-- The bytes an iterator may still read: from its index to the end of its
window. -/
def window (it : ViewIterator) : List UInt8 := ((fragmentBytes it.data).take it.endIndex).drop it.index

/-- The iterator over a plain byte list that `extract`'s loop maps to. -/
def toIterator (it : ViewIterator) : Iterator := ⟨(fragmentBytes it.data).take it.endIndex, it.index⟩

/-- The index is not before the window, and the window ends inside the bytes. -/
structure Wf (it : ViewIterator) : Prop where
  begin_le_index : it.beginIndex ≤ it.index
  end_le_length : it.endIndex ≤ (fragmentBytes it.data).length

theorem deref_eq_toIterator {it : ViewIterator} (begins : it.beginIndex ≤ it.index) :
    it.deref = it.toIterator.deref := by
  rw [deref, Iterator.deref, toIterator, List.getElem?_take, fragmentsAt_eq]
  by_cases inside : it.index < it.endIndex
  · rw [if_pos ⟨inside, by omega⟩, if_pos inside]
  · rw [if_neg (fun both => inside both.1), if_neg inside]

/-- `operator*` reads the first byte of the window. -/
theorem deref_eq_window {it : ViewIterator} (begins : it.beginIndex ≤ it.index) :
    it.deref = it.window[0]? := by
  rw [deref_eq_toIterator begins, window, List.getElem?_drop, Nat.add_zero]
  rfl

/-- `NumBytesRemaining` is the length of the window. -/
theorem numBytesRemaining_eq {it : ViewIterator} (wf : it.Wf) :
    it.numBytesRemaining = it.window.length := by
  have := wf.begin_le_index
  have := wf.end_le_length
  simp only [numBytesRemaining, window, List.length_drop, List.length_take]
  split_ifs <;> omega

theorem iterate_next (it : ViewIterator) (j : ℕ) : next^[j] it = { it with index := it.index + j } := by
  induction j with
  | zero => rfl
  | succ j ih => rw [Function.iterate_succ_apply', ih, next, Nat.add_assoc]

/-- `operator++`, any number of times, drops the first bytes of the window. -/
theorem iterate_next_spec {it : ViewIterator} (wf : it.Wf) (j : ℕ) :
    (next^[j] it).Wf ∧ (next^[j] it).window = it.window.drop j := by
  rw [iterate_next]
  exact ⟨⟨by have := wf.begin_le_index; dsimp only; omega, wf.end_le_length⟩, List.drop_drop.symm⟩

/-- Every byte of the window, read by `operator*` after `operator++`s. -/
theorem deref_iterate_next {it : ViewIterator} (wf : it.Wf) (j : ℕ) :
    (next^[j] it).deref = it.window[j]? := by
  obtain ⟨wf', window'⟩ := iterate_next_spec wf j
  rw [deref_eq_window wf'.begin_le_index, window', List.getElem?_drop, Nat.add_zero]

/-- `Subrange(index, length)` keeps the invariant and narrows the window to its
slice of `length` bytes from `index`; to nothing when `index` is past it. -/
theorem subrange_spec {it : ViewIterator} (wf : it.Wf) (index length : ℕ) :
    (it.subrange index length).Wf ∧
      (it.subrange index length).window = (it.window.drop index).take length := by
  have remaining := numBytesRemaining_eq wf
  have begins := wf.begin_le_index
  have ends := wf.end_le_length
  simp only [window, List.length_drop, List.length_take] at remaining
  unfold subrange
  split
  case isTrue inside =>
    -- the window now starts `index` bytes on
    have movedRemaining : ({ it with index := it.index + index, beginIndex := it.index + index } :
        ViewIterator).numBytesRemaining = it.endIndex - (it.index + index) := by
      simp only [numBytesRemaining]
      split_ifs <;> omega
    dsimp only
    simp only [movedRemaining]
    split
    case isTrue room =>
      -- `length` bytes are left: the window ends after them
      refine ⟨⟨Nat.le_refl _, by dsimp only; omega⟩, ?_⟩
      simp only [window, List.drop_drop, List.drop_take, List.take_take]
      congr 2
      omega
    case isFalse short =>
      -- fewer than `length` bytes are left: the window keeps its end
      refine ⟨⟨Nat.le_refl _, ends⟩, ?_⟩
      have few : ((((fragmentBytes it.data).take it.endIndex).drop it.index).drop index).length ≤ length := by
        simp only [List.length_drop, List.length_take]
        omega
      simp only [window]
      rw [List.take_of_length_le few, List.drop_drop]
  case isFalse past =>
    -- `index` is past the window: the window is emptied
    refine ⟨⟨begins, Nat.zero_le _⟩, ?_⟩
    simp only [window, List.take_zero, List.drop_nil]
    rw [List.drop_eq_nil_of_le (by simp only [List.length_drop, List.length_take]; omega), List.take_nil]

/-- Past `extract`'s loop, the iterator is the one it started from, moved on. -/
def Moved (it : ViewIterator) (acc : List UInt8 × ViewIterator) : Prop :=
  ∃ index, acc.2 = { it with index := index } ∧ it.beginIndex ≤ index

/-- A run of `extract`'s loop is, through `toIterator`, the loop over the plain
bytes of the window; the iterator only moves on. -/
theorem extract_refines {it : ViewIterator} (begins : it.beginIndex ≤ it.index) (size : ℕ) :
    (it.extract size).map (fun acc => (acc.1, acc.2.toIterator)) =
        Iterator.extract it.littleEndian size it.toIterator ∧
      ∀ acc ∈ it.extract size, Moved it acc := by
  rw [extract, Iterator.extract, Theory.foldlM_eq_run, Theory.foldlM_eq_run]
  refine Theory.run_simulation _ (Moved it) ?sim ?keeps _ _ ⟨it.index, rfl, begins⟩
  case sim =>
    -- one pass reads the same byte, inside the window, and moves both iterators on
    rintro ⟨acc, moved⟩ i ⟨index, rfl, after⟩
    have inWindow : ({ it with index := index } : ViewIterator).deref =
        ({ it with index := index } : ViewIterator).toIterator.deref :=
      deref_eq_toIterator after
    simp only [extractStep, Iterator.extractStep, inWindow]
    cases ({ it with index := index } : ViewIterator).toIterator.deref <;> rfl
  case keeps =>
    rintro ⟨acc, moved⟩ i ⟨acc', moved'⟩ ⟨index, rfl, after⟩ stepped
    simp only [extractStep] at stepped
    cases byte : ViewIterator.deref _ <;> rw [byte] at stepped <;> cases stepped
    exact ⟨index + 1, rfl, by omega⟩

/-- `extract` of a field inside the window reads its bytes in the iterator's
endianness, and moves past them. -/
theorem extract_eq {it : ViewIterator} (wf : it.Wf) {size : ℕ} (fits : it.index + size ≤ it.endIndex) :
    it.extract size = some (EndianInserter.ordered it.littleEndian (it.window.take size), next^[size] it) := by
  obtain ⟨mapped, moved⟩ := extract_refines wf.begin_le_index size
  have inside : it.toIterator.index + size ≤ it.toIterator.data.length := by
    have := wf.end_le_length
    simp only [toIterator, List.length_take]
    omega
  rw [Iterator.extract_eq_ordered _ _ inside] at mapped
  obtain ⟨⟨bytes, it'⟩, ran, same⟩ := Option.map_eq_some_iff.mp mapped
  obtain ⟨index, rfl, _⟩ := moved _ ran
  simp only [Prod.mk.injEq, toIterator, Iterator.mk.injEq] at same
  obtain ⟨rfl, -, rfl⟩ := same
  rw [ran, iterate_next]
  rfl

theorem wf_new (littleEndian : Bool) (data : List View) (offset : ℕ) :
    (new littleEndian data offset).Wf :=
  ⟨Nat.zero_le _, by simp [new]⟩

theorem window_new (littleEndian : Bool) (data : List View) (offset : ℕ) :
    (new littleEndian data offset).window = (fragmentBytes data).drop offset := by
  rw [window, new, List.take_of_length_le (by rw [length_fragmentBytes])]

end ViewIterator

/-- The iterator `operator++` moves `k` bytes on from `begin()` is the one at
offset `k`, over the bytes from there. -/
theorem PacketView.iterate_next_begin (v : PacketView) (k : ℕ) :
    ViewIterator.next^[k] v.begin = ViewIterator.new v.littleEndian v.fragments k ∧
      (ViewIterator.next^[k] v.begin).Wf ∧ (ViewIterator.next^[k] v.begin).window = v.bytes.drop k := by
  have moved : ViewIterator.next^[k] v.begin = ViewIterator.new v.littleEndian v.fragments k := by
    rw [ViewIterator.iterate_next]
    simp only [PacketView.begin, ViewIterator.new, Nat.zero_add]
  rw [moved]
  exact ⟨rfl, ViewIterator.wf_new _ _ _, ViewIterator.window_new _ _ _⟩

/-- The empty subview at the end of a packet has no fragment: appending to it
fails the `ASSERT` rather than giving the bytes appended. -/
theorem empty_subview_append_asserts :
    ∃ sub, (PacketView.ofPacket true [1, 2, 3]).getLittleEndianSubview 3 3 = some sub ∧
      sub.bytes = [] ∧ sub.append (PacketView.ofPacket true [4]) = none :=
  ⟨_, rfl, rfl, rfl⟩

/-- A packet view stands for the bytes of its fragments: `size` counts them and
`at` indexes them; a subview of either endianness is their slice; `Append`
concatenates for a view with a fragment and fails its `ASSERT` for a view with
none; the iterator `k` bytes on from `begin()` reads the bytes from `k` and
`NumBytesRemaining` counts them, `Subrange(i, l)` reads `l` of them from `i`,
and `extract` reads a field inside them in the view's endianness and moves
past it. -/
theorem packet_view_refines_bytes :
    (∀ (v : PacketView) (i : ℕ), v.size = v.bytes.length ∧ v.atIndex i = v.bytes[i]?) ∧
    (∀ (v : PacketView) (b e : ℕ), b ≤ e → e ≤ v.size →
      (∃ w, v.getLittleEndianSubview b e = some w ∧ w.littleEndian = true ∧
        w.bytes = (v.bytes.take e).drop b) ∧
      (∃ w, v.getBigEndianSubview b e = some w ∧ w.littleEndian = false ∧
        w.bytes = (v.bytes.take e).drop b)) ∧
    (∀ v w : PacketView,
      (v.fragments ≠ [] → ∃ v', v.append w = some v' ∧ v'.bytes = v.bytes ++ w.bytes) ∧
        (v.fragments = [] → v.append w = none)) ∧
    (∀ (v : PacketView) (k : ℕ),
      (ViewIterator.next^[k] v.begin).deref = v.bytes[k]? ∧
        (ViewIterator.next^[k] v.begin).numBytesRemaining = v.size - k) ∧
    (∀ (v : PacketView) (k i l : ℕ),
      ((ViewIterator.next^[k] v.begin).subrange i l).numBytesRemaining =
          ((v.bytes.drop (k + i)).take l).length ∧
        ∀ j, (ViewIterator.next^[j] ((ViewIterator.next^[k] v.begin).subrange i l)).deref =
          ((v.bytes.drop (k + i)).take l)[j]?) ∧
    (∀ (v : PacketView) (k n : ℕ), k + n ≤ v.size →
      (ViewIterator.next^[k] v.begin).extract n =
        some (EndianInserter.ordered v.littleEndian ((v.bytes.drop k).take n),
          ViewIterator.next^[k + n] v.begin)) := by
  refine ⟨?indexing, ?subview, ?append, ?iterator, ?subrange, ?extract⟩
  case indexing => exact fun v i => ⟨v.size_eq, v.atIndex_eq i⟩
  case subview =>
    intro v b e ordered inside
    obtain ⟨views, found, slice⟩ := v.getSubviewList_bytes ordered inside
    exact ⟨⟨.ofFragments true views, by rw [PacketView.getLittleEndianSubview, found]; rfl, rfl, slice⟩,
      ⟨.ofFragments false views, by rw [PacketView.getBigEndianSubview, found]; rfl, rfl, slice⟩⟩
  case append => exact fun v w => ⟨v.append_bytes w, v.append_nil w⟩
  case iterator =>
    intro v k
    obtain ⟨-, wf, window⟩ := v.iterate_next_begin k
    refine ⟨?_, ?_⟩
    · rw [ViewIterator.deref_eq_window wf.begin_le_index, window, List.getElem?_drop, Nat.add_zero]
    · rw [ViewIterator.numBytesRemaining_eq wf, window, List.length_drop, PacketView.size_eq]
  case subrange =>
    intro v k i l
    obtain ⟨-, wf, window⟩ := v.iterate_next_begin k
    obtain ⟨wf', window'⟩ := ViewIterator.subrange_spec wf i l
    rw [window, List.drop_drop] at window'
    exact ⟨by rw [ViewIterator.numBytesRemaining_eq wf', window'],
      fun j => by rw [ViewIterator.deref_iterate_next wf' j, window']⟩
  case extract =>
    intro v k n fits
    obtain ⟨moved, wf, window⟩ := v.iterate_next_begin k
    -- the field lies inside the window, which ends with the bytes
    have inside : (ViewIterator.next^[k] v.begin).index + n ≤ (ViewIterator.next^[k] v.begin).endIndex := by
      rw [moved, ViewIterator.new, ← v.length_eq]
      exact fits
    rw [ViewIterator.extract_eq wf inside, window, ← Function.iterate_add_apply, Nat.add_comm n k, moved]
    rfl

/-- A little-endian view of two fragments: `[1, 2, 3]`, cut from the middle
of a vector, then `[4, 5, 6]`. -/
def twoFragments : PacketView :=
  .ofFragments true [View.ofVector [0xAA, 1, 2, 3, 0xBB] 1 4 (by decide), View.ofVector [4, 5, 6] 0 3 (by decide)]

/-- Each operation on the view of two fragments, where the fragments meet: its
size and fourth byte; the subviews of bytes 2 to 5 in both endiannesses;
appending a packet to it, and appending it to a view of no fragment; the
iterator three bytes on; a subrange of three bytes from there; and a field of
four bytes read from byte 1. -/
theorem packet_view_refines_bytes_two_fragments :
    twoFragments.size = 6 ∧ twoFragments.atIndex 3 = some 4 ∧
    (∃ w, twoFragments.getLittleEndianSubview 2 5 = some w ∧ w.littleEndian = true ∧ w.bytes = [3, 4, 5]) ∧
    (∃ w, twoFragments.getBigEndianSubview 2 5 = some w ∧ w.littleEndian = false ∧ w.bytes = [3, 4, 5]) ∧
    (∃ v', twoFragments.append (.ofPacket false [7, 8]) = some v' ∧ v'.bytes = [1, 2, 3, 4, 5, 6, 7, 8]) ∧
    (PacketView.ofFragments true []).append twoFragments = none ∧
    (ViewIterator.next^[3] twoFragments.begin).deref = some 4 ∧
    (ViewIterator.next^[3] twoFragments.begin).numBytesRemaining = 3 ∧
    ((ViewIterator.next^[1] twoFragments.begin).subrange 1 3).numBytesRemaining = 3 ∧
    (ViewIterator.next^[2] ((ViewIterator.next^[1] twoFragments.begin).subrange 1 3)).deref = some 5 ∧
    (ViewIterator.next^[1] twoFragments.begin).extract 4 =
      some (EndianInserter.ordered true [2, 3, 4, 5], ViewIterator.next^[5] twoFragments.begin) := by
  obtain ⟨indexing, subview, append, iterator, subrange, extract⟩ := packet_view_refines_bytes
  obtain ⟨little, big⟩ := subview twoFragments 2 5 (by decide) (by decide)
  obtain ⟨appended, -⟩ := append twoFragments (.ofPacket false [7, 8])
  obtain ⟨-, none⟩ := append (.ofFragments true []) twoFragments
  obtain ⟨deref, remaining⟩ := iterator twoFragments 3
  obtain ⟨subRemaining, subDeref⟩ := subrange twoFragments 1 1 3
  exact ⟨(indexing twoFragments 3).1.trans rfl, (indexing twoFragments 3).2.trans rfl, little, big,
    appended (by decide), none rfl, deref.trans rfl, remaining.trans rfl, subRemaining.trans rfl,
    (subDeref 2).trans rfl, extract twoFragments 1 4 (by decide)⟩

end Bluedroid.Packet
