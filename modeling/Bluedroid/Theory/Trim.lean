import Mathlib

/-!
# Theory.Trim -- taking blanks off both ends of a list

`trimBy space s` drops the elements that `space` holds of from the front of
`s`, and then from its back: the `trim` of a C string, or a C++ `StringTrim`,
over whatever the characters are.  Text whose first and last elements are not
blank trims to itself from between any blanks (`trimBy_eq`), and blanks added
at its end go with the trim (`trimBy_append_blank`); a `key = value` line,
with a blank on each side of its separator, trims to the key and the value with
the blanks that stay between them (`trimBy_separated`).  These are the facts a
reader that trims each line needs, to get back what a writer put between
blanks.
-/

namespace Bluedroid.Theory

set_option autoImplicit false

variable {α : Type} (space : α → Bool)

/-- Drop the blanks from the front, then from the back. -/
def trimBy (s : List α) : List α :=
  ((s.dropWhile space).reverse.dropWhile space).reverse

theorem dropWhile_of_head {p : α → Bool} {s : List α} (first : ∀ c ∈ s.head?, p c = false) :
    s.dropWhile p = s := by
  cases s with
  | nil => rfl
  | cons c s => exact List.dropWhile_cons_of_neg (by simp [first c rfl])

theorem dropWhile_of_all {p : α → Bool} {s : List α} (all : ∀ c ∈ s, p c = true) :
    s.dropWhile p = [] := by
  induction s with
  | nil => rfl
  | cons c s ih =>
    rw [List.dropWhile_cons_of_pos (all c List.mem_cons_self)]
    exact ih fun c' mem => all c' (List.mem_cons_of_mem c mem)

@[simp] theorem trimBy_nil : trimBy space [] = [] := rfl

/-- **Text between blanks** trims to itself, when neither of its ends is blank. -/
theorem trimBy_eq (pre s post : List α) (blankPre : ∀ c ∈ pre, space c = true)
    (blankPost : ∀ c ∈ post, space c = true) (first : ∀ c ∈ s.head?, space c = false)
    (last : ∀ c ∈ s.getLast?, space c = false) : trimBy space (pre ++ s ++ post) = s := by
  unfold trimBy
  rw [List.append_assoc, List.dropWhile_append_of_pos blankPre]
  cases s with
  | nil => simp [dropWhile_of_all blankPost]
  | cons c s =>
    -- the text's first element stops the front pass, its last the back pass
    have kept : (c :: s ++ post).dropWhile space = c :: s ++ post :=
      dropWhile_of_head (by simpa using first)
    have reversed : ∀ c' ∈ post.reverse, space c' = true := fun c' mem =>
      blankPost c' (List.mem_reverse.mp mem)
    rw [kept, List.reverse_append, List.dropWhile_append_of_pos reversed,
      dropWhile_of_head (fun c' mem => last c' (List.head?_reverse ▸ mem)), List.reverse_reverse]

/-- **A `key = value` line.**  The key, a blank `b`, a separator that is not
blank, `b` again and the value trim to the key and `b`, the separator, and `b`
and the value, where an empty key or value takes its `b` along; for a key and a
value whose ends are not blank. -/
theorem trimBy_separated {b sep : α} (blankB : space b = true) (solid : space sep = false) {key value : List α}
    (keyFirst : ∀ c ∈ key.head?, space c = false) (keyLast : ∀ c ∈ key.getLast?, space c = false)
    (valueFirst : ∀ c ∈ value.head?, space c = false) (valueLast : ∀ c ∈ value.getLast?, space c = false) :
    trimBy space (key ++ b :: sep :: b :: value) =
      (if key = [] then [] else key ++ [b]) ++ sep :: (if value = [] then [] else b :: value) := by
  have blanks : ∀ c ∈ [b], space c = true := by simpa using blankB
  -- an empty key or value leaves its blank at an end of the line, to be trimmed
  by_cases noKey : key = [] <;> by_cases noValue : value = []
  · subst noKey noValue
    simpa using trimBy_eq space [b] [sep] [b] blanks blanks (by simpa using solid) (by simpa using solid)
  · subst noKey
    rw [if_pos rfl, if_neg noValue]
    have last : ∀ c ∈ (sep :: b :: value).getLast?, space c = false := by
      rw [show sep :: b :: value = [sep, b] ++ value from rfl, List.getLast?_append_of_ne_nil _ noValue]
      exact valueLast
    simpa using trimBy_eq space [b] (sep :: b :: value) [] blanks (by simp) (by simpa using solid) last
  · subst noValue
    rw [if_neg noKey, if_pos rfl]
    have first : ∀ c ∈ (key ++ [b, sep]).head?, space c = false := by
      rw [List.head?_append_of_ne_nil _ noKey]
      exact keyFirst
    simpa using trimBy_eq space [] (key ++ [b, sep]) [b] (by simp) blanks first (by simpa using solid)
  · rw [if_neg noKey, if_neg noValue]
    have first : ∀ c ∈ (key ++ b :: sep :: b :: value).head?, space c = false := by
      rw [List.head?_append_of_ne_nil _ noKey]
      exact keyFirst
    have last : ∀ c ∈ (key ++ b :: sep :: b :: value).getLast?, space c = false := by
      rw [show key ++ b :: sep :: b :: value = (key ++ [b, sep, b]) ++ value by simp,
        List.getLast?_append_of_ne_nil _ noValue]
      exact valueLast
    simpa using trimBy_eq space [] (key ++ b :: sep :: b :: value) [] (by simp) (by simp) first last

/-- Blanks after the text go with the trim. -/
theorem trimBy_append_blank (s : List α) {post : List α} (blank : ∀ c ∈ post, space c = true) :
    trimBy space (s ++ post) = trimBy space s := by
  unfold trimBy
  rw [List.dropWhile_append]
  split
  · rename_i allBlank
    rw [List.isEmpty_iff.mp allBlank, dropWhile_of_all blank]
  · have reversed : ∀ c ∈ post.reverse, space c = true := fun c mem => blank c (List.mem_reverse.mp mem)
    rw [List.reverse_append, List.dropWhile_append_of_pos reversed]

end Bluedroid.Theory
