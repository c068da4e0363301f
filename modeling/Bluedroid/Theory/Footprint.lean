import Mathlib.Logic.Basic
import Mathlib.Data.List.Basic

/-!
# Theory.Footprint -- programs that read a memory, and where they read

A parser that walks a buffer through a pointer is a program of reads: it reads
the memory at an address, and what it does next may depend on the value.
`Reads β α` is such a program over a memory of `β`s at natural addresses, as a
tree: `pure a` returns `a`, `read i k` reads address `i` and continues with
`k` of the value.  Two folds interpret it on a memory: `value` is what it
returns, `footprint` the addresses it reads, in order.

`Within lo hi m` says that every read `m` can make, whatever the memory
holds, is at an address in `[lo, hi)`.  It is built along the program:
`within_pure`, `within_get`, `Within.bind` and `within_ite`.  A program
within `[lo, hi)` reads only there on every memory (`Within.footprint`), and
returns the same on two memories that agree there (`Within.value_congr`).

`Returns P m` says that every value `m` can return satisfies `P`.  A
continuation then has to be confined only on the values the program before
it can return (`Within.bind_returns`): a parser that hands the window it
found to the next stage is confined when the window lies in its input.
-/

namespace Bluedroid.Theory

set_option autoImplicit false

/-- A program that reads a memory of `β`s and returns an `α`. -/
inductive Reads (β α : Type) where
  | pure (a : α)
  | read (i : ℕ) (k : β → Reads β α)

namespace Reads

variable {β α γ : Type}

/-- Sequencing: run `m`, then `f` of what it returns. -/
def bind : Reads β α → (α → Reads β γ) → Reads β γ
  | .pure a, f => f a
  | .read i k, f => .read i fun b => bind (k b) f

instance : Monad (Reads β) where
  pure := .pure
  bind := bind

/-- Read address `i`. -/
def get (i : ℕ) : Reads β β := .read i .pure

/-- What `m` returns on the memory `mem`. -/
def value (mem : ℕ → β) : Reads β α → α
  | .pure a => a
  | .read i k => value mem (k (mem i))

/-- The addresses `m` reads on the memory `mem`, in order. -/
def footprint (mem : ℕ → β) : Reads β α → List ℕ
  | .pure _ => []
  | .read i k => i :: footprint mem (k (mem i))

@[simp] theorem value_pure (mem : ℕ → β) (a : α) : value mem (Pure.pure a : Reads β α) = a := rfl

@[simp] theorem footprint_pure (mem : ℕ → β) (a : α) : footprint mem (Pure.pure a : Reads β α) = [] :=
  rfl

@[simp] theorem value_get (mem : ℕ → β) (i : ℕ) : value mem (get i) = mem i := rfl

@[simp] theorem footprint_get (mem : ℕ → β) (i : ℕ) : footprint mem (get i) = [i] := rfl

@[simp] theorem value_bind (mem : ℕ → β) (m : Reads β α) (f : α → Reads β γ) :
    value mem (m >>= f) = value mem (f (value mem m)) := by
  induction m with
  | pure a => rfl
  | read i k ih => exact ih (mem i)

@[simp] theorem footprint_bind (mem : ℕ → β) (m : Reads β α) (f : α → Reads β γ) :
    footprint mem (m >>= f) = footprint mem m ++ footprint mem (f (value mem m)) := by
  induction m with
  | pure a => rfl
  | read i k ih => exact congrArg (i :: ·) (ih (mem i))

theorem value_ite (mem : ℕ → β) (c : Prop) [Decidable c] (m₁ m₂ : Reads β α) :
    value mem (if c then m₁ else m₂) = if c then value mem m₁ else value mem m₂ := by
  split_ifs <;> rfl

theorem footprint_ite (mem : ℕ → β) (c : Prop) [Decidable c] (m₁ m₂ : Reads β α) :
    footprint mem (if c then m₁ else m₂) = if c then footprint mem m₁ else footprint mem m₂ := by
  split_ifs <;> rfl

/-! ## Reads within an interval -/

/-- Every read of `m`, whatever the memory holds, is at an address in `[lo, hi)`. -/
def Within (lo hi : ℕ) : Reads β α → Prop
  | .pure _ => True
  | .read i k => (lo ≤ i ∧ i < hi) ∧ ∀ b, Within lo hi (k b)

variable {lo hi : ℕ}

theorem within_pure (a : α) : Within lo hi (Pure.pure a : Reads β α) := trivial

theorem within_get {i : ℕ} (low : lo ≤ i) (high : i < hi) : Within lo hi (get i : Reads β β) :=
  ⟨⟨low, high⟩, fun _ => trivial⟩

/-- The rule for sequencing: `m`, then any continuation of what it returns. -/
theorem Within.bind {m : Reads β α} {f : α → Reads β γ} (first : Within lo hi m)
    (rest : ∀ a, Within lo hi (f a)) : Within lo hi (m >>= f) := by
  induction m with
  | pure a => exact rest a
  | read i k ih => exact ⟨first.1, fun b => ih b (first.2 b)⟩

/-- The rule for a read followed by what depends on its value. -/
theorem within_get_bind {i : ℕ} {f : β → Reads β γ} (low : lo ≤ i) (high : i < hi)
    (rest : ∀ b, Within lo hi (f b)) : Within lo hi (get i >>= f) :=
  (within_get low high).bind rest

/-- The rule for a test: each branch under its own condition. -/
theorem within_ite {c : Prop} [Decidable c] {m₁ m₂ : Reads β α} (yes : c → Within lo hi m₁)
    (no : ¬c → Within lo hi m₂) : Within lo hi (if c then m₁ else m₂) := by
  split_ifs with h
  · exact yes h
  · exact no h

/-- Read the `n` addresses from `p` on, in order. -/
def getN (p : ℕ) : ℕ → Reads β (List β)
  | 0 => Pure.pure []
  | n + 1 => get p >>= fun b => getN (p + 1) n >>= fun bs => Pure.pure (b :: bs)

theorem Within.mono {lo' hi' : ℕ} {m : Reads β α} (within : Within lo hi m) (low : lo' ≤ lo)
    (high : hi ≤ hi') : Within lo' hi' m := by
  induction m with
  | pure a => trivial
  | read i k ih =>
    obtain ⟨⟨atLeast, below⟩, rest⟩ := within
    exact ⟨⟨by omega, by omega⟩, fun b => ih b (rest b)⟩

theorem within_getN : ∀ (p n : ℕ), Within p (p + n) (getN p n : Reads β (List β))
  | _, 0 => within_pure _
  | p, n + 1 => within_get_bind (Nat.le_refl p) (by omega) fun _ =>
    ((within_getN (p + 1) n).mono (by omega) (by omega)).bind fun _ => within_pure _

/-- **A program within `[lo, hi)` reads only there**, on every memory. -/
theorem Within.footprint {m : Reads β α} (within : Within lo hi m) (mem : ℕ → β) :
    ∀ i ∈ m.footprint mem, lo ≤ i ∧ i < hi := by
  induction m with
  | pure a => exact fun i mem_i => absurd mem_i List.not_mem_nil
  | read j k ih =>
    intro i mem_i
    rcases List.mem_cons.mp mem_i with rfl | later
    · exact within.1
    · exact ih (mem j) (within.2 (mem j)) i later

/-- **A program within `[lo, hi)` does not see the memory outside it.** -/
theorem Within.value_congr {m : Reads β α} (within : Within lo hi m) {mem mem' : ℕ → β}
    (agree : ∀ i, lo ≤ i → i < hi → mem i = mem' i) : m.value mem = m.value mem' := by
  induction m with
  | pure a => rfl
  | read i k ih =>
    show value mem (k (mem i)) = value mem' (k (mem' i))
    rw [agree i within.1.1 within.1.2]
    exact ih (mem' i) (within.2 (mem' i))

/-! ## What a program can return -/

/-- Every value `m` can return, whatever the memory holds, satisfies `P`. -/
def Returns (P : α → Prop) : Reads β α → Prop
  | .pure a => P a
  | .read _ k => ∀ b, Returns P (k b)

variable {P : α → Prop} {Q : γ → Prop}

theorem returns_pure {a : α} (holds : P a) : Returns P (Pure.pure a : Reads β α) := holds

theorem returns_get {P : β → Prop} {i : ℕ} (holds : ∀ b, P b) : Returns P (get i : Reads β β) := holds

theorem returns_true (m : Reads β α) : Returns (fun _ => True) m := by
  induction m with
  | pure a => trivial
  | read i k ih => exact ih

/-- The rule for sequencing: the continuation on the values `m` returns. -/
theorem Returns.bind {m : Reads β α} {f : α → Reads β γ} (first : Returns P m)
    (rest : ∀ a, P a → Returns Q (f a)) : Returns Q (m >>= f) := by
  induction m with
  | pure a => exact rest a first
  | read i k ih => exact fun b => ih b (first b)

/-- The rule for a read followed by what depends on its value. -/
theorem returns_get_bind {i : ℕ} {f : β → Reads β γ} (rest : ∀ b, Returns Q (f b)) : Returns Q (get i >>= f) :=
  rest

theorem returns_ite {c : Prop} [Decidable c] {m₁ m₂ : Reads β α} (yes : c → Returns P m₁)
    (no : ¬c → Returns P m₂) : Returns P (if c then m₁ else m₂) := by
  split_ifs with h
  · exact yes h
  · exact no h

theorem Returns.mono {P' : α → Prop} {m : Reads β α} (returns : Returns P m) (weaker : ∀ a, P a → P' a) :
    Returns P' m := by
  induction m with
  | pure a => exact weaker a returns
  | read i k ih => exact fun b => ih b (returns b)

/-- What a program returns on a memory is one of the values it can return. -/
theorem Returns.value {m : Reads β α} (returns : Returns P m) (mem : ℕ → β) : P (m.value mem) := by
  induction m with
  | pure a => exact returns
  | read i k ih => exact ih (mem i) (returns (mem i))

/-- **The rule for a stage that reads where the stage before it pointed**: the
continuation needs to be confined only on the values `m` can return. -/
theorem Within.bind_returns {m : Reads β α} {f : α → Reads β γ} (first : Within lo hi m) (returns : Returns P m)
    (rest : ∀ a, P a → Within lo hi (f a)) : Within lo hi (m >>= f) := by
  induction m with
  | pure a => exact rest a returns
  | read i k ih => exact ⟨first.1, fun b => ih b (first.2 b) (returns b)⟩

end Reads

end Bluedroid.Theory
