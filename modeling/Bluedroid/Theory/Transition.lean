import Mathlib.Logic.Relation
import Mathlib.Data.List.Forall2

/-!
# Theory.Transition -- runs of a partial, labelled step function

A component is given by `step : σ → α → Option σ`: from a state, an action
either is not enabled (`none`) or leads to exactly one next state.  This module
gives such a step function its runs (`run`, which evaluates a concrete trace;
where it ends is reachable, `Reachable.of_run`) and its reachable states, with
the rule every development on top of it uses:
a property that holds initially and is kept by every enabled step holds in
every reachable state (`Reachable.rec_invariant`).  A step function that,
mapped through an abstraction, is another one has runs that map to the other's
(`run_simulation`); a loop over a list whose body may fail is such a run
(`foldlM_eq_run`).

Reachability is Mathlib's reflexive transitive closure of "some action leads
there" (`Relation.ReflTransGen`).

A step that also writes an output, `step : σ → α → Option (σ × β)`, has runs
that collect the outputs (`runOut`).  A run over two lists of actions is the
run over the first, then over the second from where it ended
(`runOut_append`); and if each of several segments of actions, from whatever
state, runs to an output of its own, their concatenation runs, from whatever
state, to those outputs in order (`runOut_flatten`).

A component that answers calls is `call : σ → α → σ × ρ`; `replies` makes a
sequence of calls and collects the answers.  Two such components related by a
refinement relation that answer every admissible call alike, and stay related,
answer every sequence of admissible calls alike (`replies_simulation`).
-/

namespace Bluedroid.Theory

set_option autoImplicit false

variable {σ α : Type}

/-- Run the actions in order; `none` as soon as one of them is not enabled. -/
def run (step : σ → α → Option σ) : σ → List α → Option σ
  | s, [] => some s
  | s, a :: as => (step s a).bind fun s' => run step s' as

@[simp] theorem run_nil (step : σ → α → Option σ) (s : σ) : run step s [] = some s := rfl

@[simp] theorem run_cons (step : σ → α → Option σ) (s : σ) (a : α) (as : List α) :
    run step s (a :: as) = (step s a).bind fun s' => run step s' as := rfl

/-- Some action leads from `s` to `t`. -/
def Enabled (step : σ → α → Option σ) (s t : σ) : Prop :=
  ∃ a, step s a = some t

/-- The states `step` reaches from `init` in any number of steps. -/
def Reachable (step : σ → α → Option σ) (init : σ) : σ → Prop :=
  Relation.ReflTransGen (Enabled step) init

theorem Reachable.init (step : σ → α → Option σ) (init : σ) : Reachable step init init :=
  Relation.ReflTransGen.refl

theorem Reachable.step {step : σ → α → Option σ} {init s t : σ} (a : α)
    (reach : Reachable step init s) (stepped : step s a = some t) : Reachable step init t :=
  Relation.ReflTransGen.tail reach ⟨a, stepped⟩

/-- **The invariant rule.**  A property that holds initially and is kept by
every enabled step holds in every reachable state. -/
theorem Reachable.rec_invariant {step : σ → α → Option σ} {init : σ} {P : σ → Prop}
    (initial : P init) (preserved : ∀ s a t, P s → step s a = some t → P t) {s : σ}
    (reach : Reachable step init s) : P s := by
  induction reach with
  | refl => exact initial
  | tail _ enabled ih =>
      obtain ⟨a, stepped⟩ := enabled
      exact preserved _ a _ ih stepped

/-- A run from a reachable state ends in a reachable state. -/
theorem Reachable.of_run_from {step : σ → α → Option σ} {init : σ} :
    ∀ (as : List α) {s t : σ}, Reachable step init s → run step s as = some t → Reachable step init t
  | [], _, _, reach, ran => Option.some_inj.mp ran ▸ reach
  | a :: as, _, _, reach, ran => by
    obtain ⟨s', stepped, rest⟩ := Option.bind_eq_some_iff.mp ran
    exact Reachable.of_run_from as (reach.step a stepped) rest

/-- A concrete trace replayed from the initial state ends in a reachable state. -/
theorem Reachable.of_run {step : σ → α → Option σ} {init t : σ} {as : List α}
    (ran : run step init as = some t) : Reachable step init t :=
  Reachable.of_run_from as (Reachable.init step init) ran

/-- A loop over a list whose body may fail is a run. -/
theorem foldlM_eq_run (step : σ → α → Option σ) (s : σ) (as : List α) :
    as.foldlM step s = run step s as := by
  induction as generalizing s with
  | nil => rfl
  | cons a as ih =>
    simp only [List.foldlM_cons, run_cons, Option.bind_eq_bind, ih]

/-- **The simulation rule for runs.**  While `R` holds, a step mapped through
`abs` is the step of `spec` from the mapped state, and `R` is kept: the run,
mapped, is `spec`'s run from the mapped state, and ends where `R` holds. -/
theorem run_simulation {τ : Type} {step : σ → α → Option σ} {spec : τ → α → Option τ}
    (abs : σ → τ) (R : σ → Prop) (sim : ∀ s a, R s → (step s a).map abs = spec (abs s) a)
    (keeps : ∀ s a s', R s → step s a = some s' → R s') :
    ∀ (as : List α) (s : σ), R s →
      (run step s as).map abs = run spec (abs s) as ∧ ∀ s' ∈ run step s as, R s'
  | [], s, holds => ⟨rfl, fun _ ended => Option.some_inj.mp ended ▸ holds⟩
  | a :: as, s, holds => by
    have first := sim s a holds
    cases stepped : step s a with
    | none =>
      rw [stepped, Option.map_none] at first
      simp only [run_cons, stepped, ← first, Option.bind_none, Option.map_none, Option.mem_def,
        reduceCtorEq, false_imp_iff, implies_true, and_self]
    | some s' =>
      rw [stepped, Option.map_some] at first
      simp only [run_cons, stepped, ← first, Option.bind_some]
      exact run_simulation abs R sim keeps as s' (keeps s a s' holds stepped)

/-! ## Runs that write outputs -/

section Outputs

variable {β : Type}

/-- Run the actions in order, collecting what each step writes: the state
after the last and the outputs; `none` as soon as one of them is not enabled. -/
def runOut (step : σ → α → Option (σ × β)) : σ → List α → Option (σ × List β)
  | s, [] => some (s, [])
  | s, a :: as => (step s a).bind fun (s', b) => (runOut step s' as).map fun (t, bs) => (t, b :: bs)

@[simp] theorem runOut_nil (step : σ → α → Option (σ × β)) (s : σ) : runOut step s [] = some (s, []) := rfl

/-- A run over two lists goes on over the second from where the first ended. -/
theorem runOut_append (step : σ → α → Option (σ × β)) :
    ∀ (as as' : List α) (s : σ), runOut step s (as ++ as') =
      (runOut step s as).bind fun (t, bs) => (runOut step t as').map fun (u, bs') => (u, bs ++ bs')
  | [], as', s => by
    simp only [List.nil_append, runOut_nil, Option.bind_some, List.nil_append, Option.map_id']
  | a :: as, as', s => by
    simp only [List.cons_append, runOut]
    cases step s a with
    | none => rfl
    | some stepped =>
      obtain ⟨s', b⟩ := stepped
      simp only [Option.bind_some, runOut_append step as as' s', Option.map_bind, Option.bind_map]
      congr 1
      funext ran
      simp only [Function.comp_apply, Option.map_map, Function.comp_def, List.cons_append]

/-- **Runs of segments that forget where they start.**  If each segment of
actions, from whatever state, runs to an output that `R` relates to its label,
then the segments one after another run, from whatever state, to those outputs
in order. -/
theorem runOut_flatten {step : σ → α → Option (σ × β)} {γ : Type} {R : γ → List β → Prop} :
    ∀ {ms : List γ} {segs : List (List α)},
      List.Forall₂ (fun m seg => ∀ s, ∃ t out, runOut step s seg = some (t, out) ∧ R m out) ms segs →
      ∀ s, ∃ t outs, runOut step s segs.flatten = some (t, outs.flatten) ∧ List.Forall₂ R ms outs
  | [], [], .nil, s => ⟨s, [], rfl, .nil⟩
  | m :: ms, seg :: segs, .cons first rest, s => by
    obtain ⟨t, out, ran, related⟩ := first s
    obtain ⟨u, outs, ranRest, relatedRest⟩ := runOut_flatten rest t
    refine ⟨u, out :: outs, ?_, .cons related relatedRest⟩
    simp only [List.flatten_cons, runOut_append, ran, Option.bind_some, ranRest, Option.map_some]

end Outputs

/-! ## Calls and their replies -/

section Replies

variable {ρ : Type}

/-- Make the calls in order from `s`: the state after the last, and the reply
to each. -/
def replies (call : σ → α → σ × ρ) : σ → List α → σ × List ρ
  | s, [] => (s, [])
  | s, a :: as => ((replies call (call s a).1 as).1, (call s a).2 :: (replies call (call s a).1 as).2)

/-- **The simulation rule for calls.** -/
theorem replies_simulation {τ : Type} {impl : σ → α → σ × ρ} {spec : τ → α → τ × ρ} (R : σ → τ → Prop)
    (admissible : α → Prop)
    (step : ∀ s t a, admissible a → R s t → (impl s a).2 = (spec t a).2 ∧ R (impl s a).1 (spec t a).1) :
    ∀ (calls : List α) (s : σ) (t : τ), (∀ a ∈ calls, admissible a) → R s t →
      (replies impl s calls).2 = (replies spec t calls).2 ∧ R (replies impl s calls).1 (replies spec t calls).1
  | [], _, _, _, related => ⟨rfl, related⟩
  | a :: as, s, t, allowed, related => by
    obtain ⟨same, next⟩ := step s t a (allowed a List.mem_cons_self) related
    obtain ⟨sameRest, final⟩ :=
      replies_simulation R admissible step as _ _ (fun b member => allowed b (List.mem_cons_of_mem a member)) next
    exact ⟨by rw [replies, replies, same, sameRest], final⟩

end Replies

end Bluedroid.Theory
