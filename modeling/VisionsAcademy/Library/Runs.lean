import Mathlib.Logic.Basic
import Mathlib.Data.Option.Basic

/-! Finite runs of a labelled partial step function. A label fixes every choice
of one step, so a list of labels is an interleaving and a property of all label
lists is a property of all orders. `Along` states a condition on each step taken,
read in the state before that step; `Throughout` states a property of every state
reached on the way. -/
namespace Runs

variable {State Label : Type*}

/-- Take the steps of `labels` in order; a label that is not enabled ends the run. -/
def run (step : State → Label → Option State) : State → List Label → Option State
  | state,[] => some state
  | state,label::rest => (step state label).bind fun next => run step next rest

def Along (step : State → Label → Option State) (condition : State → Label → Prop) :
    State → List Label → Prop
  | _,[] => True
  | state,label::rest => ∀ next, step state label = some next →
      condition state label ∧ Along step condition next rest

def Throughout (step : State → Label → Option State) (holds : State → Prop) (state : State)
    (labels : List Label) : Prop :=
  ∀ front back final, labels = front ++ back → run step state front = some final → holds final

variable {step : State → Label → Option State}

theorem run_cons (state : State) (label : Label) (rest : List Label) (final : State) :
    run step state (label::rest) = some final ↔
      ∃ next, step state label = some next ∧ run step next rest = some final := by
  simp [run,Option.bind_eq_some_iff]

theorem along_trivial (state : State) (labels : List Label) :
    Along step (fun _ _ => True) state labels := by
  induction labels generalizing state with
  | nil => trivial
  | cons label rest ih => exact fun next _ => ⟨trivial,ih next⟩

theorem along_step (condition : State → Label → Prop) (state next : State) (label : Label)
    (rest : List Label) (taken : step state label = some next) (allowed : condition state label)
    (later : Along step condition next rest) : Along step condition state (label::rest) := by
  intro other same
  cases Option.some.inj (taken.symm.trans same)
  exact ⟨allowed,later⟩

theorem throughout_nil (holds : State → Prop) (state : State) :
    Throughout step holds state [] ↔ holds state := by
  constructor
  · intro throughout
    exact throughout [] [] state rfl rfl
  · intro initial front back final split reached
    obtain ⟨rfl,_⟩ := List.append_eq_nil_iff.mp split.symm
    cases Option.some.inj reached
    exact initial

theorem throughout_cons (holds : State → Prop) (state : State) (label : Label) (rest : List Label) :
    Throughout step holds state (label::rest) ↔
      holds state ∧ ∀ next, step state label = some next → Throughout step holds next rest := by
  constructor
  · intro throughout
    refine ⟨throughout [] (label::rest) state rfl rfl,?_⟩
    intro next taken front back final split reached
    apply throughout (label::front) back final
    · rw [split,List.cons_append]
    · exact (run_cons _ _ _ _).mpr ⟨next,taken,reached⟩
  · intro parts front back final split reached
    obtain ⟨initial,later⟩ := parts
    cases front with
    | nil =>
      cases Option.some.inj reached
      exact initial
    | cons head tail =>
      obtain ⟨rfl,remaining⟩ := List.cons.inj split
      obtain ⟨next,taken,arrived⟩ := (run_cons _ _ _ _).mp reached
      exact later next taken tail back final remaining arrived

/-- The invariant rule: a property that each permitted step preserves holds in
every state on the way of a run of permitted steps. -/
theorem throughout_invariant (holds : State → Prop) (condition : State → Label → Prop)
    (preserved : ∀ state label next, holds state → condition state label →
      step state label = some next → holds next)
    (state : State) (labels : List Label) (initial : holds state)
    (permitted : Along step condition state labels) : Throughout step holds state labels := by
  induction labels generalizing state with
  | nil => exact (throughout_nil holds state).mpr initial
  | cons label rest ih =>
    rw [throughout_cons]
    refine ⟨initial,?_⟩
    intro next taken
    obtain ⟨allowed,later⟩ := permitted next taken
    exact ih next (preserved state label next initial allowed taken) later

theorem invariant (holds : State → Prop) (condition : State → Label → Prop)
    (preserved : ∀ state label next, holds state → condition state label →
      step state label = some next → holds next)
    (state final : State) (labels : List Label) (initial : holds state)
    (permitted : Along step condition state labels)
    (reached : run step state labels = some final) : holds final := by
  have throughout := throughout_invariant holds condition preserved state labels initial permitted
  exact throughout labels [] final (List.append_nil labels).symm reached

theorem unconditional (holds : State → Prop)
    (preserved : ∀ state label next, holds state → step state label = some next → holds next)
    (state final : State) (labels : List Label) (initial : holds state)
    (reached : run step state labels = some final) : holds final := by
  apply invariant holds (fun _ _ => True) _ state final labels initial _ reached
  · intro before label next held _ taken
    exact preserved before label next held taken
  · exact along_trivial state labels

theorem along_congr (holds : State → Prop) (first second : State → Label → Prop)
    (preserved : ∀ state label next, holds state → step state label = some next → holds next)
    (agree : ∀ state label next, holds state → step state label = some next →
      (first state label ↔ second state label))
    (state : State) (labels : List Label) (initial : holds state) :
    Along step first state labels ↔ Along step second state labels := by
  induction labels generalizing state with
  | nil => exact Iff.rfl
  | cons label rest ih =>
    apply forall_congr'
    intro next
    apply imp_congr_right
    intro taken
    have here := agree state label next initial taken
    have later := ih next (preserved state label next initial taken)
    exact and_congr here later

theorem along_invariant (holds : State → Prop) (condition : State → Label → Prop)
    (preserved : ∀ state label next, holds state → step state label = some next → holds next)
    (guaranteed : ∀ state label, holds state → condition state label)
    (state : State) (labels : List Label) (initial : holds state) :
    Along step condition state labels := by
  rw [along_congr holds condition (fun _ _ => True) preserved _ state labels initial]
  · exact along_trivial state labels
  · intro before label _ held _
    exact iff_of_true (guaranteed before label held) trivial

theorem throughout_iff (invariant holds : State → Prop) (condition : State → Label → Prop)
    (preserved : ∀ state label next, invariant state → step state label = some next → invariant next)
    (exact_step : ∀ state label next, invariant state → holds state →
      step state label = some next → (holds next ↔ condition state label))
    (state : State) (labels : List Label) (shaped : invariant state) (initial : holds state) :
    Throughout step holds state labels ↔ Along step condition state labels := by
  induction labels generalizing state with
  | nil =>
    have here : Throughout step holds state [] := (throughout_nil holds state).mpr initial
    exact iff_of_true here trivial
  | cons label rest ih =>
    rw [throughout_cons]
    constructor
    · intro throughout next taken
      have later := throughout.2 next taken
      have arrived : holds next := later [] rest next rfl rfl
      have shape := preserved state label next shaped taken
      have allowed := (exact_step state label next shaped initial taken).mp arrived
      exact ⟨allowed,(ih next shape arrived).mp later⟩
    · intro along
      refine ⟨initial,?_⟩
      intro next taken
      obtain ⟨allowed,later⟩ := along next taken
      have arrived := (exact_step state label next shaped initial taken).mpr allowed
      have shape := preserved state label next shaped taken
      exact (ih next shape arrived).mpr later

/-! The same where a step is exact in every state, with no invariant in between. -/

theorem along_exact (first second : State → Label → Prop)
    (agree : ∀ state label next, step state label = some next →
      (first state label ↔ second state label))
    (state : State) (labels : List Label) :
    Along step first state labels ↔ Along step second state labels := by
  apply along_congr (fun _ => True) first second _ _ state labels trivial
  · intro _ _ _ _ _
    trivial
  · intro before label next _ taken
    exact agree before label next taken

theorem throughout_exact (holds : State → Prop) (condition : State → Label → Prop)
    (exact_step : ∀ state label next, holds state → step state label = some next →
      (holds next ↔ condition state label))
    (state : State) (labels : List Label) (initial : holds state) :
    Throughout step holds state labels ↔ Along step condition state labels := by
  apply throughout_iff (fun _ => True) holds condition _ _ state labels trivial initial
  · intro _ _ _ _ _
    trivial
  · intro before label next _ held taken
    exact exact_step before label next held taken

end Runs
