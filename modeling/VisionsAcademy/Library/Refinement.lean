import Mathlib.Order.Basic
import VisionsAcademy.Library.Runs

/-! One system seen through another. A view maps the states of the concrete system to those
of the abstract one; where it commutes with the steps it commutes with whole sequences. -/
namespace Refinement

section Folds

variable {Concrete Abstract Action : Type*} (perform : Concrete → Action → Concrete)
  (act : Abstract → Action → Abstract) (view : Concrete → Abstract)

theorem fold_view (permitted : Action → Prop)
    (commutes : ∀ state action, permitted action →
      view (perform state action) = act (view state) action)
    (state : Concrete) (actions : List Action) (all : ∀ action ∈ actions, permitted action) :
    view (actions.foldl perform state) = actions.foldl act (view state) := by
  induction actions generalizing state with
  | nil => rfl
  | cons action rest ih =>
    have here := commutes state action (all action List.mem_cons_self)
    have later := ih (perform state action)
      fun next member => all next (List.mem_cons_of_mem _ member)
    rw [List.foldl_cons,List.foldl_cons,← here]
    exact later

/-- Actions that leave the view alone can be left out. `shape` is what the view does not show
and the actions keep. -/
theorem fold_filter (shape : Concrete → Prop) (relevant : Action → Bool)
    (kept : ∀ state action, shape state → shape (perform state action))
    (respects : ∀ first second action, shape first → shape second → view first = view second →
      view (perform first action) = view (perform second action))
    (silent : ∀ state action, shape state → relevant action = false →
      view (perform state action) = view state)
    (first second : Concrete) (actions : List Action) (one : shape first) (other : shape second)
    (same : view first = view second) :
    view (actions.foldl perform first) = view ((actions.filter relevant).foldl perform second) := by
  induction actions generalizing first second with
  | nil => exact same
  | cons action rest ih =>
    have next := kept first action one
    cases concerned : relevant action with
    | true =>
      rw [List.filter_cons_of_pos concerned]
      exact ih _ _ next (kept second action other) (respects first second action one other same)
    | false =>
      rw [List.filter_cons_of_neg (by simp [concerned])]
      exact ih _ _ next other ((silent first action one concerned).trans same)

end Folds

section Runs

variable {State Label : Type*} {step : State → Label → Option State}

/-- What only some steps bring about comes from the start or from one of them. -/
theorem run_origin (invariant holds : State → Prop) (grants : Label → Prop)
    (preserved : ∀ state label next, invariant state → step state label = some next → invariant next)
    (origin : ∀ state label next, invariant state → step state label = some next → holds next →
      holds state ∨ grants label)
    (state final : State) (labels : List Label) (shaped : invariant state)
    (reached : Runs.run step state labels = some final) (arrived : holds final) :
    holds state ∨ ∃ label ∈ labels, grants label := by
  induction labels generalizing state with
  | nil =>
    cases Option.some.inj reached
    exact Or.inl arrived
  | cons label rest ih =>
    obtain ⟨next,taken,later⟩ := (Runs.run_cons _ _ _ _).mp reached
    rcases ih next (preserved state label next shaped taken) later with here | ⟨other,member,granted⟩
    · rcases origin state label next shaped taken here with before | granted
      · exact Or.inl before
      · exact Or.inr ⟨label,List.mem_cons_self,granted⟩
    · exact Or.inr ⟨other,List.mem_cons_of_mem _ member,granted⟩

theorem run_origin_exact (holds : State → Prop) (grants : Label → Prop)
    (origin : ∀ state label next, step state label = some next → holds next →
      holds state ∨ grants label)
    (state final : State) (labels : List Label) (reached : Runs.run step state labels = some final)
    (arrived : holds final) : holds state ∨ ∃ label ∈ labels, grants label := by
  apply run_origin (fun _ => True) holds grants _ _ state final labels trivial reached arrived
  · intro _ _ _ _ _
    trivial
  · intro before label next _ taken later
    exact origin before label next taken later

theorem along_labels (permitted : Label → Prop) (state : State) (labels : List Label)
    (all : ∀ label ∈ labels, permitted label) :
    Runs.Along step (fun _ label => permitted label) state labels := by
  induction labels generalizing state with
  | nil => trivial
  | cons label rest ih =>
    intro next _
    exact ⟨all label List.mem_cons_self,ih next fun other member => all other (List.mem_cons_of_mem _ member)⟩

theorem along_guaranteed (invariant : State → Prop) (permitted guaranteed : State → Label → Prop)
    (preserved : ∀ state label next, invariant state → permitted state label →
      step state label = some next → invariant next)
    (enough : ∀ state label, invariant state → guaranteed state label)
    (state : State) (labels : List Label) (shaped : invariant state)
    (along : Runs.Along step permitted state labels) : Runs.Along step guaranteed state labels := by
  induction labels generalizing state with
  | nil => trivial
  | cons label rest ih =>
    intro next taken
    obtain ⟨allowed,later⟩ := along next taken
    exact ⟨enough state label shaped,ih next (preserved state label next shaped allowed taken) later⟩

theorem run_lasting (holds : State → Prop) (grants : Label → Prop)
    (established : ∀ state label next, grants label → step state label = some next → holds next)
    (preserved : ∀ state label next, holds state → step state label = some next → holds next)
    (state final : State) (labels : List Label) (reached : Runs.run step state labels = some final)
    (label : Label) (member : label ∈ labels) (granted : grants label) : holds final := by
  induction labels generalizing state with
  | nil => contradiction
  | cons first rest ih =>
    obtain ⟨next,taken,later⟩ := (Runs.run_cons _ _ _ _).mp reached
    rcases List.mem_cons.mp member with rfl | after
    · exact Runs.unconditional holds preserved next final rest (established state label next granted taken) later
    · exact ih next later after

theorem run_constant_iff {Measure : Type*} [PartialOrder Measure] (invariant : State → Prop)
    (measure : State → Measure) (condition : State → Label → Prop)
    (preserved : ∀ state label next, invariant state → step state label = some next → invariant next)
    (grows : ∀ state label next, invariant state → step state label = some next →
      measure state ≤ measure next)
    (exact_step : ∀ state label next, invariant state → step state label = some next →
      (measure next = measure state ↔ condition state label))
    (state final : State) (labels : List Label) (shaped : invariant state)
    (reached : Runs.run step state labels = some final) :
    measure state ≤ measure final ∧
      (measure final = measure state ↔ Runs.Along step condition state labels) := by
  induction labels generalizing state with
  | nil =>
    cases Option.some.inj reached
    exact ⟨le_refl _,iff_of_true rfl trivial⟩
  | cons label rest ih =>
    obtain ⟨next,taken,arrived⟩ := (Runs.run_cons _ _ _ _).mp reached
    have first := grows state label next shaped taken
    obtain ⟨later,constant⟩ := ih next (preserved state label next shaped taken) arrived
    refine ⟨first.trans later,?_⟩
    constructor
    · intro same
      -- the quantity cannot come back down, so the first step left it as well
      have here : measure next = measure state := le_antisymm (later.trans_eq same) first
      exact Runs.along_step condition state next label rest taken
        ((exact_step state label next shaped taken).mp here) (constant.mp (same.trans here.symm))
    · intro along
      obtain ⟨allowed,others⟩ := along next taken
      have here := (exact_step state label next shaped taken).mpr allowed
      exact (constant.mpr others).trans here

theorem run_history (holds : List Label → State → Prop)
    (preserved : ∀ past state label next, holds past state → step state label = some next →
      holds (past ++ [label]) next)
    (past labels : List Label) (state final : State) (begun : holds past state)
    (reached : Runs.run step state labels = some final) : holds (past ++ labels) final := by
  induction labels generalizing past state with
  | nil =>
    cases Option.some.inj reached
    rwa [List.append_nil]
  | cons label rest ih =>
    obtain ⟨next,taken,later⟩ := (Runs.run_cons _ _ _ _).mp reached
    have arrived := ih (past ++ [label]) next (preserved past state label next begun taken) later
    rwa [List.append_assoc] at arrived

end Runs

end Refinement
