import TwitterClone.Foundation.Machine

/-! One machine that does what another one says. A step of the first is described by a
list of actions of the second: of none where nothing happens in its terms. -/
namespace TwitterClone.Foundation

variable {State Action Spec Label : Type*}

/-- What a run is called in the terms of the other machine. -/
def labels (step : State → Action → Option State) (label : State → Action → List Label) :
    State → List Action → List Label
  | _, [] => []
  | state, action :: rest => label state action ++
    match step state action with
    | some next => labels step label next rest
    | none => []

/-- From a state that is matched, every step that meets the condition is matched by the
actions that describe it. -/
structure Simulation (step : State → Action → Option State) (spec : Spec → Label → Option Spec)
    (label : State → Action → List Label) (condition : State → Action → Prop)
    (Matches : State → Spec → Prop) : Prop where
  matchStep : ∀ {state next : State} {action : Action} {shown : Spec}, Matches state shown →
    condition state action → step state action = some next →
      ∃ later, run spec shown (label state action) = some later ∧ Matches next later

variable {step : State → Action → Option State} {spec : Spec → Label → Option Spec}
  {label : State → Action → List Label} {condition : State → Action → Prop}
  {Matches : State → Spec → Prop}

/-- A run of such steps is matched by the run that describes it. -/
theorem Simulation.run_matches (simulation : Simulation step spec label condition Matches)
    {state final : State} {shown : Spec} {actions : List Action} (holds : Matches state shown)
    (meets : AllMeet step condition state actions) (reached : run step state actions = some final) :
    ∃ last, run spec shown (labels step label state actions) = some last ∧ Matches final last := by
  induction actions generalizing state shown with
  | nil =>
    obtain rfl := Option.some.inj reached
    exact ⟨shown, rfl, holds⟩
  | cons action rest ih =>
    obtain ⟨next, taken, after⟩ := run_cons.mp reached
    obtain ⟨later, described, matched⟩ := simulation.matchStep holds meets.1 taken
    obtain ⟨last, follows, matchedLast⟩ := ih matched (meets.2 next taken) after
    refine ⟨last, ?_, matchedLast⟩
    rw [labels, taken]
    exact run_append.mpr ⟨later, described, follows⟩

end TwitterClone.Foundation
