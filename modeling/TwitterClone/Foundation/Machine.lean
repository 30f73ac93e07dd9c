import Mathlib

/-! Machines given by a partial step function. A run is a list of actions; an
action that is not enabled where it stands has no successor. -/
namespace TwitterClone.Foundation

universe u v

variable {State : Type u} {Action : Type v}

/-- Run a list of actions from a state, if every one of them is enabled. -/
def run (step : State → Action → Option State) : State → List Action → Option State
  | state, [] => some state
  | state, action :: rest => (step state action).bind fun next => run step next rest

/-- Every action of the list meets the condition in the state it is taken in. -/
def AllMeet (step : State → Action → Option State) (condition : State → Action → Prop) :
    State → List Action → Prop
  | _, [] => True
  | state, action :: rest => condition state action ∧
      ∀ next, step state action = some next → AllMeet step condition next rest

/-- The property holds in every state that the run goes through. -/
def Always (step : State → Action → Option State) (property : State → Prop) :
    State → List Action → Prop
  | state, [] => property state
  | state, action :: rest => property state ∧
      ∀ next, step state action = some next → Always step property next rest

variable {step : State → Action → Option State}

instance {condition : State → Action → Prop} [∀ state action, Decidable (condition state action)] :
    (state : State) → (actions : List Action) → Decidable (AllMeet step condition state actions)
  | _, [] => isTrue trivial
  | state, action :: rest =>
    match taken : step state action with
    | none => decidable_of_iff (condition state action) (by simp [AllMeet, taken])
    | some next =>
      have : Decidable (AllMeet step condition next rest) :=
        instDecidableAllMeet next rest
      decidable_of_iff (condition state action ∧ AllMeet step condition next rest)
        (by simp [AllMeet, taken])

theorem AllMeet.cons {condition : State → Action → Prop} {state next : State} {action : Action}
    {rest : List Action} (taken : step state action = some next) (met : condition state action)
    (later : AllMeet step condition next rest) :
    AllMeet step condition state (action :: rest) :=
  ⟨met, fun _ other => Option.some.inj (taken.symm.trans other) ▸ later⟩

theorem AllMeet.and {first second : State → Action → Prop} {state : State}
    {actions : List Action} (left : AllMeet step first state actions)
    (right : AllMeet step second state actions) :
    AllMeet step (fun state action => first state action ∧ second state action) state actions := by
  induction actions generalizing state with
  | nil => trivial
  | cons action rest ih =>
    exact ⟨⟨left.1, right.1⟩, fun next taken => ih (left.2 next taken) (right.2 next taken)⟩

theorem AllMeet.imp {first second : State → Action → Prop}
    (weaker : ∀ state action, first state action → second state action) {state : State}
    {actions : List Action} (meets : AllMeet step first state actions) :
    AllMeet step second state actions := by
  induction actions generalizing state with
  | nil => trivial
  | cons action rest ih =>
    exact ⟨weaker state action meets.1, fun next taken => ih (meets.2 next taken)⟩

theorem AllMeet.of_forall {condition : State → Action → Prop}
    (meets : ∀ state action, condition state action) {state : State} {actions : List Action} :
    AllMeet step condition state actions := by
  induction actions generalizing state with
  | nil => trivial
  | cons action rest ih => exact ⟨meets state action, fun _ _ => ih⟩

theorem AllMeet.of_mem {condition : Action → Prop} {actions : List Action}
    (meets : ∀ action ∈ actions, condition action) {state : State} :
    AllMeet step (fun _ action => condition action) state actions := by
  induction actions generalizing state with
  | nil => trivial
  | cons action rest ih =>
    exact ⟨meets action List.mem_cons_self,
      fun _ _ => ih fun other member => meets other (List.mem_cons_of_mem action member)⟩

@[simp] theorem run_nil (state : State) : run step state [] = some state := rfl

theorem run_cons {state final : State} {action : Action} {rest : List Action} :
    run step state (action :: rest) = some final ↔
      ∃ next, step state action = some next ∧ run step next rest = some final := by
  simp [run, Option.bind_eq_some_iff]

theorem run_append {state final : State} {first second : List Action} :
    run step state (first ++ second) = some final ↔
      ∃ middle, run step state first = some middle ∧ run step middle second = some final := by
  induction first generalizing state with
  | nil => simp
  | cons action rest ih =>
    simp only [List.cons_append, run_cons, ih]
    constructor
    · rintro ⟨next, taken, middle, reached, after⟩
      exact ⟨middle, ⟨next, taken, reached⟩, after⟩
    · rintro ⟨middle, ⟨next, taken, reached⟩, after⟩
      exact ⟨next, taken, middle, reached, after⟩

theorem Always.final {property : State → Prop} {state final : State} {actions : List Action}
    (always : Always step property state actions) (reached : run step state actions = some final) :
    property final := by
  induction actions generalizing state with
  | nil => exact Option.some.inj reached ▸ always
  | cons action rest ih =>
    obtain ⟨next, taken, after⟩ := run_cons.mp reached
    exact ih (always.2 next taken) after

/-- A property kept by every enabled action that meets the condition holds
wherever a run of such actions leads. -/
theorem run_preserves {condition : State → Action → Prop} {property : State → Prop}
    (kept : ∀ state action next, property state → condition state action →
      step state action = some next → property next)
    {state final : State} {actions : List Action} (holds : property state)
    (meets : AllMeet step condition state actions)
    (reached : run step state actions = some final) : property final := by
  induction actions generalizing state with
  | nil =>
    have same : state = final := Option.some.inj reached
    exact same ▸ holds
  | cons action rest ih =>
    obtain ⟨next, taken, after⟩ := run_cons.mp reached
    exact ih (kept state action next holds meets.1 taken) (meets.2 next taken) after

/-- Where the condition says exactly when a step keeps the property, a run keeps it
throughout if and only if all its steps meet the condition. What is known of all states
helps. -/
theorem always_iff_allMeet_of_invariant {condition : State → Action → Prop}
    {invariant property : State → Prop}
    (kept : ∀ state action next, invariant state → step state action = some next → invariant next)
    (exact : ∀ state action next, invariant state → property state →
      step state action = some next → (property next ↔ condition state action))
    {state final : State} {actions : List Action} (known : invariant state)
    (holds : property state) (reached : run step state actions = some final) :
    Always step property state actions ↔ AllMeet step condition state actions := by
  induction actions generalizing state with
  | nil => exact iff_of_true holds trivial
  | cons action rest ih =>
    obtain ⟨next, taken, after⟩ := run_cons.mp reached
    have here := exact state action next known holds taken
    have later := @ih next (kept state action next known taken)
    simp only [Always, AllMeet, taken, Option.some.injEq, forall_eq', holds, true_and]
    constructor
    · intro always
      have kept : property next := by
        cases rest with
        | nil => exact always
        | cons later more => exact always.1
      exact ⟨here.mp kept, (later kept after).mp always⟩
    · rintro ⟨met, meets⟩
      exact (later (here.mpr met) after).mpr meets

theorem always_iff_allMeet {condition : State → Action → Prop} {property : State → Prop}
    (exact : ∀ state action next, property state → step state action = some next →
      (property next ↔ condition state action))
    {state final : State} {actions : List Action} (holds : property state)
    (reached : run step state actions = some final) :
    Always step property state actions ↔ AllMeet step condition state actions :=
  always_iff_allMeet_of_invariant (fun _ _ _ _ _ => trivial)
    (fun state action next _ => exact state action next) trivial holds reached

/-- The unconditional rule: an invariant of the machine holds of every run. -/
theorem run_invariant {property : State → Prop}
    (kept : ∀ state action next, property state →
      step state action = some next → property next)
    {state final : State} {actions : List Action} (holds : property state)
    (reached : run step state actions = some final) : property final := by
  have meets : AllMeet step (fun _ _ => True) state actions := .of_forall fun _ _ => trivial
  exact run_preserves (fun state action next holds _ => kept state action next holds) holds meets
    reached

/-- What is said of a run so far and of the state it leads to, by induction from the end. -/
theorem run_history {property : List Action → State → Prop} {state final : State}
    (start : property [] state)
    (kept : ∀ front middle action next, run step state front = some middle →
      property front middle → step middle action = some next →
        property (front ++ [action]) next)
    {actions : List Action} (reached : run step state actions = some final) :
    property actions final := by
  induction actions using List.reverseRecOn generalizing final with
  | nil =>
    have same : state = final := Option.some.inj reached
    exact same ▸ start
  | append_singleton front action ih =>
    obtain ⟨middle, before, last⟩ := run_append.mp reached
    obtain ⟨next, taken, same⟩ := run_cons.mp last
    obtain rfl := Option.some.inj same
    exact kept front middle action next before (ih before) taken

/-- An action that only moves a parameter of the state on, taken any number of times. -/
theorem run_replicate {Parameter : Type*} {state : Parameter → State}
    {next : Parameter → Parameter} {action : Action}
    (moves : ∀ parameter, step (state parameter) action = some (state (next parameter)))
    (count : Nat) (parameter : Parameter) :
    run step (state parameter) (List.replicate count action) =
      some (state (next^[count] parameter)) := by
  induction count generalizing parameter with
  | zero => rfl
  | succ count ih =>
    rw [List.replicate_succ, run_cons, Function.iterate_succ_apply]
    exact ⟨_, moves parameter, ih (next parameter)⟩

end TwitterClone.Foundation
