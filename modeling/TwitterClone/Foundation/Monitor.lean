import TwitterClone.Foundation.Machine

/-! Threads that share a state under one mutex. Whoever has the mutex runs alone until it
is given back, so that all this can be taken as one step: `run_settled`. -/
namespace TwitterClone.Foundation

variable {Shared Place Move Thread : Type*}

/-- What a thread does while it has the mutex: statements on the shared state, which go on
by what they find there, and the place where the thread is when it has given the mutex
back. -/
inductive Section (Shared Place : Type*) where
  | leave (place : Place)
  | statement (update : Shared → Shared) (next : Shared → Section Shared Place)

/-- All statements at once. -/
def Section.complete : Section Shared Place → Shared → Shared × Place
  | .leave place, shared => (shared, place)
  | .statement update next, shared => (next shared).complete (update shared)

/-- The code of the threads: its moves without the mutex, and the sections that it runs
when it has acquired the mutex. -/
structure Monitor (Shared Place Move : Type*) where
  outside : Place → Move → Option Place
  inside : Place → Move → Option (Section Shared Place)

namespace Monitor

/-- Between two sections. The history has the places where each section began and ended. -/
structure State (Thread Shared Place : Type*) where
  shared : Shared
  places : Thread → Place
  sections : List (Place × Place) := []

inductive Action (Thread Move : Type*) where
  | outside (thread : Thread) (move : Move)
  | inside (thread : Thread) (move : Move)
  deriving DecidableEq

def Action.thread : Action Thread Move → Thread
  | .outside thread _ | .inside thread _ => thread

/-- Anywhere, also inside a section, with the statements that are left of it. -/
structure Underway (Thread Shared Place : Type*) extends State Thread Shared Place where
  holder : Option (Thread × Section Shared Place) := none

inductive Statement (Thread Move : Type*) where
  | outside (thread : Thread) (move : Move)
  | acquire (thread : Thread) (move : Move)
  | advance
  deriving DecidableEq

/-- The step that a statement begins, if it begins one. -/
def Statement.begins : Statement Thread Move → Option (Action Thread Move)
  | .outside thread move => some (.outside thread move)
  | .acquire thread move => some (.inside thread move)
  | .advance => none

section Steps

variable [DecidableEq Thread]

def State.goTo (state : State Thread Shared Place) (thread : Thread) (place : Place) :
    State Thread Shared Place :=
  { state with places := Function.update state.places thread place }

/-- The thread runs its section to the end. -/
def State.finish (state : State Thread Shared Place) (thread : Thread)
    (rest : Section Shared Place) : State Thread Shared Place where
  shared := (rest.complete state.shared).1
  places := Function.update state.places thread (rest.complete state.shared).2
  sections := state.sections ++ [(state.places thread, (rest.complete state.shared).2)]

/-- A step is a move without the mutex, or a whole section. -/
def step (monitor : Monitor Shared Place Move) (state : State Thread Shared Place) :
    Action Thread Move → Option (State Thread Shared Place)
  | .outside thread move => (monitor.outside (state.places thread) move).map (state.goTo thread)
  | .inside thread move => (monitor.inside (state.places thread) move).map (state.finish thread)

def Underway.Holds (state : Underway Thread Shared Place) (thread : Thread) : Prop :=
  thread ∈ state.holder.map Prod.fst

instance (state : Underway Thread Shared Place) (thread : Thread) :
    Decidable (state.Holds thread) :=
  inferInstanceAs (Decidable (_ ∈ Option.map _ _))

/-- The next statement of one thread. The mutex has one holder, and only the holder is
inside a section. -/
def stepStatement (monitor : Monitor Shared Place Move) (state : Underway Thread Shared Place) :
    Statement Thread Move → Option (Underway Thread Shared Place)
  | .outside thread move =>
    if state.Holds thread then none
    else (monitor.outside (state.places thread) move).map fun place =>
      { state with toState := state.goTo thread place }
  | .acquire thread move =>
    match state.holder with
    | some _ => none
    | none => (monitor.inside (state.places thread) move).map fun body =>
        { state with holder := some (thread, body) }
  | .advance =>
    match state.holder with
    | none => none
    | some (thread, .leave place) => some { toState := state.finish thread (.leave place) }
    | some (thread, .statement update next) =>
      some { state with shared := update state.shared, holder := some (thread, next state.shared) }

/-- The holder of the mutex is let run to the end of its section. -/
def Underway.settled (state : Underway Thread Shared Place) : State Thread Shared Place :=
  match state.holder with
  | none => state.toState
  | some (thread, rest) => state.finish thread rest

variable {monitor : Monitor Shared Place Move}

/-- A move without the mutex does not matter to the section of another thread. -/
theorem finish_goTo (state : State Thread Shared Place) {thread holder : Thread}
    (different : thread ≠ holder) (place : Place) (rest : Section Shared Place) :
    (state.goTo thread place).finish holder rest =
      (state.finish holder rest).goTo thread place := by
  have started : Function.update state.places thread place holder = state.places holder :=
    Function.update_of_ne different.symm place state.places
  simp only [State.finish, State.goTo, started, Function.update_comm different]

theorem settled_held {state : Underway Thread Shared Place} {thread : Thread}
    {rest : Section Shared Place} (held : state.holder = some (thread, rest)) :
    state.settled = state.finish thread rest := by
  rw [Underway.settled, held]

/-- A section counts when the mutex is acquired, and its statements change nothing more. -/
theorem settled_step {state next : Underway Thread Shared Place}
    {statement : Statement Thread Move}
    (taken : monitor.stepStatement state statement = some next) :
    run monitor.step state.settled statement.begins.toList = some next.settled := by
  obtain ⟨before, holder⟩ := state
  cases statement with
  | outside thread move =>
    rw [stepStatement] at taken
    split at taken
    next => cases taken
    next waits =>
      obtain ⟨place, moved, rfl⟩ := Option.map_eq_some_iff.mp taken
      refine run_cons.mpr ⟨_, ?_, rfl⟩
      cases holder with
      | none => exact congrArg (Option.map (before.goTo thread)) moved
      | some holding =>
        obtain ⟨holder, rest⟩ := holding
        have different : thread ≠ holder := by
          rintro rfl
          exact waits rfl
        have there : (before.finish holder rest).places thread = before.places thread :=
          Function.update_of_ne different _ _
        show monitor.step (before.finish holder rest) _ =
          some ((before.goTo thread place).finish holder rest)
        rw [step, there, moved, Option.map_some, finish_goTo before different]
  | acquire thread move =>
    cases holder with
    | some holding => cases taken
    | none =>
      obtain ⟨body, entered, rfl⟩ := Option.map_eq_some_iff.mp taken
      refine run_cons.mpr ⟨_, ?_, rfl⟩
      exact congrArg (Option.map (before.finish thread)) entered
  | advance =>
    cases holder with
    | none => cases taken
    | some holding =>
      obtain ⟨thread, rest⟩ := holding
      cases rest with
      | leave place =>
        cases taken
        rfl
      | statement update next =>
        cases taken
        rfl

/-- However the statements of the threads are interleaved, this is a run of whole sections,
in the order in which the mutex was acquired. -/
theorem run_settled {state final : Underway Thread Shared Place}
    {statements : List (Statement Thread Move)}
    (reached : run monitor.stepStatement state statements = some final) :
    run monitor.step state.settled (statements.filterMap Statement.begins) =
      some final.settled := by
  rw [List.filterMap_eq_flatMap_toList]
  induction statements generalizing state with
  | nil => exact congrArg (some ·.settled) (Option.some.inj reached)
  | cons statement rest ih =>
    obtain ⟨next, taken, after⟩ := run_cons.mp reached
    exact run_append.mpr ⟨next.settled, settled_step taken, ih after⟩

end Steps

end Monitor

end TwitterClone.Foundation
