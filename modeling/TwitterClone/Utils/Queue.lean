import TwitterClone.Foundation.Monitor

/-! The queue by which threads hand elements to each other. A section begins where the
mutex is acquired, also at the end of a wait, and ends at the next wait or with the call.
`size` changes nothing, and `get` and `set` do not lock; they are left out. -/
namespace TwitterClone.Queue

open Foundation

variable {T Thread : Type*}

inductive CvStatus where
  | noTimeout
  | timeout
  deriving DecidableEq

inductive Call (T : Type*) where
  | insert (element : T)
  | remove
  | tryRemove
  | tryRemoveFor (milliseconds : Nat)
  deriving DecidableEq

/-- Where a thread is while it does not have the mutex. A pair with `false` is returned as
`none`. -/
inductive Place (T : Type*) where
  | idle
  | calling (call : Call T)
  | notifying
  | waiting
  | waitingFor (milliseconds : Nat)
  | returned (element : Option T)
  | undefined
  deriving DecidableEq

/-- A lock that is tried may be busy, and a wait may end at any time: in time or not, with
or without a notification. -/
inductive Move (T : Type*) where
  | call (call : Call T)
  | lock
  | busy
  | wake (status : CvStatus)
  | notify
  deriving DecidableEq

/-- What a thread does with the mutex; `m_queue` is all that is shared. -/
abbrev Body (T : Type*) := Section (List T) (Place T)

/-- `front` and `pop_front`, with the element returned. An empty deque has no front. -/
def takeFront : Body T :=
  .statement id fun queue =>
    match queue with
    | [] => .leave .undefined
    | element :: _ => .statement List.tail fun _ => .leave (.returned (some element))

def insert (element : T) : Body T :=
  .statement (· ++ [element]) fun _ => .leave .notifying

/-- From the test of the loop on. -/
def remove : Body T :=
  .statement id fun queue => if queue.isEmpty = true then .leave .waiting else takeFront

def tryRemove : Body T :=
  .statement id fun queue => if queue.isEmpty ≠ true then takeFront else .leave (.returned none)

/-- From the test of the loop on, with the status that the last wait has left. -/
def tryRemoveFor (milliseconds : Nat) (status : CvStatus) : Body T :=
  .statement id fun queue =>
    if queue.isEmpty = true ∧ status = .noTimeout then .leave (.waitingFor milliseconds)
    else if status = .noTimeout then takeFront
    else .leave (.returned none)

/-- Whoever waits may wake without `notify_one`, so it matters to no other thread. -/
def monitor : Monitor (List T) (Place T) (Move T) where
  outside
    | .idle, .call call | .returned _, .call call => some (.calling call)
    | .calling .tryRemove, .busy => some (.returned none)
    | .notifying, .notify => some .idle
    | _, _ => none
  inside
    | .calling (.insert element), .lock => some (insert element)
    | .calling .remove, .lock => some remove
    | .calling .tryRemove, .lock => some tryRemove
    | .calling (.tryRemoveFor milliseconds), .lock => some (tryRemoveFor milliseconds .noTimeout)
    | .waiting, .wake _ => some remove
    | .waitingFor milliseconds, .wake status => some (tryRemoveFor milliseconds status)
    | _, _ => none

def start : Monitor.State Thread (List T) (Place T) where
  shared := []
  places _ := .idle

/-- The element that is inserted by the section that begins here. -/
def Place.brings : Place T → Option T
  | .calling (.insert element) => some element
  | _ => none

/-- The element that is returned by the section that ends here. -/
def Place.hands : Place T → Option T
  | .returned element => element
  | _ => none

section Histories

variable (state : Monitor.State Thread (List T) (Place T))

def inserted : List T := state.sections.filterMap fun ends => ends.1.brings

/-- An element is returned by the section that removes it. -/
def returned : List T := state.sections.filterMap fun ends => ends.2.hands

/-- No element is lost, doubled or overtaken, and no empty deque was asked for its front. -/
structure InOrder : Prop where
  lossless : returned state ++ state.shared = inserted state
  defined : ∀ thread, state.places thread ≠ .undefined

end Histories

/-- A step that neither inserts nor returns an element leaves the contents unchanged: so
does every step of a removal that reports a failure, from the call to the report. -/
def LeavesContents [DecidableEq Thread] (state : Monitor.State Thread (List T) (Place T))
    (action : Monitor.Action Thread (Move T)) : Prop :=
  ∀ next, monitor.step state action = some next →
    (state.places action.thread).brings = none →
      (next.places action.thread).hands = none → next.shared = state.shared

/-- What a section does to the contents, by the places where it begins and ends. -/
structure Fits (began : Place T) (queue : List T) (ended : List T × Place T) : Prop where
  inOrder : ended.2.hands.toList ++ ended.1 = queue ++ began.brings.toList
  defined : ended.2 ≠ .undefined

section Sections

variable {began : Place T}

theorem fits_insert (element : T) (queue : List T) :
    Fits (.calling (.insert element)) queue ((insert element).complete queue) :=
  ⟨rfl, nofun⟩

/-- Nothing is taken, and nothing returned. -/
theorem Fits.same (silent : began.brings = none) {queue : List T} {ended : Place T}
    (none : ended.hands = none) (defined : ended ≠ .undefined) :
    Fits began queue (queue, ended) where
  inOrder := by rw [silent, none]; exact (List.append_nil queue).symm
  defined

/-- The first element is taken and returned. -/
theorem Fits.front (silent : began.brings = none) (element : T) (rest : List T) :
    Fits began (element :: rest) (takeFront.complete (element :: rest)) where
  inOrder := by rw [silent]; exact (List.append_nil _).symm
  defined := nofun

/-- Whoever brings nothing takes the front, or leaves an empty queue with nothing. -/
theorem Fits.frontOr (silent : began.brings = none) (body : Body T) (otherwise : Place T)
    (none : otherwise.hands = none) (defined : otherwise ≠ .undefined)
    (empty : body.complete [] = ([], otherwise))
    (filled : ∀ element rest,
      body.complete (element :: rest) = takeFront.complete (element :: rest))
    (queue : List T) : Fits began queue (body.complete queue) := by
  cases queue with
  | nil =>
    rw [empty]
    exact .same silent none defined
  | cons element rest =>
    rw [filled]
    exact .front silent element rest

theorem fits_remove (silent : began.brings = none) (queue : List T) :
    Fits began queue (remove.complete queue) :=
  .frontOr silent remove .waiting rfl nofun rfl (fun _ _ => rfl) queue

theorem fits_tryRemove (silent : began.brings = none) (queue : List T) :
    Fits began queue (tryRemove.complete queue) :=
  .frontOr silent tryRemove (.returned none) rfl nofun rfl (fun _ _ => rfl) queue

/-- The status decides, and it lets the front be taken only when the loop has ended on a
deque that is not empty. -/
theorem fits_tryRemoveFor (silent : began.brings = none) (milliseconds : Nat) (status : CvStatus)
    (queue : List T) : Fits began queue ((tryRemoveFor milliseconds status).complete queue) := by
  cases status with
  | timeout => cases queue <;> exact .same silent rfl nofun
  | noTimeout =>
    exact .frontOr silent (tryRemoveFor milliseconds .noTimeout) (.waitingFor milliseconds)
      rfl nofun rfl (fun _ _ => rfl) queue

theorem fits_inside {move : Move T} {body : Body T}
    (entered : monitor.inside began move = some body) (queue : List T) :
    Fits began queue (body.complete queue) := by
  unfold monitor at entered
  dsimp only at entered
  split at entered
  next element => cases entered; exact fits_insert element queue
  next => cases entered; exact fits_remove rfl queue
  next => cases entered; exact fits_tryRemove rfl queue
  next milliseconds => cases entered; exact fits_tryRemoveFor rfl milliseconds .noTimeout queue
  next => cases entered; exact fits_remove rfl queue
  next milliseconds status =>
    cases entered
    exact fits_tryRemoveFor rfl milliseconds status queue
  next => cases entered

theorem defined_outside {move : Move T} {place : Place T}
    (moved : monitor.outside began move = some place) : place ≠ .undefined := by
  unfold monitor at moved
  dsimp only at moved
  split at moved <;> cases moved <;> nofun

end Sections

section Runs

theorem inOrder_start : InOrder (start : Monitor.State Thread (List T) (Place T)) where
  lossless := rfl
  defined _ := nofun

variable [DecidableEq Thread] {state next : Monitor.State Thread (List T) (Place T)}
  {action : Monitor.Action Thread (Move T)}

theorem defined_update {places : Thread → Place T} (defined : ∀ thread, places thread ≠ .undefined)
    {place : Place T} (there : place ≠ .undefined) (mover thread : Thread) :
    Function.update places mover place thread ≠ .undefined := by
  rw [Function.update_apply]
  split
  next => exact there
  next => exact defined thread

theorem returned_finish (state : Monitor.State Thread (List T) (Place T)) (thread : Thread)
    (body : Body T) :
    returned (state.finish thread body) =
      returned state ++ (body.complete state.shared).2.hands.toList := by
  rw [returned, Monitor.State.finish, List.filterMap_append]
  rfl

theorem inserted_finish (state : Monitor.State Thread (List T) (Place T)) (thread : Thread)
    (body : Body T) :
    inserted (state.finish thread body) =
      inserted state ++ (state.places thread).brings.toList := by
  rw [inserted, Monitor.State.finish, List.filterMap_append]
  rfl

theorem InOrder.step (inOrder : InOrder state) (taken : monitor.step state action = some next) :
    InOrder next := by
  cases action with
  | outside thread move =>
    obtain ⟨place, moved, rfl⟩ := Option.map_eq_some_iff.mp taken
    exact ⟨inOrder.lossless, defined_update inOrder.defined (defined_outside moved) thread⟩
  | inside thread move =>
    obtain ⟨body, entered, rfl⟩ := Option.map_eq_some_iff.mp taken
    have fits := fits_inside entered state.shared
    refine ⟨?_, defined_update inOrder.defined fits.defined thread⟩
    calc returned (state.finish thread body) ++ (body.complete state.shared).1
        = returned state ++ ((body.complete state.shared).2.hands.toList ++
            (body.complete state.shared).1) := by rw [returned_finish, List.append_assoc]
      _ = returned state ++ (state.shared ++ (state.places thread).brings.toList) := by
          rw [fits.inOrder]
      _ = inserted (state.finish thread body) := by
          rw [← List.append_assoc, inOrder.lossless, inserted_finish]

theorem leavesContents (state : Monitor.State Thread (List T) (Place T))
    (action : Monitor.Action Thread (Move T)) : LeavesContents state action := by
  intro next taken silent none
  cases action with
  | outside thread move =>
    obtain ⟨place, moved, rfl⟩ := Option.map_eq_some_iff.mp taken
    rfl
  | inside thread move =>
    obtain ⟨body, entered, rfl⟩ := Option.map_eq_some_iff.mp taken
    have order := (fits_inside entered state.shared).inOrder
    have ended : (body.complete state.shared).2.hands = Option.none := by
      rw [← none]
      exact congrArg Place.hands (Function.update_self thread _ state.places).symm
    have began : (state.places thread).brings = Option.none := silent
    rw [ended, began] at order
    exact order.trans (List.append_nil state.shared)

theorem inOrder_run {first : Monitor.State Thread (List T) (Place T)}
    {actions : List (Monitor.Action Thread (Move T))} (inOrder : InOrder first)
    (reached : run monitor.step first actions = some state) : InOrder state :=
  run_invariant (fun _ _ _ inOrder taken => InOrder.step inOrder taken) inOrder reached

end Runs

/-- However the sections of any number of threads follow each other and however the waits
end, the elements returned so far and the contents are the elements inserted so far, in
order; no front is taken of an empty deque; and who is returned nothing has changed
nothing. -/
theorem lossless_of_run [DecidableEq Thread] (actions : List (Monitor.Action Thread (Move T)))
    (state : Monitor.State Thread (List T) (Place T))
    (reached : run monitor.step start actions = some state) :
    InOrder state ∧ AllMeet monitor.step LeavesContents start actions :=
  ⟨inOrder_run inOrder_start reached, .of_forall leavesContents⟩

/-- A wait runs out of time just after an element has arrived, and ends by chance when
another thread has taken it. -/
def lateArrival : List (Monitor.Action Nat (Move Char)) :=
  [.outside 1 (.call (.tryRemoveFor 1500)), .inside 1 .lock, .outside 2 (.call .remove),
    .inside 2 .lock, .outside 0 (.call (.insert 'a')), .inside 0 .lock,
    .inside 1 (.wake .timeout), .outside 0 .notify, .outside 3 (.call .tryRemove),
    .outside 3 .busy, .outside 3 (.call .tryRemove), .inside 3 .lock,
    .inside 2 (.wake .noTimeout), .outside 0 (.call (.insert 'b')), .inside 0 .lock]

theorem lossless_of_lateArrival :
    ∃ state, run monitor.step start lateArrival = some state ∧ state.places 1 = .returned none ∧
      state.places 2 = .waiting ∧ state.places 3 = .returned (some 'a') ∧ state.shared = ['b'] ∧
      InOrder state ∧ AllMeet monitor.step LeavesContents start lateArrival :=
  ⟨_, rfl, rfl, rfl, rfl, rfl, lossless_of_run lateArrival _ rfl⟩

/-- The same for single statements, with the section under way run to its end, and nobody is
about to take the front of an empty deque. -/
theorem lossless_of_statements [DecidableEq Thread]
    {statements : List (Monitor.Statement Thread (Move T))}
    {state : Monitor.Underway Thread (List T) (Place T)}
    (reached : run monitor.stepStatement { toState := start } statements = some state) :
    InOrder state.settled ∧ ∀ thread, state.holder ≠ some (thread, .leave .undefined) := by
  have inOrder := inOrder_run inOrder_start (Monitor.run_settled reached)
  refine ⟨inOrder, ?_⟩
  intro thread held
  have defined := inOrder.defined thread
  rw [Monitor.settled_held held] at defined
  exact defined (Function.update_self thread _ state.places)

end TwitterClone.Queue
