import TwitterClone.Foundation.Machine

/-! A state that operations change one at a time. An operation may ask for the
state to be published; then its encoding is sent to one receiver after another,
and the next operation waits for that. -/
namespace TwitterClone.Foundation

universe u v w x

/-- Where the operation in progress stands. -/
inductive Publication (State : Type u) (Receiver : Type v) where
  | idle
  | changed (update : State)
  | sending (update : State) (rest : List Receiver)

structure Publisher (State : Type u) (Receiver : Type v) (Payload : Type w) where
  state : State
  publication : Publication State Receiver := .idle
  sent : List (Receiver × Payload) := []

inductive PublisherAction (Operation : Type x) where
  | operate (operation : Operation)
  | publish
  | send

namespace Publisher

variable {State : Type u} {Receiver : Type v} {Payload : Type w} {Operation : Type x}

/-- The receivers are those there are when the sending begins. -/
def step (apply : State → Operation → State × Option State) (encode : State → Payload)
    (receivers : List Receiver) (publisher : Publisher State Receiver Payload) :
    PublisherAction Operation → Option (Publisher State Receiver Payload)
  | .operate operation =>
    match publisher.publication with
    | .idle =>
      let (state, update) := apply publisher.state operation
      let publication := match update with
        | some update => .changed update
        | none => .idle
      some { publisher with state, publication }
    | _ => none
  | .publish =>
    match publisher.publication with
    | .changed update => some { publisher with publication := .sending update receivers }
    | _ => none
  | .send =>
    match publisher.publication with
    | .sending _ [] => some { publisher with publication := .idle }
    | .sending update (receiver :: rest) => some { publisher with
        publication := .sending update rest
        sent := publisher.sent ++ [(receiver, encode update)] }
    | _ => none

variable [DecidableEq Receiver]

def receivedBy (publisher : Publisher State Receiver Payload) (receiver : Receiver) :
    List Payload :=
  publisher.sent.filterMap fun message => if message.1 = receiver then some message.2 else none

omit [DecidableEq Receiver] in
/-- A message outside of any publication. -/
def post (publisher : Publisher State Receiver Payload) (receiver : Receiver)
    (payload : Payload) : Publisher State Receiver Payload :=
  { publisher with sent := publisher.sent ++ [(receiver, payload)] }

omit [DecidableEq Receiver] in
/-- The receivers that the publication in progress is still to reach. -/
def due (publisher : Publisher State Receiver Payload) : List Receiver :=
  match publisher.publication with
  | .sending _ rest => rest
  | _ => []

omit [DecidableEq Receiver] in
/-- A publication is going through the receivers. -/
def sending (publisher : Publisher State Receiver Payload) : Bool :=
  match publisher.publication with
  | .sending _ _ => true
  | _ => false

/-- What one step makes of a publisher. -/
inductive Moved (apply : State → Operation → State × Option State) (encode : State → Payload)
    (receivers : List Receiver) (publisher : Publisher State Receiver Payload) :
    PublisherAction Operation → Publisher State Receiver Payload → Prop where
  | asked (operation : Operation) (update : State) (idle : publisher.publication = .idle)
      (asks : (apply publisher.state operation).2 = some update) :
      Moved apply encode receivers publisher (.operate operation)
        { publisher with
          state := (apply publisher.state operation).1, publication := .changed update }
  | silent (operation : Operation) (idle : publisher.publication = .idle)
      (quiet : (apply publisher.state operation).2 = none) :
      Moved apply encode receivers publisher (.operate operation)
        { publisher with state := (apply publisher.state operation).1, publication := .idle }
  | begun (update : State) (changed : publisher.publication = .changed update) :
      Moved apply encode receivers publisher .publish
        { publisher with publication := .sending update receivers }
  | ended (update : State) (last : publisher.publication = .sending update []) :
      Moved apply encode receivers publisher .send { publisher with publication := .idle }
  | sent (update : State) (first : Receiver) (rest : List Receiver)
      (reaches : publisher.publication = .sending update (first :: rest)) :
      Moved apply encode receivers publisher .send
        { publisher.post first (encode update) with publication := .sending update rest }

variable (encode : State → Payload) (Same : State → State → Prop)

/-- If the receiver was ever sent anything, the last of it encodes the state. -/
def Shows (publisher : Publisher State Receiver Payload) (receiver : Receiver) : Prop :=
  ∀ payload, (publisher.receivedBy receiver).getLast? = some payload →
    ∃ shown, payload = encode shown ∧ Same shown publisher.state

omit [DecidableEq Receiver] in
/-- What is being published is the state. -/
def Exact (publisher : Publisher State Receiver Payload) : Prop :=
  match publisher.publication with
  | .idle => True
  | .changed update | .sending update _ => update = publisher.state

/-- Those who are watched are shown the state, unless the publication in progress
is still to reach them. -/
def Current (watched : List Receiver) (publisher : Publisher State Receiver Payload) : Prop :=
  match publisher.publication with
  | .idle => ∀ receiver ∈ watched, publisher.Shows encode Same receiver
  | .changed _ => True
  | .sending _ rest =>
    ∀ receiver ∈ watched, receiver ∉ rest → publisher.Shows encode Same receiver

/-- Since some publication, every receiver that none is on the way to has been reached. -/
def Served (receivers : List Receiver) (publisher : Publisher State Receiver Payload) : Prop :=
  ∀ receiver ∈ receivers, receiver ∉ publisher.due → publisher.receivedBy receiver ≠ []

variable {encode Same} {publisher next : Publisher State Receiver Payload}
  {apply : State → Operation → State × Option State} {receivers watched : List Receiver}
  {action : PublisherAction Operation}

omit [DecidableEq Receiver] in
theorem moved_step (taken : publisher.step apply encode receivers action = some next) :
    Moved apply encode receivers publisher action next := by
  unfold step at taken
  split at taken
  next operation =>
    split at taken
    next idle =>
      dsimp only at taken
      rw [← Option.some.inj taken]
      cases asks : (apply publisher.state operation).2 with
      | some update => exact .asked operation update idle asks
      | none => exact .silent operation idle asks
    next => cases taken
  next =>
    split at taken
    next update changed => exact Option.some.inj taken ▸ .begun update changed
    next => cases taken
  next =>
    split at taken
    next update last => exact Option.some.inj taken ▸ .ended update last
    next update first rest reaches =>
      exact Option.some.inj taken ▸ .sent update first rest reaches
    next => cases taken

@[simp] theorem receivedBy_post (receiver other : Receiver) (payload : Payload) :
    (publisher.post receiver payload).receivedBy other =
      publisher.receivedBy other ++ if receiver = other then [payload] else [] := by
  by_cases same : receiver = other <;> simp [receivedBy, post, same]

theorem shows_post (receiver : Receiver) {update : State} (same : Same update publisher.state) :
    (publisher.post receiver (encode update)).Shows encode Same receiver := by
  intro payload last
  rw [receivedBy_post, if_pos rfl, List.getLast?_concat] at last
  exact ⟨update, (Option.some.inj last).symm, same⟩

theorem Shows.post_other {receiver other : Receiver} (shows : publisher.Shows encode Same other)
    (different : receiver ≠ other) (payload : Payload) :
    (publisher.post receiver payload).Shows encode Same other := by
  intro shown last
  rw [receivedBy_post, if_neg different, List.append_nil] at last
  exact shows shown last

omit [DecidableEq Receiver] in
/-- Only an operation changes the state. -/
theorem state_step (moved : Moved apply encode receivers publisher action next) :
    next.state = match action with
      | .operate operation => (apply publisher.state operation).1
      | _ => publisher.state := by
  cases moved with
  | asked operation update idle asks => rfl
  | silent operation idle quiet => rfl
  | begun update changed => rfl
  | ended update last => rfl
  | sent update first rest reaches => rfl

omit [DecidableEq Receiver] in
theorem exact_step (asks : ∀ state operation update,
      (apply state operation).2 = some update → update = (apply state operation).1)
    (exact : publisher.Exact) (moved : Moved apply encode receivers publisher action next) :
    next.Exact := by
  unfold Exact at exact
  cases moved with
  | asked operation update idle asked => exact asks publisher.state operation update asked
  | silent operation idle quiet => trivial
  | begun update changed =>
    rw [changed] at exact
    exact exact
  | ended update last => trivial
  | sent update first rest reaches =>
    rw [reaches] at exact
    exact exact

/-- Whoever is watched stays up to date, if what changes without being published
does not matter. -/
theorem current_step (trans : ∀ first second third, Same first second → Same second third →
      Same first third) (refl : Same publisher.state publisher.state)
    (silent : ∀ operation, action = .operate operation → (apply publisher.state operation).2 = none →
      Same publisher.state (apply publisher.state operation).1)
    (within : ∀ receiver ∈ watched, receiver ∈ receivers) (exact : publisher.Exact)
    (current : publisher.Current encode Same watched)
    (moved : Moved apply encode receivers publisher action next) :
    next.Current encode Same watched := by
  unfold Exact at exact
  unfold Current at current
  cases moved with
  | asked operation update idle asks => trivial
  | silent operation idle quiet =>
    rw [idle] at current
    intro receiver member payload last
    obtain ⟨shown, encoded, same⟩ := current receiver member payload last
    exact ⟨shown, encoded, trans _ _ _ same (silent operation rfl quiet)⟩
  | begun update changed => exact fun receiver member left => absurd (within receiver member) left
  | ended update last =>
    rw [last] at current
    exact fun receiver member => current receiver member List.not_mem_nil
  | sent update first rest reaches =>
    rw [reaches] at exact current
    have shown : update = publisher.state := exact
    intro receiver member passed
    by_cases here : first = receiver
    · exact here ▸ shows_post first (shown ▸ refl)
    · refine Shows.post_other (current receiver member ?_) here _
      rw [List.mem_cons, not_or]
      exact ⟨Ne.symm here, passed⟩

/-- Publications send nothing to those who are not among the receivers. -/
theorem receivedBy_step {receiver : Receiver} (absent : receiver ∉ receivers)
    (passed : receiver ∉ publisher.due)
    (moved : Moved apply encode receivers publisher action next) :
    next.receivedBy receiver = publisher.receivedBy receiver ∧ receiver ∉ next.due := by
  cases moved with
  | asked operation update idle asks => exact ⟨rfl, List.not_mem_nil⟩
  | silent operation idle quiet => exact ⟨rfl, List.not_mem_nil⟩
  | begun update changed => exact ⟨rfl, absent⟩
  | ended update last => exact ⟨rfl, List.not_mem_nil⟩
  | sent update first rest reaches =>
    rw [due, reaches, List.mem_cons, not_or] at passed
    refine ⟨?_, passed.2⟩
    exact (receivedBy_post first receiver _).trans
      (by rw [if_neg (Ne.symm passed.1), List.append_nil])

/-- What was sent stays sent. -/
theorem received_step {receiver : Receiver} (received : publisher.receivedBy receiver ≠ [])
    (moved : Moved apply encode receivers publisher action next) :
    next.receivedBy receiver ≠ [] := by
  cases moved with
  | asked operation update idle asks => exact received
  | silent operation idle quiet => exact received
  | begun update changed => exact received
  | ended update last => exact received
  | sent update first rest reaches =>
    change (publisher.post first (encode update)).receivedBy receiver ≠ []
    rw [receivedBy_post]
    exact List.append_ne_nil_of_left_ne_nil received _

theorem served_publish
    (moved : Moved apply encode receivers publisher .publish next) :
    next.Served receivers := by
  cases moved with
  | begun update changed => exact fun receiver member left => absurd member left

theorem served_step (served : publisher.Served receivers)
    (moved : Moved apply encode receivers publisher action next) : next.Served receivers := by
  cases action with
  | publish => exact served_publish moved
  | operate operation =>
    intro receiver member _
    refine received_step (served receiver member ?_) moved
    cases moved with
    | asked _ update idle asks =>
      rw [due, idle]
      exact List.not_mem_nil
    | silent _ idle quiet =>
      rw [due, idle]
      exact List.not_mem_nil
  | send =>
    intro receiver member passed
    cases moved with
    | ended update last =>
      refine served receiver member ?_
      rw [due, last]
      exact List.not_mem_nil
    | sent update first rest reaches =>
      change (publisher.post first (encode update)).receivedBy receiver ≠ []
      rw [receivedBy_post]
      by_cases here : first = receiver
      · simp [here]
      · refine List.append_ne_nil_of_left_ne_nil (served receiver member ?_) _
        rw [due, reaches, List.mem_cons, not_or]
        exact ⟨Ne.symm here, passed⟩

end Publisher

end TwitterClone.Foundation
