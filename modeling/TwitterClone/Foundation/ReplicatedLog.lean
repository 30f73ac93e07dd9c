import TwitterClone.Foundation.Publisher

/-! A log that is only appended to, and readers who go through it one entry after another:
what receivers see of a publisher, whatever is still on its way to them. -/
namespace TwitterClone.Foundation

universe u v w x

structure ReplicatedLog (Entry : Type u) (Reader : Type v) where
  entries : List Entry := []
  position : Reader → Nat := fun _ => 0

inductive LogAction (Entry : Type u) (Reader : Type v) where
  | append (entry : Entry)
  | advance (reader : Reader)

namespace ReplicatedLog

variable {Entry : Type u} {Reader : Type v}

def append (log : ReplicatedLog Entry Reader) (entries : List Entry) :
    ReplicatedLog Entry Reader :=
  { log with entries := log.entries ++ entries }

def advance [DecidableEq Reader] (log : ReplicatedLog Entry Reader) (reader : Reader) :
    ReplicatedLog Entry Reader :=
  { log with position := Function.update log.position reader (log.position reader + 1) }

/-- Nobody reads what is not there. -/
def step [DecidableEq Reader] (log : ReplicatedLog Entry Reader) :
    LogAction Entry Reader → Option (ReplicatedLog Entry Reader)
  | .append entry => some (log.append [entry])
  | .advance reader =>
    if log.position reader < log.entries.length then some (log.advance reader) else none

def read (log : ReplicatedLog Entry Reader) (reader : Reader) : List Entry :=
  log.entries.take (log.position reader)

def unread (log : ReplicatedLog Entry Reader) (reader : Reader) : List Entry :=
  log.entries.drop (log.position reader)

/-- No reader is ahead of the log. -/
def Behind (log : ReplicatedLog Entry Reader) : Prop :=
  ∀ reader, log.position reader ≤ log.entries.length

variable {log next : ReplicatedLog Entry Reader}

theorem Behind.append (behind : log.Behind) (entries : List Entry) :
    (log.append entries).Behind := by
  intro reader
  have longer : log.entries.length ≤ (log.entries ++ entries).length := by simp
  exact (behind reader).trans longer

theorem read_append (behind : log.Behind) (entries : List Entry) (reader : Reader) :
    (log.append entries).read reader = log.read reader :=
  List.take_append_of_le_length (behind reader)

theorem unread_append (behind : log.Behind) (entries : List Entry) (reader : Reader) :
    (log.append entries).unread reader = log.unread reader ++ entries :=
  List.drop_append_of_le_length (behind reader)

section Advancing

variable {reader : Reader} {entry : Entry} {rest : List Entry}

theorem position_lt (left : log.unread reader = entry :: rest) :
    log.position reader < log.entries.length := by
  by_contra ended
  have none : log.unread reader = [] := List.drop_eq_nil_of_le (Nat.le_of_not_lt ended)
  rw [none] at left
  cases left

variable [DecidableEq Reader]

theorem position_advance (reader other : Reader) :
    (log.advance reader).position other =
      if other = reader then log.position reader + 1 else log.position other :=
  Function.update_apply ..

theorem entries_of_advance (taken : log.step (.advance reader) = some next) :
    next.entries = log.entries := by
  rw [step] at taken
  split at taken
  next => exact Option.some.inj taken ▸ rfl
  next => cases taken

theorem step_advance (left : log.unread reader = entry :: rest) :
    log.step (.advance reader) = some (log.advance reader) :=
  if_pos (position_lt left)

theorem Behind.advance (behind : log.Behind) (left : log.unread reader = entry :: rest) :
    (log.advance reader).Behind := by
  intro other
  rw [position_advance]
  split
  next => exact position_lt left
  next => exact behind other

theorem unread_advance (left : log.unread reader = entry :: rest) (other : Reader) :
    (log.advance reader).unread other = if other = reader then rest else log.unread other := by
  rw [unread, position_advance]
  split
  next =>
    rw [← List.drop_drop]
    exact congrArg (List.drop 1) left
  next => rfl

theorem read_advance (left : log.unread reader = entry :: rest) (other : Reader) :
    (log.advance reader).read other =
      if other = reader then log.read reader ++ [entry] else log.read other := by
  rw [read, position_advance]
  split
  next =>
    have room := position_lt left
    have first : log.entries[log.position reader] = entry := by
      have head := List.drop_eq_getElem_cons room
      rw [← unread, left] at head
      exact (List.cons.inj head).1.symm
    exact first ▸ List.take_succ_eq_append_getElem room
  next => rfl

end Advancing

end ReplicatedLog

instance Publication.decidableIdle {State : Type u} {Receiver : Type v} :
    (publication : Publication State Receiver) → Decidable (publication = .idle)
  | .idle => isTrue rfl
  | .changed _ => isFalse nofun
  | .sending _ _ => isFalse nofun

namespace Publisher

variable {State : Type u} {Receiver : Type v} {Payload : Type w} {Operation : Type x}

/-- What a step begins to publish. -/
def published (publisher : Publisher State Receiver Payload) :
    PublisherAction Operation → List State
  | .publish =>
    match publisher.publication with
    | .changed update => [update]
    | _ => []
  | _ => []

@[simp] theorem published_operate (publisher : Publisher State Receiver Payload)
    (operation : Operation) : publisher.published (.operate operation) = [] := rfl

@[simp] theorem published_send (publisher : Publisher State Receiver Payload) :
    publisher.published (.send : PublisherAction Operation) = [] := rfl

variable [DecidableEq Receiver]

/-- What a step sends to a receiver. -/
def sendsTo (encode : State → Payload) (publisher : Publisher State Receiver Payload)
    (receiver : Receiver) : PublisherAction Operation → List Payload
  | .send =>
    match publisher.publication with
    | .sending update (first :: _) => if first = receiver then [encode update] else []
    | _ => []
  | _ => []

/-- What the publication in progress is still to send to a receiver. -/
def outstanding (encode : State → Payload) (publisher : Publisher State Receiver Payload)
    (receiver : Receiver) : List Payload :=
  match publisher.publication with
  | .sending update rest => if receiver ∈ rest then [encode update] else []
  | _ => []

/-- What the receivers have still to take, or to be sent, are the entries they have not
read. -/
structure Follows (encode : State → Payload) (receivers : List Receiver)
    (publisher : Publisher State Receiver Payload) (arriving : Receiver → List Payload)
    (log : ReplicatedLog State Receiver) : Prop where
  due : publisher.due.Sublist receivers
  behind : log.Behind
  unread : ∀ receiver ∈ receivers, (log.unread receiver).map encode =
    arriving receiver ++ publisher.outstanding encode receiver

variable {encode : State → Payload} {apply : State → Operation → State × Option State}
  {receivers : List Receiver} {publisher next : Publisher State Receiver Payload}
  {action : PublisherAction Operation}

omit [DecidableEq Receiver] in
theorem sublist_due_step (due : publisher.due.Sublist receivers)
    (moved : Moved apply encode receivers publisher action next) :
    next.due.Sublist receivers := by
  cases moved with
  | asked operation update idle asks => exact List.nil_sublist _
  | silent operation idle quiet => exact List.nil_sublist _
  | begun update changed => exact List.Sublist.refl _
  | ended update last => exact List.nil_sublist _
  | sent update first rest reaches =>
    rw [Publisher.due, reaches] at due
    exact (List.sublist_cons_self first rest).trans due

/-- Nobody but the receivers is sent anything. -/
theorem sendsTo_stranger {receiver : Receiver} (stranger : receiver ∉ receivers)
    (due : publisher.due.Sublist receivers) :
    publisher.sendsTo encode receiver action = [] := by
  unfold sendsTo
  split
  next =>
    split
    next update first rest reaches =>
      rw [Publisher.due, reaches] at due
      have member : first ∈ receivers := due.subset List.mem_cons_self
      rw [if_neg fun (same : first = receiver) => stranger (same ▸ member)]
    next => rfl
  next => rfl

/-- Nothing that is published gets lost on the way to a receiver, and nothing is sent
twice. -/
theorem outstanding_step {receiver : Receiver} (receives : receiver ∈ receivers)
    (once : publisher.due.Nodup) (moved : Moved apply encode receivers publisher action next) :
    publisher.sendsTo encode receiver action ++ next.outstanding encode receiver =
      publisher.outstanding encode receiver ++ (publisher.published action).map encode := by
  cases moved with
  | asked operation update idle asks => simp [outstanding, sendsTo, published, idle]
  | silent operation idle quiet => simp [outstanding, sendsTo, published, idle]
  | begun update changed => simp [outstanding, sendsTo, published, changed, receives]
  | ended update last => simp [outstanding, sendsTo, published, last]
  | sent update first rest reaches =>
    rw [due, reaches] at once
    have passed : first ∉ rest := (List.nodup_cons.mp once).1
    by_cases here : first = receiver
    · subst here
      simp [outstanding, sendsTo, published, reaches, passed]
    · simp [outstanding, sendsTo, published, reaches, here, Ne.symm here]

section Following

variable {arriving : Receiver → List Payload} {log : ReplicatedLog State Receiver}

theorem Follows.step (follows : Follows encode receivers publisher arriving log)
    (distinct : receivers.Nodup) (moved : Moved apply encode receivers publisher action next) :
    Follows encode receivers next
      (fun receiver => arriving receiver ++ publisher.sendsTo encode receiver action)
      (log.append (publisher.published action)) := by
  refine ⟨sublist_due_step follows.due moved, follows.behind.append _, ?_⟩
  intro receiver receives
  rw [ReplicatedLog.unread_append follows.behind, List.map_append,
    follows.unread receiver receives, List.append_assoc, List.append_assoc,
    outstanding_step receives (distinct.sublist follows.due) moved]

/-- Whatever comes first out of a channel is the next entry, encoded. -/
theorem Follows.unread_cons (follows : Follows encode receivers publisher arriving log)
    {receiver : Receiver} (receives : receiver ∈ receivers) {payload : Payload}
    {rest : List Payload} (first : arriving receiver = payload :: rest) :
    ∃ entry later, log.unread receiver = entry :: later ∧ encode entry = payload := by
  have left := follows.unread receiver receives
  rw [first, List.cons_append] at left
  obtain ⟨entry, later, unread, encoded, -⟩ := List.map_eq_cons_iff.mp left
  exact ⟨entry, later, unread, encoded⟩

theorem Follows.take (follows : Follows encode receivers publisher arriving log)
    {receiver : Receiver} {payload : Payload} {rest : List Payload} {entry : State}
    {later : List State} (first : arriving receiver = payload :: rest)
    (left : log.unread receiver = entry :: later) :
    Follows encode receivers publisher (Function.update arriving receiver rest)
      (log.advance receiver) := by
  refine ⟨follows.due, follows.behind.advance left, ?_⟩
  intro other receives
  have whole := follows.unread other receives
  rw [ReplicatedLog.unread_advance left, Function.update_apply]
  split
  next here =>
    rw [here, left, first, List.map_cons, List.cons_append] at whole
    exact here ▸ (List.cons.inj whole).2
  next => exact whole

end Following

section Latest

omit [DecidableEq Receiver]

/-- Between operations, the last entry shows the state; before there is any, the first
state does. During one, it is what is being published. -/
def Latest (Same : State → State → Prop) (first : State)
    (publisher : Publisher State Receiver Payload) (entries : List State) : Prop :=
  match publisher.publication with
  | .idle => Same (entries.getLastD first) publisher.state
  | .changed update => update = publisher.state
  | .sending update _ => update = publisher.state ∧ entries.getLastD first = update

variable {Same : State → State → Prop} {first : State} {entries : List State}

theorem latest_step (trans : ∀ first second third, Same first second → Same second third →
      Same first third) (refl : ∀ state, Same state state)
    (asks : ∀ state operation update,
      (apply state operation).2 = some update → update = (apply state operation).1)
    (silent : ∀ operation, action = .operate operation →
      (apply publisher.state operation).2 = none →
        Same publisher.state (apply publisher.state operation).1)
    (latest : publisher.Latest Same first entries)
    (moved : Moved apply encode receivers publisher action next) :
    next.Latest Same first (entries ++ publisher.published action) := by
  unfold Latest at latest
  cases moved with
  | asked operation update idle asked => exact asks publisher.state operation update asked
  | silent operation idle quiet =>
    rw [idle] at latest
    rw [published_operate, List.append_nil]
    exact trans _ _ _ latest (silent operation rfl quiet)
  | begun update changed =>
    rw [changed] at latest
    rw [published, changed]
    exact ⟨latest, List.getLastD_concat⟩
  | ended update last =>
    rw [last] at latest
    rw [published_send, List.append_nil, Latest, latest.2, latest.1]
    exact refl _
  | sent update receiver rest reaches =>
    rw [reaches] at latest
    rw [published_send, List.append_nil]
    exact latest

end Latest

end Publisher

end TwitterClone.Foundation
