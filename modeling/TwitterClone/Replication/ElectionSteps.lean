import TwitterClone.Replication.Election

/-! What one thread does in one step of an election. Whoever asks is told that it
lost, so a replica wins only when it has nobody with a smaller id left to ask. -/
namespace TwitterClone

open Foundation

namespace ReplicaMessage

@[simp] def isElection : ReplicaMessage → Bool
  | .election _ => true
  | .answer _ | .coordinator _ => false

@[simp] def isAnswer : ReplicaMessage → Bool
  | .answer _ => true
  | .election _ | .coordinator _ => false

end ReplicaMessage

/-- How many answers the main thread still waits for, of one peer. -/
@[simp] def MainPoint.outstanding (peer : ReplicaInfo) : MainPoint → Nat
  | .asked target _ | .waiting target _ => if target = peer then 1 else 0
  | _ => 0

namespace ReplicaEnd

/-- The questions of the peer that this end has yet to answer. -/
def questions (side : ReplicaEnd) : Nat :=
  side.incoming.countP ReplicaMessage.isElection +
    match side.handler with
    | .marking _ | .answering _ => 1
    | _ => 0

/-- The answers of the peer that this end has yet to pass on. -/
def answers (side : ReplicaEnd) : Nat :=
  side.incoming.countP ReplicaMessage.isAnswer +
    match side.handler with
    | .notifying => 1
    | _ => 0

end ReplicaEnd

namespace Membership

variable (group : Membership) (crashed : ReplicaInfo → Bool)

/-- Every backup that precedes the replica is listed or lost. -/
def Covers (replica : ReplicaInfo) (listed : List ReplicaInfo) : Prop :=
  ∀ backup ∈ group.backups, backup.id < replica.id → backup ∈ listed ∨ crashed backup = true

/-- As long as a replica has not lost, whoever precedes it is still to be asked. -/
def Progress (replica : ReplicaInfo) (state : ReplicaState) : Prop :=
  group.Covers crashed replica state.replicasVector ∧
    match state.main with
    | .pruning kept rest => group.Covers crashed replica (kept ++ rest)
    | .electing rest => state.lostElection = false → group.Covers crashed replica rest
    | .woken _ => state.lostElection = true
    | .sleeping => state.lostElection = false → group.Covers crashed replica []
    | .announcing _ | .leading => group.Covers crashed replica []
    | .accepting | .asked _ _ | .waiting _ _ | .resetting | .clearing => True

variable {group}

/-- Two members have different addresses. -/
theorem notEqual {first second : ReplicaInfo} (firstMember : first ∈ group.members)
    (secondMember : second ∈ group.members) (different : first ≠ second) :
    first.NotEqual second :=
  have : Std.Symm ReplicaInfo.NotEqual := ⟨fun _ _ apart => apart.imp Ne.symm Ne.symm⟩
  group.distinctAddresses.forall firstMember secondMember different

end Membership

section MainThread

variable {info : ReplicaInfo} {isClosed : ReplicaInfo → Bool} {state next : ReplicaState}
  {sent : Option (ReplicaInfo × ReplicaMessage)}

/-- The ways of the main thread to move on. -/
inductive MainMove (info : ReplicaInfo) (isClosed : ReplicaInfo → Bool) (state : ReplicaState) :
    ReplicaState → Option (ReplicaInfo × ReplicaMessage) → Prop where
  | stirs (main : state.main = .accepting) :
    MainMove info isClosed state { state with main := .pruning [] state.replicasVector } none
  | pruned (kept : List ReplicaInfo) (main : state.main = .pruning kept []) :
    MainMove info isClosed state { state with replicasVector := kept, main := .electing kept } none
  | prunes (kept : List ReplicaInfo) (peer : ReplicaInfo) (rest : List ReplicaInfo)
      (main : state.main = .pruning kept (peer :: rest)) :
    MainMove info isClosed state
      { state with main := .pruning (if isClosed peer then kept else kept ++ [peer]) rest } none
  | elected (main : state.main = .electing []) :
    MainMove info isClosed state { state with main := .sleeping } none
  | asks (peer : ReplicaInfo) (rest : List ReplicaInfo) (main : state.main = .electing (peer :: rest))
      (precedes : peer.NotEqual info ∧ peer.GreaterThan info) :
    MainMove info isClosed state { state with main := .asked peer rest }
      (some (peer, .election info.serialize))
  | skips (peer : ReplicaInfo) (rest : List ReplicaInfo)
      (main : state.main = .electing (peer :: rest))
      (skipped : ¬ (peer.NotEqual info ∧ peer.GreaterThan info)) :
    MainMove info isClosed state { state with main := .electing rest } none
  | waits (peer : ReplicaInfo) (rest : List ReplicaInfo) (main : state.main = .asked peer rest) :
    MainMove info isClosed state { state with main := .waiting peer rest } none
  | goesOn (rest : List ReplicaInfo) (main : state.main = .woken rest) :
    MainMove info isClosed state
      { state with main := if state.lostElection then .sleeping else .electing rest } none
  | rises (main : state.main = .sleeping) :
    MainMove info isClosed state
      { state with
        main := if state.lostElection then .resetting else .announcing state.replicasVector } none
  | announced (main : state.main = .announcing []) :
    MainMove info isClosed state { state with main := .leading } none
  | announces (peer : ReplicaInfo) (rest : List ReplicaInfo)
      (main : state.main = .announcing (peer :: rest)) :
    MainMove info isClosed state { state with main := .announcing rest }
      (some (peer, .coordinator info.serialize))
  | leads (main : state.main = .leading) :
    MainMove info isClosed state { state with isLeader := true, main := .resetting } none
  | resets (main : state.main = .resetting) :
    MainMove info isClosed state { state with startElection := false, main := .clearing } none
  | clears (main : state.main = .clearing) :
    MainMove info isClosed state { state with lostElection := false, main := .accepting } none

theorem mainMove_of_taken (taken : state.runMain info isClosed = some (next, sent)) :
    MainMove info isClosed state next sent := by
  unfold ReplicaState.runMain at taken
  split at taken
  next main =>
    split at taken
    next => cases taken; exact .stirs main
    next => cases taken
  next kept main => cases taken; exact .pruned kept main
  next kept peer rest main => cases taken; exact .prunes kept peer rest main
  next main => cases taken; exact .elected main
  next peer rest main =>
    split at taken
    next precedes => cases taken; exact .asks peer rest main precedes
    next skipped => cases taken; exact .skips peer rest main skipped
  next peer rest main => cases taken; exact .waits peer rest main
  next => cases taken
  next rest main => cases taken; exact .goesOn rest main
  next main => cases taken; exact .rises main
  next main => cases taken; exact .announced main
  next peer rest main => cases taken; exact .announces peer rest main
  next main => cases taken; exact .leads main
  next main => cases taken; exact .resets main
  next main => cases taken; exact .clears main

/-- The main thread waits for an answer exactly to what it asks. -/
theorem outstanding_runMain (taken : state.runMain info isClosed = some (next, sent))
    (peer : ReplicaInfo) :
    next.main.outstanding peer = state.main.outstanding peer +
      (ReplicaNetwork.postedTo peer sent).countP ReplicaMessage.isElection := by
  cases mainMove_of_taken taken with
  | asks target rest main => by_cases there : target = peer <;> simp [main, there]
  | announces target rest main => by_cases there : target = peer <;> simp [main, there]
  | goesOn rest main => cases state.lostElection <;> simp [main]
  | rises main => cases state.lostElection <;> simp [main]
  | stirs main | elected main | announced main | leads main | resets main | clears main =>
    simp [main]
  | pruned kept main => simp [main]
  | prunes kept target rest main => simp [main]
  | skips target rest main => simp [main]
  | waits target rest main => simp [main]

/-- What the main thread leaves alone, and what it may send. -/
structure MainFrame (info : ReplicaInfo) (state next : ReplicaState)
    (sent : Option (ReplicaInfo × ReplicaMessage)) : Prop where
  crashed : next.crashed = state.crashed
  lost : state.lostElection = true → next.lostElection = true ∨ state.main = .clearing
  leads : next.isLeader = true → state.isLeader = true ∨ state.main = .leading
  sends : ∀ target message, sent = some (target, message) →
    message = .coordinator info.serialize ∨ message = .election info.serialize ∧
      target.NotEqual info ∧ target.GreaterThan info

theorem frame_runMain (taken : state.runMain info isClosed = some (next, sent)) :
    MainFrame info state next sent := by
  cases mainMove_of_taken taken with
  | asks peer rest main precedes =>
    refine ⟨rfl, Or.inl, Or.inl, ?_⟩
    rintro _ _ ⟨⟩
    exact Or.inr ⟨rfl, precedes⟩
  | announces peer rest main =>
    refine ⟨rfl, Or.inl, Or.inl, ?_⟩
    rintro _ _ ⟨⟩
    exact Or.inl rfl
  | leads main => exact ⟨rfl, Or.inl, fun _ => Or.inr main, by simp⟩
  | clears main => exact ⟨rfl, fun _ => Or.inr main, Or.inl, by simp⟩
  | stirs | pruned | prunes | elected | skips | waits | goesOn | rises | announced | resets =>
    exact ⟨rfl, Or.inl, Or.inl, by simp⟩

variable {group : Membership} {crashed : ReplicaInfo → Bool}

/-- A replica skips only those that it may not ask. -/
theorem Membership.Covers.skip {peer : ReplicaInfo} {rest : List ReplicaInfo}
    (covers : group.Covers crashed info (peer :: rest)) (member : info ∈ group.members)
    (skipped : ¬ (peer.NotEqual info ∧ peer.GreaterThan info)) :
    group.Covers crashed info rest := by
  intro backup inside precedes
  rcases covers backup inside precedes with listed | lost
  · rcases List.mem_cons.mp listed with same | later
    · subst same
      have different : backup ≠ info := fun same => by simp [same] at precedes
      have apart : backup.NotEqual info :=
        group.notEqual (List.mem_cons_of_mem _ inside) member different
      exact absurd ⟨apart, precedes⟩ skipped
    · exact Or.inl later
  · exact Or.inr lost

/-- Whoever is dropped from the vector has a closed connection. -/
theorem mem_pruned {peer other : ReplicaInfo} {kept rest : List ReplicaInfo}
    (listed : other ∈ kept ++ peer :: rest) :
    other ∈ (if isClosed peer then kept else kept ++ [peer]) ++ rest ∨ isClosed other = true := by
  by_cases gone : isClosed peer = true
  · rw [if_pos gone]
    rcases List.mem_append.mp listed with before | after
    · exact Or.inl (List.mem_append_left _ before)
    · rcases List.mem_cons.mp after with same | later
      · exact Or.inr (same ▸ gone)
      · exact Or.inl (List.mem_append_right _ later)
  · rw [if_neg gone, List.append_assoc]
    exact Or.inl listed

/-- A connection is dropped from the vector only when the peer is lost. -/
theorem Membership.Covers.prune {peer : ReplicaInfo} {kept rest : List ReplicaInfo}
    (covers : group.Covers crashed info (kept ++ peer :: rest))
    (closed : ∀ other ∈ group.backups, other ≠ info → isClosed other = true →
      crashed other = true) :
    group.Covers crashed info ((if isClosed peer then kept else kept ++ [peer]) ++ rest) := by
  intro backup inside precedes
  have different : backup ≠ info := fun same => by simp [same] at precedes
  rcases covers backup inside precedes with listed | lost
  · exact (mem_pruned listed).imp_right (closed backup inside different)
  · exact Or.inr lost

theorem progress_runMain (progress : group.Progress crashed info state)
    (member : info ∈ group.members)
    (closed : ∀ other ∈ group.backups, other ≠ info → isClosed other = true →
      crashed other = true)
    (taken : state.runMain info isClosed = some (next, sent)) :
    group.Progress crashed info next := by
  obtain ⟨vector, stage⟩ := progress
  cases mainMove_of_taken taken with
  | stirs main => exact ⟨vector, vector⟩
  | pruned kept main =>
    simp only [main, List.append_nil] at stage
    exact ⟨stage, fun _ => stage⟩
  | prunes kept peer rest main =>
    simp only [main] at stage
    exact ⟨vector, stage.prune closed⟩
  | elected main =>
    simp only [main] at stage
    exact ⟨vector, stage⟩
  | asks => exact ⟨vector, trivial⟩
  | skips peer rest main skipped =>
    simp only [main] at stage
    exact ⟨vector, fun standing => (stage standing).skip member skipped⟩
  | waits => exact ⟨vector, trivial⟩
  | goesOn rest main =>
    simp only [main] at stage
    rw [stage]
    exact ⟨vector, fun standing => by simp at standing⟩
  | rises main =>
    simp only [main] at stage
    cases lost : state.lostElection with
    | false => exact ⟨vector, stage lost⟩
    | true => exact ⟨vector, trivial⟩
  | announced main =>
    simp only [main] at stage
    exact ⟨vector, stage⟩
  | announces peer rest main =>
    simp only [main] at stage
    exact ⟨vector, stage⟩
  | leads => exact ⟨vector, trivial⟩
  | resets => exact ⟨vector, trivial⟩
  | clears => exact ⟨vector, trivial⟩

end MainThread

section HandlerThread

/-- What may stand in the messages from a peer: only whoever comes later asks, and
the answer is that it lost. -/
def ReplicaMessage.Proper (replica peer : ReplicaInfo) : ReplicaMessage → Prop
  | .election payload => payload = peer.serialize ∧ peer.Sendable ∧ replica.id < peer.id
  | .answer payload => payload = "Lost".toList
  | .coordinator _ => True

/-- The same for what the handler has read of them. -/
def HandlerPoint.Proper (replica peer : ReplicaInfo) (lostElection : Bool) : HandlerPoint → Prop
  | .marking payload | .answering payload =>
    payload = peer.serialize ∧ peer.Sendable ∧ replica.id < peer.id
  | .notifying => lostElection = true
  | .receiving | .closing | .closed => True

structure ReplicaEnd.Proper (replica peer : ReplicaInfo) (lostElection : Bool)
    (side : ReplicaEnd) : Prop where
  incoming : ∀ message ∈ side.incoming, message.Proper replica peer
  handler : side.handler.Proper replica peer lostElection

variable {replica peer : ReplicaInfo}

theorem answerElection_of_later (sendable : peer.Sendable) (later : replica.id < peer.id) :
    replica.answerElection peer.serialize = some (.answer "Lost".toList) := by
  have nonempty : peer.serialize ≠ [] := by
    simp [ReplicaInfo.serialize]
  have behind : ¬ (peer.NotEqual replica ∧ peer.GreaterThan replica) := by
    rintro ⟨-, precedes⟩
    exact Int.lt_asymm later precedes
  rw [ReplicaInfo.answerElection, if_neg nonempty, ReplicaInfo.deserialize_serialize sendable]
  exact if_neg behind

theorem HandlerPoint.Proper.mono {handler : HandlerPoint} {before after : Bool}
    (proper : handler.Proper replica peer before) (kept : before = true → after = true) :
    handler.Proper replica peer after := by
  cases handler with
  | marking payload => exact proper
  | answering payload => exact proper
  | notifying => exact kept proper
  | receiving | closing | closed => exact trivial

theorem HandlerPoint.Proper.quiet {handler : HandlerPoint} {before after : Bool}
    (proper : handler.Proper replica peer before) (quiet : handler ≠ .notifying) :
    handler.Proper replica peer after := by
  cases handler with
  | marking payload => exact proper
  | answering payload => exact proper
  | notifying => exact absurd rfl quiet
  | receiving | closing | closed => exact trivial

namespace ReplicaEnd

variable {side : ReplicaEnd} {messages : List ReplicaMessage} {lostElection : Bool}

theorem questions_push (side : ReplicaEnd) (messages : List ReplicaMessage) :
    (side.push messages).questions =
      side.questions + messages.countP ReplicaMessage.isElection := by
  simp only [questions, push, List.countP_append]
  omega

theorem answers_push (side : ReplicaEnd) (messages : List ReplicaMessage) :
    (side.push messages).answers = side.answers + messages.countP ReplicaMessage.isAnswer := by
  simp only [answers, push, List.countP_append]
  omega

theorem Proper.push (proper : side.Proper replica peer lostElection)
    (arriving : ∀ message ∈ messages, message.Proper replica peer) :
    (side.push messages).Proper replica peer lostElection where
  incoming message member := by
    rcases List.mem_append.mp member with old | new
    · exact proper.incoming message old
    · exact arriving message new
  handler := proper.handler

end ReplicaEnd

variable {state next : ReplicaState} {side changed : ReplicaEnd} {sent : Option ReplicaMessage}
  {peerCrashed : Bool}

/-- What a handler changes in its replica and at its end. -/
structure HandlerEffect (replica peer : ReplicaInfo) (peerCrashed : Bool)
    (state next : ReplicaState) (side changed : ReplicaEnd) (sent : Option ReplicaMessage) :
    Prop where
  crashed : next.crashed = state.crashed
  isLeader : next.isLeader = state.isLeader
  vector : next.replicasVector = state.replicasVector
  lost : state.lostElection = true → next.lostElection = true
  main : next.main = state.main ∨
    side.handler = .notifying ∧
      ∃ target rest, state.main = .waiting target rest ∧ next.main = .woken rest
  questions : changed.questions + sent.toList.countP ReplicaMessage.isAnswer = side.questions
  answers : changed.answers + (if side.handler = .notifying then 1 else 0) = side.answers
  sends : ∀ message ∈ sent, message = .answer "Lost".toList
  proper : changed.Proper replica peer next.lostElection
  ended : changed.handler = .closing ∨ changed.handler = .closed →
    side.handler = .closing ∨ peerCrashed = true

/-- The ways of a handler to move on. -/
inductive HandlerMove (info : ReplicaInfo) (peerCrashed : Bool) (state : ReplicaState)
    (side : ReplicaEnd) : ReplicaState → ReplicaEnd → Option ReplicaMessage → Prop where
  | isAsked (payload : Text) (rest : List ReplicaMessage) (receiving : side.handler = .receiving)
      (incoming : side.incoming = .election payload :: rest) :
    HandlerMove info peerCrashed state side state
      { side with
        incoming := rest
        handler := if state.startElection then .answering payload else .marking payload } none
  | isTold (payload : Text) (rest : List ReplicaMessage) (receiving : side.handler = .receiving)
      (incoming : side.incoming = .coordinator payload :: rest) :
    HandlerMove info peerCrashed state side state
      { side with
        incoming := rest
        isConnectedToLeader := side.isConnectedToLeader || decide (payload ≠ []) } none
  | isAnswered (payload : Text) (rest : List ReplicaMessage) (receiving : side.handler = .receiving)
      (incoming : side.incoming = .answer payload :: rest) :
    HandlerMove info peerCrashed state side
      { state with lostElection := state.lostElection || decide (payload = "Lost".toList) }
      { side with incoming := rest, handler := .notifying } none
  | notices (receiving : side.handler = .receiving) (incoming : side.incoming = [])
      (gone : peerCrashed = true) :
    HandlerMove info peerCrashed state side
      { state with startElection := state.startElection || side.isConnectedToLeader }
      { side with handler := .closing } none
  | marks (payload : Text) (marking : side.handler = .marking payload) :
    HandlerMove info peerCrashed state side { state with startElection := true }
      { side with handler := .answering payload } none
  | answers (payload : Text) (answering : side.handler = .answering payload) :
    HandlerMove info peerCrashed state side state { side with handler := .receiving }
      (info.answerElection payload)
  | notifies (notifying : side.handler = .notifying) :
    HandlerMove info peerCrashed state side state.notifyOne { side with handler := .receiving } none
  | closes (closing : side.handler = .closing) :
    HandlerMove info peerCrashed state side state { side with handler := .closed } none

theorem handlerMove_of_taken
    (taken : side.runHandler replica peerCrashed state = some (next, changed, sent)) :
    HandlerMove replica peerCrashed state side next changed sent := by
  unfold ReplicaEnd.runHandler at taken
  split at taken
  next receiving =>
    split at taken
    next message rest incoming =>
      cases message with
      | election payload => cases taken; exact .isAsked payload rest receiving incoming
      | coordinator payload => cases taken; exact .isTold payload rest receiving incoming
      | answer payload => cases taken; exact .isAnswered payload rest receiving incoming
    next incoming =>
      split at taken
      next gone => cases taken; exact .notices receiving incoming gone
      next => cases taken
  next payload marking => cases taken; exact .marks payload marking
  next payload answering => cases taken; exact .answers payload answering
  next notifying => cases taken; exact .notifies notifying
  next closing => cases taken; exact .closes closing
  next => cases taken

theorem effect_runHandler (proper : side.Proper replica peer state.lostElection)
    (taken : side.runHandler replica peerCrashed state = some (next, changed, sent)) :
    HandlerEffect replica peer peerCrashed state next side changed sent := by
  have unread : ∀ message rest, side.incoming = message :: rest →
      message.Proper replica peer ∧ ∀ other ∈ rest, other.Proper replica peer := by
    intro message rest incoming
    exact ⟨proper.incoming message (by simp [incoming]),
      fun other member => proper.incoming other (by simp [incoming, member])⟩
  cases handlerMove_of_taken taken with
  | isAsked payload rest receiving incoming =>
    obtain ⟨arrived, others⟩ := unread _ rest incoming
    refine ⟨rfl, rfl, rfl, id, Or.inl rfl, ?_, ?_, by simp, ⟨others, ?_⟩, ?_⟩
    · cases state.startElection <;>
        simp [ReplicaEnd.questions, receiving, incoming, List.countP_cons]
    · cases state.startElection <;> simp [ReplicaEnd.answers, receiving, incoming]
    · cases state.startElection <;> exact arrived
    · cases state.startElection <;> simp
  | isTold payload rest receiving incoming =>
    obtain ⟨-, others⟩ := unread _ rest incoming
    refine ⟨rfl, rfl, rfl, id, Or.inl rfl, ?_, ?_, by simp, ⟨others, proper.handler⟩, ?_⟩
    · simp [ReplicaEnd.questions, receiving, incoming]
    · simp [ReplicaEnd.answers, receiving, incoming]
    · simp [receiving]
  | isAnswered payload rest receiving incoming =>
    obtain ⟨lost, others⟩ := unread _ rest incoming
    refine ⟨rfl, rfl, rfl, fun held => by simp [held], Or.inl rfl, ?_, ?_, by simp,
      ⟨others, ?_⟩, by simp⟩
    · simp [ReplicaEnd.questions, receiving, incoming]
    · simp [ReplicaEnd.answers, receiving, incoming, List.countP_cons]
    · rw [show payload = "Lost".toList from lost]
      simp [HandlerPoint.Proper]
  | notices receiving incoming gone =>
    refine ⟨rfl, rfl, rfl, id, Or.inl rfl, ?_, ?_, by simp, ⟨proper.incoming, trivial⟩,
      fun _ => Or.inr gone⟩
    · simp [ReplicaEnd.questions, receiving, incoming]
    · simp [ReplicaEnd.answers, receiving, incoming]
  | marks payload marking =>
    have asked := proper.handler
    rw [marking] at asked
    refine ⟨rfl, rfl, rfl, id, Or.inl rfl, ?_, ?_, by simp, ⟨proper.incoming, asked⟩, by simp⟩
    · simp [ReplicaEnd.questions, marking]
    · simp [ReplicaEnd.answers, marking]
  | answers payload answering =>
    have asked := proper.handler
    rw [answering] at asked
    obtain ⟨same, sendable, later⟩ := asked
    rw [same, answerElection_of_later sendable later]
    refine ⟨rfl, rfl, rfl, id, Or.inl rfl, ?_, ?_, by simp, ⟨proper.incoming, trivial⟩, by simp⟩
    · simp [ReplicaEnd.questions, answering]
    · simp [ReplicaEnd.answers, answering]
  | notifies notifying =>
    have kept : state.notifyOne.crashed = state.crashed ∧
        state.notifyOne.isLeader = state.isLeader ∧
        state.notifyOne.replicasVector = state.replicasVector ∧
        state.notifyOne.lostElection = state.lostElection := by
      unfold ReplicaState.notifyOne
      split <;> exact ⟨rfl, rfl, rfl, rfl⟩
    refine ⟨kept.1, kept.2.1, kept.2.2.1, fun held => kept.2.2.2.trans held, ?_, ?_, ?_, by simp,
      ⟨proper.incoming, trivial⟩, by simp⟩
    · unfold ReplicaState.notifyOne
      split
      next target rest main => exact Or.inr ⟨notifying, target, rest, main, rfl⟩
      next => exact Or.inl rfl
    · simp [ReplicaEnd.questions, notifying]
    · simp [ReplicaEnd.answers, notifying]
  | closes closing =>
    refine ⟨rfl, rfl, rfl, id, Or.inl rfl, ?_, ?_, by simp, ⟨proper.incoming, trivial⟩,
      fun _ => Or.inl closing⟩
    · simp [ReplicaEnd.questions, closing]
    · simp [ReplicaEnd.answers, closing]

end HandlerThread

end TwitterClone
