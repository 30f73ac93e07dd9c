import TwitterClone.Foundation.Machine
import TwitterClone.Replication.ReplicaInfo

/-! Elections in a group whose replicas all know each other. A replica has a main
thread and a handler for each of its connections. A step is one access to what
these threads share, or one message; a replica that crashed takes no more steps. -/
namespace TwitterClone

open Foundation

inductive ReplicaMessage where
  | election (payload : Text)
  | answer (payload : Text)
  | coordinator (payload : Text)
  deriving DecidableEq

/-- What the main thread does next. Only a notification gets it out of `waiting`. -/
inductive MainPoint where
  | accepting
  | pruning (kept rest : List ReplicaInfo)
  | electing (rest : List ReplicaInfo)
  | asked (peer : ReplicaInfo) (rest : List ReplicaInfo)
  | waiting (peer : ReplicaInfo) (rest : List ReplicaInfo)
  | woken (rest : List ReplicaInfo)
  | sleeping
  | announcing (rest : List ReplicaInfo)
  | leading
  | resetting
  | clearing
  deriving DecidableEq

/-- What the handler of a connection does next. -/
inductive HandlerPoint where
  | receiving
  | marking (payload : Text)
  | answering (payload : Text)
  | notifying
  | closing
  | closed
  deriving DecidableEq

structure ReplicaState where
  crashed : Bool := false
  isLeader : Bool := false
  startElection : Bool := false
  lostElection : Bool := false
  replicasVector : List ReplicaInfo := []
  main : MainPoint := .accepting
  deriving DecidableEq

/-- A replica's end of a connection: the messages that wait there, and the handler. -/
structure ReplicaEnd where
  incoming : List ReplicaMessage := []
  isConnectedToLeader : Bool := false
  handler : HandlerPoint := .receiving
  deriving DecidableEq

namespace ReplicaState

/-- The main thread moves on, and may send a message. -/
def runMain (info : ReplicaInfo) (isClosed : ReplicaInfo → Bool) (state : ReplicaState) :
    Option (ReplicaState × Option (ReplicaInfo × ReplicaMessage)) :=
  match state.main with
  | .accepting =>
    if state.startElection then
      some ({ state with main := .pruning [] state.replicasVector }, none)
    else none
  | .pruning kept [] =>
    some ({ state with replicasVector := kept, main := .electing kept }, none)
  | .pruning kept (peer :: rest) =>
    let left := if isClosed peer then kept else kept ++ [peer]
    some ({ state with main := .pruning left rest }, none)
  | .electing [] => some ({ state with main := .sleeping }, none)
  | .electing (peer :: rest) =>
    if peer.NotEqual info ∧ peer.GreaterThan info then
      some ({ state with main := .asked peer rest }, some (peer, .election info.serialize))
    else some ({ state with main := .electing rest }, none)
  | .asked peer rest => some ({ state with main := .waiting peer rest }, none)
  | .waiting _ _ => none
  | .woken rest =>
    let next := if state.lostElection then .sleeping else .electing rest
    some ({ state with main := next }, none)
  | .sleeping =>
    let next := if state.lostElection then .resetting else .announcing state.replicasVector
    some ({ state with main := next }, none)
  | .announcing [] => some ({ state with main := .leading }, none)
  | .announcing (peer :: rest) =>
    some ({ state with main := .announcing rest }, some (peer, .coordinator info.serialize))
  -- The connection deleted here is the lost leader's, which the vector does not list.
  | .leading => some ({ state with isLeader := true, main := .resetting }, none)
  | .resetting => some ({ state with startElection := false, main := .clearing }, none)
  | .clearing => some ({ state with lostElection := false, main := .accepting }, none)

/-- `notify_one` reaches the main thread only if it waits. -/
def notifyOne (state : ReplicaState) : ReplicaState :=
  match state.main with
  | .waiting _ rest => { state with main := .woken rest }
  | _ => state

end ReplicaState

/-- What a replica answers to ELECTION. -/
def ReplicaInfo.answerElection (info : ReplicaInfo) (payload : Text) : Option ReplicaMessage :=
  if payload = [] then none
  else
    let replica := ReplicaInfo.deserialize payload
    if replica.NotEqual info ∧ replica.GreaterThan info then some (.answer "Won".toList)
    else some (.answer "Lost".toList)

namespace ReplicaEnd

/-- Messages arrive behind those that wait. -/
def push (side : ReplicaEnd) (messages : List ReplicaMessage) : ReplicaEnd :=
  { side with incoming := side.incoming ++ messages }

/-- The handler reads one message. -/
def handle (state : ReplicaState) (side : ReplicaEnd) :
    ReplicaMessage → ReplicaState × ReplicaEnd
  | .election payload =>
    (state, { side with
      handler := if state.startElection then .answering payload else .marking payload })
  | .coordinator payload =>
    (state, { side with
      isConnectedToLeader := side.isConnectedToLeader || decide (payload ≠ []) })
  | .answer payload =>
    ({ state with lostElection := state.lostElection || decide (payload = "Lost".toList) },
      { side with handler := .notifying })

/-- The handler moves on, and may send a message back. It learns that its peer
crashed when nothing is left to read. -/
def runHandler (info : ReplicaInfo) (peerCrashed : Bool) (state : ReplicaState)
    (side : ReplicaEnd) : Option (ReplicaState × ReplicaEnd × Option ReplicaMessage) :=
  match side.handler with
  | .receiving =>
    match side.incoming with
    | message :: rest =>
      let (next, changed) := handle state { side with incoming := rest } message
      some (next, changed, none)
    | [] =>
      if peerCrashed then
        some ({ state with startElection := state.startElection || side.isConnectedToLeader },
          { side with handler := .closing }, none)
      else none
  | .marking payload =>
    some ({ state with startElection := true }, { side with handler := .answering payload }, none)
  | .answering payload =>
    some (state, { side with handler := .receiving }, info.answerElection payload)
  | .notifying => some (state.notifyOne, { side with handler := .receiving }, none)
  | .closing => some (state, { side with handler := .closed }, none)
  | .closed => none

end ReplicaEnd

/-- The replicas, and the end that each has of its connection with each other. -/
structure ReplicaNetwork where
  replicas : ReplicaInfo → ReplicaState
  ends : ReplicaInfo → ReplicaInfo → ReplicaEnd

inductive NetworkAction where
  | main (replica : ReplicaInfo)
  | handler (replica peer : ReplicaInfo)
  | crash (replica : ReplicaInfo)
  deriving DecidableEq

namespace ReplicaNetwork

variable (network : ReplicaNetwork)

def setReplica (replica : ReplicaInfo) (state : ReplicaState) : ReplicaNetwork :=
  { network with replicas := Function.update network.replicas replica state }

def setEnd (replica peer : ReplicaInfo) (side : ReplicaEnd) : ReplicaNetwork :=
  { network with ends :=
      Function.update network.ends replica (Function.update (network.ends replica) peer side) }

/-- What is sent waits at the other end of the connection. -/
def post (sender : ReplicaInfo) : Option (ReplicaInfo × ReplicaMessage) → ReplicaNetwork
  | none => network
  | some (peer, message) =>
    network.setEnd peer sender ((network.ends peer sender).push [message])

def step (network : ReplicaNetwork) : NetworkAction → Option ReplicaNetwork
  | .main replica =>
    let state := network.replicas replica
    if state.crashed then none
    else
      (state.runMain replica fun peer => decide ((network.ends replica peer).handler = .closed)).map
        fun (next, sent) => (network.setReplica replica next).post replica sent
  | .handler replica peer =>
    let state := network.replicas replica
    if state.crashed then none
    else
      ((network.ends replica peer).runHandler replica (network.replicas peer).crashed state).map
        fun (next, side, sent) =>
          ((network.setReplica replica next).setEnd replica peer side).post replica
            (sent.map fun message => (peer, message))
  | .crash replica =>
    let state := network.replicas replica
    if state.crashed then none
    else some (network.setReplica replica { state with crashed := true })

end ReplicaNetwork

/-- A leader and its backups. The vector of each lists the backups other than
itself, in any order. -/
structure Membership where
  leader : ReplicaInfo
  backups : List ReplicaInfo
  vector : ReplicaInfo → List ReplicaInfo
  mem_vector : ∀ replica ∈ leader :: backups, ∀ info,
    info ∈ vector replica ↔ info ∈ backups ∧ info ≠ replica
  distinctIds : (backups.map ReplicaInfo.id).Nodup
  distinctAddresses : (leader :: backups).Pairwise ReplicaInfo.NotEqual
  sendable : ∀ info ∈ leader :: backups, info.Sendable

namespace Membership

variable (group : Membership)

def members : List ReplicaInfo := group.leader :: group.backups

/-- All replicas idle, and every two members connected. Whoever is no member
counts as crashed. -/
def start : ReplicaNetwork where
  replicas replica :=
    { crashed := decide (replica ∉ group.members)
      isLeader := decide (replica = group.leader)
      replicasVector := group.vector replica }
  ends replica peer :=
    { isConnectedToLeader := decide (peer = group.leader)
      handler := if replica ∈ group.members ∧ peer ∈ group.members ∧ replica ≠ peer then
        .receiving else .closed }

end Membership

section Frames

variable (network : ReplicaNetwork)

namespace ReplicaNetwork

theorem replicas_setReplica (replica : ReplicaInfo) (state : ReplicaState) (other : ReplicaInfo) :
    (network.setReplica replica state).replicas other =
      if other = replica then state else network.replicas other := by
  simp only [setReplica, Function.update_apply]

@[simp] theorem ends_setReplica (replica : ReplicaInfo) (state : ReplicaState) :
    (network.setReplica replica state).ends = network.ends := rfl

@[simp] theorem replicas_setEnd (replica peer : ReplicaInfo) (side : ReplicaEnd) :
    (network.setEnd replica peer side).replicas = network.replicas := rfl

theorem ends_setEnd (replica peer : ReplicaInfo) (side : ReplicaEnd) (other its : ReplicaInfo) :
    (network.setEnd replica peer side).ends other its =
      if other = replica ∧ its = peer then side else network.ends other its := by
  simp only [setEnd, Function.update_apply]
  by_cases here : other = replica
  · subst here
    by_cases there : its = peer <;> simp [there]
  · simp [here]

@[simp] theorem replicas_post (sender : ReplicaInfo)
    (sent : Option (ReplicaInfo × ReplicaMessage)) :
    (network.post sender sent).replicas = network.replicas := by
  cases sent <;> rfl

/-- What of the sent is for a peer. -/
@[simp] def postedTo (peer : ReplicaInfo) :
    Option (ReplicaInfo × ReplicaMessage) → List ReplicaMessage
  | none => []
  | some (target, message) => if target = peer then [message] else []

/-- Posting changes an end only by the messages that are added to it. -/
theorem ends_post (sender : ReplicaInfo) (sent : Option (ReplicaInfo × ReplicaMessage))
    (other its : ReplicaInfo) :
    (network.post sender sent).ends other its =
      (network.ends other its).push (if its = sender then postedTo other sent else []) := by
  cases sent with
  | none => simp [post, ReplicaEnd.push]
  | some mail =>
    obtain ⟨target, message⟩ := mail
    simp only [post, ends_setEnd, postedTo]
    by_cases there : other = target
    · subst there
      by_cases own : its = sender <;> simp [own, ReplicaEnd.push]
    · have away : ¬ target = other := fun same => there same.symm
      simp [there, away, ReplicaEnd.push]

theorem mem_postedTo {peer : ReplicaInfo} {sent : Option (ReplicaInfo × ReplicaMessage)}
    {message : ReplicaMessage} : message ∈ postedTo peer sent ↔ sent = some (peer, message) := by
  cases sent with
  | none => simp
  | some mail =>
    obtain ⟨target, content⟩ := mail
    rw [postedTo]
    split
    next here => simp [here, eq_comm]
    next away => simp [away]

end ReplicaNetwork

end Frames

end TwitterClone
