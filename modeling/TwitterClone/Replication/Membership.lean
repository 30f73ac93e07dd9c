import TwitterClone.Foundation.Machine
import TwitterClone.Replication.ReplicaInfo

/-! How a group of replicas grows and shrinks, and the ids its members hold. A new
replica gets the number of connections that its leader has open. -/
namespace TwitterClone

open Foundation

/-- A connection in a replica's vector: the process at the other end, what is known
of it, and whether its loss was noticed. -/
structure ReplicaLink where
  peer : Nat
  info : ReplicaInfo
  closed : Bool := false
  deriving DecidableEq

/-- A replica process. It still has to contact the listed ones. -/
structure Replica where
  info : ReplicaInfo
  isLeader : Bool := false
  alive : Bool := true
  replicasVector : List ReplicaLink := []
  listed : List ReplicaInfo := []
  deriving DecidableEq

/-- All replicas that were ever started, in the order of their starts. -/
structure Group where
  replicas : List Replica
  deriving DecidableEq

inductive GroupAction where
  | join (leader : Nat) (ip : Text) (port : Int)
  | connect (index : Nat)
  | crash (index : Nat)
  | notice (index peer : Nat)
  | elect (index : Nat)
  deriving DecidableEq

def removeClosedConnections (replicasVector : List ReplicaLink) : List ReplicaLink :=
  replicasVector.filter fun link => !link.closed

namespace Replica

/-- The number of its connections whose loss was not noticed. -/
def openConnections (replica : Replica) : Nat :=
  replica.replicasVector.countP fun link => !link.closed

/-- The replica prunes its vector and adds the new one, which gets an id from a
leader. The infos that were there before go back to the new replica. -/
def answerStartHandshake (replica : Replica) (peer : Nat) (hello : ReplicaInfo) :
    Replica × ReplicaInfo × List ReplicaInfo :=
  let kept := removeClosedConnections replica.replicasVector
  let replicasInfo := kept.map ReplicaLink.info
  let newReplica :=
    if replica.isLeader then { hello with id := int32 replicasInfo.length } else hello
  ({ replica with replicasVector := kept ++ [{ peer, info := newReplica }] },
    newReplica, replicasInfo)

def connectTo (replica : Replica) (peer : Nat) (info : ReplicaInfo) : Replica :=
  { replica with replicasVector := replica.replicasVector ++ [{ peer, info }] }

/-- The handler of a lost connection closes it. -/
def closeConnection (replica : Replica) (peer : Nat) : Replica :=
  { replica with replicasVector := replica.replicasVector.map fun link =>
      if link.peer = peer then { link with closed := true } else link }

/-- Where `sendElection` asks nobody, the replica announces itself. -/
def becomeLeader (replica : Replica) : Replica :=
  { replica with
    isLeader := true
    replicasVector := removeClosedConnections replica.replicasVector }

end Replica

namespace Group

/-- The group of the first leader alone, started with no id. -/
def start (ip : Text) (port : Int) : Group where
  replicas := [{ info := { ip, port }, isLeader := true }]

variable (group : Group)

def setReplica (index : Nat) (replica : Replica) : Group :=
  { group with replicas := group.replicas.set index replica }

/-- The replica that listens at an address. -/
def listener (ip : Text) (port : Int) : Option (Nat × Replica) :=
  (group.replicas.zipIdx.find? fun (replica, _) =>
    replica.alive && replica.info.ip == ip && replica.info.port == port).map fun entry =>
      (entry.2, entry.1)

def isAlive (index : Nat) : Bool := (group.replicas[index]?.map Replica.alive).getD false

/-- A new replica starts to listen and shakes hands with the leader. -/
def join (leader : Nat) (ip : Text) (port : Int) : Option Group :=
  match group.replicas[leader]? with
  | none => none
  | some replica =>
    let hello : ReplicaInfo := { ip, port }
    if replica.alive ∧ replica.isLeader ∧ hello.isValid ∧ group.listener ip port = none then
      let (answering, newReplica, listed) :=
        replica.answerStartHandshake group.replicas.length hello
      let info := { hello with id := newReplica.id }
      some { group with replicas := group.replicas.set leader answering ++ [{ info, listed }] }
    else none

/-- A new replica contacts the next one on its list, which adds it too. At the
address of a replica that is gone it may find itself. -/
def connect (index : Nat) : Option Group :=
  match group.replicas[index]? with
  | none => none
  | some replica =>
    match replica.listed with
    | [] => none
    | info :: rest =>
      if replica.alive then
        match group.listener info.ip info.port with
        | none => some (group.setReplica index { replica with listed := rest })
        | some (peer, listening) =>
          let connected := { replica with listed := rest }.connectTo peer info
          if peer = index then
            some (group.setReplica index (connected.answerStartHandshake index replica.info).1)
          else
            let answering := (listening.answerStartHandshake index replica.info).1
            some ((group.setReplica peer answering).setReplica index connected)
      else none

def crash (index : Nat) : Option Group :=
  match group.replicas[index]? with
  | none => none
  | some replica =>
    if replica.alive then some (group.setReplica index { replica with alive := false }) else none

def notice (index peer : Nat) : Option Group :=
  match group.replicas[index]? with
  | none => none
  | some replica =>
    if replica.alive ∧ group.isAlive peer = false then
      some (group.setReplica index (replica.closeConnection peer))
    else none

/-- The leader is lost, and nobody with a smaller id is left to answer. -/
def elect (index : Nat) : Option Group :=
  match group.replicas[index]? with
  | none => none
  | some replica =>
    let asked := (removeClosedConnections replica.replicasVector).filter fun link =>
      decide (link.info.NotEqual replica.info) && decide (link.info.GreaterThan replica.info)
    if replica.alive ∧ replica.isLeader = false ∧ replica.listed = [] ∧
        (∀ other ∈ group.replicas, other.alive = true → other.isLeader = false) ∧
        ∀ link ∈ asked, group.isAlive link.peer = false then
      some (group.setReplica index replica.becomeLeader)
    else none

def step (group : Group) : GroupAction → Option Group
  | .join leader ip port => group.join leader ip port
  | .connect index => group.connect index
  | .crash index => group.crash index
  | .notice index peer => group.notice index peer
  | .elect index => group.elect index

/-- The ids of the live replicas. -/
def liveIds : List Int := (group.replicas.filter Replica.alive).map fun replica => replica.info.id

def UniqueIds : Prop := group.liveIds.Nodup

instance : Decidable group.UniqueIds := inferInstanceAs (Decidable (List.Nodup _))

/-- No live replica has as its id the number of the leader's open connections. -/
def Unused : GroupAction → Prop
  | .join leader _ _ =>
    ∀ replica ∈ group.replicas[leader]?, ∀ other ∈ group.replicas, other.alive = true →
      other.info.id ≠ int32 replica.openConnections
  | _ => True

instance (group : Group) : (action : GroupAction) → Decidable (group.Unused action)
  | .join leader _ _ =>
    inferInstanceAs (Decidable (∀ replica ∈ group.replicas[leader]?, ∀ other ∈ group.replicas, _))
  | .connect _ | .crash _ | .notice _ _ | .elect _ => isTrue trivial

end Group

section Ids

variable {group next : Group} {index : Nat} {replica changed : Replica}

/-- A replica that stays alive under its id changes no id. -/
theorem liveIds_set (replicas : List Replica) (changed : Replica)
    (found : replicas[index]? = some replica)
    (alive : changed.alive = replica.alive) (id : changed.info.id = replica.info.id) :
    (⟨replicas.set index changed⟩ : Group).liveIds = (⟨replicas⟩ : Group).liveIds := by
  simp only [Group.liveIds]
  induction replicas generalizing index with
  | nil => cases found
  | cons first rest ih =>
    cases index with
    | zero =>
      have same : first = replica := by simpa using found
      subst same
      rw [List.set_cons_zero]
      cases live : first.alive with
      | false => simp [alive, live]
      | true => simp [alive, live, id]
    | succ index =>
      have later := ih (by simpa using found)
      rw [List.set_cons_succ]
      cases live : first.alive with
      | false => simpa [live] using later
      | true => simpa [live] using later

theorem liveIds_crash (replicas : List Replica) (index : Nat) (replica : Replica) :
    (⟨replicas.set index { replica with alive := false }⟩ : Group).liveIds.Sublist
      (⟨replicas⟩ : Group).liveIds := by
  simp only [Group.liveIds]
  induction replicas generalizing index with
  | nil => simp
  | cons first rest ih =>
    cases index with
    | zero =>
      cases live : first.alive with
      | false => simp [live]
      | true => simp [live]
    | succ index =>
      have later := ih index
      cases live : first.alive with
      | false => simpa [live] using later
      | true => simpa [live] using later

theorem liveIds_setReplica (found : group.replicas[index]? = some replica)
    (alive : changed.alive = replica.alive) (id : changed.info.id = replica.info.id) :
    (group.setReplica index changed).liveIds = group.liveIds :=
  liveIds_set group.replicas changed found alive id

theorem frame_answerStartHandshake (replica : Replica) (peer : Nat) (hello : ReplicaInfo) :
    (replica.answerStartHandshake peer hello).1.alive = replica.alive ∧
      (replica.answerStartHandshake peer hello).1.info.id = replica.info.id :=
  ⟨rfl, rfl⟩

theorem getElem_of_listener {ip : Text} {port : Int}
    (found : group.listener ip port = some (index, replica)) :
    group.replicas[index]? = some replica := by
  obtain ⟨⟨listening, position⟩, searched, same⟩ := Option.map_eq_some_iff.mp found
  obtain ⟨rfl, rfl⟩ := Prod.mk.inj same
  exact List.mk_mem_zipIdx_iff_getElem?.mp (List.mem_of_find?_eq_some searched)

theorem Group.join_spec {leader : Nat} {ip : Text} {port : Int}
    (taken : group.join leader ip port = some next) :
    ∃ replica, group.replicas[leader]? = some replica ∧
      next.liveIds = group.liveIds ++ [int32 replica.openConnections] := by
  unfold Group.join at taken
  split at taken
  next => cases taken
  next replica found =>
    refine ⟨replica, found, ?_⟩
    dsimp only at taken
    split at taken
    next allowed =>
      cases taken
      have kept := liveIds_set group.replicas
        (replica.answerStartHandshake group.replicas.length { ip, port }).1 found rfl rfl
      have id : (replica.answerStartHandshake group.replicas.length { ip, port }).2.1.id =
          int32 replica.openConnections := by
        simp [Replica.answerStartHandshake, allowed.2.1, Replica.openConnections,
          removeClosedConnections, List.countP_eq_length_filter]
      simp only [Group.liveIds] at kept ⊢
      rw [List.filter_append, List.map_append, kept]
      simp [id]
    next => cases taken

theorem Group.connect_spec (taken : group.connect index = some next) :
    next.liveIds = group.liveIds := by
  unfold Group.connect at taken
  split at taken
  next => cases taken
  next replica found =>
    split at taken
    next => cases taken
    next info rest _ =>
      split at taken
      next =>
        split at taken
        next => cases taken; exact liveIds_setReplica found rfl rfl
        next peer listening there =>
          dsimp only at taken
          split at taken
          next => cases taken; exact liveIds_setReplica found rfl rfl
          next away =>
            cases taken
            have still : (group.setReplica peer (listening.answerStartHandshake index
                replica.info).1).replicas[index]? = some replica := by
              rw [Group.setReplica, List.getElem?_set_ne away, found]
            have answered := liveIds_setReplica (getElem_of_listener there)
              (frame_answerStartHandshake listening index replica.info).1
              (frame_answerStartHandshake listening index replica.info).2
            exact Eq.trans (liveIds_setReplica still rfl rfl) answered
      next => cases taken

/-- A join keeps ids unique exactly if the new one is not in use; nothing else
gives out ids. -/
theorem uniqueIds_step {action : GroupAction} (unique : group.UniqueIds)
    (taken : Group.step group action = some next) :
    next.UniqueIds ↔ group.Unused action := by
  cases action with
  | join leader ip port =>
    obtain ⟨replica, found, ids⟩ := Group.join_spec taken
    have member : ∀ id, id ∈ group.liveIds ↔
        ∃ other ∈ group.replicas, other.alive = true ∧ other.info.id = id := by
      intro id
      simp [Group.liveIds, and_assoc]
    rw [Group.UniqueIds, ids, List.nodup_append]
    simp only [Group.Unused, found, Option.mem_def, Option.some.injEq, forall_eq']
    constructor
    · rintro ⟨-, -, apart⟩ other inside alive same
      exact apart _ ((member _).mpr ⟨other, inside, alive, rfl⟩) _ (List.mem_singleton_self _) same
    · intro unused
      refine ⟨unique, List.nodup_singleton _, ?_⟩
      intro id old new last same
      obtain ⟨other, inside, alive, held⟩ := (member id).mp old
      exact unused other inside alive (held.trans (same.trans (List.mem_singleton.mp last)))
  | connect index =>
    rw [Group.UniqueIds, Group.connect_spec taken]
    exact iff_of_true unique trivial
  | crash index =>
    change group.crash index = some next at taken
    unfold Group.crash at taken
    split at taken
    next => cases taken
    next replica found =>
      split at taken
      next =>
        cases taken
        exact iff_of_true (unique.sublist (liveIds_crash group.replicas index replica)) trivial
      next => cases taken
  | notice index peer =>
    change group.notice index peer = some next at taken
    unfold Group.notice at taken
    split at taken
    next => cases taken
    next replica found =>
      split at taken
      next =>
        cases taken
        have kept : (group.setReplica index (replica.closeConnection peer)).liveIds =
            group.liveIds := liveIds_setReplica found rfl rfl
        rw [Group.UniqueIds, kept]
        exact iff_of_true unique trivial
      next => cases taken
  | elect index =>
    change group.elect index = some next at taken
    unfold Group.elect at taken
    split at taken
    next => cases taken
    next replica found =>
      dsimp only at taken
      split at taken
      next =>
        cases taken
        have kept : (group.setReplica index replica.becomeLeader).liveIds = group.liveIds :=
          liveIds_setReplica found rfl rfl
        rw [Group.UniqueIds, kept]
        exact iff_of_true unique trivial
      next => cases taken

end Ids

/-- The ids are unique throughout a run exactly if at every join the number of the
leader's open connections is in use as an id by no live replica. -/
theorem uniqueIds_of_run (ip : Text) (port : Int) (actions : List GroupAction) (group : Group)
    (reached : run Group.step (Group.start ip port) actions = some group) :
    Always Group.step Group.UniqueIds (Group.start ip port) actions ↔
      AllMeet Group.step Group.Unused (Group.start ip port) actions :=
  always_iff_allMeet (fun _ _ _ unique taken => uniqueIds_step unique taken)
    (List.nodup_singleton _) reached

/-- Two backups, the second of which is lost and replaced. -/
def lastReplaced : List GroupAction :=
  [.join 0 ['h'] 2, .join 0 ['h'] 3, .connect 2, .crash 2, .notice 0 2, .notice 1 2, .join 0 ['h'] 4,
    .connect 3]

theorem uniqueIds_of_lastReplaced :
    (run Group.step (Group.start ['h'] 1) lastReplaced).isSome = true ∧
      Always Group.step Group.UniqueIds (Group.start ['h'] 1) lastReplaced :=
  ⟨by decide, (uniqueIds_of_run ['h'] 1 lastReplaced _ rfl).mpr (by decide)⟩

/-- The first of two backups is lost and replaced: the new one gets the id of the
second. -/
def firstReplaced : List GroupAction :=
  [.join 0 ['h'] 2, .join 0 ['h'] 3, .connect 2, .crash 1, .notice 0 1, .join 0 ['h'] 4]

/-- The leader is lost, and the first backup counts the connections anew, without
itself. -/
def afterElection : List GroupAction :=
  [.join 0 ['h'] 2, .join 0 ['h'] 3, .connect 2, .crash 0, .elect 1, .join 1 ['h'] 4]

theorem not_uniqueIds_of_replaced :
    (∃ group, run Group.step (Group.start ['h'] 1) firstReplaced = some group ∧
      ¬ group.UniqueIds) ∧
    ∃ group, run Group.step (Group.start ['h'] 1) afterElection = some group ∧
      ¬ group.UniqueIds :=
  ⟨⟨_, rfl, by decide⟩, ⟨_, rfl, by decide⟩⟩

end TwitterClone
