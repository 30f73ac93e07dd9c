import TwitterClone.Foundation.Simulation
import TwitterClone.Replication.Formation
import TwitterClone.Replication.OneLeader

/-! The elections, thread by thread, make the moves that a group is said to make: a loss is
noticed, and a replica becomes the leader, in one step. -/
namespace TwitterClone

open Foundation

/-- The replica has not closed its connection with the peer. -/
def ReplicaNetwork.opens (network : ReplicaNetwork) (replica peer : ReplicaInfo) : Bool :=
  decide ((network.ends replica peer).handler ≠ .closed)

/-- A replica of the group, and what its threads have come to. -/
structure Replica.Shown (members : List ReplicaInfo) (network : ReplicaNetwork)
    (replica : Replica) : Prop where
  alive : replica.alive = !network.crashed replica.info
  isLeader : replica.isLeader = (network.replicas replica.info).isLeader
  listed : replica.listed = []
  links : ∀ link ∈ replica.replicasVector, 0 < link.peer ∧ members[link.peer]? = some link.info ∧
    link.closed = !network.opens replica.info link.info
  vector : (replica.replicasVector.map ReplicaLink.info).filter (network.opens replica.info) =
    (network.replicas replica.info).replicasVector.filter (network.opens replica.info)
  pruning : ∀ kept rest, (network.replicas replica.info).main = .pruning kept rest →
    (kept ++ rest).filter (network.opens replica.info) =
      (network.replicas replica.info).replicasVector.filter (network.opens replica.info)

namespace Membership

variable (membership : Membership)

structure Shows (network : ReplicaNetwork) (group : Group) : Prop where
  infos : group.infos = membership.members
  replicas : ∀ (index : Nat) (replica : Replica), group.replicas[index]? = some replica →
    replica.Shown membership.members network

/-- What a step of a thread is to the group: most of them nothing. -/
def moves (network : ReplicaNetwork) : NetworkAction → List GroupAction
  | .crash replica => [.crash (membership.members.idxOf replica)]
  | .main replica =>
    if (network.replicas replica).main = .leading ∧
        (network.replicas replica).isLeader = false then
      [.elect (membership.members.idxOf replica)]
    else []
  | .handler replica peer =>
    if (network.ends replica peer).handler = .closing then
      [.notice (membership.members.idxOf replica) (membership.members.idxOf peer)]
    else []

end Membership

section Steps

variable {membership : Membership} {network next : ReplicaNetwork} {group : Group}
  {replica peer : ReplicaInfo}

theorem Membership.members_nodup : membership.members.Nodup :=
  membership.distinctAddresses.imp fun different same => by
    simp [same, ReplicaInfo.NotEqual] at different

/-- A member, where the group has it. -/
theorem Membership.Shows.found (shows : membership.Shows network group)
    (member : replica ∈ membership.members) :
    ∃ old, group.replicas[membership.members.idxOf replica]? = some old ∧ old.info = replica := by
  have inside := List.idxOf_lt_length_of_mem member
  have there : group.infos[membership.members.idxOf replica]? = some replica := by
    rw [shows.infos, List.getElem?_eq_getElem inside, List.getElem_idxOf]
  exact Group.getElem?_of_infos there

theorem Membership.Shows.idxOf (shows : membership.Shows network group) {index : Nat}
    {old : Replica} (found : group.replicas[index]? = some old) :
    membership.members.idxOf old.info = index := by
  have there := Group.infos_getElem? found
  rw [shows.infos] at there
  obtain ⟨inside, same⟩ := List.getElem?_eq_some_iff.mp there
  rw [← same, membership.members_nodup.idxOf_getElem]

/-- A step that the group does not see. -/
theorem Membership.Shows.stays (shows : membership.Shows network group)
    (kept : ∀ old : Replica, old.Shown membership.members network →
      old.Shown membership.members next) : membership.Shows next group :=
  ⟨shows.infos, fun index old found => kept old (shows.replicas index old found)⟩

/-- A step that changes one replica of the group. -/
theorem Membership.Shows.set (shows : membership.Shows network group) {index : Nat}
    {old new : Replica} (found : group.replicas[index]? = some old) (info : new.info = old.info)
    (changed : new.Shown membership.members next)
    (kept : ∀ other : Replica, other.info ≠ old.info → other.Shown membership.members network →
      other.Shown membership.members next) :
    membership.Shows next (group.setReplica index new) := by
  obtain ⟨inside, here⟩ := List.getElem?_eq_some_iff.mp found
  constructor
  · have same : group.infos.set index new.info = group.infos := by
      obtain ⟨high, there⟩ := List.getElem?_eq_some_iff.mp (Group.infos_getElem? found)
      rw [info, ← there, List.set_getElem_self]
    rw [← shows.infos, ← same, Group.infos, Group.setReplica, List.map_set, Group.infos]
  · intro position other there
    rw [Group.setReplica] at there
    by_cases own : position = index
    · subst own
      rw [List.getElem?_set_self inside] at there
      exact Option.some.inj there ▸ changed
    · rw [List.getElem?_set_ne (Ne.symm own)] at there
      refine kept other (fun same => own ?_) (shows.replicas position other there)
      rw [← shows.idxOf there, same, shows.idxOf found]

/-- What a replica shows depends on its own threads only. -/
theorem Replica.Shown.congr {old : Replica} {members : List ReplicaInfo}
    (shown : old.Shown members network) (crashed : next.crashed old.info = network.crashed old.info)
    (isLeader : (next.replicas old.info).isLeader = (network.replicas old.info).isLeader)
    (vector : (next.replicas old.info).replicasVector =
      (network.replicas old.info).replicasVector)
    (opens : next.opens old.info = network.opens old.info)
    (pruning : ∀ kept rest, (next.replicas old.info).main = .pruning kept rest →
      (kept ++ rest).filter (network.opens old.info) =
        (network.replicas old.info).replicasVector.filter (network.opens old.info)) :
    old.Shown members next where
  alive := crashed ▸ shown.alive
  isLeader := isLeader ▸ shown.isLeader
  listed := shown.listed
  links := opens ▸ shown.links
  vector := by rw [opens, vector, shown.vector]
  pruning kept rest main := by rw [opens, vector, pruning kept rest main]

/-- A peer whose connection is closed is pruned. -/
theorem filter_opens_prune {kept rest : List ReplicaInfo} :
    ((if decide ((network.ends replica peer).handler = .closed) then kept else kept ++ [peer]) ++
      rest).filter (network.opens replica) =
        (kept ++ peer :: rest).filter (network.opens replica) := by
  by_cases closed : (network.ends replica peer).handler = .closed
  · simp [closed, ReplicaNetwork.opens]
  · simp [closed, ReplicaNetwork.opens]

/-- The main thread moves on, unless it becomes the leader's. -/
theorem Replica.Shown.runMain {old : Replica} {members : List ReplicaInfo}
    {changed : ReplicaState} {sent : Option (ReplicaInfo × ReplicaMessage)}
    (shown : old.Shown members network) (crashed : next.crashed = network.crashed)
    (opens : next.opens = network.opens) (here : next.replicas old.info = changed)
    (move : MainMove old.info
      (fun peer => decide ((network.ends old.info peer).handler = .closed))
      (network.replicas old.info) changed sent)
    (led : (network.replicas old.info).main = .leading →
      (network.replicas old.info).isLeader = true) : old.Shown members next := by
  have stays : changed.isLeader = (network.replicas old.info).isLeader →
      changed.replicasVector = (network.replicas old.info).replicasVector →
      (∀ kept rest, changed.main = .pruning kept rest →
        (kept ++ rest).filter (network.opens old.info) =
          (network.replicas old.info).replicasVector.filter (network.opens old.info)) →
      old.Shown members next := fun leads vector pruning =>
    shown.congr (congrFun crashed _) (here ▸ leads) (here ▸ vector) (congrFun opens _)
      (here ▸ pruning)
  cases move with
  | stirs main =>
    refine stays rfl rfl fun kept rest pruning => ?_
    cases pruning
    rfl
  | pruned kept main =>
    have pruned := shown.pruning kept [] main
    rw [List.append_nil] at pruned
    refine ⟨congrFun crashed _ ▸ shown.alive, here ▸ shown.isLeader, shown.listed,
      opens ▸ shown.links, ?_, ?_⟩
    · rw [opens, here, pruned]
      exact shown.vector
    · rw [here]
      exact fun _ _ pruning => by cases pruning
  | prunes kept peer rest main =>
    refine stays rfl rfl fun left others pruning => ?_
    cases pruning
    rw [filter_opens_prune]
    exact shown.pruning kept (peer :: rest) main
  | goesOn rest main =>
    refine stays rfl rfl fun kept others pruning => ?_
    cases lost : (network.replicas old.info).lostElection <;> simp [lost] at pruning
  | rises main =>
    refine stays rfl rfl fun kept others pruning => ?_
    cases lost : (network.replicas old.info).lostElection <;> simp [lost] at pruning
  | leads main => exact stays (led main).symm rfl fun _ _ pruning => by cases pruning
  | elected | asks | skips | waits | announced | announces | resets | clears =>
    exact stays rfl rfl fun _ _ pruning => by cases pruning

/-- A listed peer is a backup. -/
theorem Replica.Shown.backup {old : Replica} (shown : old.Shown membership.members network)
    {link : ReplicaLink} (member : link ∈ old.replicasVector) : link.info ∈ membership.backups := by
  obtain ⟨positive, there, -⟩ := shown.links link member
  obtain ⟨position, same⟩ := Nat.exists_eq_succ_of_ne_zero (Nat.ne_of_gt positive)
  rw [same] at there
  exact List.mem_of_getElem? there

/-- Only closed connections are gone when a replica has become the leader. -/
theorem Replica.Shown.becomeLeader {old : Replica} {members : List ReplicaInfo}
    (shown : old.Shown members network) (crashed : next.crashed = network.crashed)
    (opens : next.opens = network.opens)
    (here : next.replicas old.info =
      { network.replicas old.info with isLeader := true, main := .resetting }) :
    old.becomeLeader.Shown members next where
  alive := congrFun crashed _ ▸ shown.alive
  isLeader := by rw [Replica.becomeLeader, here]
  listed := shown.listed
  links link member := by
    rw [opens]
    exact shown.links link (List.mem_filter.mp member).1
  vector := by
    have closed : ∀ link ∈ old.replicasVector,
        (network.opens old.info link.info && !link.closed) =
          network.opens old.info link.info := by
      intro link member
      rw [(shown.links link member).2.2, Bool.not_not, Bool.and_self]
    have opened : ((removeClosedConnections old.replicasVector).map ReplicaLink.info).filter
        (network.opens old.info) =
          (old.replicasVector.map ReplicaLink.info).filter (network.opens old.info) := by
      rw [removeClosedConnections, List.filter_map, List.filter_map, List.filter_filter]
      exact congrArg _ (List.filter_congr closed)
    simp only [Replica.becomeLeader, opens, here]
    exact opened.trans shown.vector
  pruning kept rest main := by
    simp only [Replica.becomeLeader, here] at main
    cases main

/-- A listed peer is the one at a position. -/
theorem Replica.Shown.peer_iff {old : Replica} (shown : old.Shown membership.members network)
    {link : ReplicaLink} (member : link ∈ old.replicasVector) :
    link.peer = membership.members.idxOf peer ↔ link.info = peer := by
  have there := (shown.links link member).2.1
  obtain ⟨inside, same⟩ := List.getElem?_eq_some_iff.mp there
  constructor
  · intro here
    rw [← same]
    simp only [here]
    exact List.getElem_idxOf _
  · rintro rfl
    rw [← same, membership.members_nodup.idxOf_getElem]

/-- What remains of lists that agree while more is left out. -/
theorem filter_eq_of_fewer {opens fewer : ReplicaInfo → Bool} {left right : List ReplicaInfo}
    (agree : left.filter opens = right.filter opens)
    (less : ∀ info, fewer info = true → opens info = true) :
    left.filter fewer = right.filter fewer := by
  have twice : ∀ list : List ReplicaInfo, list.filter fewer = (list.filter opens).filter fewer := by
    intro list
    rw [List.filter_filter]
    refine List.filter_congr fun info _ => ?_
    cases kept : fewer info with
    | false => rfl
    | true => rw [less info kept, Bool.and_self]
  rw [twice left, agree, ← twice right]

theorem Replica.Shown.closeConnection {old : Replica}
    (shown : old.Shown membership.members network) (crashed : next.crashed = network.crashed)
    (same : next.replicas old.info = network.replicas old.info)
    (opens : ∀ its, next.opens old.info its = (network.opens old.info its && decide (its ≠ peer))) :
    (old.closeConnection (membership.members.idxOf peer)).Shown membership.members next := by
  have fewer : ∀ info, next.opens old.info info = true → network.opens old.info info = true := by
    intro info left
    rw [opens, Bool.and_eq_true] at left
    exact left.1
  have infos : (old.closeConnection (membership.members.idxOf peer)).replicasVector.map
      ReplicaLink.info = old.replicasVector.map ReplicaLink.info := by
    rw [Replica.closeConnection, List.map_map]
    refine List.map_congr_left fun link _ => ?_
    rw [Function.comp]
    split <;> rfl
  refine ⟨congrFun crashed _ ▸ shown.alive, same ▸ shown.isLeader, shown.listed, ?_, ?_, ?_⟩
  · intro closedLink inside
    obtain ⟨link, member, rfl⟩ := List.mem_map.mp inside
    obtain ⟨positive, there, closed⟩ := shown.links link member
    split
    next lost =>
      refine ⟨positive, there, ?_⟩
      have named : link.info = peer := (shown.peer_iff member).mp lost
      simp [Replica.closeConnection, opens, named]
    next other =>
      refine ⟨positive, there, closed.trans ?_⟩
      have apart : link.info ≠ peer := fun named => other ((shown.peer_iff member).mpr named)
      simp [Replica.closeConnection, opens, apart]
  · rw [infos]
    exact same ▸ filter_eq_of_fewer shown.vector fewer
  · intro kept rest main
    exact same ▸ filter_eq_of_fewer (shown.pruning kept rest (same ▸ main)) fewer

end Steps

namespace Group

variable {group : Group}

/-- A complete group shows where its elections start. -/
theorem Forming.shows (forming : group.Forming) (complete : group.Complete)
    {membership : Membership} (members : membership.members = group.infos)
    (vector : ∀ replica ∈ group.replicas,
      membership.vector replica.info = replica.replicasVector.map ReplicaLink.info) :
    membership.Shows membership.start group := by
  refine ⟨members.symm, fun index replica found => ?_⟩
  have forms := forming.forms index replica found
  have here := infos_getElem? found
  have member : ∀ {info : ReplicaInfo} {position : Nat}, group.infos[position]? = some info →
      info ∈ membership.members := fun there => members ▸ List.mem_of_getElem? there
  have opens : ∀ link ∈ replica.replicasVector,
      membership.start.opens replica.info link.info = true := by
    intro link inside
    have there := forming.infos_of_link complete found inside
    have apart : replica.info ≠ link.info := fun same =>
      (forms.links link inside).2.1 (forming.index_of_info (same ▸ there) here)
    simp [ReplicaNetwork.opens, Membership.start, member here, member there, apart]
  have leads : membership.leader = replica.info ↔ index = 0 := by
    have first : group.infos[0]? = some membership.leader := members ▸ rfl
    constructor
    · intro same
      exact forming.index_of_info (same ▸ here) first
    · rintro rfl
      exact Option.some.inj (first.symm.trans here)
  have listed := vector replica (List.mem_of_getElem? found)
  refine ⟨?_, ?_, complete replica (List.mem_of_getElem? found), ?_, ?_, ?_⟩
  · simp [forms.alive, ReplicaNetwork.crashed, Membership.start, member here]
  · rw [Bool.eq_iff_iff, forms.leads, ← leads]
    simp only [Membership.start, decide_eq_true_eq]
    exact eq_comm
  · intro link inside
    have facts := forms.links link inside
    refine ⟨facts.2.2.1, members ▸ forming.infos_of_link complete found inside, ?_⟩
    rw [facts.1, opens link inside]
    rfl
  · rw [← listed]
    rfl
  · intro kept rest main
    cases main

end Group

end TwitterClone
