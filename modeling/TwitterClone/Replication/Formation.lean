import TwitterClone.Replication.Election
import TwitterClone.Replication.Membership

/-! How a group comes to be what its elections take it for: whoever joins is told of those
before it, and contacts them in its own time, while others join. -/
namespace TwitterClone

open Foundation

/-- The connections of a replica with a peer. -/
def Replica.linksTo (replica : Replica) (peer : Nat) : List ReplicaLink :=
  replica.replicasVector.filter fun link => link.peer = peer

namespace Group

variable (group : Group)

def infos : List ReplicaInfo := group.replicas.map Replica.info

/-- What the first leader lists: everybody else, in the order of their starts. -/
def backupLinks : List ReplicaLink :=
  (group.infos.zipIdx.drop 1).map fun entry => { peer := entry.2, info := entry.1 }

/-- A replica that is started at an address which can be sent, or that goes through its
list. -/
def Grows : GroupAction → Prop
  | .join _ ip port => ' ' ∉ ip ∧ nul ∉ ip ∧ IsInt port
  | .connect _ => True
  | .crash _ | .notice _ _ | .elect _ => False

/-- What holds of each replica while nobody is lost. -/
structure Forms (index : Nat) (replica : Replica) : Prop where
  alive : replica.alive = true
  leads : replica.isLeader = true ↔ index = 0
  links : ∀ link ∈ replica.replicasVector, link.closed = false ∧ link.peer ≠ index ∧
    0 < link.peer ∧ link.peer < group.replicas.length
  once : replica.listed.Nodup
  listed : ∀ info ∈ replica.listed, ∃ peer, 0 < peer ∧ peer < index ∧
    group.infos[peer]? = some info

/-- Of two backups, the later one has still to contact the earlier one, or each has one
connection with the other. -/
structure Linked (first second : Nat) (left right : Replica) : Prop where
  earlier : left.linksTo second =
    if left.info ∈ right.listed then [] else [{ peer := second, info := right.info }]
  later : right.linksTo first =
    if left.info ∈ right.listed then [] else [{ peer := first, info := left.info }]

structure Forming : Prop where
  addresses : group.infos.Pairwise ReplicaInfo.NotEqual
  ids : ∀ (index : Nat) info, group.infos[index + 1]? = some info → info.id = int32 index
  forms : ∀ index replica, group.replicas[index]? = some replica → group.Forms index replica
  leader : ∀ replica, group.replicas[0]? = some replica →
    replica.listed = [] ∧ replica.replicasVector = group.backupLinks
  linked : ∀ first second left right, 0 < first → first < second →
    group.replicas[first]? = some left → group.replicas[second]? = some right →
      Linked first second left right
  nonempty : 0 < group.replicas.length

section Steps

variable {group next : Group} {index peer : Nat} {replica listening : Replica}

theorem infos_getElem? (found : group.replicas[index]? = some replica) :
    group.infos[index]? = some replica.info := by
  rw [infos, List.getElem?_map, found, Option.map_some]

/-- Two replicas of one address are one. -/
theorem index_of_address (addresses : group.infos.Pairwise ReplicaInfo.NotEqual)
    {first second : Nat} {left right : ReplicaInfo} (here : group.infos[first]? = some left)
    (there : group.infos[second]? = some right) (same : ¬ left.NotEqual right) :
    first = second := by
  obtain ⟨low, atFirst⟩ := List.getElem?_eq_some_iff.mp here
  obtain ⟨high, atSecond⟩ := List.getElem?_eq_some_iff.mp there
  have apart := List.pairwise_iff_getElem.mp addresses
  rcases Nat.lt_trichotomy first second with before | equal | after
  · have different := apart first second low high before
    rw [atFirst, atSecond] at different
    exact absurd different same
  · exact equal
  · have different := apart second first high low after
    rw [atFirst, atSecond] at different
    exact absurd (different.imp Ne.symm Ne.symm) same

theorem Forming.index_of_info (forming : group.Forming) {first second : Nat} {info : ReplicaInfo}
    (here : group.infos[first]? = some info) (there : group.infos[second]? = some info) :
    first = second :=
  index_of_address forming.addresses here there (by simp [ReplicaInfo.NotEqual])

theorem Forming.distinct (forming : group.Forming) : group.infos.Nodup :=
  forming.addresses.imp fun different same => by simp [same, ReplicaInfo.NotEqual] at different

theorem getElem?_of_infos {info : ReplicaInfo} (listed : group.infos[peer]? = some info) :
    ∃ listening, group.replicas[peer]? = some listening ∧ listening.info = info := by
  rw [infos, List.getElem?_map] at listed
  exact Option.map_eq_some_iff.mp listed

/-- Whoever looks for a replica by its address finds it. -/
theorem Forming.listener (forming : group.Forming) {info : ReplicaInfo}
    (listed : group.infos[peer]? = some info) :
    ∃ listening, group.replicas[peer]? = some listening ∧ listening.info = info ∧
      group.listener info.ip info.port = some (peer, listening) := by
  obtain ⟨listening, found, rfl⟩ := getElem?_of_infos listed
  refine ⟨listening, found, rfl, ?_⟩
  have present : (listening, peer) ∈ group.replicas.zipIdx :=
    List.mk_mem_zipIdx_iff_getElem?.mpr found
  have alive := (forming.forms peer listening found).alive
  cases searched : group.listener listening.info.ip listening.info.port with
  | none =>
    have missed := List.find?_eq_none.mp (Option.map_eq_none_iff.mp searched) _ present
    simp [alive] at missed
  | some entry =>
    obtain ⟨⟨other, position⟩, first, rfl⟩ := Option.map_eq_some_iff.mp searched
    have there := List.mk_mem_zipIdx_iff_getElem?.mp (List.mem_of_find?_eq_some first)
    have address := List.find?_some first
    have same : ¬ other.info.NotEqual listening.info := by
      simp only [Bool.and_eq_true, beq_iff_eq] at address
      simp [ReplicaInfo.NotEqual, address]
    obtain rfl := index_of_address forming.addresses (infos_getElem? there) listed same
    rw [found] at there
    obtain rfl := Option.some.inj there
    rfl

theorem Forms.open (forms : group.Forms index replica) :
    removeClosedConnections replica.replicasVector = replica.replicasVector := by
  refine List.filter_eq_self.mpr fun link member => ?_
  rw [(forms.links link member).1]
  rfl

/-- A newcomer contacts the first on its list, which is there. -/
theorem Forming.connect_spec (forming : group.Forming) (taken : group.connect index = some next) :
    ∃ peer left right rest, 0 < peer ∧ peer < index ∧ group.replicas[peer]? = some left ∧
      group.replicas[index]? = some right ∧ right.listed = left.info :: rest ∧
      next.replicas = (group.replicas.set peer { left with
          replicasVector := left.replicasVector ++ [{ peer := index, info := right.info }] }).set
        index { right with
          listed := rest
          replicasVector := right.replicasVector ++ [{ peer, info := left.info }] } := by
  unfold Group.connect at taken
  split at taken
  next => cases taken
  next right found =>
    split at taken
    next => cases taken
    next info rest listed =>
      have forms := forming.forms index right found
      obtain ⟨peer, some, before, there⟩ := forms.listed info (listed ▸ List.mem_cons_self)
      obtain ⟨left, here, rfl, listens⟩ := forming.listener there
      rw [if_pos forms.alive, listens] at taken
      dsimp only at taken
      rw [if_neg (Nat.ne_of_lt before)] at taken
      refine ⟨peer, left, right, rest, some, before, here, found, listed, ?_⟩
      obtain rfl := Option.some.inj taken
      have backup : left.isLeader = false := by
        have leads := (forming.forms peer left here).leads
        rw [Bool.eq_false_iff]
        exact fun leader => Nat.ne_of_gt some (leads.mp leader)
      simp [Replica.answerStartHandshake, Replica.connectTo, Group.setReplica, backup,
        (forming.forms peer left here).open]

/-- A newcomer is told of all backups, and the leader lists it behind them. -/
theorem Forming.join_spec (forming : group.Forming) {leader : Nat} {ip : Text} {port : Int}
    (taken : group.join leader ip port = some next) :
    ∃ first info, group.replicas[0]? = some first ∧ info.ip = ip ∧ info.port = port ∧
      info.id = int32 first.replicasVector.length ∧
      (∀ other ∈ group.infos, other.NotEqual info) ∧
      next.replicas = group.replicas.set 0 { first with
          replicasVector := first.replicasVector ++ [{ peer := group.replicas.length, info }] } ++
        [{ info, listed := first.replicasVector.map ReplicaLink.info }] := by
  unfold Group.join at taken
  split at taken
  next => cases taken
  next first found =>
    dsimp only at taken
    split at taken
    next allowed =>
      obtain ⟨alive, leads, valid, free⟩ := allowed
      have forms := forming.forms leader first found
      obtain rfl := forms.leads.mp leads
      obtain rfl := Option.some.inj taken
      refine ⟨first, { id := int32 first.replicasVector.length, ip, port }, found, rfl, rfl, rfl,
        ?_, ?_⟩
      · intro other member
        by_contra same
        obtain ⟨position, there⟩ := List.mem_iff_getElem?.mp member
        obtain ⟨listening, -, -, listens⟩ := forming.listener there
        have address : other.ip = ip ∧ other.port = port := by
          simpa [ReplicaInfo.NotEqual] using same
        rw [address.1, address.2, free] at listens
        cases listens
      · simp [Replica.answerStartHandshake, leads, forms.open]
    next => cases taken

/-- What a contact changes of the replica at a position: the two that take part list each
other, and the newcomer has one less to contact. -/
structure Contacted (peer index : Nat) (left right : ReplicaInfo) (position : Nat)
    (old new : Replica) : Prop where
  info : new.info = old.info
  alive : new.alive = old.alive
  isLeader : new.isLeader = old.isLeader
  vector : new.replicasVector = old.replicasVector ++
    (if position = peer then [{ peer := index, info := right }]
      else if position = index then [{ peer, info := left }] else [])
  fewer : new.listed.Sublist old.listed
  listed : ∀ info, info ∈ new.listed ↔ info ∈ old.listed ∧ (position = index → info ≠ left)

theorem Forming.contacted (forming : group.Forming) (taken : group.connect index = some next) :
    ∃ peer left right, 0 < peer ∧ peer < index ∧ group.infos[peer]? = some left ∧
      group.infos[index]? = some right ∧
      (∀ replica, group.replicas[index]? = some replica → left ∈ replica.listed) ∧
      next.replicas.length = group.replicas.length ∧
      ∀ position new, next.replicas[position]? = some new →
        ∃ old, group.replicas[position]? = some old ∧
          Contacted peer index left right position old new := by
  obtain ⟨peer, left, right, rest, some, before, here, found, listed, shape⟩ :=
    forming.connect_spec taken
  have once := (forming.forms index right found).once
  rw [listed, List.nodup_cons] at once
  refine ⟨peer, left.info, right.info, some, before, infos_getElem? here, infos_getElem? found,
    ?_, by simp [shape], ?_⟩
  · intro replica there
    rw [found] at there
    obtain rfl := Option.some.inj there
    exact listed ▸ List.mem_cons_self
  intro position new there
  rw [shape] at there
  by_cases newcomer : position = index
  · subst newcomer
    rw [List.getElem?_set_self (by simpa using (List.getElem?_eq_some_iff.mp found).1)] at there
    obtain rfl := Option.some.inj there
    refine ⟨right, found, rfl, rfl, rfl, ?_, listed ▸ List.sublist_cons_self .., ?_⟩
    · rw [if_neg (Nat.ne_of_gt before), if_pos rfl]
    · intro info
      rw [listed, List.mem_cons]
      constructor
      · intro member
        exact ⟨Or.inr member, fun _ same => once.1 (same ▸ member)⟩
      · rintro ⟨same | member, different⟩
        · exact absurd same (different rfl)
        · exact member
  · rw [List.getElem?_set_ne (Ne.symm newcomer)] at there
    by_cases older : position = peer
    · subst older
      rw [List.getElem?_set_self (List.getElem?_eq_some_iff.mp here).1] at there
      obtain rfl := Option.some.inj there
      refine ⟨left, here, rfl, rfl, rfl, by rw [if_pos rfl], List.Sublist.refl _, ?_⟩
      intro info
      exact ⟨fun member => ⟨member, fun same => absurd same newcomer⟩, And.left⟩
    · rw [List.getElem?_set_ne (Ne.symm older)] at there
      refine ⟨new, there, rfl, rfl, rfl, ?_, List.Sublist.refl _, ?_⟩
      · rw [if_neg older, if_neg newcomer, List.append_nil]
      · intro info
        exact ⟨fun member => ⟨member, fun same => absurd same newcomer⟩, And.left⟩

theorem linksTo_of_vector {old new : Replica} {added : List ReplicaLink}
    (vector : new.replicasVector = old.replicasVector ++ added) (peer : Nat) :
    new.linksTo peer = old.linksTo peer ++ added.filter fun link => link.peer = peer := by
  rw [Replica.linksTo, vector, List.filter_append]
  rfl

theorem infos_eq_of (length : next.replicas.length = group.replicas.length)
    (same : ∀ (position : Nat) (new : Replica), next.replicas[position]? = some new →
      ∃ old, group.replicas[position]? = some old ∧ new.info = old.info) :
    next.infos = group.infos := by
  refine List.ext_getElem? fun position => ?_
  rw [infos, infos, List.getElem?_map, List.getElem?_map]
  cases there : next.replicas[position]? with
  | none =>
    rw [List.getElem?_eq_none_iff, length] at there
    rw [List.getElem?_eq_none there]
  | some new =>
    obtain ⟨old, found, kept⟩ := same position new there
    rw [found, Option.map_some, Option.map_some, kept]

theorem Linked.contacted {first second : Nat}
    {oldLeft oldRight newLeft newRight : Replica} {left right : ReplicaInfo}
    (linked : Linked first second oldLeft oldRight) (forming : group.Forming)
    (before : peer < index) (here : group.infos[peer]? = some left)
    (there : group.infos[index]? = some right)
    (listed : ∀ replica, group.replicas[index]? = some replica → left ∈ replica.listed)
    (order : first < second) (wasLeft : group.replicas[first]? = some oldLeft)
    (wasRight : group.replicas[second]? = some oldRight)
    (changeLeft : Contacted peer index left right first oldLeft newLeft)
    (changeRight : Contacted peer index left right second oldRight newRight) :
    Linked first second newLeft newRight := by
  have sameLeft := infos_getElem? wasLeft
  have sameRight := infos_getElem? wasRight
  by_cases pair : first = peer ∧ second = index
  · -- these two contact each other now
    obtain ⟨rfl, rfl⟩ := pair
    obtain rfl := Option.some.inj (sameLeft.symm.trans here)
    obtain rfl := Option.some.inj (sameRight.symm.trans there)
    have waited := listed oldRight wasRight
    have done : newLeft.info ∉ newRight.listed := by
      rw [changeLeft.info, changeRight.listed]
      exact fun member => member.2 rfl rfl
    constructor
    · rw [linksTo_of_vector changeLeft.vector, linked.earlier, if_pos waited, if_neg done,
        if_pos rfl, changeRight.info]
      simp
    · rw [linksTo_of_vector changeRight.vector, linked.later, if_pos waited, if_neg done,
        if_neg (Nat.ne_of_gt order), if_pos rfl, changeLeft.info]
      simp
  · have waits : newLeft.info ∈ newRight.listed ↔ oldLeft.info ∈ oldRight.listed := by
      rw [changeLeft.info, changeRight.listed, and_iff_left_iff_imp]
      intro _ newcomer same
      exact pair ⟨forming.index_of_info sameLeft (same ▸ here), newcomer⟩
    have earlier : newLeft.linksTo second = oldLeft.linksTo second := by
      rw [linksTo_of_vector changeLeft.vector, List.append_right_eq_self]
      split
      next older =>
        have other : index ≠ second := fun same => pair ⟨older, same.symm⟩
        simp [other]
      next =>
        split
        next newcomer =>
          have other : peer ≠ second := by omega
          simp [other]
        next => rfl
    have later : newRight.linksTo first = oldRight.linksTo first := by
      rw [linksTo_of_vector changeRight.vector, List.append_right_eq_self]
      split
      next older =>
        have other : index ≠ first := by omega
        simp [other]
      next =>
        split
        next newcomer =>
          have other : peer ≠ first := fun same => pair ⟨same.symm, newcomer⟩
          simp [other]
        next => rfl
    constructor
    · rw [earlier, linked.earlier, changeRight.info]
      simp only [waits]
    · rw [later, linked.later, changeLeft.info]
      simp only [← changeLeft.info, waits]

theorem Forming.connect (forming : group.Forming) (taken : group.connect index = some next) :
    next.Forming := by
  obtain ⟨peer, left, right, some, before, here, found, listed, length, contacted⟩ :=
    forming.contacted taken
  have infos : next.infos = group.infos := infos_eq_of length fun position new there =>
    (contacted position new there).imp fun old facts => ⟨facts.1, facts.2.info⟩
  have inside : index < group.replicas.length := by
    have high := (List.getElem?_eq_some_iff.mp found).1
    rwa [Group.infos, List.length_map] at high
  refine ⟨infos ▸ forming.addresses, infos ▸ forming.ids, ?_, ?_, ?_, length ▸ forming.nonempty⟩
  · intro position new there
    obtain ⟨old, was, change⟩ := contacted position new there
    have forms := forming.forms position old was
    refine ⟨change.alive.trans forms.alive, change.isLeader ▸ forms.leads, ?_,
      forms.once.sublist change.fewer, ?_⟩
    · intro link member
      rw [length]
      rw [change.vector, List.mem_append] at member
      rcases member with old | added
      · exact forms.links link old
      · split at added
        next own =>
          obtain rfl := List.mem_singleton.mp added
          exact ⟨rfl, own ▸ Nat.ne_of_gt before, some.trans before, inside⟩
        next other =>
          split at added
          next own =>
            obtain rfl := List.mem_singleton.mp added
            exact ⟨rfl, Ne.symm other, some, before.trans inside⟩
          next => cases added
    · intro info member
      rw [infos]
      exact forms.listed info (change.fewer.subset member)
  · intro new there
    obtain ⟨old, was, change⟩ := contacted 0 new there
    obtain ⟨nobody, vector⟩ := forming.leader old was
    have apart : 0 ≠ peer ∧ 0 ≠ index := ⟨by omega, by omega⟩
    refine ⟨List.sublist_nil.mp (nobody ▸ change.fewer), ?_⟩
    rw [change.vector, if_neg apart.1, if_neg apart.2, List.append_nil, vector, backupLinks,
      backupLinks, infos]
  · intro first second newLeft newRight backup order atFirst atSecond
    obtain ⟨oldLeft, wasLeft, changeLeft⟩ := contacted first newLeft atFirst
    obtain ⟨oldRight, wasRight, changeRight⟩ := contacted second newRight atSecond
    exact (forming.linked first second oldLeft oldRight backup order wasLeft wasRight).contacted
      forming before here found listed order wasLeft wasRight changeLeft changeRight

/-- The infos that a newcomer is told of. -/
theorem infos_backupLinks : group.backupLinks.map ReplicaLink.info = group.infos.drop 1 := by
  rw [backupLinks, List.map_map]
  have first : (ReplicaLink.info ∘ fun entry : ReplicaInfo × Nat =>
      ({ peer := entry.2, info := entry.1 } : ReplicaLink)) = Prod.fst := rfl
  rw [first, List.map_drop, List.zipIdx_map_fst]

theorem mem_infos_drop {info : ReplicaInfo} (member : info ∈ group.infos.drop 1) :
    ∃ peer, 0 < peer ∧ peer < group.replicas.length ∧ group.infos[peer]? = some info := by
  obtain ⟨position, there⟩ := List.mem_iff_getElem?.mp member
  rw [List.getElem?_drop] at there
  have high := (List.getElem?_eq_some_iff.mp there).1
  rw [infos, List.length_map] at high
  exact ⟨1 + position, by omega, high, there⟩

/-- What a start changes: the leader lists the newcomer, who is to contact all others. -/
theorem Forming.joined (forming : group.Forming) {leader : Nat} {ip : Text} {port : Int}
    (taken : group.join leader ip port = some next) :
    ∃ info, next.infos = group.infos ++ [info] ∧
      next.replicas.length = group.replicas.length + 1 ∧
      info.id = int32 (group.replicas.length - 1 : Nat) ∧ info.ip = ip ∧ info.port = port ∧
      (∀ other ∈ group.infos, other.NotEqual info) ∧
      ∀ (index : Nat) (new : Replica), next.replicas[index]? = some new →
        (index = 0 ∧ new.listed = [] ∧ new.alive = true ∧ new.isLeader = true ∧
          new.replicasVector =
            group.backupLinks ++ [{ peer := group.replicas.length, info }]) ∨
        (0 < index ∧ group.replicas[index]? = some new) ∨
        (index = group.replicas.length ∧
          new = { info, listed := group.infos.drop 1 }) := by
  obtain ⟨first, info, found, ip, port, id, apart, shape⟩ := forming.join_spec taken
  obtain ⟨nobody, vector⟩ := forming.leader first found
  have forms := forming.forms 0 first found
  have count : first.replicasVector.length = group.replicas.length - 1 := by
    rw [vector, backupLinks, List.length_map, List.length_drop, List.length_zipIdx, infos,
      List.length_map]
  rw [vector, infos_backupLinks] at shape
  refine ⟨info, ?_, by simp [shape], count ▸ id, ip, port, apart, ?_⟩
  · have kept : (group.replicas.map Replica.info).set 0 first.info = group.infos := by
      obtain ⟨high, there⟩ := List.getElem?_eq_some_iff.mp (infos_getElem? found)
      exact there ▸ List.set_getElem_self high
    rw [infos, shape, List.map_append, List.map_set, kept]
    rfl
  · intro index new there
    rw [shape] at there
    by_cases last : index < group.replicas.length
    · rw [List.getElem?_append_left (by simpa using last)] at there
      by_cases leads : index = 0
      · subst leads
        rw [List.getElem?_set_self forming.nonempty] at there
        obtain rfl := Option.some.inj there
        exact Or.inl ⟨rfl, nobody, forms.alive, forms.leads.mpr rfl, rfl⟩
      · rw [List.getElem?_set_ne (Ne.symm leads)] at there
        exact Or.inr (Or.inl ⟨Nat.pos_of_ne_zero leads, there⟩)
    · rw [List.getElem?_append_right (by simpa using last)] at there
      obtain ⟨only, same⟩ := List.getElem?_eq_some_iff.mp there
      rw [List.length_set, List.length_singleton] at only
      have here : index = group.replicas.length := by omega
      subst here
      exact Or.inr (Or.inr ⟨rfl, by simpa using same.symm⟩)

/-- A replica that was there lists no newcomer. -/
theorem Forms.linksTo_newcomer (forms : group.Forms index replica) :
    replica.linksTo group.replicas.length = [] := by
  refine List.filter_eq_nil_iff.mpr fun link member => ?_
  have older := (forms.links link member).2.2.2
  simpa using Nat.ne_of_lt older

theorem Forming.join (forming : group.Forming) {leader : Nat} {ip : Text} {port : Int}
    (taken : group.join leader ip port = some next) : next.Forming := by
  obtain ⟨info, infos, length, id, -, -, apart, positions⟩ := forming.joined taken
  have positive := forming.nonempty
  have count : group.infos.length = group.replicas.length := List.length_map ..
  have older : ∀ {peer : Nat} {other : ReplicaInfo}, group.infos[peer]? = some other →
      next.infos[peer]? = some other := by
    intro peer other there
    rw [infos, List.getElem?_append_left (List.getElem?_eq_some_iff.mp there).1, there]
  refine ⟨?_, ?_, ?_, ?_, ?_, length ▸ Nat.succ_pos _⟩
  · rw [infos, List.pairwise_append]
    refine ⟨forming.addresses, List.pairwise_singleton .., fun other member last there => ?_⟩
    exact List.mem_singleton.mp there ▸ apart other member
  · intro index other there
    rw [infos] at there
    by_cases last : index + 1 < group.infos.length
    · rw [List.getElem?_append_left last] at there
      exact forming.ids index other there
    · rw [List.getElem?_append_right (Nat.le_of_not_lt last)] at there
      obtain ⟨only, same⟩ := List.getElem?_eq_some_iff.mp there
      rw [List.length_singleton] at only
      have here : group.replicas.length - 1 = index := by omega
      have named : info = other := by simpa using same
      rw [← named, id, here]
  · intro index new there
    rcases positions index new there with
      ⟨rfl, nobody, alive, leads, vector⟩ | ⟨backup, was⟩ | ⟨rfl, rfl⟩
    · refine ⟨alive, iff_of_true leads rfl, ?_, nobody ▸ List.nodup_nil, by simp [nobody]⟩
      intro link member
      rw [vector, List.mem_append] at member
      rcases member with old | newcomer
      · have found := List.getElem?_eq_getElem positive
        rw [← (forming.leader _ found).2] at old
        obtain ⟨isOpen, other, some, inside⟩ := (forming.forms 0 _ found).links link old
        exact ⟨isOpen, other, some, length ▸ Nat.lt_succ_of_lt inside⟩
      · obtain rfl := List.mem_singleton.mp newcomer
        exact ⟨rfl, Nat.ne_of_gt positive, positive, length ▸ Nat.lt_succ_self _⟩
    · have forms := forming.forms index new was
      refine ⟨forms.alive, forms.leads, ?_, forms.once, ?_⟩
      · intro link member
        obtain ⟨isOpen, other, some, inside⟩ := forms.links link member
        exact ⟨isOpen, other, some, length ▸ Nat.lt_succ_of_lt inside⟩
      · intro other member
        obtain ⟨peer, some, before, listed⟩ := forms.listed other member
        exact ⟨peer, some, before, older listed⟩
    · refine ⟨rfl, iff_of_false (by simp) (Nat.ne_of_gt positive), by simp, ?_, ?_⟩
      · exact forming.distinct.sublist (List.drop_sublist ..)
      · intro other member
        obtain ⟨peer, some, before, listed⟩ := mem_infos_drop member
        exact ⟨peer, some, before, older listed⟩
  · intro new there
    rcases positions 0 new there with ⟨-, nobody, -, -, vector⟩ | ⟨backup, -⟩ | ⟨last, -⟩
    · refine ⟨nobody, vector.trans ?_⟩
      rw [backupLinks, backupLinks, infos, List.zipIdx_append, List.drop_append_of_le_length
        (by rw [List.length_zipIdx, count]; exact positive), List.map_append, count]
      simp
    · exact absurd backup (Nat.lt_irrefl 0)
    · exact absurd last.symm (Nat.ne_of_gt positive)
  · intro first second left right backup order atFirst atSecond
    have inside : first < group.replicas.length := by
      have high := (List.getElem?_eq_some_iff.mp atSecond).1
      omega
    have wasLeft : group.replicas[first]? = some left := by
      rcases positions first left atFirst with ⟨rfl, -⟩ | ⟨-, was⟩ | ⟨last, -⟩
      · exact absurd backup (Nat.lt_irrefl 0)
      · exact was
      · exact absurd last (Nat.ne_of_lt inside)
    rcases positions second right atSecond with ⟨rfl, -⟩ | ⟨-, wasRight⟩ | ⟨rfl, rfl⟩
    · exact absurd order (Nat.not_lt_zero _)
    · exact forming.linked first second left right backup order wasLeft wasRight
    · have told : left.info ∈ group.infos.drop 1 := by
        refine List.mem_iff_getElem?.mpr ⟨first - 1, ?_⟩
        rw [List.getElem?_drop, Nat.add_sub_cancel' backup]
        exact infos_getElem? wasLeft
      constructor
      · rw [if_pos told]
        exact (forming.forms first left wasLeft).linksTo_newcomer
      · rw [if_pos told]
        rfl

theorem forming_start (ip : Text) (port : Int) : (start ip port).Forming := by
  have only : ∀ {index : Nat} {replica : Replica}, (start ip port).replicas[index]? = some replica →
      index = 0 ∧ replica = { info := { ip, port }, isLeader := true } := by
    intro index replica there
    cases index with
    | zero => exact ⟨rfl, (Option.some.inj there).symm⟩
    | succ index => cases there
  refine ⟨List.pairwise_singleton .., ?_, ?_, ?_, ?_, Nat.one_pos⟩
  · intro index info there
    cases there
  · intro index replica there
    obtain ⟨rfl, rfl⟩ := only there
    exact ⟨rfl, iff_of_true rfl rfl, by simp, List.nodup_nil, by simp⟩
  · intro replica there
    obtain ⟨-, rfl⟩ := only there
    exact ⟨rfl, rfl⟩
  · intro first second left right backup order atFirst atSecond
    obtain ⟨rfl, -⟩ := only atFirst
    exact absurd backup (Nat.lt_irrefl 0)

theorem Forming.step (forming : group.Forming) {action : GroupAction} (grows : Grows action)
    (taken : group.step action = some next) : next.Forming := by
  cases action with
  | join leader ip port => exact forming.join taken
  | connect index => exact forming.connect taken
  | crash index => exact absurd grows id
  | notice index peer => exact absurd grows id
  | elect index => exact absurd grows id

/-- Whatever address a replica is started at, it can be told to others. -/
theorem Forming.sendable (forming : group.Forming) (sendable : ∀ info ∈ group.infos, info.Sendable)
    {action : GroupAction} (grows : Grows action) (taken : group.step action = some next) :
    ∀ info ∈ next.infos, info.Sendable := by
  cases action with
  | join leader ip port =>
    obtain ⟨info, infos, -, id, sameIp, samePort, -, -⟩ := forming.joined taken
    obtain ⟨word, terminated, range⟩ := grows
    rw [infos]
    intro other member
    rcases List.mem_append.mp member with old | new
    · exact sendable other old
    · obtain rfl := List.mem_singleton.mp new
      exact ⟨id ▸ isInt_int32 _, samePort ▸ range, sameIp ▸ word, sameIp ▸ terminated⟩
  | connect index =>
    obtain ⟨peer, left, right, -, -, -, -, -, length, contacted⟩ := forming.contacted taken
    have infos : next.infos = group.infos := infos_eq_of length fun position new there =>
      (contacted position new there).imp fun old facts => ⟨facts.1, facts.2.info⟩
    exact infos ▸ sendable
  | crash index => exact absurd grows id
  | notice index peer => exact absurd grows id
  | elect index => exact absurd grows id

end Steps

section Formed

variable {group : Group}

/-- Nobody has anybody left to contact. -/
def Complete (group : Group) : Prop := ∀ replica ∈ group.replicas, replica.listed = []

/-- What the replica of an info lists. -/
def listedBy (group : Group) (info : ReplicaInfo) : List ReplicaInfo :=
  match group.replicas.find? fun replica => replica.info = info with
  | some replica => replica.replicasVector.map ReplicaLink.info
  | none => []

theorem Forming.listedBy_eq (forming : group.Forming) {index : Nat} {replica : Replica}
    (found : group.replicas[index]? = some replica) :
    group.listedBy replica.info = replica.replicasVector.map ReplicaLink.info := by
  unfold listedBy
  split
  next other searched =>
    obtain ⟨position, there⟩ := List.mem_iff_getElem?.mp (List.mem_of_find?_eq_some searched)
    have same : other.info = replica.info := by simpa using List.find?_some searched
    obtain rfl := forming.index_of_info (same ▸ infos_getElem? there) (infos_getElem? found)
    rw [found] at there
    rw [Option.some.inj there]
  next missed =>
    have absent := List.find?_eq_none.mp missed replica (List.mem_of_getElem? found)
    simp at absent

/-- A complete group has one connection between any two backups. -/
theorem Forming.linksTo (forming : group.Forming) (complete : group.Complete) {index peer : Nat}
    {replica other : Replica} (backup : 0 < index) (also : 0 < peer) (different : peer ≠ index)
    (found : group.replicas[index]? = some replica) (there : group.replicas[peer]? = some other) :
    replica.linksTo peer = [{ peer, info := other.info }] := by
  rcases Nat.lt_or_gt_of_ne different with before | after
  · have linked := (forming.linked peer index other replica also before there found).later
    rwa [complete replica (List.mem_of_getElem? found), if_neg List.not_mem_nil] at linked
  · have linked := (forming.linked index peer replica other backup after found there).earlier
    rwa [complete other (List.mem_of_getElem? there), if_neg List.not_mem_nil] at linked

theorem mem_backups {info : ReplicaInfo} :
    info ∈ group.infos.drop 1 ↔
      ∃ (peer : Nat) (other : Replica), 0 < peer ∧ group.replicas[peer]? = some other ∧
        other.info = info := by
  constructor
  · intro member
    obtain ⟨peer, backup, -, there⟩ := mem_infos_drop member
    obtain ⟨other, found, named⟩ := getElem?_of_infos there
    exact ⟨peer, other, backup, found, named⟩
  · rintro ⟨peer, other, backup, found, rfl⟩
    refine List.mem_iff_getElem?.mpr ⟨peer - 1, ?_⟩
    rw [List.getElem?_drop, Nat.add_sub_cancel' backup]
    exact infos_getElem? found

/-- A link of a backup in a complete group, and where it leads. -/
theorem Forming.mem_links (forming : group.Forming) (complete : group.Complete) {index : Nat}
    {replica : Replica} (backup : 0 < index) (found : group.replicas[index]? = some replica)
    (link : ReplicaLink) :
    link ∈ replica.replicasVector ↔ ∃ (peer : Nat) (other : Replica), 0 < peer ∧ peer ≠ index ∧
      group.replicas[peer]? = some other ∧ link = { peer, info := other.info } := by
  constructor
  · intro member
    obtain ⟨-, different, also, inside⟩ := (forming.forms index replica found).links link member
    have there := List.getElem?_eq_getElem inside
    have single := forming.linksTo complete backup also different found there
    have among : link ∈ replica.linksTo link.peer :=
      List.mem_filter.mpr ⟨member, decide_eq_true rfl⟩
    rw [single] at among
    exact ⟨link.peer, _, also, different, there, List.mem_singleton.mp among⟩
  · rintro ⟨peer, other, also, different, there, rfl⟩
    have single := forming.linksTo complete backup also different found there
    have among : ({ peer, info := other.info } : ReplicaLink) ∈ replica.linksTo peer :=
      single ▸ List.mem_singleton_self _
    exact (List.mem_filter.mp among).1

/-- Every replica of a complete group lists all backups but itself. -/
theorem Forming.mem_listedBy (forming : group.Forming) (complete : group.Complete) {index : Nat}
    {replica : Replica} (found : group.replicas[index]? = some replica) (info : ReplicaInfo) :
    info ∈ group.listedBy replica.info ↔ info ∈ group.infos.drop 1 ∧ info ≠ replica.info := by
  have other_of : ∀ {peer : Nat} {other : Replica}, group.replicas[peer]? = some other →
      (other.info ≠ replica.info ↔ peer ≠ index) := by
    intro peer other there
    refine not_congr ⟨fun same => ?_, ?_⟩
    · exact forming.index_of_info (same ▸ infos_getElem? there) (infos_getElem? found)
    · rintro rfl
      rw [found] at there
      rw [Option.some.inj there]
  rw [forming.listedBy_eq found]
  rcases Nat.eq_zero_or_pos index with rfl | backup
  · rw [(forming.leader replica found).2, infos_backupLinks]
    refine ⟨fun member => ⟨member, ?_⟩, And.left⟩
    obtain ⟨peer, other, also, there, rfl⟩ := mem_backups.mp member
    exact (other_of there).mpr (Nat.ne_of_gt also)
  · rw [List.mem_map, mem_backups]
    constructor
    · rintro ⟨link, member, rfl⟩
      obtain ⟨peer, other, also, different, there, rfl⟩ :=
        (forming.mem_links complete backup found link).mp member
      exact ⟨⟨peer, other, also, there, rfl⟩, (other_of there).mpr different⟩
    · rintro ⟨⟨peer, other, also, there, rfl⟩, different⟩
      exact ⟨{ peer, info := other.info }, (forming.mem_links complete backup found _).mpr
        ⟨peer, other, also, (other_of there).mp different, there, rfl⟩, rfl⟩

theorem infos_eq_cons {leader : Replica} (found : group.replicas[0]? = some leader) :
    group.infos = leader.info :: group.infos.drop 1 := by
  obtain ⟨inside, there⟩ := List.getElem?_eq_some_iff.mp (infos_getElem? found)
  rw [← there]
  exact (List.drop_eq_getElem_cons inside)

theorem Forming.distinctIds (forming : group.Forming) (few : group.replicas.length ≤ 2 ^ 31) :
    ((group.infos.drop 1).map ReplicaInfo.id).Nodup := by
  have length : group.infos.length = group.replicas.length := List.length_map ..
  have counted : ∀ (index : Nat) (info : ReplicaInfo), (group.infos.drop 1)[index]? = some info →
      info.id = index := by
    intro index info there
    rw [List.getElem?_drop, Nat.add_comm] at there
    have inside := (List.getElem?_eq_some_iff.mp there).1
    rw [forming.ids index info there, int32_of_isInt ⟨by omega, by omega⟩]
  rw [List.Nodup, List.pairwise_map, List.pairwise_iff_getElem]
  intro first second low high before same
  rw [counted first _ (List.getElem?_eq_getElem low),
    counted second _ (List.getElem?_eq_getElem high)] at same
  omega

/-- A complete group as the elections see it. -/
def Forming.membership (forming : group.Forming) (complete : group.Complete)
    (sendable : ∀ info ∈ group.infos, info.Sendable) (few : group.replicas.length ≤ 2 ^ 31)
    (leader : Replica) (found : group.replicas[0]? = some leader) : Membership where
  leader := leader.info
  backups := group.infos.drop 1
  vector := group.listedBy
  mem_vector := by
    rw [← infos_eq_cons found]
    intro info member
    obtain ⟨index, there⟩ := List.mem_iff_getElem?.mp member
    obtain ⟨replica, here, rfl⟩ := getElem?_of_infos there
    exact forming.mem_listedBy complete here
  distinctIds := forming.distinctIds few
  distinctAddresses := infos_eq_cons found ▸ forming.addresses
  sendable := infos_eq_cons found ▸ sendable

/-- Each connection leads to the process that is listed for it. -/
theorem Forming.infos_of_link (forming : group.Forming) (complete : group.Complete) {index : Nat}
    {replica : Replica} (found : group.replicas[index]? = some replica) {link : ReplicaLink}
    (member : link ∈ replica.replicasVector) : group.infos[link.peer]? = some link.info := by
  rcases Nat.eq_zero_or_pos index with rfl | backup
  · rw [(forming.leader replica found).2] at member
    obtain ⟨entry, inside, rfl⟩ := List.mem_map.mp member
    exact List.mk_mem_zipIdx_iff_getElem?.mp (List.mem_of_mem_drop inside)
  · obtain ⟨peer, other, -, -, there, rfl⟩ :=
      (forming.mem_links complete backup found link).mp member
    exact infos_getElem? there

/-- No two connections of a replica lead to the same peer. -/
theorem Forming.peers_nodup (forming : group.Forming) (complete : group.Complete) {index : Nat}
    {replica : Replica} (found : group.replicas[index]? = some replica) :
    (replica.replicasVector.map ReplicaLink.peer).Nodup := by
  rcases Nat.eq_zero_or_pos index with rfl | backup
  · rw [(forming.leader replica found).2, backupLinks, List.map_map]
    have second : (ReplicaLink.peer ∘ fun entry : ReplicaInfo × Nat =>
        ({ peer := entry.2, info := entry.1 } : ReplicaLink)) = Prod.snd := rfl
    rw [second, List.map_drop, List.zipIdx_map_snd]
    exact (List.nodup_range' ..).sublist (List.drop_sublist ..)
  · rw [List.nodup_iff_count_le_one]
    intro peer
    have counted : (replica.replicasVector.map ReplicaLink.peer).count peer =
        (replica.linksTo peer).length := by
      rw [List.count_eq_countP, List.countP_map, List.countP_eq_length_filter, Replica.linksTo]
      rfl
    rw [counted]
    by_contra several
    have positive : 0 < (replica.linksTo peer).length := by omega
    obtain ⟨link, member⟩ := List.exists_mem_of_length_pos positive
    obtain ⟨inVector, same⟩ := List.mem_filter.mp member
    obtain ⟨other, there, also, different, here, rfl⟩ :=
      (forming.mem_links complete backup found link).mp inVector
    obtain rfl : other = peer := by simpa using same
    have single := forming.linksTo complete backup also different found here
    rw [single] at several
    exact several le_rfl

def listLengths (group : Group) : List Nat :=
  group.replicas.map fun replica => replica.listed.length

/-- How many contacts are left to be made. -/
def contactsLeft (group : Group) : Nat := group.listLengths.sum

theorem Forming.exists_connect (forming : group.Forming) {index : Nat} {replica : Replica}
    (found : group.replicas[index]? = some replica) (left : replica.listed ≠ []) :
    ∃ next, group.connect index = some next := by
  have forms := forming.forms index replica found
  unfold Group.connect
  rw [found]
  dsimp only
  split
  next none => exact absurd none left
  next info rest listed =>
    obtain ⟨peer, -, -, there⟩ := forms.listed info (listed ▸ List.mem_cons_self)
    obtain ⟨listening, -, -, listens⟩ := forming.listener there
    rw [if_pos forms.alive, listens]
    dsimp only
    split
    next => exact ⟨_, rfl⟩
    next => exact ⟨_, rfl⟩

theorem Forming.contactsLeft_connect (forming : group.Forming) {index : Nat} {next : Group}
    (taken : group.connect index = some next) : next.contactsLeft + 1 = group.contactsLeft := by
  obtain ⟨peer, left, right, rest, -, -, here, found, listed, shape⟩ := forming.connect_spec taken
  obtain ⟨inside, same⟩ := List.getElem?_eq_some_iff.mp found
  obtain ⟨high, older⟩ := List.getElem?_eq_some_iff.mp here
  have same : ∀ {position : Nat} {replica : Replica}, group.replicas[position]? = some replica →
      group.listLengths.set position replica.listed.length = group.listLengths := by
    intro position replica there
    have value : group.listLengths[position]? = some replica.listed.length := by
      rw [listLengths, List.getElem?_map, there, Option.map_some]
    obtain ⟨low, equal⟩ := List.getElem?_eq_some_iff.mp value
    exact equal ▸ List.set_getElem_self low
  have changed : next.listLengths = group.listLengths.set index rest.length := by
    rw [listLengths, shape, List.map_set, List.map_set]
    have steady := same here
    exact congrArg (List.set · index rest.length) steady
  have inside : index < group.listLengths.length := by
    rw [listLengths, List.length_map]
    exact (List.getElem?_eq_some_iff.mp found).1
  have before := List.sum_set group.listLengths index right.listed.length
  have fewer := List.sum_set group.listLengths index rest.length
  rw [same found, if_pos inside, listed, List.length_cons] at before
  rw [if_pos inside] at fewer
  rw [contactsLeft, contactsLeft, changed]
  omega

/-- Whoever has somebody left to contact can do so, until nobody has. -/
theorem Forming.exists_complete (forming : group.Forming) :
    ∃ (contacts : List Nat) (whole : Group),
      run Group.step group (contacts.map GroupAction.connect) = some whole ∧ whole.Complete := by
  induction left : group.contactsLeft generalizing group with
  | zero =>
    refine ⟨[], group, rfl, fun replica member => ?_⟩
    have none := List.sum_eq_zero_iff.mp left _ (List.mem_map_of_mem member)
    exact List.length_eq_zero_iff.mp none
  | succ count ih =>
    have waiting : ∃ replica ∈ group.replicas, replica.listed ≠ [] := by
      by_contra nobody
      push Not at nobody
      have none : group.contactsLeft = 0 := by
        refine List.sum_eq_zero_iff.mpr fun length member => ?_
        obtain ⟨replica, inside, rfl⟩ := List.mem_map.mp member
        rw [nobody replica inside, List.length_nil]
      omega
    obtain ⟨replica, member, some⟩ := waiting
    obtain ⟨index, found⟩ := List.mem_iff_getElem?.mp member
    obtain ⟨next, taken⟩ := forming.exists_connect found some
    have fewer := forming.contactsLeft_connect taken
    obtain ⟨contacts, whole, reached, complete⟩ := ih (forming.connect taken) (by omega)
    exact ⟨index :: contacts, whole, run_cons.mpr ⟨next, taken, reached⟩, complete⟩

/-- What is kept by all starts and contacts. -/
theorem formed {ip : Text} {port : Int} (word : ' ' ∉ ip) (terminated : nul ∉ ip)
    (range : IsInt port) {actions : List GroupAction} (grows : ∀ action ∈ actions, Grows action)
    (reached : run step (start ip port) actions = some group) :
    group.Forming ∧ ∀ info ∈ group.infos, info.Sendable := by
  have kept : ∀ state action next,
      state.Forming ∧ (∀ info ∈ state.infos, info.Sendable) → Grows action →
        step state action = some next →
          next.Forming ∧ ∀ info ∈ next.infos, info.Sendable := by
    rintro state action next ⟨forming, sendable⟩ grows taken
    exact ⟨forming.step grows taken, forming.sendable sendable grows taken⟩
  have first : ∀ info ∈ (start ip port).infos, info.Sendable := by
    intro info member
    obtain rfl := List.mem_singleton.mp member
    exact ⟨⟨by simp, by simp⟩, range, word, terminated⟩
  exact run_preserves kept ⟨forming_start ip port, first⟩ (.of_mem grows) reached

end Formed

/-- However the joins and the contacts of a growing group interleave, every replica comes to
the end of its list. Then the group is one as the elections take it for: its leader is the
first replica, its ids are told apart, every two backups have one open connection, and the
leader has one with each. -/
theorem formed_of_run (ip : Text) (port : Int) (word : ' ' ∉ ip) (terminated : nul ∉ ip)
    (range : IsInt port) (actions : List GroupAction) (grows : ∀ action ∈ actions, Grows action)
    (group : Group) (reached : run step (start ip port) actions = some group) :
    (∃ (contacts : List Nat) (whole : Group),
      run step group (contacts.map GroupAction.connect) = some whole ∧ whole.Complete) ∧
    (group.Complete → group.replicas.length ≤ 2 ^ 31 →
      ∃ membership : Membership, membership.members = group.infos ∧
        ∀ (index : Nat) (replica : Replica), group.replicas[index]? = some replica →
          replica.alive = true ∧ (replica.isLeader = true ↔ replica.info = membership.leader) ∧
          replica.replicasVector.map ReplicaLink.info = membership.vector replica.info ∧
          (replica.replicasVector.map ReplicaLink.peer).Nodup ∧
          ∀ link ∈ replica.replicasVector,
            link.closed = false ∧ group.infos[link.peer]? = some link.info) := by
  obtain ⟨forming, sendable⟩ := formed word terminated range grows reached
  refine ⟨forming.exists_complete, fun complete few => ?_⟩
  have found := List.getElem?_eq_getElem forming.nonempty
  refine ⟨forming.membership complete sendable few _ found, (infos_eq_cons found).symm, ?_⟩
  intro index replica there
  have forms := forming.forms index replica there
  refine ⟨forms.alive, ?_, (forming.listedBy_eq there).symm, forming.peers_nodup complete there,
    fun link member => ⟨(forms.links link member).1, forming.infos_of_link complete there member⟩⟩
  rw [forms.leads]
  constructor
  · rintro rfl
    rw [found] at there
    rw [Option.some.inj there.symm]
    rfl
  · intro same
    have shared := (infos_getElem? there).trans (congrArg some same)
    exact forming.index_of_info shared (infos_getElem? found)

/-- Two replicas join one after the other, and the second contacts the first. -/
theorem formed_of_twoJoins :
    ∃ membership : Membership, membership.members.map ReplicaInfo.id = [-1, 0, 1] := by
  obtain ⟨group, reached, infos, complete, few⟩ :
      ∃ group, run step (start ['h'] 1) [.join 0 ['h'] 2, .join 0 ['h'] 3, .connect 2] =
        some group ∧ group.infos.map ReplicaInfo.id = [-1, 0, 1] ∧ group.Complete ∧
          group.replicas.length ≤ 2 ^ 31 :=
    ⟨_, rfl, by decide, by unfold Complete; decide, by decide⟩
  have grows : ∀ action ∈ [.join 0 ['h'] 2, .join 0 ['h'] 3, .connect 2], Grows action := by
    simp [Grows, nul, IsInt]
  have whole := formed_of_run ['h'] 1 (by decide) (by decide) (by decide) _ grows group reached
  obtain ⟨membership, members, -⟩ := whole.2 complete few
  exact ⟨membership, members ▸ infos⟩

end Group

end TwitterClone
