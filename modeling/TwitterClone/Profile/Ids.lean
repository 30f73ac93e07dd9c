import TwitterClone.Foundation.Machine
import TwitterClone.Profile.FollowGraph

/-! The ids of users. Loading numbers the rows of the file from one, and a new user gets
the number of users so far, which is zero or the number of a row. -/
namespace TwitterClone.ProfileManager

open Foundation ProfilePersistency

/-- Every id is positive, and no two users have the same. -/
structure ValidIds (manager : ProfileManager) : Prop where
  positive : ∀ name user, manager.users.lookup name = some user → 0 < user.id
  distinct : ∀ name user other stranger, manager.users.lookup name = some user →
    manager.users.lookup other = some stranger → user.id = stranger.id → name = other

/-- The call is a login of somebody new. -/
def Arrives (manager : ProfileManager) : ProfileOperation → Prop
  | .startSession username _ => username ∉ manager.users
  | _ => False

instance decidableArrives (manager : ProfileManager) :
    DecidablePred manager.Arrives
  | .startSession username _ => inferInstanceAs (Decidable (username ∉ manager.users))
  | .closeSession _ _ | .follow _ _ => isFalse id

/-- How many users the calls add. -/
def arrivals (manager : ProfileManager) : List ProfileOperation → Nat
  | [] => 0
  | operation :: rest => (if manager.Arrives operation then 1 else 0) +
      (manager.call (fun _ => true) operation).manager.arrivals rest

/-- The numbers from that of the users on are positive, as many as there are new users,
and none of them is the id of a user. -/
def Roomy (users : UnorderedMap Text User) (count : Nat) : Prop :=
  count = 0 ∨ users.entries.length ≠ 0 ∧ users.entries.length + count ≤ 2 ^ 31 ∧
    ∀ name user, users.lookup name = some user →
      ¬ ((users.entries.length : Int) ≤ user.id ∧ user.id < users.entries.length + count)

section Loading

/-- What the loop over the rows keeps of the ids, before it comes to a row. -/
structure LoadedIds (userId : Nat) (users : UnorderedMap Text User) : Prop where
  bounds : ∀ name user, users.lookup name = some user → 0 < user.id ∧ user.id < userId
  distinct : ∀ name user other stranger, users.lookup name = some user →
    users.lookup other = some stranger → user.id = stranger.id → name = other
  size : users.entries.length < userId

theorem LoadedIds.emplace {userId : Nat} {users : UnorderedMap Text User}
    (ids : LoadedIds userId users) (name : Text) {user : User} (id : user.id = userId) :
    LoadedIds (userId + 1) (users.emplace name user) := by
  by_cases known : name ∈ users
  · rw [UnorderedMap.emplace_of_mem _ _ _ known]
    refine ⟨fun other stored found => ?_, ids.distinct, ids.size.trans (Nat.lt_succ_self _)⟩
    obtain ⟨positive, below⟩ := ids.bounds other stored found
    exact ⟨positive, by omega⟩
  · have lookup : ∀ other, (users.emplace name user).lookup other =
        if other = name then some user else users.lookup other := by
      intro other
      rw [UnorderedMap.lookup_emplace]
      simp [known]
    have positive := ids.size
    refine ⟨?_, ?_, ?_⟩
    · intro other stored found
      rw [lookup] at found
      split at found
      next =>
        obtain rfl := Option.some.inj found
        omega
      next =>
        obtain ⟨positive, below⟩ := ids.bounds other stored found
        exact ⟨positive, by omega⟩
    · intro first one second two firstFound secondFound same
      rw [lookup] at firstFound secondFound
      split at firstFound <;> split at secondFound
      next here there => exact here.trans there.symm
      next =>
        obtain rfl := Option.some.inj firstFound
        have below := (ids.bounds second two secondFound).2
        omega
      next =>
        obtain rfl := Option.some.inj secondFound
        have below := (ids.bounds first one firstFound).2
        omega
      next => exact ids.distinct first one second two firstFound secondFound same
    · rw [UnorderedMap.entries_emplace_of_notMem _ _ _ known, List.length_append,
        List.length_singleton]
      omega

theorem loadedUser_id (userId : Nat) (username : Text) (followers : List Text) :
    (followers.foldl (fun user follower => (user.addFollower follower).1)
      ({ id := int32 userId, username } : User)).id = int32 userId :=
  (User.frame_addFollowers followers _).1

theorem LoadedIds.loadRows {rows : List (List Text)} {userId : Nat}
    {users loaded : UnorderedMap Text User} (ids : LoadedIds userId users)
    (few : userId + rows.length ≤ 2 ^ 31)
    (result : ProfilePersistency.loadRows userId users rows = .ok loaded) :
    LoadedIds (userId + rows.length) loaded := by
  induction rows generalizing userId users with
  | nil =>
    obtain rfl := Except.ok.inj result
    exact ids
  | cons row rest ih =>
    cases row with
    | nil => cases result
    | cons username followers =>
      rw [List.length_cons] at few ⊢
      have number : (followers.foldl (fun user follower => (user.addFollower follower).1)
          ({ id := int32 userId, username } : User)).id = userId := by
        rw [loadedUser_id, int32_of_small (by omega)]
      have later := ih (ids.emplace username number) (by omega) result
      rwa [Nat.add_assoc, Nat.add_comm 1] at later

theorem loadedIds_readUsers {file : Option Text} {users : UnorderedMap Text User}
    (loaded : readUsers file = .ok users) (few : (Csv.readAll splitMark file).length < 2 ^ 31) :
    LoadedIds (1 + (Csv.readAll splitMark file).length) users := by
  have start : LoadedIds 1 (∅ : UnorderedMap Text User) :=
    ⟨by simp, by simp, Nat.one_pos⟩
  exact start.loadRows (by omega) loaded

/-- While every row has brought a user, the user of every row is there. -/
structure RowsTaken (userId : Nat) (users : UnorderedMap Text User) : Prop where
  size : users.entries.length < userId
  taken : users.entries.length + 1 = userId → ∀ number, 0 < number → number < userId →
    ∃ name user, users.lookup name = some user ∧ user.id = int32 number

theorem RowsTaken.emplace {userId : Nat} {users : UnorderedMap Text User}
    (rows : RowsTaken userId users) (name : Text) {user : User} (id : user.id = int32 userId) :
    RowsTaken (userId + 1) (users.emplace name user) := by
  have size := rows.size
  by_cases known : name ∈ users
  · rw [UnorderedMap.emplace_of_mem _ _ _ known]
    exact ⟨by omega, fun full => by omega⟩
  · have grown : (users.emplace name user).entries.length = users.entries.length + 1 := by
      rw [UnorderedMap.entries_emplace_of_notMem _ _ _ known, List.length_append,
        List.length_singleton]
    refine ⟨by omega, ?_⟩
    intro full number positive below
    rcases Nat.lt_succ_iff_lt_or_eq.mp below with earlier | rfl
    · obtain ⟨other, stored, found, same⟩ := rows.taken (by omega) number positive earlier
      refine ⟨other, stored, ?_, same⟩
      rwa [UnorderedMap.lookup_emplace,
        if_neg fun both : other = name ∧ name ∉ users =>
          both.2 (both.1 ▸ UnorderedMap.mem_of_lookup found)]
    · exact ⟨name, user, by rw [UnorderedMap.lookup_emplace, if_pos ⟨rfl, known⟩], id⟩

theorem RowsTaken.loadRows {rows : List (List Text)} {userId : Nat}
    {users loaded : UnorderedMap Text User} (before : RowsTaken userId users)
    (result : ProfilePersistency.loadRows userId users rows = .ok loaded) :
    RowsTaken (userId + rows.length) loaded := by
  induction rows generalizing userId users with
  | nil =>
    obtain rfl := Except.ok.inj result
    exact before
  | cons row rest ih =>
    cases row with
    | nil => cases result
    | cons username followers =>
      have later := ih (before.emplace username (loadedUser_id userId username followers)) result
      rwa [Nat.add_assoc, Nat.add_comm 1] at later

theorem rowsTaken_readUsers {file : Option Text} {users : UnorderedMap Text User}
    (loaded : readUsers file = .ok users) :
    RowsTaken (1 + (Csv.readAll splitMark file).length) users := by
  have start : RowsTaken 1 (∅ : UnorderedMap Text User) :=
    ⟨Nat.one_pos, fun _ number positive below => by omega⟩
  exact start.loadRows loaded

end Loading

section Calls

variable {manager : ProfileManager} {users : UnorderedMap Text User} {arrived : List Text}

theorem mem_iff_of_ids {left right : UnorderedMap Text User} {name : Text}
    (same : (left.lookup name).map User.id = (right.lookup name).map User.id) :
    name ∈ left ↔ name ∈ right := by
  rw [← UnorderedMap.lookup_isSome, ← UnorderedMap.lookup_isSome,
    ← Option.isSome_map (f := User.id), same, Option.isSome_map]

theorem setUser_ids {username : Text} {user : User} (same : user.id = (manager.userOf username).id) :
    (manager.setUser username user).users.entries.length = manager.users.entries.length ∧
      ∀ name, ((manager.setUser username user).users.lookup name).map User.id =
        (manager.users.lookup name).map User.id := by
  refine ⟨List.length_map _, ?_⟩
  intro name
  rw [setUser, UnorderedMap.lookup_modify]
  split
  next here =>
    subst here
    cases found : manager.users.lookup name with
    | none => rfl
    | some stored =>
      rw [userOf, found, Option.getD_some] at same
      simp [same]
  next => rfl

/-- Only a login of somebody new has to do with ids. -/
theorem call_ids {operation : ProfileOperation} (known : ¬ manager.Arrives operation) :
    (manager.call (fun _ => true) operation).manager.users.entries.length =
        manager.users.entries.length ∧
      ∀ name, ((manager.call (fun _ => true) operation).manager.users.lookup name).map User.id =
        (manager.users.lookup name).map User.id := by
  cases operation with
  | startSession username session =>
    have present : username ∈ manager.users := not_not.mp known
    rw [call, startSession, if_pos present]
    exact setUser_ids (User.frame_addSession _ session).1
  | closeSession username id =>
    rw [call, closeSession]
    split
    next => exact setUser_ids (User.frame_removeSession _ id).1
    next => exact ⟨rfl, fun _ => rfl⟩
  | follow follower userToFollow =>
    rw [call, follow_manager]
    split
    next => exact setUser_ids (User.frame_addFollower _ follower).1
    next => exact ⟨rfl, fun _ => rfl⟩

/-- The users that were loaded keep their ids, and those who came since have the numbers
from that of the loaded users on. -/
structure Joined (users : UnorderedMap Text User) (arrived : List Text)
    (manager : ProfileManager) : Prop where
  size : manager.users.entries.length = users.entries.length + arrived.length
  distinct : arrived.Nodup
  strangers : ∀ name ∈ arrived, name ∉ users
  loaded : ∀ name ∈ users, (manager.users.lookup name).map User.id =
    (users.lookup name).map User.id
  numbered : ∀ index name, arrived[index]? = some name →
    (manager.users.lookup name).map User.id =
      some (int32 ((users.entries.length + index : Nat) : Int))
  names : ∀ name ∈ manager.users, name ∈ users ∨ name ∈ arrived

theorem joined_start : Joined users [] { users } where
  size := rfl
  distinct := List.nodup_nil
  strangers := by simp
  loaded := fun _ _ => rfl
  numbered := by simp
  names := fun _ member => Or.inl member

theorem Joined.known (joined : Joined users arrived manager) {operation : ProfileOperation}
    (known : ¬ manager.Arrives operation) :
    Joined users arrived (manager.call (fun _ => true) operation).manager := by
  obtain ⟨size, same⟩ := call_ids known
  refine ⟨size.trans joined.size, joined.distinct, joined.strangers, ?_, ?_, ?_⟩
  · intro name member
    rw [same]
    exact joined.loaded name member
  · intro index name listed
    rw [same]
    exact joined.numbered index name listed
  · intro name member
    exact joined.names name ((mem_iff_of_ids (same name)).mp member)

theorem Joined.arrive (joined : Joined users arrived manager) {username : Text}
    (absent : username ∉ manager.users) (session : ProfileSession) :
    Joined users (arrived ++ [username])
      (manager.call (fun _ => true) (.startSession username session)).manager := by
  have shape : (manager.call (fun _ => true) (.startSession username session)).manager.users =
      manager.users.emplace username (manager.newUser username session) := by
    rw [call, startSession, if_neg absent]
  have lookup : ∀ name, name ≠ username →
      (manager.call (fun _ => true) (.startSession username session)).manager.users.lookup name =
        manager.users.lookup name := by
    intro name away
    rw [shape, UnorderedMap.lookup_emplace, if_neg fun both => away both.1]
  have loadedMember : ∀ name ∈ users, name ∈ manager.users :=
    fun name member => (mem_iff_of_ids (joined.loaded name member)).mpr member
  have arrivedMember : ∀ name ∈ arrived, name ∈ manager.users := by
    intro name member
    obtain ⟨index, listed⟩ := List.mem_iff_getElem?.mp member
    obtain ⟨user, found, -⟩ := Option.map_eq_some_iff.mp (joined.numbered index name listed)
    exact UnorderedMap.mem_of_lookup found
  refine ⟨?_, ?_, ?_, ?_, ?_, ?_⟩
  · rw [shape, UnorderedMap.entries_emplace_of_notMem _ _ _ absent, List.length_append,
      List.length_append, joined.size]
    rfl
  · exact joined.distinct.append (List.nodup_singleton _)
      (List.disjoint_singleton.mpr fun member => absent (arrivedMember username member))
  · intro name member
    rcases List.mem_append.mp member with old | new
    · exact joined.strangers name old
    · rw [List.mem_singleton.mp new]
      exact fun known => absent (loadedMember username known)
  · intro name member
    rw [lookup name fun same => absent (same ▸ loadedMember name member)]
    exact joined.loaded name member
  · intro index name listed
    rcases lt_or_ge index arrived.length with before | behind
    · rw [List.getElem?_append_left before] at listed
      rw [lookup name fun same => absent (same ▸ arrivedMember name (List.mem_of_getElem? listed))]
      exact joined.numbered index name listed
    · rw [List.getElem?_append_right behind, List.getElem?_singleton] at listed
      split at listed
      next last =>
        obtain rfl := Option.some.inj listed
        rw [shape, UnorderedMap.lookup_emplace, if_pos ⟨rfl, absent⟩, Option.map_some, newUser,
          (User.frame_addSession _ session).1, joined.size]
        have number : index = arrived.length := by omega
        rw [number]
      next => cases listed
  · intro name member
    rw [shape, UnorderedMap.mem_emplace] at member
    rcases member with rfl | old
    · exact Or.inr (List.mem_append_right _ (List.mem_singleton_self _))
    · exact (joined.names name old).imp_right (List.mem_append_left _)

/-- Every user was loaded, with the id it has now, or has the number of an arrival. -/
theorem Joined.source (joined : Joined users arrived manager) {name : Text} {user : User}
    (found : manager.users.lookup name = some user) :
    (∃ stored, users.lookup name = some stored ∧ user.id = stored.id) ∨
      ∃ index < arrived.length, arrived[index]? = some name ∧
        user.id = int32 ((users.entries.length + index : Nat) : Int) := by
  rcases joined.names name (UnorderedMap.mem_of_lookup found) with old | new
  · obtain ⟨stored, was⟩ := UnorderedMap.lookup_of_mem old
    have same := joined.loaded name old
    rw [found, was] at same
    exact Or.inl ⟨stored, was, Option.some.inj same⟩
  · obtain ⟨index, listed⟩ := List.mem_iff_getElem?.mp new
    have number := joined.numbered index name listed
    rw [found] at number
    obtain ⟨inside, -⟩ := List.getElem?_eq_some_iff.mp listed
    exact Or.inr ⟨index, inside, listed, Option.some.inj number⟩

/-- The users are in order exactly when there was room for those who came. -/
theorem Joined.validIds_iff (joined : Joined users arrived manager) {userId : Nat}
    (ids : LoadedIds userId users) (few : userId ≤ 2 ^ 31) :
    manager.ValidIds ↔ Roomy users arrived.length := by
  have size := ids.size
  constructor
  · intro valid
    by_cases nobody : arrived.length = 0
    · exact Or.inl nobody
    · have arrival : ∀ index < arrived.length, ∃ name user, name ∉ users ∧
          manager.users.lookup name = some user ∧
            user.id = int32 ((users.entries.length + index : Nat) : Int) := by
        intro index inside
        have listed := List.getElem?_eq_getElem inside
        obtain ⟨user, found, id⟩ := Option.map_eq_some_iff.mp (joined.numbered index _ listed)
        exact ⟨_, user, joined.strangers _ (List.mem_of_getElem? listed), found, id⟩
      refine Or.inr ⟨?_, ?_, ?_⟩
      · intro empty
        obtain ⟨name, user, -, found, id⟩ := arrival 0 (Nat.pos_of_ne_zero nobody)
        have positive := valid.positive name user found
        rw [id, empty] at positive
        exact absurd positive (by decide)
      · by_contra many
        obtain ⟨name, user, -, found, id⟩ := arrival (2 ^ 31 - users.entries.length) (by omega)
        have positive := valid.positive name user found
        have number : users.entries.length + (2 ^ 31 - users.entries.length) = 2 ^ 31 := by omega
        rw [id, number] at positive
        exact absurd positive (by decide)
      · rintro name stored was ⟨low, high⟩
        have below := (ids.bounds name stored was).2
        obtain ⟨index, number⟩ : ∃ index : Nat, stored.id = users.entries.length + index :=
          ⟨(stored.id - users.entries.length).toNat, by omega⟩
        obtain ⟨other, user, stranger, found, id⟩ := arrival index (by omega)
        have member := UnorderedMap.mem_of_lookup was
        obtain ⟨now, present, same⟩ := Option.map_eq_some_iff.mp
          ((joined.loaded name member).trans (by rw [was]; rfl))
        have clash : now.id = user.id := by
          rw [same, number, id, int32_of_small (by omega)]
          rfl
        have one := valid.distinct name now other user present found clash
        exact stranger (one ▸ member)
  · intro roomy
    have number : ∀ index < arrived.length,
        int32 ((users.entries.length + index : Nat) : Int) = users.entries.length + index ∧
          0 < users.entries.length := by
      intro index inside
      rcases roomy with nobody | ⟨some, room, -⟩
      · omega
      · exact ⟨int32_of_small (by omega), Nat.pos_of_ne_zero some⟩
    have apart : ∀ name stored, users.lookup name = some stored → ∀ index < arrived.length,
        stored.id ≠ users.entries.length + index := by
      intro name stored was index inside same
      rcases roomy with nobody | ⟨-, -, free⟩
      · omega
      · exact free name stored was (by omega)
    constructor
    · intro name user found
      rcases joined.source found with ⟨stored, was, same⟩ | ⟨index, inside, -, id⟩
      · exact same ▸ (ids.bounds name stored was).1
      · have positive := number index inside
        omega
    · intro name user other stranger found foundToo same
      rcases joined.source found with ⟨stored, was, id⟩ | ⟨index, inside, listed, id⟩ <;>
        rcases joined.source foundToo with
          ⟨storedToo, wasToo, idToo⟩ | ⟨indexToo, insideToo, listedToo, idToo⟩
      · exact ids.distinct name stored other storedToo was wasToo
          (id.symm.trans (same.trans idToo))
      · refine absurd ?_ (apart name stored was indexToo insideToo)
        rw [← id, same, idToo, (number indexToo insideToo).1]
      · refine absurd ?_ (apart other storedToo wasToo index inside)
        rw [← idToo, ← same, id, (number index inside).1]
      · rw [id, idToo, (number index inside).1, (number indexToo insideToo).1] at same
        have one : index = indexToo := by omega
        rw [one] at listed
        exact Option.some.inj (listed.symm.trans listedToo)

theorem roomy_of_le {count more : Nat} (less : count ≤ more) (roomy : Roomy users more) :
    Roomy users count := by
  rcases roomy with nobody | ⟨some, room, free⟩
  · exact Or.inl (by omega)
  · refine Or.inr ⟨some, by omega, fun name user found inside => free name user found ?_⟩
    exact ⟨inside.1, by omega⟩

theorem Joined.always_iff (joined : Joined users arrived manager) {userId : Nat}
    (ids : LoadedIds userId users) (few : userId ≤ 2 ^ 31) (operations : List ProfileOperation) :
    Always serve ValidIds manager operations ↔
      Roomy users (arrived.length + manager.arrivals operations) := by
  induction operations generalizing manager arrived with
  | nil => exact joined.validIds_iff ids few
  | cons operation rest ih =>
    have next : Always serve ValidIds manager (operation :: rest) ↔ manager.ValidIds ∧
        Always serve ValidIds (manager.call (fun _ => true) operation).manager rest := by
      refine and_congr_right fun _ => ⟨fun later => later _ rfl, ?_⟩
      intro later state taken
      exact Option.some.inj taken ▸ later
    rw [next, joined.validIds_iff ids few, arrivals]
    by_cases new : manager.Arrives operation
    · rw [if_pos new]
      cases operation with
      | startSession username session =>
        rw [ih (joined.arrive new session), List.length_append, List.length_singleton,
          Nat.add_assoc]
        exact and_iff_right_of_imp (roomy_of_le (by omega))
      | closeSession _ _ => exact absurd new id
      | follow _ _ => exact absurd new id
    · rw [if_neg new, Nat.zero_add, ih (joined.known new)]
      exact and_iff_right_of_imp (roomy_of_le (by omega))

end Calls

section DistinctRows

variable {file : Option Text} {users : UnorderedMap Text User}

/-- Where every row has its own name, the row with the number of users is somebody's. -/
theorem not_roomy_of_distinctRows {count : Nat} (loaded : readUsers file = .ok users)
    (distinct : users.entries.length = (Csv.readAll splitMark file).length)
    (few : (Csv.readAll splitMark file).length < 2 ^ 31) (some : count ≠ 0) :
    ¬ Roomy users count := by
  rintro (nobody | ⟨nonempty, -, free⟩)
  · exact some nobody
  · obtain ⟨name, user, found, id⟩ := (rowsTaken_readUsers loaded).taken (by omega)
      users.entries.length (Nat.pos_of_ne_zero nonempty) (by omega)
    rw [int32_of_small (by omega)] at id
    exact free name user found (by omega)

/-- Where every row has its own name, the row number beyond the largest int is negative. -/
theorem few_of_validIds (loaded : readUsers file = .ok users)
    (distinct : users.entries.length = (Csv.readAll splitMark file).length)
    (valid : ({ users } : ProfileManager).ValidIds) :
    (Csv.readAll splitMark file).length < 2 ^ 31 := by
  by_contra many
  obtain ⟨name, user, found, id⟩ := (rowsTaken_readUsers loaded).taken (by omega)
    (2 ^ 31) (by omega) (by omega)
  have positive := valid.positive name user found
  rw [id] at positive
  exact absurd positive (by decide)

end DistinctRows

/-- After any calls, in every state on the way, the ids are valid exactly when nobody new
came or there was room for the newcomers among the row numbers. In a file that names
everybody once there is none: the ids are valid while the row numbers fit an int and
nobody new comes. -/
theorem always_validIds_iff (file : Option Text) (users : UnorderedMap Text User)
    (loaded : readUsers file = .ok users) (operations : List ProfileOperation) :
    ((Csv.readAll splitMark file).length < 2 ^ 31 →
      (Always serve ValidIds { users } operations ↔
        Roomy users (({ users } : ProfileManager).arrivals operations))) ∧
    (users.entries.length = (Csv.readAll splitMark file).length →
      (Always serve ValidIds { users } operations ↔
        (Csv.readAll splitMark file).length < 2 ^ 31 ∧
          ({ users } : ProfileManager).arrivals operations = 0)) := by
  have general : (Csv.readAll splitMark file).length < 2 ^ 31 →
      (Always serve ValidIds { users } operations ↔
        Roomy users (({ users } : ProfileManager).arrivals operations)) := by
    intro few
    have exact := joined_start.always_iff (loadedIds_readUsers loaded few) (by omega) operations
    rwa [List.length_nil, Nat.zero_add] at exact
  refine ⟨general, fun distinct => ⟨?_, ?_⟩⟩
  · intro always
    have start : ({ users } : ProfileManager).ValidIds := by
      cases operations with
      | nil => exact always
      | cons operation rest => exact always.1
    have few := few_of_validIds loaded distinct start
    refine ⟨few, ?_⟩
    by_contra some
    exact not_roomy_of_distinctRows loaded distinct few some ((general few).mp always)
  · rintro ⟨few, nobody⟩
    exact (general few).mpr (Or.inl nobody)

/-- Somebody new logs in at a server without a user file. -/
def firstLogin : List ProfileOperation := [.startSession ['a'] ⟨1, ['a']⟩]

/-- Somebody new logs in where one user was loaded. -/
def secondLogin : List ProfileOperation := [.startSession ['b'] ⟨1, ['b']⟩]

/-- Users who are known log in and follow each other. -/
def knownLogins : List ProfileOperation :=
  [.startSession ['a'] ⟨1, ['a']⟩, .startSession ['b'] ⟨2, ['b']⟩, .follow ['a'] ['b'],
    .closeSession ['a'] 1]

/-- The user of a file with one row. -/
def loadedOne : UnorderedMap Text User where
  entries := [(['a'], { id := 1, username := ['a'] })]
  distinct := by decide

/-- The users of a file with the rows of two users. -/
def loadedPair : UnorderedMap Text User where
  entries := [(['a'], { id := 1, username := ['a'] }), (['b'], { id := 2, username := ['b'] })]
  distinct := by decide

/-- The known users of a file keep their valid ids. -/
theorem always_validIds_knownLogins :
    Always serve ValidIds { users := loadedPair } knownLogins :=
  ((always_validIds_iff (some ['a', newline, 'b']) loadedPair (by decide +kernel)
    knownLogins).2 (by decide +kernel)).mpr (by decide +kernel)

/-- The first user has the id zero, and whoever comes next to one loaded user has the
id of that user. -/
theorem not_validIds_firstLogin_of_secondLogin :
    readUsers none = .ok ∅ ∧ ¬ Always serve ValidIds { users := ∅ } firstLogin ∧
    readUsers (some ['a']) = .ok loadedOne ∧
    ¬ Always serve ValidIds { users := loadedOne } secondLogin := by
  refine ⟨by decide +kernel, ?_, by decide +kernel, ?_⟩
  · intro always
    have valid : ValidIds _ := always.2 _ rfl
    have positive := valid.positive ['a'] _ rfl
    exact absurd positive (by decide +kernel)
  · intro always
    have valid : ValidIds _ := always.2 _ rfl
    have same := valid.distinct ['a'] _ ['b'] _ rfl rfl (by decide +kernel)
    exact absurd same (by decide)

end TwitterClone.ProfileManager
