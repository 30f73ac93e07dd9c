import TwitterClone.Foundation.Machine
import TwitterClone.Profile.FollowGraph

/-! The sessions of a user. A closed session is looked for at the two ends of the list
only, which is the whole list as long as there is room for two. -/
namespace TwitterClone

open Foundation

/-- A call and its answer. -/
abbrev AnsweredCall := ProfileOperation × Bool

/-- None of the calls closes the session. -/
def Unclosed (username : Text) (calls : List AnsweredCall) (id : Nat) : Prop :=
  ∀ call ∈ calls, call.1 ≠ .closeSession username id

instance decidableUnclosed (username : Text) (calls : List AnsweredCall) :
    DecidablePred (Unclosed username calls) :=
  fun _ => List.decidableBAll _ calls

/-- The ids that were started for the user and not closed since, in the order of their
starts. -/
def openIds (username : Text) : List AnsweredCall → List Nat
  | [] => []
  | (.startSession name session, success) :: later =>
    if (name = username ∧ success = true) ∧ Unclosed username later session.threadId then
      session.threadId :: openIds username later
    else openIds username later
  | (.closeSession _ _, _) :: later => openIds username later
  | (.follow _ _, _) :: later => openIds username later

/-- What an answered call makes of a user's ids. -/
def idsAfter (username : Text) (ids : List Nat) (success : Bool) : ProfileOperation → List Nat
  | .startSession name session =>
    if name = username ∧ success = true then ids ++ [session.threadId] else ids
  | .closeSession name id => if name = username then ids.filter (· ≠ id) else ids
  | .follow _ _ => ids

theorem unclosed_cons {username : Text} {call : AnsweredCall} {later : List AnsweredCall}
    {id : Nat} : Unclosed username (call :: later) id ↔
      call.1 ≠ .closeSession username id ∧ Unclosed username later id :=
  List.forall_mem_cons

/-- A call moved from the history into the ids makes no difference. -/
theorem openIds_idsAfter (username : Text) (ids : List Nat) (operation : ProfileOperation)
    (success : Bool) (later : List AnsweredCall) :
    (idsAfter username ids success operation).filter (Unclosed username later) ++
        openIds username later =
      ids.filter (Unclosed username ((operation, success) :: later)) ++
        openIds username ((operation, success) :: later) := by
  cases operation with
  | startSession name session =>
    have same : ids.filter (Unclosed username ((.startSession name session, success) :: later)) =
        ids.filter (Unclosed username later) := by
      simp [unclosed_cons]
    rw [same, idsAfter, openIds]
    by_cases started : name = username ∧ success = true
    · by_cases unclosed : Unclosed username later session.threadId
      · simp [started, unclosed]
      · simp [started, unclosed]
    · rw [if_neg started, if_neg fun both => started both.1]
  | closeSession name id =>
    rw [idsAfter, openIds]
    by_cases here : name = username
    · subst here
      rw [if_pos rfl, List.filter_filter]
      simp only [unclosed_cons, ne_eq, ProfileOperation.closeSession.injEq, true_and,
        Bool.decide_and, decide_not, Bool.and_comm, eq_comm]
    · simp [here, unclosed_cons]
  | follow follower userToFollow => simp [idsAfter, openIds, unclosed_cons]

namespace User

def sessionIds (user : User) : List Nat := user.sessions.map ProfileSession.threadId

/-- With room for two sessions the two ends are all there is. -/
theorem removeSession_eq {user : User} (distinct : user.sessionIds.Nodup)
    (few : user.sessionIds.length ≤ maxSessionsPerUser) (id : Nat) :
    user.removeSession id = { user with sessions := user.sessions.filter (·.threadId ≠ id) } := by
  obtain ⟨number, username, followers, sessions⟩ := user
  match sessions with
  | [] => rfl
  | [only] =>
    by_cases here : only.threadId = id
    · simp [removeSession, here]
    · simp [removeSession, here]
  | [first, second] =>
    have different : first.threadId ≠ second.threadId := by
      simpa [sessionIds] using distinct
    by_cases here : first.threadId = id
    · have away : second.threadId ≠ id := fun same => different (here.trans same.symm)
      simp [removeSession, here, away]
    · by_cases there : second.threadId = id
      · simp [removeSession, here, there]
      · simp [removeSession, here, there]
  | first :: second :: third :: rest =>
    simp [sessionIds, maxSessionsPerUser] at few

theorem sessionIds_addSession (user : User) (session : ProfileSession) :
    (user.addSession session).1.sessionIds =
      if user.sessionIds.length < maxSessionsPerUser then user.sessionIds ++ [session.threadId]
      else user.sessionIds := by
  unfold addSession sessionIds
  rw [List.length_map]
  split <;> simp

theorem addSession_success (user : User) (session : ProfileSession) :
    (user.addSession session).2 = true ↔ user.sessionIds.length < maxSessionsPerUser := by
  unfold addSession sessionIds
  rw [List.length_map]
  split
  next room => simp [room]
  next full => simp [full]

end User

namespace ProfileManager

/-- The ids in the user's list of sessions. -/
def sessionIds (manager : ProfileManager) (username : Text) : List Nat :=
  (manager.userOf username).sessionIds

/-- The calls of a run, each with its answer. -/
def answered (manager : ProfileManager) : List ProfileOperation → List AnsweredCall
  | [] => []
  | operation :: rest =>
    (operation, (manager.call (fun _ => true) operation).success) ::
      (manager.call (fun _ => true) operation).manager.answered rest

/-- A session is not started under an id that is open for the user. -/
def NotOpen (manager : ProfileManager) : ProfileOperation → Prop
  | .startSession username session => session.threadId ∉ manager.sessionIds username
  | _ => True

instance decidableNotOpen (manager : ProfileManager) :
    (operation : ProfileOperation) → Decidable (manager.NotOpen operation)
  | .startSession username session =>
    inferInstanceAs (Decidable (session.threadId ∉ manager.sessionIds username))
  | .closeSession _ _ | .follow _ _ => isTrue trivial

/-- Nobody has an id twice, or more sessions than there may be. -/
structure Seated (manager : ProfileManager) : Prop where
  distinct : ∀ username, (manager.sessionIds username).Nodup
  few : ∀ username, (manager.sessionIds username).length ≤ User.maxSessionsPerUser

section Calls

variable {manager : ProfileManager}

theorem sessionIds_of_notMem {username : Text} (absent : username ∉ manager.users) :
    manager.sessionIds username = [] := by
  rw [sessionIds, userOf, UnorderedMap.lookup_eq_none.mpr absent]
  rfl

theorem sessionIds_setUser {username : Text} (present : username ∈ manager.users) (user : User)
    (name : Text) :
    (manager.setUser username user).sessionIds name =
      if username = name then user.sessionIds else manager.sessionIds name := by
  rw [sessionIds, userOf_setUser present]
  by_cases here : name = username
  · rw [if_pos here, if_pos here.symm]
  · rw [if_neg here, if_neg (Ne.symm here)]
    rfl

theorem setUser_userOf (username : Text) :
    manager.setUser username (manager.userOf username) = manager := by
  have same : manager.users.modify username (fun _ => manager.userOf username) =
      manager.users := by
    apply UnorderedMap.modify_eq_self
    intro value found
    rw [userOf, found, Option.getD_some]
  rw [setUser, same]

theorem startSession_success (username : Text) (session : ProfileSession) :
    (manager.startSession (fun _ => true) username session).success = true ↔
      (manager.sessionIds username).length < User.maxSessionsPerUser := by
  unfold startSession
  split
  next present => exact User.addSession_success _ session
  next absent =>
    rw [sessionIds_of_notMem absent]
    exact iff_of_true rfl (by decide)

/-- A refused session changes nothing. -/
theorem startSession_refused {username : Text} {session : ProfileSession}
    (refused : (manager.startSession (fun _ => true) username session).success = false) :
    (manager.startSession (fun _ => true) username session).manager = manager := by
  have full : ¬ (manager.userOf username).sessions.length < User.maxSessionsPerUser := by
    intro room
    have accepted := (startSession_success username session).mpr
      (by rwa [sessionIds, User.sessionIds, List.length_map])
    rw [refused] at accepted
    cases accepted
  unfold startSession at refused ⊢
  split
  next present =>
    have same : ((manager.userOf username).addSession session).1 = manager.userOf username := by
      rw [User.addSession, if_neg full]
    dsimp only
    rw [same, setUser_userOf]
  next absent =>
    rw [if_neg absent] at refused
    cases refused

theorem Seated.closeSession_eq (seated : manager.Seated) {username : Text}
    (present : username ∈ manager.users) (id : Nat) :
    manager.closeSession username id = manager.setUser username
      { manager.userOf username with
        sessions := (manager.userOf username).sessions.filter (·.threadId ≠ id) } := by
  rw [closeSession, if_pos present,
    User.removeSession_eq (seated.distinct username) (seated.few username)]

theorem Seated.sessionIds_call (seated : manager.Seated) (operation : ProfileOperation)
    (username : Text) :
    (manager.call (fun _ => true) operation).manager.sessionIds username =
      idsAfter username (manager.sessionIds username)
        (manager.call (fun _ => true) operation).success operation := by
  cases operation with
  | startSession name session =>
    rw [call, idsAfter]
    cases answer : (manager.startSession (fun _ => true) name session).success with
    | false => simp [startSession_refused answer]
    | true =>
      have room : (manager.userOf name).sessionIds.length < User.maxSessionsPerUser :=
        (startSession_success name session).mp answer
      rw [startSession]
      split
      next present =>
        dsimp only
        rw [sessionIds_setUser present, User.sessionIds_addSession, if_pos room]
        by_cases here : name = username
        · subst here
          simp [sessionIds]
        · simp [here]
      next absent =>
        rw [sessionIds, userOf, UnorderedMap.lookup_emplace]
        by_cases here : name = username
        · subst here
          rw [if_pos ⟨rfl, absent⟩, if_pos ⟨rfl, rfl⟩, sessionIds_of_notMem absent,
            Option.getD_some, newUser, User.sessionIds_addSession]
          rfl
        · rw [if_neg (fun both => here both.1.symm), if_neg (fun both => here both.1)]
          rfl
  | closeSession name id =>
    rw [call, idsAfter]
    by_cases present : name ∈ manager.users
    · rw [seated.closeSession_eq present, sessionIds_setUser present]
      by_cases here : name = username
      · subst here
        rw [if_pos rfl, if_pos rfl, sessionIds, User.sessionIds, User.sessionIds, List.filter_map]
        rfl
      · rw [if_neg here, if_neg here]
    · rw [closeSession, if_neg present]
      split
      next here =>
        subst here
        rw [sessionIds_of_notMem present, List.filter_nil]
      next => rfl
  | follow follower userToFollow =>
    rw [call, follow_manager, idsAfter]
    split
    next both =>
      rw [sessionIds_setUser both.2]
      split
      next here =>
        subst here
        rw [User.sessionIds, (User.frame_addFollower _ follower).2.2]
        rfl
      next => rfl
    next => rfl

theorem Seated.call (seated : manager.Seated) {operation : ProfileOperation}
    (notOpen : manager.NotOpen operation) :
    (manager.call (fun _ => true) operation).manager.Seated := by
  have after : ∀ username,
      (idsAfter username (manager.sessionIds username)
        (manager.call (fun _ => true) operation).success operation).Nodup ∧
      (idsAfter username (manager.sessionIds username)
        (manager.call (fun _ => true) operation).success operation).length ≤
          User.maxSessionsPerUser := by
    intro username
    have distinct := seated.distinct username
    have few := seated.few username
    cases operation with
    | startSession name session =>
      rw [idsAfter]
      split
      next both =>
        obtain ⟨rfl, answer⟩ := both
        have room := (startSession_success name session).mp answer
        refine ⟨distinct.append (List.nodup_singleton _) (List.disjoint_singleton.mpr notOpen), ?_⟩
        rw [List.length_append, List.length_singleton]
        exact room
      next => exact ⟨distinct, few⟩
    | closeSession name id =>
      rw [idsAfter]
      split
      next => exact ⟨distinct.filter _, (List.length_filter_le ..).trans few⟩
      next => exact ⟨distinct, few⟩
    | follow follower userToFollow => exact ⟨distinct, few⟩
  constructor
  · intro username
    rw [seated.sessionIds_call]
    exact (after username).1
  · intro username
    rw [seated.sessionIds_call]
    exact (after username).2

/-- What was open at first and was not closed comes before what was started. -/
theorem Seated.sessionIds_calls (seated : manager.Seated) {operations : List ProfileOperation}
    (notOpen : AllMeet serve NotOpen manager operations) (username : Text) :
    (manager.calls (fun _ => true) operations).Seated ∧
      (manager.calls (fun _ => true) operations).sessionIds username =
        (manager.sessionIds username).filter (Unclosed username (manager.answered operations)) ++
          openIds username (manager.answered operations) := by
  induction operations generalizing manager with
  | nil =>
    refine ⟨seated, ?_⟩
    simp [calls, answered, openIds, Unclosed]
  | cons operation rest ih =>
    obtain ⟨kept, ids⟩ := ih (seated.call notOpen.1) (notOpen.2 _ rfl)
    refine ⟨kept, ids.trans ?_⟩
    rw [seated.sessionIds_call, openIds_idsAfter]
    rfl

theorem seated_of_idle {users : UnorderedMap Text User}
    (idle : ∀ name user, users.lookup name = some user → user.sessions = []) :
    ({ users } : ProfileManager).Seated ∧
      ∀ username, ({ users } : ProfileManager).sessionIds username = [] := by
  have none : ∀ username, ({ users } : ProfileManager).sessionIds username = [] := by
    intro username
    by_cases present : username ∈ users
    · obtain ⟨user, stored⟩ := UnorderedMap.lookup_of_mem present
      rw [sessionIds, userOf, stored, Option.getD_some, User.sessionIds,
        idle username user stored, List.map_nil]
    · exact sessionIds_of_notMem present
  refine ⟨⟨fun username => ?_, fun username => ?_⟩, none⟩
  · rw [none]
    exact List.nodup_nil
  · rw [none]
    exact Nat.zero_le _

/-- However users log in and out: a user's sessions are those that were started and not
closed since, never more than there may be. A start is refused exactly when that many
are open, and closing takes the session with the id away, if there is one. -/
theorem sessions_of_calls (users : UnorderedMap Text User)
    (idle : ∀ name user, users.lookup name = some user → user.sessions = [])
    (operations : List ProfileOperation)
    (notOpen : AllMeet serve NotOpen { users } operations) :
    let manager := ({ users } : ProfileManager).calls (fun _ => true) operations
    (∀ username, manager.sessionIds username =
      openIds username (({ users } : ProfileManager).answered operations)) ∧
    (∀ username, (manager.sessionIds username).Nodup ∧
      (manager.sessionIds username).length ≤ User.maxSessionsPerUser) ∧
    (∀ username session,
      ((manager.startSession (fun _ => true) username session).success = false ↔
        (manager.sessionIds username).length = User.maxSessionsPerUser) ∧
      ((manager.startSession (fun _ => true) username session).success = false →
        (manager.startSession (fun _ => true) username session).manager = manager)) ∧
    ∀ username id,
      (id ∈ manager.sessionIds username → manager.closeSession username id =
        manager.setUser username { manager.userOf username with
          sessions := (manager.userOf username).sessions.filter (·.threadId ≠ id) }) ∧
      (id ∉ manager.sessionIds username → manager.closeSession username id = manager) := by
  intro manager
  obtain ⟨start, none⟩ := seated_of_idle idle
  have seated : manager.Seated := (start.sessionIds_calls notOpen []).1
  refine ⟨?_, fun username => ⟨seated.distinct username, seated.few username⟩, ?_, ?_⟩
  · intro username
    have ids := (start.sessionIds_calls notOpen username).2
    rw [none, List.filter_nil, List.nil_append] at ids
    exact ids
  · intro username session
    refine ⟨?_, startSession_refused⟩
    have few := seated.few username
    rw [← Bool.not_eq_true, startSession_success]
    omega
  · intro username id
    refine ⟨?_, ?_⟩
    · intro member
      refine seated.closeSession_eq ?_ id
      by_contra absent
      rw [sessionIds_of_notMem absent] at member
      cases member
    · intro away
      by_cases present : username ∈ manager.users
      · have same : (manager.userOf username).sessions.filter (·.threadId ≠ id) =
            (manager.userOf username).sessions := by
          rw [List.filter_eq_self]
          intro session member
          simpa using fun here : session.threadId = id =>
            away (here ▸ List.mem_map_of_mem member)
        rw [seated.closeSession_eq present, same]
        exact setUser_userOf username
      · rw [closeSession, if_neg present]

/-- Three logins of one user, and a logout that makes room for the third. -/
def thirdLater : List ProfileOperation :=
  [.startSession ['a'] ⟨1, ['a']⟩, .startSession ['a'] ⟨2, ['a']⟩, .startSession ['a'] ⟨3, ['a']⟩,
    .closeSession ['a'] 1, .startSession ['a'] ⟨3, ['a']⟩]

theorem sessions_of_thirdLater :
    (({} : ProfileManager).calls (fun _ => true) thirdLater).sessionIds ['a'] = [2, 3] :=
  (sessions_of_calls ∅ (by intro name user found; cases found) thirdLater (by decide)).1 ['a']

end Calls

end ProfileManager

end TwitterClone
