import TwitterClone.Profile.Persistency

/-! What a call can make of a user, and what that means for the lists of followers. -/
namespace TwitterClone.ProfileManager

open Foundation

/-- The users that a call may leave under a name. -/
inductive UserAfter (manager : ProfileManager) (name : Text) : User → Prop where
  | kept (user : User) (stored : manager.users.lookup name = some user) :
      UserAfter manager name user
  | opened (user : User) (stored : manager.users.lookup name = some user)
      (session : ProfileSession) : UserAfter manager name (user.addSession session).1
  | closed (user : User) (stored : manager.users.lookup name = some user) (id : Nat) :
      UserAfter manager name (user.removeSession id)
  | followed (user : User) (stored : manager.users.lookup name = some user) (follower : Text)
      (registered : follower ∈ manager.users) : UserAfter manager name (user.addFollower follower).1
  | created (absent : name ∉ manager.users) (session : ProfileSession) :
      UserAfter manager name (manager.newUser name session)

theorem userAfter_setUser {manager : ProfileManager} {username name : Text} {changed user : User}
    (present : username ∈ manager.users)
    (after : ∀ stored, manager.users.lookup username = some stored →
      manager.userOf username = stored → UserAfter manager username changed)
    (found : (manager.setUser username changed).users.lookup name = some user) :
    UserAfter manager name user := by
  obtain ⟨stored, old⟩ := UnorderedMap.lookup_of_mem present
  rw [lookup_setUser old] at found
  split at found
  next here =>
    rw [here, ← Option.some.inj found]
    exact after stored old (by rw [userOf, old, Option.getD_some])
  next => exact .kept user found

theorem follow_manager (manager : ProfileManager) (onUpdateCallback : ProfileManager → Bool)
    (follower userToFollow : Text) :
    (manager.follow onUpdateCallback follower userToFollow).manager =
      if follower ∈ manager.users ∧ userToFollow ∈ manager.users then
        manager.setUser userToFollow ((manager.userOf userToFollow).addFollower follower).1
      else manager := by
  unfold follow
  split
  next =>
    dsimp only
    split <;> rfl
  next => rfl

theorem userAfter_call {manager : ProfileManager} {onUpdateCallback : ProfileManager → Bool}
    {operation : ProfileOperation} {name : Text} {user : User}
    (found : (manager.call onUpdateCallback operation).manager.users.lookup name = some user) :
    UserAfter manager name user := by
  cases operation with
  | startSession username session =>
    rw [call, startSession] at found
    split at found
    next present =>
      refine userAfter_setUser present ?_ found
      intro stored old same
      exact same ▸ .opened stored old session
    next absent =>
      change (manager.users.emplace username (manager.newUser username session)).lookup name = _
        at found
      rw [UnorderedMap.lookup_emplace] at found
      split at found
      next here =>
        rw [← Option.some.inj found, here.1]
        exact .created absent session
      next => exact .kept user found
  | closeSession username id =>
    change (manager.closeSession username id).users.lookup name = _ at found
    rw [closeSession] at found
    split at found
    next present =>
      refine userAfter_setUser present ?_ found
      intro stored old same
      exact same ▸ .closed stored old id
    next => exact .kept user found
  | follow follower userToFollow =>
    rw [call, follow_manager] at found
    split at found
    next both =>
      refine userAfter_setUser both.2 ?_ found
      intro stored old same
      exact same ▸ .followed stored old follower both.1
    next => exact .kept user found

/-- No user has the same follower twice. -/
def DistinctFollowers (manager : ProfileManager) : Prop :=
  ∀ name user, manager.users.lookup name = some user → user.followers.Nodup

theorem nodup_addFollower {user : User} (distinct : user.followers.Nodup) (follower : Text) :
    (user.addFollower follower).1.followers.Nodup := by
  have sorted : (user.followers.insertionSort User.nameLe).Nodup :=
    (List.perm_insertionSort User.nameLe user.followers).nodup_iff.mpr distinct
  unfold User.addFollower
  split
  next => exact distinct
  next =>
    dsimp only
    split
    next => exact sorted
    next unfound =>
      have absent : follower ∉ user.followers.insertionSort User.nameLe := by
        rwa [List.mem_insertionSort, ← User.binarySearch_sorted]
      exact sorted.append (List.nodup_singleton _) (List.disjoint_singleton.mpr absent)

theorem DistinctFollowers.call {manager : ProfileManager} (distinct : manager.DistinctFollowers)
    (onUpdateCallback : ProfileManager → Bool) (operation : ProfileOperation) :
    (manager.call onUpdateCallback operation).manager.DistinctFollowers := by
  intro name user found
  cases userAfter_call found with
  | kept _ stored => exact distinct name user stored
  | opened old stored session =>
    rw [(User.frame_addSession old session).2.2]
    exact distinct name old stored
  | closed old stored id =>
    rw [(User.frame_removeSession old id).2.2]
    exact distinct name old stored
  | followed old stored follower => exact nodup_addFollower (distinct name old stored) follower
  | created _ session =>
    rw [newUser, (User.frame_addSession _ session).2.2]
    exact List.nodup_nil

theorem nodup_followersOf {manager : ProfileManager} (distinct : manager.DistinctFollowers)
    (username : Text) : (manager.followersOf username).Nodup := by
  unfold followersOf
  split
  next present =>
    obtain ⟨user, stored⟩ := UnorderedMap.lookup_of_mem present
    rw [userOf, stored, Option.getD_some]
    exact distinct username user stored
  next => exact List.nodup_nil

theorem distinctFollowers_loadRows {loaded : UnorderedMap Text User} (rows : List (List Text))
    (userId : Nat) (users : UnorderedMap Text User) (distinct : DistinctFollowers { users })
    (result : ProfilePersistency.loadRows userId users rows = .ok loaded) :
    DistinctFollowers { users := loaded } := by
  induction rows generalizing userId users with
  | nil => exact Except.ok.inj result ▸ distinct
  | cons row rest ih =>
    cases row with
    | nil => cases result
    | cons username followers =>
      have built : ∀ (names : List Text) (user : User), user.followers.Nodup →
          (names.foldl (fun user follower =>
            (user.addFollower follower).1) user).followers.Nodup := by
        intro names
        induction names with
        | nil => exact fun _ start => start
        | cons name more later => exact fun user start => later _ (nodup_addFollower start name)
      refine ih _ _ ?_ result
      intro name user found
      rw [UnorderedMap.lookup_emplace] at found
      split at found
      next => exact Option.some.inj found ▸ built followers _ List.nodup_nil
      next => exact distinct name user found

theorem distinctFollowers_readUsers {file : Option Text} {users : UnorderedMap Text User}
    (loaded : ProfilePersistency.readUsers file = .ok users) : DistinctFollowers { users } :=
  distinctFollowers_loadRows _ 1 ∅ (by intro name user found; cases found) loaded

section Calls

variable {manager : ProfileManager}

/-- What the users are to each other after any calls. -/
structure FollowGraph (manager : ProfileManager) : Prop where
  usernames : ∀ name user, manager.users.lookup name = some user → user.username = name
  distinct : manager.DistinctFollowers
  notSelf : ∀ name user, manager.users.lookup name = some user → name ∉ user.followers
  registered : ∀ name user, manager.users.lookup name = some user →
    ∀ follower ∈ user.followers, follower ∈ manager.users

theorem mem_call {name : Text} (present : name ∈ manager.users)
    (onUpdateCallback : ProfileManager → Bool) (operation : ProfileOperation) :
    name ∈ (manager.call onUpdateCallback operation).manager.users := by
  cases operation with
  | startSession username session =>
    rw [call, startSession]
    split
    next => exact (mem_setUser ..).mpr present
    next => exact (UnorderedMap.mem_emplace ..).mpr (Or.inr present)
  | closeSession username id =>
    change name ∈ (manager.closeSession username id).users
    rw [closeSession]
    split
    next => exact (mem_setUser ..).mpr present
    next => exact present
  | follow follower userToFollow =>
    rw [call, follow_manager]
    split
    next => exact (mem_setUser ..).mpr present
    next => exact present

theorem FollowGraph.call (graph : manager.FollowGraph)
    (onUpdateCallback : ProfileManager → Bool) (operation : ProfileOperation) :
    (manager.call onUpdateCallback operation).manager.FollowGraph := by
  have usernames : ∀ name user,
      (manager.call onUpdateCallback operation).manager.users.lookup name = some user →
        user.username = name := by
    intro name user found
    cases userAfter_call found with
    | kept _ stored => exact graph.usernames name user stored
    | opened old stored session =>
      rw [(User.frame_addSession old session).2.1]
      exact graph.usernames name old stored
    | closed old stored id =>
      rw [(User.frame_removeSession old id).2.1]
      exact graph.usernames name old stored
    | followed old stored follower =>
      rw [(User.frame_addFollower old follower).2.1]
      exact graph.usernames name old stored
    | created _ session => rw [newUser, (User.frame_addSession _ session).2.1]
  have followers : ∀ name user,
      (manager.call onUpdateCallback operation).manager.users.lookup name = some user →
        ∀ follower ∈ user.followers, follower ≠ name ∧ follower ∈ manager.users := by
    intro name user found follower member
    have before : ∀ old, manager.users.lookup name = some old → follower ∈ old.followers →
        follower ≠ name ∧ follower ∈ manager.users := by
      intro old stored inside
      refine ⟨?_, graph.registered name old stored follower inside⟩
      intro same
      exact graph.notSelf name old stored (same ▸ inside)
    cases userAfter_call found with
    | kept _ stored => exact before user stored member
    | opened old stored session =>
      rw [(User.frame_addSession old session).2.2] at member
      exact before old stored member
    | closed old stored id =>
      rw [(User.frame_removeSession old id).2.2] at member
      exact before old stored member
    | followed old stored new registered =>
      rcases (User.mem_followers_addFollower old new follower).mp member with inside | ⟨added, here⟩
      · exact before old stored inside
      · have other := ((User.addFollower_eq old new).mp added).1
        rw [graph.usernames name old stored] at other
        exact here ▸ ⟨other.symm, registered⟩
    | created _ session =>
      rw [newUser, (User.frame_addSession _ session).2.2] at member
      exact absurd member List.not_mem_nil
  refine ⟨usernames, graph.distinct.call onUpdateCallback operation, ?_, ?_⟩
  · intro name user found member
    exact (followers name user found name member).1 rfl
  · intro name user found follower member
    exact mem_call (followers name user found follower member).2 onUpdateCallback operation

theorem followGraph_empty : ({} : ProfileManager).FollowGraph where
  usernames := by
    intro name user found
    cases found
  distinct := by
    intro name user found
    cases found
  notSelf := by
    intro name user found
    cases found
  registered := by
    intro name user found
    cases found

/-- A manager after some calls, one after the other. -/
def calls (onUpdateCallback : ProfileManager → Bool) (manager : ProfileManager)
    (operations : List ProfileOperation) : ProfileManager :=
  operations.foldl (fun manager operation => (manager.call onUpdateCallback operation).manager)
    manager

/-- A call, as a step that is always possible. -/
def serve (manager : ProfileManager) (operation : ProfileOperation) : Option ProfileManager :=
  some (manager.call (fun _ => true) operation).manager

theorem FollowGraph.calls (graph : manager.FollowGraph)
    (onUpdateCallback : ProfileManager → Bool) (operations : List ProfileOperation) :
    (manager.calls onUpdateCallback operations).FollowGraph := by
  induction operations generalizing manager with
  | nil => exact graph
  | cons operation rest ih => exact ih (graph.call onUpdateCallback operation)

theorem followersOf_eq (name : Text) :
    manager.followersOf name = ((manager.users.lookup name).map User.followers).getD [] := by
  unfold followersOf
  split
  next present =>
    obtain ⟨user, stored⟩ := UnorderedMap.lookup_of_mem present
    simp [userOf, stored]
  next absent => simp [UnorderedMap.lookup_eq_none.mpr absent]

theorem followersOf_setUser {username : Text} (present : username ∈ manager.users) (user : User)
    (name : Text) :
    (manager.setUser username user).followersOf name =
      if name = username then user.followers else manager.followersOf name := by
  obtain ⟨stored, old⟩ := UnorderedMap.lookup_of_mem present
  rw [followersOf_eq, lookup_setUser old]
  split
  next => rfl
  next => exact (followersOf_eq name).symm

theorem followersOf_userOf {username : Text} (present : username ∈ manager.users) :
    manager.followersOf username = (manager.userOf username).followers :=
  if_pos present

theorem followersOf_keep {username : Text} (present : username ∈ manager.users) {user : User}
    (same : user.followers = (manager.userOf username).followers) (name : Text) :
    (manager.setUser username user).followersOf name = manager.followersOf name := by
  rw [followersOf_setUser present]
  split
  next here => rw [here, same, followersOf_userOf present]
  next => rfl

theorem success_follow (follower userToFollow : Text) :
    (manager.follow (fun _ => true) follower userToFollow).success = true ↔
      (follower ∈ manager.users ∧ userToFollow ∈ manager.users) ∧
        ((manager.userOf userToFollow).addFollower follower).2 = true := by
  by_cases both : follower ∈ manager.users ∧ userToFollow ∈ manager.users
  · rw [follow, if_pos both]
    dsimp only
    split
    next added => simp [both, added]
    next refused => simp [refused]
  · rw [follow, if_neg both]
    simp [both]

/-- A call changes no followers, other than a follow that succeeds. -/
theorem mem_followersOf_call (operation : ProfileOperation) (name other : Text) :
    other ∈ (manager.call (fun _ => true) operation).manager.followersOf name ↔
      other ∈ manager.followersOf name ∨ operation = .follow other name ∧
        (manager.call (fun _ => true) operation).success = true := by
  cases operation with
  | startSession username session =>
    have same : (manager.call (fun _ => true) (.startSession username session)).manager.followersOf
        name = manager.followersOf name := by
      rw [call, startSession]
      split
      next present =>
        exact followersOf_keep present (User.frame_addSession _ session).2.2 name
      next absent =>
        rw [followersOf_eq, followersOf_eq, UnorderedMap.lookup_emplace]
        split
        next here =>
          rw [here.1, UnorderedMap.lookup_eq_none.mpr absent, newUser, Option.map_some,
            (User.frame_addSession _ session).2.2]
          rfl
        next => rfl
    simp [same]
  | closeSession username id =>
    have same : (manager.closeSession username id).followersOf name =
        manager.followersOf name := by
      rw [closeSession]
      split
      next present => exact followersOf_keep present (User.frame_removeSession _ id).2.2 name
      next => rfl
    simp [call, same]
  | follow follower userToFollow =>
    rw [call, success_follow, follow_manager]
    by_cases both : follower ∈ manager.users ∧ userToFollow ∈ manager.users
    · rw [if_pos both, followersOf_setUser both.2]
      split
      next here =>
        subst here
        rw [User.mem_followers_addFollower, followersOf_userOf both.2]
        simp only [ProfileOperation.follow.injEq, and_true, both, true_and]
        constructor
        · rintro (inside | ⟨added, here⟩)
          · exact Or.inl inside
          · exact Or.inr ⟨here.symm, added⟩
        · rintro (inside | ⟨here, added⟩)
          · exact Or.inl inside
          · exact Or.inr ⟨added, here.symm⟩
      next elsewhere => simp [Ne.symm elsewhere]
    · rw [if_neg both]
      simp [both]

theorem FollowGraph.success_iff (graph : manager.FollowGraph) (follower userToFollow : Text) :
    (manager.follow (fun _ => true) follower userToFollow).success = true ↔
      follower ∈ manager.users ∧ userToFollow ∈ manager.users ∧ follower ≠ userToFollow ∧
        follower ∉ manager.followersOf userToFollow := by
  rw [success_follow, and_assoc]
  refine and_congr_right fun _ => and_congr_right fun present => ?_
  obtain ⟨user, stored⟩ := UnorderedMap.lookup_of_mem present
  have username : (manager.userOf userToFollow).username = userToFollow := by
    rw [userOf, stored]
    exact graph.usernames userToFollow user stored
  rw [User.addFollower_eq, username, followersOf_userOf present]
  exact and_congr_left fun _ => ne_comm

/-- However an empty manager was called: users are stored under their names, nobody
is listed twice, under the own name or without being registered. A follow succeeds
exactly for a registered new follower, and no other call changes any followers. -/
theorem followGraph_of_calls (operations : List ProfileOperation) :
    let manager := ({} : ProfileManager).calls (fun _ => true) operations
    manager.FollowGraph ∧
      (∀ follower userToFollow,
        (manager.follow (fun _ => true) follower userToFollow).success = true ↔
          follower ∈ manager.users ∧ userToFollow ∈ manager.users ∧ follower ≠ userToFollow ∧
            follower ∉ manager.followersOf userToFollow) ∧
      ∀ operation name other,
        other ∈ (manager.call (fun _ => true) operation).manager.followersOf name ↔
          other ∈ manager.followersOf name ∨ operation = .follow other name ∧
            (manager.call (fun _ => true) operation).success = true := by
  have graph := followGraph_empty.calls (fun _ => true) operations
  exact ⟨graph, graph.success_iff, mem_followersOf_call⟩

end Calls

end TwitterClone.ProfileManager
