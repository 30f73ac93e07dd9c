import TwitterClone.Foundation.Publisher
import TwitterClone.Profile.FollowGraph
import TwitterClone.Profile.StateTransfer

/-! The names in a profile manager came in with its calls. What a call publishes,
and what a call that publishes nothing leaves as it was. -/
namespace TwitterClone

open Foundation

/-- The names that a call brings in; a follow can only name registered users. -/
def ProfileOperation.Uses (good : Text → Prop) : ProfileOperation → Prop
  | .startSession username session => good username ∧ good session.username
  | .closeSession _ _ | .follow _ _ => True

instance ProfileOperation.decidableUses (good : Text → Prop) [DecidablePred good] :
    (operation : ProfileOperation) → Decidable (operation.Uses good)
  | .startSession _ _ => inferInstanceAs (Decidable (_ ∧ _))
  | .closeSession _ _ | .follow _ _ => isTrue trivial

/-- The names of a user. -/
structure User.Holds (good : Text → Prop) (user : User) : Prop where
  username : good user.username
  followers : ∀ follower ∈ user.followers, good follower
  sessions : ∀ session ∈ user.sessions, good session.username

theorem User.Holds.addSession {good : Text → Prop} {user : User} (holds : user.Holds good)
    {session : ProfileSession} (username : good session.username) :
    (user.addSession session).1.Holds good := by
  obtain ⟨-, sameName, sameFollowers⟩ := User.frame_addSession user session
  refine ⟨sameName ▸ holds.username, sameFollowers ▸ holds.followers, ?_⟩
  intro other member
  rcases ProfileManager.mem_sessions_addSession user session other member with old | new
  · exact holds.sessions other old
  · exact new ▸ username

namespace ProfileManager

/-- The names of a manager, its keys among them. -/
def Holds (good : Text → Prop) (manager : ProfileManager) : Prop :=
  ∀ name user, manager.users.lookup name = some user → good name ∧ user.Holds good

section Calls

variable {good : Text → Prop} {manager : ProfileManager}

theorem Holds.setUser (holds : manager.Holds good) {username : Text}
    (present : username ∈ manager.users) {user : User}
    (kept : ∀ stored, manager.users.lookup username = some stored →
      manager.userOf username = stored → stored.Holds good → user.Holds good) :
    (manager.setUser username user).Holds good := by
  obtain ⟨stored, old⟩ := UnorderedMap.lookup_of_mem present
  obtain ⟨key, before⟩ := holds username stored old
  intro name other found
  rw [lookup_setUser old] at found
  split at found
  next here =>
    rw [here, ← Option.some.inj found]
    exact ⟨key, kept stored old (by rw [userOf, old, Option.getD_some]) before⟩
  next => exact holds name other found

/-- A manager's names come from its calls. -/
theorem Holds.call (holds : manager.Holds good) (onUpdateCallback : ProfileManager → Bool)
    {operation : ProfileOperation} (uses : operation.Uses good) :
    (manager.call onUpdateCallback operation).manager.Holds good := by
  cases operation with
  | startSession username session =>
    rw [ProfileManager.call, startSession]
    split
    next present =>
      refine holds.setUser present ?_
      intro stored _ same before
      exact same ▸ User.Holds.addSession before uses.2
    next absent =>
      have fresh : ({ id := int32 manager.users.entries.length, username } : User).Holds good :=
        ⟨uses.1, by simp, by simp⟩
      intro name user found
      change (manager.users.emplace username (manager.newUser username session)).lookup name = _
        at found
      rw [UnorderedMap.lookup_emplace] at found
      split at found
      next here =>
        rw [here.1, ← Option.some.inj found]
        exact ⟨uses.1, User.Holds.addSession fresh uses.2⟩
      next => exact holds name user found
  | closeSession username id =>
    change (manager.closeSession username id).Holds good
    rw [closeSession]
    split
    next present =>
      refine holds.setUser present ?_
      intro stored _ same before
      obtain ⟨-, sameName, sameFollowers⟩ := User.frame_removeSession stored id
      rw [same]
      exact ⟨sameName ▸ before.username, sameFollowers ▸ before.followers,
        fun session member =>
          before.sessions session (mem_sessions_removeSession stored id session member)⟩
    next => exact holds
  | follow follower userToFollow =>
    rw [ProfileManager.call, follow_manager]
    split
    next both =>
      obtain ⟨account, known⟩ := UnorderedMap.lookup_of_mem both.1
      have name := (holds follower account known).1
      refine holds.setUser both.2 ?_
      intro stored _ same before
      obtain ⟨-, sameName, sameSessions⟩ := User.frame_addFollower stored follower
      rw [same]
      refine ⟨sameName ▸ before.username, ?_, sameSessions ▸ before.sessions⟩
      intro other member
      rcases (User.mem_followers_addFollower stored follower other).mp member with old | ⟨-, new⟩
      · exact before.followers other old
      · exact new ▸ name
    next => exact holds

end Calls

section Encoding

/-- No name with a NUL, no NUL in the encoded state. -/
theorem Holds.nul_notMem {manager : ProfileManager}
    (holds : manager.Holds fun name => nul ∉ name) : nul ∉ manager.serialize := by
  have blank : nul ≠ ' ' := by decide
  have comma : nul ∉ [','] := by decide
  have number : ∀ value, nul ∉ showNat value := notMem_showNat rfl
  have users : ∀ entry ∈ manager.users.entries, nul ∉ serializeUser entry := by
    intro entry member
    obtain ⟨key, user⟩ := holds entry.1 entry.2 (UnorderedMap.lookup_eq_some.mpr member)
    have followers : nul ∉ joinStrings [','] entry.2.followers :=
      notMem_joinStrings comma user.followers
    have sessions : nul ∉ joinStrings [','] (entry.2.sessions.map ProfileSession.serialize) := by
      refine notMem_joinStrings comma ?_
      intro part inside
      obtain ⟨session, opened, same⟩ := List.mem_map.mp inside
      rw [← same]
      simp only [ProfileSession.serialize, List.mem_append, List.mem_cons, not_or]
      exact ⟨number _, blank, user.sessions session opened⟩
    simp only [serializeUser, User.serialize, List.mem_append, List.mem_cons, not_or]
    exact ⟨key, blank, notMem_showInt rfl (by decide) _, blank, user.username, blank, number _,
      blank, followers, blank, number _, blank, sessions⟩
  simp only [serialize, List.mem_flatMap, List.mem_append, not_exists, not_and, not_or]
  exact fun entry member => ⟨users entry member, by decide⟩

end Encoding

section Publishing

variable {manager : ProfileManager}

/-- The same names, and under each of them users that a relation calls the same. -/
structure Alike (same : User → User → Prop) (shown manager : ProfileManager) : Prop where
  names : ∀ name, name ∈ shown.users ↔ name ∈ manager.users
  users : ∀ name first second, shown.users.lookup name = some first →
    manager.users.lookup name = some second → same first second

/-- Equal but for the sessions. -/
structure SameAccount (shown user : User) : Prop where
  id : shown.id = user.id
  username : shown.username = user.username
  followers : shown.followers = user.followers

/-- Equal but for the sessions and the order in which the followers are listed. -/
structure SameFollowing (shown user : User) : Prop where
  id : shown.id = user.id
  username : shown.username = user.username
  followers : shown.followers.Perm user.followers

variable {same : User → User → Prop}

theorem Alike.refl (manager : ProfileManager) (refl : ∀ user, same user user) :
    Alike same manager manager := by
  refine ⟨fun _ => Iff.rfl, ?_⟩
  intro name first second here there
  rw [here] at there
  exact Option.some.inj there ▸ refl first

theorem Alike.trans {first second third : ProfileManager}
    (trans : ∀ shown middle user, same shown middle → same middle user → same shown user)
    (left : Alike same first second) (right : Alike same second third) :
    Alike same first third := by
  refine ⟨fun name => (left.names name).trans (right.names name), ?_⟩
  intro name shown user here there
  obtain ⟨middle, found⟩ := UnorderedMap.lookup_of_mem
    ((left.names name).mp (UnorderedMap.mem_of_lookup here))
  exact trans shown middle user (left.users name shown middle here found)
    (right.users name middle user found there)

theorem Alike.setUser (refl : ∀ user, same user user) {username : Text} {user : User}
    (present : username ∈ manager.users) (kept : same (manager.userOf username) user) :
    Alike same manager (manager.setUser username user) := by
  obtain ⟨stored, old⟩ := UnorderedMap.lookup_of_mem present
  refine ⟨fun name => (mem_setUser ..).symm, ?_⟩
  intro name first second here there
  rw [lookup_setUser old] at there
  split at there
  next same =>
    rw [same] at here
    rw [userOf, here, Option.getD_some, Option.some.inj there] at kept
    exact kept
  next =>
    rw [here] at there
    exact Option.some.inj there ▸ refl first

/-- What a client's call makes of the manager, and what it hands to the callback.
A call hands out one manager at most. -/
def operate (manager : ProfileManager) (operation : ProfileOperation) :
    ProfileManager × Option ProfileManager :=
  let call := manager.call (fun _ => true) operation
  (call.manager, call.updates.head?)

theorem operate_asks (manager : ProfileManager) (operation : ProfileOperation)
    (update : ProfileManager) (asked : (manager.operate operation).2 = some update) :
    update = (manager.operate operation).1 := by
  unfold operate at asked ⊢
  cases operation with
  | startSession username session =>
    rw [call, startSession] at asked ⊢
    split at asked
    next => cases asked
    next absent =>
      rw [if_neg absent]
      exact (Option.some.inj asked).symm
  | closeSession username id => cases asked
  | follow follower userToFollow =>
    dsimp only at asked ⊢
    rw [call, follow_manager]
    rw [call, follow] at asked
    split at asked
    next both =>
      dsimp only at asked
      split at asked
      next =>
        rw [if_pos both]
        exact (Option.some.inj asked).symm
      next => cases asked
    next => cases asked

/-- A call that hands nothing to the callback keeps every user the same. -/
theorem operate_silent (refl : ∀ user, same user user)
    (opened : ∀ user session, same user (user.addSession session).1)
    (closed : ∀ user id, same user (user.removeSession id)) {operation : ProfileOperation}
    (refused : ∀ follower userToFollow, operation = .follow follower userToFollow →
      ((manager.userOf userToFollow).addFollower follower).2 = false →
        same (manager.userOf userToFollow) ((manager.userOf userToFollow).addFollower follower).1)
    (quiet : (manager.operate operation).2 = none) :
    Alike same manager (manager.operate operation).1 := by
  unfold operate at quiet ⊢
  cases operation with
  | startSession username session =>
    rw [call, startSession] at quiet ⊢
    split at quiet
    next present =>
      rw [if_pos present]
      exact Alike.setUser refl present (opened _ session)
    next => cases quiet
  | closeSession username id =>
    change Alike same manager (manager.closeSession username id)
    rw [closeSession]
    split
    next present => exact Alike.setUser refl present (closed _ id)
    next => exact Alike.refl manager refl
  | follow follower userToFollow =>
    dsimp only at quiet ⊢
    rw [call, follow_manager]
    rw [call, follow] at quiet
    split at quiet
    next both =>
      rw [if_pos both]
      dsimp only at quiet
      split at quiet
      next => cases quiet
      next unadded =>
        exact Alike.setUser refl both.2
          (refused follower userToFollow rfl (Bool.eq_false_iff.mpr unadded))
    next missing =>
      rw [if_neg missing]
      exact Alike.refl manager refl

theorem SameAccount.refl (user : User) : SameAccount user user := ⟨rfl, rfl, rfl⟩

theorem SameAccount.trans (shown middle user : User) (left : SameAccount shown middle)
    (right : SameAccount middle user) : SameAccount shown user :=
  ⟨left.id.trans right.id, left.username.trans right.username,
    left.followers.trans right.followers⟩

theorem SameAccount.following {shown user : User} (same : SameAccount shown user) :
    SameFollowing shown user :=
  ⟨same.id, same.username, .of_eq same.followers⟩

theorem SameFollowing.trans (shown middle user : User) (left : SameFollowing shown middle)
    (right : SameFollowing middle user) : SameFollowing shown user :=
  ⟨left.id.trans right.id, left.username.trans right.username,
    left.followers.trans right.followers⟩

theorem sameAccount_addSession (user : User) (session : ProfileSession) :
    SameAccount user (user.addSession session).1 := by
  obtain ⟨id, username, followers⟩ := User.frame_addSession user session
  exact ⟨id.symm, username.symm, followers.symm⟩

theorem sameAccount_removeSession (user : User) (id : Nat) :
    SameAccount user (user.removeSession id) := by
  obtain ⟨sameId, username, followers⟩ := User.frame_removeSession user id
  exact ⟨sameId.symm, username.symm, followers.symm⟩

/-- A refused follower leaves the list as it was, or sorted. -/
theorem followers_refused {user : User} {follower : Text}
    (refused : (user.addFollower follower).2 = false) :
    (user.addFollower follower).1.followers = user.followers ∨
      follower ∈ user.followers ∧
        (user.addFollower follower).1.followers = user.followers.insertionSort User.nameLe := by
  unfold User.addFollower at refused ⊢
  by_cases self : user.username = follower
  · rw [if_pos self]
    exact Or.inl rfl
  · rw [if_neg self] at refused ⊢
    dsimp only at refused ⊢
    split at refused
    next found =>
      rw [if_pos found]
      exact Or.inr ⟨(User.binarySearch_sorted user.followers follower).mp found, rfl⟩
    next => cases refused

/-- Without publication, only sessions and the order of followers change. -/
theorem following_of_silent {operation : ProfileOperation}
    (quiet : (manager.operate operation).2 = none) :
    Alike SameFollowing manager (manager.operate operation).1 := by
  have following : ∀ user, SameFollowing user user := fun user => (SameAccount.refl user).following
  refine operate_silent following
    (fun user session => (sameAccount_addSession user session).following)
    (fun user id => (sameAccount_removeSession user id).following) ?_ quiet
  intro follower userToFollow _ refused
  obtain ⟨id, username, -⟩ := User.frame_addFollower (manager.userOf userToFollow) follower
  refine ⟨id.symm, username.symm, ?_⟩
  rcases followers_refused refused with kept | ⟨-, sorted⟩
  · exact .of_eq kept.symm
  · exact sorted ▸ (List.perm_insertionSort User.nameLe _).symm

/-- The call is no refused follow that puts a list of followers into another order. -/
def LeavesOrder (manager : ProfileManager) : ProfileOperation → Prop
  | .follow follower userToFollow =>
    follower ∈ (manager.userOf userToFollow).followers →
      (manager.userOf userToFollow).followers.insertionSort User.nameLe =
        (manager.userOf userToFollow).followers
  | _ => True

instance (manager : ProfileManager) : (operation : ProfileOperation) →
    Decidable (manager.LeavesOrder operation)
  | .follow _ _ => inferInstanceAs (Decidable (_ → _))
  | .startSession _ _ | .closeSession _ _ => isTrue trivial

/-- Where the lists keep their order, only sessions change without publication. -/
theorem account_of_silent {operation : ProfileOperation} (leaves : manager.LeavesOrder operation)
    (quiet : (manager.operate operation).2 = none) :
    Alike SameAccount manager (manager.operate operation).1 := by
  refine operate_silent SameAccount.refl sameAccount_addSession sameAccount_removeSession ?_ quiet
  intro follower userToFollow same refused
  obtain ⟨id, username, -⟩ := User.frame_addFollower (manager.userOf userToFollow) follower
  refine ⟨id.symm, username.symm, ?_⟩
  rcases followers_refused refused with kept | ⟨member, sorted⟩
  · exact kept.symm
  · subst same
    exact (sorted.trans (leaves member)).symm

end Publishing

end ProfileManager

end TwitterClone
