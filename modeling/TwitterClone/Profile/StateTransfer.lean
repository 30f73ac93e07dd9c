import TwitterClone.Foundation.Machine
import TwitterClone.Profile.UserRecord

/-! The state that a leader sends to a new replica: what comes out at the other
end, for every history of the leader's users. -/
namespace TwitterClone

open Foundation

namespace ProfileManager

/-- The bytes that separate fields, list items and users in the encoded state. -/
def separators : List Char := [' ', ',', newline]

def PlainName (name : Text) : Prop := NameWithout separators name

instance (name : Text) : Decidable (PlainName name) :=
  inferInstanceAs (Decidable (NameWithout _ _))

/-- A user as the manager keeps it under a name. -/
structure PlainUser (name : Text) (user : User) : Prop where
  named : user.username = name
  plain : PlainName name
  followers : ∀ follower ∈ user.followers, PlainName follower
  sessions : ∀ session ∈ user.sessions, PlainName session.username
  id : IsInt user.id

/-- Every user is stored under its own, plain name. -/
def Plain (manager : ProfileManager) : Prop :=
  ∀ name user, manager.users.lookup name = some user → PlainUser name user

/-- The number of followers can be read back as an `int`. -/
def ShortList (user : User) : Prop := user.followers.length < 2 ^ 31

instance (user : User) : Decidable (ShortList user) := inferInstanceAs (Decidable (_ < _))

/-- What the decoder keeps of a user. -/
def withoutSessions (user : User) : User := { user with sessions := [] }

section Encoding

variable {name : Text} {user : User}

theorem PlainName.notMem (plain : PlainName name) {separator : Char}
    (member : separator ∈ separators) : separator ∉ name :=
  plain.2 separator member

theorem free_of_plain {names : List Text} (plain : ∀ name ∈ names, PlainName name)
    {separator : Char} (member : separator ∈ separators) (other : separator ≠ ',') :
    separator ∉ joinStrings [','] names :=
  notMem_joinStrings (by simpa using other) fun name inside => (plain name inside).notMem member

/-- The six fields are found again. A list too long to be counted is refused. -/
theorem deserialize_serialize_user (plain : PlainUser name user) :
    ({} : User).deserialize user.serialize =
      if ShortList user then .ok (withoutSessions user) else .error .outOfRange := by
  have space : ' ' ∈ separators := by decide
  have comma : ',' ∈ separators := by decide
  have nameFree : ' ' ∉ user.username := plain.named ▸ plain.plain.notMem space
  exact User.deserialize_serialize plain.id nameFree
    (fun follower member => (plain.followers follower member).notMem space)
    (fun follower member => (plain.followers follower member).notMem comma)

theorem newline_notMem_serializeUser (plain : PlainUser name user) :
    newline ∉ serializeUser (name, user) := by
  have line : newline ∈ separators := by decide
  have nameFree := plain.plain.notMem line
  have followersFree := free_of_plain plain.followers line (by decide)
  have idFree : newline ∉ showInt user.id := notMem_showInt (by decide) (by decide) _
  have countFree : ∀ count, newline ∉ showNat count := notMem_showNat (by decide)
  have sessionsFree : newline ∉ joinStrings [','] (user.sessions.map ProfileSession.serialize) := by
    apply notMem_joinStrings (by decide)
    intro text member
    obtain ⟨session, inside, shape⟩ := List.mem_map.mp member
    simp only [← shape, ProfileSession.serialize, List.mem_append, List.mem_cons, not_or]
    exact ⟨countFree _, by decide, (plain.sessions session inside).notMem line⟩
  simp only [serializeUser, User.serialize, plain.named, List.mem_append, List.mem_cons, not_or]
  exact ⟨nameFree, by decide, idFree, by decide, nameFree, by decide, countFree _, by decide,
    followersFree, by decide, countFree _, by decide, sessionsFree⟩

theorem splitFirst_serializeUser (plain : PlainUser name user) :
    splitFirst (serializeUser (name, user)) [' '] = (name, user.serialize) :=
  splitFirst_append _ (plain.plain.notMem (by decide))

/-- One line is one turn of the loop. -/
theorem readUserLines_cons (plain : PlainUser name user) (users : UnorderedMap Text User)
    (rest : List Text) :
    readUserLines users (serializeUser (name, user) :: rest) =
      if ShortList user then
        if user.isValid then readUserLines (users.emplace name (withoutSessions user)) rest
        else readUserLines users rest
      else .error .outOfRange := by
  have some : 0 < (serializeUser (name, user)).length := by
    rw [serializeUser, List.length_append, List.length_cons]
    omega
  rw [readUserLines, if_pos some, splitFirst_serializeUser plain]
  dsimp only
  rw [deserialize_serialize_user plain]
  by_cases short : ShortList user
  · rw [if_pos short, if_pos short]
    rfl
  · rw [if_neg short, if_neg short]

def lines (entries : List (Text × User)) : List Text := entries.map serializeUser ++ [[]]

/-- The users that survive the transfer. -/
def survivors (entries : List (Text × User)) : List (Text × User) :=
  (entries.filter fun entry => entry.2.isValid).map fun entry => (entry.1, withoutSessions entry.2)

theorem readUserLines_lines (entries : List (Text × User))
    (plain : ∀ entry ∈ entries, PlainUser entry.1 entry.2)
    (short : ∀ entry ∈ entries, ShortList entry.2) (distinct : (entries.map Prod.fst).Nodup)
    (users : UnorderedMap Text User) (fresh : ∀ entry ∈ entries, entry.1 ∉ users) :
    ∃ copy, readUserLines users (lines entries) = .ok copy ∧
      copy.entries = users.entries ++ survivors entries := by
  induction entries generalizing users with
  | nil => exact ⟨users, rfl, (List.append_nil _).symm⟩
  | cons entry rest ih =>
    obtain ⟨name, user⟩ := entry
    obtain ⟨absent, distinctRest⟩ := List.nodup_cons.mp distinct
    have plainRest := fun other member => plain other (List.mem_cons_of_mem (name, user) member)
    have shortRest := fun other member => short other (List.mem_cons_of_mem (name, user) member)
    have freshRest := fun other member => fresh other (List.mem_cons_of_mem (name, user) member)
    have here : name ∉ users := fresh (name, user) List.mem_cons_self
    have turn := readUserLines_cons (plain (name, user) List.mem_cons_self) users (lines rest)
    rw [if_pos (short (name, user) List.mem_cons_self)] at turn
    by_cases valid : user.isValid = true
    · have freshNext : ∀ other ∈ rest, other.1 ∉ users.emplace name (withoutSessions user) := by
        intro other member
        rw [UnorderedMap.mem_emplace, not_or]
        exact ⟨fun same => absent (List.mem_map.mpr ⟨other, member, same⟩), freshRest other member⟩
      obtain ⟨copy, result, shape⟩ := ih plainRest shortRest distinctRest _ freshNext
      refine ⟨copy, ?_, ?_⟩
      · rw [lines, List.map_cons, List.cons_append, ← lines, turn, if_pos valid, result]
      · rw [shape, UnorderedMap.entries_emplace_of_notMem _ _ _ here]
        simp [survivors, valid]
    · obtain ⟨copy, result, shape⟩ := ih plainRest shortRest distinctRest users freshRest
      refine ⟨copy, ?_, ?_⟩
      · rw [lines, List.map_cons, List.cons_append, ← lines, turn, if_neg valid, result]
      · rw [shape]
        simp [survivors, valid]

theorem readUserLines_long (entries : List (Text × User))
    (plain : ∀ entry ∈ entries, PlainUser entry.1 entry.2)
    (long : ∃ entry ∈ entries, ¬ ShortList entry.2) (users : UnorderedMap Text User) :
    readUserLines users (lines entries) = .error .outOfRange := by
  induction entries generalizing users with
  | nil => simp at long
  | cons entry rest ih =>
    obtain ⟨name, user⟩ := entry
    rw [lines, List.map_cons, List.cons_append, ← lines,
      readUserLines_cons (plain (name, user) List.mem_cons_self)]
    by_cases short : ShortList user
    · have later : ∃ entry ∈ rest, ¬ ShortList entry.2 := by
        obtain ⟨other, member, tooLong⟩ := long
        rcases List.mem_cons.mp member with first | inside
        · exact absurd (first ▸ short) tooLong
        · exact ⟨other, inside, tooLong⟩
      have plainRest := fun other member => plain other (List.mem_cons_of_mem (name, user) member)
      rw [if_pos short, ih plainRest later, ih plainRest later, ite_self]
    · rw [if_neg short]

end Encoding

/-- Decoding the encoded state gives the same users with the same followers. -/
def RoundTrips (manager : ProfileManager) : Prop :=
  ∃ copy, deserialize manager.serialize = .ok copy ∧
    (∀ name, name ∈ copy.users ↔ name ∈ manager.users) ∧
    ∀ name, copy.followersOf name = manager.followersOf name

/-- Every user passes the test of the decoder. -/
def Sendable (manager : ProfileManager) : Prop :=
  ∀ name user, manager.users.lookup name = some user → user.isValid = true ∧ ShortList user

section Transfer

variable {manager : ProfileManager}

private theorem Plain.entry (plain : manager.Plain) :
    ∀ entry ∈ manager.users.entries, PlainUser entry.1 entry.2 :=
  fun entry member => plain entry.1 entry.2 (UnorderedMap.lookup_eq_some.mpr member)

theorem deserialize_serialize (plain : manager.Plain) :
    deserialize manager.serialize =
      match readUserLines ∅ (lines manager.users.entries) with
      | .error fault => .error fault
      | .ok users => .ok { users } := by
  have text : manager.serialize =
      (manager.users.entries.map serializeUser).flatMap (· ++ [newline]) := by
    rw [serialize, List.flatMap_map]
  have free : ∀ line ∈ manager.users.entries.map serializeUser, newline ∉ line := by
    intro line member
    obtain ⟨entry, inside, shape⟩ := List.mem_map.mp member
    exact shape ▸ newline_notMem_serializeUser (plain.entry entry inside)
  rewrite [deserialize, text, split_lines _ free, lines]
  rfl

theorem Sendable.roundTrips (plain : manager.Plain) (sendable : manager.Sendable) :
    manager.RoundTrips := by
  have each : ∀ entry ∈ manager.users.entries, entry.2.isValid = true ∧ ShortList entry.2 :=
    fun entry member => sendable entry.1 entry.2 (UnorderedMap.lookup_eq_some.mpr member)
  obtain ⟨copy, result, shape⟩ := readUserLines_lines manager.users.entries plain.entry
    (fun entry member => (each entry member).2) manager.users.distinct ∅ (by simp)
  have everyone : survivors manager.users.entries =
      manager.users.entries.map fun entry => (entry.1, withoutSessions entry.2) := by
    rw [survivors, List.filter_eq_self.mpr fun entry member => (each entry member).1]
  rw [UnorderedMap.entries_empty, List.nil_append, everyone] at shape
  have lookup := UnorderedMap.lookup_map withoutSessions shape
  have names : ∀ name, name ∈ copy ↔ name ∈ manager.users := by
    intro name
    rw [← UnorderedMap.lookup_isSome, ← UnorderedMap.lookup_isSome, lookup, Option.isSome_map]
  refine ⟨{ users := copy }, by rw [deserialize_serialize plain, result], names, ?_⟩
  intro name
  rw [followersOf, followersOf]
  by_cases present : name ∈ manager.users
  · obtain ⟨user, found⟩ := UnorderedMap.lookup_of_mem present
    rw [if_pos present, if_pos ((names name).mpr present), userOf, userOf, lookup, found]
    rfl
  · rw [if_neg present, if_neg fun copied => present ((names name).mp copied)]

theorem RoundTrips.sendable (plain : manager.Plain) (roundTrips : manager.RoundTrips) :
    manager.Sendable := by
  obtain ⟨copy, decoded, names, -⟩ := roundTrips
  rw [deserialize_serialize plain] at decoded
  have short : ∀ entry ∈ manager.users.entries, ShortList entry.2 := by
    by_contra long
    push Not at long
    rw [readUserLines_long _ plain.entry long] at decoded
    cases decoded
  obtain ⟨users, result, shape⟩ := readUserLines_lines manager.users.entries plain.entry short
    manager.users.distinct ∅ (by simp)
  rw [result] at decoded
  have same : users = copy.users := congrArg ProfileManager.users (Except.ok.inj decoded)
  rw [UnorderedMap.entries_empty, List.nil_append] at shape
  intro name user found
  have entry := UnorderedMap.lookup_eq_some.mp found
  refine ⟨?_, short _ entry⟩
  -- the copy has the name, and only valid users were put into it
  obtain ⟨copied, inside⟩ := UnorderedMap.lookup_of_mem
    ((names name).mpr (UnorderedMap.mem_of_lookup found))
  rw [UnorderedMap.lookup_eq_some, ← same, shape] at inside
  obtain ⟨source, kept, image⟩ := List.mem_map.mp inside
  obtain ⟨member, valid⟩ := List.mem_filter.mp kept
  have key : source.1 = name := congrArg Prod.fst image
  have original := UnorderedMap.lookup_eq_some.mpr member
  rw [key, found] at original
  exact Option.some.inj original ▸ valid

end Transfer

/-- Names are plain where a session starts; the other calls can only name users. -/
def AdmissibleCall : ProfileOperation → Prop
  | .startSession username session => PlainName username ∧ PlainName session.username
  | _ => True

instance : (operation : ProfileOperation) → Decidable (AdmissibleCall operation)
  | .startSession _ _ => inferInstanceAs (Decidable (_ ∧ _))
  | .closeSession _ _ | .follow _ _ => isTrue trivial

def step (onUpdateCallback : ProfileManager → Bool) (manager : ProfileManager)
    (operation : ProfileOperation) : Option ProfileManager :=
  if AdmissibleCall operation then some (manager.call onUpdateCallback operation).manager else none

/-- What keeps users transferable: a new user finds others there, so that its id
is positive, and no list grows past what an `int` can count. -/
def KeepsIds (manager : ProfileManager) : ProfileOperation → Prop
  | .startSession username _ =>
    username ∉ manager.users → 0 < int32 manager.users.entries.length
  | .follow follower userToFollow =>
    follower ∈ manager.users → userToFollow ∈ manager.users → userToFollow ≠ follower →
      follower ∉ (manager.userOf userToFollow).followers →
        (manager.userOf userToFollow).followers.length + 1 < 2 ^ 31
  | .closeSession _ _ => True

instance (manager : ProfileManager) : (operation : ProfileOperation) →
    Decidable (KeepsIds manager operation)
  | .startSession _ _ => inferInstanceAs (Decidable (_ → _))
  | .follow _ _ => inferInstanceAs (Decidable (_ → _))
  | .closeSession _ _ => isTrue trivial

/-- Where a history begins: the users of some file, whose names are plain. A
missing file has no users. -/
def Loaded (manager : ProfileManager) : Prop :=
  (∃ file, ProfilePersistency.readUsers file = .ok manager.users) ∧
    ∀ name user, manager.users.lookup name = some user →
      PlainName name ∧ ∀ follower ∈ user.followers, PlainName follower

theorem loaded_empty : Loaded {} :=
  ⟨⟨none, rfl⟩, by intro name user found; cases found⟩

section Loading

/-- Loaded users are stored under their own names, without sessions. -/
theorem loadRows_stored {loaded : UnorderedMap Text User} (rows : List (List Text)) (userId : Nat)
    (users : UnorderedMap Text User)
    (result : ProfilePersistency.loadRows userId users rows = .ok loaded)
    (stored : ∀ name user, users.lookup name = some user →
      user.username = name ∧ user.sessions = [] ∧ IsInt user.id) :
    ∀ name user, loaded.lookup name = some user →
      user.username = name ∧ user.sessions = [] ∧ IsInt user.id := by
  induction rows generalizing userId users with
  | nil => exact Except.ok.inj result ▸ stored
  | cons row rest ih =>
    cases row with
    | nil => cases result
    | cons username followers =>
      obtain ⟨id, sameName, sessions⟩ :=
        User.frame_addFollowers followers { id := int32 userId, username }
      apply ih _ _ result
      intro name user found
      rw [UnorderedMap.lookup_emplace] at found
      split at found
      next new =>
        rw [← Option.some.inj found, new.1]
        exact ⟨sameName, sessions, id ▸ isInt_int32 userId⟩
      next => exact stored name user found

theorem Loaded.plain {manager : ProfileManager} (loaded : manager.Loaded) : manager.Plain := by
  obtain ⟨⟨file, result⟩, names⟩ := loaded
  intro name user found
  obtain ⟨username, sessions, id⟩ := loadRows_stored _ 1 ∅ result (by simp) name user found
  obtain ⟨plain, followers⟩ := names name user found
  exact ⟨username, plain, followers, by simp [sessions], id⟩

end Loading

section Steps

variable {manager : ProfileManager}

theorem Plain.setUser (plain : manager.Plain) {username : Text} {stored : User}
    (present : manager.users.lookup username = some stored) {user : User}
    (fits : PlainUser username user) : (manager.setUser username user).Plain := by
  intro name other found
  rw [lookup_setUser present] at found
  split at found
  next same =>
    rw [same, ← Option.some.inj found]
    exact fits
  next => exact plain name other found

/-- One user is changed: the others stay as sendable as they were. -/
theorem sendable_setUser {username : Text} {stored : User}
    (present : manager.users.lookup username = some stored) {user : User} (condition : Prop)
    (passes : user.isValid = true ∧ ShortList user ↔
      (stored.isValid = true ∧ ShortList stored) ∧ condition) :
    (manager.setUser username user).Sendable ↔ manager.Sendable ∧ condition := by
  constructor
  · intro sendable
    obtain ⟨before, holds⟩ := passes.mp
      (sendable username user (by rw [lookup_setUser present, if_pos rfl]))
    refine ⟨?_, holds⟩
    intro name other found
    by_cases same : name = username
    · subst same
      rw [present] at found
      exact Option.some.inj found ▸ before
    · exact sendable name other (by rw [lookup_setUser present, if_neg same, found])
  · rintro ⟨sendable, holds⟩ name other found
    rw [lookup_setUser present] at found
    split at found
    next => exact Option.some.inj found ▸ passes.mpr ⟨sendable username stored present, holds⟩
    next => exact sendable name other found

theorem mem_sessions_addSession (user : User) (session other : ProfileSession)
    (member : other ∈ (user.addSession session).1.sessions) :
    other ∈ user.sessions ∨ other = session := by
  unfold User.addSession at member
  split at member
  next => simpa using member
  next => exact Or.inl member

theorem mem_sessions_removeSession (user : User) (id : Nat) (other : ProfileSession)
    (member : other ∈ (user.removeSession id).sessions) : other ∈ user.sessions := by
  unfold User.removeSession at member
  split at member
  next => exact List.mem_of_mem_tail member
  next =>
    split at member
    next => exact List.dropLast_subset _ member
    next => exact member

theorem length_addFollower (user : User) (follower : Text) :
    (user.addFollower follower).1.followers.length =
      user.followers.length + if (user.addFollower follower).2 then 1 else 0 := by
  unfold User.addFollower
  by_cases self : user.username = follower
  · simp [self]
  · by_cases member : follower ∈ user.followers
    · simp [self, member, User.binarySearch_sorted]
    · simp [self, member, User.binarySearch_sorted]

theorem Plain.closeSession (plain : manager.Plain) (username : Text) (id : Nat) :
    (manager.closeSession username id).Plain ∧
      ((manager.closeSession username id).Sendable ↔ manager.Sendable) := by
  unfold ProfileManager.closeSession
  by_cases member : username ∈ manager.users
  · obtain ⟨stored, present⟩ := UnorderedMap.lookup_of_mem member
    have user : manager.userOf username = stored := by rw [userOf, present, Option.getD_some]
    obtain ⟨sameId, sameName, sameFollowers⟩ := User.frame_removeSession stored id
    have before := plain username stored present
    rw [if_pos member, user]
    constructor
    · apply plain.setUser present
      exact ⟨sameName.trans before.named, before.plain, sameFollowers ▸ before.followers,
        fun session inside => before.sessions session (mem_sessions_removeSession _ _ _ inside),
        sameId ▸ before.id⟩
    · rw [sendable_setUser present True, and_true]
      rw [User.isValid, ShortList, sameId, sameName, sameFollowers, and_true]
      rfl
  · rw [if_neg member]
    exact ⟨plain, Iff.rfl⟩

theorem Plain.startSession (plain : manager.Plain) (onUpdateCallback : ProfileManager → Bool)
    {username : Text} {session : ProfileSession} (name : PlainName username)
    (sessionName : PlainName session.username) :
    (manager.startSession onUpdateCallback username session).manager.Plain ∧
      ((manager.startSession onUpdateCallback username session).manager.Sendable ↔
        manager.Sendable ∧ KeepsIds manager (.startSession username session)) := by
  unfold ProfileManager.startSession
  by_cases member : username ∈ manager.users
  · obtain ⟨stored, present⟩ := UnorderedMap.lookup_of_mem member
    have user : manager.userOf username = stored := by rw [userOf, present, Option.getD_some]
    obtain ⟨sameId, sameName, sameFollowers⟩ := User.frame_addSession stored session
    have before := plain username stored present
    rw [if_pos member, user]
    constructor
    · apply plain.setUser present
      refine ⟨sameName.trans before.named, before.plain, sameFollowers ▸ before.followers, ?_,
        sameId ▸ before.id⟩
      intro other inside
      rcases mem_sessions_addSession stored session other inside with old | new
      · exact before.sessions other old
      · exact new ▸ sessionName
    · have harmless : KeepsIds manager (.startSession username session) :=
        fun absent => absurd member absent
      rw [sendable_setUser present True, and_true, and_iff_left harmless]
      rw [User.isValid, ShortList, sameId, sameName, sameFollowers, and_true]
      rfl
  · obtain ⟨sameId, sameName, nobody⟩ := User.frame_addSession
      ({ id := int32 manager.users.entries.length, username } : User) session
    have found : ∀ other user, (manager.users.emplace username
        (manager.newUser username session)).lookup other = some user ↔
        (other = username ∧ manager.newUser username session = user) ∨
          manager.users.lookup other = some user := by
      intro other user
      rw [UnorderedMap.lookup_emplace]
      by_cases here : other = username
      · simp [here, member, UnorderedMap.lookup_eq_none.mpr member]
      · simp [here]
    rw [if_neg member]
    constructor
    · intro other user stored
      rcases (found other user).mp stored with ⟨here, new⟩ | old
      · rw [here, ← new]
        refine ⟨sameName, name, by simp [newUser, nobody], ?_, sameId ▸ isInt_int32 _⟩
        intro entry inside
        rcases mem_sessions_addSession _ session entry inside with old | new
        · cases old
        · exact new ▸ sessionName
      · exact plain other user old
    · have passes : (manager.newUser username session).isValid = true ∧
          ShortList (manager.newUser username session) ↔
            0 < int32 manager.users.entries.length := by
        have length := List.length_pos_iff.mpr name.1
        rw [User.isValid, ShortList, newUser, sameId, sameName, nobody]
        simp [length]
      constructor
      · intro sendable
        refine ⟨fun other user old => sendable other user ((found other user).mpr (Or.inr old)), ?_⟩
        exact fun _ => passes.mp (sendable username _ ((found username _).mpr (Or.inl ⟨rfl, rfl⟩)))
      · rintro ⟨sendable, positive⟩ other user stored
        rcases (found other user).mp stored with ⟨-, new⟩ | old
        · exact new ▸ passes.mpr (positive member)
        · exact sendable other user old

theorem Plain.follow (plain : manager.Plain) (onUpdateCallback : ProfileManager → Bool)
    (follower userToFollow : Text) :
    (manager.follow onUpdateCallback follower userToFollow).manager.Plain ∧
      ((manager.follow onUpdateCallback follower userToFollow).manager.Sendable ↔
        manager.Sendable ∧ KeepsIds manager (.follow follower userToFollow)) := by
  by_cases both : follower ∈ manager.users ∧ userToFollow ∈ manager.users
  · obtain ⟨stored, present⟩ := UnorderedMap.lookup_of_mem both.2
    have user : manager.userOf userToFollow = stored := by rw [userOf, present, Option.getD_some]
    have next : (manager.follow onUpdateCallback follower userToFollow).manager =
        manager.setUser userToFollow (stored.addFollower follower).1 := by
      rw [ProfileManager.follow, if_pos both, user]
      dsimp only
      split <;> rfl
    obtain ⟨sameId, sameName, sameSessions⟩ := User.frame_addFollower stored follower
    have before := plain userToFollow stored present
    rw [next]
    constructor
    · apply plain.setUser present
      refine ⟨sameName.trans before.named, before.plain, ?_, sameSessions ▸ before.sessions,
        sameId ▸ before.id⟩
      intro other inside
      rcases (User.mem_followers_addFollower stored follower other).mp inside with old | ⟨-, new⟩
      · exact before.followers other old
      · obtain ⟨account, known⟩ := UnorderedMap.lookup_of_mem both.1
        exact new ▸ (plain follower account known).plain
    · apply sendable_setUser present (KeepsIds manager (.follow follower userToFollow))
      have length := length_addFollower stored follower
      have adds := User.addFollower_eq stored follower
      rw [before.named] at adds
      have condition : KeepsIds manager (.follow follower userToFollow) ↔
          ((stored.addFollower follower).2 = true → stored.followers.length + 1 < 2 ^ 31) := by
        rw [KeepsIds, user, adds]
        exact ⟨fun keeps added => keeps both.1 both.2 added.1 added.2,
          fun keeps _ _ different absent => keeps ⟨different, absent⟩⟩
      rw [condition, User.isValid, ShortList, sameId, sameName, length, User.isValid, ShortList]
      cases (stored.addFollower follower).2 with
      | false => simp
      | true =>
        constructor
        · rintro ⟨valid, short⟩
          exact ⟨⟨valid, by simp at short; omega⟩, fun _ => short⟩
        · rintro ⟨⟨valid, _⟩, short⟩
          exact ⟨valid, short rfl⟩
  · have harmless : KeepsIds manager (.follow follower userToFollow) :=
      fun here there => absurd ⟨here, there⟩ both
    rw [ProfileManager.follow, if_neg both, and_iff_left harmless]
    exact ⟨plain, Iff.rfl⟩

/-- One operation: the names stay plain, and the condition is exactly what a
sendable state needs to stay sendable. -/
theorem Plain.step (plain : manager.Plain) (onUpdateCallback : ProfileManager → Bool)
    {operation : ProfileOperation} {next : ProfileManager}
    (taken : ProfileManager.step onUpdateCallback manager operation = some next) :
    next.Plain ∧ (next.Sendable ↔ manager.Sendable ∧ KeepsIds manager operation) := by
  unfold ProfileManager.step at taken
  split at taken
  next admissible =>
    rw [← Option.some.inj taken]
    cases operation with
    | startSession username session =>
      exact plain.startSession onUpdateCallback admissible.1 admissible.2
    | closeSession username id =>
      obtain ⟨plainNext, same⟩ := plain.closeSession username id
      exact ⟨plainNext, same.trans (and_iff_left trivial).symm⟩
    | follow follower userToFollow => exact plain.follow onUpdateCallback follower userToFollow
  next => cases taken

theorem Plain.run (plain : manager.Plain) (onUpdateCallback : ProfileManager → Bool)
    {operations : List ProfileOperation} {final : ProfileManager}
    (reached : Foundation.run (ProfileManager.step onUpdateCallback) manager operations = some final) :
    final.Plain ∧ (final.Sendable ↔ manager.Sendable ∧
      AllMeet (ProfileManager.step onUpdateCallback) KeepsIds manager operations) := by
  induction operations generalizing manager with
  | nil => exact Option.some.inj reached ▸ ⟨plain, (and_iff_left trivial).symm⟩
  | cons operation rest ih =>
    obtain ⟨next, taken, after⟩ := run_cons.mp reached
    obtain ⟨plainNext, here⟩ := plain.step onUpdateCallback taken
    obtain ⟨plainFinal, later⟩ := ih plainNext after
    refine ⟨plainFinal, ?_⟩
    rw [later, here, AllMeet, taken, and_assoc]
    simp

end Steps

/-- The state of a running server survives the transfer exactly when its history
kept the condition: nobody was the first user of an empty store, and no list of
followers outgrew an `int`. -/
theorem roundTrips_of_run (onUpdateCallback : ProfileManager → Bool) (start : ProfileManager)
    (loaded : start.Loaded) (operations : List ProfileOperation) (final : ProfileManager)
    (reached : run (ProfileManager.step onUpdateCallback) start operations = some final) :
    final.RoundTrips ↔ start.Sendable ∧
      AllMeet (ProfileManager.step onUpdateCallback) KeepsIds start operations := by
  obtain ⟨plain, sendable⟩ := loaded.plain.run onUpdateCallback reached
  rw [← sendable]
  exact ⟨fun roundTrips => roundTrips.sendable plain, fun passes => passes.roundTrips plain⟩

/-- One user in the file, a second one logs in and follows the first. -/
def sampleTransfer : List ProfileOperation :=
  [.startSession ['b'] ⟨8, ['b']⟩, .follow ['b'] ['a', 'n', 'a'], .closeSession ['b'] 8]

def sampleLoaded : ProfileManager :=
  { users := (∅ : UnorderedMap Text User).emplace ['a', 'n', 'a']
      { id := 1, username := ['a', 'n', 'a'] } }

theorem roundTrips_of_sampleTransfer :
    ∃ final, run (ProfileManager.step fun _ => true) sampleLoaded sampleTransfer = some final ∧
      final.RoundTrips := by
  have stored : ∀ name user, sampleLoaded.users.lookup name = some user →
      (name, user) = (['a', 'n', 'a'], { id := 1, username := ['a', 'n', 'a'] }) :=
    fun name user found => List.mem_singleton.mp (UnorderedMap.lookup_eq_some.mp found)
  have loaded : sampleLoaded.Loaded := by
    refine ⟨⟨some ['a', 'n', 'a'], rfl⟩, ?_⟩
    intro name user found
    obtain ⟨rfl, rfl⟩ := Prod.mk.inj (stored name user found)
    exact ⟨by decide, by simp⟩
  have sendable : sampleLoaded.Sendable := by
    intro name user found
    obtain ⟨rfl, rfl⟩ := Prod.mk.inj (stored name user found)
    decide
  exact ⟨_, rfl, (roundTrips_of_run (fun _ => true) sampleLoaded loaded sampleTransfer _ rfl).mpr
    ⟨sendable, by decide⟩⟩

/-- The first user of an empty store gets id 0, which the decoder refuses. -/
theorem not_roundTrips_firstUser :
    Loaded {} ∧ ∃ final, run (ProfileManager.step fun _ => true) {}
        [.startSession ['a', 'n', 'a'] ⟨7, ['a', 'n', 'a']⟩] = some final ∧ ¬ final.RoundTrips := by
  refine ⟨loaded_empty, _, rfl, ?_⟩
  rintro ⟨copy, decoded, names, -⟩
  have nobody : ({} : ProfileManager) = copy := Except.ok.inj decoded
  have present : ['a', 'n', 'a'] ∈ copy.users := (names _).mpr (by decide)
  rw [← nobody] at present
  cases present

end ProfileManager

end TwitterClone
