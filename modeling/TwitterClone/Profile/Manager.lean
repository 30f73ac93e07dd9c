import TwitterClone.Foundation.UnorderedMap
import TwitterClone.Profile.User

/-! The profile manager. Every public method holds the manager's mutex, so each
one is a single function; what it writes to the user file it hands on as saves. -/
namespace TwitterClone

open Foundation

structure ProfileManager where
  users : UnorderedMap Text User := ∅
  deriving DecidableEq

/-- The calls of the persistency object, whose results the manager ignores. -/
inductive Save where
  | newUser (user : Text)
  | newFollower (user follower : Text)
  deriving DecidableEq, Repr

/-- What one locked call leaves behind: the manager, its answer, the saves it
made and the managers handed to `onUpdateCallback`. -/
structure ProfileCall where
  manager : ProfileManager
  success : Bool
  saves : List Save := []
  updates : List ProfileManager := []

namespace ProfileManager

variable (onUpdateCallback : ProfileManager → Bool) (manager : ProfileManager)

/-- `m_users[username]` where the key is known to be present. -/
def userOf (username : Text) : User := (manager.users.lookup username).getD {}

def setUser (username : Text) (user : User) : ProfileManager where
  users := manager.users.modify username fun _ => user

def getAllUsernames : List Text := manager.users.keys

def followersOf (username : Text) : List Text :=
  if username ∈ manager.users then (manager.userOf username).followers else []

def follow (follower userToFollow : Text) : ProfileCall :=
  if follower ∈ manager.users ∧ userToFollow ∈ manager.users then
    let (user, success) := (manager.userOf userToFollow).addFollower follower
    let next := manager.setUser userToFollow user
    if success then
      { manager := next
        success := onUpdateCallback next
        saves := [.newFollower userToFollow follower]
        updates := [next] }
    else { manager := next, success := false }
  else { manager, success := false }

/-- A new user's id is the number of users so far, as an `int`. -/
def newUser (username : Text) (session : ProfileSession) : User :=
  (({ id := int32 manager.users.entries.length, username } : User).addSession session).1

def startSession (username : Text) (session : ProfileSession) : ProfileCall :=
  if username ∈ manager.users then
    let (user, success) := (manager.userOf username).addSession session
    { manager := manager.setUser username user, success }
  else
    let next : ProfileManager :=
      { users := manager.users.emplace username (manager.newUser username session) }
    { manager := next
      success := onUpdateCallback next
      saves := [.newUser username]
      updates := [next] }

def closeSession (username : Text) (id : Nat) : ProfileManager :=
  if username ∈ manager.users then
    manager.setUser username ((manager.userOf username).removeSession id)
  else manager

def serializeUser (entry : Text × User) : Text := entry.1 ++ ' ' :: entry.2.serialize

def serialize : Text :=
  manager.users.entries.flatMap fun entry => serializeUser entry ++ [newline]

/-- The loop over lines: a user that is not valid is dropped. -/
def readUserLines : UnorderedMap Text User → List Text → Except Fault (UnorderedMap Text User)
  | users, [] => .ok users
  | users, rawUser :: rest =>
    if 0 < rawUser.length then
      let (key, raw) := splitFirst rawUser [' ']
      match ({} : User).deserialize raw with
      | .error fault => .error fault
      | .ok user =>
        if user.isValid then readUserLines (users.emplace key user) rest
        else readUserLines users rest
    else readUserLines users rest

/-- The users are replaced as a whole; an exception leaves them as they were. -/
def deserialize (raw : Text) : Except Fault ProfileManager :=
  match readUserLines ∅ (split raw [newline]) with
  | .error fault => .error fault
  | .ok users => .ok { users }

section Access

variable {manager : ProfileManager}

theorem userOf_setUser {username : Text} (present : username ∈ manager.users) (user : User)
    (name : Text) :
    (manager.setUser username user).userOf name =
      if name = username then user else manager.userOf name := by
  obtain ⟨value, found⟩ := UnorderedMap.lookup_of_mem present
  simp only [userOf, setUser, UnorderedMap.lookup_modify]
  by_cases same : name = username
  · subst same
    simp [found]
  · simp [same]

theorem lookup_setUser {username : Text} {stored : User}
    (present : manager.users.lookup username = some stored) (user : User) (name : Text) :
    (manager.setUser username user).users.lookup name =
      if name = username then some user else manager.users.lookup name := by
  rw [setUser, UnorderedMap.lookup_modify]
  split
  next same => rw [same, present, Option.map_some]
  next => rfl

@[simp] theorem mem_setUser (username : Text) (user : User) (name : Text) :
    name ∈ (manager.setUser username user).users ↔ name ∈ manager.users := by
  simp [setUser]

end Access

end ProfileManager

end TwitterClone
