import TwitterClone.Csv.Csv
import TwitterClone.Profile.Manager

/-! The user file, and the manager together with it: one row for each user, the
name first and then the followers. -/
namespace TwitterClone

open Foundation

namespace ProfilePersistency

def splitMark : Char := ';'

/-- The loop over the rows; a row without columns has no first one. -/
def loadRows : Nat → UnorderedMap Text User → List (List Text) →
    Except Fault (UnorderedMap Text User)
  | _, users, [] => .ok users
  | _, _, [] :: _ => .error .badIndex
  | userId, users, (username :: followers) :: rest =>
    let user := followers.foldl (fun user follower => (user.addFollower follower).1)
      ({ id := int32 userId, username } : User)
    loadRows (userId + 1) (users.emplace username user) rest

def readUsers (file : Option Text) : Except Fault (UnorderedMap Text User) :=
  loadRows 1 ∅ (Csv.readAll splitMark file)

def saveNewUser (file : Option Text) (user : Text) : Except Fault (Option Text) :=
  match Csv.append splitMark (Csv.openFile file) [user] with
  | .error fault => .error fault
  | .ok (content, _) => .ok (some content)

def saveNewFollower (file : Option Text) (user follower : Text) : Except Fault (Option Text) :=
  match Csv.appendToLine splitMark (Csv.openFile file) 0 user [follower] with
  | .error fault => .error fault
  | .ok (content, _) => .ok (some content)

def save (file : Option Text) : Save → Except Fault (Option Text)
  | .newUser user => saveNewUser file user
  | .newFollower user follower => saveNewFollower file user follower

def saveAll : Option Text → List Save → Except Fault (Option Text)
  | file, [] => .ok file
  | file, first :: rest =>
    match save file first with
    | .error fault => .error fault
    | .ok file => saveAll file rest

end ProfilePersistency

/-- The public calls of the profile manager that change its state. -/
inductive ProfileOperation where
  | startSession (username : Text) (session : ProfileSession)
  | closeSession (username : Text) (id : Nat)
  | follow (follower userToFollow : Text)
  deriving DecidableEq

def ProfileManager.call (onUpdateCallback : ProfileManager → Bool) (manager : ProfileManager) :
    ProfileOperation → ProfileCall
  | .startSession username session => manager.startSession onUpdateCallback username session
  | .closeSession username id => { manager := manager.closeSession username id, success := true }
  | .follow follower userToFollow => manager.follow onUpdateCallback follower userToFollow

/-- A name in which none of the separators occurs. -/
def NameWithout (separators : List Char) (name : Text) : Prop :=
  name ≠ [] ∧ ∀ separator ∈ separators, separator ∉ name

instance (separators : List Char) (name : Text) : Decidable (NameWithout separators name) :=
  letI : Decidable (∀ separator ∈ separators, separator ∉ name) := List.decidableBAll _ separators
  inferInstanceAs (Decidable (_ ∧ _))

/-- New names have no separators in them; a follow can only name registered users. -/
def ProfileOperation.Admissible (separators : List Char) : ProfileOperation → Prop
  | .startSession username _ => NameWithout separators username
  | _ => True

instance (separators : List Char) : (operation : ProfileOperation) →
    Decidable (operation.Admissible separators)
  | .startSession username _ => inferInstanceAs (Decidable (NameWithout separators username))
  | .closeSession _ _ | .follow _ _ => isTrue trivial

/-- The manager of a running server and the user file. -/
structure Store where
  manager : ProfileManager := {}
  file : Option Text := none

/-- What happens to a store: a call, or a restart that loads the users anew. -/
inductive StoreOperation where
  | call (operation : ProfileOperation)
  | loadUsers
  deriving DecidableEq

namespace Store

def apply (onUpdateCallback : ProfileManager → Bool) (store : Store) :
    StoreOperation → Except Fault Store
  | .call operation =>
    let call := store.manager.call onUpdateCallback operation
    match ProfilePersistency.saveAll store.file call.saves with
    | .error fault => .error fault
    | .ok file => .ok { manager := call.manager, file }
  | .loadUsers =>
    match ProfilePersistency.readUsers store.file with
    | .error fault => .error fault
    | .ok users => .ok { store with manager := { users } }

/-- The bytes that separate names in the file. -/
def separators : List Char := [ProfilePersistency.splitMark, newline]

def Admissible : StoreOperation → Prop
  | .call operation => operation.Admissible separators
  | .loadUsers => True

instance : (operation : StoreOperation) → Decidable (Admissible operation)
  | .call operation => inferInstanceAs (Decidable (operation.Admissible separators))
  | .loadUsers => isTrue trivial

def step (onUpdateCallback : ProfileManager → Bool) (store : Store) (operation : StoreOperation) :
    Option Store :=
  if Admissible operation then (store.apply onUpdateCallback operation).toOption else none

end Store

end TwitterClone
