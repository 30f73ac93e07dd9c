import TwitterClone.Foundation.Scan
import TwitterClone.Foundation.SortedSearch
import TwitterClone.Utils.Strings

/-! Users with their followers and sessions. -/
namespace TwitterClone

open Foundation

structure ProfileSession where
  threadId : Nat
  username : Text
  deriving DecidableEq, Repr

def ProfileSession.serialize (session : ProfileSession) : Text :=
  showNat session.threadId ++ ' ' :: session.username

structure User where
  id : Int := -1
  username : Text := []
  followers : List Text := []
  sessions : List ProfileSession := []
  deriving DecidableEq, Repr

namespace User

def maxSessionsPerUser : Nat := 2

/-- The order in which names are sorted. -/
def nameLe (first second : Text) : Prop := first ≤ second

instance : DecidableRel nameLe := fun first second =>
  inferInstanceAs (Decidable (first ≤ second))

instance : Std.Total nameLe := ⟨le_total⟩

instance : IsTrans Text nameLe := ⟨fun _ _ _ => le_trans⟩

/-- The list is sorted before it is searched, so a refused follower may leave it
in another order. -/
def addFollower (user : User) (follower : Text) : User × Bool :=
  if user.username = follower then (user, false)
  else
    let followers := user.followers.insertionSort nameLe
    if binarySearch follower followers then ({ user with followers }, false)
    else ({ user with followers := followers ++ [follower] }, true)

def addSession (user : User) (session : ProfileSession) : User × Bool :=
  if user.sessions.length < maxSessionsPerUser then
    ({ user with sessions := user.sessions ++ [session] }, true)
  else (user, false)

/-- Only the first and the last session are looked at. -/
def removeSession (user : User) (id : Nat) : User :=
  if user.sessions.head?.map ProfileSession.threadId = some id then
    { user with sessions := user.sessions.tail }
  else if user.sessions.getLast?.map ProfileSession.threadId = some id then
    { user with sessions := user.sessions.dropLast }
  else user

def isValid (user : User) : Bool := 0 < user.id && 0 < user.username.length

def serialize (user : User) : Text :=
  showInt user.id ++ ' ' :: (user.username ++ ' ' ::
    (showNat user.followers.length ++ ' ' :: (joinStrings [','] user.followers ++ ' ' ::
      (showNat user.sessions.length ++ ' ' ::
        joinStrings [','] (user.sessions.map ProfileSession.serialize)))))

/-- With fewer than six fields the user keeps its defaults. -/
def deserialize (user : User) (raw : Text) : Except Fault User :=
  match split raw [' '] with
  | id :: username :: followersSize :: followers :: _ :: _ :: _ =>
    match stoi id with
    | .error fault => .error fault
    | .ok id =>
      match stoi followersSize with
      | .error fault => .error fault
      | .ok followersSize =>
        .ok { user with
          id, username
          followers := if 0 < followersSize then split followers [','] else user.followers }
  | _ => .ok user

/-- The search runs on the sorted list, where it is membership. -/
theorem binarySearch_sorted (followers : List Text) (follower : Text) :
    binarySearch follower (followers.insertionSort nameLe) = true ↔ follower ∈ followers := by
  have sorted : (followers.insertionSort nameLe).Pairwise (· ≤ ·) :=
    List.pairwise_insertionSort nameLe followers
  rw [binarySearch_iff_mem sorted, List.mem_insertionSort]

theorem addFollower_eq (user : User) (follower : Text) :
    (user.addFollower follower).2 = true ↔
      user.username ≠ follower ∧ follower ∉ user.followers := by
  unfold addFollower
  by_cases self : user.username = follower
  · simp [self]
  · by_cases member : follower ∈ user.followers
    · simp [self, member, binarySearch_sorted]
    · simp [self, member, binarySearch_sorted]

theorem mem_followers_addFollower (user : User) (follower name : Text) :
    name ∈ (user.addFollower follower).1.followers ↔
      name ∈ user.followers ∨ (user.addFollower follower).2 = true ∧ name = follower := by
  unfold addFollower
  by_cases self : user.username = follower
  · simp [self]
  · by_cases member : follower ∈ user.followers
    · simp [self, member, binarySearch_sorted]
    · simp [self, member, binarySearch_sorted]

theorem frame_addFollower (user : User) (follower : Text) :
    (user.addFollower follower).1.id = user.id ∧
      (user.addFollower follower).1.username = user.username ∧
      (user.addFollower follower).1.sessions = user.sessions := by
  unfold addFollower
  split
  · exact ⟨rfl, rfl, rfl⟩
  · dsimp only
    split <;> exact ⟨rfl, rfl, rfl⟩

theorem frame_addFollowers (followers : List Text) (user : User) :
    (followers.foldl (fun user follower => (user.addFollower follower).1) user).id = user.id ∧
      (followers.foldl (fun user follower => (user.addFollower follower).1) user).username =
        user.username ∧
      (followers.foldl (fun user follower => (user.addFollower follower).1) user).sessions =
        user.sessions := by
  induction followers generalizing user with
  | nil => exact ⟨rfl, rfl, rfl⟩
  | cons follower rest ih =>
    obtain ⟨id, username, sessions⟩ := frame_addFollower user follower
    obtain ⟨idRest, usernameRest, sessionsRest⟩ := ih (user.addFollower follower).1
    exact ⟨idRest.trans id, usernameRest.trans username, sessionsRest.trans sessions⟩

theorem frame_addSession (user : User) (session : ProfileSession) :
    (user.addSession session).1.id = user.id ∧
      (user.addSession session).1.username = user.username ∧
      (user.addSession session).1.followers = user.followers := by
  unfold addSession
  split <;> exact ⟨rfl, rfl, rfl⟩

theorem frame_removeSession (user : User) (id : Nat) :
    (user.removeSession id).id = user.id ∧
      (user.removeSession id).username = user.username ∧
      (user.removeSession id).followers = user.followers := by
  unfold removeSession
  split
  · exact ⟨rfl, rfl, rfl⟩
  · split <;> exact ⟨rfl, rfl, rfl⟩

end User

end TwitterClone
