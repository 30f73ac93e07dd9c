import TwitterClone.Profile.Persistency

/-! The record of one user: six fields behind single spaces, some of which may be empty. -/
namespace TwitterClone

open Foundation

namespace User

/-- An `int` for an id, a name that is one field, and followers that are one item each. -/
structure RecordShaped (user : User) : Prop where
  id : IsInt user.id
  username : NameWithout [' '] user.username
  followers : ∀ follower ∈ user.followers, NameWithout [' ', ','] follower

/-- A fresh user gets the id, the name and the followers, in their order, and the decoder
finds enough fields. -/
def RecordRoundTrips (user : User) : Prop :=
  6 ≤ (split user.serialize [' ']).length ∧
    ∃ copy, ({} : User).deserialize user.serialize = .ok copy ∧ copy.id = user.id ∧
      copy.username = user.username ∧ copy.followers = user.followers

section Record

variable {user : User}

/-- The fields of a record. What the sessions fall apart into makes no difference. -/
theorem split_serialize (username : ' ' ∉ user.username)
    (followers : ∀ follower ∈ user.followers, ' ' ∉ follower) :
    ∃ session more, split user.serialize [' '] =
      showInt user.id :: user.username :: showNat user.followers.length ::
        joinStrings [','] user.followers :: showNat user.sessions.length :: session :: more := by
  have idFree : ' ' ∉ showInt user.id := notMem_showInt (by decide) (by decide) _
  have countFree : ∀ count, ' ' ∉ showNat count := notMem_showNat (by decide)
  have followersFree : ' ' ∉ joinStrings [','] user.followers :=
    notMem_joinStrings (by decide) followers
  obtain ⟨session, more, fields⟩ := List.exists_cons_of_ne_nil (split_ne_nil
    (joinStrings [','] (user.sessions.map ProfileSession.serialize)) [' '])
  refine ⟨session, more, ?_⟩
  rw [serialize, split_append _ idFree, split_append _ username, split_append _ (countFree _),
    split_append _ followersFree, split_append _ (countFree _), fields]

/-- The fields are read back, if the number of followers is one that can be read. -/
theorem deserialize_serialize (id : IsInt user.id) (username : ' ' ∉ user.username)
    (spaces : ∀ follower ∈ user.followers, ' ' ∉ follower)
    (commas : ∀ follower ∈ user.followers, ',' ∉ follower) :
    ({} : User).deserialize user.serialize =
      if user.followers.length < 2 ^ 31 then .ok { user with sessions := [] }
      else .error .outOfRange := by
  obtain ⟨session, more, fields⟩ := split_serialize username spaces
  rw [deserialize, fields]
  dsimp only
  rw [stoi_showInt id, stoi_showNat]
  by_cases short : user.followers.length < 2 ^ 31
  · have items : (if (0 : Int) < user.followers.length then
        split (joinStrings [','] user.followers) [','] else []) = user.followers := by
      by_cases nobody : user.followers = []
      · simp [nobody]
      · rw [if_pos (by exact_mod_cast List.length_pos_iff.mpr nobody),
          split_joinStrings nobody commas]
    rw [if_pos short, if_pos short]
    simp only [items]
  · rw [if_neg short, if_neg short]

/-- A record is read back as it was written just when `stoi` takes the number of its
followers. -/
theorem recordRoundTrips_iff (shaped : user.RecordShaped) :
    user.RecordRoundTrips ↔ user.followers.length < 2 ^ 31 := by
  have username : ' ' ∉ user.username := shaped.username.2 ' ' (by simp)
  have spaces : ∀ follower ∈ user.followers, ' ' ∉ follower :=
    fun follower member => (shaped.followers follower member).2 ' ' (by simp)
  have commas : ∀ follower ∈ user.followers, ',' ∉ follower :=
    fun follower member => (shaped.followers follower member).2 ',' (by simp)
  have read := deserialize_serialize shaped.id username spaces commas
  constructor
  · rintro ⟨-, copy, decoded, -⟩
    by_contra long
    rw [read, if_neg long] at decoded
    cases decoded
  · intro short
    obtain ⟨session, more, fields⟩ := split_serialize username spaces
    refine ⟨?_, { user with sessions := [] }, by rw [read, if_pos short], rfl, rfl, rfl⟩
    rw [fields]
    simp

/-- A user with two followers and two sessions. -/
def followedTwice : User :=
  { id := -7, username := ['a', '\n'], followers := [['b'], ['c', 'd']],
    sessions := [⟨7, ['a', ' ', 'x']⟩, ⟨8, ['a']⟩] }

theorem recordRoundTrips_followedTwice : followedTwice.RecordRoundTrips :=
  (@recordRoundTrips_iff followedTwice ⟨by decide, by decide, by decide⟩).mpr (by decide)

/-- A user with many followers of one name. -/
def crowd (count : Nat) : User :=
  { id := 1, username := ['a'], followers := List.replicate count ['b'] }

/-- The number of followers grows past what can be read. -/
theorem not_recordRoundTrips_crowd :
    (crowd (2 ^ 31)).RecordShaped ∧ ¬ (crowd (2 ^ 31)).RecordRoundTrips := by
  have shaped : (crowd (2 ^ 31)).RecordShaped := by
    refine ⟨(by decide : IsInt 1), (by decide : NameWithout [' '] ['a']), ?_⟩
    intro follower member
    rw [List.eq_of_mem_replicate member]
    decide
  refine ⟨shaped, fun roundTrips => ?_⟩
  have short := (recordRoundTrips_iff shaped).mp roundTrips
  rw [crowd, List.length_replicate] at short
  exact lt_irrefl _ short

end Record

end User

end TwitterClone
