import TwitterClone.Foundation.Machine

/-! Mailboxes. A letter goes to members: to those who have sessions open at once, while
for the others it waits until they open one. -/
namespace TwitterClone.Foundation

variable {User Session Letter : Type*}

/-- A session has one user, and what it was given is remembered when it is closed. So is,
for each user, all that was ever addressed to them. -/
structure Mailboxes (User Session Letter : Type*) where
  members : Set User := ∅
  waiting : User → List Letter := fun _ => []
  addressed : User → List Letter := fun _ => []
  user : Session → Option User := fun _ => none
  opened : Set Session := ∅
  given : Session → List Letter := fun _ => []

inductive MailAction (User Session Letter : Type*) where
  | enroll (users : List User)
  | post (letter : Letter) (addressees : List User)
  | openBox (user : User) (session : Session)
  | close (sessions : Set Session)

/-- The letters that are addressed to the user, in the order in which they are posted. -/
def lettersTo [DecidableEq User] (user : User) (actions : List (MailAction User Session Letter)) :
    List Letter :=
  actions.flatMap fun
    | .post letter addressees => if user ∈ addressees then [letter] else []
    | _ => []

namespace Mailboxes

def Reads (boxes : Mailboxes User Session Letter) (session : Session) (user : User) : Prop :=
  session ∈ boxes.opened ∧ boxes.user session = some user

def Online (boxes : Mailboxes User Session Letter) (user : User) : Prop :=
  ∃ session, boxes.Reads session user

open Classical in
noncomputable def post (boxes : Mailboxes User Session Letter) (letter : Letter)
    (addressees : List User) : Mailboxes User Session Letter :=
  { boxes with
    waiting := fun user => boxes.waiting user ++
      if user ∈ addressees ∧ ¬ boxes.Online user then [letter] else []
    addressed := fun user => boxes.addressed user ++ if user ∈ addressees then [letter] else []
    given := fun session => boxes.given session ++
      if ∃ user ∈ addressees, boxes.Reads session user then [letter] else [] }

open Classical in
/-- What has waited for the user is given to the session. -/
noncomputable def openBox (boxes : Mailboxes User Session Letter) (user : User)
    (session : Session) : Mailboxes User Session Letter :=
  { boxes with
    members := insert user boxes.members
    waiting := Function.update boxes.waiting user []
    user := Function.update boxes.user session (some user)
    opened := insert session boxes.opened
    given := Function.update boxes.given session (boxes.waiting user) }

open Classical in
/-- Letters are for members, and a session is opened once. -/
noncomputable def step (boxes : Mailboxes User Session Letter) :
    MailAction User Session Letter → Option (Mailboxes User Session Letter)
  | .enroll users => some { boxes with members := boxes.members ∪ {user | user ∈ users} }
  | .post letter addressees =>
    if ∀ user ∈ addressees, user ∈ boxes.members then some (boxes.post letter addressees) else none
  | .openBox user session =>
    if boxes.user session = none then some (boxes.openBox user session) else none
  | .close sessions => some { boxes with opened := boxes.opened \ sessions }

/-- What mailboxes promise. Whoever is online has nothing waiting. A session has a stretch
of the user's letters with none left out, up to the last one while it is open; what waits
are the last ones; and of the letters before those each was given to a session. -/
structure Reliable (boxes : Mailboxes User Session Letter) : Prop where
  drained : ∀ user, boxes.Online user → boxes.waiting user = []
  stretch : ∀ session user, boxes.user session = some user →
    boxes.given session <:+: boxes.addressed user
  upToDate : ∀ session user, boxes.Reads session user →
    boxes.given session <:+ boxes.addressed user
  unlost : ∀ user, ∃ earlier, boxes.addressed user = earlier ++ boxes.waiting user ∧
    ∀ letter ∈ earlier, ∃ session, boxes.user session = some user ∧ letter ∈ boxes.given session

variable {boxes next : Mailboxes User Session Letter}

theorem reliable_empty : ({} : Mailboxes User Session Letter).Reliable where
  drained _ _ := rfl
  stretch _ _ none := by cases none
  upToDate _ _ reads := by cases reads.2
  unlost _ := ⟨[], rfl, by simp⟩

section Fields

open Classical

theorem waiting_post (letter : Letter) (addressees : List User) {user : User}
    (offline : ¬ boxes.Online user) :
    (boxes.post letter addressees).waiting user =
      boxes.waiting user ++ if user ∈ addressees then [letter] else [] := by
  simp only [post, offline, not_false_eq_true, and_true]

theorem waiting_post_online (letter : Letter) (addressees : List User) {user : User}
    (online : boxes.Online user) :
    (boxes.post letter addressees).waiting user = boxes.waiting user := by
  simp [post, online]

theorem addressed_post (letter : Letter) (addressees : List User) (user : User) :
    (boxes.post letter addressees).addressed user = boxes.addressed user ++
      if user ∈ addressees then [letter] else [] := by
  simp only [post]

/-- Whoever is addressed and has a session open is given the letter there. -/
theorem given_post (letter : Letter) (addressees : List User) {session : Session} {user : User}
    (reads : boxes.Reads session user) :
    (boxes.post letter addressees).given session =
      boxes.given session ++ if user ∈ addressees then [letter] else [] := by
  have only : (∃ other ∈ addressees, boxes.Reads session other) ↔ user ∈ addressees := by
    constructor
    · rintro ⟨other, member, same⟩
      obtain rfl := Option.some.inj (reads.2.symm.trans same.2)
      exact member
    · exact fun member => ⟨user, member, reads⟩
  simp only [post, only]

theorem given_post_unread (letter : Letter) (addressees : List User) {session : Session}
    (unread : ∀ user, ¬ boxes.Reads session user) :
    (boxes.post letter addressees).given session = boxes.given session := by
  simp [post, unread]

theorem user_openBox (user : User) (session other : Session) :
    (boxes.openBox user session).user other =
      if other = session then some user else boxes.user other := by
  simp only [openBox, Function.update_apply]

theorem given_openBox (user : User) (session other : Session) :
    (boxes.openBox user session).given other =
      if other = session then boxes.waiting user else boxes.given other := by
  simp only [openBox, Function.update_apply]

theorem waiting_openBox (user other : User) (session : Session) :
    (boxes.openBox user session).waiting other =
      if other = user then [] else boxes.waiting other := by
  simp only [openBox, Function.update_apply]

end Fields

theorem Reliable.post (reliable : boxes.Reliable) (letter : Letter) (addressees : List User) :
    (boxes.post letter addressees).Reliable where
  drained user online := by
    have before : boxes.Online user := online
    rw [waiting_post_online letter addressees before]
    exact reliable.drained user before
  stretch session user mine := by
    rw [addressed_post]
    by_cases reads : boxes.Reads session user
    · obtain ⟨front, split⟩ := reliable.upToDate session user reads
      rw [given_post letter addressees reads, ← split, List.append_assoc]
      exact (List.suffix_append front _).isInfix
    · have unread : ∀ other, ¬ boxes.Reads session other := by
        intro other same
        obtain rfl := Option.some.inj (mine.symm.trans same.2)
        exact reads same
      rw [given_post_unread letter addressees unread]
      exact (reliable.stretch session user mine).trans (List.prefix_append ..).isInfix
  upToDate session user reads := by
    have before : boxes.Reads session user := reads
    obtain ⟨front, split⟩ := reliable.upToDate session user before
    rw [given_post letter addressees before, addressed_post, ← split, List.append_assoc]
    exact List.suffix_append front _
  unlost user := by
    obtain ⟨earlier, split, found⟩ := reliable.unlost user
    have still : ∀ past ∈ earlier, ∃ session, boxes.user session = some user ∧
        past ∈ (boxes.post letter addressees).given session := by
      intro past member
      obtain ⟨session, mine, inside⟩ := found past member
      exact ⟨session, mine, List.mem_append_left _ inside⟩
    by_cases online : boxes.Online user
    · have empty := reliable.drained user online
      rw [empty, List.append_nil] at split
      refine ⟨(boxes.post letter addressees).addressed user, ?_, ?_⟩
      · rw [waiting_post_online letter addressees online, empty, List.append_nil]
      · intro past member
        rw [addressed_post] at member
        rcases List.mem_append.mp member with old | new
        · exact still past (split ▸ old)
        · obtain ⟨session, reads⟩ := online
          refine ⟨session, reads.2, ?_⟩
          rw [given_post letter addressees reads]
          exact List.mem_append_right _ new
    · refine ⟨earlier, ?_, still⟩
      rw [addressed_post, waiting_post letter addressees online, split, List.append_assoc]

theorem Reliable.openBox (reliable : boxes.Reliable) (user : User) {session : Session}
    (fresh : boxes.user session = none) : (boxes.openBox user session).Reliable := by
  have suffix : boxes.waiting user <:+ boxes.addressed user := by
    obtain ⟨earlier, split, -⟩ := reliable.unlost user
    exact ⟨earlier, split.symm⟩
  have different : ∀ other reader, boxes.user other = some reader → other ≠ session := by
    rintro other reader mine rfl
    rw [fresh] at mine
    cases mine
  refine ⟨?_, ?_, ?_, ?_⟩
  · rintro reader ⟨other, opened, mine⟩
    rw [user_openBox] at mine
    rw [waiting_openBox]
    split
    next => rfl
    next stranger =>
      split at mine
      next => exact absurd (Option.some.inj mine).symm stranger
      next away =>
        have before := (Set.mem_insert_iff.mp opened).resolve_left away
        exact reliable.drained reader ⟨other, before, mine⟩
  · intro other reader mine
    rw [user_openBox] at mine
    rw [given_openBox]
    split at mine
    next here =>
      obtain rfl := Option.some.inj mine
      rw [if_pos here]
      exact suffix.isInfix
    next away =>
      rw [if_neg away]
      exact reliable.stretch other reader mine
  · rintro other reader ⟨opened, mine⟩
    rw [user_openBox] at mine
    rw [given_openBox]
    split at mine
    next here =>
      obtain rfl := Option.some.inj mine
      rw [if_pos here]
      exact suffix
    next away =>
      rw [if_neg away]
      exact reliable.upToDate other reader ⟨(Set.mem_insert_iff.mp opened).resolve_left away, mine⟩
  · intro reader
    obtain ⟨earlier, split, found⟩ := reliable.unlost reader
    have still : ∀ letter ∈ earlier, ∃ other, (boxes.openBox user session).user other = some reader ∧
        letter ∈ (boxes.openBox user session).given other := by
      intro letter member
      obtain ⟨other, mine, inside⟩ := found letter member
      have away := different other reader mine
      exact ⟨other, by rwa [user_openBox, if_neg away], by rwa [given_openBox, if_neg away]⟩
    rw [waiting_openBox]
    by_cases here : reader = user
    · subst here
      refine ⟨boxes.addressed reader, by rw [if_pos rfl, List.append_nil]; rfl, ?_⟩
      intro letter member
      rw [split] at member
      rcases List.mem_append.mp member with old | new
      · exact still letter old
      · exact ⟨session, by rw [user_openBox, if_pos rfl], by rwa [given_openBox, if_pos rfl]⟩
    · exact ⟨earlier, by rw [if_neg here]; exact split, still⟩

theorem Reliable.step (reliable : boxes.Reliable) {action : MailAction User Session Letter}
    (taken : boxes.step action = some next) : next.Reliable := by
  cases action with
  | enroll users =>
    obtain rfl := Option.some.inj taken
    exact ⟨reliable.drained, reliable.stretch, reliable.upToDate, reliable.unlost⟩
  | post letter addressees =>
    rw [Mailboxes.step] at taken
    split at taken
    next => exact Option.some.inj taken ▸ reliable.post letter addressees
    next => cases taken
  | openBox user session =>
    rw [Mailboxes.step] at taken
    split at taken
    next fresh => exact Option.some.inj taken ▸ reliable.openBox user fresh
    next => cases taken
  | close sessions =>
    obtain rfl := Option.some.inj taken
    refine ⟨?_, reliable.stretch, ?_, reliable.unlost⟩
    · rintro user ⟨session, opened, mine⟩
      exact reliable.drained user ⟨session, opened.1, mine⟩
    · rintro session user ⟨opened, mine⟩
      exact reliable.upToDate session user ⟨opened.1, mine⟩

theorem reliable_run {actions : List (MailAction User Session Letter)}
    (reached : run step {} actions = some boxes) : boxes.Reliable :=
  run_invariant (fun _ _ _ reliable taken => Reliable.step reliable taken) reliable_empty reached

/-- The record is right. -/
theorem addressed_run [DecidableEq User] {final : Mailboxes User Session Letter}
    {actions : List (MailAction User Session Letter)}
    (reached : run step boxes actions = some final) (user : User) :
    final.addressed user = boxes.addressed user ++ lettersTo user actions := by
  induction actions generalizing boxes with
  | nil =>
    obtain rfl := Option.some.inj reached
    exact (List.append_nil _).symm
  | cons action rest ih =>
    obtain ⟨next, taken, after⟩ := run_cons.mp reached
    rw [ih after, lettersTo, lettersTo, List.flatMap_cons, ← List.append_assoc]
    congr 1
    cases action with
    | enroll users =>
      obtain rfl := Option.some.inj taken
      exact (List.append_nil _).symm
    | post letter addressees =>
      rw [step] at taken
      split at taken
      next =>
        obtain rfl := Option.some.inj taken
        simp only [post]
        congr 2
      next => cases taken
    | openBox other session =>
      rw [step] at taken
      split at taken
      next =>
        obtain rfl := Option.some.inj taken
        exact (List.append_nil _).symm
      next => cases taken
    | close sessions =>
      obtain rfl := Option.some.inj taken
      exact (List.append_nil _).symm

end Mailboxes

end TwitterClone.Foundation
