import TwitterClone.Csv.Failure
import TwitterClone.Profile.Loading
import TwitterClone.Profile.Recovery
import TwitterClone.Profile.Registration

/-! New users and follows when the user file may refuse. The manager changes first and
never asks what became of the save, so the file may stay behind it. -/
namespace TwitterClone

open Foundation ProfilePersistency

namespace ProfilePersistency

def saveNewUserWith (outcome : Csv.FileOutcome) (file : Option Text) (user : Text) :
    Except Fault (Option Text) :=
  match Csv.appendWith outcome splitMark file [user] with
  | .error fault => .error fault
  | .ok (file, _) => .ok file

def saveNewFollowerWith (outcome : Csv.FileOutcome) (file : Option Text) (user follower : Text) :
    Except Fault (Option Text) :=
  match Csv.appendToLineWith outcome splitMark file 0 user [follower] with
  | .error fault => .error fault
  | .ok (file, _) => .ok file

def saveWith (outcome : Csv.FileOutcome) (file : Option Text) : Save → Except Fault (Option Text)
  | .newUser user => saveNewUserWith outcome file user
  | .newFollower user follower => saveNewFollowerWith outcome file user follower

/-- A call makes one save at most. -/
def saveAllWith (outcome : Csv.FileOutcome) : Option Text → List Save → Except Fault (Option Text)
  | file, [] => .ok file
  | file, first :: rest =>
    match saveWith outcome file first with
    | .error fault => .error fault
    | .ok file => saveAllWith outcome file rest

end ProfilePersistency

/-- One call of the manager, its saves included, and its answer. -/
def Store.callWith (onUpdateCallback : ProfileManager → Bool) (outcome : Csv.FileOutcome)
    (store : Store) (operation : ProfileOperation) : Except Fault (Store × Bool) :=
  let call := store.manager.call onUpdateCallback operation
  match saveAllWith outcome store.file call.saves with
  | .error fault => .error fault
  | .ok file => .ok ({ manager := call.manager, file }, call.success)

/-! What users say about themselves, apart from their ids, their sessions and the order of
their followers. -/

/-- A name and the set of its followers. -/
abbrev Record := Text × Finset Text

def User.record (user : User) : Record := (user.username, user.followers.toFinset)

/-- Nobody follows themselves. -/
def Record.follow (record : Record) (follower : Text) : Record :=
  if record.1 = follower then record else (record.1, insert follower record.2)

def records (users : UnorderedMap Text User) : Text → Option Record :=
  fun name => (users.lookup name).map User.record

/-- The records with one more follower of one user. -/
def withFollower (userToFollow follower : Text) (known : Text → Option Record) :
    Text → Option Record :=
  Function.update known userToFollow ((known userToFollow).map (Record.follow · follower))

/-- The file is read as the users that the manager has. -/
def Agrees (store : Store) : Prop :=
  ∃ users, readUsers store.file = .ok users ∧ records users = records store.manager.users

/-- Reading the file gives what the call was to save. -/
def Persisted (file : Option Text) : ProfileOperation → Prop
  | .startSession username _ => ∃ users, readUsers file = .ok users ∧ username ∈ users
  | .follow follower userToFollow => ∃ users, readUsers file = .ok users ∧
      follower ∈ ({ users } : ProfileManager).followersOf userToFollow
  | .closeSession _ _ => True

/-- The call returns, the file and the manager have the same users and followers, and it
returns true only for what is in the file. -/
def StaysAgreed (onUpdateCallback : ProfileManager → Bool) (outcome : Csv.FileOutcome)
    (store : Store) (operation : ProfileOperation) : Prop :=
  ∃ next success, store.callWith onUpdateCallback outcome operation = .ok (next, success) ∧
    Agrees next ∧ (success = true → Persisted next.file operation)

section Records

variable {users : UnorderedMap Text User}

@[simp] theorem records_isSome {name : Text} : (records users name).isSome ↔ name ∈ users := by
  rw [records, Option.isSome_map, UnorderedMap.lookup_isSome]

theorem mem_of_records {other : UnorderedMap Text User} (same : records users = records other)
    (name : Text) : name ∈ users ↔ name ∈ other := by
  rw [← records_isSome, ← records_isSome, same]

theorem records_emplace {name : Text} (absent : name ∉ users) (user : User) :
    records (users.emplace name user) = Function.update (records users) name (some user.record) := by
  funext other
  rw [records, UnorderedMap.lookup_emplace, Function.update_apply]
  by_cases here : other = name
  · rw [if_pos ⟨here, absent⟩, if_pos here, Option.map_some]
  · rw [if_neg fun both => here both.1, if_neg here, records]

theorem records_setUser {manager : ProfileManager} {name : Text} {stored : User}
    (present : manager.users.lookup name = some stored) (user : User) :
    records (manager.setUser name user).users =
      Function.update (records manager.users) name (some user.record) := by
  funext other
  rw [records, ProfileManager.lookup_setUser present, Function.update_apply]
  by_cases here : other = name
  · rw [if_pos here, if_pos here, Option.map_some]
  · rw [if_neg here, if_neg here, records]

theorem record_addFollower (user : User) (follower : Text) :
    (user.addFollower follower).1.record = user.record.follow follower := by
  have name := (User.frame_addFollower user follower).2.1
  have members : (user.addFollower follower).1.followers.toFinset =
      if user.username = follower then user.followers.toFinset
      else insert follower user.followers.toFinset := by
    ext other
    rw [List.mem_toFinset, User.mem_followers_addFollower, User.addFollower_eq]
    split
    next self => simp [self]
    next different =>
      rw [Finset.mem_insert, List.mem_toFinset]
      by_cases known : follower ∈ user.followers
      · simp only [known, not_true_eq_false, and_false, false_and, or_false]
        exact (or_iff_right_of_imp fun same => same ▸ known).symm
      · simp [known, different, or_comm]
  rw [User.record, name, members, Record.follow, User.record]
  split <;> rfl

theorem record_addFollowers (followers : List Text) (user : User) :
    (followers.foldl (fun user follower => (user.addFollower follower).1) user).record =
      followers.foldl Record.follow user.record := by
  induction followers generalizing user with
  | nil => rfl
  | cons follower rest ih => rw [List.foldl_cons, List.foldl_cons, ih, record_addFollower]

theorem withFollower_apply (userToFollow follower : Text) (known : Text → Option Record)
    (name : Text) : withFollower userToFollow follower known name =
      if name = userToFollow then (known name).map (Record.follow · follower) else known name := by
  rw [withFollower, Function.update_apply]
  split
  next here => rw [here]
  next => rfl

theorem extend_columns (userToFollow follower username : Text) (followers : List Text) :
    Csv.extend 0 userToFollow [follower] (username :: followers) =
      username :: if username = userToFollow then followers ++ [follower] else followers := by
  unfold Csv.extend
  rw [List.getElem?_cons_zero]
  by_cases here : username = userToFollow
  · rw [if_pos (congrArg some here), if_pos here, List.cons_append]
  · rw [if_neg fun same => here (Option.some.inj same), if_neg here]

theorem mem_of_withFollower {userToFollow follower : Text} {next : UnorderedMap Text User}
    (same : records next = withFollower userToFollow follower (records users)) (name : Text) :
    name ∈ next ↔ name ∈ users := by
  rw [← records_isSome, ← records_isSome, same, withFollower_apply]
  split
  next => rw [Option.isSome_map]
  next => exact Iff.rfl

/-- Followers behind the others in a row of a file are followers of its user. -/
theorem loadRows_extend {userToFollow follower : Text} (rows : List (List Text)) (userId : Nat)
    {users next loaded : UnorderedMap Text User}
    (before : records next = withFollower userToFollow follower (records users))
    (result : loadRows userId users rows = .ok loaded) :
    ∃ after, loadRows userId next (rows.map (Csv.extend 0 userToFollow [follower])) = .ok after ∧
      records after = withFollower userToFollow follower (records loaded) := by
  induction rows generalizing userId users next with
  | nil =>
    cases result
    exact ⟨next, rfl, before⟩
  | cons row rest ih =>
    cases row with
    | nil => cases result
    | cons username followers =>
      rw [List.map_cons, extend_columns, loadRows]
      rw [loadRows] at result
      refine ih (userId + 1) ?_ result
      have sameNames := mem_of_withFollower before username
      by_cases present : username ∈ users
      · rw [UnorderedMap.emplace_of_mem _ _ _ present,
          UnorderedMap.emplace_of_mem _ _ _ (sameNames.mpr present), before]
      · rw [records_emplace present, records_emplace (mt sameNames.mp present), before,
          record_addFollowers, record_addFollowers]
        funext name
        rw [withFollower_apply, Function.update_apply, Function.update_apply, withFollower_apply]
        by_cases here : name = username
        · rw [if_pos here, if_pos here, Option.map_some, here]
          by_cases target : username = userToFollow
          · rw [if_pos target, if_pos target, List.foldl_append]
            rfl
          · rw [if_neg target, if_neg target]
        · rw [if_neg here, if_neg here]

theorem mem_addFollowers {followers : List Text} {user : User} {name : Text}
    (member : name ∈ (followers.foldl (fun user follower => (user.addFollower follower).1)
      user).followers) : name ∈ user.followers ∨ name ∈ followers := by
  induction followers generalizing user with
  | nil => exact Or.inl member
  | cons follower rest ih =>
    rcases ih member with before | later
    · rw [User.mem_followers_addFollower] at before
      rcases before with old | ⟨-, new⟩
      · exact Or.inl old
      · exact Or.inr (new ▸ List.mem_cons_self)
    · exact Or.inr (List.mem_cons_of_mem follower later)

/-- Whoever is loaded stood in front of a row with all the followers. -/
theorem row_of_loadRows {rows : List (List Text)} {userId : Nat} {loaded : UnorderedMap Text User}
    (result : loadRows userId users rows = .ok loaded) {name : Text} {user : User}
    (found : loaded.lookup name = some user) :
    users.lookup name = some user ∨
      ∃ columns, name :: columns ∈ rows ∧ ∀ follower ∈ user.followers, follower ∈ columns := by
  induction rows generalizing userId users with
  | nil =>
    cases result
    exact Or.inl found
  | cons row rest ih =>
    cases row with
    | nil => cases result
    | cons username followers =>
      rw [loadRows] at result
      rcases ih result with before | ⟨columns, listed, inside⟩
      · rw [UnorderedMap.lookup_emplace] at before
        split at before
        next here =>
          refine Or.inr ⟨followers, ?_, ?_⟩
          · rw [here.1]
            exact List.mem_cons_self
          · rw [← Option.some.inj before]
            intro follower member
            rcases mem_addFollowers member with old | new
            · cases old
            · exact new
        next => exact Or.inl before
      · exact Or.inr ⟨columns, List.mem_cons_of_mem _ listed, inside⟩

end Records

section Starting

variable {onUpdateCallback : ProfileManager → Bool} {outcome : Csv.FileOutcome} {store : Store}

/-- The file opens as it is, all of the name arrives, and the name is one column of a row. -/
def Registers (outcome : Csv.FileOutcome) (file : Option Text) (username : Text) : Prop :=
  Csv.OpensFile outcome file ∧
    username.length + (if file = none then 0 else 1) ≤ outcome.accepted ∧
    NameWithout Store.separators username

theorem openFile_length {file : Option Text} {users : UnorderedMap Text User}
    (loaded : readUsers file = .ok users) : (Csv.openFile file).length = 0 ↔ file = none := by
  cases file with
  | none => exact iff_of_true rfl rfl
  | some content =>
    refine iff_of_false ?_ (by simp)
    intro empty
    have blank : content = [] := List.length_eq_zero_iff.mp empty
    rw [blank] at loaded
    cases loaded

/-- A column of a file is not longer than the file. -/
theorem length_of_mem_readAll {content column : Text} {row : List Text}
    (listed : row ∈ Csv.readAll splitMark (some content)) (member : column ∈ row) :
    column.length ≤ content.length := by
  have room := @Csv.columnsLength_readAll splitMark content
  have inRow : column.length + 1 ≤ Csv.columnsLength row :=
    List.single_le_sum (fun _ _ => Nat.zero_le _) _ (List.mem_map_of_mem member)
  have inFile : Csv.columnsLength row ≤
      ((Csv.readAll splitMark (some content)).map Csv.columnsLength).sum :=
    List.single_le_sum (fun _ _ => Nat.zero_le _) _ (List.mem_map_of_mem listed)
  omega

/-- A new name is loaded from a part of itself only if that is all of it, and then it has
no separators in it. -/
theorem name_of_loadRows {users loaded : UnorderedMap Text User} {userId count : Nat} {name : Text}
    (result : loadRows userId users (Csv.readAll splitMark (some (name.take count))) = .ok loaded)
    (absent : name ∉ users) (member : name ∈ loaded) :
    name.length ≤ count ∧ NameWithout Store.separators name := by
  rcases mem_of_loadRows result member with before | ⟨row, listed, inside⟩
  · exact absurd before absent
  · have short := length_of_mem_readAll listed inside
    rw [List.length_take] at short
    obtain ⟨markFree, lineFree⟩ := Csv.column_of_mem_readAll listed inside
    refine ⟨by omega, ?_, ?_⟩
    · rintro rfl
      rw [List.take_nil] at result
      cases result
    · intro separator listedMark
      rcases List.mem_cons.mp listedMark with rfl | line
      · exact markFree
      · rwa [List.mem_singleton.mp line]

theorem callWith_startSession {name : Text} (new : name ∉ store.manager.users)
    (session : ProfileSession) {file : Option Text} {answer : Bool}
    (appended : Csv.appendWith outcome splitMark store.file [name] = .ok (file, answer)) :
    ∃ success, store.callWith onUpdateCallback outcome (.startSession name session) =
      .ok ({
        manager := (store.manager.startSession onUpdateCallback name session).manager
        file }, success) := by
  refine ⟨(store.manager.startSession onUpdateCallback name session).success, ?_⟩
  simp only [Store.callWith, ProfileManager.call, ProfileManager.startSession, if_neg new,
    saveAllWith, saveWith, saveNewUserWith, appended]

theorem records_startSession {name : Text} (new : name ∉ store.manager.users)
    (session : ProfileSession) :
    records (store.manager.startSession onUpdateCallback name session).manager.users =
      Function.update (records store.manager.users) name (some (name, ∅)) := by
  have frame := User.frame_addSession
    ({ id := int32 store.manager.users.entries.length, username := name } : User) session
  have shape : (store.manager.newUser name session).record = (name, ∅) := by
    rw [User.record, ProfileManager.newUser, frame.2.1, frame.2.2]
    rfl
  rw [ProfileManager.startSession, if_neg new]
  dsimp only
  rw [records_emplace new, shape]

/-- The file with part of a name behind its users; the line end counts. -/
theorem readUsers_appendWith {users : UnorderedMap Text User}
    (loaded : readUsers store.file = .ok users) (opens : Csv.OpensFile outcome store.file)
    (name : Text) :
    ∃ file, Csv.appendWith outcome splitMark store.file [name] = .ok (file, true) ∧
      (outcome.accepted = 0 ∧ readUsers file = .ok users ∨ ∃ count userId,
        (name.length ≤ count ↔
          name.length + (if store.file = none then 0 else 1) ≤ outcome.accepted) ∧
        readUsers file =
          loadRows userId users (Csv.readAll splitMark (some (name.take count)))) := by
  refine ⟨_, Csv.appendWith_opens opens name, ?_⟩
  have empty := openFile_length loaded
  cases shape : store.file with
  | none =>
    rw [shape] at loaded empty
    cases loaded
    rw [if_pos (empty.mpr rfl), if_pos rfl]
    exact Or.inr ⟨outcome.accepted, 1, Iff.rfl, rfl⟩
  | some content =>
    rw [shape] at loaded empty
    rw [if_neg (mt empty.mp (by simp)), if_neg (by simp), Csv.openFile, Option.getD_some]
    cases outcome.accepted with
    | zero =>
      rw [List.take_zero, List.append_nil]
      exact Or.inl ⟨rfl, loaded⟩
    | succ count =>
      have before : loadRows 1 ∅ (Csv.readAll splitMark (some content)) = .ok users := loaded
      refine Or.inr ⟨count, 1 + (Csv.readAll splitMark (some content)).length,
        Nat.succ_le_succ_iff.symm, ?_⟩
      rw [List.take_succ_cons, readUsers, Csv.readAll_append, loadRows_append, before]

/-- A file that loads has a user. -/
theorem exists_loaded {content : Text} {users : UnorderedMap Text User}
    (loaded : readUsers (some content) = .ok users) : ∃ name, name ∈ users := by
  have lines := split_ne_nil content [newline]
  rw [readUsers, Csv.readAll_split] at loaded
  cases rows : split content [newline] with
  | nil => exact absurd rows lines
  | cons line rest =>
    rw [rows, List.map_cons] at loaded
    cases columns : Csv.parseRow splitMark line with
    | nil =>
      rw [columns] at loaded
      cases loaded
    | cons name followers =>
      refine ⟨name, (names_of_loadRows loaded).2 _ List.mem_cons_self name ?_⟩
      rw [columns, List.head?_cons, Option.mem_some]

theorem readUsers_name {name : Text} (clean : NameWithout Store.separators name) (userId : Nat)
    (users : UnorderedMap Text User) :
    loadRows userId users (Csv.readAll splitMark (some name)) =
      .ok (users.emplace name { id := int32 userId, username := name }) := by
  rw [readAll_name clean]
  rfl

/-- When the file does not open as it is, the name is missing from it, or everyone else is. -/
theorem fails_startSession {users : UnorderedMap Text User}
    (loaded : readUsers store.file = .ok users) (fails : ¬ Csv.OpensFile outcome store.file)
    {name : Text} (absent : name ∉ users) :
    ∃ file success, Csv.appendWith outcome splitMark store.file [name] = .ok (file, success) ∧
      ∀ known, readUsers file = .ok known → name ∈ known → ∃ other ∈ users, other ∉ known := by
  rcases Csv.openWith_fails fails with ⟨emptied, there⟩ | ⟨unchanged, closed⟩
  · cases opened : (Csv.openWith outcome store.file).2 with
    | false =>
      refine ⟨_, _, Csv.appendWith_fails opened [name], ?_⟩
      rw [emptied]
      rintro known ⟨⟩
    | true =>
      refine ⟨_, _, Csv.appendWith_empty (Prod.ext emptied opened) name, ?_⟩
      intro known read member
      obtain ⟨arrived, clean⟩ := name_of_loadRows read (UnorderedMap.notMem_empty name) member
      have only := readUsers_name clean 1 ∅
      rw [readUsers, List.take_of_length_le arrived, only] at read
      obtain ⟨content, shape⟩ := Option.ne_none_iff_exists'.mp (there opened)
      rw [shape] at loaded
      obtain ⟨other, old⟩ := exists_loaded loaded
      refine ⟨other, old, ?_⟩
      rw [← Except.ok.inj read, UnorderedMap.mem_emplace, not_or]
      exact ⟨fun same => absent (same ▸ old), UnorderedMap.notMem_empty other⟩
  · refine ⟨_, _, Csv.appendWith_fails closed [name], ?_⟩
    rw [unchanged]
    intro known read member
    cases loaded.symm.trans read
    exact absurd member absent

/-- A call for a new name keeps the manager and the file together only if the file opens as
it is, all of the name arrives, and no separator is in it. -/
theorem staysAgreed_startSession (agrees : Agrees store) {name : Text}
    (new : name ∉ store.manager.users) (session : ProfileSession) :
    StaysAgreed onUpdateCallback outcome store (.startSession name session) ↔
      Registers outcome store.file name := by
  obtain ⟨users, loaded, same⟩ := agrees
  have absent : name ∉ users := mt (mem_of_records same name).mp new
  have after := @records_startSession onUpdateCallback store name new session
  have here : name ∈ (store.manager.startSession onUpdateCallback name session).manager.users := by
    rw [← records_isSome, after, Function.update_self]
    rfl
  by_cases opens : Csv.OpensFile outcome store.file
  · obtain ⟨file, appended, read⟩ := readUsers_appendWith loaded opens name
    obtain ⟨answer, called⟩ := @callWith_startSession onUpdateCallback outcome store name new session
      file true appended
    constructor
    · rintro ⟨next, success, result, ⟨known, final, agreed⟩, -⟩
      obtain ⟨rfl, rfl⟩ := Prod.mk.inj (Except.ok.inj (called.symm.trans result))
      have present := (mem_of_records agreed name).mpr here
      rcases read with ⟨-, unchanged⟩ | ⟨count, userId, enough, read⟩
      · cases unchanged.symm.trans final
        exact absurd present absent
      · obtain ⟨arrived, clean⟩ := name_of_loadRows (read.symm.trans final) absent present
        exact ⟨opens, enough.mp arrived, clean⟩
    · rintro ⟨-, arrived, clean⟩
      obtain ⟨userId, final⟩ : ∃ userId, readUsers file =
          .ok (users.emplace name { id := int32 userId, username := name }) := by
        rcases read with ⟨none, -⟩ | ⟨count, userId, enough, read⟩
        · have some := List.length_pos_iff.mpr clean.1
          omega
        · rw [List.take_of_length_le (enough.mpr arrived), readUsers_name clean] at read
          exact ⟨userId, read⟩
      refine ⟨_, answer, called, ⟨_, final, ?_⟩, ?_⟩
      · rw [records_emplace absent, same]
        exact after.symm
      · rintro -
        exact ⟨_, final, by simp⟩
  · obtain ⟨file, success, appended, missing⟩ := fails_startSession loaded opens absent
    obtain ⟨answer, called⟩ := @callWith_startSession onUpdateCallback outcome store name new session
      file success appended
    refine iff_of_false ?_ fun registers => opens registers.1
    rintro ⟨next, success, result, ⟨known, final, agreed⟩, -⟩
    obtain ⟨rfl, rfl⟩ := Prod.mk.inj (Except.ok.inj (called.symm.trans result))
    obtain ⟨other, old, gone⟩ := missing known final ((mem_of_records agreed name).mpr here)
    refine gone ((mem_of_records agreed other).mpr ?_)
    rw [← records_isSome, after, Function.update_of_ne (ne_of_mem_of_not_mem old absent), ← same]
    exact records_isSome.mpr old

/-- When nothing fails, the call is the one that cannot fail. -/
theorem callWith_startSession_apply (onUpdateCallback : ProfileManager → Bool)
    {users : UnorderedMap Text User} (loaded : readUsers store.file = .ok users) {name : Text}
    (new : name ∉ store.manager.users) (session : ProfileSession)
    (registers : Registers outcome store.file name) :
    (store.callWith onUpdateCallback outcome (.startSession name session)).map Prod.fst =
      store.apply onUpdateCallback (.call (.startSession name session)) := by
  obtain ⟨opens, enough, -⟩ := registers
  simp only [← openFile_length loaded] at enough
  have saved := @Csv.appendWith_accepted splitMark outcome _ opens name enough
  simp only [Store.callWith, Store.apply, ProfileManager.call, ProfileManager.startSession,
    if_neg new, saveAllWith, saveWith, saveNewUserWith, saveAll, save, saveNewUser, saved]
  cases Csv.append splitMark (Csv.openFile store.file) [name] <;> rfl

end Starting

section Following

variable {onUpdateCallback : ProfileManager → Bool} {outcome : Csv.FileOutcome} {store : Store}
  {follower userToFollow : Text}

/-- One of the two is not a user, or the follow is the user's own or there already. -/
def Refused (manager : ProfileManager) (follower userToFollow : Text) : Prop :=
  follower ∉ manager.users ∨ userToFollow ∉ manager.users ∨
    (manager.userOf userToFollow).username = follower ∨
    follower ∈ (manager.userOf userToFollow).followers

/-- The file can be written anew with the follower in it: nothing of the old text stays
behind the new one, and no line loses a column or comes to be empty. -/
def Rewritable (content userToFollow follower : Text) : Prop :=
  follower ≠ [] ∧
    Csv.trailing splitMark content ≤ Csv.growth splitMark 0 userToFollow [follower] content ∧
    ∀ line ∈ split content [newline], line = [splitMark] ∨ [splitMark, splitMark] <:+ line →
      Csv.Matches splitMark 0 userToFollow line

/-- The file opens as it is, can be written anew, and all of the new text arrives. -/
def Follows (outcome : Csv.FileOutcome) (file : Option Text) (follower userToFollow : Text) :
    Prop :=
  ∃ content, file = some content ∧ Csv.OpensFile outcome file ∧
    Rewritable content userToFollow follower ∧
    content.length + Csv.growth splitMark 0 userToFollow [follower] content ≤
      outcome.accepted + Csv.trailing splitMark content

theorem refused_iff {manager : ProfileManager} : Refused manager follower userToFollow ↔
    ¬ ((follower ∈ manager.users ∧ userToFollow ∈ manager.users) ∧
      ((manager.userOf userToFollow).addFollower follower).2 = true) := by
  rw [Refused, User.addFollower_eq]
  tauto

theorem record_userOf (manager : ProfileManager) (name : Text) :
    (manager.userOf name).record =
      ((records manager.users name).getD ({} : User).record) := by
  rw [ProfileManager.userOf, records, Option.getD_map]

theorem Record.follow_eq_self {record : Record}
    (known : record.1 = follower ∨ follower ∈ record.2) : record.follow follower = record := by
  rw [Record.follow]
  split
  next => rfl
  next different => rw [Finset.insert_eq_self.mpr (known.resolve_left different)]

theorem mem_followersOf {users : UnorderedMap Text User} :
    follower ∈ ({ users } : ProfileManager).followersOf userToFollow ↔
      ∃ record, records users userToFollow = some record ∧ follower ∈ record.2 := by
  rw [ProfileManager.followersOf, records]
  split
  next present =>
    obtain ⟨user, found⟩ := UnorderedMap.lookup_of_mem present
    rw [ProfileManager.userOf, found, Option.getD_some, Option.map_some]
    constructor
    · intro member
      exact ⟨user.record, rfl, List.mem_toFinset.mpr member⟩
    · rintro ⟨record, same, member⟩
      rw [← Option.some.inj same] at member
      exact List.mem_toFinset.mp member
  next absent =>
    rw [UnorderedMap.lookup_eq_none.mpr absent]
    simp

/-- A follow that is not refused adds to one record. -/
theorem records_follow {manager : ProfileManager} (present : userToFollow ∈ manager.users) :
    records (manager.setUser userToFollow
        ((manager.userOf userToFollow).addFollower follower).1).users =
      withFollower userToFollow follower (records manager.users) := by
  obtain ⟨stored, found⟩ := UnorderedMap.lookup_of_mem present
  have here : manager.userOf userToFollow = stored := by
    rw [ProfileManager.userOf, found, Option.getD_some]
  rw [records_setUser found, here, record_addFollower, withFollower, records, found,
    Option.map_some, Option.map_some]

theorem withFollower_refused {manager : ProfileManager} (present : userToFollow ∈ manager.users)
    (refused : Refused manager follower userToFollow) (registered : follower ∈ manager.users) :
    withFollower userToFollow follower (records manager.users) = records manager.users := by
  obtain ⟨stored, found⟩ := UnorderedMap.lookup_of_mem present
  have here : manager.userOf userToFollow = stored := by
    rw [ProfileManager.userOf, found, Option.getD_some]
  have known : stored.record.1 = follower ∨ follower ∈ stored.record.2 := by
    rcases refused with unknown | unknown | self | again
    · exact absurd registered unknown
    · exact absurd present unknown
    · exact Or.inl (here ▸ self)
    · exact Or.inr (List.mem_toFinset.mpr (here ▸ again))
  rw [withFollower, records, found, Option.map_some, Option.map_some,
    Record.follow_eq_self known, ← Option.map_some, ← found]
  exact Function.update_eq_self userToFollow _

/-- A refused follow returns false and leaves the records and the file as they were. -/
theorem refused_follow (refused : Refused store.manager follower userToFollow) :
    ∃ manager, store.callWith onUpdateCallback outcome (.follow follower userToFollow) =
        .ok ({ store with manager }, false) ∧
      records manager.users = records store.manager.users := by
  by_cases both : follower ∈ store.manager.users ∧ userToFollow ∈ store.manager.users
  · have added : ((store.manager.userOf userToFollow).addFollower follower).2 = false := by
      simpa [both] using refused_iff.mp refused
    refine ⟨store.manager.setUser userToFollow
      ((store.manager.userOf userToFollow).addFollower follower).1, ?_, ?_⟩
    · simp [Store.callWith, ProfileManager.call, ProfileManager.follow, both, added, saveAllWith]
    · rw [records_follow both.2, withFollower_refused both.2 refused both.1]
  · refine ⟨store.manager, ?_, rfl⟩
    simp [Store.callWith, ProfileManager.call, ProfileManager.follow, both, saveAllWith]

/-- A follow that is not refused goes on to the file. -/
theorem callWith_follow (accepted : ¬ Refused store.manager follower userToFollow)
    {file : Option Text} {answer : Bool}
    (saved : Csv.appendToLineWith outcome splitMark store.file 0 userToFollow [follower] =
      .ok (file, answer)) :
    ∃ success, store.callWith onUpdateCallback outcome (.follow follower userToFollow) =
      .ok ({
        manager := store.manager.setUser userToFollow
          ((store.manager.userOf userToFollow).addFollower follower).1
        file }, success) := by
  obtain ⟨both, added⟩ := not_not.mp (mt refused_iff.mpr accepted)
  refine ⟨(store.manager.follow onUpdateCallback follower userToFollow).success, ?_⟩
  simp [Store.callWith, ProfileManager.call, ProfileManager.follow, both, added, saveAllWith,
    saveWith, saveNewFollowerWith, saved]

theorem lines_of_readUsers {content : Text} {users : UnorderedMap Text User}
    (loaded : readUsers (some content) = .ok users) :
    ∀ line ∈ split content [newline], line ≠ [] := by
  have rows := loadRows_iff.mp ⟨users, loaded⟩
  rw [Csv.readAll_split, List.forall_mem_map] at rows
  exact fun line member => Csv.parseRow_eq_nil.not.mp (rows line member)

/-- The names that are read from a file have no separators in them. -/
theorem separate_of_readUsers {file : Option Text} {users : UnorderedMap Text User}
    (loaded : readUsers file = .ok users) (member : follower ∈ users) :
    splitMark ∉ follower ∧ newline ∉ follower := by
  rcases mem_of_loadRows loaded member with before | ⟨row, listed, inside⟩
  · exact absurd before (UnorderedMap.notMem_empty follower)
  · exact Csv.column_of_mem_readAll listed inside

theorem free_of_readUsers {file : Option Text} {users : UnorderedMap Text User}
    (loaded : readUsers file = .ok users) (member : follower ∈ users) :
    ∀ column ∈ [follower], splitMark ∉ column := by
  intro column listed
  rw [List.mem_singleton.mp listed]
  exact (separate_of_readUsers loaded member).1

/-- A file that is written anew as a whole is read with the follower in it. -/
theorem readUsers_follows {users : UnorderedMap Text User}
    (loaded : readUsers store.file = .ok users) (registered : follower ∈ users)
    (follows : Follows outcome store.file follower userToFollow) :
    ∃ file after,
      Csv.appendToLineWith outcome splitMark store.file 0 userToFollow [follower] =
        .ok (file, true) ∧
      readUsers file = .ok after ∧
      records after = withFollower userToFollow follower (records users) := by
  obtain ⟨content, shape, opens, ⟨some, longer, lossless⟩, enough⟩ := follows
  rw [shape] at loaded opens ⊢
  have nonempty := lines_of_readUsers loaded
  have clean : ∀ column ∈ [follower], Csv.Clean splitMark column := by
    intro column member
    rw [List.mem_singleton.mp member]
    exact ⟨some, separate_of_readUsers loaded registered⟩
  have filled : ∀ line ∈ split content [newline],
      Csv.rewritten splitMark 0 userToFollow [follower] line ≠ [] := by
    intro line member none
    obtain ⟨cut, rest⟩ := List.append_eq_nil_iff.mp none
    rcases Csv.trimmed_eq_nil cut with blank | mark
    · exact nonempty line member blank
    · rw [if_pos (lossless line member (Or.inl mark))] at rest
      cases rest
  have kept : ∀ line ∈ split content [newline],
      Csv.KeepsLast splitMark 0 userToFollow [follower] line := by
    intro line member double
    exact ⟨List.cons_ne_nil follower [], lossless line member (Or.inr double)⟩
  obtain ⟨result, edited, rows⟩ :=
    (Csv.editsMatching_of_longer (by decide) nonempty filled clean longer).mpr kept
  have empty : records ∅ = withFollower userToFollow follower (records ∅) := by
    funext name
    rw [withFollower_apply]
    split <;> rfl
  obtain ⟨after, read, same⟩ := loadRows_extend _ 1 empty loaded
  refine ⟨result, after, ?_, ?_, same⟩
  · rw [Csv.appendToLineWith_accepted opens nonempty (free_of_readUsers loaded registered) enough,
      edited]
    rfl
  · rw [readUsers, rows]
    exact read

/-- A follow keeps the manager and the file together if it is refused or all of it gets
into the file. -/
theorem staysAgreed_follow (agrees : Agrees store)
    (safe : Refused store.manager follower userToFollow ∨
      Follows outcome store.file follower userToFollow) :
    StaysAgreed onUpdateCallback outcome store (.follow follower userToFollow) := by
  obtain ⟨users, loaded, same⟩ := agrees
  by_cases refused : Refused store.manager follower userToFollow
  · obtain ⟨manager, called, unchanged⟩ := @refused_follow onUpdateCallback outcome store _ _ refused
    refine ⟨_, _, called, ⟨users, loaded, same.trans unchanged.symm⟩, ?_⟩
    rintro ⟨⟩
  · obtain ⟨both, added⟩ := not_not.mp (mt refused_iff.mpr refused)
    have registered := (mem_of_records same follower).mpr both.1
    obtain ⟨file, after, saved, read, extended⟩ :=
      readUsers_follows loaded registered (safe.resolve_left refused)
    obtain ⟨success, called⟩ := @callWith_follow onUpdateCallback outcome store _ _ refused _ _ saved
    have agreed : records after = records (store.manager.setUser userToFollow
        ((store.manager.userOf userToFollow).addFollower follower).1).users := by
      rw [records_follow both.2, extended, same]
    refine ⟨_, success, called, ⟨after, read, agreed⟩, ?_⟩
    rintro -
    refine ⟨after, read, ?_⟩
    rw [mem_followersOf, agreed, ← mem_followersOf, ProfileManager.followersOf,
      if_pos ((ProfileManager.mem_setUser ..).mpr both.2), ProfileManager.userOf_setUser both.2,
      if_pos rfl, User.mem_followers_addFollower]
    exact Or.inr ⟨added, rfl⟩

/-- A new follower changes the records. -/
theorem withFollower_ne {manager : ProfileManager}
    (accepted : ¬ Refused manager follower userToFollow) :
    withFollower userToFollow follower (records manager.users) ≠ records manager.users := by
  obtain ⟨both, added⟩ := not_not.mp (mt refused_iff.mpr accepted)
  obtain ⟨free, new⟩ := (User.addFollower_eq ..).mp added
  intro same
  obtain ⟨stored, found⟩ := UnorderedMap.lookup_of_mem both.2
  have here := congrFun same userToFollow
  rw [withFollower_apply, if_pos rfl, records, found, Option.map_some, Option.map_some,
    Option.some.injEq, Record.follow] at here
  rw [ProfileManager.userOf, found, Option.getD_some] at free new
  have name : ¬ stored.record.1 = follower := free
  rw [if_neg name] at here
  refine new (List.mem_toFinset.mp ?_)
  have members : insert follower stored.followers.toFinset = stored.followers.toFinset :=
    congrArg Prod.snd here
  rw [← members]
  exact Finset.mem_insert_self follower stored.followers.toFinset

/-- If the file does not open as it is, or nothing arrives, the follow is missing from it. -/
theorem opens_of_staysAgreed (agrees : Agrees store)
    (accepted : ¬ Refused store.manager follower userToFollow)
    (stays : StaysAgreed onUpdateCallback outcome store (.follow follower userToFollow)) :
    Csv.OpensFile outcome store.file ∧ 0 < outcome.accepted := by
  obtain ⟨users, loaded, same⟩ := agrees
  obtain ⟨both, added⟩ := not_not.mp (mt refused_iff.mpr accepted)
  obtain ⟨after, success, called, ⟨known, final, agreed⟩, -⟩ := stays
  have unchanged : ¬ ∃ answer, Csv.appendToLineWith outcome splitMark store.file 0 userToFollow
      [follower] = .ok (store.file, answer) := by
    rintro ⟨answer, saved⟩
    obtain ⟨reply, result⟩ := @callWith_follow onUpdateCallback outcome store _ _ accepted _ _ saved
    obtain ⟨rfl, rfl⟩ := Prod.mk.inj (Except.ok.inj (result.symm.trans called))
    cases loaded.symm.trans final
    rw [records_follow both.2] at agreed
    exact withFollower_ne accepted (agreed.symm.trans same)
  by_cases opens : Csv.OpensFile outcome store.file
  · refine ⟨opens, Nat.pos_of_ne_zero fun none => unchanged ?_⟩
    have registered := (mem_of_records same follower).mpr both.1
    cases shape : store.file with
    | none =>
      rw [shape] at loaded
      cases loaded
      exact absurd registered (UnorderedMap.notMem_empty follower)
    | some content =>
      rw [shape] at loaded opens
      refine ⟨true, ?_⟩
      rw [Csv.appendToLineWith_opens opens (lines_of_readUsers loaded)
        (free_of_readUsers loaded registered), none, List.take_zero, List.length_nil,
        List.drop_zero, List.nil_append]
  · exfalso
    rcases Csv.openWith_fails opens with ⟨emptied, -⟩ | ⟨left, closed⟩
    · obtain ⟨answer, result⟩ := @callWith_follow onUpdateCallback outcome store _ _ accepted _ _
        (Csv.appendToLineWith_empty emptied)
      obtain ⟨rfl, rfl⟩ := Prod.mk.inj (Except.ok.inj (result.symm.trans called))
      cases final
    · refine unchanged ⟨false, ?_⟩
      rw [Csv.appendToLineWith_fails closed, left]

/-- The rows that the program writes for users with clean names: everybody once, and each
follower once. -/
structure Tidy (rows : List UserRow) : Prop where
  clean : CleanRows rows
  distinct : (rows.map Prod.fst).Nodup
  followers : ∀ row ∈ rows, row.2.Nodup

theorem Recorded.of_records {first second : ProfileManager} {rows : List UserRow}
    (recorded : Recorded first rows) (same : records first.users = records second.users) :
    Recorded second rows := by
  have each : ∀ name, (second.userOf name).record = (first.userOf name).record := by
    intro name
    rw [record_userOf, record_userOf, same]
  refine recorded.of_same (fun name => (mem_of_records same name).symm) ?_ ?_
  · intro name
    exact congrArg Prod.fst (each name)
  · intro name other
    have members := congrArg Prod.snd (each name)
    rw [← List.mem_toFinset, ← List.mem_toFinset]
    exact iff_of_eq (congrArg (other ∈ ·) members)

/-- A file that is read as some users has room for all their rows. -/
theorem length_of_readUsers {content : Text} {users : UnorderedMap Text User}
    (loaded : readUsers (some content) = .ok users) {rows : List UserRow}
    (recorded : Recorded { users } rows) (nonempty : rows ≠ [])
    (columns : ∀ row ∈ rows, row.columns.Nodup) :
    (Csv.rowsText splitMark (rows.map UserRow.columns)).length ≤ content.length := by
  have filled : ∀ row ∈ rows.map UserRow.columns, row ≠ [] := by
    intro row member
    obtain ⟨source, -, rfl⟩ := List.mem_map.mp member
    exact List.cons_ne_nil source.1 source.2
  have heads : ((rows.map UserRow.columns).map List.head?).Nodup := by
    have same : (rows.map UserRow.columns).map List.head? = (rows.map Prod.fst).map some := by
      simp [UserRow.columns]
    rw [same]
    exact recorded.distinct.map (Option.some_injective Text)
  have covered : ∀ row ∈ rows.map UserRow.columns,
      ∃ other ∈ Csv.readAll splitMark (some content), other.head? = row.head? ∧ row ⊆ other := by
    intro row member
    obtain ⟨source, listed, rfl⟩ := List.mem_map.mp member
    have known : source.1 ∈ users := (recorded.names source.1).mpr (List.mem_map_of_mem listed)
    obtain ⟨user, found⟩ := UnorderedMap.lookup_of_mem known
    rcases row_of_loadRows loaded found with before | ⟨columns, inFile, inside⟩
    · cases before
    · refine ⟨source.1 :: columns, inFile, rfl, List.cons_subset_cons source.1 ?_⟩
      intro name follows
      have here := (recorded.followers source listed name).mpr follows
      rw [ProfileManager.userOf, found, Option.getD_some] at here
      exact inside name here
  have distinct : ∀ row ∈ rows.map UserRow.columns, row.Nodup := by
    rw [List.forall_mem_map]
    exact columns
  have size := @Csv.length_rowsText splitMark _ (by simpa using nonempty) filled
  have needed := Csv.columnsLength_le heads distinct covered
  have room := @Csv.columnsLength_readAll splitMark content
  omega

/-- The rows of a tidy file with the follower in them are tidy too. -/
theorem Tidy.nodup_addToRow {rows : List UserRow} (tidy : Tidy rows)
    (different : userToFollow ≠ follower)
    (new : ∀ row ∈ rows, row.1 = userToFollow → follower ∉ row.2) :
    ∀ row ∈ rows.map (addToRow userToFollow follower), row.columns.Nodup := by
  intro row member
  obtain ⟨old, listed, rfl⟩ := List.mem_map.mp member
  have notSelf := tidy.clean.notSelf old listed
  have once := tidy.followers old listed
  unfold addToRow
  split
  next here =>
    have more : (old.2 ++ [follower]).Nodup :=
      once.append (List.nodup_singleton follower)
        (List.disjoint_singleton.mpr (new old listed here))
    refine List.nodup_cons.mpr ⟨?_, more⟩
    rw [List.mem_append, List.mem_singleton, not_or]
    exact ⟨notSelf, here ▸ different⟩
  next => exact List.nodup_cons.mpr ⟨notSelf, once⟩

theorem cleanRows_columns {rows : List UserRow} (clean : CleanRows rows) :
    ∀ row ∈ rows.map UserRow.columns, Csv.CleanRow splitMark row := by
  rw [List.forall_mem_map]
  exact clean.columns

theorem columns_addToRows (rows : List UserRow) :
    (rows.map (addToRow userToFollow follower)).map UserRow.columns =
      (rows.map UserRow.columns).map (Csv.extend 0 userToFollow [follower]) := by
  rw [List.map_map, List.map_map]
  exact List.map_congr_left fun row _ => columns_addToRow userToFollow follower row

/-- A tidy file can be written anew and gets longer by it. -/
theorem Tidy.rewritable {rows : List UserRow} (tidy : Tidy rows)
    (column : Csv.Clean splitMark follower) {own : UserRow} (listed : own ∈ rows)
    (head : own.1 = userToFollow) :
    Rewritable (Csv.rowsText splitMark (rows.map UserRow.columns)) userToFollow follower ∧
      (Csv.rowsText splitMark (rows.map UserRow.columns)).length <
        (Csv.rewrittenText splitMark 0 userToFollow [follower]
          (Csv.rowsText splitMark (rows.map UserRow.columns))).length := by
  have clean := cleanRows_columns tidy.clean
  have nonempty : rows.map UserRow.columns ≠ [] := by
    simpa using List.ne_nil_of_mem listed
  have lines := Csv.split_rowsText nonempty clean (by decide)
  have lossless := Csv.trailing_rowsText nonempty clean (by decide)
  have length := @Csv.length_rewrittenText splitMark 0 userToFollow [follower]
    (Csv.rowsText splitMark (rows.map UserRow.columns))
  have ends : ∀ line ∈ split (Csv.rowsText splitMark (rows.map UserRow.columns)) [newline],
      line.getLast? ≠ some splitMark := by
    rw [lines, List.forall_mem_map]
    exact fun row member => Csv.getLast?_joinStrings (clean row member)
  have found : 0 < Csv.growth splitMark 0 userToFollow [follower]
      (Csv.rowsText splitMark (rows.map UserRow.columns)) := by
    have inFile := List.mem_map_of_mem (f := UserRow.columns) listed
    refine Nat.mul_pos (List.countP_pos_iff.mpr ⟨joinStrings [splitMark] own.columns, ?_, ?_⟩) ?_
    · rw [lines]
      exact List.mem_map_of_mem inFile
    · rw [decide_eq_true_iff, Csv.Matches, Csv.parseRow_join (clean _ inFile), ← head]
      rfl
    · simp [Csv.columnsLength]
  refine ⟨⟨column.1, by omega, ?_⟩, by omega⟩
  rintro line member (rfl | ⟨front, rfl⟩)
  · exact absurd rfl (ends _ member)
  · exact absurd (by simp) (ends _ member)

/-- Of a tidy file, nothing less will do: any text that is read as the users after the
follow is as long as the rows with the follower in them. -/
theorem follows_of_staysAgreed (agrees : Agrees store) {rows : List UserRow} (tidy : Tidy rows)
    (shape : store.file = fileOf rows) (accepted : ¬ Refused store.manager follower userToFollow)
    (stays : StaysAgreed onUpdateCallback outcome store (.follow follower userToFollow)) :
    Follows outcome store.file follower userToFollow := by
  have opens := (opens_of_staysAgreed agrees accepted stays).1
  obtain ⟨users, loaded, same⟩ := agrees
  obtain ⟨both, added⟩ := not_not.mp (mt refused_iff.mpr accepted)
  obtain ⟨free, new⟩ := (User.addFollower_eq ..).mp added
  obtain ⟨stored, read, fresh⟩ := readUsers_fileOf tidy.distinct tidy.clean
  have recorded : Recorded store.manager rows := by
    rw [← shape, loaded] at read
    cases read
    exact fresh.of_records same
  obtain ⟨own, listed, head⟩ := recorded.row_of_mem both.2
  obtain ⟨other, otherListed, otherHead⟩ := recorded.row_of_mem both.1
  have column : Csv.Clean splitMark follower :=
    otherHead ▸ (tidy.clean.columns other otherListed).clean other.1 List.mem_cons_self
  have different : userToFollow ≠ follower := by
    rwa [← head, recorded.usernames own listed, head] at free
  have nodup := tidy.nodup_addToRow different fun row member this =>
    mt (recorded.followers row member follower).mpr (this ▸ new)
  have next := recorded.addFollower both.2 added
  obtain ⟨rewritable, longer⟩ := tidy.rewritable column listed head
  have some := List.ne_nil_of_mem listed
  have mark := free_of_readUsers loaded ((mem_of_records same follower).mpr both.1)
  have whole := @Csv.rewrittenText_rowsText splitMark 0 userToFollow [follower]
    (rows.map UserRow.columns) (by simpa using some) (cleanRows_columns tidy.clean) (by decide) mark
  rw [← columns_addToRows] at whole
  rw [fileOf, if_neg some] at shape
  rw [shape] at loaded opens ⊢
  have saved := @Csv.appendToLineWith_opens splitMark outcome 0 userToFollow [follower] _ opens
    (lines_of_readUsers loaded) mark
  obtain ⟨after, success, called, ⟨known, final, agreed⟩, -⟩ := stays
  rw [← shape] at saved
  obtain ⟨answer, result⟩ :=
    @callWith_follow onUpdateCallback outcome store _ _ accepted _ _ saved
  obtain ⟨rfl, rfl⟩ := Prod.mk.inj (Except.ok.inj (result.symm.trans called))
  have size := length_of_readUsers final (next.of_records agreed.symm) (by simpa using some) nodup
  have length := @Csv.length_rewrittenText splitMark 0 userToFollow [follower]
    (Csv.rowsText splitMark (rows.map UserRow.columns))
  rw [← whole, List.length_append, List.length_drop, List.length_take] at size
  exact ⟨_, rfl, opens, rewritable, by omega⟩

/-- When nothing fails, the call is the one that cannot fail. -/
theorem callWith_follow_apply (onUpdateCallback : ProfileManager → Bool)
    {users : UnorderedMap Text User} (loaded : readUsers store.file = .ok users)
    (registered : follower ∈ users) (accepted : ¬ Refused store.manager follower userToFollow)
    (follows : Follows outcome store.file follower userToFollow) :
    (store.callWith onUpdateCallback outcome (.follow follower userToFollow)).map Prod.fst =
      store.apply onUpdateCallback (.call (.follow follower userToFollow)) := by
  obtain ⟨content, shape, opens, -, enough⟩ := follows
  obtain ⟨both, added⟩ := not_not.mp (mt refused_iff.mpr accepted)
  rw [shape] at loaded opens
  have saved := Csv.appendToLineWith_accepted opens (lines_of_readUsers loaded)
    (free_of_readUsers loaded registered) enough
  simp only [Store.callWith, Store.apply, ProfileManager.call, ProfileManager.follow, if_pos both,
    added, if_true, saveAllWith, saveWith, saveNewFollowerWith, saveAll, save, saveNewFollower,
    shape, saved, Csv.openFile, Option.getD_some]
  cases Csv.appendToLine splitMark content 0 userToFollow [follower] <;> rfl

end Following

/-- For every outcome: a new name stays in step with the file exactly if it registers, and a
follow does if it is refused or follows. A follow needs a file that opens and takes
something, and if the file is tidy it needs all of it. -/
theorem staysAgreed_iff (onUpdateCallback : ProfileManager → Bool) (outcome : Csv.FileOutcome)
    (store : Store) (agrees : Agrees store) :
    (∀ name session, name ∉ store.manager.users →
      (StaysAgreed onUpdateCallback outcome store (.startSession name session) ↔
        Registers outcome store.file name)) ∧
    ∀ follower userToFollow,
      (Refused store.manager follower userToFollow ∨
          Follows outcome store.file follower userToFollow →
        StaysAgreed onUpdateCallback outcome store (.follow follower userToFollow)) ∧
      (StaysAgreed onUpdateCallback outcome store (.follow follower userToFollow) →
        Refused store.manager follower userToFollow ∨
          Csv.OpensFile outcome store.file ∧ 0 < outcome.accepted) ∧
      ∀ rows, Tidy rows → store.file = fileOf rows →
        StaysAgreed onUpdateCallback outcome store (.follow follower userToFollow) →
        Refused store.manager follower userToFollow ∨
          Follows outcome store.file follower userToFollow := by
  refine ⟨fun name session new => staysAgreed_startSession agrees new session, ?_⟩
  intro follower userToFollow
  refine ⟨staysAgreed_follow agrees, ?_, ?_⟩
  · intro stays
    by_cases refused : Refused store.manager follower userToFollow
    · exact Or.inl refused
    · exact Or.inr (opens_of_staysAgreed agrees refused stays)
  · intro rows tidy shape stays
    by_cases refused : Refused store.manager follower userToFollow
    · exact Or.inl refused
    · exact Or.inr (follows_of_staysAgreed agrees tidy shape refused stays)

/-- Two users and their file. -/
def smallStore : Store where
  manager := {
    users := (UnorderedMap.emplace ∅ ['a'] { id := 1, username := ['a'] }).emplace ['b']
      { id := 2, username := ['b'] } }
  file := some ['a', newline, 'b']

theorem agrees_smallStore : Agrees smallStore :=
  ⟨smallStore.manager.users, by decide +kernel, rfl⟩

/-- All of it arrives. -/
def granted : Csv.FileOutcome where
  readable := true
  creatable := true
  opened := true
  accepted := 9

/-- The last of the five bytes that a follow writes does not arrive. -/
def cutShort : Csv.FileOutcome where
  readable := true
  creatable := true
  opened := true
  accepted := 4

/-- The file opens for reading and then not for writing. -/
def denied : Csv.FileOutcome where
  readable := true
  creatable := true
  opened := false
  accepted := 9

theorem tidy_smallStore : Tidy [(['a'], []), (['b'], [])] where
  clean := {
    columns := by
      intro row member
      refine ⟨List.cons_ne_nil row.1 row.2, ?_⟩
      unfold Csv.Clean
      revert row
      decide +kernel
    notSelf := by decide +kernel }
  distinct := by decide +kernel
  followers := by decide +kernel

theorem accepted_smallStore : ¬ Refused smallStore.manager ['b'] ['a'] := by
  rw [refused_iff]
  decide +kernel

theorem staysAgreed_smallStore :
    StaysAgreed (fun _ => true) granted smallStore (.startSession ['c'] ⟨7, ['c']⟩) ∧
      StaysAgreed (fun _ => true) granted smallStore (.follow ['b'] ['a']) ∧
      ¬ StaysAgreed (fun _ => true) cutShort smallStore (.follow ['b'] ['a']) := by
  have main := staysAgreed_iff (fun _ => true) granted smallStore agrees_smallStore
  have opens : Csv.OpensFile granted smallStore.file := ⟨rfl, Or.inl rfl⟩
  refine ⟨(main.1 ['c'] ⟨7, ['c']⟩ (by decide)).mpr ⟨opens, by decide, by decide⟩, ?_, ?_⟩
  · refine (main.2 ['b'] ['a']).1 (Or.inr ⟨_, rfl, opens, ⟨by decide, ?_, ?_⟩, ?_⟩)
    · decide +kernel
    · decide +kernel
    · decide +kernel
  · intro stays
    have cut := staysAgreed_iff (fun _ => true) cutShort smallStore agrees_smallStore
    rcases (cut.2 ['b'] ['a']).2.2 _ tidy_smallStore rfl stays with refused | follows
    · exact accepted_smallStore refused
    · obtain ⟨content, shape, -, -, enough⟩ := follows
      cases shape
      revert enough
      decide +kernel

/-- Both calls return true, and nothing of them is in the file. -/
theorem not_staysAgreed_denied :
    Agrees smallStore ∧
      (['c'] ∉ smallStore.manager.users ∧
        (smallStore.callWith (fun _ => true) denied (.startSession ['c'] ⟨7, ['c']⟩)).map Prod.snd =
          .ok true ∧
        ¬ StaysAgreed (fun _ => true) denied smallStore (.startSession ['c'] ⟨7, ['c']⟩)) ∧
      (smallStore.callWith (fun _ => true) denied (.follow ['b'] ['a'])).map Prod.snd = .ok true ∧
      ¬ StaysAgreed (fun _ => true) denied smallStore (.follow ['b'] ['a']) := by
  refine ⟨agrees_smallStore, ⟨by decide, by decide +kernel, ?_⟩, by decide +kernel, ?_⟩
  · intro stays
    have registers := (staysAgreed_startSession agrees_smallStore (by decide) _).mp stays
    exact absurd registers.1.1 (by decide)
  · intro stays
    have opens := opens_of_staysAgreed agrees_smallStore accepted_smallStore stays
    exact absurd opens.1.1 (by decide)

end TwitterClone
