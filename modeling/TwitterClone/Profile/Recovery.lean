import TwitterClone.Foundation.Machine
import TwitterClone.Profile.Persistency

/-! The user file follows the manager: after every operation, reading it gives
the users and followers that the manager holds. -/
namespace TwitterClone

open Foundation ProfilePersistency

/-- A user and the followers, as one row of the file has them. -/
abbrev UserRow := Text × List Text

def UserRow.columns (row : UserRow) : List Text := row.1 :: row.2

/-- The file with these rows; without rows it was never written. -/
def fileOf (rows : List UserRow) : Option Text :=
  if rows = [] then none else some (Csv.rowsText splitMark (rows.map UserRow.columns))

/-- The rows list the users of the map, each with the same followers. -/
structure Recorded (manager : ProfileManager) (rows : List UserRow) : Prop where
  distinct : (rows.map Prod.fst).Nodup
  names : ∀ name, name ∈ manager.users ↔ name ∈ rows.map Prod.fst
  usernames : ∀ row ∈ rows, (manager.userOf row.1).username = row.1
  followers : ∀ row ∈ rows, ∀ name, name ∈ (manager.userOf row.1).followers ↔ name ∈ row.2

/-- Names without separators, and nobody among the own followers. -/
structure CleanRows (rows : List UserRow) : Prop where
  columns : ∀ row ∈ rows, Csv.CleanRow splitMark row.columns
  notSelf : ∀ row ∈ rows, row.1 ∉ row.2

/-- What every store keeps: its file has the rows of its users. -/
def Kept (store : Store) : Prop :=
  ∃ rows, Recorded store.manager rows ∧ CleanRows rows ∧ store.file = fileOf rows

section Loading

theorem addFollowers_spec (followers : List Text) (user : User)
    (notSelf : user.username ∉ followers) :
    (followers.foldl (fun user follower => (user.addFollower follower).1) user).username =
        user.username ∧
      ∀ name, name ∈ (followers.foldl (fun user follower => (user.addFollower follower).1)
        user).followers ↔ name ∈ user.followers ∨ name ∈ followers := by
  induction followers generalizing user with
  | nil => simp
  | cons follower rest ih =>
    rw [List.mem_cons, not_or] at notSelf
    have same := (User.frame_addFollower user follower).2.1
    obtain ⟨username, members⟩ := ih (user.addFollower follower).1 (by rw [same]; exact notSelf.2)
    refine ⟨username.trans same, ?_⟩
    intro name
    rw [List.foldl_cons, members, User.mem_followers_addFollower, User.addFollower_eq, List.mem_cons]
    constructor
    · rintro ((old | ⟨_, new⟩) | later)
      · exact Or.inl old
      · exact Or.inr (Or.inl new)
      · exact Or.inr (Or.inr later)
    · rintro (old | new | later)
      · exact Or.inl (Or.inl old)
      · by_cases known : follower ∈ user.followers
        · exact Or.inl (Or.inl (new ▸ known))
        · exact Or.inl (Or.inr ⟨⟨notSelf.1, known⟩, new⟩)
      · exact Or.inr later

/-- Loading rows of distinct users adds each of them with its followers. -/
theorem loadRows_spec (rows : List UserRow) (distinct : (rows.map Prod.fst).Nodup)
    (notSelf : ∀ row ∈ rows, row.1 ∉ row.2) (userId : Nat) (users : UnorderedMap Text User)
    (fresh : ∀ row ∈ rows, row.1 ∉ users) :
    ∃ loaded, loadRows userId users (rows.map UserRow.columns) = .ok loaded ∧
      (∀ name, name ∈ loaded ↔ name ∈ users ∨ name ∈ rows.map Prod.fst) ∧
      (∀ name ∈ users, loaded.lookup name = users.lookup name) ∧
      ∀ row ∈ rows, ∃ user, loaded.lookup row.1 = some user ∧ user.username = row.1 ∧
        ∀ name, name ∈ user.followers ↔ name ∈ row.2 := by
  induction rows generalizing userId users with
  | nil => exact ⟨users, rfl, by simp, fun _ _ => rfl, by simp⟩
  | cons row rest ih =>
    obtain ⟨absent, distinctRest⟩ := List.nodup_cons.mp distinct
    obtain ⟨user, built⟩ : ∃ user, user = row.2.foldl
        (fun user follower => (user.addFollower follower).1)
        ({ id := int32 userId, username := row.1 } : User) := ⟨_, rfl⟩
    obtain ⟨username, members⟩ := addFollowers_spec row.2
      { id := int32 userId, username := row.1 } (notSelf row List.mem_cons_self)
    rw [← built] at username members
    have here := fresh row List.mem_cons_self
    have freshRest : ∀ other ∈ rest, other.1 ∉ users.emplace row.1 user := by
      intro other member
      rw [UnorderedMap.mem_emplace, not_or]
      exact ⟨fun same => absent (same ▸ List.mem_map_of_mem member),
        fresh other (List.mem_cons_of_mem row member)⟩
    obtain ⟨loaded, result, names, kept, each⟩ := ih distinctRest
      (fun other member => notSelf other (List.mem_cons_of_mem row member)) (userId + 1)
      (users.emplace row.1 user) freshRest
    refine ⟨loaded, ?_, ?_, ?_, ?_⟩
    · rw [List.map_cons, UserRow.columns, loadRows, ← built]
      exact result
    · intro name
      rw [names, UnorderedMap.mem_emplace, List.map_cons, List.mem_cons]
      tauto
    · intro name member
      rw [kept name ((UnorderedMap.mem_emplace ..).mpr (Or.inr member)), UnorderedMap.lookup_emplace,
        if_neg]
      intro new
      exact here (new.1 ▸ member)
    · intro other member
      rcases List.mem_cons.mp member with first | later
      · subst first
        refine ⟨user, ?_, username, by simpa using members⟩
        rw [kept other.1 (by simp), UnorderedMap.lookup_emplace, if_pos ⟨rfl, here⟩]
      · exact each other later

theorem readAll_fileOf {rows : List UserRow} (clean : CleanRows rows) :
    Csv.readAll splitMark (fileOf rows) = rows.map UserRow.columns := by
  unfold fileOf
  split
  next empty => simp [empty, Csv.readAll]
  next some =>
    have columns : ∀ row ∈ rows.map UserRow.columns, Csv.CleanRow splitMark row := by
      intro row member
      obtain ⟨source, inside, same⟩ := List.mem_map.mp member
      exact same ▸ clean.columns source inside
    rw [Csv.readAll, Csv.readRows_rowsText (by simpa using some) columns (by decide)]

/-- Reading the file gives a map with the rows of the file. -/
theorem readUsers_fileOf {rows : List UserRow} (distinct : (rows.map Prod.fst).Nodup)
    (clean : CleanRows rows) :
    ∃ users, readUsers (fileOf rows) = .ok users ∧ Recorded { users } rows := by
  obtain ⟨users, loaded, names, -, each⟩ :=
    loadRows_spec rows distinct clean.notSelf 1 ∅ (by simp)
  refine ⟨users, by rw [readUsers, readAll_fileOf clean, loaded], distinct, ?_, ?_, ?_⟩
  · intro name
    rw [names]
    simp
  · intro row member
    obtain ⟨user, found, username, -⟩ := each row member
    rw [ProfileManager.userOf, found]
    exact username
  · intro row member
    obtain ⟨user, found, -, followers⟩ := each row member
    rw [ProfileManager.userOf, found]
    exact followers

end Loading

section Saving

theorem openFile_fileOf (rows : List UserRow) :
    Csv.openFile (fileOf rows) = Csv.rowsText splitMark (rows.map UserRow.columns) := by
  unfold fileOf Csv.openFile
  split
  next empty =>
    rw [empty]
    rfl
  next => rfl

theorem saveNewUser_fileOf {rows : List UserRow} (clean : CleanRows rows) (username : Text) :
    saveNewUser (fileOf rows) username = .ok (fileOf (rows ++ [(username, [])])) := by
  have columns : ∀ row ∈ rows.map UserRow.columns, Csv.CleanRow splitMark row := by
    intro row member
    obtain ⟨source, inside, same⟩ := List.mem_map.mp member
    exact same ▸ clean.columns source inside
  have appended := Csv.append_row columns (List.cons_ne_nil username [])
  have shape : fileOf (rows ++ [(username, [])]) =
      some (Csv.rowsText splitMark (rows.map UserRow.columns ++ [[username]])) := by
    simp [fileOf, UserRow.columns]
  rw [saveNewUser, openFile_fileOf, appended, shape]

/-- The row of one user with a new follower at its end. -/
def addToRow (username follower : Text) (row : UserRow) : UserRow :=
  if row.1 = username then (row.1, row.2 ++ [follower]) else row

@[simp] theorem fst_addToRow (username follower : Text) (row : UserRow) :
    (addToRow username follower row).1 = row.1 := by
  unfold addToRow
  split <;> rfl

theorem columns_addToRow (username follower : Text) (row : UserRow) :
    (addToRow username follower row).columns =
      Csv.extend 0 username [follower] row.columns := by
  by_cases here : row.1 = username
  · simp [addToRow, Csv.extend, UserRow.columns, here]
  · simp [addToRow, Csv.extend, UserRow.columns, here]

theorem saveNewFollower_fileOf {rows : List UserRow} (nonempty : rows ≠ []) (clean : CleanRows rows)
    (username follower : Text) :
    saveNewFollower (fileOf rows) username follower =
      .ok (fileOf (rows.map (addToRow username follower))) := by
  have columns : ∀ row ∈ rows.map UserRow.columns, Csv.CleanRow splitMark row := by
    intro row member
    obtain ⟨source, inside, same⟩ := List.mem_map.mp member
    exact same ▸ clean.columns source inside
  have edited := Csv.appendToLine_rows (by simpa using nonempty) columns (by decide) 0 username
    [follower]
  have shape : fileOf (rows.map (addToRow username follower)) =
      some (Csv.rowsText splitMark
        ((rows.map UserRow.columns).map (Csv.extend 0 username [follower]))) := by
    have same : (rows.map (addToRow username follower)).map UserRow.columns =
        (rows.map UserRow.columns).map (Csv.extend 0 username [follower]) := by
      rw [List.map_map, List.map_map]
      exact List.map_congr_left fun row _ => columns_addToRow username follower row
    rw [fileOf, if_neg (by simpa using nonempty), same]
  rw [saveNewFollower, openFile_fileOf, edited, shape]

end Saving

section Steps

variable {manager : ProfileManager} {rows : List UserRow}

/-- Only names, usernames and follower sets are recorded. -/
theorem Recorded.of_same {next : ProfileManager} (recorded : Recorded manager rows)
    (names : ∀ name, name ∈ next.users ↔ name ∈ manager.users)
    (usernames : ∀ name, (next.userOf name).username = (manager.userOf name).username)
    (followers : ∀ name other,
      other ∈ (next.userOf name).followers ↔ other ∈ (manager.userOf name).followers) :
    Recorded next rows := by
  refine ⟨recorded.distinct, ?_, ?_, ?_⟩
  · intro name
    rw [names, recorded.names]
  · intro row member
    rw [usernames]
    exact recorded.usernames row member
  · intro row member name
    rw [followers]
    exact recorded.followers row member name

theorem Recorded.setUser (recorded : Recorded manager rows) {username : Text}
    (present : username ∈ manager.users) {user : User}
    (sameName : user.username = (manager.userOf username).username)
    (sameFollowers : ∀ name, name ∈ user.followers ↔ name ∈ (manager.userOf username).followers) :
    Recorded (manager.setUser username user) rows := by
  apply recorded.of_same (fun name => ProfileManager.mem_setUser username user name)
  · intro name
    rw [ProfileManager.userOf_setUser present]
    split
    next here => rw [here, sameName]
    next => rfl
  · intro name other
    rw [ProfileManager.userOf_setUser present]
    split
    next here => rw [here, sameFollowers]
    next => rfl

theorem Recorded.row_of_mem (recorded : Recorded manager rows) {username : Text}
    (present : username ∈ manager.users) : ∃ row ∈ rows, row.1 = username := by
  obtain ⟨row, member, same⟩ := List.mem_map.mp ((recorded.names username).mp present)
  exact ⟨row, member, same⟩

theorem Recorded.newUser (recorded : Recorded manager rows) {username : Text}
    (absent : username ∉ manager.users) {user : User} (sameName : user.username = username)
    (nobody : user.followers = []) :
    Recorded { users := manager.users.emplace username user } (rows ++ [(username, [])]) := by
  have lookup : ∀ name, ({ users := manager.users.emplace username user } : ProfileManager).userOf
      name = if name = username then user else manager.userOf name := by
    intro name
    rw [ProfileManager.userOf, UnorderedMap.lookup_emplace, ProfileManager.userOf]
    by_cases here : name = username
    · simp [here, absent]
    · simp [here]
  have different : ∀ row ∈ rows, row.1 ≠ username := by
    intro row member same
    exact absent ((recorded.names username).mpr (same ▸ List.mem_map_of_mem member))
  refine ⟨?_, ?_, ?_, ?_⟩
  · rw [List.map_append]
    apply recorded.distinct.append (List.nodup_singleton _)
    rw [List.disjoint_singleton]
    exact fun member => absent ((recorded.names username).mpr member)
  · intro name
    rw [UnorderedMap.mem_emplace, recorded.names, List.map_append, List.mem_append]
    simp [or_comm]
  · intro row member
    rw [lookup]
    rcases List.mem_append.mp member with old | new
    · rw [if_neg (different row old)]
      exact recorded.usernames row old
    · rw [List.mem_singleton.mp new, if_pos rfl, sameName]
  · intro row member name
    rw [lookup]
    rcases List.mem_append.mp member with old | new
    · rw [if_neg (different row old)]
      exact recorded.followers row old name
    · rw [List.mem_singleton.mp new, if_pos rfl, nobody]

theorem Recorded.addFollower (recorded : Recorded manager rows) {username follower : Text}
    (present : username ∈ manager.users)
    (added : ((manager.userOf username).addFollower follower).2 = true) :
    Recorded (manager.setUser username ((manager.userOf username).addFollower follower).1)
      (rows.map (addToRow username follower)) := by
  refine ⟨?_, ?_, ?_, ?_⟩
  · rw [List.map_map]
    have same : Prod.fst ∘ addToRow username follower = Prod.fst :=
      funext fun row => fst_addToRow username follower row
    rw [same]
    exact recorded.distinct
  · intro name
    rw [ProfileManager.mem_setUser, recorded.names, List.map_map]
    have same : Prod.fst ∘ addToRow username follower = Prod.fst :=
      funext fun row => fst_addToRow username follower row
    rw [same]
  · intro row member
    obtain ⟨old, inside, shape⟩ := List.mem_map.mp member
    rw [← shape, fst_addToRow, ProfileManager.userOf_setUser present]
    split
    next here =>
      rw [(User.frame_addFollower ..).2.1, ← here]
      exact recorded.usernames old inside
    next => exact recorded.usernames old inside
  · intro row member name
    obtain ⟨old, inside, shape⟩ := List.mem_map.mp member
    rw [← shape, fst_addToRow, ProfileManager.userOf_setUser present]
    by_cases here : old.1 = username
    · rw [if_pos here, User.mem_followers_addFollower, added, ← here, recorded.followers old inside]
      simp [addToRow, here]
    · rw [if_neg here, recorded.followers old inside]
      simp [addToRow, here]

theorem CleanRows.newUser (clean : CleanRows rows) {username : Text}
    (name : NameWithout Store.separators username) : CleanRows (rows ++ [(username, [])]) := by
  obtain ⟨nonempty, free⟩ := name
  constructor
  · intro row member
    rcases List.mem_append.mp member with old | new
    · exact clean.columns row old
    · rw [List.mem_singleton.mp new]
      refine ⟨by simp [UserRow.columns], ?_⟩
      intro column inside
      rw [List.mem_singleton.mp inside]
      exact ⟨nonempty, free splitMark (by simp [Store.separators]),
        free newline (by simp [Store.separators])⟩
  · intro row member
    rcases List.mem_append.mp member with old | new
    · exact clean.notSelf row old
    · rw [List.mem_singleton.mp new]
      exact List.not_mem_nil

theorem CleanRows.addFollower (clean : CleanRows rows) {username follower : Text}
    (column : Csv.Clean splitMark follower) (different : username ≠ follower) :
    CleanRows (rows.map (addToRow username follower)) := by
  constructor
  · intro row member
    obtain ⟨old, inside, shape⟩ := List.mem_map.mp member
    have before := clean.columns old inside
    rw [← shape, columns_addToRow]
    refine ⟨Csv.extend_ne_nil before.nonempty _ _ _, ?_⟩
    intro other among
    unfold Csv.extend at among
    split at among
    next =>
      rcases List.mem_append.mp among with first | last
      · exact before.clean other first
      · rw [List.mem_singleton.mp last]
        exact column
    next => exact before.clean other among
  · intro row member
    obtain ⟨old, inside, shape⟩ := List.mem_map.mp member
    have before := clean.notSelf old inside
    rw [← shape, fst_addToRow]
    unfold addToRow
    split
    next here =>
      rw [List.mem_append, List.mem_singleton, not_or]
      exact ⟨before, here ▸ different⟩
    next => exact before

end Steps

section Runs

variable (onUpdateCallback : ProfileManager → Bool) {store : Store}

private theorem Kept.silent (kept : Kept store) {manager : ProfileManager}
    (same : ∀ rows, Recorded store.manager rows → Recorded manager rows) :
    Kept { store with manager } := by
  obtain ⟨rows, recorded, clean, file⟩ := kept
  exact ⟨rows, same rows recorded, clean, file⟩

private theorem Kept.startSession (kept : Kept store) {username : Text} (session : ProfileSession)
    (name : NameWithout Store.separators username) :
    ∃ file, saveAll store.file
        (store.manager.startSession onUpdateCallback username session).saves = .ok file ∧
      Kept ⟨(store.manager.startSession onUpdateCallback username session).manager, file⟩ := by
  unfold ProfileManager.startSession
  by_cases present : username ∈ store.manager.users
  · rw [if_pos present]
    obtain ⟨-, sameName, sameFollowers⟩ :=
      User.frame_addSession (store.manager.userOf username) session
    exact ⟨store.file, rfl, kept.silent fun rows recorded =>
      recorded.setUser present sameName fun name => by rw [sameFollowers]⟩
  · rw [if_neg present]
    obtain ⟨rows, recorded, clean, file⟩ := kept
    obtain ⟨-, sameName, nobody⟩ := User.frame_addSession
      ({ id := int32 store.manager.users.entries.length, username } : User) session
    refine ⟨fileOf (rows ++ [(username, [])]), ?_, rows ++ [(username, [])],
      recorded.newUser present sameName nobody, clean.newUser name, rfl⟩
    rw [file, saveAll, save, saveNewUser_fileOf clean]
    rfl

private theorem Kept.follow (kept : Kept store) (follower userToFollow : Text) :
    ∃ file, saveAll store.file
        (store.manager.follow onUpdateCallback follower userToFollow).saves = .ok file ∧
      Kept ⟨(store.manager.follow onUpdateCallback follower userToFollow).manager, file⟩ := by
  unfold ProfileManager.follow
  by_cases both : follower ∈ store.manager.users ∧ userToFollow ∈ store.manager.users
  · rw [if_pos both]
    have sameName := (User.frame_addFollower (store.manager.userOf userToFollow) follower).2.1
    dsimp only
    by_cases added : ((store.manager.userOf userToFollow).addFollower follower).2 = true
    · rw [if_pos added]
      obtain ⟨rows, recorded, clean, file⟩ := kept
      obtain ⟨row, member, head⟩ := recorded.row_of_mem both.1
      have column : Csv.Clean splitMark follower :=
        head ▸ (clean.columns row member).clean row.1 List.mem_cons_self
      obtain ⟨own, ownMember, ownHead⟩ := recorded.row_of_mem both.2
      have different : userToFollow ≠ follower := by
        have other := ((User.addFollower_eq _ _).mp added).1
        rwa [← ownHead, recorded.usernames own ownMember, ownHead] at other
      refine ⟨fileOf (rows.map (addToRow userToFollow follower)), ?_, _,
        recorded.addFollower both.2 added, clean.addFollower column different, rfl⟩
      rw [file, saveAll, save, saveNewFollower_fileOf (List.ne_nil_of_mem ownMember) clean]
      rfl
    · rw [if_neg added]
      refine ⟨store.file, rfl, kept.silent fun rows recorded =>
        recorded.setUser both.2 sameName fun name => ?_⟩
      rw [User.mem_followers_addFollower]
      simp [added]
  · rw [if_neg both]
    exact ⟨store.file, rfl, kept⟩

/-- Every operation succeeds and keeps the file in step with the manager. -/
theorem Kept.apply (kept : Kept store) (operation : StoreOperation)
    (admissible : Store.Admissible operation) :
    ∃ next, store.apply onUpdateCallback operation = .ok next ∧ Kept next := by
  cases operation with
  | loadUsers =>
    obtain ⟨rows, recorded, clean, file⟩ := kept
    obtain ⟨users, loaded, fresh⟩ := readUsers_fileOf recorded.distinct clean
    exact ⟨{ store with manager := { users } }, by rw [Store.apply, file, loaded],
      rows, fresh, clean, file⟩
  | call operation =>
    have saved : ∃ file, saveAll store.file
          (store.manager.call onUpdateCallback operation).saves = .ok file ∧
        Kept ⟨(store.manager.call onUpdateCallback operation).manager, file⟩ := by
      cases operation with
      | startSession username session => exact kept.startSession onUpdateCallback session admissible
      | follow follower userToFollow => exact kept.follow onUpdateCallback follower userToFollow
      | closeSession username id =>
        refine ⟨store.file, rfl, ?_⟩
        show Kept ⟨store.manager.closeSession username id, store.file⟩
        unfold ProfileManager.closeSession
        split
        next present =>
          obtain ⟨-, sameName, sameFollowers⟩ :=
            User.frame_removeSession (store.manager.userOf username) id
          exact kept.silent fun rows recorded =>
            recorded.setUser present sameName fun name => by rw [sameFollowers]
        next => exact kept
    obtain ⟨file, result, keptNext⟩ := saved
    exact ⟨_, by rw [Store.apply, result], keptNext⟩

theorem kept_empty : Kept {} :=
  ⟨[], ⟨List.nodup_nil, by simp, by simp, by simp⟩, ⟨by simp, by simp⟩, rfl⟩

end Runs

/-- A fresh read of the file gives the users that the manager holds, each with the
same followers. -/
def Recovers (store : Store) : Prop :=
  ∃ users, readUsers store.file = .ok users ∧
    (∀ name, name ∈ users ↔ name ∈ store.manager.users) ∧
    ∀ name ∈ users, ∀ follower, follower ∈ ({ users } : ProfileManager).followersOf name ↔
      follower ∈ store.manager.followersOf name

theorem Kept.recovers {store : Store} (kept : Kept store) : Recovers store := by
  obtain ⟨rows, recorded, clean, file⟩ := kept
  obtain ⟨users, loaded, fresh⟩ := readUsers_fileOf recorded.distinct clean
  have sameNames : ∀ name, name ∈ users ↔ name ∈ store.manager.users :=
    fun name => (fresh.names name).trans (recorded.names name).symm
  refine ⟨users, by rw [file, loaded], sameNames, ?_⟩
  intro name member follower
  obtain ⟨row, inside, head⟩ := fresh.row_of_mem member
  have present := (sameNames name).mp member
  rw [ProfileManager.followersOf, ProfileManager.followersOf, if_pos member, if_pos present, ← head,
    fresh.followers row inside, recorded.followers row inside]

/-- Restarts, sessions and follows in any order: after every operation the file
holds the social graph, and the next operation succeeds too. -/
theorem recovers_of_run (onUpdateCallback : ProfileManager → Bool)
    (operations : List StoreOperation) (store : Store)
    (reached : run (Store.step onUpdateCallback) {} operations = some store) :
    Recovers store ∧ ∀ operation, Store.Admissible operation →
      ∃ next, store.step onUpdateCallback operation = some next := by
  have step : ∀ (store next : Store) (operation : StoreOperation), Kept store →
      Store.step onUpdateCallback store operation = some next → Kept next := by
    intro store next operation kept taken
    by_cases admissible : Store.Admissible operation
    · obtain ⟨after, result, keptAfter⟩ := kept.apply onUpdateCallback operation admissible
      rw [Store.step, if_pos admissible, result] at taken
      exact Option.some.inj taken ▸ keptAfter
    · rw [Store.step, if_neg admissible] at taken
      cases taken
  have kept : Kept store :=
    run_invariant (fun state action next => step state next action) kept_empty reached
  refine ⟨kept.recovers, ?_⟩
  intro operation admissible
  obtain ⟨next, result, _⟩ := kept.apply onUpdateCallback operation admissible
  exact ⟨next, by rw [Store.step, if_pos admissible, result]; rfl⟩

/-- Two users who follow each other, and a restart in between. -/
def sampleStoreRun : List StoreOperation :=
  [.call (.startSession ['a', 'n', 'a'] ⟨7, ['a', 'n', 'a']⟩),
    .call (.startSession ['b'] ⟨8, ['b']⟩), .call (.follow ['b'] ['a', 'n', 'a']), .loadUsers,
    .call (.follow ['a', 'n', 'a'] ['b']), .call (.closeSession ['b'] 8)]

theorem recovers_of_sampleStoreRun :
    ∃ store, run (Store.step fun _ => true) {} sampleStoreRun = some store ∧ Recovers store := by
  have enabled : (run (Store.step fun _ => true) {} sampleStoreRun).isSome = true := by
    decide +kernel
  obtain ⟨store, reached⟩ := Option.isSome_iff_exists.mp enabled
  exact ⟨store, reached, (recovers_of_run (fun _ => true) sampleStoreRun store reached).1⟩

end TwitterClone
