import TwitterClone.Csv.Lines
import TwitterClone.Profile.Persistency

/-! What a new name does to the user file. It is written as it is into a file in which
line ends separate users and marks separate names, so it may be read as something else. -/
namespace TwitterClone

open Foundation InputStream

namespace ProfilePersistency

/-- The rows of two files are loaded one after the other. -/
theorem loadRows_append (rows later : List (List Text)) (userId : Nat)
    (users : UnorderedMap Text User) :
    loadRows userId users (rows ++ later) =
      match loadRows userId users rows with
      | .error fault => .error fault
      | .ok loaded => loadRows (userId + rows.length) loaded later := by
  induction rows generalizing userId users with
  | nil => rfl
  | cons row rest ih =>
    cases row with
    | nil => rfl
    | cons username followers =>
      rw [List.cons_append, loadRows, loadRows, ih, List.length_cons]
      have next : userId + 1 + rest.length = userId + (rest.length + 1) := by omega
      rw [next]

/-- Whoever is loaded was there or stands in front of a row. -/
theorem mem_of_loadRows {rows : List (List Text)} {userId : Nat}
    {users loaded : UnorderedMap Text User} (result : loadRows userId users rows = .ok loaded)
    {name : Text} (member : name ∈ loaded) : name ∈ users ∨ ∃ row ∈ rows, name ∈ row := by
  induction rows generalizing userId users with
  | nil =>
    cases result
    exact Or.inl member
  | cons row rest ih =>
    cases row with
    | nil => cases result
    | cons username followers =>
      rw [loadRows] at result
      rcases ih result with before | ⟨other, listed, inside⟩
      · rcases (UnorderedMap.mem_emplace ..).mp before with rfl | known
        · exact Or.inr ⟨_, List.mem_cons_self, List.mem_cons_self⟩
        · exact Or.inl known
      · exact Or.inr ⟨other, List.mem_cons_of_mem _ listed, inside⟩

/-- The file behind a new name, as a reader cuts it. -/
theorem saveNewUser_rows {file : Option Text} {users : UnorderedMap Text User}
    (loaded : readUsers file = .ok users) (name : Text) :
    ∃ content, saveNewUser file name = .ok (some content) ∧
      Csv.readAll splitMark (some content) =
        Csv.readAll splitMark file ++ Csv.readAll splitMark (some name) := by
  cases file with
  | none =>
    refine ⟨name, ?_, rfl⟩
    simp [saveNewUser, Csv.append, Csv.openFile, Csv.formatLine]
  | some content =>
    have filled : content.length ≠ 0 := by
      intro empty
      rw [List.length_eq_zero_iff.mp empty] at loaded
      cases loaded
    refine ⟨content ++ newline :: name, ?_, Csv.readAll_append content name⟩
    simp [saveNewUser, Csv.append, Csv.openFile, Csv.formatLine, filled]

/-- The rows of the name are loaded after all users that were there. -/
theorem readUsers_saveNewUser {file : Option Text} {users : UnorderedMap Text User}
    (loaded : readUsers file = .ok users) (name : Text) :
    ∃ content, saveNewUser file name = .ok (some content) ∧
      readUsers (some content) = loadRows (1 + (Csv.readAll splitMark file).length) users
        (Csv.readAll splitMark (some name)) := by
  obtain ⟨content, saved, rows⟩ := saveNewUser_rows loaded name
  have before : loadRows 1 ∅ (Csv.readAll splitMark file) = .ok users := loaded
  refine ⟨content, saved, ?_⟩
  rw [readUsers, rows, loadRows_append, before]

theorem readAll_name {name : Text} (clean : NameWithout Store.separators name) :
    Csv.readAll splitMark (some name) = [[name]] := by
  have markFree : splitMark ∉ name := clean.2 splitMark List.mem_cons_self
  have lineFree : newline ∉ name := clean.2 newline (by simp [Store.separators])
  have row : Csv.CleanRow splitMark [name] := by
    refine ⟨List.cons_ne_nil name [], ?_⟩
    intro column member
    rw [List.mem_singleton.mp member]
    exact ⟨clean.1, markFree, lineFree⟩
  have parsed := Csv.parseRow_join row
  have shape : joinStrings [splitMark] [name] = name := by
    simp [joinStrings]
  rw [shape] at parsed
  rw [Csv.readAll_split, split_of_free lineFree, List.map_singleton, parsed]

end ProfilePersistency

open ProfilePersistency

namespace Store

/-- A new name is read back as one more user, and the others as they were, exactly when
it is not empty and has no mark and no line end in it. -/
theorem registered_iff (onUpdateCallback : ProfileManager → Bool) (store : Store)
    (users : UnorderedMap Text User) (loaded : readUsers store.file = .ok users) (name : Text)
    (session : ProfileSession) (unknown : name ∉ users) (new : name ∉ store.manager.users) :
    (∃ next id, store.apply onUpdateCallback (.call (.startSession name session)) = .ok next ∧
      readUsers next.file = .ok (users.emplace name { id, username := name })) ↔
    NameWithout separators name := by
  obtain ⟨content, saved, read⟩ := readUsers_saveNewUser loaded name
  obtain ⟨next, applied, file⟩ : ∃ next,
      store.apply onUpdateCallback (.call (.startSession name session)) = .ok next ∧
        next.file = some content := by
    refine ⟨{
      manager := (store.manager.startSession onUpdateCallback name session).manager
      file := some content }, ?_, rfl⟩
    simp only [apply, ProfileManager.call, ProfileManager.startSession, if_neg new, saveAll, save,
      saved]
  constructor
  · rintro ⟨final, id, reached, result⟩
    obtain rfl : next = final := Except.ok.inj (applied.symm.trans reached)
    have known : name ∈ users.emplace name { id, username := name } := by simp
    rcases mem_of_loadRows result known with absent | ⟨row, listed, inside⟩
    · exact absurd absent (UnorderedMap.notMem_empty name)
    · obtain ⟨markFree, lineFree⟩ := Csv.column_of_mem_readAll listed inside
      refine ⟨?_, ?_⟩
      · rintro rfl
        rw [file, read] at result
        cases result
      · intro separator member
        rcases List.mem_cons.mp member with rfl | line
        · exact markFree
        · rwa [List.mem_singleton.mp line]
  · intro clean
    refine ⟨next, int32 (1 + (Csv.readAll splitMark store.file).length : Nat), applied, ?_⟩
    rw [file, read, readAll_name clean]
    rfl

/-- A file with one user who has a follower. -/
def oneUser : Store where
  manager := {
    users := UnorderedMap.emplace ∅ ['a'] { id := 1, username := ['a'], followers := [['b']] } }
  file := some ['a', ';', 'b']

theorem readUsers_oneUser : readUsers oneUser.file = .ok oneUser.manager.users := by
  decide +kernel

/-- The users that the file holds after a new name. -/
def namesAfter (name : Text) : Option (List Text) :=
  ((oneUser.apply (fun _ => true) (.call (.startSession name ⟨7, name⟩))).toOption.bind
    fun next => (readUsers next.file).toOption).map UnorderedMap.keys

theorem not_registered_of_namesAfter {name : Text} {names : List Text}
    (read : namesAfter name = some names) (absent : name ∉ names) :
    ¬ ∃ next id, oneUser.apply (fun _ => true) (.call (.startSession name ⟨7, name⟩)) = .ok next ∧
      readUsers next.file =
        .ok (oneUser.manager.users.emplace name { id, username := name }) := by
  rintro ⟨next, id, applied, result⟩
  simp only [namesAfter, applied, result, Except.toOption, Option.bind_some, Option.map_some,
    Option.some.injEq] at read
  refine absent (read ▸ ?_)
  rw [UnorderedMap.mem_keys]
  simp

/-- The first name brings a follower of its own with it, and the second another user. -/
theorem not_registered_oneUser :
    readUsers oneUser.file = .ok oneUser.manager.users ∧
      (['c', ';', 'd'] ∉ oneUser.manager.users ∧
        ¬ ∃ next id, oneUser.apply (fun _ => true)
            (.call (.startSession ['c', ';', 'd'] ⟨7, ['c', ';', 'd']⟩)) = .ok next ∧
          readUsers next.file = .ok
            (oneUser.manager.users.emplace ['c', ';', 'd']
              { id, username := ['c', ';', 'd'] })) ∧
      (['c', newline, 'd'] ∉ oneUser.manager.users ∧
        ¬ ∃ next id, oneUser.apply (fun _ => true)
            (.call (.startSession ['c', newline, 'd'] ⟨7, ['c', newline, 'd']⟩)) = .ok next ∧
          readUsers next.file = .ok
            (oneUser.manager.users.emplace ['c', newline, 'd']
              { id, username := ['c', newline, 'd'] })) := by
  have marked : namesAfter ['c', ';', 'd'] = some [['a'], ['c']] := by
    decide +kernel
  have broken : namesAfter ['c', newline, 'd'] = some [['a'], ['c'], ['d']] := by
    decide +kernel
  exact ⟨readUsers_oneUser,
    ⟨by decide, not_registered_of_namesAfter marked (by decide)⟩,
    ⟨by decide, not_registered_of_namesAfter broken (by decide)⟩⟩

theorem registered_oneUser :
    ∃ next id, oneUser.apply (fun _ => true) (.call (.startSession ['c'] ⟨7, ['c']⟩)) = .ok next ∧
      readUsers next.file = .ok (oneUser.manager.users.emplace ['c'] { id, username := ['c'] }) :=
  (registered_iff (fun _ => true) oneUser oneUser.manager.users readUsers_oneUser ['c'] ⟨7, ['c']⟩
    (by decide) (by decide)).mpr (by decide)

end Store

end TwitterClone
