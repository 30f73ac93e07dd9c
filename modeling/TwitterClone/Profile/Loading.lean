import TwitterClone.Csv.Lines
import TwitterClone.Profile.Persistency

/-! Which user files can be loaded at all. The loop over the rows takes the first column
of each of them, and an empty line is a row without columns. -/
namespace TwitterClone.ProfilePersistency

open Foundation

/-- Nobody who was there is lost, and every row that has columns adds its first one. -/
theorem names_of_loadRows {rows : List (List Text)} {userId : Nat}
    {users loaded : UnorderedMap Text User} (result : loadRows userId users rows = .ok loaded) :
    (∀ name ∈ users, name ∈ loaded) ∧ ∀ row ∈ rows, ∀ name ∈ row.head?, name ∈ loaded := by
  induction rows generalizing userId users with
  | nil =>
    cases result
    exact ⟨fun name member => member, by simp⟩
  | cons row rest ih =>
    cases row with
    | nil => cases result
    | cons username followers =>
      obtain ⟨kept, later⟩ := ih result
      refine ⟨fun name member => kept name ((UnorderedMap.mem_emplace ..).mpr (Or.inr member)), ?_⟩
      intro row member name first
      rcases List.mem_cons.mp member with rfl | inside
      · obtain rfl := Option.some.inj first
        exact kept username ((UnorderedMap.mem_emplace ..).mpr (Or.inl rfl))
      · exact later row inside name first

/-- The loop comes to its end exactly when every row has a column. -/
theorem loadRows_iff {rows : List (List Text)} {userId : Nat} {users : UnorderedMap Text User} :
    (∃ loaded, loadRows userId users rows = .ok loaded) ↔ ∀ row ∈ rows, row ≠ [] := by
  induction rows generalizing userId users with
  | nil => exact iff_of_true ⟨users, rfl⟩ (by simp)
  | cons row rest ih =>
    cases row with
    | nil =>
      refine iff_of_false ?_ (by simp)
      rintro ⟨loaded, result⟩
      cases result
    | cons username followers =>
      rw [List.forall_mem_cons]
      exact ih.trans (iff_and_self.mpr fun _ => List.cons_ne_nil username followers)

/-- A file loads, and each line's first column is a user, exactly when no line of it is
empty; the text behind the last line end is a line as well. -/
theorem loads_iff (content : Text) :
    (∃ users, readUsers (some content) = .ok users ∧
      ∀ line ∈ split content [newline], ∀ name ∈ (Csv.parseRow splitMark line).head?,
        name ∈ users) ↔
    ∀ line ∈ split content [newline], line ≠ [] := by
  have rows : (∀ row ∈ Csv.readAll splitMark (some content), row ≠ []) ↔
      ∀ line ∈ split content [newline], line ≠ [] := by
    rw [Csv.readAll_split, List.forall_mem_map]
    exact forall₂_congr fun line _ => Csv.parseRow_eq_nil.not
  rw [← rows, ← @loadRows_iff _ 1 ∅]
  constructor
  · rintro ⟨users, loaded, -⟩
    exact ⟨users, loaded⟩
  · rintro ⟨users, loaded⟩
    refine ⟨users, loaded, ?_⟩
    intro line member name first
    refine (names_of_loadRows loaded).2 (Csv.parseRow splitMark line) ?_ name first
    rw [Csv.readAll_split]
    exact List.mem_map_of_mem member

/-- An empty file, as opening it for writing leaves it, and a line end at the end. -/
theorem not_loads_empty_of_trailing :
    readUsers (some []) = .error .badIndex ∧
      readUsers (some ['a', newline]) = .error .badIndex := by
  decide +kernel

end TwitterClone.ProfilePersistency
