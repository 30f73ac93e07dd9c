import TwitterClone.Foundation.UnorderedMap

/-! Maps that are built from lines by `emplace`. A line may fail, be passed over, or say a
value for a key; the first line for a key counts. -/
namespace TwitterClone.Foundation

universe u v

variable {Line Key : Type u} {Value : Type v} {Error : Type}

/-- The loop over the lines. -/
def collect [DecidableEq Key] (read : Line → Except Error (Option (Key × Value))) :
    UnorderedMap Key Value → List Line → Except Error (UnorderedMap Key Value)
  | map, [] => .ok map
  | map, line :: rest =>
    match read line with
    | .error error => .error error
    | .ok none => collect read map rest
    | .ok (some (key, value)) => collect read (map.emplace key value) rest

/-- The first line that says anything for the key says this value. -/
def FirstAt (tells : Line → Key → Value → Prop) (lines : List Line) (key : Key) (value : Value) :
    Prop :=
  ∃ before line after, lines = before ++ line :: after ∧ tells line key value ∧
    ∀ earlier ∈ before, ∀ other, ¬ tells earlier key other

section Collecting

variable {tells : Line → Key → Value → Prop}

theorem not_firstAt_nil (key : Key) (value : Value) : ¬ FirstAt tells [] key value := by
  rintro ⟨before, line, after, shape, -⟩
  cases before <;> cases shape

theorem firstAt_cons {line : Line} {rest : List Line} {key : Key} {value : Value} :
    FirstAt tells (line :: rest) key value ↔
      tells line key value ∨ (∀ other, ¬ tells line key other) ∧ FirstAt tells rest key value := by
  constructor
  · rintro ⟨before, first, after, shape, said, silent⟩
    cases before with
    | nil =>
      cases shape
      exact Or.inl said
    | cons head more =>
      cases shape
      exact Or.inr ⟨silent line List.mem_cons_self, more, first, after, rfl, said,
        fun earlier member => silent earlier (List.mem_cons_of_mem line member)⟩
  · rintro (said | ⟨silent, before, first, after, rfl, said, quiet⟩)
    · exact ⟨[], line, rest, rfl, said, fun earlier member => by cases member⟩
    · refine ⟨line :: before, first, after, rfl, said, ?_⟩
      intro earlier member
      rcases List.mem_cons.mp member with rfl | later
      · exact silent
      · exact quiet earlier later

variable [DecidableEq Key] {read : Line → Except Error (Option (Key × Value))}

/-- The loop comes to its end exactly when no line fails. -/
theorem collect_iff {lines : List Line} {map : UnorderedMap Key Value} :
    (∃ built, collect read map lines = .ok built) ↔ ∀ line ∈ lines, ∃ entry, read line = .ok entry := by
  induction lines generalizing map with
  | nil => exact iff_of_true ⟨map, rfl⟩ (by simp)
  | cons line rest ih =>
    rw [List.forall_mem_cons, collect]
    cases taken : read line with
    | error error => simp
    | ok entry =>
      cases entry with
      | none => exact ih.trans (iff_and_self.mpr fun _ => ⟨none, rfl⟩)
      | some entry => exact ih.trans (iff_and_self.mpr fun _ => ⟨some entry, rfl⟩)

/-- What was there stays, and the first line for another key is what is found there. -/
theorem lookup_collect {lines : List Line} {map built : UnorderedMap Key Value}
    (result : collect read map lines = .ok built)
    (agree : ∀ line ∈ lines, ∀ key value, read line = .ok (some (key, value)) ↔ tells line key value)
    (key : Key) (value : Value) :
    built.lookup key = some value ↔
      map.lookup key = some value ∨ key ∉ map ∧ FirstAt tells lines key value := by
  induction lines generalizing map with
  | nil =>
    cases result
    rw [or_iff_left fun both => not_firstAt_nil key value both.2]
  | cons line rest ih =>
    have here := agree line List.mem_cons_self
    have later := fun other member => agree other (List.mem_cons_of_mem line member)
    rw [collect] at result
    split at result
    next => cases result
    next taken =>
      have silent : ∀ key other, ¬ tells line key other := by
        intro key other said
        have same := (here key other).mpr said
        rw [taken] at same
        cases same
      rw [ih result later, firstAt_cons, or_iff_right (silent key value)]
      rw [and_iff_right (silent key)]
    next saidKey saidValue taken =>
      have only : ∀ key value, tells line key value ↔ saidKey = key ∧ saidValue = value := by
        intro key value
        rw [← here, taken]
        simp
      rw [ih result later, firstAt_cons, UnorderedMap.lookup_emplace, UnorderedMap.mem_emplace,
        only, not_or]
      by_cases same : key = saidKey
      · subst same
        have told : ¬ ∀ other, ¬ tells line key other :=
          fun silent => silent saidValue ((only key saidValue).mpr ⟨rfl, rfl⟩)
        by_cases present : key ∈ map
        · simp [present]
        · simp [present, told, UnorderedMap.lookup_eq_none.mpr present]
      · have silent : ∀ other, ¬ tells line key other :=
          fun other told => same ((only key other).mp told).1.symm
        simp [same, Ne.symm same, silent]

/-- The lines are read as a map exactly when none fails and the first lines say what the
map has, nothing less and nothing more. -/
theorem collect_same_iff {lines : List Line} {map : UnorderedMap Key Value}
    (agree : ∀ line ∈ lines, ∀ key value,
      read line = .ok (some (key, value)) ↔ tells line key value) :
    (∃ built, collect read ∅ lines = .ok built ∧ ∀ key, built.lookup key = map.lookup key) ↔
      (∀ line ∈ lines, ∃ entry, read line = .ok entry) ∧
        ∀ key value, map.lookup key = some value ↔ FirstAt tells lines key value := by
  have told : ∀ built, collect read ∅ lines = .ok built → ∀ key value,
      built.lookup key = some value ↔ FirstAt tells lines key value := by
    intro built result key value
    rw [lookup_collect result agree]
    simp
  rw [← @collect_iff _ _ _ _ _ read lines ∅]
  constructor
  · rintro ⟨built, result, same⟩
    refine ⟨⟨built, result⟩, ?_⟩
    intro key value
    rw [← same, told built result]
  · rintro ⟨⟨built, result⟩, same⟩
    refine ⟨built, result, fun key => Option.ext fun value => ?_⟩
    rw [told built result, same]

end Collecting

end TwitterClone.Foundation
