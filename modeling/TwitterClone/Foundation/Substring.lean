import TwitterClone.Foundation.Text

/-! Searching a text for the first occurrence of another. -/
namespace TwitterClone.Foundation

/-- The position of the first occurrence of the pattern. -/
def find (pattern : Text) : Text → Option Nat
  | [] => if pattern = [] then some 0 else none
  | byte :: rest =>
    if pattern.isPrefixOf (byte :: rest) then some 0 else (find pattern rest).map (· + 1)

theorem find_of_starts {pattern text : Text} (starts : pattern <+: text) :
    find pattern text = some 0 := by
  cases text with
  | nil => simp [find, List.prefix_nil.mp starts]
  | cons byte rest => simp [find, List.isPrefixOf_iff_prefix.mpr starts]

theorem find_cons {pattern rest : Text} {byte : Char}
    (differs : ¬ pattern <+: byte :: rest) :
    find pattern (byte :: rest) = (find pattern rest).map (· + 1) := by
  rw [find, if_neg]
  rwa [List.isPrefixOf_iff_prefix]

/-- A stretch without the pattern's first byte is skipped. -/
theorem find_append {head : Char} {pattern skipped : Text} (rest : Text)
    (free : head ∉ skipped) :
    find (head :: pattern) (skipped ++ rest) =
      (find (head :: pattern) rest).map (· + skipped.length) := by
  induction skipped with
  | nil => simp
  | cons byte more ih =>
    rw [List.mem_cons, not_or] at free
    have differs : ¬ head :: pattern <+: byte :: (more ++ rest) := by
      intro starts
      exact free.1 (List.cons_prefix_cons.mp starts).1
    rw [List.cons_append, find_cons differs, ih free.2, Option.map_map]
    rfl

theorem find_of_free {head : Char} {pattern text : Text} (free : head ∉ text) :
    find (head :: pattern) text = none := by
  have skipped := @find_append head pattern _ [] free
  rw [List.append_nil] at skipped
  simp [skipped, find]

/-- Text without the delimiter, then the delimiter. -/
theorem find_delimiter {delimiter : Char} {first : Text} (rest : Text)
    (free : delimiter ∉ first) :
    find [delimiter] (first ++ delimiter :: rest) = some first.length := by
  have starts : [delimiter] <+: delimiter :: rest := ⟨rest, rfl⟩
  rw [find_append _ free, find_of_starts starts]
  simp

/-- A doubled delimiter is found at the first empty line. -/
theorem find_doubled {delimiter : Char} {line : Text} (rest : Text) (free : delimiter ∉ line) :
    find [delimiter, delimiter] (line ++ delimiter :: delimiter :: rest) = some line.length := by
  have starts : [delimiter, delimiter] <+: delimiter :: delimiter :: rest := ⟨rest, rfl⟩
  rw [find_append _ free, find_of_starts starts]
  simp

/-- A line that another line follows is skipped with its delimiter. -/
theorem find_doubled_line {delimiter : Char} {line next : Text} (rest : Text)
    (free : delimiter ∉ line) (nextFree : delimiter ∉ next) (nonempty : next ≠ []) :
    find [delimiter, delimiter] (line ++ delimiter :: (next ++ rest)) =
      (find [delimiter, delimiter] (next ++ rest)).map (· + (line.length + 1)) := by
  have differs : ¬ [delimiter, delimiter] <+: delimiter :: (next ++ rest) := by
    intro starts
    cases next with
    | nil => exact nonempty rfl
    | cons byte more =>
      have second := (List.cons_prefix_cons.mp (List.cons_prefix_cons.mp starts).2).1
      exact nextFree (second ▸ List.mem_cons_self)
  rw [find_append _ free, find_cons differs, Option.map_map]
  congr 1
  funext position
  simp only [Function.comp_apply]
  omega

/-- A match lies inside the text. -/
theorem find_bound {pattern text : Text} {position : Nat}
    (found : find pattern text = some position) : position + pattern.length ≤ text.length := by
  induction text generalizing position with
  | nil =>
    by_cases empty : pattern = []
    · simp only [find, empty, ↓reduceIte, Option.some.injEq] at found
      simp [empty, ← found]
    · simp [find, empty] at found
  | cons byte rest ih =>
    by_cases starts : pattern <+: byte :: rest
    · rw [find_of_starts starts, Option.some.injEq] at found
      have := starts.length_le
      omega
    · rw [find_cons starts, Option.map_eq_some_iff] at found
      obtain ⟨before, inner, same⟩ := found
      have := ih inner
      rw [List.length_cons]
      omega

/-- There is a match at the position that is found. -/
theorem find_starts {pattern text : Text} {position : Nat}
    (found : find pattern text = some position) : pattern <+: text.drop position := by
  induction text generalizing position with
  | nil =>
    by_cases empty : pattern = []
    · simp [empty]
    · simp [find, empty] at found
  | cons byte rest ih =>
    by_cases starts : pattern <+: byte :: rest
    · rw [find_of_starts starts, Option.some.injEq] at found
      rwa [← found]
    · rw [find_cons starts, Option.map_eq_some_iff] at found
      obtain ⟨before, inner, rfl⟩ := found
      exact ih inner

/-- There is no match in front of the position that is found. -/
theorem find_first {pattern text : Text} (nonempty : pattern ≠ []) {position : Nat}
    (found : find pattern text = some position) : ¬ pattern <:+: text.take position := by
  induction text generalizing position with
  | nil =>
    rw [List.take_nil, List.infix_nil]
    exact nonempty
  | cons byte rest ih =>
    by_cases starts : pattern <+: byte :: rest
    · rw [find_of_starts starts, Option.some.injEq] at found
      rw [← found, List.take_zero, List.infix_nil]
      exact nonempty
    · rw [find_cons starts, Option.map_eq_some_iff] at found
      obtain ⟨before, inner, rfl⟩ := found
      rw [List.take_succ_cons, List.infix_cons_iff, not_or]
      refine ⟨?_, ih inner⟩
      intro early
      exact starts (early.trans (List.take_prefix (before + 1) (byte :: rest)))

/-- What is found is no later than any match. -/
theorem exists_find_le {pattern text : Text} {start : Nat}
    (starts : pattern <+: text.drop start) :
    ∃ position, find pattern text = some position ∧ position ≤ start := by
  induction text generalizing start with
  | nil =>
    rw [List.drop_nil] at starts
    exact ⟨0, find_of_starts starts, Nat.zero_le _⟩
  | cons byte rest ih =>
    by_cases early : pattern <+: byte :: rest
    · exact ⟨0, find_of_starts early, Nat.zero_le _⟩
    · cases start with
      | zero => exact absurd starts early
      | succ before =>
        obtain ⟨position, found, bound⟩ := ih starts
        exact ⟨position + 1, by rw [find_cons early, found]; rfl, Nat.succ_le_succ bound⟩

theorem find_eq_none {pattern text : Text} : find pattern text = none ↔ ¬ pattern <:+: text := by
  induction text with
  | nil => simp [find]
  | cons byte rest ih =>
    by_cases starts : pattern <+: byte :: rest
    · simp [find_of_starts starts, starts.isInfix]
    · rw [find_cons starts, Option.map_eq_none_iff, ih, List.infix_cons_iff, or_iff_right starts]

/-- The text around a match. -/
theorem take_append_drop_of_find {pattern text : Text} {position : Nat}
    (found : find pattern text = some position) :
    text.take position ++ (pattern ++ text.drop (position + pattern.length)) = text := by
  obtain ⟨rest, same⟩ := find_starts found
  rw [← List.drop_drop, ← same, List.drop_left, same, List.take_append_drop]

end TwitterClone.Foundation
