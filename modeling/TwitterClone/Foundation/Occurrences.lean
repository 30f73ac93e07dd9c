import TwitterClone.Foundation.Substring

/-! How often a text occurs in another, from left to right and without overlaps. -/
namespace TwitterClone.Foundation

/-- The occurrences behind the next `skip` bytes. -/
def occurrencesFrom (pattern : Text) : (skip : Nat) → Text → Nat
  | _, [] => 0
  | skip + 1, _ :: rest => occurrencesFrom pattern skip rest
  | 0, byte :: rest =>
    if pattern.isPrefixOf (byte :: rest) then
      occurrencesFrom pattern (pattern.length - 1) rest + 1
    else occurrencesFrom pattern 0 rest

def occurrences (pattern text : Text) : Nat := occurrencesFrom pattern 0 text

variable {pattern : Text}

theorem occurrencesFrom_eq (skip : Nat) (text : Text) :
    occurrencesFrom pattern skip text = occurrences pattern (text.drop skip) := by
  induction skip generalizing text with
  | zero => rfl
  | succ skip ih =>
    cases text with
    | nil => simp [occurrencesFrom, occurrences]
    | cons byte rest => rw [occurrencesFrom, ih, List.drop_succ_cons]

theorem occurrences_cons {byte : Char} {rest : Text} (differs : ¬ pattern <+: byte :: rest) :
    occurrences pattern (byte :: rest) = occurrences pattern rest := by
  rw [occurrences, occurrencesFrom, if_neg (by rwa [List.isPrefixOf_iff_prefix])]
  rfl

theorem occurrences_of_starts (nonempty : pattern ≠ []) {text : Text}
    (starts : pattern <+: text) :
    occurrences pattern text = occurrences pattern (text.drop pattern.length) + 1 := by
  cases text with
  | nil => exact absurd (List.prefix_nil.mp starts) nonempty
  | cons byte rest =>
    have length : pattern.length = pattern.length - 1 + 1 := by
      have := List.length_pos_iff.mpr nonempty
      omega
    rw [occurrences, occurrencesFrom, if_pos (List.isPrefixOf_iff_prefix.mpr starts),
      occurrencesFrom_eq, length, List.drop_succ_cons]
    rfl

theorem occurrences_of_none {text : Text} (none : find pattern text = none) :
    occurrences pattern text = 0 := by
  induction text with
  | nil => rfl
  | cons byte rest ih =>
    have absent := find_eq_none.mp none
    rw [List.infix_cons_iff, not_or] at absent
    rw [occurrences_cons absent.1]
    exact ih (find_eq_none.mpr absent.2)

theorem occurrences_of_find (nonempty : pattern ≠ []) {text : Text} {position : Nat}
    (found : find pattern text = some position) :
    occurrences pattern text =
      occurrences pattern (text.drop (position + pattern.length)) + 1 := by
  induction text generalizing position with
  | nil => simp [find, nonempty] at found
  | cons byte rest ih =>
    by_cases starts : pattern <+: byte :: rest
    · rw [find_of_starts starts, Option.some.injEq] at found
      rw [← found, Nat.zero_add, occurrences_of_starts nonempty starts]
    · rw [find_cons starts, Option.map_eq_some_iff] at found
      obtain ⟨before, inner, rfl⟩ := found
      rw [occurrences_cons starts, ih inner, Nat.add_right_comm, List.drop_succ_cons]

theorem occurrences_replicate (byte : Char) (count : Nat) :
    occurrences [byte] (List.replicate count byte) = count := by
  induction count with
  | zero => rfl
  | succ count ih =>
    have starts : [byte] <+: List.replicate (count + 1) byte := ⟨List.replicate count byte, rfl⟩
    rw [occurrences_of_starts (by simp) starts, List.replicate_succ, List.length_singleton,
      List.drop_one, List.tail_cons, ih]

end TwitterClone.Foundation
