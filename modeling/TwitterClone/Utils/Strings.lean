import TwitterClone.Foundation.Substring

/-! The helpers of the string utilities that cut texts apart. -/
namespace TwitterClone

open Foundation

/-- Both parts are always there. Without a delimiter `npos + length` wraps round,
so the second part loses one byte less than the delimiter has. -/
def splitFirst (str delimiter : Text) : Text × Text :=
  match find delimiter str with
  | some position => (str.take position, str.drop (position + delimiter.length))
  | none => (str, str.drop (delimiter.length - 1))

/-- The loop of `split` with a bound on its turns. A delimiter takes at least one
byte away, so the length of the text is bound enough: `split_turns`. -/
def splitTurns (delimiter : Text) : Nat → Text → List Text
  | 0, strCopy => [strCopy]
  | turns + 1, strCopy =>
    match find delimiter strCopy with
    | some pos => strCopy.take pos ::
        splitTurns delimiter turns (strCopy.drop (pos + delimiter.length))
    | none => [strCopy]

def split (str delimiter : Text) : List Text := splitTurns delimiter str.length str

private theorem splitTurns_bound {delimiter : Text} (nonempty : delimiter ≠ [])
    (turns more : Nat) (strCopy : Text) (enough : strCopy.length ≤ turns)
    (enoughToo : strCopy.length ≤ more) :
    splitTurns delimiter turns strCopy = splitTurns delimiter more strCopy := by
  have positive := List.length_pos_iff.mpr nonempty
  induction turns generalizing more strCopy with
  | zero =>
    have empty := List.length_eq_zero_iff.mp (Nat.le_zero.mp enough)
    cases more with
    | zero => rfl
    | succ more => simp [splitTurns, empty, find, nonempty]
  | succ turns ih =>
    cases more with
    | zero =>
      have empty := List.length_eq_zero_iff.mp (Nat.le_zero.mp enoughToo)
      simp [splitTurns, empty, find, nonempty]
    | succ more =>
      cases found : find delimiter strCopy with
      | none => simp [splitTurns, found]
      | some pos =>
        have inside := find_bound found
        have shorter : (strCopy.drop (pos + delimiter.length)).length ≤ strCopy.length - 1 := by
          rw [List.length_drop]
          omega
        simp only [splitTurns, found]
        rw [ih more _ (by omega) (by omega)]

/-- More turns than the text has bytes make no difference. -/
theorem split_turns {delimiter : Text} (nonempty : delimiter ≠ []) (turns : Nat) (str : Text)
    (enough : str.length ≤ turns) : splitTurns delimiter turns str = split str delimiter :=
  splitTurns_bound nonempty turns str.length str enough le_rfl

theorem split_of_find {str delimiter : Text} (nonempty : delimiter ≠ []) {pos : Nat}
    (found : find delimiter str = some pos) :
    split str delimiter =
      str.take pos :: split (str.drop (pos + delimiter.length)) delimiter := by
  have inside := find_bound found
  have positive := List.length_pos_iff.mpr nonempty
  rw [← split_turns nonempty (str.length + 1) str (Nat.le_succ _)]
  simp only [splitTurns, found]
  rw [split_turns nonempty]
  rw [List.length_drop]
  omega

theorem split_of_none {str delimiter : Text} (nonempty : delimiter ≠ [])
    (none : find delimiter str = none) : split str delimiter = [str] := by
  rw [← split_turns nonempty (str.length + 1) str (Nat.le_succ _)]
  simp [splitTurns, none]

theorem split_of_free {delimiter : Char} {str : Text} (free : delimiter ∉ str) :
    split str [delimiter] = [str] :=
  split_of_none (by simp) (find_of_free free)

/-- What `split` does, turn by turn, is an induction over the text. -/
@[elab_as_elim]
theorem split_induction {delimiter : Text} (nonempty : delimiter ≠ []) {motive : Text → Prop}
    (whole : ∀ strCopy, find delimiter strCopy = none → motive strCopy)
    (cut : ∀ strCopy pos, find delimiter strCopy = some pos →
      motive (strCopy.drop (pos + delimiter.length)) → motive strCopy)
    (str : Text) : motive str := by
  cases found : find delimiter str with
  | none => exact whole str found
  | some pos =>
    have inside := find_bound found
    have positive := List.length_pos_iff.mpr nonempty
    exact cut str pos found (split_induction nonempty whole cut _)
termination_by str.length
decreasing_by
  rw [List.length_drop]
  omega

/-- Splitting peels off a first part that has no delimiter. -/
theorem split_append {delimiter : Char} {first : Text} (rest : Text) (free : delimiter ∉ first) :
    split (first ++ delimiter :: rest) [delimiter] = first :: split rest [delimiter] := by
  rw [split_of_find (by simp) (find_delimiter rest free)]
  simp

/-- `joinStringVector` and `joinStringList`: they build the same text. -/
def joinStrings (delimiter : Text) : List Text → Text
  | [] => []
  | first :: rest => first ++ rest.flatMap (delimiter ++ ·)

theorem splitFirst_of_find {first rest delimiter : Text}
    (found : find delimiter (first ++ (delimiter ++ rest)) = some first.length) :
    splitFirst (first ++ (delimiter ++ rest)) delimiter = (first, rest) := by
  rw [splitFirst, found]
  dsimp only
  rw [List.take_left, ← List.append_assoc, ← List.length_append, List.drop_left]

theorem splitFirst_append {delimiter : Char} {first : Text} (rest : Text)
    (free : delimiter ∉ first) :
    splitFirst (first ++ delimiter :: rest) [delimiter] = (first, rest) := by
  simp [splitFirst, find_delimiter rest free]

/-- Lines with their ends in front of another text. -/
theorem split_lines_append (lines : List Text) (rest : Text)
    (free : ∀ line ∈ lines, newline ∉ line) :
    split (lines.flatMap (· ++ [newline]) ++ rest) [newline] = lines ++ split rest [newline] := by
  induction lines with
  | nil => rfl
  | cons line more ih =>
    have later := ih fun other member => free other (List.mem_cons_of_mem line member)
    rw [List.flatMap_cons, List.append_assoc, List.append_assoc, List.singleton_append,
      split_append _ (free line List.mem_cons_self), later, List.cons_append]

/-- Lines that each end in a newline are split into themselves and an empty rest. -/
theorem split_lines (lines : List Text) (free : ∀ line ∈ lines, newline ∉ line) :
    split (lines.flatMap (· ++ [newline])) [newline] = lines ++ [[]] := by
  have parts := split_lines_append lines [] free
  rwa [List.append_nil] at parts

/-- Splitting is undone by joining: parts without the delimiter come back. -/
theorem split_joinStrings {delimiter : Char} {parts : List Text} (nonempty : parts ≠ [])
    (free : ∀ part ∈ parts, delimiter ∉ part) :
    split (joinStrings [delimiter] parts) [delimiter] = parts := by
  induction parts with
  | nil => exact absurd rfl nonempty
  | cons part rest ih =>
    cases rest with
    | nil =>
      have shape : joinStrings [delimiter] [part] = part := by simp [joinStrings]
      rw [shape, split_of_free (free part List.mem_cons_self)]
    | cons second more =>
      have shape : joinStrings [delimiter] (part :: second :: more) =
          part ++ delimiter :: joinStrings [delimiter] (second :: more) := by
        simp [joinStrings]
      have later := ih (by simp) fun other member => free other (List.mem_cons_of_mem part member)
      rw [shape, split_append _ (free part List.mem_cons_self), later]

/-- With one byte for a delimiter, this is the library's splitting. -/
theorem split_eq_splitOn (str : Text) (delimiter : Char) :
    split str [delimiter] = str.splitOn delimiter := by
  by_cases inside : delimiter ∈ str
  · obtain ⟨first, rest, rfl, free⟩ := List.eq_append_cons_of_mem inside
    have later := split_eq_splitOn rest delimiter
    rw [split_append rest free, List.splitOn_append_cons_self_of_not_mem free, later]
  · rw [split_of_free inside, List.splitOn_eq_singleton inside]
termination_by str.length
decreasing_by
  subst_vars
  simp only [List.length_append, List.length_cons]
  omega

/-- The parts of two texts with a delimiter between them. -/
theorem split_append_split (first second : Text) (delimiter : Char) :
    split (first ++ delimiter :: second) [delimiter] =
      split first [delimiter] ++ split second [delimiter] := by
  simp only [split_eq_splitOn, List.splitOn_append_cons_self]

/-- No part contains the delimiter, even one that overlaps itself. -/
theorem not_infix_of_mem_split {str delimiter part : Text} (nonempty : delimiter ≠ [])
    (member : part ∈ split str delimiter) : ¬ delimiter <:+: part := by
  induction str using split_induction nonempty with
  | whole strCopy none =>
    rw [split_of_none nonempty none] at member
    rw [List.mem_singleton.mp member]
    exact find_eq_none.mp none
  | cut strCopy pos found ih =>
    rw [split_of_find nonempty found] at member
    rcases List.mem_cons.mp member with rfl | later
    · exact find_first nonempty found
    · exact ih later

theorem notMem_of_mem_split {str part : Text} {delimiter : Char}
    (member : part ∈ split str [delimiter]) : delimiter ∉ part := by
  have free := not_infix_of_mem_split (by simp) member
  rwa [List.singleton_infix_iff] at free

theorem split_ne_nil (str delimiter : Text) : split str delimiter ≠ [] := by
  unfold split
  cases str.length with
  | zero => simp [splitTurns]
  | succ turns =>
    unfold splitTurns
    split <;> simp

theorem joinStrings_cons_of_ne_nil {delimiter first : Text} {rest : List Text}
    (more : rest ≠ []) :
    joinStrings delimiter (first :: rest) = first ++ (delimiter ++ joinStrings delimiter rest) := by
  cases rest with
  | nil => exact absurd rfl more
  | cons second others => simp [joinStrings]

/-- Joining undoes splitting. -/
theorem joinStrings_split_of_ne_nil (str : Text) {delimiter : Text} (nonempty : delimiter ≠ []) :
    joinStrings delimiter (split str delimiter) = str := by
  induction str using split_induction nonempty with
  | whole strCopy none =>
    rw [split_of_none nonempty none]
    simp [joinStrings]
  | cut strCopy pos found ih =>
    rw [split_of_find nonempty found, joinStrings_cons_of_ne_nil (split_ne_nil _ _), ih,
      take_append_drop_of_find found]

theorem joinStrings_split (str : Text) (delimiter : Char) :
    joinStrings [delimiter] (split str [delimiter]) = str :=
  joinStrings_split_of_ne_nil str (by simp)

/-- Joined parts contain only bytes of the parts and delimiters. -/
theorem notMem_joinStrings {byte : Char} {delimiter : Text} {parts : List Text}
    (delimiterFree : byte ∉ delimiter) (free : ∀ part ∈ parts, byte ∉ part) :
    byte ∉ joinStrings delimiter parts := by
  cases parts with
  | nil => exact List.not_mem_nil
  | cons first rest =>
    simp only [joinStrings, List.mem_append, List.mem_flatMap, not_or, not_exists, not_and]
    refine ⟨free first List.mem_cons_self, ?_⟩
    intro part member
    exact ⟨delimiterFree, free part (List.mem_cons_of_mem first member)⟩

end TwitterClone
