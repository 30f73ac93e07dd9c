import TwitterClone.Csv.Lines

/-! Adding columns to the rows of any file. The rows are written anew without the
delimiters at the ends of lines, over the old text, and what reaches beyond the new text
stays. -/
namespace TwitterClone.Csv

open Foundation InputStream

variable {delimiter : Char}

/-- What a line keeps when its columns are written again. -/
def trimmed (delimiter : Char) (line : Text) : Text :=
  if line.getLast? = some delimiter then line.dropLast else line

theorem trimmed_append (front : Text) {rest : Text} (nonempty : rest ≠ []) :
    trimmed delimiter (front ++ rest) = front ++ trimmed delimiter rest := by
  unfold trimmed
  rw [List.getLast?_append_of_ne_nil _ nonempty, List.dropLast_append_of_ne_nil nonempty]
  split <;> rfl

theorem trimmed_concat (front : Text) : trimmed delimiter (front ++ [delimiter]) = front := by
  rw [trimmed, List.getLast?_concat, if_pos rfl, List.dropLast_concat]

theorem trimmed_of_free {line : Text} (free : delimiter ∉ line) : trimmed delimiter line = line :=
  if_neg fun last => free (List.mem_of_getLast? last)

theorem trimmed_eq_self {line : Text} :
    trimmed delimiter line = line ↔ line.getLast? ≠ some delimiter := by
  unfold trimmed
  split
  next last =>
    refine iff_of_false ?_ (not_not_intro last)
    intro same
    have length := congrArg List.length same
    have positive := List.length_pos_of_mem (List.mem_of_getLast? last)
    rw [List.length_dropLast] at length
    omega
  next other => exact iff_of_true rfl other

theorem length_trimmed (line : Text) :
    line.length = (trimmed delimiter line).length +
      if line.getLast? = some delimiter then 1 else 0 := by
  unfold trimmed
  split
  next last =>
    have positive := List.length_pos_of_mem (List.mem_of_getLast? last)
    rw [List.length_dropLast]
    omega
  next => rfl

theorem split_injective {first second : Text}
    (same : split first [delimiter] = split second [delimiter]) : first = second := by
  rw [← joinStrings_split first delimiter, same, joinStrings_split]

/-- The columns of a line are the parts between its delimiters, without the one at its
end. -/
theorem parseRow_eq_split {line : Text} (nonempty : line ≠ []) :
    parseRow delimiter line = split (trimmed delimiter line) [delimiter] := by
  by_cases inside : delimiter ∈ line
  · obtain ⟨first, rest, rfl, free⟩ := List.eq_append_cons_of_mem inside
    rw [parseRow_append rest free]
    by_cases ends : rest = []
    · rw [ends, trimmed_concat, split_of_free free, parseRow_nil]
    · have cut := @trimmed_append delimiter (first ++ [delimiter]) rest ends
      rw [List.append_assoc, List.append_assoc, List.singleton_append,
        List.singleton_append] at cut
      rw [parseRow_eq_split ends, cut, split_append _ free]
  · rw [trimmed_of_free inside, parseRow_of_free inside nonempty, split_of_free inside]
termination_by line.length
decreasing_by
  subst_vars
  simp only [List.length_append, List.length_cons]
  omega

theorem parseRow_eq_split_iff {line other : Text} (nonempty : line ≠ []) :
    parseRow delimiter line = split other [delimiter] ↔ trimmed delimiter line = other := by
  rw [parseRow_eq_split nonempty]
  exact ⟨split_injective, fun same => congrArg (split · [delimiter]) same⟩

/-- Columns that are written behind a text come behind its parts. -/
theorem split_columns (text : Text) {columns : List Text}
    (free : ∀ column ∈ columns, delimiter ∉ column) :
    split (text ++ columns.flatMap (delimiter :: ·)) [delimiter] =
      split text [delimiter] ++ columns := by
  induction columns generalizing text with
  | nil => rw [List.flatMap_nil, List.append_nil, List.append_nil]
  | cons column rest ih =>
    have later := ih (text ++ delimiter :: column) fun other member =>
      free other (List.mem_cons_of_mem column member)
    rw [List.flatMap_cons, ← List.append_assoc, later, split_append_split,
      split_of_free (free column List.mem_cons_self), List.append_assoc, List.singleton_append]

theorem joinStrings_concat (lines : List Text) (last : Text) :
    joinStrings [newline] (lines ++ [last]) = lines.flatMap (· ++ [newline]) ++ last := by
  induction lines with
  | nil => simp [joinStrings]
  | cons line rest ih =>
    cases rest with
    | nil => simp [joinStrings]
    | cons second more =>
      rw [List.cons_append, List.cons_append, joinStrings_cons, ← List.cons_append, ih]
      simp

theorem split_eq_singleton {str part : Text} :
    split str [newline] = [part] ↔ newline ∉ str ∧ str = part := by
  constructor
  · intro single
    have whole := joinStrings_split str newline
    rw [single] at whole
    have same : str = part := by simpa [joinStrings] using whole.symm
    refine ⟨same ▸ notMem_of_mem_split (single ▸ List.mem_singleton_self part), same⟩
  · rintro ⟨free, rfl⟩
    exact split_of_free free

section Rewriting

variable {columnNumber : Nat} {seachFor : Text} {newColumns : List Text}

/-- The line has the text that is searched for in the column. -/
def Matches (delimiter : Char) (columnNumber : Nat) (seachFor line : Text) : Prop :=
  (parseRow delimiter line)[columnNumber]? = some seachFor

instance decidableMatches (delimiter : Char) (columnNumber : Nat) (seachFor line : Text) :
    Decidable (Matches delimiter columnNumber seachFor line) :=
  inferInstanceAs (Decidable (_ = _))

/-- What is written for a line. -/
def rewritten (delimiter : Char) (columnNumber : Nat) (seachFor : Text) (newColumns : List Text)
    (line : Text) : Text :=
  trimmed delimiter line ++
    if Matches delimiter columnNumber seachFor line then newColumns.flatMap (delimiter :: ·) else []

/-- How much longer a line gets by the new columns. -/
def columnsLength (newColumns : List Text) : Nat :=
  (newColumns.map fun column => column.length + 1).sum

theorem length_columns (newColumns : List Text) :
    (newColumns.flatMap (delimiter :: ·)).length = columnsLength newColumns := by
  rw [List.length_flatMap]
  rfl

/-- No line is empty, and none begins with a delimiter. -/
def PlainLines (delimiter : Char) (content : Text) : Prop :=
  ∀ line ∈ split content [newline], line ≠ [] ∧ line.head? ≠ some delimiter

theorem trimmed_eq_nil {line : Text} (none : trimmed delimiter line = []) :
    line = [] ∨ line = [delimiter] := by
  unfold trimmed at none
  split at none
  next last =>
    obtain ⟨front, rfl⟩ := List.getLast?_eq_some_iff.mp last
    rw [List.dropLast_concat] at none
    rw [none]
    exact Or.inr rfl
  next => exact Or.inl none

theorem trimmed_ne_nil {line : Text} (nonempty : line ≠ []) (plain : line.head? ≠ some delimiter) :
    trimmed delimiter line ≠ [] := by
  intro none
  rcases trimmed_eq_nil none with rfl | rfl
  · exact nonempty rfl
  · exact plain rfl

theorem mem_of_mem_trimmed {line : Text} {byte : Char} (member : byte ∈ trimmed delimiter line) :
    byte ∈ line := by
  unfold trimmed at member
  split at member
  next => exact List.mem_of_mem_dropLast member
  next => exact member

theorem newline_notMem_rewritten {line : Text} (free : newline ∉ line)
    (different : delimiter ≠ newline) (clean : ∀ column ∈ newColumns, Clean delimiter column) :
    newline ∉ rewritten delimiter columnNumber seachFor newColumns line := by
  intro member
  rcases List.mem_append.mp member with old | new
  · exact free (mem_of_mem_trimmed old)
  · split at new
    next =>
      obtain ⟨column, listed, inside⟩ := List.mem_flatMap.mp new
      rcases List.mem_cons.mp inside with same | inside
      · exact different same.symm
      · exact (clean column listed).2.2 inside
    next => cases new

/-- The columns of a line, with the new ones where they belong, are the parts of what is
written for it. -/
theorem extend_parseRow {line : Text} (nonempty : line ≠ [])
    (free : ∀ column ∈ newColumns, delimiter ∉ column) :
    extend columnNumber seachFor newColumns (parseRow delimiter line) =
      split (rewritten delimiter columnNumber seachFor newColumns line) [delimiter] := by
  by_cases found : Matches delimiter columnNumber seachFor line
  · have here : (parseRow delimiter line)[columnNumber]? = some seachFor := found
    rw [extend, if_pos here, rewritten, if_pos found,
      split_columns _ free, ← parseRow_eq_split nonempty]
  · have here : ¬ (parseRow delimiter line)[columnNumber]? = some seachFor := found
    rw [extend, if_neg here, rewritten, if_neg found, List.append_nil,
      ← parseRow_eq_split nonempty]

theorem getLast?_columns {column : Text} (member : column ∈ newColumns.getLast?)
    (nonempty : column ≠ []) :
    (newColumns.flatMap (delimiter :: ·)).getLast? = column.getLast? := by
  obtain ⟨front, rfl⟩ := List.getLast?_eq_some_iff.mp member
  rw [List.flatMap_append, List.flatMap_singleton, List.getLast?_append_of_ne_nil _ (by simp)]
  cases column with
  | nil => exact absurd rfl nonempty
  | cons byte rest => rw [List.getLast?_cons_cons]

/-- What is written for a line is read back as it is unless the line is not extended and
ended with two delimiters. -/
theorem trimmed_rewritten {line : Text}
    (clean : ∀ column ∈ newColumns, Clean delimiter column) :
    trimmed delimiter (rewritten delimiter columnNumber seachFor newColumns line) =
        rewritten delimiter columnNumber seachFor newColumns line ↔
      ((newColumns ≠ [] ∧ Matches delimiter columnNumber seachFor line) ∨
        ¬ [delimiter, delimiter] <:+ line) := by
  rw [trimmed_eq_self]
  by_cases extended : newColumns ≠ [] ∧ Matches delimiter columnNumber seachFor line
  · refine iff_of_true ?_ (Or.inl extended)
    obtain ⟨some, found⟩ := extended
    have listed := List.getLast?_eq_some_getLast some
    have column := clean _ (List.getLast_mem some)
    have flat := @getLast?_columns delimiter _ _ listed column.1
    rw [rewritten, if_pos found, List.getLast?_append_of_ne_nil, flat]
    · intro last
      exact column.2.1 (List.mem_of_getLast? last)
    · intro none
      rw [none] at flat
      exact column.1 (List.getLast?_eq_none_iff.mp flat.symm)
  · have kept : rewritten delimiter columnNumber seachFor newColumns line =
        trimmed delimiter line := by
      unfold rewritten
      split
      next found =>
        have none : newColumns = [] := by
          by_contra some
          exact extended ⟨some, found⟩
        rw [none, List.flatMap_nil, List.append_nil]
      next => rw [List.append_nil]
    rw [kept, or_iff_right extended, not_iff_not]
    constructor
    · intro last
      have ends : line.getLast? = some delimiter := by
        by_contra other
        rw [trimmed, if_neg other] at last
        exact other last
      obtain ⟨front, rfl⟩ := List.getLast?_eq_some_iff.mp ends
      rw [trimmed_concat] at last
      obtain ⟨before, rfl⟩ := List.getLast?_eq_some_iff.mp last
      exact ⟨before, by simp⟩
    · rintro ⟨before, rfl⟩
      have shape : before ++ [delimiter, delimiter] = (before ++ [delimiter]) ++ [delimiter] := by
        simp
      rw [shape, trimmed_concat, List.getLast?_concat]

/-- The lines but the last, each with its end, and the last one. -/
theorem exists_lines (content : Text) : ∃ before last, split content [newline] = before ++ [last] ∧
    content = before.flatMap (· ++ [newline]) ++ last := by
  have some := split_ne_nil content [newline]
  refine ⟨(split content [newline]).dropLast, (split content [newline]).getLast some,
    (List.dropLast_append_getLast some).symm, ?_⟩
  rw [← joinStrings_concat, List.dropLast_append_getLast, joinStrings_split]

/-- All that is written for a file. -/
def rewrittenText (delimiter : Char) (columnNumber : Nat) (seachFor : Text)
    (newColumns : List Text) (content : Text) : Text :=
  joinStrings [newline]
    ((split content [newline]).map (rewritten delimiter columnNumber seachFor newColumns))

theorem readRows_filled {content : Text} (filled : ∀ line ∈ split content [newline], line ≠ []) :
    readRows delimiter content =
      ((split content [newline]).map (parseRow delimiter), { rest := [], eof := true }) := by
  have last := filled _ (List.getLast_mem (split_ne_nil content [newline]))
  rw [readRows, readLines_content content _ (Nat.lt_succ_self _), List.isEmpty_eq_false_iff.mpr last]

theorem formatRest_rewritten (lines : List Text) :
    formatRest delimiter (lines.map fun line =>
      split (rewritten delimiter columnNumber seachFor newColumns line) [delimiter]) =
      .ok ((lines.map (rewritten delimiter columnNumber seachFor newColumns)).flatMap
        ([newline] ++ ·)) := by
  rw [formatRest_rows]
  · rw [List.flatMap_map, List.flatMap_map]
    simp only [joinStrings_split, List.singleton_append]
  · intro row member
    obtain ⟨line, -, rfl⟩ := List.mem_map.mp member
    exact split_ne_nil _ _

/-- A file without empty lines has a first row with a column, and all rows together are
formatted as the text that is written. -/
theorem exists_formatted {content : Text} (filled : ∀ line ∈ split content [newline], line ≠ [])
    (free : ∀ column ∈ newColumns, delimiter ∉ column) :
    ∃ column columns rest line later,
      ((split content [newline]).map (parseRow delimiter)).map
          (fun row => if row[columnNumber]? = some seachFor then row ++ newColumns else row) =
        (column :: columns) :: rest ∧
      formatLine delimiter (column :: columns) = .ok line ∧
      formatRest delimiter rest = .ok later ∧
      line ++ later = rewrittenText delimiter columnNumber seachFor newColumns content := by
  have rows : ((split content [newline]).map (parseRow delimiter)).map
      (fun row => if row[columnNumber]? = some seachFor then row ++ newColumns else row) =
        (split content [newline]).map fun line =>
          split (rewritten delimiter columnNumber seachFor newColumns line) [delimiter] := by
    rw [List.map_map]
    refine List.map_congr_left fun line member => ?_
    exact extend_parseRow (filled line member) free
  have some := split_ne_nil content [newline]
  rw [rows, rewrittenText]
  cases lines : split content [newline] with
  | nil => exact absurd lines some
  | cons first rest =>
    have parts := split_ne_nil (rewritten delimiter columnNumber seachFor newColumns first)
      [delimiter]
    have line := @formatLine_of_nonempty delimiter _ parts
    rw [joinStrings_split] at line
    cases shape : split (rewritten delimiter columnNumber seachFor newColumns first)
        [delimiter] with
    | nil => exact absurd shape parts
    | cons column columns =>
      rw [shape] at line
      have others := @formatRest_rewritten delimiter columnNumber seachFor newColumns rest
      refine ⟨column, columns, _, _, _, ?_, line, others, ?_⟩
      · rw [List.map_cons, shape]
      · rw [List.map_cons, joinStrings]

/-- What a call leaves of a file without empty lines. -/
theorem appendToLine_filled {content : Text} (filled : ∀ line ∈ split content [newline], line ≠ [])
    (free : ∀ column ∈ newColumns, delimiter ∉ column) :
    appendToLine delimiter content columnNumber seachFor newColumns =
      .ok (rewrittenText delimiter columnNumber seachFor newColumns content ++
        content.drop (rewrittenText delimiter columnNumber seachFor newColumns content).length,
        true) := by
  obtain ⟨column, columns, rest, line, later, rows, first, others, text⟩ :=
    @exists_formatted delimiter columnNumber seachFor newColumns content filled free
  rw [appendToLine, readRows_filled filled]
  dsimp only
  rw [rows]
  simp only [first, others, text, overwrite, Bool.false_eq_true, ↓reduceIte]

/-- The rows that are read from what was written and a rest. -/
theorem readAll_rewritten {before : List Text} {last rest : Text}
    (write : Text → Text) (free : ∀ line ∈ before, newline ∉ write line)
    (filled : ∀ line ∈ before, write line ≠ []) (filledLast : write last ≠ []) :
    readAll delimiter (some ((before.map write).flatMap (· ++ [newline]) ++ (write last ++ rest))) =
        (before ++ [last]).map (fun line => split (write line) [delimiter]) ↔
      (∀ line ∈ before, trimmed delimiter (write line) = write line) ∧
        newline ∉ write last ++ rest ∧ trimmed delimiter (write last ++ rest) = write last := by
  have freeToo : ∀ line ∈ before.map write, newline ∉ line := by
    intro line member
    obtain ⟨old, inside, rfl⟩ := List.mem_map.mp member
    exact free old inside
  rw [readAll_split, split_lines_append _ _ freeToo, List.map_append, List.map_append,
    List.append_eq_append_iff_of_size_eq_left (by simp), List.map_map, List.map_inj_left]
  refine and_congr ?_ ?_
  · refine forall₂_congr fun line member => ?_
    exact parseRow_eq_split_iff (filled line member)
  · rw [List.map_singleton, List.map_eq_singleton_iff]
    have nonempty : write last ++ rest ≠ [] := List.append_ne_nil_of_left_ne_nil filledLast rest
    constructor
    · rintro ⟨line, single, same⟩
      obtain ⟨free, rfl⟩ := split_eq_singleton.mp single
      exact ⟨free, (parseRow_eq_split_iff nonempty).mp same⟩
    · rintro ⟨free, same⟩
      exact ⟨_, split_eq_singleton.mpr ⟨free, rfl⟩, (parseRow_eq_split_iff nonempty).mpr same⟩

/-- A rest that is not empty is read away only if it is one delimiter. -/
theorem trimmed_append_iff {text rest : Text} (some : rest ≠ []) :
    trimmed delimiter (text ++ rest) = text ↔ rest = [delimiter] := by
  constructor
  · intro same
    rw [trimmed_append text some] at same
    have none : trimmed delimiter rest = [] := List.append_right_eq_self.mp same
    have length := @length_trimmed delimiter rest
    have positive := List.length_pos_iff.mpr some
    rw [none, List.length_nil] at length
    split at length
    next last =>
      obtain ⟨front, rfl⟩ := List.getLast?_eq_some_iff.mp last
      rw [trimmed_concat] at none
      rw [none, List.nil_append]
    next => omega
  · rintro rfl
    exact trimmed_concat text

/-- How many delimiters at the ends of lines are not written again. -/
def trailing (delimiter : Char) (content : Text) : Nat :=
  (split content [newline]).countP fun line => line.getLast? = some delimiter

/-- How much is written that was not there. -/
def growth (delimiter : Char) (columnNumber : Nat) (seachFor : Text) (newColumns : List Text)
    (content : Text) : Nat :=
  (split content [newline]).countP (Matches delimiter columnNumber seachFor ·) *
    columnsLength newColumns

theorem length_rewritten (line : Text) :
    line.length + (if Matches delimiter columnNumber seachFor line then columnsLength newColumns
        else 0) =
      (rewritten delimiter columnNumber seachFor newColumns line).length +
        if line.getLast? = some delimiter then 1 else 0 := by
  have length := @length_trimmed delimiter line
  rw [rewritten, List.length_append]
  split
  next =>
    rw [length_columns]
    omega
  next =>
    rw [List.length_nil]
    omega

theorem length_rewrittenLines (lines : List Text) :
    (lines.flatMap (· ++ [newline])).length +
        lines.countP (Matches delimiter columnNumber seachFor ·) * columnsLength newColumns =
      ((lines.map (rewritten delimiter columnNumber seachFor newColumns)).flatMap
          (· ++ [newline])).length +
        lines.countP fun line => line.getLast? = some delimiter := by
  induction lines with
  | nil => simp
  | cons line rest ih =>
    have here := @length_rewritten delimiter columnNumber seachFor newColumns line
    have found : (line :: rest).countP (Matches delimiter columnNumber seachFor ·) *
        columnsLength newColumns =
          rest.countP (Matches delimiter columnNumber seachFor ·) * columnsLength newColumns +
            if Matches delimiter columnNumber seachFor line then columnsLength newColumns else 0 := by
      rw [List.countP_cons, Nat.add_mul]
      by_cases matched : Matches delimiter columnNumber seachFor line <;> simp [matched]
    have ends : ((line :: rest).countP fun line => line.getLast? = some delimiter) =
        (rest.countP fun line => line.getLast? = some delimiter) +
          if line.getLast? = some delimiter then 1 else 0 := by
      rw [List.countP_cons]
      by_cases last : line.getLast? = some delimiter <;> simp [last]
    rw [found, ends, List.map_cons, List.flatMap_cons, List.flatMap_cons]
    simp only [List.length_append, List.length_singleton]
    omega

/-- The file gets longer by the new columns and shorter by the delimiters that are lost. -/
theorem length_rewrittenText (content : Text) :
    content.length + growth delimiter columnNumber seachFor newColumns content =
      (rewrittenText delimiter columnNumber seachFor newColumns content).length +
        trailing delimiter content := by
  obtain ⟨before, last, lines, text⟩ := exists_lines content
  have whole := @length_rewrittenLines delimiter columnNumber seachFor newColumns
    (split content [newline])
  have old : ((split content [newline]).flatMap (· ++ [newline])).length = content.length + 1 := by
    rw [lines, List.flatMap_append, List.flatMap_singleton, ← List.append_assoc, ← text,
      List.length_append, List.length_singleton]
  have new : (((split content [newline]).map
      (rewritten delimiter columnNumber seachFor newColumns)).flatMap (· ++ [newline])).length =
        (rewrittenText delimiter columnNumber seachFor newColumns content).length + 1 := by
    rw [rewrittenText, lines, List.map_append, List.map_singleton, joinStrings_concat,
      List.flatMap_append, List.flatMap_singleton, ← List.append_assoc, List.length_append,
      List.length_singleton]
  rw [old, new] at whole
  rw [growth, trailing]
  omega

theorem drop_eq_singleton_iff {text : Text} {count : Nat} {byte : Char} :
    text.drop count = [byte] ↔ text.length = count + 1 ∧ text.getLast? = some byte := by
  constructor
  · intro rest
    have length := congrArg List.length rest
    rw [List.length_drop, List.length_singleton] at length
    refine ⟨by omega, ?_⟩
    rw [← List.take_append_drop count text, rest, List.getLast?_concat]
  · rintro ⟨length, last⟩
    obtain ⟨front, rfl⟩ := List.getLast?_eq_some_iff.mp last
    rw [List.length_append, List.length_singleton] at length
    exact List.drop_left' (Nat.succ_injective length)

section CleanRows

variable {rows : List (List Text)}

theorem split_rowsText (nonempty : rows ≠ []) (clean : ∀ row ∈ rows, CleanRow delimiter row)
    (different : delimiter ≠ newline) :
    split (rowsText delimiter rows) [newline] = rows.map (joinStrings [delimiter]) := by
  refine split_joinStrings (by simpa using nonempty) ?_
  intro line member
  obtain ⟨row, listed, rfl⟩ := List.mem_map.mp member
  exact newline_notMem_joinStrings (clean row listed) different

theorem getLast?_joinStrings {row : List Text} (clean : CleanRow delimiter row) :
    (joinStrings [delimiter] row).getLast? ≠ some delimiter := by
  have parts := parseRow_join clean
  rw [parseRow_eq_split (joinStrings_ne_nil clean)] at parts
  rw [← trimmed_eq_self, ← joinStrings_split (trimmed delimiter _) delimiter, parts]

/-- Clean rows have nothing that could get lost. -/
theorem trailing_rowsText (nonempty : rows ≠ []) (clean : ∀ row ∈ rows, CleanRow delimiter row)
    (different : delimiter ≠ newline) : trailing delimiter (rowsText delimiter rows) = 0 := by
  rw [trailing, split_rowsText nonempty clean different, List.countP_eq_zero]
  intro line member
  obtain ⟨row, listed, rfl⟩ := List.mem_map.mp member
  simpa using getLast?_joinStrings (clean row listed)

/-- The text that is written for clean rows is that of the extended ones. -/
theorem rewrittenText_rowsText (nonempty : rows ≠ [])
    (clean : ∀ row ∈ rows, CleanRow delimiter row) (different : delimiter ≠ newline)
    (free : ∀ column ∈ newColumns, delimiter ∉ column) :
    rewrittenText delimiter columnNumber seachFor newColumns (rowsText delimiter rows) =
      rowsText delimiter (rows.map (extend columnNumber seachFor newColumns)) := by
  rw [rewrittenText, split_rowsText nonempty clean different, rowsText, List.map_map, List.map_map]
  refine congrArg (joinStrings [newline]) (List.map_congr_left fun row member => ?_)
  have here := clean row member
  have parts := @extend_parseRow delimiter columnNumber seachFor newColumns _
    (joinStrings_ne_nil here) free
  rw [parseRow_join here] at parts
  rw [Function.comp_apply, Function.comp_apply, parts, joinStrings_split]

end CleanRows

/-- A call returns true and leaves the rows of the file as they were, with the new columns
at those whose column is the text that is searched for. -/
def EditsMatching (delimiter : Char) (columnNumber : Nat) (seachFor : Text)
    (newColumns : List Text) (content : Text) : Prop :=
  ∃ result, appendToLine delimiter content columnNumber seachFor newColumns =
      .ok (result, true) ∧
    readAll delimiter (some result) =
      (readAll delimiter (some content)).map (extend columnNumber seachFor newColumns)

/-- The line does not lose an empty column at its end. -/
def KeepsLast (delimiter : Char) (columnNumber : Nat) (seachFor : Text)
    (newColumns : List Text) (line : Text) : Prop :=
  [delimiter, delimiter] <:+ line → newColumns ≠ [] ∧ Matches delimiter columnNumber seachFor line

theorem trimmed_rewritten_iff {line : Text}
    (clean : ∀ column ∈ newColumns, Clean delimiter column) :
    trimmed delimiter (rewritten delimiter columnNumber seachFor newColumns line) =
        rewritten delimiter columnNumber seachFor newColumns line ↔
      KeepsLast delimiter columnNumber seachFor newColumns line :=
  (trimmed_rewritten clean).trans (or_comm.trans imp_iff_not_or.symm)

/-- What decides is each line but the last, and the last one with what stays of the old
text. -/
theorem editsMatching_rest {content : Text} (different : delimiter ≠ newline)
    (nonempty : ∀ line ∈ split content [newline], line ≠ [])
    (filled : ∀ line ∈ split content [newline],
      rewritten delimiter columnNumber seachFor newColumns line ≠ [])
    (clean : ∀ column ∈ newColumns, Clean delimiter column) {before : List Text} {last : Text}
    (lines : split content [newline] = before ++ [last]) :
    EditsMatching delimiter columnNumber seachFor newColumns content ↔
      (∀ line ∈ before, KeepsLast delimiter columnNumber seachFor newColumns line) ∧
        newline ∉ rewritten delimiter columnNumber seachFor newColumns last ++ content.drop
          (rewrittenText delimiter columnNumber seachFor newColumns content).length ∧
        trimmed delimiter (rewritten delimiter columnNumber seachFor newColumns last ++
          content.drop
            (rewrittenText delimiter columnNumber seachFor newColumns content).length) =
          rewritten delimiter columnNumber seachFor newColumns last := by
  have free : ∀ column ∈ newColumns, delimiter ∉ column :=
    fun column member => (clean column member).2.1
  have inside : ∀ line ∈ before, line ∈ split content [newline] := by
    intro line member
    rw [lines]
    exact List.mem_append_left [last] member
  have final : last ∈ split content [newline] := by
    rw [lines]
    exact List.mem_append_right before (List.mem_singleton_self last)
  have result : rewrittenText delimiter columnNumber seachFor newColumns content =
      (before.map (rewritten delimiter columnNumber seachFor newColumns)).flatMap
        (· ++ [newline]) ++ rewritten delimiter columnNumber seachFor newColumns last := by
    rw [rewrittenText, lines, List.map_append, List.map_singleton, joinStrings_concat]
  have expected : (readAll delimiter (some content)).map (extend columnNumber seachFor newColumns) =
      (before ++ [last]).map fun line =>
        split (rewritten delimiter columnNumber seachFor newColumns line) [delimiter] := by
    rw [readAll_split, List.map_map, ← lines]
    refine List.map_congr_left fun line member => ?_
    exact extend_parseRow (nonempty line member) free
  have written := @readAll_rewritten delimiter before last
    (content.drop (rewrittenText delimiter columnNumber seachFor newColumns content).length)
    (rewritten delimiter columnNumber seachFor newColumns)
    (fun line member =>
      newline_notMem_rewritten (notMem_of_mem_split (inside line member)) different clean)
    (fun line member => filled line (inside line member)) (filled last final)
  have kept : (∀ line ∈ before,
      trimmed delimiter (rewritten delimiter columnNumber seachFor newColumns line) =
        rewritten delimiter columnNumber seachFor newColumns line) ↔
      ∀ line ∈ before, KeepsLast delimiter columnNumber seachFor newColumns line :=
    forall₂_congr fun line _ => trimmed_rewritten_iff clean
  rw [kept, ← expected, ← List.append_assoc, ← result] at written
  rw [← written, EditsMatching, appendToLine_filled nonempty free]
  constructor
  · rintro ⟨file, call, same⟩
    cases call
    exact same
  · intro same
    exact ⟨_, rfl, same⟩

/-- Nothing of the old text stays when the new one is as long. -/
theorem editsMatching_of_longer {content : Text} (different : delimiter ≠ newline)
    (nonempty : ∀ line ∈ split content [newline], line ≠ [])
    (filled : ∀ line ∈ split content [newline],
      rewritten delimiter columnNumber seachFor newColumns line ≠ [])
    (clean : ∀ column ∈ newColumns, Clean delimiter column)
    (longer : trailing delimiter content ≤
      growth delimiter columnNumber seachFor newColumns content) :
    EditsMatching delimiter columnNumber seachFor newColumns content ↔
      ∀ line ∈ split content [newline],
        KeepsLast delimiter columnNumber seachFor newColumns line := by
  obtain ⟨before, last, lines, text⟩ := exists_lines content
  have length := @length_rewrittenText delimiter columnNumber seachFor newColumns content
  have none : content.drop
      (rewrittenText delimiter columnNumber seachFor newColumns content).length = [] :=
    List.drop_of_length_le (by omega)
  have final : last ∈ split content [newline] := by
    rw [lines]
    exact List.mem_append_right before (List.mem_singleton_self last)
  have free : newline ∉ rewritten delimiter columnNumber seachFor newColumns last :=
    newline_notMem_rewritten (notMem_of_mem_split final) different clean
  rw [editsMatching_rest different nonempty filled clean lines, lines, List.forall_mem_append,
    List.forall_mem_singleton, none, List.append_nil, trimmed_rewritten_iff clean]
  exact and_congr_right fun _ => and_iff_right free

/-- A call edits only the rows it looks for if no line loses an empty column and the new
text covers the old one; one byte of the old one may stay if it is a delimiter, and the
last line may then lose what it likes. -/
theorem editsMatching_iff {content : Text} (different : delimiter ≠ newline)
    (plain : PlainLines delimiter content)
    (clean : ∀ column ∈ newColumns, Clean delimiter column) :
    EditsMatching delimiter columnNumber seachFor newColumns content ↔
      (trailing delimiter content ≤ growth delimiter columnNumber seachFor newColumns content ∧
          ∀ line ∈ split content [newline],
            KeepsLast delimiter columnNumber seachFor newColumns line) ∨
        (trailing delimiter content =
            growth delimiter columnNumber seachFor newColumns content + 1 ∧
          content.getLast? = some delimiter ∧
          ∀ line ∈ (split content [newline]).dropLast,
            KeepsLast delimiter columnNumber seachFor newColumns line) := by
  have nonempty : ∀ line ∈ split content [newline], line ≠ [] :=
    fun line member => (plain line member).1
  have filled : ∀ line ∈ split content [newline],
      rewritten delimiter columnNumber seachFor newColumns line ≠ [] := by
    intro line member
    obtain ⟨some, first⟩ := plain line member
    exact List.append_ne_nil_of_left_ne_nil (trimmed_ne_nil some first) _
  by_cases longer : trailing delimiter content ≤
      growth delimiter columnNumber seachFor newColumns content
  · rw [editsMatching_of_longer different nonempty filled clean longer]
    constructor
    · intro kept
      exact Or.inl ⟨longer, kept⟩
    · rintro (⟨-, kept⟩ | ⟨beyond, -⟩)
      · exact kept
      · omega
  · obtain ⟨before, last, lines, text⟩ := exists_lines content
    have length := @length_rewrittenText delimiter columnNumber seachFor newColumns content
    have final : last ∈ split content [newline] := by
      rw [lines]
      exact List.mem_append_right before (List.mem_singleton_self last)
    have free : newline ∉ rewritten delimiter columnNumber seachFor newColumns last :=
      newline_notMem_rewritten (notMem_of_mem_split final) different clean
    have some : content.drop
        (rewrittenText delimiter columnNumber seachFor newColumns content).length ≠ [] := by
      intro none
      have short := List.drop_eq_nil_iff.mp none
      omega
    rw [editsMatching_rest different nonempty filled clean lines, lines, List.dropLast_concat,
      trimmed_append_iff some, drop_eq_singleton_iff]
    constructor
    · rintro ⟨earlier, -, beyond, ends⟩
      exact Or.inr ⟨by omega, ends, earlier⟩
    · rintro (⟨within, -⟩ | ⟨beyond, ends, earlier⟩)
      · exact absurd within longer
      · have one : content.length =
            (rewrittenText delimiter columnNumber seachFor newColumns content).length + 1 := by
          omega
        refine ⟨earlier, ?_, one, ends⟩
        rw [drop_eq_singleton_iff.mpr ⟨one, ends⟩]
        intro member
        rcases List.mem_append.mp member with old | single
        · exact free old
        · exact different (List.mem_singleton.mp single).symm

theorem plain_trailing : PlainLines ';' ("ana;".toList ++ newline :: "bob".toList) := by
  unfold PlainLines
  decide +kernel

/-- The new column covers the delimiter that is lost. -/
theorem editsMatching_covered : EditsMatching ';' 0 "bob".toList ["eve".toList]
    ("ana;".toList ++ newline :: "bob".toList) := by
  have clean : ∀ column ∈ ["eve".toList], Clean ';' column := by
    unfold Clean
    decide +kernel
  refine (editsMatching_iff (by decide) plain_trailing clean).mpr (Or.inl ⟨?_, ?_⟩)
  · decide +kernel
  · unfold KeepsLast
    decide +kernel

/-- Nothing is found, the first line loses its delimiter, and the last byte of the old text
stays behind the last line. -/
theorem not_editsMatching_stale :
    PlainLines ';' ("ana;".toList ++ newline :: "bob".toList) ∧ Clean ';' "eve".toList ∧
      ¬ EditsMatching ';' 0 "dan".toList ["eve".toList]
        ("ana;".toList ++ newline :: "bob".toList) := by
  refine ⟨plain_trailing, ?_, ?_⟩
  · unfold Clean
    decide +kernel
  · rintro ⟨result, call, same⟩
    have left : appendToLine ';' ("ana;".toList ++ newline :: "bob".toList) 0 "dan".toList
        ["eve".toList] = .ok ("ana".toList ++ newline :: "bobb".toList, true) := by
      decide +kernel
    rw [left] at call
    cases call
    revert same
    decide +kernel

end Rewriting

end TwitterClone.Csv
