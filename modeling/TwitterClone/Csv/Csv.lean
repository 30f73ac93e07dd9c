import TwitterClone.Foundation.InputStream
import TwitterClone.Utils.Strings

/-! Files of delimited columns: reading every row, appending a row and adding
columns to a row. A file is its content; operations on it succeed. -/
namespace TwitterClone.Csv

open Foundation InputStream

/-- The loop that cuts a line into columns, with a bound on its turns. Each turn
takes a byte at least. -/
def readColumns (delimiter : Char) : Nat → InputStream → List Text
  | 0, _ => []
  | turns + 1, rowStream =>
    match rowStream.getline delimiter with
    | (some column, rowStream) =>
      if rowStream.fail then [] else column :: readColumns delimiter turns rowStream
    | (none, _) => []

def parseRow (delimiter : Char) (line : Text) : List Text :=
  readColumns delimiter (line.length + 1) (of line)

/-- The loop over the lines of a file, and the marks it leaves. `readAll` stops at
either mark, `appendToLine` at the end of the file; `getline` sets no failure
without it. -/
def readLines (delimiter : Char) : Nat → InputStream → List (List Text) × InputStream
  | 0, file => ([], file)
  | turns + 1, file =>
    if file.good then
      match file.getline newline with
      | (some line, file) =>
        let (rows, file) := readLines delimiter turns file
        (parseRow delimiter line :: rows, file)
      | (none, file) => ([], file)
    else ([], file)

/-- Every row of a file that was just opened. -/
def readRows (delimiter : Char) (content : Text) : List (List Text) × InputStream :=
  readLines delimiter (content.length + 1) (of content)

/-- A file that cannot be opened has no rows. -/
def readAll (delimiter : Char) : Option Text → List (List Text)
  | none => []
  | some content => (readRows delimiter content).1

/-- Opening for writing creates the file. -/
def openFile (file : Option Text) : Text := file.getD []

def formatLine (delimiter : Char) : List Text → Except Fault Text
  | [] => .error .badIndex
  | first :: rest => .ok (first ++ rest.flatMap (delimiter :: ·))

def append (delimiter : Char) (content : Text) (row : List Text) : Except Fault (Text × Bool) :=
  if row = [] then .ok (content, false)
  else
    match formatLine delimiter row with
    | .error fault => .error fault
    | .ok formattedRow =>
      if content.length = 0 then .ok (formattedRow, true)
      else .ok (content ++ newline :: formattedRow, true)

/-- The rows after the first, each behind a line end. -/
def formatRest (delimiter : Char) : List (List Text) → Except Fault Text
  | [] => .ok []
  | row :: rest =>
    match formatLine delimiter row with
    | .error fault => .error fault
    | .ok line =>
      match formatRest delimiter rest with
      | .error fault => .error fault
      | .ok later => .ok (newline :: (line ++ later))

/-- Writing from the start of a file keeps what reaches beyond. A stream that has
failed writes nothing. -/
def overwrite (file : InputStream) (content written : Text) : Text :=
  if file.fail then content else written ++ content.drop written.length

def appendToLine (delimiter : Char) (content : Text) (columnNumber : Nat) (seachFor : Text)
    (newColumns : List Text) : Except Fault (Text × Bool) :=
  let (rows, file) := readRows delimiter content
  let rows := rows.map fun row =>
    if row[columnNumber]? = some seachFor then row ++ newColumns else row
  match rows with
  | [] => .error .badIndex
  | [] :: _ => .ok (content, false)
  | first :: rest =>
    match formatLine delimiter first with
    | .error fault => .error fault
    | .ok line =>
      match formatRest delimiter rest with
      | .error fault => .error fault
      | .ok later => .ok (overwrite file content (line ++ later), true)

/-- What a column of a row may be: no byte of it ends the column or the line. -/
def Clean (delimiter : Char) (column : Text) : Prop :=
  column ≠ [] ∧ delimiter ∉ column ∧ newline ∉ column

/-- A row of clean columns. -/
structure CleanRow (delimiter : Char) (row : List Text) : Prop where
  nonempty : row ≠ []
  clean : ∀ column ∈ row, Clean delimiter column

/-- The text of some rows in a file. -/
def rowsText (delimiter : Char) (rows : List (List Text)) : Text :=
  joinStrings [newline] (rows.map (joinStrings [delimiter]))

section Reading

variable {delimiter : Char}

theorem joinStrings_cons (first second : Text) (rest : List Text) :
    joinStrings [delimiter] (first :: second :: rest) =
      first ++ delimiter :: joinStrings [delimiter] (second :: rest) := by
  simp [joinStrings]

private theorem readColumns_join (row : List Text) (nonempty : row ≠ [])
    (clean : ∀ column ∈ row, column ≠ [] ∧ delimiter ∉ column) (turns : Nat)
    (enough : (joinStrings [delimiter] row).length < turns) :
    readColumns delimiter turns (of (joinStrings [delimiter] row)) = row := by
  induction row generalizing turns with
  | nil => exact absurd rfl nonempty
  | cons column rest ih =>
    obtain ⟨some, free⟩ := clean column List.mem_cons_self
    cases turns with
    | zero => cases enough
    | succ turns =>
      cases rest with
      | nil =>
        have last := getline_last free
        have filled : column.isEmpty = false := by simpa using some
        have shape : joinStrings [delimiter] [column] = column := by simp [joinStrings]
        rw [shape, readColumns, last, filled]
        cases turns <;> rfl
      | cons second more =>
        have first := getline_append free (joinStrings [delimiter] (second :: more))
        have later := ih (by simp)
          (fun other member => clean other (List.mem_cons_of_mem column member)) turns (by
            rw [joinStrings_cons, List.length_append, List.length_cons] at enough
            omega)
        rw [joinStrings_cons, readColumns, first]
        exact congrArg (column :: ·) later

/-- A line of clean columns is cut into them. -/
theorem parseRow_join {row : List Text} (clean : CleanRow delimiter row) :
    parseRow delimiter (joinStrings [delimiter] row) = row :=
  readColumns_join row clean.nonempty
    (fun column member => ⟨(clean.clean column member).1, (clean.clean column member).2.1⟩) _
    (Nat.lt_succ_self _)

theorem joinStrings_ne_nil {row : List Text} (clean : CleanRow delimiter row) :
    joinStrings [delimiter] row ≠ [] := by
  cases row with
  | nil => exact absurd rfl clean.nonempty
  | cons column rest =>
    have some := (clean.clean column List.mem_cons_self).1
    simp [joinStrings, some]

theorem newline_notMem_joinStrings {row : List Text} (clean : CleanRow delimiter row)
    (different : delimiter ≠ newline) : newline ∉ joinStrings [delimiter] row := by
  cases row with
  | nil => simp [joinStrings]
  | cons column rest =>
    simp only [joinStrings, List.mem_append, List.mem_flatMap, not_or, not_exists, not_and]
    refine ⟨(clean.clean column List.mem_cons_self).2.2, ?_⟩
    intro other member
    have free := (clean.clean other (List.mem_cons_of_mem column member)).2.2
    simp [different.symm, free]

theorem rowsText_cons (row : List Text) (rest : List (List Text)) :
    rowsText delimiter (row :: rest) = joinStrings [delimiter] row ++
      rest.flatMap fun other => newline :: joinStrings [delimiter] other := by
  rw [rowsText, List.map_cons]
  generalize joinStrings [delimiter] row = line
  simp [joinStrings, List.flatMap_map]

private theorem readLines_rows (rows : List (List Text)) (nonempty : rows ≠ [])
    (clean : ∀ row ∈ rows, CleanRow delimiter row) (different : delimiter ≠ newline) (turns : Nat)
    (enough : (rowsText delimiter rows).length < turns) :
    readLines delimiter turns (of (rowsText delimiter rows)) =
      (rows, { rest := [], eof := true }) := by
  induction rows generalizing turns with
  | nil => exact absurd rfl nonempty
  | cons row rest ih =>
    have here := clean row List.mem_cons_self
    have free := newline_notMem_joinStrings here different
    have parsed := parseRow_join here
    cases turns with
    | zero => cases enough
    | succ turns =>
      cases rest with
      | nil =>
        have last := getline_last free
        have filled : (joinStrings [delimiter] row).isEmpty = false := by
          simpa using joinStrings_ne_nil here
        have shape : rowsText delimiter [row] = joinStrings [delimiter] row := by
          simp [rowsText, joinStrings]
        have good : (of (joinStrings [delimiter] row)).good = true := rfl
        rw [shape, readLines, if_pos good, last, filled]
        cases turns <;> simp [readLines, parsed, InputStream.good]
      | cons second more =>
        have shape : rowsText delimiter (row :: second :: more) =
            joinStrings [delimiter] row ++ newline :: rowsText delimiter (second :: more) :=
          joinStrings_cons ..
        have first := getline_append free (rowsText delimiter (second :: more))
        have later := ih (by simp)
          (fun other member => clean other (List.mem_cons_of_mem row member)) turns (by
            rw [shape, List.length_append, List.length_cons] at enough
            omega)
        have good : (of (joinStrings [delimiter] row ++ newline ::
            rowsText delimiter (second :: more))).good = true := rfl
        rw [shape, readLines, if_pos good, first]
        simp only [later, parsed]

/-- The rows of a file are read back, up to the end and without a failure. -/
theorem readRows_rowsText {rows : List (List Text)} (nonempty : rows ≠ [])
    (clean : ∀ row ∈ rows, CleanRow delimiter row) (different : delimiter ≠ newline) :
    readRows delimiter (rowsText delimiter rows) = (rows, { rest := [], eof := true }) :=
  readLines_rows rows nonempty clean different _ (Nat.lt_succ_self _)

theorem formatLine_of_nonempty {row : List Text} (nonempty : row ≠ []) :
    formatLine delimiter row = .ok (joinStrings [delimiter] row) := by
  cases row with
  | nil => exact absurd rfl nonempty
  | cons first rest => rfl

/-- Appending a row adds one line. -/
theorem append_row {rows : List (List Text)} (clean : ∀ row ∈ rows, CleanRow delimiter row)
    {row : List Text} (nonempty : row ≠ []) :
    append delimiter (rowsText delimiter rows) row =
      .ok (rowsText delimiter (rows ++ [row]), true) := by
  rw [append, if_neg nonempty, formatLine_of_nonempty nonempty]
  cases rows with
  | nil => simp [rowsText, joinStrings]
  | cons first rest =>
    have some := joinStrings_ne_nil (clean first List.mem_cons_self)
    have filled : (rowsText delimiter (first :: rest)).length ≠ 0 := by
      simp [rowsText_cons, some]
    simp only [filled, ↓reduceIte]
    rw [List.cons_append, rowsText_cons, rowsText_cons]
    simp

theorem formatRest_rows {rows : List (List Text)} (nonempty : ∀ row ∈ rows, row ≠ []) :
    formatRest delimiter rows =
      .ok (rows.flatMap fun row => newline :: joinStrings [delimiter] row) := by
  induction rows with
  | nil => rfl
  | cons row rest ih =>
    have later := ih fun other member => nonempty other (List.mem_cons_of_mem row member)
    rw [formatRest, formatLine_of_nonempty (nonempty row List.mem_cons_self), later]
    simp

/-- The rows with the new columns at the end of each row found. -/
def extend (columnNumber : Nat) (seachFor : Text) (newColumns : List Text) (row : List Text) :
    List Text :=
  if row[columnNumber]? = some seachFor then row ++ newColumns else row

private theorem length_join_extend (delimiter : Char) (columnNumber : Nat) (seachFor : Text)
    (newColumns row : List Text) :
    (joinStrings [delimiter] row).length ≤
      (joinStrings [delimiter] (extend columnNumber seachFor newColumns row)).length := by
  unfold extend
  split
  · cases row with
    | nil => simp [joinStrings]
    | cons first rest => simp [joinStrings]
  · exact le_rfl

private theorem length_rest_extend (delimiter : Char) (columnNumber : Nat) (seachFor : Text)
    (newColumns : List Text) (rows : List (List Text)) :
    (rows.flatMap fun row => newline :: joinStrings [delimiter] row).length ≤
      ((rows.map (extend columnNumber seachFor newColumns)).flatMap
        fun row => newline :: joinStrings [delimiter] row).length := by
  induction rows with
  | nil => exact le_rfl
  | cons row rest ih =>
    have here := length_join_extend delimiter columnNumber seachFor newColumns row
    simp only [List.map_cons, List.flatMap_cons, List.length_append, List.length_cons] at ih ⊢
    omega

theorem extend_ne_nil {row : List Text} (nonempty : row ≠ []) (columnNumber : Nat)
    (seachFor : Text) (newColumns : List Text) :
    extend columnNumber seachFor newColumns row ≠ [] := by
  unfold extend
  split
  · exact List.append_ne_nil_of_left_ne_nil nonempty newColumns
  · exact nonempty

/-- Adding columns rewrites the file with longer rows, so nothing of the old text
is left behind. -/
theorem appendToLine_rows {rows : List (List Text)} (nonempty : rows ≠ [])
    (clean : ∀ row ∈ rows, CleanRow delimiter row) (different : delimiter ≠ newline)
    (columnNumber : Nat) (seachFor : Text) (newColumns : List Text) :
    appendToLine delimiter (rowsText delimiter rows) columnNumber seachFor newColumns =
      .ok (rowsText delimiter (rows.map (extend columnNumber seachFor newColumns)), true) := by
  have read := readRows_rowsText nonempty clean different
  cases rows with
  | nil => exact absurd rfl nonempty
  | cons first rest =>
    have line := @formatLine_of_nonempty delimiter _
      (extend_ne_nil (clean first List.mem_cons_self).nonempty columnNumber seachFor newColumns)
    have later := @formatRest_rows delimiter
      (rest.map (extend columnNumber seachFor newColumns)) (by
        intro row member
        obtain ⟨old, inside, same⟩ := List.mem_map.mp member
        rw [← same]
        exact extend_ne_nil (clean old (List.mem_cons_of_mem first inside)).nonempty _ _ _)
    have longer : (rowsText delimiter (first :: rest)).length ≤
        (rowsText delimiter ((first :: rest).map
          (extend columnNumber seachFor newColumns))).length := by
      have here := length_join_extend delimiter columnNumber seachFor newColumns first
      have there := length_rest_extend delimiter columnNumber seachFor newColumns rest
      rw [List.map_cons, rowsText_cons, rowsText_cons, List.length_append, List.length_append]
      omega
    have edited : ∀ row, (if row[columnNumber]? = some seachFor then row ++ newColumns else row) =
        extend columnNumber seachFor newColumns row := fun row => rfl
    have some := extend_ne_nil (clean first List.mem_cons_self).nonempty columnNumber seachFor
      newColumns
    simp only [appendToLine, read, edited, List.map_cons]
    cases shape : extend columnNumber seachFor newColumns first with
    | nil => exact absurd shape some
    | cons name columns =>
      rw [shape] at line
      simp only [line, later, overwrite, Bool.false_eq_true, ↓reduceIte]
      rw [List.map_cons, shape] at longer
      rw [← rowsText_cons, List.drop_of_length_le longer, List.append_nil]

end Reading

end TwitterClone.Csv
