import TwitterClone.Csv.Reader

/-! A file of delimited columns as what its users take it for: a table to which rows are
added, whose rows get more columns, and in which rows are looked up. Each call opens the
file and closes it again. -/
namespace TwitterClone.Csv

open Foundation

inductive TableCall where
  | append (row : List Text)
  | appendToLine (columnNumber : Nat) (seachFor : Text) (newColumns : List Text)
  | read (call : ReaderCall)
  deriving DecidableEq

/-- Whether something was written, or what was read. -/
inductive TableReply where
  | written (done : Bool)
  | read (answer : Answer)
  deriving DecidableEq

/-- A reader whose file could not be opened. -/
def unopened : ReaderCall → Answer
  | .readLine _ | .searchFor _ _ => .row []
  | .readAll => .rows []

/-- One call on a file that may not be there. Only a writer creates it. -/
def serve (delimiter : Char) (file : Option Text) :
    TableCall → Except Fault (TableReply × Option Text)
  | .append row =>
    match append delimiter (openFile file) row with
    | .error fault => .error fault
    | .ok (content, done) => .ok (.written done, some content)
  | .appendToLine columnNumber seachFor newColumns =>
    match appendToLine delimiter (openFile file) columnNumber seachFor newColumns with
    | .error fault => .error fault
    | .ok (content, done) => .ok (.written done, some content)
  | .read call =>
    match file with
    | none => .ok (.read (unopened call), none)
    | some content => .ok (.read ((CsvReader.opened content delimiter).call call).1, some content)

/-- The replies to a sequence of calls, and the file that is left. -/
def serveEach (delimiter : Char) (file : Option Text) :
    List TableCall → Except Fault (List TableReply × Option Text)
  | [] => .ok ([], file)
  | call :: rest =>
    match serve delimiter file call with
    | .error fault => .error fault
    | .ok (reply, file) =>
      match serveEach delimiter file rest with
      | .error fault => .error fault
      | .ok (replies, file) => .ok (reply :: replies, file)

/-- Some rows, or none that were ever written. An empty file reads as one row without
columns. -/
abbrev Table := Option (List (List Text))

namespace Table

def rows (table : Table) : List (List Text) := table.getD []

def shown : Table → List (List Text)
  | none => []
  | some [] => [[]]
  | some rows => rows

def answer (table : Table) : ReaderCall → Answer
  | .readLine lineNumber => .row ((table.shown[lineNumber.toNat]?).getD [])
  | .readAll => .rows table.shown
  | .searchFor columnNumber seachFor =>
    .row ((table.shown.find? fun row => row[columnNumber]? = some seachFor).getD [])

def call (table : Table) : TableCall → TableReply × Table
  | .append row =>
    if row = [] then (.written false, some table.rows)
    else (.written true, some (table.rows ++ [row]))
  | .appendToLine columnNumber seachFor newColumns =>
    (.written (table.rows ≠ []),
      some (table.rows.map (extend columnNumber seachFor newColumns)))
  | .read call => (.read (table.answer call), table)

def callEach (table : Table) : List TableCall → List TableReply × Table
  | [] => ([], table)
  | call :: rest =>
    let (reply, table) := table.call call
    let (replies, table) := table.callEach rest
    (reply :: replies, table)

end Table

/-- No byte that a call writes is one that separates columns or lines, and no column is
empty. -/
def Writes (delimiter : Char) : TableCall → Prop
  | .append row => ∀ column ∈ row, Clean delimiter column
  | .appendToLine _ _ newColumns => ∀ column ∈ newColumns, Clean delimiter column
  | .read _ => True

/-- The file of a table. -/
def fileOf (delimiter : Char) (table : Table) : Option Text := table.map (rowsText delimiter)

section Refinement

variable {delimiter : Char} {table : Table}

theorem openFile_fileOf (table : Table) :
    openFile (fileOf delimiter table) = rowsText delimiter table.rows := by
  cases table with
  | none => rfl
  | some rows => rfl

/-- An empty file has nothing to be extended. -/
theorem appendToLine_nil (columnNumber : Nat) (seachFor : Text) (newColumns : List Text) :
    appendToLine delimiter [] columnNumber seachFor newColumns = .ok ([], false) := rfl

/-- The rows that a fresh reader finds. -/
theorem readAll_fileOf {rows : List (List Text)} (clean : ∀ row ∈ rows, CleanRow delimiter row)
    (different : delimiter ≠ newline) :
    (CsvReader.opened (rowsText delimiter rows) delimiter).readAll.1 = Table.shown (some rows) := by
  cases rows with
  | nil => rfl
  | cons first rest =>
    have read := readRows_rowsText (List.cons_ne_nil first rest) clean different
    exact congrArg Prod.fst read

theorem clean_extend {row newColumns : List Text} (clean : CleanRow delimiter row)
    (columns : ∀ column ∈ newColumns, Clean delimiter column) (columnNumber : Nat)
    (seachFor : Text) : CleanRow delimiter (extend columnNumber seachFor newColumns row) := by
  refine ⟨extend_ne_nil clean.nonempty columnNumber seachFor newColumns, ?_⟩
  unfold extend
  split
  next =>
    intro column member
    rcases List.mem_append.mp member with old | new
    · exact clean.clean column old
    · exact columns column new
  next => exact clean.clean

/-- No column that is there is empty, so a search for an empty one misses nothing. -/
theorem seesFirst_fileOf {rows : List (List Text)} (clean : ∀ row ∈ rows, CleanRow delimiter row)
    (different : delimiter ≠ newline) (call : ReaderCall) :
    SeesFirst delimiter (rowsText delimiter rows) call := by
  unfold SeesFirst
  split
  next columnNumber =>
    rintro ⟨line, member, matched⟩
    have shown : parseRow delimiter line ∈ Table.shown (some rows) := by
      rw [← readAll_fileOf clean different, rows_opened]
      exact List.mem_map_of_mem member
    have empty : [] ∈ parseRow delimiter line := List.mem_of_getElem? matched
    cases rows with
    | nil =>
      rw [List.mem_singleton.mp shown] at empty
      cases empty
    | cons first rest => exact absurd rfl ((clean _ shown).clean [] empty).1
  next => trivial

/-- What a fresh reader returns is what the table has. -/
theorem call_fileOf {rows : List (List Text)} (clean : ∀ row ∈ rows, CleanRow delimiter row)
    (different : delimiter ≠ newline) (call : ReaderCall) :
    ((CsvReader.opened (rowsText delimiter rows) delimiter).call call).1 =
      Table.answer (some rows) call := by
  have fits : ∀ call, Fits delimiter (rowsText delimiter rows) call
      ((CsvReader.opened (rowsText delimiter rows) delimiter).call call).1 :=
    fun call => (@call_standing (CsvReader.opened (rowsText delimiter rows) delimiter) rfl call).1.mpr
      (seesFirst_fileOf clean different call)
  unfold Fits at fits
  rw [readAll_fileOf clean different] at fits
  cases call with
  | readLine lineNumber =>
    -- a negative number is as good as zero
    exact fits (.readLine lineNumber.toNat) (Int.natCast_nonneg _)
  | readAll => exact fits .readAll
  | searchFor columnNumber seachFor => exact fits (.searchFor columnNumber seachFor)

/-- One call on the file is one on the table, whose rows stay clean. -/
theorem serve_fileOf (clean : ∀ row ∈ table.rows, CleanRow delimiter row)
    (different : delimiter ≠ newline) {call : TableCall} (writes : Writes delimiter call) :
    serve delimiter (fileOf delimiter table) call =
        .ok ((table.call call).1, fileOf delimiter (table.call call).2) ∧
      ∀ row ∈ (table.call call).2.rows, CleanRow delimiter row := by
  cases call with
  | append row =>
    rw [serve, openFile_fileOf, Table.call]
    by_cases empty : row = []
    · rw [if_pos empty, append, if_pos empty]
      exact ⟨rfl, clean⟩
    · rw [if_neg empty, append_row clean empty]
      refine ⟨rfl, fun other member => ?_⟩
      rcases List.mem_append.mp member with old | new
      · exact clean other old
      · exact List.mem_singleton.mp new ▸ ⟨empty, writes⟩
  | appendToLine columnNumber seachFor newColumns =>
    rw [serve, openFile_fileOf, Table.call]
    refine ⟨?_, fun other member => ?_⟩
    · by_cases none : table.rows = []
      · rw [none]
        rfl
      · rw [appendToLine_rows none clean different]
        simp [fileOf, none]
    · obtain ⟨row, old, same⟩ := List.mem_map.mp member
      exact same ▸ clean_extend (clean row old) writes columnNumber seachFor
  | read call =>
    refine ⟨?_, clean⟩
    cases table with
    | none =>
      cases call with
      | readLine lineNumber => rfl
      | readAll => rfl
      | searchFor columnNumber seachFor => rfl
    | some rows =>
      have found := @call_fileOf delimiter rows clean different call
      exact congrArg (fun answer => Except.ok (TableReply.read answer, _)) found

/-- From any table on, whatever is called: the file and its users never tell the difference
from the table. -/
theorem serveEach_fileOf (delimiter : Char) (different : delimiter ≠ newline) (table : Table)
    (clean : ∀ row ∈ table.rows, CleanRow delimiter row) (calls : List TableCall)
    (writes : ∀ call ∈ calls, Writes delimiter call) :
    serveEach delimiter (fileOf delimiter table) calls =
      .ok ((table.callEach calls).1, fileOf delimiter (table.callEach calls).2) := by
  induction calls generalizing table with
  | nil => rfl
  | cons call rest ih =>
    obtain ⟨served, kept⟩ := serve_fileOf clean different (writes call List.mem_cons_self)
    have later := ih (table.call call).2 kept
      fun other member => writes other (List.mem_cons_of_mem call member)
    rw [serveEach, served]
    simp only [later]
    rfl

end Refinement

/-- A first row, a column more, a second row, and a look at the first. -/
def twoRows : List TableCall := [
  .append [['a']], .appendToLine 0 ['a'] [['b']], .append [['b']], .read (.searchFor 1 ['b'])]

theorem serveEach_twoRows :
    serveEach ';' none twoRows = .ok
      ([.written true, .written true, .written true, .read (.row [['a'], ['b']])],
        some ['a', ';', 'b', newline, 'b']) := by
  have separate : ∀ call ∈ twoRows, Writes ';' call := by
    have letters : Clean ';' ['a'] ∧ Clean ';' ['b'] := by simp [Clean, newline]
    simp [twoRows, Writes, letters]
  exact serveEach_fileOf ';' (by decide) none (by simp [Table.rows]) twoRows separate

end TwitterClone.Csv
