import TwitterClone.Csv.AppendToLine

/-! One open reader, and any calls on it. The three ways of reading share a stream whose
marks outlive a call: going back to the beginning takes the end mark away, not a
failure. -/
namespace TwitterClone.Csv

open Foundation InputStream

/-- `seekg(0)`: the end mark goes, and a stream that has not failed stands at the
beginning. -/
def seekg (content : Text) (file : InputStream) : InputStream :=
  if file.fail then { file with eof := false } else of content

structure CsvReader where
  content : Text
  delimiter : Char
  file : InputStream

inductive ReaderCall where
  | readLine (lineNumber : Int)
  | readAll
  | searchFor (columnNumber : Nat) (content : Text)
  deriving DecidableEq

/-- What a call returns: one row, or all of them. -/
inductive Answer where
  | row (columns : List Text)
  | rows (rows : List (List Text))
  deriving DecidableEq

/-- The loop that passes over lines. -/
def skipLines : Nat → InputStream → InputStream
  | 0, file => file
  | turns + 1, file => if file.good then skipLines turns (file.getline newline).2 else file

/-- The line that comes next, cut into columns. -/
def readRow (delimiter : Char) (file : InputStream) : List Text × InputStream :=
  if file.good then
    let (line, file) := file.getline newline
    (parseRow delimiter (line.getD []), file)
  else ([], file)

/-- The loop of `searchFor` with a bound on its turns. The text that it compares with
what is searched for is never set. -/
def searchLines (delimiter : Char) (columnNumber : Nat) (content : Text) :
    Nat → InputStream → List Text × InputStream
  | 0, file => ([], file)
  | turns + 1, file =>
    let testColumn : Text := []
    let (line, file) := file.getline newline
    let row := parseRow delimiter (line.getD [])
    if row[columnNumber]? = some content then (row, file)
    else if file.good ∧ content ≠ testColumn then
      searchLines delimiter columnNumber content turns file
    else ([], file)

namespace CsvReader

/-- A reader whose file was just opened. -/
def opened (content : Text) (delimiter : Char) : CsvReader :=
  { content, delimiter, file := of content }

def readLine (reader : CsvReader) (lineNumber : Int) : List Text × InputStream :=
  readRow reader.delimiter (skipLines lineNumber.toNat (seekg reader.content reader.file))

def searchFor (reader : CsvReader) (columnNumber : Nat) (content : Text) :
    List Text × InputStream :=
  searchLines reader.delimiter columnNumber content (reader.content.length + 1)
    (seekg reader.content reader.file)

def readAll (reader : CsvReader) : List (List Text) × InputStream :=
  readLines reader.delimiter (reader.content.length + 1) (seekg reader.content reader.file)

/-- A call, and the reader with the stream that it leaves behind. -/
def call (reader : CsvReader) : ReaderCall → Answer × CsvReader
  | .readLine lineNumber =>
    let (row, file) := reader.readLine lineNumber
    (.row row, { reader with file })
  | .readAll =>
    let (rows, file) := reader.readAll
    (.rows rows, { reader with file })
  | .searchFor columnNumber content =>
    let (row, file) := reader.searchFor columnNumber content
    (.row row, { reader with file })

def answers (reader : CsvReader) : List ReaderCall → List Answer
  | [] => []
  | call :: rest => (reader.call call).1 :: (reader.call call).2.answers rest

end CsvReader

/-- The file ends with a line end, or is empty. -/
def EndsBlank (content : Text) : Prop := (split content [newline]).getLast? = some []

/-- What the call is to return: what is in the rows that are read first. No row has a
negative number. -/
def Fits (delimiter : Char) (content : Text) (call : ReaderCall) (answer : Answer) : Prop :=
  let rows := (CsvReader.opened content delimiter).readAll.1
  match call with
  | .readLine lineNumber => 0 ≤ lineNumber → answer = .row ((rows[lineNumber.toNat]?).getD [])
  | .readAll => answer = .rows rows
  | .searchFor columnNumber content =>
    answer = .row ((rows.find? fun row => row[columnNumber]? = some content).getD [])

/-- Each call on one reader returns what it is to return. -/
def LookupsAgree (content : Text) (delimiter : Char) (calls : List ReaderCall) : Prop :=
  List.Forall₂ (Fits delimiter content) calls ((CsvReader.opened content delimiter).answers calls)

/-- The call reads on where the file has ended with a line end. A search for an empty
column stops after the first line. -/
def Exhausts (delimiter : Char) (content : Text) : ReaderCall → Prop
  | .readLine lineNumber =>
    EndsBlank content ∧ (split content [newline]).length ≤ lineNumber.toNat + 1
  | .readAll => EndsBlank content
  | .searchFor columnNumber seachFor =>
    if seachFor = [] then content = []
    else EndsBlank content ∧
      ∀ line ∈ split content [newline], ¬ Matches delimiter columnNumber seachFor line

/-- The call asks for nothing that is there. -/
def AsksNothing (delimiter : Char) (content : Text) : ReaderCall → Prop
  | .readLine lineNumber =>
    0 ≤ lineNumber → ((split content [newline])[lineNumber.toNat]?).getD [] = []
  | .readAll => False
  | .searchFor columnNumber seachFor =>
    ∀ line ∈ split content [newline], ¬ Matches delimiter columnNumber seachFor line

/-- A search for an empty column finds it in the first line or nowhere. -/
def SeesFirst (delimiter : Char) (content : Text) : ReaderCall → Prop
  | .searchFor columnNumber [] =>
    (∃ line ∈ split content [newline], Matches delimiter columnNumber [] line) →
      ∃ line, (split content [newline]).head? = some line ∧
        Matches delimiter columnNumber [] line
  | _ => True

/-- Searches for an empty column see what there is to see, and behind a call that
exhausts the stream nothing that is there is asked for. -/
def Reliable (delimiter : Char) (content : Text) : List ReaderCall → Prop
  | [] => True
  | call :: rest =>
    SeesFirst delimiter content call ∧
      (Exhausts delimiter content call → ∀ later ∈ rest, AsksNothing delimiter content later) ∧
      (¬ Exhausts delimiter content call → Reliable delimiter content rest)

section Stream

variable {delimiter : Char} {content : Text}

theorem endsBlank_of_free (free : newline ∉ content) : EndsBlank content ↔ content = [] := by
  rw [EndsBlank, split_of_free free]
  simp

theorem endsBlank_append {line rest : Text} (free : newline ∉ line) :
    EndsBlank (line ++ newline :: rest) ↔ EndsBlank rest := by
  rw [EndsBlank, EndsBlank, split_append rest free,
    List.getLast?_cons_of_ne_nil (split_ne_nil rest [newline])]

/-- A line is read from a stream that stands at the beginning of one. -/
theorem getline_of (content : Text) :
    (∃ line rest, content = line ++ newline :: rest ∧ newline ∉ line ∧
        (of content).getline newline = (some line, of rest)) ∨
      newline ∉ content ∧ (of content).getline newline =
        (some content, { rest := [], eof := true, fail := content.isEmpty }) := by
  by_cases broken : newline ∈ content
  · obtain ⟨line, rest, rfl, free⟩ := List.eq_append_cons_of_mem broken
    exact Or.inl ⟨line, rest, rfl, free, getline_append free rest⟩
  · exact Or.inr ⟨broken, getline_last broken⟩

/-- The row behind as many lines, and whether reading it leaves a failure. -/
theorem readRow_skipLines (content : Text) (turns : Nat) :
    (readRow delimiter (skipLines turns (of content))).1 =
        parseRow delimiter (((split content [newline])[turns]?).getD []) ∧
      ((readRow delimiter (skipLines turns (of content))).2.fail = true ↔
        EndsBlank content ∧ (split content [newline]).length ≤ turns + 1) := by
  have good : (of content).good = true := rfl
  induction turns generalizing content with
  | zero =>
    rw [skipLines, readRow, if_pos good]
    rcases getline_of content with ⟨line, rest, rfl, free, read⟩ | ⟨free, read⟩
    · have more := List.length_pos_of_ne_nil (split_ne_nil rest [newline])
      rw [read, split_append rest free]
      refine ⟨rfl, iff_of_false Bool.false_ne_true ?_⟩
      rintro ⟨-, few⟩
      rw [List.length_cons] at few
      omega
    · rw [read, endsBlank_of_free free, split_of_free free]
      simp
  | succ turns ih =>
    rw [skipLines, if_pos good]
    rcases getline_of content with ⟨line, rest, rfl, free, read⟩ | ⟨free, read⟩
    · obtain ⟨row, failed⟩ := ih rest rfl
      rw [read, endsBlank_append free, split_append rest free]
      refine ⟨row, failed.trans ?_⟩
      rw [List.length_cons, Nat.add_le_add_iff_right]
    · have stopped : ∀ turns, skipLines turns
          { rest := [], eof := true, fail := content.isEmpty } =
            { rest := [], eof := true, fail := content.isEmpty } := by
        intro turns
        cases turns <;> rfl
      rw [read, stopped, endsBlank_of_free free, split_of_free free]
      simp [readRow, InputStream.good]

/-- Whether reading all rows leaves a failure. -/
theorem readLines_fail (content : Text) (turns : Nat) (enough : content.length < turns) :
    (readLines delimiter turns (of content)).2.fail = true ↔ EndsBlank content := by
  have last := List.getLast?_eq_some_getLast (split_ne_nil content [newline])
  rw [readLines_content content turns enough, EndsBlank, last, Option.some.injEq]
  exact List.isEmpty_iff

/-- One turn of a search. -/
theorem searchLines_turn {columnNumber : Nat} {seachFor line : Text} {file next : InputStream}
    (turns : Nat) (read : file.getline newline = (some line, next)) :
    searchLines delimiter columnNumber seachFor (turns + 1) file =
      if Matches delimiter columnNumber seachFor line then (parseRow delimiter line, next)
      else if next.good ∧ seachFor ≠ [] then
        searchLines delimiter columnNumber seachFor turns next
      else ([], next) := by
  rw [searchLines, read]
  rfl

/-- The first row found, and whether the search leaves a failure. -/
theorem searchLines_spec {columnNumber : Nat} {seachFor : Text} (given : seachFor ≠ [])
    (content : Text) (turns : Nat) (enough : content.length < turns) :
    (searchLines delimiter columnNumber seachFor turns (of content)).1 =
        parseRow delimiter (((split content [newline]).find? fun line =>
          Matches delimiter columnNumber seachFor line).getD []) ∧
      ((searchLines delimiter columnNumber seachFor turns (of content)).2.fail = true ↔
        EndsBlank content ∧ ∀ line ∈ split content [newline],
          ¬ Matches delimiter columnNumber seachFor line) := by
  induction turns generalizing content with
  | zero => cases enough
  | succ turns ih =>
    rcases getline_of content with ⟨line, rest, rfl, free, read⟩ | ⟨free, read⟩
    · rw [List.length_append, List.length_cons] at enough
      obtain ⟨row, failed⟩ := ih rest (by omega)
      rw [searchLines_turn turns read, endsBlank_append free, split_append rest free]
      by_cases found : Matches delimiter columnNumber seachFor line
      · simp [found, of]
      · rw [if_neg found, if_pos ⟨rfl, given⟩, row, failed]
        simp [found]
    · rw [searchLines_turn turns read, endsBlank_of_free free, split_of_free free]
      by_cases found : Matches delimiter columnNumber seachFor content
      · have filled : content ≠ [] := by
          rintro rfl
          cases found
        simp [found, filled]
      · simp [found, InputStream.good]

/-- A search for an empty column ends with the first line. -/
theorem searchLines_nil (columnNumber : Nat) (content : Text) (turns : Nat) :
    ∃ line, (split content [newline]).head? = some line ∧
      (searchLines delimiter columnNumber [] (turns + 1) (of content)).1 =
        (if Matches delimiter columnNumber [] line then parseRow delimiter line else []) ∧
      ((searchLines delimiter columnNumber [] (turns + 1) (of content)).2.fail = true ↔
        content = []) := by
  rcases getline_of content with ⟨line, rest, rfl, free, read⟩ | ⟨free, read⟩
  · refine ⟨line, by rw [split_append rest free]; rfl, ?_⟩
    rw [searchLines_turn turns read]
    by_cases found : Matches delimiter columnNumber [] line <;> simp [found, of]
  · refine ⟨content, by rw [split_of_free free]; rfl, ?_⟩
    rw [searchLines_turn turns read]
    by_cases found : Matches delimiter columnNumber [] content <;> simp [found]

end Stream

section Calls

variable {delimiter : Char} {content : Text}

theorem rows_opened : (CsvReader.opened content delimiter).readAll.1 =
    (split content [newline]).map (parseRow delimiter) :=
  congrArg Prod.fst (readLines_content content _ (Nat.lt_succ_self _))

/-- A row that is looked up by its number, or by one of its columns. -/
theorem getElem?_rows (lines : List Text) (number : Nat) :
    ((lines.map (parseRow delimiter))[number]?).getD [] =
      parseRow delimiter ((lines[number]?).getD []) := by
  rw [List.getElem?_map]
  cases lines[number]? <;> rfl

theorem find?_rows (lines : List Text) (columnNumber : Nat) (seachFor : Text) :
    ((lines.map (parseRow delimiter)).find? fun row => row[columnNumber]? = some seachFor).getD [] =
      parseRow delimiter
        ((lines.find? fun line => Matches delimiter columnNumber seachFor line).getD []) := by
  rw [List.find?_map]
  show ((lines.find? fun line => Matches delimiter columnNumber seachFor line).map _).getD [] = _
  cases lines.find? fun line => Matches delimiter columnNumber seachFor line <;> rfl

/-- The row that a search finds is not empty. -/
theorem parseRow_find?_eq_nil (lines : List Text) (columnNumber : Nat) (seachFor : Text) :
    parseRow delimiter
        ((lines.find? fun line => Matches delimiter columnNumber seachFor line).getD []) = [] ↔
      ∀ line ∈ lines, ¬ Matches delimiter columnNumber seachFor line := by
  rw [parseRow_eq_nil]
  cases found : lines.find? fun line => Matches delimiter columnNumber seachFor line with
  | none => simpa using found
  | some line =>
    have matched : Matches delimiter columnNumber seachFor line := by
      simpa using List.find?_some found
    refine iff_of_false ?_ fun none => none line (List.mem_of_find?_eq_some found) matched
    rintro rfl
    cases matched

end Calls

section Runs

variable {reader : CsvReader}

theorem seekg_standing (stands : reader.file.fail = false) :
    seekg reader.content reader.file = of reader.content := by
  rw [seekg, stands]
  rfl

/-- A failure stays, and the stream gives nothing any more. -/
theorem seekg_failed (failed : reader.file.fail = true) :
    (seekg reader.content reader.file).good = false ∧
      (seekg reader.content reader.file).fail = true := by
  rw [seekg, if_pos failed]
  simp [InputStream.good, failed]

/-- What a search returns while the stream has not failed. -/
theorem searchFor_standing (stands : reader.file.fail = false) (columnNumber : Nat)
    (seachFor : Text) :
    (Fits reader.delimiter reader.content (.searchFor columnNumber seachFor)
        (.row (reader.searchFor columnNumber seachFor).1) ↔
      SeesFirst reader.delimiter reader.content (.searchFor columnNumber seachFor)) ∧
      ((reader.searchFor columnNumber seachFor).2.fail = true ↔
        Exhausts reader.delimiter reader.content (.searchFor columnNumber seachFor)) := by
  simp only [Fits, Answer.row.injEq]
  rw [rows_opened, find?_rows, CsvReader.searchFor, seekg_standing stands]
  cases seachFor with
  | cons byte rest =>
    obtain ⟨row, failed⟩ := @searchLines_spec reader.delimiter columnNumber (byte :: rest)
      (List.cons_ne_nil byte rest) reader.content _ (Nat.lt_succ_self _)
    refine ⟨iff_of_true row trivial, failed.trans ?_⟩
    rw [Exhausts, if_neg (List.cons_ne_nil byte rest)]
  | nil =>
    obtain ⟨line, first, row, failed⟩ :=
      @searchLines_nil reader.delimiter columnNumber reader.content reader.content.length
    refine ⟨?_, failed.trans (by rw [Exhausts, if_pos rfl])⟩
    rw [row, SeesFirst, first]
    by_cases found : Matches reader.delimiter columnNumber [] line
    · obtain ⟨rest, lines⟩ := List.head?_eq_some_iff.mp first
      rw [lines, if_pos found, List.find?_cons_of_pos (by simpa using found)]
      exact iff_of_true rfl fun _ => ⟨line, rfl, found⟩
    · rw [if_neg found, eq_comm, parseRow_find?_eq_nil]
      constructor
      · rintro none ⟨other, member, matched⟩
        exact absurd matched (none other member)
      · intro sees other member matched
        obtain ⟨same, head, here⟩ := sees ⟨other, member, matched⟩
        exact found (Option.some.inj head ▸ here)

/-- While the stream has not failed only a search for an empty column can miss, and a
call leaves a failure just when it exhausts the stream. -/
theorem call_standing (stands : reader.file.fail = false) (call : ReaderCall) :
    (Fits reader.delimiter reader.content call (reader.call call).1 ↔
        SeesFirst reader.delimiter reader.content call) ∧
      ((reader.call call).2.file.fail = true ↔
        Exhausts reader.delimiter reader.content call) := by
  cases call with
  | readLine lineNumber =>
    obtain ⟨row, failed⟩ :=
      @readRow_skipLines reader.delimiter reader.content lineNumber.toNat
    simp only [CsvReader.call, CsvReader.readLine, seekg_standing stands]
    refine ⟨iff_of_true ?_ trivial, failed⟩
    intro _
    rw [rows_opened, getElem?_rows, row]
  | readAll =>
    simp only [CsvReader.call, CsvReader.readAll, seekg_standing stands]
    exact ⟨iff_of_true rfl trivial, readLines_fail reader.content _ (Nat.lt_succ_self _)⟩
  | searchFor columnNumber seachFor => exact searchFor_standing stands columnNumber seachFor

/-- After a failure every call returns nothing. -/
theorem call_failed (failed : reader.file.fail = true) (call : ReaderCall) :
    (Fits reader.delimiter reader.content call (reader.call call).1 ↔
        AsksNothing reader.delimiter reader.content call) ∧
      (reader.call call).2.file.fail = true := by
  obtain ⟨stuck, marked⟩ := seekg_failed failed
  have notGood : ¬ (seekg reader.content reader.file).good = true := by simp [stuck]
  cases call with
  | readLine lineNumber =>
    have skipped : skipLines lineNumber.toNat (seekg reader.content reader.file) =
        seekg reader.content reader.file := by
      cases lineNumber.toNat with
      | zero => rfl
      | succ turns => rw [skipLines, if_neg notGood]
    simp only [CsvReader.call, CsvReader.readLine, skipped, readRow, if_neg notGood]
    refine ⟨?_, marked⟩
    simp only [Fits, AsksNothing, Answer.row.injEq]
    rw [rows_opened, getElem?_rows, eq_comm, parseRow_eq_nil]
  | readAll =>
    simp only [CsvReader.call, CsvReader.readAll, readLines, if_neg notGood]
    refine ⟨iff_of_false ?_ not_false, marked⟩
    simp only [Fits, Answer.rows.injEq]
    rw [rows_opened, eq_comm, List.map_eq_nil_iff]
    exact split_ne_nil reader.content [newline]
  | searchFor columnNumber seachFor =>
    have read : (seekg reader.content reader.file).getline newline =
        (none, (seekg reader.content reader.file).failed) := by
      rw [InputStream.getline, if_neg notGood]
    have stays : ¬ ((seekg reader.content reader.file).failed.good = true ∧ seachFor ≠ []) := by
      simp [InputStream.failed, InputStream.good]
    simp only [CsvReader.call, CsvReader.searchFor, searchLines, read, Option.getD_none,
      parseRow_nil, List.getElem?_nil, reduceCtorEq, if_neg stays, ↓reduceIte]
    refine ⟨?_, rfl⟩
    simp only [Fits, AsksNothing, Answer.row.injEq]
    rw [rows_opened, find?_rows, eq_comm, parseRow_find?_eq_nil]

theorem call_frame (reader : CsvReader) (call : ReaderCall) :
    (reader.call call).2.content = reader.content ∧
      (reader.call call).2.delimiter = reader.delimiter := by
  cases call <;> exact ⟨rfl, rfl⟩

/-- Behind a failure the calls are as they should be if they ask for nothing. -/
theorem answers_failed (failed : reader.file.fail = true) (calls : List ReaderCall) :
    List.Forall₂ (Fits reader.delimiter reader.content) calls (reader.answers calls) ↔
      ∀ call ∈ calls, AsksNothing reader.delimiter reader.content call := by
  induction calls generalizing reader with
  | nil => exact iff_of_true .nil (by simp)
  | cons call rest ih =>
    obtain ⟨content, delimiter⟩ := call_frame reader call
    obtain ⟨fits, still⟩ := call_failed failed call
    have later := ih still
    rw [content, delimiter] at later
    rw [CsvReader.answers, List.forall₂_cons, fits, later, List.forall_mem_cons]

theorem answers_standing (stands : reader.file.fail = false) (calls : List ReaderCall) :
    List.Forall₂ (Fits reader.delimiter reader.content) calls (reader.answers calls) ↔
      Reliable reader.delimiter reader.content calls := by
  induction calls generalizing reader with
  | nil => exact iff_of_true .nil trivial
  | cons call rest ih =>
    obtain ⟨content, delimiter⟩ := call_frame reader call
    obtain ⟨fits, exhausted⟩ := call_standing stands call
    rw [CsvReader.answers, List.forall₂_cons, fits, Reliable]
    refine and_congr_right fun _ => ?_
    by_cases failed : (reader.call call).2.file.fail = true
    · have later := answers_failed failed rest
      rw [content, delimiter] at later
      have exhausts := exhausted.mp failed
      simp [later, exhausts]
    · have later := ih (by simpa using failed)
      rw [content, delimiter] at later
      have goesOn := exhausted.not.mp failed
      simp [later, goesOn]

end Runs

/-- One reader returns the same as fresh ones just for calls that are reliable. -/
theorem lookupsAgree_iff (content : Text) (delimiter : Char) (calls : List ReaderCall) :
    LookupsAgree content delimiter calls ↔ Reliable delimiter content calls :=
  @answers_standing (CsvReader.opened content delimiter) rfl calls

/-- A file that ends with a line end is read once, and an empty column of its second line
is not found. -/
theorem not_lookupsAgree_twice :
    ¬ LookupsAgree ['a', newline] ';' [.readAll, .readAll] ∧
      ¬ LookupsAgree ['a', newline, ';', 'b'] ';' [.searchFor 0 []] := by
  constructor
  · intro agree
    have second := (List.forall₂_cons.mp (List.forall₂_cons.mp agree).2).1
    cases second
  · intro agree
    have found := (List.forall₂_cons.mp agree).1
    cases found

end TwitterClone.Csv
