import TwitterClone.Csv.AppendToLine

/-! Writing to a file when the system may refuse: each attempt to open it can fail, and
what is written may reach it only up to a byte. The results are the same in every case. -/
namespace TwitterClone.Csv

open Foundation InputStream

/-- What the system answers during one call that writes: whether a file that exists opens
for reading, whether it can be created, whether it then opens for both, and how many of
the bytes that are written arrive. -/
structure FileOutcome where
  readable : Bool
  creatable : Bool
  opened : Bool
  accepted : Nat

/-- The three attempts of opening a file for writing: what is left of it, and whether it is
open. The second one creates the file and empties one that is there. -/
def openWith (outcome : FileOutcome) (file : Option Text) : Option Text × Bool :=
  let file :=
    if file.isSome = true ∧ outcome.readable = true then file
    else if outcome.creatable = true then some []
    else file
  (file, file.isSome && outcome.opened)

/-- A file that is not open is left alone. What is written at its end may arrive in part. -/
def appendWith (outcome : FileOutcome) (delimiter : Char) (file : Option Text) (row : List Text) :
    Except Fault (Option Text × Bool) :=
  match openWith outcome file with
  | (some content, true) =>
    if row = [] then .ok (some content, false)
    else
      match formatLine delimiter row with
      | .error fault => .error fault
      | .ok formattedRow =>
        let written := if content.length = 0 then formattedRow else newline :: formattedRow
        .ok (some (content ++ written.take outcome.accepted), true)
  | (file, _) => .ok (file, false)

/-- The rows are written from the start of the file, and that may stop in the middle. -/
def appendToLineWith (outcome : FileOutcome) (delimiter : Char) (file : Option Text)
    (columnNumber : Nat) (seachFor : Text) (newColumns : List Text) :
    Except Fault (Option Text × Bool) :=
  match openWith outcome file with
  | (some content, true) =>
    let (rows, file) := readRows delimiter content
    let rows := rows.map fun row =>
      if row[columnNumber]? = some seachFor then row ++ newColumns else row
    match rows with
    | [] => .error .badIndex
    | [] :: _ => .ok (some content, false)
    | first :: rest =>
      match formatLine delimiter first with
      | .error fault => .error fault
      | .ok line =>
        match formatRest delimiter rest with
        | .error fault => .error fault
        | .ok later =>
          .ok (some (overwrite file content ((line ++ later).take outcome.accepted)), true)
  | (file, _) => .ok (file, false)

/-- The file is open and has what it had before; one that was not there is empty. -/
def OpensFile (outcome : FileOutcome) (file : Option Text) : Prop :=
  outcome.opened = true ∧
    match file with
    | none => outcome.creatable = true
    | some _ => outcome.readable = true ∨ outcome.creatable = false

section Outcomes

variable {delimiter : Char} {outcome : FileOutcome}

theorem openWith_opens {file : Option Text} (opens : OpensFile outcome file) :
    openWith outcome file = (some (openFile file), true) := by
  obtain ⟨opened, kept⟩ := opens
  cases file with
  | none =>
    have created : outcome.creatable = true := kept
    simp [openWith, openFile, opened, created]
  | some content =>
    rcases kept with readable | kept
    · simp [openWith, openFile, opened, readable]
    · simp [openWith, openFile, opened, kept]

/-- A file that does not open as it is, is emptied or stays closed. -/
theorem openWith_fails {file : Option Text} (fails : ¬ OpensFile outcome file) :
    ((openWith outcome file).1 = some [] ∧ ((openWith outcome file).2 = true → file ≠ none)) ∨
      (openWith outcome file).1 = file ∧ (openWith outcome file).2 = false := by
  unfold OpensFile at fails
  unfold openWith
  cases opened : outcome.opened with
  | false => cases file <;> cases outcome.readable <;> cases outcome.creatable <;> simp
  | true =>
    cases file with
    | none =>
      have refused : outcome.creatable = false := by simpa [opened] using fails
      simp [refused]
    | some content =>
      obtain ⟨unreadable, created⟩ : outcome.readable = false ∧ outcome.creatable = true := by
        simpa [opened] using fails
      simp [unreadable, created]

/-- One column at the end of a file. -/
theorem appendWith_opens {file : Option Text} (opens : OpensFile outcome file) (column : Text) :
    appendWith outcome delimiter file [column] =
      .ok (some (openFile file ++ (if (openFile file).length = 0 then column
        else newline :: column).take outcome.accepted), true) := by
  rw [appendWith, openWith_opens opens]
  simp [formatLine]

theorem appendWith_fails {file : Option Text} (closed : (openWith outcome file).2 = false)
    (row : List Text) :
    appendWith outcome delimiter file row = .ok ((openWith outcome file).1, false) := by
  unfold appendWith
  split
  next content shape =>
    rw [shape] at closed
    cases closed
  next left unchanged _ shape => rw [shape]

theorem appendWith_empty {file : Option Text} (emptied : openWith outcome file = (some [], true))
    (column : Text) :
    appendWith outcome delimiter file [column] =
      .ok (some (column.take outcome.accepted), true) := by
  rw [appendWith, emptied]
  simp [formatLine]

/-- If everything arrives, the file is as after a call that cannot fail. -/
theorem appendWith_accepted {file : Option Text} (opens : OpensFile outcome file) (column : Text)
    (enough : column.length + (if (openFile file).length = 0 then 0 else 1) ≤ outcome.accepted) :
    appendWith outcome delimiter file [column] =
      (append delimiter (openFile file) [column]).map fun result => (some result.1, result.2) := by
  rw [appendWith_opens opens, append, if_neg (List.cons_ne_nil column [])]
  by_cases empty : (openFile file).length = 0
  · rw [if_pos empty, Nat.add_zero] at enough
    have blank := List.length_eq_zero_iff.mp empty
    simp [formatLine, blank, List.take_of_length_le enough, Except.map]
  · rw [if_neg empty] at enough
    have whole := @List.take_of_length_le _ _ (newline :: column) enough
    simp [formatLine, empty, whole, Except.map]

variable {columnNumber : Nat} {seachFor : Text} {newColumns : List Text}

theorem appendToLineWith_fails {file : Option Text} (closed : (openWith outcome file).2 = false) :
    appendToLineWith outcome delimiter file columnNumber seachFor newColumns =
      .ok ((openWith outcome file).1, false) := by
  unfold appendToLineWith
  split
  next content shape =>
    rw [shape] at closed
    cases closed
  next left unchanged _ shape => rw [shape]

theorem appendToLineWith_empty {file : Option Text}
    (emptied : (openWith outcome file).1 = some []) :
    appendToLineWith outcome delimiter file columnNumber seachFor newColumns =
      .ok (some [], false) := by
  cases opened : (openWith outcome file).2 with
  | false => rw [appendToLineWith_fails opened, emptied]
  | true =>
    have shape : openWith outcome file = (some [], true) := Prod.ext emptied opened
    rw [appendToLineWith, shape]
    rfl

/-- As much of the new text as arrives, and the old one behind it. -/
theorem appendToLineWith_opens {content : Text} (opens : OpensFile outcome (some content))
    (filled : ∀ line ∈ split content [newline], line ≠ [])
    (free : ∀ column ∈ newColumns, delimiter ∉ column) :
    appendToLineWith outcome delimiter (some content) columnNumber seachFor newColumns =
      .ok (some (((rewrittenText delimiter columnNumber seachFor newColumns content).take
          outcome.accepted) ++ content.drop
        ((rewrittenText delimiter columnNumber seachFor newColumns content).take
          outcome.accepted).length), true) := by
  obtain ⟨column, columns, rest, line, later, rows, first, others, text⟩ :=
    @exists_formatted delimiter columnNumber seachFor newColumns content filled free
  rw [appendToLineWith, openWith_opens opens, openFile, Option.getD_some]
  dsimp only
  rw [readRows_filled filled]
  dsimp only
  rw [rows]
  simp only [first, others, text, overwrite, Bool.false_eq_true, ↓reduceIte]

theorem appendToLineWith_accepted {content : Text} (opens : OpensFile outcome (some content))
    (filled : ∀ line ∈ split content [newline], line ≠ [])
    (free : ∀ column ∈ newColumns, delimiter ∉ column)
    (enough : content.length + growth delimiter columnNumber seachFor newColumns content ≤
      outcome.accepted + trailing delimiter content) :
    appendToLineWith outcome delimiter (some content) columnNumber seachFor newColumns =
      (appendToLine delimiter content columnNumber seachFor newColumns).map
        fun result => (some result.1, result.2) := by
  have length := @length_rewrittenText delimiter columnNumber seachFor newColumns content
  rw [appendToLineWith_opens opens filled free, appendToLine_filled filled free,
    List.take_of_length_le (by omega), Except.map]

end Outcomes

section Space

variable {delimiter : Char}

/-- Joined columns take one byte less than each of them with a delimiter. -/
theorem length_joinStrings {columns : List Text} (nonempty : columns ≠ []) :
    (joinStrings [delimiter] columns).length + 1 = columnsLength columns := by
  cases columns with
  | nil => exact absurd rfl nonempty
  | cons column rest =>
    have later : (rest.flatMap ([delimiter] ++ ·)).length = columnsLength rest :=
      length_columns rest
    have whole : columnsLength (column :: rest) = column.length + 1 + columnsLength rest := rfl
    rw [joinStrings, List.length_append, later, whole]
    omega

theorem length_rowsText {rows : List (List Text)} (nonempty : rows ≠ [])
    (filled : ∀ row ∈ rows, row ≠ []) :
    (rowsText delimiter rows).length + 1 = (rows.map columnsLength).sum := by
  rw [rowsText, length_joinStrings (by simpa using nonempty), columnsLength, List.map_map]
  refine congrArg List.sum (List.map_congr_left fun row member => ?_)
  exact length_joinStrings (filled row member)

theorem columnsLength_parseRow (line : Text) :
    columnsLength (parseRow delimiter line) ≤ line.length + 1 := by
  by_cases empty : line = []
  · subst empty
    exact Nat.zero_le _
  · have length := @length_trimmed delimiter line
    rw [parseRow_eq_split empty, ← @length_joinStrings delimiter _ (split_ne_nil _ _),
      joinStrings_split]
    omega

/-- A file has room for its rows. -/
theorem columnsLength_readAll (content : Text) :
    ((readAll delimiter (some content)).map columnsLength).sum ≤ content.length + 1 := by
  have lines := @length_joinStrings newline _ (split_ne_nil content [newline])
  rw [joinStrings_split, columnsLength] at lines
  rw [readAll_split, List.map_map, lines]
  exact List.sum_le_sum fun line _ => columnsLength_parseRow line

theorem sum_le_of_subset {Item : Type} (size : Item → Nat) {first second : List Item}
    (distinct : first.Nodup) (inside : first ⊆ second) :
    (first.map size).sum ≤ (second.map size).sum := by
  obtain ⟨middle, same, part⟩ := List.subperm_of_subset distinct inside
  rw [← (same.map size).sum_eq]
  exact (part.map size).sum_le_sum fun _ _ => Nat.zero_le _

/-- Rows that begin differently take no more room than rows that hold their columns. -/
theorem columnsLength_le {needed found : List (List Text)}
    (distinct : (needed.map List.head?).Nodup) (columns : ∀ row ∈ needed, row.Nodup)
    (covered : ∀ row ∈ needed, ∃ other ∈ found, other.head? = row.head? ∧ row ⊆ other) :
    (needed.map columnsLength).sum ≤ (found.map columnsLength).sum := by
  choose! holder spec using covered
  have different : (needed.map holder).Nodup := by
    refine List.Nodup.of_map List.head? ?_
    rw [List.map_map]
    have heads : needed.map (List.head? ∘ holder) = needed.map List.head? :=
      List.map_congr_left fun row member => (spec row member).2.1
    rw [heads]
    exact distinct
  have inside : needed.map holder ⊆ found := by
    intro other member
    obtain ⟨row, listed, rfl⟩ := List.mem_map.mp member
    exact (spec row listed).1
  calc (needed.map columnsLength).sum
      ≤ (needed.map (columnsLength ∘ holder)).sum := by
        refine List.sum_le_sum fun row member => ?_
        exact sum_le_of_subset _ (columns row member) (spec row member).2.2
    _ = ((needed.map holder).map columnsLength).sum := by rw [List.map_map]
    _ ≤ (found.map columnsLength).sum := sum_le_of_subset columnsLength different inside

end Space

end TwitterClone.Csv
