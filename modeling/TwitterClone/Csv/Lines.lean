import TwitterClone.Csv.Csv

/-! The rows of any file, line by line: how a line falls apart into columns, and what
a column can be. -/
namespace TwitterClone.Csv

open Foundation InputStream

variable {delimiter : Char}

/-- The rows of a file are its lines, cut into columns, and a last line that is empty
leaves a failure. -/
theorem readLines_content (content : Text) (turns : Nat) (enough : content.length < turns) :
    readLines delimiter turns (of content) =
      ((split content [newline]).map (parseRow delimiter),
        { rest := [], eof := true,
          fail := ((split content [newline]).getLast (split_ne_nil content [newline])).isEmpty }) := by
  induction turns generalizing content with
  | zero => cases enough
  | succ turns ih =>
    have good : (of content).good = true := rfl
    rw [readLines, if_pos good]
    by_cases broken : newline ∈ content
    · obtain ⟨line, rest, rfl, free⟩ := List.eq_append_cons_of_mem broken
      rw [List.length_append, List.length_cons] at enough
      have later := ih rest (by omega)
      have lines := split_append rest free
      simp only [getline_append free, later, lines, List.map_cons,
        List.getLast_cons (split_ne_nil rest [newline])]
    · have line := split_of_free broken
      simp only [getline_last broken, line, List.map_singleton, List.getLast_singleton]
      cases turns <;> simp [readLines, InputStream.good]

theorem readAll_split (content : Text) :
    readAll delimiter (some content) = (split content [newline]).map (parseRow delimiter) :=
  congrArg Prod.fst (readLines_content content _ (Nat.lt_succ_self _))

/-- A line end between two contents keeps their rows apart. -/
theorem readAll_append (content line : Text) :
    readAll delimiter (some (content ++ newline :: line)) =
      readAll delimiter (some content) ++ readAll delimiter (some line) := by
  rw [readAll_split, readAll_split, readAll_split, split_append_split, List.map_append]

/-- What `getline` gives is free of the delimiter, and nothing is new in it. -/
theorem getline_spec {stream next : InputStream} {text : Text}
    (read : stream.getline delimiter = (some text, next)) :
    delimiter ∉ text ∧ (∀ byte ∈ text, byte ∈ stream.rest) ∧
      ∀ byte ∈ next.rest, byte ∈ stream.rest := by
  unfold getline at read
  split at read
  next =>
    split at read
    next byte rest left =>
      cases read
      have suffix := List.dropWhile_suffix (· ≠ delimiter) (l := stream.rest)
      refine ⟨fun member => ?_, fun other member => ?_, fun other member => ?_⟩
      · simpa using List.mem_takeWhile_imp member
      · exact (List.takeWhile_prefix _).subset member
      · exact suffix.subset (left ▸ List.mem_cons_of_mem byte member)
    next left =>
      cases read
      refine ⟨fun member => ?_, fun _ member => member, fun other member => by cases member⟩
      simpa using List.dropWhile_eq_nil_iff.mp left delimiter member
  next => cases read

/-- A column has neither the delimiter nor a byte from elsewhere. -/
theorem column_of_mem_parseRow {line column : Text} (member : column ∈ parseRow delimiter line) :
    delimiter ∉ column ∧ ∀ byte ∈ column, byte ∈ line := by
  have columns : ∀ turns stream, ∀ column ∈ readColumns delimiter turns stream,
      delimiter ∉ column ∧ ∀ byte ∈ column, byte ∈ stream.rest := by
    intro turns
    induction turns with
    | zero => intro stream column member; cases member
    | succ turns ih =>
      intro stream column member
      rw [readColumns] at member
      split at member
      next text next read =>
        obtain ⟨free, bytes, later⟩ := getline_spec read
        split at member
        next => cases member
        next =>
          rcases List.mem_cons.mp member with rfl | rest
          · exact ⟨free, bytes⟩
          · obtain ⟨otherFree, otherBytes⟩ := ih next column rest
            exact ⟨otherFree, fun byte inside => later byte (otherBytes byte inside)⟩
      next => cases member
  exact columns _ _ column member

/-- No column of a file has a byte that separates things. -/
theorem column_of_mem_readAll {file : Option Text} {row : List Text}
    (listed : row ∈ readAll delimiter file) {column : Text} (member : column ∈ row) :
    delimiter ∉ column ∧ newline ∉ column := by
  cases file with
  | none => cases listed
  | some content =>
    rw [readAll_split] at listed
    obtain ⟨line, inside, rfl⟩ := List.mem_map.mp listed
    obtain ⟨free, bytes⟩ := column_of_mem_parseRow member
    exact ⟨free, fun broken => notMem_of_mem_split inside (bytes newline broken)⟩

theorem readColumns_append {first : Text} (rest : Text) (free : delimiter ∉ first) (turns : Nat) :
    readColumns delimiter (turns + 1) (of (first ++ delimiter :: rest)) =
      first :: readColumns delimiter turns (of rest) := by
  rw [readColumns, getline_append free]
  rfl

theorem readColumns_last {line : Text} (free : delimiter ∉ line) (turns : Nat) :
    readColumns delimiter (turns + 1) (of line) = if line = [] then [] else [line] := by
  rw [readColumns, getline_last free]
  cases line with
  | nil => rfl
  | cons byte rest => cases turns <;> rfl

/-- More turns than the line has bytes make no difference. -/
theorem readColumns_turns (line : Text) (turns : Nat) (enough : line.length < turns) :
    readColumns delimiter turns (of line) = parseRow delimiter line := by
  cases turns with
  | zero => cases enough
  | succ turns =>
    by_cases inside : delimiter ∈ line
    · obtain ⟨first, rest, rfl, free⟩ := List.eq_append_cons_of_mem inside
      rw [List.length_append, List.length_cons] at enough
      rw [parseRow, readColumns_append rest free, readColumns_append rest free,
        readColumns_turns rest turns (by omega),
        readColumns_turns rest _ (by rw [List.length_append, List.length_cons]; omega)]
    · rw [parseRow, readColumns_last inside, readColumns_last inside]
termination_by line.length
decreasing_by
  all_goals
    subst_vars
    simp only [List.length_append, List.length_cons]
    omega

@[simp] theorem parseRow_nil : parseRow delimiter [] = [] := rfl

theorem parseRow_of_free {line : Text} (free : delimiter ∉ line) (nonempty : line ≠ []) :
    parseRow delimiter line = [line] := by
  rw [parseRow, readColumns_last free, if_neg nonempty]

/-- A delimiter ends a column; at the end of a line it begins none. -/
theorem parseRow_append {first : Text} (rest : Text) (free : delimiter ∉ first) :
    parseRow delimiter (first ++ delimiter :: rest) = first :: parseRow delimiter rest := by
  rw [parseRow, readColumns_append rest free,
    readColumns_turns rest _ (by rw [List.length_append, List.length_cons]; omega)]

/-- Only an empty line has no columns. -/
theorem parseRow_eq_nil {line : Text} : parseRow delimiter line = [] ↔ line = [] := by
  constructor
  · intro none
    by_contra nonempty
    by_cases inside : delimiter ∈ line
    · obtain ⟨first, rest, rfl, free⟩ := List.eq_append_cons_of_mem inside
      rw [parseRow_append rest free] at none
      cases none
    · rw [parseRow_of_free inside nonempty] at none
      cases none
  · rintro rfl
    rfl

end TwitterClone.Csv
