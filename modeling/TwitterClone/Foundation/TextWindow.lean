import TwitterClone.Foundation.Text

/-! Printing a text into a window of a terminal, from a place on. A line end clears the rest
of its row; a text that reaches the right margin goes on in the row below. -/
namespace TwitterClone.Foundation

/-- A window. Where the cursor stands behind a byte depends on the byte and on the column;
columns from the width on are counted on through the rows below. A byte that takes the cursor
on has filled the cells up to there, any other one has written none. -/
structure TextWindow where
  rows : Nat
  columns : Nat
  behind : Nat → Char → Nat
  wide : 0 < columns

namespace TextWindow

variable (window : TextWindow)

/-- The rows in which a byte writes, of which the first is the cursor's. -/
def touches (column : Nat) (byte : Char) : Nat :=
  if column < window.behind column byte then (window.behind column byte - 1) / window.columns + 1
  else 0

/-- The rows that are written, one entry for each byte and row. -/
def touched : (row column : Nat) → Text → List Nat
  | _, _, [] => []
  | row, column, byte :: rest =>
    if byte = newline then row :: touched (row + 1) 0 rest
    else List.range' row (window.touches column byte) ++
      touched (row + window.behind column byte / window.columns)
        (window.behind column byte % window.columns) rest

/-- How many rows a text takes from a column on. -/
def height : (column : Nat) → Text → Nat
  | _, [] => 0
  | column, byte :: rest =>
    if byte = newline then height 0 rest + 1
    else max (window.touches column byte) (window.behind column byte / window.columns +
      height (window.behind column byte % window.columns) rest)

variable {window : TextWindow}

/-- A byte leaves no row out before the one in which the cursor is then. -/
theorem behind_le_touches {column : Nat} (inside : column < window.columns) (byte : Char) :
    window.behind column byte / window.columns ≤ window.touches column byte := by
  unfold touches
  split
  next onward =>
    obtain ⟨last, same⟩ : ∃ last, window.behind column byte = last + 1 :=
      Nat.exists_eq_succ_of_ne_zero (by omega)
    rw [same, Nat.add_sub_cancel, ← Nat.add_div_right last window.wide]
    exact Nat.div_le_div_right (Nat.add_le_add_left window.wide last)
  next back => exact (Nat.div_eq_of_lt (by omega)).le

/-- The rows that are written are the first ones, without a gap. -/
theorem mem_touched {text : Text} {row column line : Nat} (inside : column < window.columns) :
    line ∈ window.touched row column text ↔ row ≤ line ∧ line < row + window.height column text := by
  induction text generalizing row column with
  | nil =>
    simp only [touched, height, List.not_mem_nil, false_iff]
    omega
  | cons byte rest ih =>
    unfold touched height
    split
    next =>
      rw [List.mem_cons, ih window.wide]
      omega
    next =>
      have gapless := @behind_le_touches window column inside byte
      rw [List.mem_append, List.mem_range'_1, ih (Nat.mod_lt _ window.wide)]
      generalize window.behind column byte / window.columns = below at gapless ⊢
      omega

/-- A byte that takes one cell wherever it stands. -/
def SingleCell (window : TextWindow) (byte : Char) : Prop :=
  byte ≠ newline ∧ ∀ column, window.behind column byte = column + 1

/-- A text of such bytes that ends before the margin takes one row. -/
theorem height_of_singleCells {text : Text} (plain : ∀ byte ∈ text, window.SingleCell byte)
    {column : Nat} (fits : column + text.length ≤ window.columns) :
    window.height column text ≤ 1 := by
  induction text generalizing column with
  | nil => exact Nat.zero_le 1
  | cons byte rest ih =>
    obtain ⟨other, next⟩ := plain byte List.mem_cons_self
    rw [List.length_cons] at fits
    have cell : window.touches column byte = 1 := by
      have row : (column + 1 - 1) / window.columns = 0 := Nat.div_eq_of_lt (by omega)
      rw [touches, next, if_pos (Nat.lt_succ_self _), row]
    rw [height, if_neg other, cell, next]
    rcases Nat.lt_or_eq_of_le (show column + 1 ≤ window.columns by omega) with before | margin
    · rw [Nat.div_eq_of_lt before, Nat.mod_eq_of_lt before, Nat.zero_add]
      have later := @ih (fun other member => plain other (List.mem_cons_of_mem _ member))
        (column + 1) (by omega)
      exact Nat.max_le.mpr ⟨le_rfl, later⟩
    · have ended : rest = [] := List.length_eq_zero_iff.mp (by omega)
      subst ended
      have below : (column + 1) / window.columns = 1 := by
        rw [margin, Nat.div_self window.wide]
      simp [height, below]

/-- Every line end takes a row. -/
theorem count_le_height (text : Text) (column : Nat) :
    text.count newline ≤ window.height column text := by
  induction text generalizing column with
  | nil => exact Nat.zero_le _
  | cons byte rest ih =>
    rw [height]
    split
    next ends =>
      rw [ends, List.count_cons_self]
      exact Nat.add_le_add_right (ih 0) 1
    next other =>
      rw [List.count_cons_of_ne other]
      have later := ih (window.behind column byte % window.columns)
      exact le_max_of_le_right (Nat.le_add_left_of_le later)

end TextWindow

end TwitterClone.Foundation
