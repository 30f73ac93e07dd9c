import TwitterClone.Foundation.Decimal

/-! Conversions of `sscanf` and of the string library: each takes its part from
the front of the text, or fails. -/
namespace TwitterClone.Foundation

def skipSpace (text : Text) : Text := text.dropWhile isSpace

/-- Ordinary characters of a format. -/
def expect (literal text : Text) : Option Text :=
  if literal.isPrefixOf text then some (text.drop literal.length) else none

/-- `%s`. -/
def scanWord (text : Text) : Option (Text × Text) :=
  match (skipSpace text).takeWhile (! isSpace ·) with
  | [] => none
  | word => some (word, (skipSpace text).dropWhile (! isSpace ·))

/-- `%lu`, with 64 bits. -/
def scanUnsigned (text : Text) : Option (Nat × Text) :=
  (scanNumeral (skipSpace text)).map fun (numeral, rest) => (numeral.unsigned 64, rest)

/-- `%d`: a 64-bit number cut down to an `int`. -/
def scanInt (text : Text) : Option (Int × Text) :=
  (scanNumeral (skipSpace text)).map fun (numeral, rest) => (int32 (numeral.signed 64), rest)

/-- `atoi`, which is zero where no number is found. -/
def atoi (text : Text) : Int := ((scanInt text).map Prod.fst).getD 0

/-- `std::stoul`. -/
def stoul (text : Text) : Except Fault Nat :=
  match scanNumeral (skipSpace text) with
  | none => .error .invalidArgument
  | some (numeral, _) =>
    if 2 ^ 64 ≤ numeral.magnitude then .error .outOfRange else .ok (numeral.unsigned 64)

/-- `std::stoi`. -/
def stoi (text : Text) : Except Fault Int :=
  match scanNumeral (skipSpace text) with
  | none => .error .invalidArgument
  | some (numeral, _) =>
    if numeral.value < -2 ^ 31 ∨ 2 ^ 31 ≤ numeral.value then .error .outOfRange
    else .ok numeral.value

theorem isSpace_of_isDigit {byte : Char} (digit : byte.isDigit = true) : isSpace byte = false := by
  have range : 48 ≤ byte.toNat ∧ byte.toNat ≤ 57 := by
    simpa [Char.isDigit, UInt32.le_iff_toNat_le] using digit
  have notSpace : ¬ (byte.toNat = 32 ∨ 9 ≤ byte.toNat ∧ byte.toNat ≤ 13) := by
    omega
  simpa [isSpace] using notSpace

theorem ink_of_all {text : Text} (ink : text.all (! isSpace ·) = true) :
    ∀ byte ∈ text, isSpace byte = false := by
  simpa using ink

theorem skipSpace_cons {byte : Char} {rest : Text} (ink : isSpace byte = false) :
    skipSpace (byte :: rest) = byte :: rest := by
  simp [skipSpace, ink]

theorem skipSpace_append {text rest : Text} (ink : ∀ byte ∈ text, isSpace byte = false)
    (nonempty : text ≠ []) : skipSpace (text ++ rest) = text ++ rest := by
  cases text with
  | nil => exact absurd rfl nonempty
  | cons byte more => exact skipSpace_cons (ink byte List.mem_cons_self)

theorem ink_showNat (value : Nat) : ∀ byte ∈ showNat value, isSpace byte = false :=
  fun byte member => isSpace_of_isDigit (isDigit_showNat value byte member)

theorem ink_padded (width value : Nat) : ∀ byte ∈ padded width value, isSpace byte = false :=
  fun byte member => isSpace_of_isDigit (isDigit_padded width value byte member)

theorem ink_showInt (value : Int) : ∀ byte ∈ showInt value, isSpace byte = false := by
  intro byte member
  rcases mem_showInt member with sign | digit
  · rw [sign]
    rfl
  · exact isSpace_of_isDigit digit

theorem showInt_ne_nil (value : Int) : showInt value ≠ [] := by
  unfold showInt
  split
  next => simp
  next => exact showNat_ne_nil _

theorem expect_append (literal rest : Text) : expect literal (literal ++ rest) = some rest := by
  simp [expect, List.isPrefixOf_iff_prefix]

/-- A line end in a format, before an ordinary text. -/
theorem expect_line {literal : Text} (nonempty : literal ≠ [])
    (ink : ∀ byte ∈ literal, isSpace byte = false) (rest : Text) :
    expect literal (skipSpace (newline :: (literal ++ rest))) = some rest := by
  have skipped : skipSpace (newline :: (literal ++ rest)) = skipSpace (literal ++ rest) := rfl
  rw [skipped, skipSpace_append ink nonempty, expect_append]

theorem stops_newline (rest : Text) : Stops (newline :: rest) := by
  simp [newline]

theorem scanWord_append {word rest : Text} (nonempty : word ≠ [])
    (ink : ∀ byte ∈ word, isSpace byte = false) (stops : ∀ byte ∈ rest.head?, isSpace byte = true) :
    scanWord (word ++ rest) = some (word, rest) := by
  have cut := @takeWhile_append_of_stop _ (! isSpace ·) word rest
    (by simpa using ink) (by simpa using stops)
  unfold scanWord
  rw [skipSpace_append ink nonempty, cut.1, cut.2]
  cases word with
  | nil => exact absurd rfl nonempty
  | cons byte more => rfl

theorem scanUnsigned_showNat {value : Nat} (small : value < 2 ^ 64) {rest : Text}
    (stops : Stops rest) : scanUnsigned (showNat value ++ rest) = some (value, rest) := by
  rw [scanUnsigned, skipSpace_append (ink_showNat value) (showNat_ne_nil value),
    scanNumeral_showNat value stops]
  simp only [Option.map_some, unsigned_of_small small]

/-- The range of an `int`. -/
def IsInt (value : Int) : Prop := -2 ^ 31 ≤ value ∧ value < 2 ^ 31

instance (value : Int) : Decidable (IsInt value) := inferInstanceAs (Decidable (_ ∧ _))

theorem isInt_int32 (value : Int) : IsInt (int32 value) := by
  rw [int32_eq_bmod, Int.bmod_def, IsInt]
  omega

theorem int32_of_isInt {value : Int} (range : IsInt value) : int32 value = value := by
  rw [int32_eq_bmod, Int.bmod_def]
  unfold IsInt at range
  omega

theorem scanInt_showInt {value : Int} (range : IsInt value) {rest : Text} (stops : Stops rest) :
    scanInt (showInt value ++ rest) = some (value, rest) := by
  have wide : (⟨value < 0, value.natAbs⟩ : Numeral).signed 64 = value := by
    unfold IsInt at range
    rw [signed_of_small (by rw [value_of_int]; omega) (by rw [value_of_int]; omega), value_of_int]
  rw [scanInt, skipSpace_append (ink_showInt value) (showInt_ne_nil value),
    scanNumeral_showInt value stops]
  simp only [Option.map_some, wide, int32_of_isInt range]

theorem atoi_showInt {value : Int} (range : IsInt value) : atoi (showInt value) = value := by
  have scanned := scanInt_showInt range stops_nil
  rw [List.append_nil] at scanned
  rw [atoi, scanned]
  rfl

theorem stoul_padded {width value : Nat} (small : value < 2 ^ 64) :
    stoul (padded width value) = .ok value := by
  have nonempty : padded width value ≠ [] := by
    simp [padded, showNat_ne_nil]
  have scanned := scanNumeral_padded width value stops_nil
  have skipped := @skipSpace_append _ [] (ink_padded width value) nonempty
  rw [List.append_nil] at scanned skipped
  rw [stoul, skipped, scanned]
  simp only
  rw [if_neg (by omega), unsigned_of_small small]

/-- Cut down to an `int`, what `stoul` gives is the number that was written. -/
theorem int32_unsigned {numeral : Numeral} (fits : numeral.magnitude < 2 ^ 64) :
    int32 (numeral.unsigned 64) = int32 numeral.value := by
  unfold Numeral.unsigned Numeral.value
  rw [if_neg (Nat.not_le.mpr fits)]
  split
  next =>
    rw [int32_eq_bmod, int32_eq_bmod, Int.bmod_def, Int.bmod_def]
    omega
  next => rfl

theorem length_skipSpace_le (text : Text) : (skipSpace text).length ≤ text.length :=
  (List.dropWhile_suffix isSpace).length_le

/-- A text as short as a size field holds no number that `stoul` cannot represent. -/
theorem stoul_short {text : Text} (short : text.length ≤ 19) :
    stoul text = match scanNumeral (skipSpace text) with
      | none => .error .invalidArgument
      | some (numeral, _) => .ok (numeral.unsigned 64) := by
  unfold stoul
  split
  next => rfl
  next numeral rest scanned =>
    have digits := scanNumeral_bound scanned
    have shorter := length_skipSpace_le text
    have small : (10 : Nat) ^ (skipSpace text).length ≤ 10 ^ 19 :=
      Nat.pow_le_pow_right (by decide) (by omega)
    rw [if_neg (by omega)]

theorem stoi_showInt {value : Int} (range : IsInt value) : stoi (showInt value) = .ok value := by
  have scanned := scanNumeral_showInt value stops_nil
  have skipped := @skipSpace_append _ [] (ink_showInt value) (showInt_ne_nil value)
  rw [List.append_nil] at scanned skipped
  unfold IsInt at range
  rw [stoi, skipped, scanned]
  simp only [value_of_int]
  rw [if_neg (by omega)]

/-- A number of things is read back as long as it is an `int`. -/
theorem stoi_showNat (value : Nat) :
    stoi (showNat value) = if value < 2 ^ 31 then .ok (value : Int) else .error .outOfRange := by
  have scanned := scanNumeral_showNat value stops_nil
  have skipped := @skipSpace_append _ [] (ink_showNat value) (showNat_ne_nil value)
  rw [List.append_nil] at scanned skipped
  rw [stoi, skipped, scanned]
  simp only [Numeral.value, Bool.false_eq_true, ↓reduceIte]
  by_cases small : value < 2 ^ 31
  · rw [if_neg (by omega), if_pos small]
  · rw [if_pos (by omega), if_neg small]

end TwitterClone.Foundation
