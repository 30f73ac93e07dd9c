import TwitterClone.Foundation.Text
import TwitterClone.Foundation.Word

/-! Decimal numbers in text: how streams print them and how scanners read an
optional sign and the longest run of digits. -/
namespace TwitterClone.Foundation

def showNat (value : Nat) : Text := Nat.toDigits 10 value

def showInt (value : Int) : Text :=
  if value < 0 then '-' :: showNat value.natAbs else showNat value.natAbs

/-- At least `width` digits, filled up with zeros. -/
def padded (width value : Nat) : Text :=
  List.replicate (width - (showNat value).length) '0' ++ showNat value

/-- A scanned number: the sign in front of it and its digits. -/
structure Numeral where
  negative : Bool
  magnitude : Nat
  deriving DecidableEq, Repr

namespace Numeral

def value (numeral : Numeral) : Int :=
  if numeral.negative then -numeral.magnitude else numeral.magnitude

/-- What an unsigned conversion makes of it: too large a number saturates, and a
minus sign negates modulo the word size. -/
def unsigned (bits : Nat) (numeral : Numeral) : Nat :=
  if 2 ^ bits ≤ numeral.magnitude then 2 ^ bits - 1
  else if numeral.negative then (2 ^ bits - numeral.magnitude) % 2 ^ bits
  else numeral.magnitude

/-- What a signed conversion makes of it: a number out of range saturates. -/
def signed (bits : Nat) (numeral : Numeral) : Int :=
  max (-2 ^ (bits - 1)) (min numeral.value (2 ^ (bits - 1) - 1))

end Numeral

def scanDigits (text : Text) : Option (Nat × Text) :=
  match text.takeWhile Char.isDigit with
  | [] => none
  | digits => some (Nat.ofDigitChars 10 digits 0, text.dropWhile Char.isDigit)

/-- The number at the front of a text and what follows it. -/
def scanNumeral : Text → Option (Numeral × Text)
  | '-' :: rest => (scanDigits rest).map fun (magnitude, left) => (⟨true, magnitude⟩, left)
  | '+' :: rest => (scanDigits rest).map fun (magnitude, left) => (⟨false, magnitude⟩, left)
  | text => (scanDigits text).map fun (magnitude, left) => (⟨false, magnitude⟩, left)

/-- What follows does not prolong a number. -/
def Stops (rest : Text) : Prop := ∀ byte ∈ rest.head?, byte.isDigit = false

@[simp] theorem stops_nil : Stops [] := by
  simp [Stops]

@[simp] theorem stops_cons (byte : Char) (rest : Text) :
    Stops (byte :: rest) ↔ byte.isDigit = false := by
  simp [Stops]

theorem isDigit_showNat (value : Nat) : ∀ byte ∈ showNat value, byte.isDigit = true :=
  fun _ member => Nat.isDigit_of_mem_toDigits (by decide) (by decide) member

theorem isDigit_padded (width value : Nat) : ∀ byte ∈ padded width value, byte.isDigit = true := by
  intro byte member
  rcases List.mem_append.mp member with zero | digit
  · rw [List.eq_of_mem_replicate zero]
    rfl
  · exact isDigit_showNat value byte digit

theorem mem_showInt {value : Int} {byte : Char} (member : byte ∈ showInt value) :
    byte = '-' ∨ byte.isDigit = true := by
  unfold showInt at member
  split at member
  next => exact (List.mem_cons.mp member).imp_right (isDigit_showNat _ byte)
  next => exact Or.inr (isDigit_showNat _ byte member)

/-- No separator that is neither a digit nor a sign occurs in a number. -/
theorem notMem_showInt {byte : Char} (noDigit : byte.isDigit = false) (noSign : byte ≠ '-')
    (value : Int) : byte ∉ showInt value := by
  intro member
  rcases mem_showInt member with sign | digit
  · exact noSign sign
  · rw [noDigit] at digit
    cases digit

theorem notMem_showNat {byte : Char} (noDigit : byte.isDigit = false) (value : Nat) :
    byte ∉ showNat value := by
  intro member
  rw [isDigit_showNat value byte member] at noDigit
  cases noDigit

theorem notMem_padded {byte : Char} (noDigit : byte.isDigit = false) (width value : Nat) :
    byte ∉ padded width value := by
  intro member
  rw [isDigit_padded width value byte member] at noDigit
  cases noDigit

theorem showNat_ne_nil (value : Nat) : showNat value ≠ [] := Nat.toDigits_ne_nil

/-- A run of digits is scanned as the number it denotes. -/
theorem scanDigits_append {digits rest : Text} (nonempty : digits ≠ [])
    (every : ∀ byte ∈ digits, byte.isDigit = true) (stops : Stops rest) :
    scanDigits (digits ++ rest) = some (Nat.ofDigitChars 10 digits 0, rest) := by
  obtain ⟨taken, left⟩ := takeWhile_append_of_stop every stops
  unfold scanDigits
  rw [taken, left]
  cases digits with
  | nil => exact absurd rfl nonempty
  | cons byte more => rfl

theorem scanDigits_showNat (value : Nat) {rest : Text} (stops : Stops rest) :
    scanDigits (showNat value ++ rest) = some (value, rest) := by
  rw [scanDigits_append (showNat_ne_nil value) (isDigit_showNat value) stops, showNat,
    Nat.ofDigitChars_ten_toDigits]

theorem scanDigits_padded (width value : Nat) {rest : Text} (stops : Stops rest) :
    scanDigits (padded width value ++ rest) = some (value, rest) := by
  have nonempty : padded width value ≠ [] := by
    simp [padded, showNat_ne_nil]
  rw [scanDigits_append nonempty (isDigit_padded width value) stops, padded, Nat.ofDigitChars_append,
    Nat.ofDigitChars_replicate_zero, Nat.mul_zero, showNat, Nat.ofDigitChars_ten_toDigits]

theorem ofDigitChars_lt {digits : Text} (every : ∀ byte ∈ digits, byte.isDigit = true) :
    Nat.ofDigitChars 10 digits 0 < 10 ^ digits.length := by
  induction digits using List.reverseRecOn with
  | nil => simp
  | append_singleton before last ih =>
    have earlier := ih fun byte member => every byte (List.mem_append_left _ member)
    have digit := every last (by simp)
    have range : 48 ≤ last.toNat ∧ last.toNat ≤ 57 := by
      simpa [Char.isDigit, UInt32.le_iff_toNat_le] using digit
    have zero : '0'.toNat = 48 := rfl
    rw [Nat.ofDigitChars_append, Nat.ofDigitChars_cons, Nat.ofDigitChars_nil, zero,
      List.length_append, List.length_singleton, pow_succ]
    omega

theorem scanDigits_bound {text rest : Text} {magnitude : Nat}
    (scanned : scanDigits text = some (magnitude, rest)) : magnitude < 10 ^ text.length := by
  unfold scanDigits at scanned
  split at scanned
  next => cases scanned
  next =>
    cases scanned
    have every : ∀ byte ∈ text.takeWhile Char.isDigit, byte.isDigit = true :=
      fun byte member => List.mem_takeWhile_imp member
    have short := (List.takeWhile_prefix Char.isDigit (l := text)).length_le
    exact (ofDigitChars_lt every).trans_le (Nat.pow_le_pow_right (by decide) short)

/-- A number has no more digits than the text has bytes. -/
theorem scanNumeral_bound {text rest : Text} {numeral : Numeral}
    (scanned : scanNumeral text = some (numeral, rest)) :
    numeral.magnitude < 10 ^ text.length := by
  unfold scanNumeral at scanned
  split at scanned
  next =>
    obtain ⟨⟨magnitude, left⟩, digits, same⟩ := Option.map_eq_some_iff.mp scanned
    cases same
    exact (scanDigits_bound digits).trans_le (Nat.pow_le_pow_right (by decide) (by simp))
  next =>
    obtain ⟨⟨magnitude, left⟩, digits, same⟩ := Option.map_eq_some_iff.mp scanned
    cases same
    exact (scanDigits_bound digits).trans_le (Nat.pow_le_pow_right (by decide) (by simp))
  next =>
    obtain ⟨⟨magnitude, left⟩, digits, same⟩ := Option.map_eq_some_iff.mp scanned
    cases same
    exact scanDigits_bound digits

/-- A text that starts with a digit has no sign. -/
theorem scanNumeral_of_digit {byte : Char} {rest : Text} (digit : byte.isDigit = true) :
    scanNumeral (byte :: rest) =
      (scanDigits (byte :: rest)).map fun (magnitude, left) => (⟨false, magnitude⟩, left) := by
  unfold scanNumeral
  split
  next same =>
    rw [(List.cons.inj same).1] at digit
    cases digit
  next same =>
    rw [(List.cons.inj same).1] at digit
    cases digit
  next => rfl

private theorem scanNumeral_digits {digits rest : Text} (nonempty : digits ≠ [])
    (every : ∀ byte ∈ digits, byte.isDigit = true) :
    scanNumeral (digits ++ rest) =
      (scanDigits (digits ++ rest)).map fun (magnitude, left) => (⟨false, magnitude⟩, left) := by
  cases digits with
  | nil => exact absurd rfl nonempty
  | cons byte more => exact scanNumeral_of_digit (every byte List.mem_cons_self)

theorem scanNumeral_showNat (value : Nat) {rest : Text} (stops : Stops rest) :
    scanNumeral (showNat value ++ rest) = some (⟨false, value⟩, rest) := by
  rw [scanNumeral_digits (showNat_ne_nil value) (isDigit_showNat value),
    scanDigits_showNat value stops]
  rfl

theorem scanNumeral_padded (width value : Nat) {rest : Text} (stops : Stops rest) :
    scanNumeral (padded width value ++ rest) = some (⟨false, value⟩, rest) := by
  rw [scanNumeral_digits (by simp [padded, showNat_ne_nil]) (isDigit_padded width value),
    scanDigits_padded width value stops]
  rfl

theorem scanNumeral_showInt (value : Int) {rest : Text} (stops : Stops rest) :
    scanNumeral (showInt value ++ rest) = some (⟨value < 0, value.natAbs⟩, rest) := by
  by_cases negative : value < 0
  · simp only [showInt, negative, ↓reduceIte, List.cons_append, scanNumeral,
      scanDigits_showNat _ stops, Option.map_some, decide_true]
  · simp only [showInt, negative, ↓reduceIte, scanNumeral_showNat _ stops, decide_false]

@[simp] theorem value_of_int (value : Int) :
    (⟨value < 0, value.natAbs⟩ : Numeral).value = value := by
  by_cases negative : value < 0
  · simp only [Numeral.value, negative, decide_true, ↓reduceIte]
    omega
  · simp only [Numeral.value, negative, decide_false, Bool.false_eq_true, ↓reduceIte]
    omega

theorem unsigned_of_small {bits value : Nat} (small : value < 2 ^ bits) :
    (⟨false, value⟩ : Numeral).unsigned bits = value := by
  simp [Numeral.unsigned, Nat.not_le.mpr small]

theorem signed_of_small {bits : Nat} {numeral : Numeral}
    (low : -2 ^ (bits - 1) ≤ numeral.value) (high : numeral.value < 2 ^ (bits - 1)) :
    numeral.signed bits = numeral.value := by
  have inner : min numeral.value (2 ^ (bits - 1) - 1) = numeral.value :=
    Int.min_eq_left (Int.le_sub_one_of_lt high)
  rw [Numeral.signed, inner, Int.max_eq_right low]

/-- `%010u` and the like give exactly `width` digits. -/
theorem length_padded {width value : Nat} (fits : value < 10 ^ width) (positive : 0 < width) :
    (padded width value).length = width := by
  have short : (showNat value).length ≤ width :=
    (Nat.length_toDigits_le_iff (by decide) positive).mpr fits
  rw [padded, List.length_append, List.length_replicate]
  omega

end TwitterClone.Foundation
