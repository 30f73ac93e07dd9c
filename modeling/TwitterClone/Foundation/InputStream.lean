import TwitterClone.Foundation.Scan

/-! Reading values from a text through an input stream with its end and failure
marks. A value is missing when the stream could not even start to read it: the
variable then keeps what it had. -/
namespace TwitterClone.Foundation

structure InputStream where
  rest : Text
  eof : Bool := false
  fail : Bool := false
  deriving DecidableEq, Repr

namespace InputStream

def good (stream : InputStream) : Bool := !stream.eof && !stream.fail

/-- White space is skipped; nothing can be read at the end or after a failure. -/
def enter (stream : InputStream) : Option Text :=
  if stream.good then
    match skipSpace stream.rest with
    | [] => none
    | rest => some rest
  else none

/-- The stream behind a value that was read. -/
def after (rest : Text) : InputStream := { rest, eof := rest.isEmpty }

def failed (stream : InputStream) : InputStream := { stream with fail := true }

/-- `operator>>` into a string. -/
def readWord (stream : InputStream) : Option Text × InputStream :=
  match stream.enter with
  | none => (none, stream.failed)
  | some text => (some (text.takeWhile (! isSpace ·)), after (text.dropWhile (! isSpace ·)))

/-- `operator>>` into an `int`: no number gives zero, one out of range the nearest
bound, and both a failure. -/
def readInt (stream : InputStream) : Option Int × InputStream :=
  match stream.enter with
  | none => (none, stream.failed)
  | some text =>
    match scanNumeral text with
    | none => (some 0, stream.failed)
    | some (numeral, rest) =>
      if IsInt numeral.value then (some numeral.value, after rest)
      else (some (numeral.signed 32), (after rest).failed)

/-- `operator>>` into a 64-bit `unsigned`. -/
def readUnsigned (stream : InputStream) : Option Nat × InputStream :=
  match stream.enter with
  | none => (none, stream.failed)
  | some text =>
    match scanNumeral text with
    | none => (some 0, stream.failed)
    | some (numeral, rest) =>
      if numeral.magnitude < 2 ^ 64 then (some (numeral.unsigned 64), after rest)
      else (some (numeral.unsigned 64), (after rest).failed)

/-- `ignore(1)`. -/
def ignore (stream : InputStream) : InputStream :=
  if stream.good then
    match stream.rest with
    | [] => { stream with eof := true }
    | _ :: rest => { stream with rest }
  else stream.failed

/-- `read`: the bytes that were there, at most as many as asked for. -/
def read (stream : InputStream) (length : Nat) : Text × InputStream :=
  if stream.good then
    if length ≤ stream.rest.length then
      (stream.rest.take length, { stream with rest := stream.rest.drop length })
    else (stream.rest, { rest := [], eof := true, fail := true })
  else ([], stream.failed)

/-- `getline`: the text up to the delimiter, which is taken away. Nothing left to
read is an empty text and a failure. -/
def getline (delimiter : Char) (stream : InputStream) : Option Text × InputStream :=
  if stream.good then
    match stream.rest.dropWhile (· ≠ delimiter) with
    | _ :: rest => (some (stream.rest.takeWhile (· ≠ delimiter)), { rest })
    | [] => (some stream.rest, { rest := [], eof := true, fail := stream.rest.isEmpty })
  else (none, stream.failed)

/-- A length, one separator and as many bytes, read into a local buffer of that
length and taken as a terminated string. The buffer is on the stack, which has room for
so many bytes; what is left of it while the buffer is in use comes with the text. The
terminator goes one byte past the buffer; here it changes nothing else. -/
def readBlock (stack : Nat) (stream : InputStream) : Except Fault (Text × Nat × InputStream) :=
  match stream.readInt with
  | (none, _) => .error .uninitialized
  | (some length, stream) =>
    if length < 0 then .error (.bufferSize length)
    else if stack < length.toNat then .error .stackOverflow
    else
      let (bytes, stream) := stream.ignore.read length.toNat
      if bytes.length < length.toNat then .error .uninitialized
      else .ok (cString bytes, stack - length.toNat, stream)

/-- The text that `readBlock` reads. -/
def block (bytes : Text) : Text := showNat bytes.length ++ ' ' :: bytes

/-- A stream with text left to read and no mark set. -/
def of (text : Text) : InputStream := { rest := text }

section Reading

variable {stack : Nat} {stream : InputStream} {text rest : Text}

theorem after_cons (byte : Char) (rest : Text) : after (byte :: rest) = of (byte :: rest) := rfl

theorem ignore_cons (byte : Char) (rest : Text) : (of (byte :: rest)).ignore = of rest := rfl

theorem enter_of (ink : ∀ byte ∈ text, isSpace byte = false) (nonempty : text ≠ []) (rest : Text) :
    (of (text ++ rest)).enter = some (text ++ rest) := by
  have skipped : skipSpace (of (text ++ rest)).rest = text ++ rest := skipSpace_append ink nonempty
  have good : (of (text ++ rest)).good = true := rfl
  rw [enter, if_pos good, skipped]
  cases text with
  | nil => exact absurd rfl nonempty
  | cons byte more => rfl

/-- One blank in front of a value makes no difference. -/
theorem enter_blank (ink : ∀ byte ∈ text, isSpace byte = false) (nonempty : text ≠ [])
    (rest : Text) :
    (of (' ' :: (text ++ rest))).enter = some (text ++ rest) :=
  enter_of ink nonempty rest

theorem enter_block (text rest : Text) :
    (of (block text ++ rest)).enter = some (block text ++ rest) := by
  rw [block, List.append_assoc]
  exact enter_of (ink_showNat text.length) (showNat_ne_nil text.length) _

theorem enter_block_blank (text rest : Text) :
    (of (' ' :: (block text ++ rest))).enter = some (block text ++ rest) :=
  enter_block text rest

theorem readWord_text (entered : stream.enter = some (text ++ ' ' :: rest))
    (ink : ∀ byte ∈ text, isSpace byte = false) :
    stream.readWord = (some text, of (' ' :: rest)) := by
  have cut := @takeWhile_append_of_stop _ (! isSpace ·) text (' ' :: rest)
    (by simpa using ink) (by simp [isSpace])
  simp only [readWord, entered, cut]
  rfl

theorem readInt_showInt {value : Int} (entered : stream.enter = some (showInt value ++ rest))
    (range : IsInt value) (stops : Stops rest) : stream.readInt = (some value, after rest) := by
  simp only [readInt, entered, scanNumeral_showInt value stops, value_of_int, range, ↓reduceIte]

theorem readInt_showNat {value : Nat} (entered : stream.enter = some (showNat value ++ rest))
    (small : value < 2 ^ 31) (stops : Stops rest) :
    stream.readInt = (some (value : Int), after rest) := by
  have range : IsInt (⟨false, value⟩ : Numeral).value := by
    simp only [IsInt, Numeral.value, Bool.false_eq_true, ↓reduceIte]
    omega
  simp only [readInt, entered, scanNumeral_showNat value stops, range, ↓reduceIte]
  rfl

theorem readUnsigned_showNat {value : Nat} (entered : stream.enter = some (showNat value ++ rest))
    (small : value < 2 ^ 64) (stops : Stops rest) :
    stream.readUnsigned = (some value, after rest) := by
  simp only [readUnsigned, entered, scanNumeral_showNat value stops, small, ↓reduceIte,
    unsigned_of_small small]

theorem getline_append {delimiter : Char} (free : delimiter ∉ text) (rest : Text) :
    (of (text ++ delimiter :: rest)).getline delimiter = (some text, of rest) := by
  have cut := @takeWhile_append_of_stop _ (· ≠ delimiter) text (delimiter :: rest)
    (fun byte member => by simpa using fun same : byte = delimiter => free (same ▸ member))
    (by simp)
  have good : (of (text ++ delimiter :: rest)).good = true := rfl
  simp only [getline, good, ↓reduceIte]
  simp only [of, cut]

theorem getline_last {delimiter : Char} (free : delimiter ∉ text) :
    (of text).getline delimiter =
      (some text, { rest := [], eof := true, fail := text.isEmpty }) := by
  have none : text.dropWhile (· ≠ delimiter) = [] := by
    rw [List.dropWhile_eq_nil_iff]
    intro byte member
    simpa using fun same : byte = delimiter => free (same ▸ member)
  have good : (of text).good = true := rfl
  simp only [getline, good, ↓reduceIte]
  simp only [of, none]

/-- A block is read as it was written, and the stream stands behind it. -/
theorem readBlock_block (entered : stream.enter = some (block text ++ rest))
    (short : text.length < 2 ^ 31) (room : text.length ≤ stack) (free : nul ∉ text) :
    stream.readBlock stack = .ok (text, stack - text.length, of rest) := by
  have number := @readInt_showNat stream (' ' :: (text ++ rest)) text.length
    (by simpa [block] using entered) short (by simp)
  have behind : (after (' ' :: (text ++ rest))).ignore = of (text ++ rest) := rfl
  have bytes : (of (text ++ rest)).read text.length = (text, of rest) := by
    simp [read, of, good]
  simp only [readBlock, number, behind, Int.toNat_natCast, bytes, lt_irrefl, ↓reduceIte,
    cString_of_free free]
  rw [if_neg (by omega), if_neg (by omega)]

/-- A length that is too large for an `int`, or for what is there, leaves the buffer
unfilled, if the stack had room for it at all. -/
theorem readBlock_lacking {length : Nat}
    (entered : stream.enter = some (showNat length ++ ' ' :: rest))
    (lacking : rest.length < length ∨ 2 ^ 31 ≤ length) :
    ∃ fault, stream.readBlock stack = .error fault := by
  have stops : Stops (' ' :: rest) := by simp
  by_cases long : 2 ^ 31 ≤ length
  · have large : ¬ IsInt (⟨false, length⟩ : Numeral).value := by
      simp only [IsInt, Numeral.value, Bool.false_eq_true, ↓reduceIte]
      omega
    have clamped : (⟨false, length⟩ : Numeral).signed 32 = 2 ^ 31 - 1 := by
      simp only [Numeral.signed, Numeral.value, Bool.false_eq_true, ↓reduceIte]
      omega
    have number : stream.readInt = (some (2 ^ 31 - 1), (after (' ' :: rest)).failed) := by
      simp only [readInt, entered, scanNumeral_showNat _ stops, large, ↓reduceIte, clamped]
    simp only [readBlock, number]
    rw [if_neg (by omega)]
    split
    next => exact ⟨_, rfl⟩
    next => exact ⟨.uninitialized, rfl⟩
  · have number := readInt_showNat entered (by omega) stops
    have behind : (after (' ' :: rest)).ignore = of rest := rfl
    have short : ¬ length ≤ rest.length := by omega
    have bytes : (of rest).read length = (rest, { rest := [], eof := true, fail := true }) := by
      simp [read, of, good, short]
    simp only [readBlock, number, behind, Int.toNat_natCast, bytes]
    rw [if_neg (by omega)]
    split
    next => exact ⟨_, rfl⟩
    next => exact ⟨.uninitialized, by rw [if_pos (by omega)]⟩

/-- The stack has no room for the buffer. -/
theorem readBlock_narrow (entered : stream.enter = some (block text ++ rest))
    (short : text.length < 2 ^ 31) (narrow : stack < text.length) :
    stream.readBlock stack = .error .stackOverflow := by
  have number := @readInt_showNat stream (' ' :: (text ++ rest)) text.length
    (by simpa [block] using entered) short (by simp)
  simp only [readBlock, number, Int.toNat_natCast]
  rw [if_neg (by omega), if_pos narrow]

theorem readBlock_long (entered : stream.enter = some (block text ++ rest))
    (long : 2 ^ 31 ≤ text.length) : ∃ fault, stream.readBlock stack = .error fault := by
  rw [block, List.append_assoc] at entered
  exact readBlock_lacking entered (Or.inr long)

end Reading

-- Proofs go through the lemmas above; unfolding a chain of reads repeats the
-- stream in every one of them.
attribute [irreducible] readWord readInt readUnsigned readBlock

end InputStream

end TwitterClone.Foundation
