import TwitterClone.Foundation.Scan

/-! What a text looks like that a conversion of `sscanf` accepts, and what it reads from
it: each conversion in both directions. -/
namespace TwitterClone.Foundation

def White (text : Text) : Prop := ∀ byte ∈ text, isSpace byte = true

def Ink (text : Text) : Prop := ∀ byte ∈ text, isSpace byte = false

/-- The text is the sign of the number, or none, and its digits. -/
def Shows (shown : Text) (numeral : Numeral) : Prop :=
  ∃ sign digits, shown = sign ++ digits ∧ digits ≠ [] ∧
    (∀ byte ∈ digits, byte.isDigit = true) ∧ numeral.magnitude = Nat.ofDigitChars 10 digits 0 ∧
    (numeral.negative = true ∧ sign = ['-'] ∨
      numeral.negative = false ∧ (sign = [] ∨ sign = ['+']))

theorem white_takeWhile (text : Text) : White (text.takeWhile isSpace) :=
  fun _ member => List.mem_takeWhile_imp member

theorem skipSpace_split (text : Text) : text = text.takeWhile isSpace ++ skipSpace text :=
  (List.takeWhile_append_dropWhile ..).symm

/-- White space before a text that begins with none. -/
theorem skipSpace_white {spaces text : Text} (white : White spaces)
    (starts : ∀ byte ∈ text.head?, isSpace byte = false) : skipSpace (spaces ++ text) = text :=
  (takeWhile_append_of_stop white starts).2

theorem head_append {first rest : Text} {property : Char → Prop} (nonempty : first ≠ [])
    (every : ∀ byte ∈ first, property byte) : ∀ byte ∈ (first ++ rest).head?, property byte := by
  cases first with
  | nil => exact absurd rfl nonempty
  | cons head more =>
    intro byte here
    exact Option.some.inj here ▸ every head List.mem_cons_self

theorem expect_eq_some {literal text rest : Text} :
    expect literal text = some rest ↔ text = literal ++ rest := by
  constructor
  · intro taken
    unfold expect at taken
    split at taken
    next starts =>
      obtain ⟨behind, rfl⟩ := List.isPrefixOf_iff_prefix.mp starts
      rw [List.drop_left] at taken
      rw [Option.some.inj taken]
    next => cases taken
  · rintro rfl
    exact expect_append literal rest

theorem scanDigits_eq_some {text rest : Text} {magnitude : Nat} :
    scanDigits text = some (magnitude, rest) ↔
      ∃ digits, text = digits ++ rest ∧ digits ≠ [] ∧ (∀ byte ∈ digits, byte.isDigit = true) ∧
        magnitude = Nat.ofDigitChars 10 digits 0 ∧ Stops rest := by
  constructor
  · intro scanned
    have whole : text = text.takeWhile Char.isDigit ++ text.dropWhile Char.isDigit :=
      (List.takeWhile_append_dropWhile ..).symm
    unfold scanDigits at scanned
    split at scanned
    next => cases scanned
    next digits some =>
      obtain ⟨rfl, rfl⟩ := Prod.ext_iff.mp (Option.some.inj scanned)
      refine ⟨text.takeWhile Char.isDigit, whole, some, ?_, rfl, ?_⟩
      · exact fun byte member => List.mem_takeWhile_imp member
      · intro byte first
        have stopped := List.head?_dropWhile_not Char.isDigit text
        rw [Option.mem_def.mp first] at stopped
        simpa using stopped
  · rintro ⟨digits, rfl, nonempty, every, rfl, stops⟩
    exact scanDigits_append nonempty every stops

/-- A number is its sign and its digits. -/
theorem scanNumeral_eq_some {text rest : Text} {numeral : Numeral} :
    scanNumeral text = some (numeral, rest) ↔
      ∃ shown, text = shown ++ rest ∧ Shows shown numeral ∧ Stops rest := by
  constructor
  · intro scanned
    unfold scanNumeral at scanned
    split at scanned <;> obtain ⟨⟨magnitude, left⟩, digitsScanned, same⟩ :=
      Option.map_eq_some_iff.mp scanned <;>
      obtain ⟨rfl, rfl⟩ := Prod.ext_iff.mp same <;>
      obtain ⟨digits, rfl, nonempty, every, value, stops⟩ := scanDigits_eq_some.mp digitsScanned
    · exact ⟨'-' :: digits, rfl, ⟨['-'], digits, rfl, nonempty, every, value,
        Or.inl ⟨rfl, rfl⟩⟩, stops⟩
    · exact ⟨'+' :: digits, rfl, ⟨['+'], digits, rfl, nonempty, every, value,
        Or.inr ⟨rfl, Or.inr rfl⟩⟩, stops⟩
    · exact ⟨digits, rfl, ⟨[], digits, rfl, nonempty, every, value,
        Or.inr ⟨rfl, Or.inl rfl⟩⟩, stops⟩
  · rintro ⟨shown, rfl, ⟨sign, digits, rfl, nonempty, every, value, sign'⟩, stops⟩
    have scanned := scanDigits_append nonempty every stops
    obtain ⟨negative, magnitude⟩ := numeral
    dsimp only at value sign'
    subst value
    rcases sign' with ⟨rfl, rfl⟩ | ⟨rfl, rfl | rfl⟩
    · rw [List.append_assoc, List.singleton_append, scanNumeral, scanned]
      rfl
    · cases digits with
      | nil => exact absurd rfl nonempty
      | cons byte more =>
        have digit := every byte List.mem_cons_self
        rw [List.nil_append, List.cons_append, scanNumeral_of_digit digit, ← List.cons_append,
          scanned]
        rfl
    · rw [List.append_assoc, List.singleton_append, scanNumeral, scanned]
      rfl

theorem Shows.ne_nil {shown : Text} {numeral : Numeral} (shows : Shows shown numeral) :
    shown ≠ [] := by
  obtain ⟨sign, digits, rfl, nonempty, -⟩ := shows
  exact fun empty => nonempty (List.append_eq_nil_iff.mp empty).2

theorem Shows.ink {shown : Text} {numeral : Numeral} (shows : Shows shown numeral) : Ink shown := by
  obtain ⟨sign, digits, rfl, -, every, -, signs⟩ := shows
  intro byte member
  rcases List.mem_append.mp member with inSign | inDigits
  · rcases signs with ⟨-, rfl⟩ | ⟨-, rfl | rfl⟩
    · rw [List.mem_singleton.mp inSign]
      rfl
    · cases inSign
    · rw [List.mem_singleton.mp inSign]
      rfl
  · exact isSpace_of_isDigit (every byte inDigits)

/-- The number of any conversion stands behind white space. -/
theorem scanNumeral_skipSpace {text rest : Text} {numeral : Numeral} :
    scanNumeral (skipSpace text) = some (numeral, rest) ↔
      ∃ spaces shown, text = spaces ++ (shown ++ rest) ∧ White spaces ∧ Shows shown numeral ∧
        Stops rest := by
  rw [scanNumeral_eq_some]
  constructor
  · rintro ⟨shown, behind, shows, stops⟩
    exact ⟨_, shown, behind ▸ skipSpace_split text, white_takeWhile text, shows, stops⟩
  · rintro ⟨spaces, shown, rfl, white, shows, stops⟩
    exact ⟨shown, skipSpace_white white (head_append shows.ne_nil shows.ink), shows, stops⟩

theorem scanUnsigned_eq_some {text rest : Text} {value : Nat} :
    scanUnsigned text = some (value, rest) ↔
      ∃ numeral, scanNumeral (skipSpace text) = some (numeral, rest) ∧
        numeral.unsigned 64 = value := by
  rw [scanUnsigned, Option.map_eq_some_iff]
  constructor
  · rintro ⟨⟨numeral, left⟩, scanned, same⟩
    obtain ⟨value, rfl⟩ := Prod.ext_iff.mp same
    exact ⟨numeral, scanned, value⟩
  · rintro ⟨numeral, scanned, rfl⟩
    exact ⟨(numeral, rest), scanned, rfl⟩

theorem scanInt_eq_some {text rest : Text} {value : Int} :
    scanInt text = some (value, rest) ↔
      ∃ numeral, scanNumeral (skipSpace text) = some (numeral, rest) ∧
        int32 (numeral.signed 64) = value := by
  rw [scanInt, Option.map_eq_some_iff]
  constructor
  · rintro ⟨⟨numeral, left⟩, scanned, same⟩
    obtain ⟨value, rfl⟩ := Prod.ext_iff.mp same
    exact ⟨numeral, scanned, value⟩
  · rintro ⟨numeral, scanned, rfl⟩
    exact ⟨(numeral, rest), scanned, rfl⟩

theorem scanWord_eq_some {text word rest : Text} :
    scanWord text = some (word, rest) ↔
      ∃ spaces, text = spaces ++ (word ++ rest) ∧ White spaces ∧ word ≠ [] ∧ Ink word ∧
        ∀ byte ∈ rest.head?, isSpace byte = true := by
  constructor
  · intro scanned
    have whole : skipSpace text = (skipSpace text).takeWhile (! isSpace ·) ++
        (skipSpace text).dropWhile (! isSpace ·) := (List.takeWhile_append_dropWhile ..).symm
    unfold scanWord at scanned
    split at scanned
    next => cases scanned
    next taken some =>
      obtain ⟨rfl, rfl⟩ := Prod.ext_iff.mp (Option.some.inj scanned)
      refine ⟨text.takeWhile isSpace, whole ▸ skipSpace_split text, white_takeWhile text, some,
        ?_, ?_⟩
      · intro byte member
        simpa using List.mem_takeWhile_imp member
      · intro byte first
        have stopped := List.head?_dropWhile_not (! isSpace ·) (skipSpace text)
        rw [Option.mem_def.mp first] at stopped
        simpa using stopped
  · rintro ⟨spaces, rfl, white, nonempty, ink, stops⟩
    have skipped := @skipSpace_white spaces (word ++ rest) white (head_append nonempty ink)
    have alone := scanWord_append nonempty ink stops
    unfold scanWord at alone ⊢
    rw [skipped]
    rwa [skipSpace_append ink nonempty] at alone

end TwitterClone.Foundation
