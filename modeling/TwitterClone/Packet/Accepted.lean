import TwitterClone.Foundation.Format
import TwitterClone.Packet.Packet

/-! What a text is made of from which a packet was read, and what the packet holds of
it. The blank line is not asked for, and the number of bytes is the header's. -/
namespace TwitterClone.Packet

open Foundation

def blankLine : Text := [newline, newline]

/-- What is parsed: the text behind the size field. -/
def behindSize (rawData : Text) : Text := (cString rawData).drop sizeFieldLength

/-- The text is taken for a header, all four fields of it. -/
def Accepts (rawData : Text) : Prop :=
  ∃ fields, scanHeader (cString (splitFirst (behindSize rawData) blankLine).1) = .ok (some fields)

/-- White space, a label, white space and a number. -/
def NumberField (label field : Text) (numeral : Numeral) : Prop :=
  ∃ before after shown, field = before ++ (label ++ (after ++ shown)) ∧ White before ∧
    White after ∧ Shows shown numeral

/-- The type and the three numbers; what stands behind the last number is not read. -/
structure FourFields (header word : Text) (timestamp sequenceNumber length : Numeral) : Prop where
  type : word ≠ [] ∧ Ink word ∧ word.length < typeBufferSize
  parts : ∃ spaces timestampField sequenceField lengthField rest,
    header = "type:".toList ++ (spaces ++ (word ++ (timestampField ++ (sequenceField ++
      (lengthField ++ rest))))) ∧
    White spaces ∧ NumberField "timestamp:".toList timestampField timestamp ∧
    (∀ byte ∈ timestampField.head?, isSpace byte = true) ∧
    NumberField "sequenceNumber:".toList sequenceField sequenceNumber ∧
    NumberField "length:".toList lengthField length ∧ Stops rest

/-- A size field of ten bytes, a header with the four fields, a blank line, which is the
first one, and the payload, whose bytes the packet has and counts. -/
def Framed (rawData : Text) (packet : Packet) : Prop :=
  ∃ sizeField header payload, cString rawData = sizeField ++ (header ++ (blankLine ++ payload)) ∧
    sizeField.length = sizeFieldLength ∧
    (∃ word timestamp sequenceNumber length,
      FourFields header word timestamp sequenceNumber length) ∧
    find blankLine (header ++ (blankLine ++ payload)) = some header.length ∧
    packet.payload = payload ∧ packet.length = payload.length

/-- Behind the size field comes a header, a blank line and as many bytes as the number in
the header's last field says, when it is read as an int. -/
def TellsLength (rawData : Text) : Prop :=
  ∃ header payload word timestamp sequenceNumber length,
    behindSize rawData = header ++ (blankLine ++ payload) ∧
    find blankLine (header ++ (blankLine ++ payload)) = some header.length ∧
    FourFields header word timestamp sequenceNumber length ∧
    int32 (length.signed 64) = payload.length

section Header

/-- A label and the number behind it, when white space was skipped before the label. -/
theorem numberField_iff {label text rest : Text} {numeral : Numeral} (nonempty : label ≠ [])
    (ink : Ink label) :
    (∃ middle, expect label (skipSpace text) = some middle ∧
      scanNumeral (skipSpace middle) = some (numeral, rest)) ↔
    ∃ field, text = field ++ rest ∧ NumberField label field numeral ∧ Stops rest := by
  constructor
  · rintro ⟨middle, labelled, scanned⟩
    obtain ⟨after, shown, rfl, white, shows, stops⟩ := scanNumeral_skipSpace.mp scanned
    have behind := expect_eq_some.mp labelled
    refine ⟨text.takeWhile isSpace ++ (label ++ (after ++ shown)), ?_,
      ⟨_, after, shown, rfl, white_takeWhile text, white, shows⟩, stops⟩
    have whole := skipSpace_split text
    rw [behind] at whole
    simpa using whole
  · rintro ⟨field, rfl, ⟨before, after, shown, rfl, white, whiteAfter, shows⟩, stops⟩
    refine ⟨after ++ (shown ++ rest), ?_, scanNumeral_skipSpace.mpr
      ⟨after, shown, rfl, whiteAfter, shows, stops⟩⟩
    have shape : before ++ (label ++ (after ++ shown)) ++ rest =
        before ++ (label ++ (after ++ (shown ++ rest))) := by simp
    rw [shape, skipSpace_white white (head_append nonempty ink)]
    exact expect_append ..

theorem NumberField.head?_append {label field : Text} {numeral : Numeral}
    (numbers : NumberField label field numeral) (rest : Text) :
    (field ++ rest).head? = field.head? := by
  obtain ⟨before, after, shown, rfl, -, -, shows⟩ := numbers
  refine List.head?_append_of_ne_nil _ ?_
  intro empty
  exact shows.ne_nil (List.append_eq_nil_iff.mp (List.append_eq_nil_iff.mp
    (List.append_eq_nil_iff.mp empty).2).2).2

theorem not_isDigit_of_isSpace {byte : Char} (white : isSpace byte = true) :
    byte.isDigit = false := by
  by_contra digit
  rw [isSpace_of_isDigit (Bool.eq_true_of_not_eq_false digit)] at white
  cases white

/-- A field that follows a number does not prolong it. -/
theorem NumberField.stops {label field : Text} {numeral : Numeral}
    (numbers : NumberField label field numeral) (nonempty : label ≠ [])
    (letters : label.all (! Char.isDigit ·) = true) (rest : Text) : Stops (field ++ rest) := by
  obtain ⟨before, after, shown, rfl, white, -, -⟩ := numbers
  cases before with
  | nil =>
    rw [List.nil_append, List.append_assoc]
    exact head_append nonempty (by simpa using letters)
  | cons byte more =>
    intro first here
    obtain rfl := Option.some.inj here
    exact not_isDigit_of_isSpace (white byte List.mem_cons_self)

/-- The three lines of numbers, in both directions. -/
theorem scanNumbers_eq_some {text : Text} {timestamp : Nat} {sequenceNumber length : Int} :
    scanNumbers text = some (timestamp, sequenceNumber, length) ↔
      ∃ timestampField sequenceField lengthField rest first second third,
        text = timestampField ++ (sequenceField ++ (lengthField ++ rest)) ∧
        NumberField "timestamp:".toList timestampField first ∧
        NumberField "sequenceNumber:".toList sequenceField second ∧
        NumberField "length:".toList lengthField third ∧ Stops rest ∧
        first.unsigned 64 = timestamp ∧ int32 (second.signed 64) = sequenceNumber ∧
        int32 (third.signed 64) = length := by
  have one := fun {text rest : Text} {numeral : Numeral} =>
    @numberField_iff "timestamp:".toList text rest numeral (by decide) (ink_of_all rfl)
  have two := fun {text rest : Text} {numeral : Numeral} =>
    @numberField_iff "sequenceNumber:".toList text rest numeral (by decide) (ink_of_all rfl)
  have three := fun {text rest : Text} {numeral : Numeral} =>
    @numberField_iff "length:".toList text rest numeral (by decide) (ink_of_all rfl)
  constructor
  · intro scanned
    simp only [scanNumbers, Option.bind_eq_bind, Option.bind_eq_some_iff, Option.pure_def,
      Option.some.injEq, Prod.exists, Prod.mk.injEq] at scanned
    obtain ⟨labelOne, expectOne, _, behindOne, readOne, labelTwo, expectTwo, _, behindTwo, readTwo,
      labelThree, expectThree, _, rest, readThree, rfl, rfl, rfl⟩ := scanned
    obtain ⟨first, numberOne, rfl⟩ := scanUnsigned_eq_some.mp readOne
    obtain ⟨second, numberTwo, rfl⟩ := scanInt_eq_some.mp readTwo
    obtain ⟨third, numberThree, rfl⟩ := scanInt_eq_some.mp readThree
    obtain ⟨timestampField, rfl, fieldOne, -⟩ := one.mp ⟨labelOne, expectOne, numberOne⟩
    obtain ⟨sequenceField, rfl, fieldTwo, -⟩ := two.mp ⟨labelTwo, expectTwo, numberTwo⟩
    obtain ⟨lengthField, rfl, fieldThree, stops⟩ := three.mp ⟨labelThree, expectThree, numberThree⟩
    exact ⟨timestampField, sequenceField, lengthField, rest, first, second, third, rfl, fieldOne,
      fieldTwo, fieldThree, stops, rfl, rfl, rfl⟩
  · rintro ⟨timestampField, sequenceField, lengthField, rest, first, second, third, rfl, fieldOne,
      fieldTwo, fieldThree, stops, rfl, rfl, rfl⟩
    have stopsTwo := fieldTwo.stops (by decide) rfl (lengthField ++ rest)
    have stopsThree := fieldThree.stops (by decide) rfl rest
    obtain ⟨labelOne, expectOne, numberOne⟩ := one.mpr ⟨timestampField, rfl, fieldOne, stopsTwo⟩
    obtain ⟨labelTwo, expectTwo, numberTwo⟩ := two.mpr ⟨sequenceField, rfl, fieldTwo, stopsThree⟩
    obtain ⟨labelThree, expectThree, numberThree⟩ :=
      three.mpr ⟨lengthField, rfl, fieldThree, stops⟩
    have readOne := scanUnsigned_eq_some.mpr ⟨first, numberOne, rfl⟩
    have readTwo := scanInt_eq_some.mpr ⟨second, numberTwo, rfl⟩
    have readThree := scanInt_eq_some.mpr ⟨third, numberThree, rfl⟩
    simp only [scanNumbers, expectOne, readOne, expectTwo, readTwo, expectThree, readThree,
      Option.bind_eq_bind, Option.bind_some, Option.pure_def]

/-- A text is read as a header exactly when it has the four fields, and the length is the
last number. -/
theorem scanHeader_iff {header word : Text} {timestamp : Nat} {sequenceNumber length : Int} :
    scanHeader header = .ok (some (word, timestamp, sequenceNumber, length)) ↔
      ∃ first second third, FourFields header word first second third ∧
        first.unsigned 64 = timestamp ∧ int32 (second.signed 64) = sequenceNumber ∧
        int32 (third.signed 64) = length := by
  constructor
  · intro read
    unfold scanHeader at read
    split at read
    next => cases read
    next typeBuffer rest scanned =>
      split at read
      next => cases read
      next fits =>
        obtain ⟨⟨_, _, _⟩, numbers, same⟩ := Option.map_eq_some_iff.mp (Except.ok.inj read)
        cases same
        obtain ⟨behind, labelled, typed⟩ := Option.bind_eq_some_iff.mp scanned
        obtain ⟨spaces, rfl, white, nonempty, ink, stopsWord⟩ := scanWord_eq_some.mp typed
        obtain ⟨timestampField, sequenceField, lengthField, left, first, second, third, rfl,
          fieldOne, fieldTwo, fieldThree, stops, rfl, rfl, rfl⟩ := scanNumbers_eq_some.mp numbers
        refine ⟨first, second, third, ⟨⟨nonempty, ink, Nat.not_le.mp fits⟩, spaces, timestampField,
          sequenceField, lengthField, left, expect_eq_some.mp labelled, white, fieldOne, ?_,
          fieldTwo, fieldThree, stops⟩, rfl, rfl, rfl⟩
        rwa [fieldOne.head?_append] at stopsWord
  · rintro ⟨first, second, third, ⟨⟨nonempty, ink, fits⟩, spaces, timestampField, sequenceField,
      lengthField, rest, rfl, white, fieldOne, stopsWord, fieldTwo, fieldThree, stops⟩, rfl, rfl,
      rfl⟩
    have numbers := scanNumbers_eq_some.mpr ⟨timestampField, sequenceField, lengthField, rest,
      first, second, third, rfl, fieldOne, fieldTwo, fieldThree, stops, rfl, rfl, rfl⟩
    rw [← fieldOne.head?_append (sequenceField ++ (lengthField ++ rest))] at stopsWord
    have typed := scanWord_eq_some.mpr ⟨spaces, rfl, white, nonempty, ink, stopsWord⟩
    unfold scanHeader
    rw [expect_append, Option.bind_some, typed]
    dsimp only
    rw [if_neg (Nat.not_le.mpr fits), numbers]
    rfl

end Header

section Framing

variable {now : Nat} {rawData : Text} {packet : Packet}

theorem nul_notMem_behindSize (rawData : Text) : nul ∉ behindSize rawData :=
  fun member => nul_notMem_cString rawData (List.mem_of_mem_drop member)

theorem splitFirst_free {str delimiter : Text} {byte : Char} (free : byte ∉ str) :
    byte ∉ (splitFirst str delimiter).1 ∧ byte ∉ (splitFirst str delimiter).2 := by
  unfold splitFirst
  split
  next position found =>
    exact ⟨fun member => free (List.mem_of_mem_take member),
      fun member => free (List.mem_of_mem_drop member)⟩
  next => exact ⟨free, fun member => free (List.mem_of_mem_drop member)⟩

/-- What a packet holds that was made of a header. -/
theorem deserialize_accepted (accepts : Accepts rawData)
    (returned : deserialize now rawData = .ok packet) :
    ∃ word timestamp sequenceNumber length,
      FourFields (splitFirst (behindSize rawData) blankLine).1 word timestamp sequenceNumber length ∧
      packet.length = int32 (length.signed 64) ∧
      packet.payload = (splitFirst (behindSize rawData) blankLine).2 := by
  obtain ⟨⟨word, timestamp, sequenceNumber, length⟩, read⟩ := accepts
  have free := @splitFirst_free _ blankLine _ (nul_notMem_behindSize rawData)
  have shape : deserialize now rawData = .ok
      { length, type := stringToType word, sequenceNumber, timestamp,
        payload := cString (splitFirst (behindSize rawData) blankLine).2 } := by
    rw [behindSize, blankLine] at read
    simp only [deserialize, read, behindSize, blankLine]
  obtain rfl := Except.ok.inj (returned.symm.trans shape)
  rw [cString_of_free free.1] at read
  obtain ⟨first, second, third, fields, -, -, number⟩ := scanHeader_iff.mp read
  exact ⟨word, first, second, third, fields, number.symm, cString_of_free free.2⟩

/-- A header says one length. -/
theorem FourFields.length_unique {header word other : Text}
    {timestamp sequenceNumber length time order count : Numeral}
    (fields : FourFields header word timestamp sequenceNumber length)
    (same : FourFields header other time order count) :
    int32 (length.signed 64) = int32 (count.signed 64) := by
  have one := scanHeader_iff.mpr ⟨_, _, _, fields, rfl, rfl, rfl⟩
  have two := scanHeader_iff.mpr ⟨_, _, _, same, rfl, rfl, rfl⟩
  have equal := Option.some.inj (Except.ok.inj (one.symm.trans two))
  exact congrArg (fun values => values.2.2.2) equal

/-- A packet that was made of a header is what the text holds, byte by byte, exactly when
there is a blank line and the header tells the number of the bytes behind it. -/
theorem framed_iff (now : Nat) (rawData : Text) (packet : Packet) (accepts : Accepts rawData)
    (returned : deserialize now rawData = .ok packet) :
    Framed rawData packet ↔ TellsLength rawData := by
  obtain ⟨word, timestamp, sequenceNumber, length, fields, number, payloadIs⟩ :=
    deserialize_accepted accepts returned
  constructor
  · rintro ⟨sizeField, header, payload, whole, size, -, found, same, count⟩
    have behind : behindSize rawData = header ++ (blankLine ++ payload) := by
      rw [behindSize, whole, ← size, List.drop_left]
    rw [behind, splitFirst_of_find found] at fields
    exact ⟨header, payload, word, timestamp, sequenceNumber, length, behind, found, fields,
      number.symm.trans count⟩
  · rintro ⟨header, payload, other, time, order, count, behind, found, told, bytes⟩
    rw [behind, splitFirst_of_find found] at fields payloadIs
    have long : sizeFieldLength < (cString rawData).length := by
      have inside := congrArg List.length behind
      rw [behindSize, List.length_drop, List.length_append, List.length_append] at inside
      have two : blankLine.length = 2 := rfl
      omega
    refine ⟨(cString rawData).take sizeFieldLength, header, payload, ?_, ?_,
      ⟨word, timestamp, sequenceNumber, length, fields⟩, found, payloadIs, ?_⟩
    · rw [← behind, behindSize, List.take_append_drop]
    · rw [List.length_take]
      omega
    · rw [number, fields.length_unique told, bytes]

/-- A login whose header counts five bytes in front of five bytes. -/
def honestLogin : Text :=
  "0000000000type:LOGIN\ntimestamp:1\nsequenceNumber:1\nlength:5\n\n@anna".toList

/-- A login whose header counts five bytes where there are none. -/
def emptyLogin : Text :=
  "0000000000type:LOGIN\ntimestamp:1\nsequenceNumber:1\nlength:5\n\n".toList

/-- A login without a blank line. -/
def unendedLogin : Text :=
  "0000000000type:LOGIN\ntimestamp:1\nsequenceNumber:1\nlength:5".toList

theorem tellsLength_honestLogin : TellsLength honestLogin := by
  have read : scanHeader "type:LOGIN\ntimestamp:1\nsequenceNumber:1\nlength:5".toList =
      .ok (some ("LOGIN".toList, 1, 1, 5)) := by
    decide +kernel
  obtain ⟨first, second, third, fields, -, -, number⟩ := scanHeader_iff.mp read
  exact ⟨_, "@anna".toList, _, _, _, _, by decide +kernel, by decide +kernel, fields, number⟩

theorem framed_honestLogin : Framed honestLogin ⟨5, .login, 1, 1, "@anna".toList⟩ :=
  (framed_iff 0 honestLogin ⟨5, .login, 1, 1, "@anna".toList⟩
    ⟨("LOGIN".toList, 1, 1, 5), by decide +kernel⟩ (by decide +kernel)).mpr tellsLength_honestLogin

/-- The empty login comes with a length of five, and the unended one with its own text for
a payload. -/
theorem not_framed_emptyLogin :
    Accepts emptyLogin ∧ deserialize 0 emptyLogin = .ok ⟨5, .login, 1, 1, []⟩ ∧
      ¬ Framed emptyLogin ⟨5, .login, 1, 1, []⟩ ∧
    Accepts unendedLogin ∧ deserialize 0 unendedLogin = .ok ⟨5, .login, 1, 1,
        "ype:LOGIN\ntimestamp:1\nsequenceNumber:1\nlength:5".toList⟩ ∧
      ¬ Framed unendedLogin ⟨5, .login, 1, 1,
        "ype:LOGIN\ntimestamp:1\nsequenceNumber:1\nlength:5".toList⟩ := by
  refine ⟨⟨("LOGIN".toList, 1, 1, 5), by decide +kernel⟩, by decide +kernel, ?_,
    ⟨("LOGIN".toList, 1, 1, 5), by decide +kernel⟩, by decide +kernel, ?_⟩
  · rintro ⟨sizeField, header, payload, -, -, -, -, rfl, count⟩
    exact absurd count (by decide)
  · rintro ⟨sizeField, header, payload, -, -, -, -, rfl, count⟩
    exact absurd count (by decide)

end Framing

end TwitterClone.Packet
