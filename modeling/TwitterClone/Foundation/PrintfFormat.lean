import TwitterClone.Foundation.Text

/-! What the `printf` family makes of a format that is passed without further arguments. -/
namespace TwitterClone.Foundation

/-- A directive asks for an argument, or is none that the language defines. -/
inductive FormatFault where
  | missingArgument
  | undefinedConversion
  deriving DecidableEq, Repr

/-- The rest of a directive behind its precision: a length modifier and the conversion. -/
def conversionFault (rest : Text) : FormatFault :=
  match rest.dropWhile ("hlLjzt".toList.contains ·) with
  | conversion :: _ =>
    if "diouxXfFeEgGaAcspn".toList.contains conversion then .missingArgument
    else .undefinedConversion
  | [] => .undefinedConversion

/-- A field width or a precision, which a star takes from the arguments. -/
def numberFault (rest : Text) (next : Text → FormatFault) : FormatFault :=
  if rest.head? = some '*' then .missingArgument else next (rest.dropWhile Char.isDigit)

/-- What is wrong with a directive that does not stand for a percent sign. -/
def directiveFault (directive : Text) : FormatFault :=
  numberFault (directive.dropWhile ("-+ #0".toList.contains ·)) fun rest =>
    match rest with
    | '.' :: precision => numberFault precision conversionFault
    | _ => conversionFault rest

/-- The text that is printed. -/
def formatAlone : Text → Except FormatFault Text
  | [] => .ok []
  | [byte] => if byte = '%' then .error .undefinedConversion else .ok [byte]
  | byte :: next :: rest =>
    if byte = '%' then
      if next = '%' then (formatAlone rest).map ('%' :: ·)
      else .error (directiveFault (next :: rest))
    else (formatAlone (next :: rest)).map (byte :: ·)

/-- Every percent sign is one of a pair, read from the left. -/
inductive PercentsPaired : Text → Prop where
  | nil : PercentsPaired []
  | plain {byte : Char} {rest : Text} (other : byte ≠ '%') (paired : PercentsPaired rest) :
      PercentsPaired (byte :: rest)
  | pair {rest : Text} (paired : PercentsPaired rest) : PercentsPaired ('%' :: '%' :: rest)

theorem formatAlone_plain {byte : Char} {rest : Text} (other : byte ≠ '%') :
    formatAlone (byte :: rest) = (formatAlone rest).map (byte :: ·) := by
  cases rest with
  | nil => exact if_neg other
  | cons next rest => rw [formatAlone, if_neg other]

theorem formatAlone_pair (rest : Text) :
    formatAlone ('%' :: '%' :: rest) = (formatAlone rest).map ('%' :: ·) := by
  rw [formatAlone, if_pos rfl, if_pos rfl]

theorem exists_of_map_ok {Fault Value Result : Type} {computed : Except Fault Value}
    {change : Value → Result} {result : Result} (done : computed.map change = .ok result) :
    ∃ value, computed = .ok value ∧ change value = result := by
  cases computed with
  | error fault => cases done
  | ok value => exact ⟨value, rfl, Except.ok.inj done⟩

theorem formatAlone_of_paired {format : Text} (paired : PercentsPaired format) :
    ∃ shown, formatAlone format = .ok shown := by
  induction paired with
  | nil => exact ⟨[], rfl⟩
  | plain other paired ih =>
    obtain ⟨shown, done⟩ := ih
    exact ⟨_, by rw [formatAlone_plain other, done]; rfl⟩
  | pair paired ih =>
    obtain ⟨shown, done⟩ := ih
    exact ⟨_, by rw [formatAlone_pair, done]; rfl⟩

/-- The formats that are printed, and that every pair of percent signs makes the text
shorter. -/
theorem paired_of_formatAlone {format shown : Text} (done : formatAlone format = .ok shown) :
    PercentsPaired format ∧ shown.length ≤ format.length ∧
      ('%' ∈ format → shown.length < format.length) := by
  fun_induction formatAlone format generalizing shown with
  | case1 =>
    rw [← Except.ok.inj done]
    exact ⟨.nil, le_rfl, by simp⟩
  | case2 => cases done
  | case3 byte other =>
    rw [← Except.ok.inj done]
    refine ⟨.plain other .nil, le_rfl, ?_⟩
    intro inside
    exact absurd (List.mem_singleton.mp inside).symm other
  | case4 rest ih =>
    obtain ⟨later, inner, rfl⟩ := exists_of_map_ok done
    obtain ⟨paired, bound, -⟩ := ih inner
    refine ⟨.pair paired, ?_, ?_⟩
    · exact Nat.succ_le_succ (Nat.le_succ_of_le bound)
    · intro
      exact Nat.succ_lt_succ (Nat.lt_succ_of_le bound)
  | case5 => cases done
  | case6 byte next rest other ih =>
    obtain ⟨later, inner, rfl⟩ := exists_of_map_ok done
    obtain ⟨paired, bound, less⟩ := ih inner
    refine ⟨.plain other paired, Nat.succ_le_succ bound, ?_⟩
    intro inside
    rcases List.mem_cons.mp inside with same | deeper
    · exact absurd same.symm other
    · exact Nat.succ_lt_succ (less deeper)

theorem exists_formatAlone_iff {format : Text} :
    (∃ shown, formatAlone format = .ok shown) ↔ PercentsPaired format :=
  ⟨fun ⟨_, done⟩ => (paired_of_formatAlone done).1, formatAlone_of_paired⟩

theorem formatAlone_of_free {format : Text} (free : '%' ∉ format) :
    formatAlone format = .ok format := by
  induction format with
  | nil => rfl
  | cons byte rest ih =>
    rw [List.mem_cons, not_or] at free
    rw [formatAlone_plain (Ne.symm free.1), ih free.2]
    rfl

/-- Several formats and the texts that are printed for them. -/
def ShownAs (formats texts : List Text) : Prop :=
  List.Forall₂ (fun format text => formatAlone format = .ok text) formats texts

theorem ShownAs.length {formats texts : List Text} (shown : ShownAs formats texts) :
    texts.flatten.length ≤ formats.flatten.length ∧
      ('%' ∈ formats.flatten → texts.flatten.length < formats.flatten.length) := by
  induction shown with
  | nil => simp
  | @cons format text formats texts here later ih =>
    obtain ⟨-, bound, less⟩ := paired_of_formatAlone here
    simp only [List.flatten_cons, List.length_append, List.mem_append]
    refine ⟨Nat.add_le_add bound ih.1, ?_⟩
    rintro (inside | deeper)
    · exact Nat.add_lt_add_of_lt_of_le (less inside) ih.1
    · exact Nat.add_lt_add_of_le_of_lt bound (ih.2 deeper)

theorem shownAs_self {formats : List Text} (free : '%' ∉ formats.flatten) :
    ShownAs formats formats := by
  apply List.forall₂_same.mpr
  intro format member
  apply formatAlone_of_free
  intro inside
  exact free (List.mem_flatten.mpr ⟨format, member, inside⟩)

/-- However a text is cut into formats, it is printed as it is exactly if it has no
percent sign. -/
theorem exists_shownAs_iff {formats : List Text} :
    (∃ texts, ShownAs formats texts ∧ texts.flatten = formats.flatten) ↔
      '%' ∉ formats.flatten := by
  constructor
  · rintro ⟨texts, shown, same⟩ inside
    have shorter := shown.length.2 inside
    rw [same] at shorter
    exact shorter.false
  · intro free
    exact ⟨formats, shownAs_self free, rfl⟩

example : formatAlone "100%%".toList = .ok "100%".toList := by decide

example : formatAlone "50% off".toList = .error .missingArgument := by decide

end TwitterClone.Foundation
