import TwitterClone.Foundation.CountedLoop
import TwitterClone.Foundation.Occurrences
import TwitterClone.Utils.Strings

/-! Splitting and joining turn by turn: both give back what the other made, as long as
the loops end. -/
namespace TwitterClone

open Foundation

/-- The loop of `split`, without a result while its turns do not suffice. -/
def splitLoop (delimiter : Text) : (turns : Nat) → (strCopy : Text) → (parts : List Text) →
    Option (List Text)
  | 0, _, _ => none
  | turns + 1, strCopy, parts =>
    match find delimiter strCopy with
    | some pos => splitLoop delimiter turns (strCopy.drop (pos + delimiter.length))
        (parts ++ [strCopy.take pos])
    | none => some (parts ++ [strCopy])

/-- `split` ends, with these parts. -/
def Splits (str delimiter : Text) (parts : List Text) : Prop :=
  ∃ turns, splitLoop delimiter turns str [] = some parts

/-- The counter of the loop is an `unsigned int`. -/
def joinStringVector (turns : Nat) (vec : List Text) (delimiter : Text) : Option Text :=
  match vec with
  | [] => some []
  | first :: _ =>
    countedLoop (fun string part => string ++ (delimiter ++ part)) vec turns 1 first

/-- `joinStringVector` ends, with this text. -/
def Joins (vec : List Text) (delimiter string : Text) : Prop :=
  ∃ turns, joinStringVector turns vec delimiter = some string

/-- The text so far, and whether the part is the first. -/
def appendPart (delimiter : Text) (string : Text × Bool) (part : Text) : Text × Bool :=
  if string.2 then (string.1 ++ part, false) else (string.1 ++ (delimiter ++ part), false)

/-- The loop goes over the list itself and has no counter. -/
def joinStringList (list : List Text) (delimiter : Text) : Text :=
  if list.length < 1 then [] else (list.foldl (appendPart delimiter) ([], true)).1

/-- The text comes apart into parts that lack the delimiter, and the parts are joined to
the text again. -/
def SplitJoins (str delimiter : Text) : Prop :=
  ∃ parts, Splits str delimiter parts ∧ parts ≠ [] ∧
    (∀ part ∈ parts, ¬ delimiter <:+: part) ∧ Joins parts delimiter str

/-- Both ways of joining the list give a text that is split into the list. -/
def JoinSplits (list : List Text) (delimiter : Char) : Prop :=
  Splits (joinStringList list [delimiter]) [delimiter] list ∧
    ∃ string, Joins list [delimiter] string ∧ Splits string [delimiter] list

section Loops

variable {delimiter : Text}

theorem splitLoop_eq_some (nonempty : delimiter ≠ []) {turns : Nat} {strCopy : Text}
    {parts whole : List Text} (ended : splitLoop delimiter turns strCopy parts = some whole) :
    whole = parts ++ split strCopy delimiter := by
  induction turns generalizing strCopy parts with
  | zero => cases ended
  | succ turns ih =>
    unfold splitLoop at ended
    cases found : find delimiter strCopy with
    | none =>
      rw [split_of_none nonempty found]
      simpa [found] using ended.symm
    | some pos =>
      simp only [found] at ended
      rw [ih ended, split_of_find nonempty found, List.append_assoc, List.singleton_append]

/-- Every turn takes a delimiter away, so there is a last one. -/
theorem exists_splitLoop (nonempty : delimiter ≠ []) (str : Text) (parts : List Text) :
    ∃ turns, splitLoop delimiter turns str parts = some (parts ++ split str delimiter) := by
  induction str using split_induction nonempty generalizing parts with
  | whole strCopy none =>
    refine ⟨1, ?_⟩
    rw [splitLoop, none, split_of_none nonempty none]
  | cut strCopy pos found ih =>
    obtain ⟨turns, ended⟩ := ih (parts ++ [strCopy.take pos])
    refine ⟨turns + 1, ?_⟩
    simp only [splitLoop, found]
    rw [ended, split_of_find nonempty found, List.append_assoc, List.singleton_append]

theorem splits_iff (nonempty : delimiter ≠ []) {str : Text} {parts : List Text} :
    Splits str delimiter parts ↔ split str delimiter = parts := by
  constructor
  · rintro ⟨turns, ended⟩
    simpa using (splitLoop_eq_some nonempty ended).symm
  · rintro rfl
    exact exists_splitLoop nonempty str []

theorem joins_iff {vec : List Text} {string : Text} :
    Joins vec delimiter string ↔ vec.length < 2 ^ 32 ∧ joinStrings delimiter vec = string := by
  cases vec with
  | nil => simp [Joins, joinStringVector, joinStrings]
  | cons first rest =>
    have ends := @loopEnds_iff _ _ (fun string part => string ++ (delimiter ++ part))
      (first :: rest) 1 (by simp) (by decide) first string
    rw [List.drop_one, List.tail_cons, List.foldl_append_eq_append] at ends
    rw [joinStrings, List.flatMap_def]
    exact ends

theorem foldl_appendPart (rest : List Text) (string : Text) :
    rest.foldl (appendPart delimiter) (string, false) =
      (string ++ rest.flatMap (delimiter ++ ·), false) := by
  induction rest generalizing string with
  | nil => simp
  | cons part rest ih =>
    rw [List.foldl_cons, appendPart, if_neg Bool.false_ne_true, ih, List.flatMap_cons,
      List.append_assoc]

/-- The list is joined however long it is. -/
theorem joinStringList_eq (list : List Text) :
    joinStringList list delimiter = joinStrings delimiter list := by
  cases list with
  | nil => rfl
  | cons first rest =>
    rw [joinStringList, if_neg (by simp), List.foldl_cons, appendPart, if_pos rfl,
      foldl_appendPart]
    rfl

theorem length_split (nonempty : delimiter ≠ []) (str : Text) :
    (split str delimiter).length = occurrences delimiter str + 1 := by
  induction str using split_induction nonempty with
  | whole strCopy none =>
    rw [split_of_none nonempty none, occurrences_of_none none]
    rfl
  | cut strCopy pos found ih =>
    rw [split_of_find nonempty found, occurrences_of_find nonempty found, List.length_cons, ih]

theorem splitJoins_iff (nonempty : delimiter ≠ []) (str : Text) :
    SplitJoins str delimiter ↔ occurrences delimiter str + 1 < 2 ^ 32 := by
  rw [← length_split nonempty]
  constructor
  · rintro ⟨parts, splits, -, -, joins⟩
    rw [(splits_iff nonempty).mp splits]
    exact (joins_iff.mp joins).1
  · intro few
    refine ⟨_, (splits_iff nonempty).mpr rfl, split_ne_nil _ _, ?_, ?_⟩
    · intro part member
      exact not_infix_of_mem_split nonempty member
    · exact joins_iff.mpr ⟨few, joinStrings_split_of_ne_nil str nonempty⟩

end Loops

theorem joinSplits_iff {list : List Text} {delimiter : Char} (nonempty : list ≠ [])
    (free : ∀ part ∈ list, delimiter ∉ part) :
    JoinSplits list delimiter ↔ list.length < 2 ^ 32 := by
  have apart := (splits_iff (List.cons_ne_nil delimiter [])).mpr (split_joinStrings nonempty free)
  constructor
  · rintro ⟨-, string, joins, -⟩
    exact (joins_iff.mp joins).1
  · intro few
    exact ⟨by rwa [joinStringList_eq], _, joins_iff.mpr ⟨few, rfl⟩, apart⟩

/-- Splitting and joining are inverse exactly where the counter of `joinStringVector` can
number all parts. -/
theorem inverse_iff (str delimiter : Text) (some : delimiter ≠ []) (list : List Text)
    (byte : Char) (nonempty : list ≠ []) (free : ∀ part ∈ list, byte ∉ part) :
    (SplitJoins str delimiter ↔ occurrences delimiter str + 1 < 2 ^ 32) ∧
      (JoinSplits list byte ↔ list.length < 2 ^ 32) :=
  ⟨splitJoins_iff some str, joinSplits_iff nonempty free⟩

/-- A delimiter that overlaps itself, and empty parts at both ends. -/
theorem inverse_overlapping :
    (SplitJoins "aaa,aa".toList "aa".toList ↔
        occurrences "aa".toList "aaa,aa".toList + 1 < 2 ^ 32) ∧
      (JoinSplits [[], "b".toList, []] ',' ↔ [[], "b".toList, []].length < 2 ^ 32) :=
  inverse_iff _ _ (by decide) _ _ (by decide) (by decide)

/-- A text of delimiters only: its parts are too many for the counter. -/
theorem not_splitJoins_commas : ¬ SplitJoins (List.replicate (2 ^ 32 - 1) ',') [','] := by
  rw [splitJoins_iff (by decide), occurrences_replicate]
  decide

end TwitterClone
