import TwitterClone.Foundation.Text

/-! Cutting a text into chunks of one length, the last one shorter. -/
namespace TwitterClone

open Foundation

/-- The loop of `splitByLength`, as what it adds, with a bound on its turns. Every turn
takes some bytes away unless the length is zero: `splitByLength_turns`. -/
def splitByLengthTurns (length : Nat) : (turns : Nat) → (buff : Text) → List Text
  | 0, _ => []
  | turns + 1, buff =>
    if buff.length > length then
      let buff := buff.drop length
      buff.take length :: splitByLengthTurns length turns buff
    else []

/-- An empty text has one empty chunk. -/
def splitByLength (length : Nat) (s : Text) : List Text :=
  s.take length :: splitByLengthTurns length s.length s

variable {length : Nat}

private theorem splitByLengthTurns_bound (positive : 0 < length) (turns more : Nat)
    (buff : Text) (enough : buff.length ≤ turns) (enoughToo : buff.length ≤ more) :
    splitByLengthTurns length turns buff = splitByLengthTurns length more buff := by
  induction turns generalizing more buff with
  | zero =>
    cases more with
    | zero => rfl
    | succ more => rw [splitByLengthTurns, splitByLengthTurns, if_neg (by omega)]
  | succ turns ih =>
    cases more with
    | zero => rw [splitByLengthTurns, splitByLengthTurns, if_neg (by omega)]
    | succ more =>
      have shorter : (buff.drop length).length = buff.length - length := List.length_drop
      rw [splitByLengthTurns, splitByLengthTurns]
      by_cases long : buff.length > length
      · rw [if_pos long, if_pos long]
        dsimp only
        rw [ih more _ (by omega) (by omega)]
      · rw [if_neg long, if_neg long]

/-- More turns than the text has bytes make no difference. -/
theorem splitByLength_turns (positive : 0 < length) (turns : Nat) (s : Text)
    (enough : s.length ≤ turns) :
    s.take length :: splitByLengthTurns length turns s = splitByLength length s := by
  rw [splitByLength, splitByLengthTurns_bound positive turns s.length s enough le_rfl]

theorem splitByLength_of_short {s : Text} (short : s.length ≤ length) :
    splitByLength length s = [s] := by
  rw [splitByLength, List.take_of_length_le short]
  cases s.length with
  | zero => rfl
  | succ turns => rw [splitByLengthTurns, if_neg (by omega)]

theorem splitByLength_of_long (positive : 0 < length) {s : Text} (long : length < s.length) :
    splitByLength length s = s.take length :: splitByLength length (s.drop length) := by
  have shorter : (s.drop length).length ≤ s.length := by
    rw [List.length_drop]
    omega
  rw [← splitByLength_turns positive (s.length + 1) s (Nat.le_succ _), splitByLengthTurns,
    if_pos long, splitByLength_turns positive s.length _ shorter]

/-- What `splitByLength` does, turn by turn, is an induction over the text. -/
@[elab_as_elim]
theorem splitByLength_induction (positive : 0 < length) {motive : Text → Prop}
    (short : ∀ s, s.length ≤ length → motive s)
    (long : ∀ s, length < s.length → motive (s.drop length) → motive s) (s : Text) :
    motive s := by
  by_cases fits : s.length ≤ length
  · exact short s fits
  · exact long s (by omega) (splitByLength_induction positive short long _)
termination_by s.length
decreasing_by
  rw [List.length_drop]
  omega

theorem flatten_splitByLength (positive : 0 < length) (s : Text) :
    (splitByLength length s).flatten = s := by
  induction s using splitByLength_induction positive with
  | short s fits => simp [splitByLength_of_short fits]
  | long s long ih =>
    rw [splitByLength_of_long positive long, List.flatten_cons, ih, List.take_append_drop]

/-- The quotient of the lengths rounded up, but one chunk at least. -/
theorem length_splitByLength (positive : 0 < length) (s : Text) :
    (splitByLength length s).length = (s.length - 1) / length + 1 := by
  induction s using splitByLength_induction positive with
  | short s fits =>
    rw [splitByLength_of_short fits, Nat.div_eq_of_lt (by omega)]
    rfl
  | long s long ih =>
    rw [splitByLength_of_long positive long, List.length_cons, ih, List.length_drop,
      Nat.sub_right_comm, Nat.div_eq_sub_div positive (show length ≤ s.length - 1 by omega)]

theorem length_le_of_mem_splitByLength (positive : 0 < length) {s part : Text}
    (member : part ∈ splitByLength length s) : part.length ≤ length := by
  induction s using splitByLength_induction positive with
  | short s fits =>
    rw [splitByLength_of_short fits] at member
    exact List.mem_singleton.mp member ▸ fits
  | long s long ih =>
    rw [splitByLength_of_long positive long] at member
    rcases List.mem_cons.mp member with rfl | later
    · exact List.length_take_le _ _
    · exact ih later

end TwitterClone
