import TwitterClone.Foundation.Word

/-! A loop over the elements of a vector whose counter has 32 bits while the size of the
vector has more: `for (unsigned i = start; i < items.size(); i++)`. -/
namespace TwitterClone.Foundation

universe u v

variable {Item : Type u} {State : Type v}

/-- The loop with a bound on its turns, and nothing while they do not suffice. -/
def countedLoop (body : State → Item → State) (items : List Item) :
    (turns i : Nat) → State → Option State
  | 0, _, _ => none
  | turns + 1, i, state =>
    if inside : i < items.length then
      countedLoop body items turns (uint32 (i + 1)) (body state items[i])
    else some state

/-- The loop ends, with this state. -/
def LoopEnds (body : State → Item → State) (items : List Item) (i : Nat) (state final : State) :
    Prop :=
  ∃ turns, countedLoop body items turns i state = some final

variable {body : State → Item → State} {items : List Item}

/-- Elements that the counter can number are taken one after the other. -/
theorem countedLoop_of_short (short : items.length < 2 ^ 32) (turns i : Nat) (state : State)
    (start : i ≤ items.length) (enough : items.length - i < turns) :
    countedLoop body items turns i state = some ((items.drop i).foldl body state) := by
  induction turns generalizing i state with
  | zero => omega
  | succ turns ih =>
    unfold countedLoop
    by_cases inside : i < items.length
    · have next : uint32 (i + 1) = i + 1 := Nat.mod_eq_of_lt (by omega)
      rw [dif_pos inside, next, ih _ _ (by omega) (by omega), List.drop_eq_getElem_cons inside,
        List.foldl_cons]
    · rw [dif_neg inside, List.drop_of_length_le (by omega)]
      rfl

/-- With more elements the counter comes round before the end. -/
theorem countedLoop_of_long (long : 2 ^ 32 ≤ items.length) (turns i : Nat) (state : State)
    (word : i < 2 ^ 32) : countedLoop body items turns i state = none := by
  induction turns generalizing i state with
  | zero => rfl
  | succ turns ih =>
    have next : uint32 (i + 1) < 2 ^ 32 := Nat.mod_lt _ (by decide)
    rw [countedLoop, dif_pos (by omega)]
    exact ih _ _ next

theorem loopEnds_iff {i : Nat} (start : i ≤ items.length) (word : i < 2 ^ 32)
    (state final : State) :
    LoopEnds body items i state final ↔
      items.length < 2 ^ 32 ∧ (items.drop i).foldl body state = final := by
  constructor
  · rintro ⟨turns, ended⟩
    have short : items.length < 2 ^ 32 := by
      by_contra long
      rw [countedLoop_of_long (by omega) turns i state word] at ended
      cases ended
    refine ⟨short, ?_⟩
    induction turns generalizing i state with
    | zero => cases ended
    | succ turns ih =>
      unfold countedLoop at ended
      by_cases inside : i < items.length
      · have next : uint32 (i + 1) = i + 1 := Nat.mod_eq_of_lt (by omega)
        rw [dif_pos inside, next] at ended
        rw [List.drop_eq_getElem_cons inside, List.foldl_cons]
        exact ih (by omega) (by omega) _ ended
      · rw [dif_neg inside] at ended
        rw [List.drop_of_length_le (by omega)]
        exact Option.some.inj ended
  · rintro ⟨short, rfl⟩
    exact ⟨items.length - i + 1, countedLoop_of_short short _ i state start (Nat.lt_succ_self _)⟩

end TwitterClone.Foundation
