import Mathlib

/-! Binary search in a sorted list. As with forward iterators, a position is the
list from it on, and a range is a position and a length. -/
namespace TwitterClone.Foundation

universe u

variable {Item : Type u} [LinearOrder Item]

/-- Halve the range at the front of the list until nothing is left of it. -/
def lowerBoundWithin (key : Item) : (fuel length : Nat) → List Item → List Item
  | 0, _, items => items
  | fuel + 1, length, items =>
    if length = 0 then items
    else
      let half := length / 2
      match items.drop half with
      | [] => items
      | middle :: after =>
        if middle < key then lowerBoundWithin key fuel (length - half - 1) after
        else lowerBoundWithin key fuel half items

/-- The position of the first item that is not below the key. -/
def lowerBound (key : Item) (items : List Item) : List Item :=
  lowerBoundWithin key items.length items.length items

def binarySearch (key : Item) (items : List Item) : Bool :=
  match lowerBound key items with
  | [] => false
  | item :: _ => decide (¬ key < item)

variable {key : Item} {items : List Item}

theorem dropWhile_of_above (above : ∀ item ∈ items, key ≤ item) :
    items.dropWhile (· < key) = items := by
  cases items with
  | nil => rfl
  | cons item rest =>
    have here : ¬ item < key := not_lt.mpr (above item List.mem_cons_self)
    simp [here]

theorem dropWhile_of_below {first second : List Item} (below : ∀ item ∈ first, item < key) :
    (first ++ second).dropWhile (· < key) = second.dropWhile (· < key) := by
  induction first with
  | nil => rfl
  | cons item rest ih =>
    have here := below item List.mem_cons_self
    simpa [here] using ih fun other member => below other (List.mem_cons_of_mem item member)

/-- Where the list is sorted and nothing behind the range is below the key,
enough halvings find the end of the items below it. -/
theorem lowerBoundWithin_eq (fuel length : Nat) (enough : length ≤ fuel)
    (fits : length ≤ items.length) (sorted : items.Pairwise (· ≤ ·))
    (above : ∀ item ∈ items.drop length, key ≤ item) :
    lowerBoundWithin key fuel length items = items.dropWhile (· < key) := by
  induction fuel generalizing length items with
  | zero =>
    obtain rfl : length = 0 := Nat.le_zero.mp enough
    exact (dropWhile_of_above above).symm
  | succ fuel ih =>
    rw [lowerBoundWithin]
    split
    next nothing =>
      subst nothing
      exact (dropWhile_of_above above).symm
    next left =>
      have whole := List.take_append_drop (length / 2) items
      dsimp only
      cases upper : items.drop (length / 2) with
      | nil =>
        have past := List.drop_eq_nil_iff.mp upper
        omega
      | cons middle after =>
        rw [upper] at whole
        obtain ⟨-, sortedUpper, lowerFirst⟩ := List.pairwise_append.mp (whole ▸ sorted)
        obtain ⟨middleFirst, sortedAfter⟩ := List.pairwise_cons.mp sortedUpper
        have sizes := congrArg List.length upper
        rw [List.length_drop, List.length_cons] at sizes
        dsimp only
        split
        next below =>
          -- everything up to the middle is dropped
          have dropped : items.dropWhile (· < key) = after.dropWhile (· < key) := by
            rw [← whole, List.append_cons]
            refine dropWhile_of_below ?_
            intro item member
            rcases List.mem_append.mp member with inLower | isMiddle
            · exact (lowerFirst item inLower middle List.mem_cons_self).trans_lt below
            · exact List.mem_singleton.mp isMiddle ▸ below
          rw [dropped]
          refine ih _ (by omega) (by omega) sortedAfter ?_
          intro item member
          refine above item ?_
          have behind : items.drop length = after.drop (length - length / 2 - 1) := by
            rw [show length = length / 2 + (length - length / 2 - 1 + 1) by omega,
              ← List.drop_drop, upper, List.drop_succ_cons]
            congr 1
            omega
          exact behind ▸ member
        next notBelow =>
          refine ih _ (by omega) (by omega) sorted ?_
          intro item member
          rw [upper] at member
          rcases List.mem_cons.mp member with isMiddle | inAfter
          · exact isMiddle ▸ not_lt.mp notBelow
          · exact (not_lt.mp notBelow).trans (middleFirst item inAfter)

/-- In a sorted list the search finds exactly the members. -/
theorem binarySearch_iff_mem (sorted : items.Pairwise (· ≤ ·)) :
    binarySearch key items = true ↔ key ∈ items := by
  have found : lowerBound key items = items.dropWhile (· < key) :=
    lowerBoundWithin_eq _ _ le_rfl le_rfl sorted (by simp)
  have whole := List.takeWhile_append_dropWhile (p := (· < key)) (l := items)
  rw [binarySearch, found]
  cases upper : items.dropWhile (· < key) with
  | nil =>
    rw [List.dropWhile_eq_nil_iff] at upper
    have absent : key ∉ items := fun member => lt_irrefl key (by simpa using upper key member)
    simp [absent]
  | cons item rest =>
    rw [upper] at whole
    obtain ⟨-, sortedUpper, -⟩ := List.pairwise_append.mp (whole ▸ sorted)
    have first := (List.pairwise_cons.mp sortedUpper).1
    have notBelow : key ≤ item := by
      have head := List.head_dropWhile_not (· < key) (l := items) (by simp [upper])
      simpa [upper] using head
    have below : key ∉ items.takeWhile (· < key) := fun member => by
      simpa using List.mem_takeWhile_imp member
    have above : key ∈ items ↔ key ∈ item :: rest := by
      conv_lhs => rw [← whole, List.mem_append, or_iff_right below]
    simp only [decide_eq_true_eq, not_lt, above, List.mem_cons]
    constructor
    · exact fun reached => .inl (le_antisymm notBelow reached)
    · rintro (same | later)
      · exact same ▸ le_rfl
      · exact first key later

end TwitterClone.Foundation
