import TwitterClone.Foundation.Text

/-! What the keys that are hit in an editor for one line mean: the lines that they complete,
and what is left of the last one. -/
namespace TwitterClone.Foundation

inductive EditorKey where
  | enter
  | letter (byte : Char)
  | erase
  | idle
  deriving DecidableEq, Repr

namespace LineEditor

/-- A letter that has no room is lost. -/
def edit (room : Nat) (line : Text) : EditorKey → Text
  | .letter byte => if line.length < room then line ++ [byte] else line
  | .erase => line.dropLast
  | .enter | .idle => line

/-- The lines that were completed, and the one that was not. -/
def typed (room : Nat) : (line : Text) → List EditorKey → List Text × Text
  | line, [] => ([], line)
  | line, key :: rest =>
    if key = .enter then (line :: (typed room [] rest).1, (typed room [] rest).2)
    else typed room (edit room line key) rest

variable {room : Nat}

/-- Keys that are hit later go on with what was left. -/
theorem typed_append (line : Text) (first second : List EditorKey) :
    typed room line (first ++ second) =
      ((typed room line first).1 ++ (typed room (typed room line first).2 second).1,
        (typed room (typed room line first).2 second).2) := by
  induction first generalizing line with
  | nil => rfl
  | cons key rest ih =>
    rw [List.cons_append, typed, typed]
    by_cases ends : key = .enter
    · rw [if_pos ends, if_pos ends, ih]
      rfl
    · rw [if_neg ends, if_neg ends, ih]

end LineEditor

end TwitterClone.Foundation
