import Mathlib

/-! Byte strings, and what can go wrong in code that handles them. A character
stands for the byte of the same code, so a result about every text covers every
byte string. -/
namespace TwitterClone.Foundation

abbrev Text := List Char

/-- An exception, or behaviour the language leaves undefined. -/
inductive Fault where
  | invalidArgument
  | outOfRange
  | bufferSize (size : Int)
  | bufferOverflow
  | stackOverflow
  | uninitialized
  | badIndex
  deriving DecidableEq, Repr

def nul : Char := Char.ofNat 0

def newline : Char := '\n'

/-- `isspace` in the default locale. -/
def isSpace (byte : Char) : Bool := byte.toNat == 32 || (9 ≤ byte.toNat && byte.toNat ≤ 13)

/-- The string that a terminated buffer is read as. -/
def cString (bytes : Text) : Text := bytes.takeWhile (· ≠ nul)

theorem takeWhile_append_of_stop {Item : Type} {keep : Item → Bool} {first second : List Item}
    (kept : ∀ item ∈ first, keep item = true) (stops : ∀ item ∈ second.head?, keep item = false) :
    (first ++ second).takeWhile keep = first ∧ (first ++ second).dropWhile keep = second := by
  induction first with
  | nil =>
    cases second with
    | nil => exact ⟨rfl, rfl⟩
    | cons item rest =>
      have stopped : keep item = false := stops item rfl
      simp [stopped]
  | cons item rest ih =>
    have more := ih fun other member => kept other (List.mem_cons_of_mem item member)
    have here := kept item List.mem_cons_self
    simp [here, more]

theorem cString_of_free {bytes : Text} (free : nul ∉ bytes) : cString bytes = bytes := by
  rw [cString, List.takeWhile_eq_self_iff]
  intro byte member
  simpa using fun same : byte = nul => free (same ▸ member)

theorem nul_notMem_cString (bytes : Text) : nul ∉ cString bytes := by
  intro member
  have kept := List.mem_takeWhile_imp member
  simp at kept

end TwitterClone.Foundation
