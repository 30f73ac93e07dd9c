import TwitterClone.Foundation.Format
import TwitterClone.Notification.Queue
import TwitterClone.Utils.Strings

/-! The text in which a server sends a notification to a session, and how the client
reads it. The clock of the C library is left open. -/
namespace TwitterClone

open Foundation

namespace Notification

/-- The header, a line for each value. -/
def header (notification : Notification) : Text :=
  "id:".toList ++ (showInt notification.id ++ newline :: ("timestamp:".toList ++
    (showNat notification.timestamp ++ newline :: ("sender:".toList ++
      (notification.username ++ newline :: ("length:".toList ++
        showNat notification.message.length))))))

def serialize (notification : Notification) : Text :=
  notification.header ++ newline :: newline :: cString notification.message

end Notification

namespace Client

structure Notification where
  id : Int
  sender : Text
  date : Text
  message : Text
  deriving DecidableEq, Repr

/-- A write past the end of a buffer, or a use of a null pointer. -/
inductive Misuse where
  | bufferOverflow
  | nullPointer
  deriving DecidableEq, Repr

def minSizeUsername : Nat := 4

def maxSizeUsername : Nat := 20

/-- An empty name has a NUL for its first byte. -/
def usernameIsValid (username : Text) : Bool :=
  if username.head? = some '@' then
    minSizeUsername + 1 ≤ username.length && username.length ≤ maxSizeUsername + 1
  else false

/-- The buffer for the sender. -/
def senderBufferSize : Nat := 45

/-- The `sscanf` format up to the sender, and what is left behind it. -/
def scanSender (header : Text) : Option (Int × Nat × Text × Text) := do
  let header ← expect "id:".toList header
  let (id, header) ← scanInt header
  let header ← expect "timestamp:".toList (skipSpace header)
  let (timestamp, header) ← scanUnsigned header
  let header ← expect "sender:".toList (skipSpace header)
  let (senderBuff, header) ← scanWord header
  return (id, timestamp, senderBuff, header)

/-- The values that are used, if all four are read. The length is not one of them. -/
def scanHeader (header : Text) : Except Misuse (Option (Int × Nat × Text)) :=
  match scanSender header with
  | none => .ok none
  | some (id, timestamp, senderBuff, rest) =>
    if senderBufferSize ≤ senderBuff.length then .error .bufferOverflow
    else .ok (((expect "length:".toList (skipSpace rest)).bind scanInt).map
      fun _ => (id, timestamp, senderBuff))

/-- Conversion of a 64-bit unsigned number to `time_t`. -/
def timeT (timestamp : Nat) : Int := (BitVec.ofNat 64 timestamp).toInt

section Clock

variable {Moment : Type} (localtime : Int → Option Moment) (strftime : Moment → Text)

/-- `localtime` gives a null pointer for a time whose year is no int, and `strftime`
takes whatever it is given. -/
def beautifyTime (timestamp : Nat) : Except Misuse Text :=
  match localtime (timeT timestamp) with
  | none => .error .nullPointer
  | some timeinfo => .ok (strftime timeinfo)

/-- Nothing stands for `NULL`. -/
def deserialize (raw : Text) : Except Misuse (Option Notification) :=
  let (header, message) := splitFirst raw [newline, newline]
  match scanHeader (cString header) with
  | .error misuse => .error misuse
  | .ok none => .ok none
  | .ok (some (id, timestamp, senderBuff)) =>
    match beautifyTime localtime strftime timestamp with
    | .error misuse => .error misuse
    | .ok date => .ok (some { id, sender := senderBuff, date, message })

/-- What the consumer's loop adds to the feed for the payload of a `DATA` packet. -/
def consume (payload : Text) : Except Misuse Notification :=
  match deserialize localtime strftime payload with
  | .error misuse => .error misuse
  | .ok none => .error .nullPointer
  | .ok (some notification) => .ok notification

end Clock

section Reading

variable {notification : TwitterClone.Notification}

theorem Ink.newline_notMem {text : Text} (ink : Ink text) : newline ∉ text := by
  intro member
  have white := ink newline member
  cases white

/-- The first blank line is the one behind the header. -/
theorem splitFirst_serialize (ink : Ink notification.username)
    (message : nul ∉ notification.message) :
    splitFirst notification.serialize [newline, newline] =
      (notification.header, notification.message) := by
  have first : newline ∉ "id:".toList ++ showInt notification.id :=
    List.not_mem_append (by decide) (notMem_showInt rfl (by decide) _)
  have second : newline ∉ "timestamp:".toList ++ showNat notification.timestamp :=
    List.not_mem_append (by decide) (notMem_showNat rfl _)
  have third : newline ∉ "sender:".toList ++ notification.username :=
    List.not_mem_append (by decide) (Ink.newline_notMem ink)
  have fourth : newline ∉ "length:".toList ++ showNat notification.message.length :=
    List.not_mem_append (by decide) (notMem_showNat rfl _)
  have lines : notification.serialize = ("id:".toList ++ showInt notification.id) ++ newline ::
      (("timestamp:".toList ++ showNat notification.timestamp) ++ (newline ::
        (("sender:".toList ++ notification.username) ++ (newline ::
          (("length:".toList ++ showNat notification.message.length) ++
            (newline :: newline :: notification.message)))))) := by
    simp only [Notification.serialize, Notification.header, List.append_assoc, List.cons_append,
      cString_of_free message]
  have found : find [newline, newline] notification.serialize =
      some notification.header.length := by
    rw [lines, find_doubled_line _ first second (by simp),
      find_doubled_line _ second third (by simp), find_doubled_line _ third fourth (by simp),
      find_doubled _ fourth]
    simp only [Option.map_some, Option.some.injEq, Notification.header, List.length_append,
      List.length_cons]
    omega
  rw [Notification.serialize, cString_of_free message] at found ⊢
  exact splitFirst_of_find found

theorem nul_notMem_header (free : nul ∉ notification.username) : nul ∉ notification.header := by
  have sign : nul ≠ '-' := by decide
  have line : nul ≠ newline := by decide
  simp only [Notification.header, List.mem_append, List.mem_cons, not_or]
  exact ⟨by decide, notMem_showInt rfl sign _, line, by decide, notMem_showNat rfl _, line,
    by decide, free, line, by decide, notMem_showNat rfl _⟩

/-- A name without white space is read as it was written, like the numbers. -/
theorem scanHeader_header (short : notification.username.length < senderBufferSize)
    (nonempty : notification.username ≠ []) (ink : Ink notification.username)
    (id : IsInt notification.id) (timestamp : notification.timestamp < 2 ^ 64) :
    scanHeader notification.header =
      .ok (some (notification.id, notification.timestamp, notification.username)) := by
  have second := @expect_line "timestamp:".toList (by decide) (ink_of_all rfl)
  have third := @expect_line "sender:".toList (by decide) (ink_of_all rfl)
  have fourth := @expect_line "length:".toList (by decide) (ink_of_all rfl)
  have word : ∀ rest, scanWord (notification.username ++ newline :: rest) =
      some (notification.username, newline :: rest) := by
    intro rest
    refine scanWord_append nonempty ink ?_
    intro byte first
    exact Option.some.inj first ▸ rfl
  have front : scanSender notification.header = some (notification.id, notification.timestamp,
      notification.username, newline :: ("length:".toList ++
        showNat notification.message.length)) := by
    unfold scanSender Notification.header
    simp only [expect_append, second, third, word, scanInt_showInt id, scanUnsigned_showNat timestamp,
      stops_newline, Option.bind_eq_bind, Option.bind_some, Option.pure_def]
  obtain ⟨length, last⟩ : ∃ length,
      scanInt (showNat notification.message.length) = some (length, []) := by
    have scanned := scanNumeral_showNat notification.message.length stops_nil
    have skipped := @skipSpace_append _ [] (ink_showNat notification.message.length)
      (showNat_ne_nil notification.message.length)
    rw [List.append_nil] at scanned skipped
    exact ⟨_, scanInt_eq_some.mpr ⟨_, skipped ▸ scanned, rfl⟩⟩
  rw [scanHeader, front]
  dsimp only
  rw [if_neg (Nat.not_le.mpr short), fourth, Option.bind_some, last, Option.map_some]

end Reading

section Agreement

variable {Moment : Type} {localtime : Int → Option Moment} {strftime : Moment → Text}
  {notification : TwitterClone.Notification}

theorem deserialize_ink (valid : usernameIsValid notification.username = true)
    (text : nul ∉ notification.username) (ink : Ink notification.username)
    (id : IsInt notification.id) (timestamp : notification.timestamp < 2 ^ 64)
    (message : nul ∉ notification.message) :
    deserialize localtime strftime notification.serialize =
      match localtime (timeT notification.timestamp) with
      | none => .error .nullPointer
      | some timeinfo => .ok (some
          { id := notification.id, sender := notification.username, date := strftime timeinfo,
            message := notification.message }) := by
  have bounds : 5 ≤ notification.username.length ∧ notification.username.length ≤ 21 := by
    unfold usernameIsValid at valid
    split at valid
    next =>
      obtain ⟨long, short⟩ := Bool.and_eq_true_iff.mp valid
      exact ⟨of_decide_eq_true long, of_decide_eq_true short⟩
    next => cases valid
  have nonempty : notification.username ≠ [] := List.ne_nil_of_length_pos (by omega)
  have short : notification.username.length < senderBufferSize := by
    unfold senderBufferSize
    omega
  have read := scanHeader_header short nonempty ink id timestamp
  rw [deserialize, splitFirst_serialize ink message]
  dsimp only
  rw [cString_of_free (nul_notMem_header text), read]
  dsimp only
  rw [beautifyTime]
  cases localtime (timeT notification.timestamp) with
  | none => rfl
  | some timeinfo => rfl

theorem ink_of_scanSender {header senderBuff rest : Text} {id : Int} {timestamp : Nat}
    (scanned : scanSender header = some (id, timestamp, senderBuff, rest)) : Ink senderBuff := by
  simp only [scanSender, Option.bind_eq_bind, Option.bind_eq_some_iff, Option.pure_def,
    Option.some.injEq, Prod.exists, Prod.mk.injEq] at scanned
  obtain ⟨_, -, _, _, -, _, -, _, _, -, _, -, word, _, read, -, -, rfl, -⟩ := scanned
  obtain ⟨spaces, -, -, -, ink, -⟩ := scanWord_eq_some.mp read
  exact ink

/-- The sender that the client reads is one word. -/
theorem ink_of_deserialize {raw : Text} {received : Notification}
    (read : deserialize localtime strftime raw = .ok (some received)) : Ink received.sender := by
  unfold deserialize at read
  dsimp only at read
  split at read
  next => cases read
  next => cases read
  next id timestamp senderBuff scanned =>
    have ink : Ink senderBuff := by
      unfold scanHeader at scanned
      split at scanned
      next => cases scanned
      next first second word rest front =>
        split at scanned
        next => cases scanned
        next =>
          obtain ⟨_, -, same⟩ := Option.map_eq_some_iff.mp (Except.ok.inj scanned)
          cases same
          exact ink_of_scanSender front
    split at read
    next => cases read
    next date known =>
      cases read
      exact ink

/-- The client reads the notification that the server wrote, exactly when the sender's name
has no white space and the client's clock knows the time. -/
theorem agrees_iff (localtime : Int → Option Moment) (strftime : Moment → Text)
    (notification : TwitterClone.Notification)
    (valid : usernameIsValid notification.username = true) (text : nul ∉ notification.username)
    (id : IsInt notification.id) (timestamp : notification.timestamp < 2 ^ 64)
    (message : nul ∉ notification.message) :
    (∃ received, deserialize localtime strftime notification.serialize = .ok (some received) ∧
      received.id = notification.id ∧ received.sender = notification.username ∧
      received.message = notification.message) ↔
    (∀ byte ∈ notification.username, isSpace byte = false) ∧
      (localtime (timeT notification.timestamp)).isSome = true := by
  constructor
  · rintro ⟨received, read, -, sender, -⟩
    have ink : Ink notification.username := sender ▸ ink_of_deserialize read
    refine ⟨ink, ?_⟩
    rw [deserialize_ink valid text ink id timestamp message] at read
    cases known : localtime (timeT notification.timestamp) with
    | none =>
      rw [known] at read
      cases read
    | some timeinfo => rfl
  · rintro ⟨ink, known⟩
    obtain ⟨timeinfo, found⟩ := Option.isSome_iff_exists.mp known
    have read := @deserialize_ink _ localtime strftime _ valid text ink id timestamp message
    rw [found] at read
    exact ⟨_, read, rfl, rfl, rfl⟩

/-- Half a minute into the epoch, in a time zone without an offset. -/
def epoch (seconds : Int) : Option Unit := if seconds = 30 then some () else none

def epochText (_ : Unit) : Text := "01 Jan 1970 at 00:00:30".toList

/-- A message with a blank line in it. -/
def twoParagraphs : TwitterClone.Notification :=
  ⟨7, 30, "@anna".toList, 1, "one\n\ntwo".toList⟩

theorem agrees_twoParagraphs :
    ∃ received, deserialize epoch epochText twoParagraphs.serialize = .ok (some received) ∧
      received.id = twoParagraphs.id ∧ received.sender = twoParagraphs.username ∧
      received.message = twoParagraphs.message :=
  (agrees_iff epoch epochText twoParagraphs (by decide +kernel) (by decide +kernel)
    (by decide +kernel) (by decide +kernel) (by decide +kernel)).mpr
    ⟨ink_of_all (by decide +kernel), by decide +kernel⟩

/-- A valid name with blanks, which the server takes and writes as it is. -/
def spacedName : TwitterClone.Notification :=
  ⟨7, 30, "@a b c".toList, 1, "hello".toList⟩

/-- The client finds no notification in it, and its consumer uses the null pointer. -/
theorem not_agrees_spacedName :
    usernameIsValid spacedName.username = true ∧
      deserialize epoch epochText spacedName.serialize = .ok none ∧
      consume epoch epochText spacedName.serialize = .error .nullPointer ∧
    ¬ ∃ received, deserialize epoch epochText spacedName.serialize = .ok (some received) ∧
      received.id = spacedName.id ∧ received.sender = spacedName.username ∧
      received.message = spacedName.message := by
  have nothing : deserialize epoch epochText spacedName.serialize = .ok none := by
    decide +kernel
  refine ⟨by decide +kernel, nothing, by decide +kernel, ?_⟩
  rintro ⟨received, read, -⟩
  rw [nothing] at read
  cases read

end Agreement

end Client

end TwitterClone
