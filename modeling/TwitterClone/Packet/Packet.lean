import TwitterClone.Foundation.Scan
import TwitterClone.Utils.Strings

/-! Packets and their text format: a size field of ten digits, a header of four
lines, a blank line and the payload. -/
namespace TwitterClone

open Foundation

inductive PacketType where
  | ack
  | answer
  | isAlive
  | serverDown
  | newReplica
  | replicas
  | newLeader
  | election
  | coordinator
  | updateProfile
  | updateNotification
  | data
  | send
  | login
  | follow
  | success
  | error
  | close
  | noType
  deriving DecidableEq, Repr

structure Packet where
  length : Int
  type : PacketType
  sequenceNumber : Int
  timestamp : Nat
  payload : Text
  deriving DecidableEq, Repr

namespace Packet

def sizeFieldLength : Nat := 10

def typeToString : PacketType → Text
  | .answer => "ANSWER".toList
  | .ack => "ACK".toList
  | .newReplica => "NEW_REPLICA".toList
  | .replicas => "REPLICAS".toList
  | .isAlive => "IS_ALIVE".toList
  | .serverDown => "SERVER_DOWN".toList
  | .election => "ELECTION".toList
  | .newLeader => "NEW_LEADER".toList
  | .coordinator => "COORDINATOR".toList
  | .updateProfile => "UPDATE_PROFILE".toList
  | .updateNotification => "UPDATE_NOTIFICATION".toList
  | .send => "SEND".toList
  | .follow => "FOLLOW".toList
  | .login => "LOGIN".toList
  | .success => "SUCCESS".toList
  | .error => "ERROR".toList
  | .data => "DATA".toList
  | .close => "CLOSE".toList
  | .noType => "NO_TYPE".toList

def stringToType (s : Text) : PacketType :=
  if s = "ACK".toList then .ack
  else if s = "ANSWER".toList then .answer
  else if s = "NEW_REPLICA".toList then .newReplica
  else if s = "REPLICAS".toList then .replicas
  else if s = "IS_ALIVE".toList then .isAlive
  else if s = "SERVER_DOWN".toList then .serverDown
  else if s = "ELECTION".toList then .election
  else if s = "NEW_LEADER".toList then .newLeader
  else if s = "COORDINATOR".toList then .coordinator
  else if s = "UPDATE_PROFILE".toList then .updateProfile
  else if s = "UPDATE_NOTIFICATION".toList then .updateNotification
  else if s = "SEND".toList then .send
  else if s = "FOLLOW".toList then .follow
  else if s = "LOGIN".toList then .login
  else if s = "SUCCESS".toList then .success
  else if s = "ERROR".toList then .error
  else if s = "DATA".toList then .data
  else if s = "CLOSE".toList then .close
  else .noType

/-- The constructor for outgoing packets; `now` is the clock. -/
def ofPayload (now : Nat) (type : PacketType) (payload : Text) : Packet where
  length := int32 (cString payload).length
  type := type
  sequenceNumber := -1
  timestamp := now
  payload := cString payload

/-- The header behind the type: one line for each number. -/
def numberLines (packet : Packet) : Text :=
  newline :: ("timestamp:".toList ++ (showNat packet.timestamp ++
    newline :: ("sequenceNumber:".toList ++ (showInt packet.sequenceNumber ++
      newline :: ("length:".toList ++ showInt packet.length)))))

def header (packet : Packet) : Text :=
  "type:".toList ++ (typeToString packet.type ++ packet.numberLines)

/-- The packet behind its size field. -/
def body (packet : Packet) : Text := packet.header ++ newline :: newline :: packet.payload

def serialize (packet : Packet) : Text :=
  padded sizeFieldLength (uint32 packet.body.length) ++ packet.body

/-- The rest of the `sscanf` format after the type; a line end in the format
skips any white space. -/
def scanNumbers (header : Text) : Option (Nat × Int × Int) := do
  let header ← expect "timestamp:".toList (skipSpace header)
  let (timestamp, header) ← scanUnsigned header
  let header ← expect "sequenceNumber:".toList (skipSpace header)
  let (sequenceNumber, header) ← scanInt header
  let header ← expect "length:".toList (skipSpace header)
  let (length, _) ← scanInt header
  return (timestamp, sequenceNumber, length)

/-- The buffer for the type. -/
def typeBufferSize : Nat := 30

/-- The header's four values, if `sscanf` reads all of them. -/
def scanHeader (header : Text) : Except Fault (Option (Text × Nat × Int × Int)) :=
  match (expect "type:".toList header).bind scanWord with
  | none => .ok none
  | some (typeBuffer, rest) =>
    if typeBufferSize ≤ typeBuffer.length then .error .bufferOverflow
    else .ok ((scanNumbers rest).map fun numbers => (typeBuffer, numbers))

def badRequest (now : Nat) : Packet :=
  ofPayload now .noType "Unable to parse. Bad request.".toList

/-- `splitFirst` always returns two parts, so the test of their number is gone. -/
def deserialize (now : Nat) (rawData : Text) : Except Fault Packet :=
  let strData := (cString rawData).drop sizeFieldLength
  let (header, payload) := splitFirst strData [newline, newline]
  match scanHeader (cString header) with
  | .error fault => .error fault
  | .ok (some (typeBuffer, timestamp, sequenceNumber, length)) =>
    .ok { length, type := stringToType typeBuffer, sequenceNumber, timestamp,
          payload := cString payload }
  | .ok none => .ok (badRequest now)

/-- The values a packet can hold in the program, and a length field that tells
the truth. The receiver's buffer has one byte more than the body. -/
structure WellFormed (packet : Packet) : Prop where
  sequenceNumber : IsInt packet.sequenceNumber
  timestamp : packet.timestamp < 2 ^ 64
  payload : nul ∉ packet.payload
  length : packet.length = packet.payload.length
  size : packet.body.length + 1 < 2 ^ 31

/-- What it takes for the header to be read again, whatever the length field says
and however long the packet is. -/
structure Scannable (packet : Packet) : Prop where
  sequenceNumber : IsInt packet.sequenceNumber
  timestamp : packet.timestamp < 2 ^ 64
  payload : nul ∉ packet.payload
  length : IsInt packet.length

/-- The two tables are inverse. -/
theorem stringToType_typeToString (type : PacketType) :
    stringToType (typeToString type) = type := by
  cases type <;> decide

private theorem typeToString_ink (type : PacketType) :
    ∀ byte ∈ typeToString type, isSpace byte = false := by
  apply ink_of_all
  cases type <;> rfl

private theorem typeToString_short (type : PacketType) :
    (typeToString type).length < typeBufferSize := by
  cases type <;> decide

private theorem typeToString_ne_nil (type : PacketType) : typeToString type ≠ [] := by
  cases type <;> decide

theorem WellFormed.isInt_length {packet : Packet} (wellFormed : packet.WellFormed) :
    IsInt packet.length := by
  have size := wellFormed.size
  rw [wellFormed.length]
  simp only [body, List.length_append, List.length_cons] at size
  unfold IsInt
  omega

theorem WellFormed.scannable {packet : Packet} (wellFormed : packet.WellFormed) :
    packet.Scannable where
  sequenceNumber := wellFormed.sequenceNumber
  timestamp := wellFormed.timestamp
  payload := wellFormed.payload
  length := wellFormed.isInt_length

private theorem scanNumbers_numberLines {packet : Packet} (scannable : packet.Scannable) :
    scanNumbers packet.numberLines =
      some (packet.timestamp, packet.sequenceNumber, packet.length) := by
  have second := @expect_line "timestamp:".toList (by decide) (ink_of_all rfl)
  have third := @expect_line "sequenceNumber:".toList (by decide) (ink_of_all rfl)
  have fourth := @expect_line "length:".toList (by decide) (ink_of_all rfl)
  have last := scanInt_showInt scannable.length stops_nil
  rw [List.append_nil] at last
  unfold scanNumbers numberLines
  simp only [second, third, fourth, last, scanUnsigned_showNat scannable.timestamp,
    scanInt_showInt scannable.sequenceNumber, stops_newline, Option.bind_eq_bind,
    Option.bind_some, Option.pure_def]

private theorem scanHeader_header {packet : Packet} (scannable : packet.Scannable) :
    scanHeader packet.header = .ok (some (typeToString packet.type, packet.timestamp,
      packet.sequenceNumber, packet.length)) := by
  have stops : ∀ byte ∈ packet.numberLines.head?, isSpace byte = true := by
    intro byte first
    rw [← Option.some.inj first]
    rfl
  have word := scanWord_append (typeToString_ne_nil packet.type) (typeToString_ink packet.type) stops
  rw [header, scanHeader, expect_append, Option.bind_some, word]
  simp only
  rw [if_neg (Nat.not_le.mpr (typeToString_short packet.type)), scanNumbers_numberLines scannable]
  rfl

/-- The first blank line is the one after the header. -/
private theorem splitFirst_body (packet : Packet) :
    splitFirst packet.body [newline, newline] = (packet.header, packet.payload) := by
  have first : newline ∉ "type:".toList ++ typeToString packet.type :=
    List.not_mem_append (by decide) (by cases packet.type <;> decide)
  have second : newline ∉ "timestamp:".toList ++ showNat packet.timestamp :=
    List.not_mem_append (by decide) (notMem_showNat rfl _)
  have third : newline ∉ "sequenceNumber:".toList ++ showInt packet.sequenceNumber :=
    List.not_mem_append (by decide) (notMem_showInt rfl (by decide) _)
  have fourth : newline ∉ "length:".toList ++ showInt packet.length :=
    List.not_mem_append (by decide) (notMem_showInt rfl (by decide) _)
  have lines : packet.body = ("type:".toList ++ typeToString packet.type) ++ newline ::
      (("timestamp:".toList ++ showNat packet.timestamp) ++ (newline ::
        (("sequenceNumber:".toList ++ showInt packet.sequenceNumber) ++ (newline ::
          (("length:".toList ++ showInt packet.length) ++
            (newline :: newline :: packet.payload)))))) := by
    simp only [body, header, numberLines, List.append_assoc, List.cons_append]
  have found : find [newline, newline] packet.body = some packet.header.length := by
    rw [lines, find_doubled_line _ first second (by simp), find_doubled_line _ second third (by simp),
      find_doubled_line _ third fourth (by simp), find_doubled _ fourth]
    simp only [Option.map_some, Option.some.injEq, header, numberLines, List.length_append,
      List.length_cons]
    omega
  rw [splitFirst, found]
  simp [body]

private theorem nul_notMem_header (packet : Packet) : nul ∉ packet.header := by
  have sign : nul ≠ '-' := by decide
  have break' : nul ≠ newline := by decide
  apply List.not_mem_append (by decide)
  apply List.not_mem_append (by cases packet.type <;> decide)
  rw [numberLines, List.mem_cons, not_or]
  refine ⟨break', List.not_mem_append (by decide)
    (List.not_mem_append (notMem_showNat rfl _) ?_)⟩
  rw [List.mem_cons, not_or]
  refine ⟨break', List.not_mem_append (by decide)
    (List.not_mem_append (notMem_showInt rfl sign _) ?_)⟩
  rw [List.mem_cons, not_or]
  exact ⟨break', List.not_mem_append (by decide) (notMem_showInt rfl sign _)⟩

theorem nul_notMem_body {packet : Packet} (free : nul ∉ packet.payload) : nul ∉ packet.body := by
  apply List.not_mem_append (nul_notMem_header packet)
  rw [List.mem_cons, List.mem_cons]
  rintro (same | same | inside)
  · exact absurd same (by decide)
  · exact absurd same (by decide)
  · exact free inside

theorem nul_notMem_serialize {packet : Packet} (free : nul ∉ packet.payload) :
    nul ∉ packet.serialize :=
  List.not_mem_append (notMem_padded rfl _ _) (nul_notMem_body free)

theorem length_sizeField (packet : Packet) :
    (padded sizeFieldLength (uint32 packet.body.length)).length = sizeFieldLength := by
  have bound : uint32 packet.body.length < 2 ^ 32 := Nat.mod_lt _ (by decide)
  exact length_padded (by unfold sizeFieldLength; omega) (by decide)

theorem deserialize_of_scannable (now : Nat) {packet : Packet} (scannable : packet.Scannable) :
    deserialize now packet.serialize = .ok packet := by
  have text : cString packet.serialize = packet.serialize :=
    cString_of_free (nul_notMem_serialize scannable.payload)
  have behind : packet.serialize.drop sizeFieldLength = packet.body := by
    have field := length_sizeField packet
    rw [serialize, List.drop_append_of_le_length (by omega), List.drop_of_length_le (by omega),
      List.nil_append]
  simp only [deserialize, text, behind, splitFirst_body,
    cString_of_free (nul_notMem_header packet), scanHeader_header scannable,
    stringToType_typeToString, cString_of_free scannable.payload]

/-- Reading a packet back gives the packet that was written. -/
theorem deserialize_serialize (now : Nat) {packet : Packet} (wellFormed : packet.WellFormed) :
    deserialize now packet.serialize = .ok packet :=
  deserialize_of_scannable now wellFormed.scannable

end Packet

end TwitterClone
