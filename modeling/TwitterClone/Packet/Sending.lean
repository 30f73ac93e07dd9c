import TwitterClone.Packet.Hostile
import TwitterClone.Packet.Accepted

/-! The sending side of a connection, and what becomes of packets that are received and
sent on. Whatever a peer has written, what was made of it can be sent on and is received
as the same. -/
namespace TwitterClone

open Foundation

/-- A connection numbers a packet and gives it the time before it sends it. -/
def Packet.stamped (packet : Packet) (sequenceNumber : Int) (now : Nat) : Packet :=
  { packet with sequenceNumber, timestamp := now }

/-- What remains of a packet on its way. -/
def Packet.content (packet : Packet) : PacketType × Int × Text :=
  (packet.type, packet.length, packet.payload)

/-- What a packet needs so that it can be read when it has got its number and its time. -/
structure Packet.Sendable (packet : Packet) : Prop where
  payload : nul ∉ packet.payload
  length : IsInt packet.length

/-- The number that the next packet gets, and all bytes that were written. -/
structure Sender where
  sequenceNumber : Int
  written : Text := []

namespace Sender

def send (sender : Sender) (now : Nat) (packet : Packet) : Sender where
  sequenceNumber := sender.sequenceNumber + 1
  written := sender.written ++ (packet.stamped sender.sequenceNumber now).serialize

/-- Packets are sent at the times that stand beside them. -/
def sendEach (sender : Sender) : List (Nat × Packet) → Sender
  | [] => sender
  | (now, packet) :: rest => (sender.send now packet).sendEach rest

end Sender

/-- How a connection carries a number of packets: the first number, the times at which they
are sent, the pieces in which they come, and how often the receiver calls `receive` in vain
after them. The receiver's stack has room for a size field at least. -/
structure Hop (stack count : Nat) where
  sequenceNumber : Int
  times : List Nat
  cut : Nat → Nat
  now : Nat
  extra : Nat := 0
  length : times.length = count
  clocks : ∀ time ∈ times, time < 2 ^ 64
  numbers : 0 ≤ sequenceNumber ∧ sequenceNumber + count ≤ 2 ^ 31
  room : Packet.sizeFieldLength < stack

/-- What the receiver gets of the packets. -/
def Hop.carry {stack count : Nat} (hop : Hop stack count) (packets : List Packet) :
    Except Fault (List (Option Packet)) :=
  (Socket.receiveEach hop.now stack (packets.length + hop.extra)
    { stream := (Sender.sendEach ⟨hop.sequenceNumber, []⟩ (hop.times.zip packets)).written
      cut := hop.cut }).map Prod.fst

namespace Packet

/-- The packets as they are written, from a number on. -/
def numbered : Int → List (Nat × Packet) → List Packet
  | _, [] => []
  | sequenceNumber, (now, packet) :: rest =>
    packet.stamped sequenceNumber now :: numbered (sequenceNumber + 1) rest

theorem content_numbered (sequenceNumber : Int) (packets : List (Nat × Packet)) :
    (numbered sequenceNumber packets).map content = (packets.map Prod.snd).map content := by
  induction packets generalizing sequenceNumber with
  | nil => rfl
  | cons first rest ih => rw [numbered, List.map_cons, ih]; rfl

theorem length_numbered (sequenceNumber : Int) (packets : List (Nat × Packet)) :
    (numbered sequenceNumber packets).length = packets.length := by
  induction packets generalizing sequenceNumber with
  | nil => rfl
  | cons first rest ih => rw [numbered, List.length_cons, ih, List.length_cons]

/-- What `sscanf` reads into variables has their range, and texts end at a NUL. -/
theorem scannable_of_deserialize {now : Nat} (clock : now < 2 ^ 64) {rawData : Text}
    {packet : Packet} (read : deserialize now rawData = .ok packet) : packet.Scannable := by
  unfold deserialize at read
  dsimp only at read
  split at read
  next => cases read
  next typeBuffer timestamp sequenceNumber length scanned =>
    cases read
    obtain ⟨first, second, third, -, rfl, rfl, rfl⟩ := scanHeader_iff.mp scanned
    refine ⟨isInt_int32 _, ?_, nul_notMem_cString _, isInt_int32 _⟩
    show first.unsigned 64 < 2 ^ 64
    unfold Numeral.unsigned
    split
    next => omega
    next =>
      split
      next => exact Nat.mod_lt _ (by decide)
      next small _ => exact Nat.not_le.mp small
  next =>
    cases read
    have number : IsInt (-1) := by decide
    have length : IsInt (badRequest now).length :=
      isInt_int32 (cString "Unable to parse. Bad request.".toList).length
    exact ⟨number, clock, nul_notMem_cString _, length⟩

theorem Scannable.sendable {packet : Packet} (scannable : packet.Scannable) : packet.Sendable :=
  ⟨scannable.payload, scannable.length⟩

theorem sendable_ofPayload (now : Nat) (type : PacketType) (payload : Text) :
    (ofPayload now type payload).Sendable :=
  ⟨nul_notMem_cString payload, isInt_int32 _⟩

theorem Sendable.stamped {packet : Packet} (sendable : packet.Sendable) {sequenceNumber : Int}
    (number : IsInt sequenceNumber) {now : Nat} (clock : now < 2 ^ 64) :
    Scannable (Packet.stamped packet sequenceNumber now) :=
  ⟨number, clock, sendable.payload, sendable.length⟩

/-- As long as the numbers are those of an `int`. -/
theorem scannable_numbered {sequenceNumber : Int} {packets : List (Nat × Packet)}
    (sendable : ∀ entry ∈ packets, entry.1 < 2 ^ 64 ∧ entry.2.Sendable)
    (positive : 0 ≤ sequenceNumber) (few : sequenceNumber + packets.length ≤ 2 ^ 31) :
    ∀ packet ∈ numbered sequenceNumber packets, packet.Scannable := by
  induction packets generalizing sequenceNumber with
  | nil => simp [numbered]
  | cons first rest ih =>
    rw [List.length_cons] at few
    obtain ⟨clock, readable⟩ := sendable first List.mem_cons_self
    intro packet member
    rcases List.mem_cons.mp member with rfl | later
    · exact readable.stamped (by unfold IsInt; omega) clock
    · exact ih (fun entry inside => sendable entry (List.mem_cons_of_mem _ inside)) (by omega)
        (by omega) packet later

/-- Only the number and the time are new. -/
theorem payload_numbered {sequenceNumber : Int} {packets : List (Nat × Packet)} {packet : Packet}
    (member : packet ∈ numbered sequenceNumber packets) :
    ∃ entry ∈ packets, packet.payload = entry.2.payload := by
  have content : packet.content ∈ (packets.map Prod.snd).map Packet.content :=
    content_numbered sequenceNumber packets ▸ List.mem_map_of_mem member
  obtain ⟨original, inside, same⟩ := List.mem_map.mp content
  obtain ⟨entry, listed, rfl⟩ := List.mem_map.mp inside
  exact ⟨entry, listed, (congrArg (fun content => content.2.2) same).symm⟩

private theorem length_showNat_le {value : Nat} (small : value < 2 ^ 64) :
    (showNat value).length ≤ 20 :=
  (Nat.length_toDigits_le_iff (by decide) (by decide)).mpr (by omega)

private theorem length_showInt_le {value : Int} (range : IsInt value) :
    (showInt value).length ≤ 21 := by
  have small : value.natAbs < 2 ^ 64 := by
    unfold IsInt at range
    omega
  have digits := length_showNat_le small
  unfold showInt
  split
  next => rw [List.length_cons]; omega
  next => omega

/-- More than the longest header and the blank line behind it. -/
def headerRoom : Nat := 128

theorem length_body_le {packet : Packet} (scannable : packet.Scannable) :
    packet.body.length + 1 ≤ packet.payload.length + headerRoom := by
  have timestamp := length_showNat_le scannable.timestamp
  have sequenceNumber := length_showInt_le scannable.sequenceNumber
  have length := length_showInt_le scannable.length
  have word : (typeToString packet.type).length ≤ 19 := by
    cases packet.type <;> decide
  simp only [body, header, numberLines, headerRoom, List.length_append, List.length_cons,
    String.length_toList]
  have labels : "type:".length = 5 ∧ "timestamp:".length = 10 ∧ "sequenceNumber:".length = 15 ∧
      "length:".length = 7 := by decide
  omega

end Packet

namespace Socket

variable {stack : Nat} {socket : Socket}

/-- What a call of `receive` hands out is scannable. -/
theorem scannable_of_receive {now : Nat} (clock : now < 2 ^ 64) {packet : Packet} {next : Socket}
    (received : socket.receive now stack = .ok (some packet, next)) : packet.Scannable := by
  unfold receive at received
  split at received
  next => cases received
  next => cases received
  next =>
    split at received
    next => cases received
    next =>
      split at received
      next => cases received
      next => cases received
      next =>
        split at received
        next => cases received
        next read =>
          cases received
          exact Packet.scannable_of_deserialize clock read

theorem scannable_of_receiveEach {now : Nat} (clock : now < 2 ^ 64) {calls : Nat}
    {received : List (Option Packet)} {next : Socket}
    (taken : socket.receiveEach now stack calls = .ok (received, next)) :
    ∀ packet ∈ received.reduceOption, packet.Scannable := by
  induction calls generalizing socket received with
  | zero =>
    cases taken
    simp
  | succ calls ih =>
    unfold receiveEach at taken
    split at taken
    next => cases taken
    next first middle here =>
      split at taken
      next => cases taken
      next later final there =>
        cases taken
        intro packet member
        cases first with
        | none => exact ih there packet member
        | some head =>
          rw [List.reduceOption_cons_of_some] at member
          rcases List.mem_cons.mp member with rfl | after
          · exact scannable_of_receive clock here
          · exact ih there packet after

/-- Whatever its length field says, a packet that can be scanned is received unchanged. -/
theorem receive_scannable (now : Nat) {packet : Packet} (scannable : packet.Scannable)
    (narrow : Packet.sizeFieldLength < stack) (size : Roomy stack packet.body.length) {rest : Text}
    (stream : socket.stream = packet.serialize ++ rest) :
    ∃ next, socket.receive now stack = .ok (some packet, next) ∧ next.stream = rest := by
  have fits := size.1
  have small : uint32 packet.body.length = packet.body.length := Nat.mod_eq_of_lt (by omega)
  have field := Packet.length_sizeField packet
  have announces : stoul (padded Packet.sizeFieldLength packet.body.length) =
      .ok packet.body.length := stoul_padded (by omega)
  have read := Packet.deserialize_of_scannable now scannable
  rw [Packet.serialize, List.append_assoc] at stream
  obtain ⟨middle, sized, left⟩ := receiveAll_append (by rw [field]; exact sizeField_fits)
    (by rwa [field]) (notMem_padded rfl _ _) stream
  obtain ⟨next, received, remaining⟩ :=
    receiveAll_append fits size.2 (Packet.nul_notMem_body scannable.payload) left
  refine ⟨next, ?_, remaining⟩
  rw [field] at sized
  rw [Packet.serialize] at read
  rw [small] at sized read
  simp only [receive, sized, announces, int32_of_small (show packet.body.length < 2 ^ 31 by omega),
    received, read]

/-- Packets that can be scanned are received in their order, and after them nothing. -/
theorem receiveEach_scannable (now extra : Nat) {packets : List Packet}
    (scannable : ∀ packet ∈ packets, packet.Scannable)
    (field : Packet.sizeFieldLength < stack)
    (size : ∀ packet ∈ packets, Roomy stack packet.body.length)
    (stream : socket.stream = packets.flatMap Packet.serialize) :
    ∃ next, socket.receiveEach now stack (packets.length + extra) =
      .ok (packets.map some ++ List.replicate extra none, next) := by
  induction packets generalizing socket with
  | nil =>
    have ended := receiveEach_ended now extra field stream
    simpa using ended
  | cons packet rest ih =>
    rw [List.flatMap_cons] at stream
    obtain ⟨middle, first, left⟩ := receive_scannable now (scannable packet List.mem_cons_self)
      field (size packet List.mem_cons_self) stream
    obtain ⟨next, later⟩ := ih (fun other member => scannable other (List.mem_cons_of_mem _ member))
      (fun other member => size other (List.mem_cons_of_mem _ member)) left
    refine ⟨next, ?_⟩
    rw [List.length_cons, Nat.add_right_comm, receiveEach, first]
    dsimp only
    rw [later, List.map_cons, List.cons_append]

end Socket

namespace Sender

theorem written_sendEach (sender : Sender) (packets : List (Nat × Packet)) :
    (sender.sendEach packets).written = sender.written ++
      (Packet.numbered sender.sequenceNumber packets).flatMap Packet.serialize := by
  induction packets generalizing sender with
  | nil => simp [sendEach, Packet.numbered]
  | cons first rest ih =>
    rw [sendEach, ih, send, Packet.numbered, List.flatMap_cons, List.append_assoc]

end Sender

/-- A payload that is small enough to be received behind any header, on a stack that has
room for so many bytes. -/
def Packet.PayloadFits (stack : Nat) (payload : Text) : Prop :=
  payload.length + Packet.headerRoom < 2 ^ 31 ∧ payload.length + Packet.headerRoom ≤ stack

instance (stack : Nat) (payload : Text) : Decidable (Packet.PayloadFits stack payload) :=
  inferInstanceAs (Decidable (_ ∧ _))

def Packet.Fits (stack : Nat) (packet : Packet) : Prop := Packet.PayloadFits stack packet.payload

instance (stack : Nat) (packet : Packet) : Decidable (packet.Fits stack) :=
  inferInstanceAs (Decidable (Packet.PayloadFits _ _))

theorem Packet.Fits.of_payload_le {stack : Nat} {packet other : Packet} (fits : packet.Fits stack)
    (shorter : other.payload.length ≤ packet.payload.length) : other.Fits stack :=
  ⟨(Nat.add_le_add_right shorter _).trans_lt fits.1,
    (Nat.add_le_add_right shorter _).trans fits.2⟩

theorem Packet.Fits.roomy {stack : Nat} {packet : Packet} (fits : packet.Fits stack)
    (scannable : packet.Scannable) : Socket.Roomy stack packet.body.length := by
  have body := Packet.length_body_le scannable
  exact ⟨body.trans_lt fits.1, body.trans fits.2⟩

namespace Hop

variable {stack count : Nat}

/-- Packets arrive in order with new numbers and times, and can be sent on. -/
theorem carry_eq (hop : Hop stack count) {packets : List Packet} (all : packets.length = count)
    (sendable : ∀ packet ∈ packets, packet.Sendable ∧ packet.Fits stack) :
    ∃ arrived : List Packet, hop.carry packets =
        .ok (arrived.map some ++ List.replicate hop.extra none) ∧
      arrived.map Packet.content = packets.map Packet.content ∧
      ∀ packet ∈ arrived, packet.Sendable ∧ packet.Fits stack := by
  let entries := hop.times.zip packets
  have shorter : hop.times.length = packets.length := hop.length.trans all.symm
  have originals : entries.map Prod.snd = packets := List.map_snd_zip shorter.ge
  have length : entries.length = packets.length := by
    rw [← originals, List.length_map]
  have ready : ∀ entry ∈ entries, entry.1 < 2 ^ 64 ∧ entry.2.Sendable := by
    intro entry listed
    obtain ⟨time, packet⟩ := List.of_mem_zip listed
    exact ⟨hop.clocks _ time, (sendable _ packet).1⟩
  have readable := Packet.scannable_numbered ready hop.numbers.1
    (by rw [length, all]; exact hop.numbers.2)
  have fits : ∀ packet ∈ Packet.numbered hop.sequenceNumber entries, packet.Fits stack := by
    intro packet member
    obtain ⟨entry, listed, same⟩ := Packet.payload_numbered member
    exact (sendable _ (List.of_mem_zip listed).2).2.of_payload_le (congrArg List.length same).le
  have size : ∀ packet ∈ Packet.numbered hop.sequenceNumber entries,
      Socket.Roomy stack packet.body.length := fun packet member =>
    (fits packet member).roomy (readable packet member)
  have stream := Sender.written_sendEach ⟨hop.sequenceNumber, []⟩ entries
  rw [List.nil_append] at stream
  obtain ⟨next, arrived⟩ := @Socket.receiveEach_scannable stack
    { stream := (Sender.sendEach ⟨hop.sequenceNumber, []⟩ entries).written, cut := hop.cut }
    hop.now hop.extra _ readable hop.room size stream
  rw [Packet.length_numbered, length] at arrived
  refine ⟨Packet.numbered hop.sequenceNumber entries, ?_, ?_, ?_⟩
  · rw [carry, arrived]
    rfl
  · rw [Packet.content_numbered, originals]
  · exact fun packet member => ⟨(readable packet member).sendable, fits packet member⟩

/-- Whatever bytes a peer has written and however they were cut: if the calls of `receive`
returned, their packets can be sent on, and the next receiver gets packets of the same types,
lengths and payloads in the same order, and then nothing. Its stack must have room for
them. -/
theorem relayed_unchanged (socket : Socket) (now ownStack calls : Nat) (clock : now < 2 ^ 64)
    (received : List (Option Packet)) (next : Socket)
    (taken : socket.receiveEach now ownStack calls = .ok (received, next))
    (stack : Nat) (fits : ∀ packet ∈ received.reduceOption, packet.Fits stack)
    (hop : Hop stack received.reduceOption.length) :
    ∃ arrived : List Packet, hop.carry received.reduceOption =
        .ok (arrived.map some ++ List.replicate hop.extra none) ∧
      arrived.map Packet.content = received.reduceOption.map Packet.content := by
  have sendable : ∀ packet ∈ received.reduceOption, packet.Sendable ∧ packet.Fits stack :=
    fun packet member =>
      ⟨(Socket.scannable_of_receiveEach clock taken packet member).sendable, fits packet member⟩
  obtain ⟨arrived, carried, contents, -⟩ := hop.carry_eq rfl sendable
  exact ⟨arrived, carried, contents⟩

/-- Two packets with liberties: white space, a sign and a length that is not true in the
first, and no header in the second. -/
def looseStream : Text :=
  "0000000057type:  SEND\ntimestamp: 5\nsequenceNumber:+3\nlength:\t-9\n\nhi".toList ++
    "0000000002ok".toList

/-- What a receiver makes of them. -/
def loosePackets : List Packet :=
  [⟨-9, .send, 3, 5, ['h', 'i']⟩, Packet.badRequest 9]

/-- Two packets, in pieces of three bytes and fewer. -/
def slowHop : Hop 8388608 2 where
  sequenceNumber := 7
  times := [10, 11]
  cut := fun _ => 3
  now := 12
  extra := 1
  length := rfl
  clocks := by decide
  numbers := by decide
  room := by decide

theorem relayed_unchanged_loosePackets :
    ∃ arrived : List Packet, slowHop.carry loosePackets = .ok (arrived.map some ++ [none]) ∧
      arrived.map Packet.content = loosePackets.map Packet.content := by
  obtain ⟨next, taken⟩ : ∃ next, (Socket.trickle looseStream).receiveEach 9 8388608 2 =
      .ok (loosePackets.map some, next) := ⟨_, by rfl⟩
  exact relayed_unchanged (Socket.trickle looseStream) 9 8388608 2 (by decide) _ next taken
    8388608 (by decide) slowHop

end Hop

end TwitterClone
