import TwitterClone.Packet.Packet

/-! The receiving side of a connection. `recv` may cut the stream anywhere; the
packets it carries come out whole and in order, or not at all. -/
namespace TwitterClone

open Foundation

/-- The bytes still to come before the peer closes, and the size of the chunk
that each call of `recv` gets. -/
structure Socket where
  stream : Text
  cut : Nat → Nat
  calls : Nat := 0

namespace Socket

/-- A chunk that is not empty and no longer than requested; nothing once the
stream has ended. -/
def recv (socket : Socket) (length : Nat) : Text × Socket :=
  let size := max 1 (min (socket.cut socket.calls) length)
  (socket.stream.take size,
    { socket with stream := socket.stream.drop size, calls := socket.calls + 1 })

/-- The loop of `receiveAll` with a bound on its turns. Each turn gets a byte at
least, so the length is bound enough: `receiveTurns_spec`. -/
def receiveTurns : Nat → Socket → Text → Nat → Option Text × Socket
  | _, socket, buffer, 0 => (some buffer, socket)
  | 0, socket, _, _ + 1 => (none, socket)
  | turns + 1, socket, buffer, currLength + 1 =>
    let (chunk, socket) := socket.recv (currLength + 1)
    if chunk.length < 1 then (none, socket)
    else receiveTurns turns socket (buffer ++ chunk) (currLength + 1 - chunk.length)

/-- The local buffer has one byte more than is read, for the terminator. Its size
is an `int`, so the largest one wraps round, and it is on the stack, which has room for
so many bytes. -/
def receiveAll (stack : Nat) (socket : Socket) (length : Int) :
    Except Fault (Option Text × Socket) :=
  if int32 (length + 1) < 1 then .error (.bufferSize (int32 (length + 1)))
  else if stack < int32 (length + 1) then .error .stackOverflow
  else
    let (data, socket) := receiveTurns length.toNat socket [] length.toNat
    .ok (data.map cString, socket)

/-- One packet, or nothing when the stream ends before it is complete. -/
def receive (now stack : Nat) (socket : Socket) : Except Fault (Option Packet × Socket) :=
  match socket.receiveAll stack Packet.sizeFieldLength with
  | .error fault => .error fault
  | .ok (none, socket) => .ok (none, socket)
  | .ok (some sizeStr, socket) =>
    match stoul sizeStr with
    | .error fault => .error fault
    | .ok size =>
      match socket.receiveAll stack (int32 size) with
      | .error fault => .error fault
      | .ok (none, socket) => .ok (none, socket)
      | .ok (some packetStr, socket) =>
        match Packet.deserialize now (sizeStr ++ packetStr) with
        | .error fault => .error fault
        | .ok packet => .ok (some packet, socket)

/-- A number of calls of `receive`, one after the other. -/
def receiveEach (now stack : Nat) : Nat → Socket → Except Fault (List (Option Packet) × Socket)
  | 0, socket => .ok ([], socket)
  | calls + 1, socket =>
    match socket.receive now stack with
    | .error fault => .error fault
    | .ok (first, socket) =>
      match receiveEach now stack calls socket with
      | .error fault => .error fault
      | .ok (later, socket) => .ok (first :: later, socket)

section Receiving

variable {stack : Nat} {socket : Socket}

/-- The loop takes what it was asked for, however the stream is cut; a stream
that is too short it uses up. -/
theorem receiveTurns_spec (turns : Nat) (buffer : Text) (length : Nat) (enough : length ≤ turns) :
    ∃ next, receiveTurns turns socket buffer length =
        (if length ≤ socket.stream.length then some (buffer ++ socket.stream.take length) else none,
          next) ∧
      next.stream = socket.stream.drop length := by
  induction turns generalizing socket buffer length with
  | zero =>
    rw [Nat.le_zero.mp enough]
    exact ⟨socket, by simp [receiveTurns], by simp⟩
  | succ turns ih =>
    cases length with
    | zero => exact ⟨socket, by simp [receiveTurns], by simp⟩
    | succ length =>
      obtain ⟨size, sized⟩ : ∃ size, size = max 1 (min (socket.cut socket.calls) (length + 1)) :=
        ⟨_, rfl⟩
      have range : 1 ≤ size ∧ size ≤ length + 1 := by
        omega
      have chunk : socket.recv (length + 1) = (socket.stream.take size,
          { socket with stream := socket.stream.drop size, calls := socket.calls + 1 }) := by
        rw [recv, ← sized]
      simp only [receiveTurns, chunk, List.length_take]
      by_cases ended : min size socket.stream.length < 1
      · have empty : socket.stream = [] := by
          apply List.length_eq_zero_iff.mp
          omega
        rw [if_pos ended, if_neg (by simp [empty])]
        exact ⟨_, rfl, by simp [empty]⟩
      · rw [if_neg ended]
        obtain ⟨next, result, left⟩ := @ih
          { socket with stream := socket.stream.drop size, calls := socket.calls + 1 }
          (buffer ++ socket.stream.take size) (length + 1 - min size socket.stream.length) (by omega)
        refine ⟨next, ?_, ?_⟩
        · rw [result, List.length_drop]
          by_cases long : length + 1 ≤ socket.stream.length
          · have rejoined : socket.stream.take (length + 1) = socket.stream.take size ++
                (socket.stream.drop size).take (length + 1 - size) := by
              rw [← List.take_add, Nat.add_sub_cancel' range.2]
            rw [Nat.min_eq_left (by omega), if_pos (by omega), if_pos long, rejoined,
              List.append_assoc]
          · rw [if_neg (by omega), if_neg long]
        · rw [left, List.drop_drop]
          by_cases short : socket.stream.length ≤ size
          · rw [List.drop_of_length_le (by omega), List.drop_of_length_le (by omega)]
          · rw [Nat.min_eq_left (by omega), Nat.add_sub_cancel' range.2]

theorem receiveAll_spec {length : Nat} (fits : length + 1 < 2 ^ 31) (room : length < stack) :
    ∃ next, socket.receiveAll stack length = .ok
        (if length ≤ socket.stream.length then some (cString (socket.stream.take length)) else none,
          next) ∧
      next.stream = socket.stream.drop length := by
  obtain ⟨next, result, left⟩ := @receiveTurns_spec socket length [] length le_rfl
  refine ⟨next, ?_, left⟩
  have size : int32 ((length : Int) + 1) = length + 1 := by
    exact_mod_cast int32_of_small fits
  rw [receiveAll, size, if_neg (by omega), if_neg (by omega)]
  simp only [Int.toNat_natCast, result, List.nil_append]
  split <;> rfl

/-- Bytes at the front of the stream are received as they are. -/
theorem receiveAll_append {front rest : Text} (fits : front.length + 1 < 2 ^ 31)
    (room : front.length < stack) (free : nul ∉ front) (stream : socket.stream = front ++ rest) :
    ∃ next, socket.receiveAll stack front.length = .ok (some front, next) ∧
      next.stream = rest := by
  obtain ⟨next, result, left⟩ := @receiveAll_spec stack socket front.length fits room
  refine ⟨next, ?_, by simp [left, stream]⟩
  rw [result, if_pos (by simp [stream]), stream, List.take_left, cString_of_free free]

theorem receiveAll_short {length : Nat} (fits : length + 1 < 2 ^ 31) (room : length < stack)
    (short : socket.stream.length < length) :
    ∃ next, socket.receiveAll stack length = .ok (none, next) ∧ next.stream = [] := by
  obtain ⟨next, result, left⟩ := @receiveAll_spec stack socket length fits room
  refine ⟨next, ?_, by rw [left, List.drop_of_length_le (by omega)]⟩
  rw [result, if_neg (by omega)]

theorem sizeField_fits : Packet.sizeFieldLength + 1 < 2 ^ 31 := by
  decide

private theorem sizeField_fits_of (packet : Packet) :
    (padded Packet.sizeFieldLength (uint32 packet.body.length)).length + 1 < 2 ^ 31 := by
  rw [Packet.length_sizeField]
  exact sizeField_fits

/-- The size field announces what follows it. -/
private theorem stoul_sizeField {packet : Packet} (size : packet.body.length + 1 < 2 ^ 31) :
    ∃ announced, stoul (padded Packet.sizeFieldLength (uint32 packet.body.length)) = .ok announced ∧
      int32 announced = packet.body.length := by
  have small : uint32 packet.body.length = packet.body.length := Nat.mod_eq_of_lt (by omega)
  rw [small]
  exact ⟨packet.body.length, stoul_padded (by omega), int32_of_small (by omega)⟩

/-- A complete packet at the front of the stream is received unchanged. -/
theorem receive_serialize (now : Nat) {packet : Packet} (wellFormed : packet.WellFormed)
    (field : Packet.sizeFieldLength < stack) (room : packet.body.length < stack)
    {rest : Text} (stream : socket.stream = packet.serialize ++ rest) :
    ∃ next, socket.receive now stack = .ok (some packet, next) ∧ next.stream = rest := by
  rw [Packet.serialize, List.append_assoc] at stream
  obtain ⟨middle, sized, left⟩ := receiveAll_append (sizeField_fits_of packet)
    (by rwa [Packet.length_sizeField]) (notMem_padded rfl _ _) stream
  rw [Packet.length_sizeField] at sized
  obtain ⟨announced, announces, exact'⟩ := stoul_sizeField wellFormed.size
  obtain ⟨next, received, remaining⟩ :=
    receiveAll_append wellFormed.size room (Packet.nul_notMem_body wellFormed.payload) left
  refine ⟨next, ?_, remaining⟩
  have read := Packet.deserialize_serialize now wellFormed
  rw [Packet.serialize] at read
  simp only [receive, sized, announces, exact', received, read]

/-- A packet cut short is not received, and nothing is left of it. -/
theorem receive_partial (now : Nat) {packet : Packet} (wellFormed : packet.WellFormed)
    (field : Packet.sizeFieldLength < stack) (room : packet.body.length < stack)
    (begins : socket.stream <+: packet.serialize)
    (short : socket.stream.length < packet.serialize.length) :
    ∃ next, socket.receive now stack = .ok (none, next) ∧ next.stream = [] := by
  have length := Packet.length_sizeField packet
  by_cases cutField : socket.stream.length < Packet.sizeFieldLength
  · obtain ⟨next, result, left⟩ := receiveAll_short sizeField_fits field cutField
    exact ⟨next, by simp only [receive, result], left⟩
  · have whole : padded Packet.sizeFieldLength (uint32 packet.body.length) <+: socket.stream :=
      List.prefix_of_prefix_length_le ⟨packet.body, rfl⟩ begins (by omega)
    obtain ⟨part, stream⟩ := whole
    obtain ⟨middle, sized, left⟩ := receiveAll_append (sizeField_fits_of packet)
      (by rwa [length]) (notMem_padded rfl _ _) stream.symm
    rw [length] at sized
    obtain ⟨announced, announces, size⟩ := stoul_sizeField wellFormed.size
    have missing : middle.stream.length < packet.body.length := by
      rw [Packet.serialize, ← stream] at short
      simp only [List.length_append] at short
      rw [left]
      omega
    obtain ⟨next, result, none⟩ := receiveAll_short wellFormed.size room missing
    exact ⟨next, by simp only [receive, sized, announces, size, result], none⟩

/-- Without room for its buffer a packet is not received at all. -/
theorem receive_narrow (now : Nat) {packet : Packet} (wellFormed : packet.WellFormed)
    (field : Packet.sizeFieldLength < stack) (narrow : stack ≤ packet.body.length)
    {rest : Text} (stream : socket.stream = packet.serialize ++ rest) :
    socket.receive now stack = .error .stackOverflow := by
  rw [Packet.serialize, List.append_assoc] at stream
  obtain ⟨middle, sized, left⟩ := receiveAll_append (sizeField_fits_of packet)
    (by rwa [Packet.length_sizeField]) (notMem_padded rfl _ _) stream
  rw [Packet.length_sizeField] at sized
  obtain ⟨announced, announces, exact'⟩ := stoul_sizeField wellFormed.size
  have size : int32 ((packet.body.length : Int) + 1) = packet.body.length + 1 := by
    exact_mod_cast int32_of_small wellFormed.size
  have overflow : middle.receiveAll stack packet.body.length = .error .stackOverflow := by
    rw [receiveAll, size, if_neg (by omega), if_pos (by omega)]
  simp only [receive, sized, announces, exact', overflow]

/-- A connection that has ended yields nothing, every time. -/
theorem receiveEach_ended (now calls : Nat) (field : Packet.sizeFieldLength < stack)
    (ended : socket.stream = []) :
    ∃ next, socket.receiveEach now stack calls = .ok (List.replicate calls none, next) := by
  induction calls generalizing socket with
  | zero => exact ⟨socket, rfl⟩
  | succ calls ih =>
    have short : socket.stream.length < Packet.sizeFieldLength := by
      simp [ended, Packet.sizeFieldLength]
    obtain ⟨middle, result, left⟩ := receiveAll_short sizeField_fits field short
    obtain ⟨next, later⟩ := ih left
    refine ⟨next, ?_⟩
    simp only [receiveEach, receive, result, later, List.replicate_succ]

end Receiving

end Socket

/-- The packets whose encoding ends within the first `available` bytes. -/
def complete : Nat → List Packet → List Packet
  | _, [] => []
  | available, packet :: rest =>
    if packet.serialize.length ≤ available
    then packet :: complete (available - packet.serialize.length) rest else []

theorem complete_all (packets : List Packet) :
    complete (packets.flatMap Packet.serialize).length packets = packets := by
  induction packets with
  | nil => rfl
  | cons packet rest ih =>
    rw [List.flatMap_cons, List.length_append, complete, if_pos (Nat.le_add_right _ _),
      Nat.add_sub_cancel_left, ih]

/-- Receiving from a stream that was cut off somewhere. -/
theorem receiveEach_take (now : Nat) {stack : Nat} {packets : List Packet}
    (wellFormed : ∀ packet ∈ packets, packet.WellFormed)
    (field : Packet.sizeFieldLength < stack)
    (room : ∀ packet ∈ packets, packet.body.length < stack) (available extra : Nat)
    {socket : Socket}
    (stream : socket.stream = (packets.flatMap Packet.serialize).take available) :
    ∃ next, socket.receiveEach now stack ((complete available packets).length + extra) =
      .ok ((complete available packets).map some ++ List.replicate extra none, next) := by
  induction packets generalizing socket available with
  | nil =>
    rw [List.flatMap_nil, List.take_nil] at stream
    simpa [complete] using Socket.receiveEach_ended now extra field stream
  | cons packet rest ih =>
    have valid := wellFormed packet List.mem_cons_self
    have here := room packet List.mem_cons_self
    have later := fun available => @ih (fun other member =>
      wellFormed other (List.mem_cons_of_mem packet member))
      (fun other member => room other (List.mem_cons_of_mem packet member)) available
    rw [List.flatMap_cons] at stream
    by_cases fits : packet.serialize.length ≤ available
    · have split : socket.stream = packet.serialize ++
          (rest.flatMap Packet.serialize).take (available - packet.serialize.length) := by
        rw [stream, List.take_append, List.take_of_length_le fits]
      obtain ⟨middle, received, left⟩ := Socket.receive_serialize now valid field here split
      obtain ⟨next, later⟩ := later _ left
      refine ⟨next, ?_⟩
      simp only [complete, fits, ↓reduceIte, List.length_cons, Nat.add_right_comm,
        Socket.receiveEach, received, later, List.map_cons, List.cons_append]
    · have part : socket.stream = packet.serialize.take available := by
        rw [stream, List.take_append_of_le_length (by omega)]
      simp only [complete, fits, ↓reduceIte, List.length_nil, Nat.zero_add, List.map_nil,
        List.nil_append]
      cases extra with
      | zero => exact ⟨socket, rfl⟩
      | succ extra =>
        obtain ⟨middle, nothing, left⟩ := @Socket.receive_partial stack socket now _ valid
          field here (by rw [part]; exact List.take_prefix ..) (by rw [part, List.length_take]; omega)
        obtain ⟨next, later⟩ := Socket.receiveEach_ended now extra field left
        refine ⟨next, ?_⟩
        simp only [Socket.receiveEach, nothing, later, List.replicate_succ]

/-- The packets of a stream come out unchanged and in order, however it is cut;
of a stream that ends early, those that are complete. After them there is nothing. The
stack of the receiver has room for the size field and for each packet behind it. -/
theorem receiveEach_serialize (now stack : Nat) (packets : List Packet)
    (wellFormed : ∀ packet ∈ packets, packet.WellFormed)
    (field : Packet.sizeFieldLength < stack)
    (room : ∀ packet ∈ packets, packet.body.length < stack) (cut : Nat → Nat) (extra : Nat) :
    (∃ next, Socket.receiveEach now stack (packets.length + extra)
        { stream := packets.flatMap Packet.serialize, cut } =
      .ok (packets.map some ++ List.replicate extra none, next)) ∧
    ∀ front, front <+: packets.flatMap Packet.serialize →
      ∃ next, Socket.receiveEach now stack ((complete front.length packets).length + extra)
          { stream := front, cut } =
        .ok ((complete front.length packets).map some ++ List.replicate extra none, next) := by
  have prefixes : ∀ front, front <+: packets.flatMap Packet.serialize →
      ∃ next, Socket.receiveEach now stack ((complete front.length packets).length + extra)
          { stream := front, cut } =
        .ok ((complete front.length packets).map some ++ List.replicate extra none, next) :=
    fun front begins => receiveEach_take now wellFormed field room front.length extra
      (List.prefix_iff_eq_take.mp begins)
  refine ⟨?_, prefixes⟩
  have whole := prefixes _ (List.prefix_refl _)
  rwa [complete_all] at whole

/-- A payload with a blank line and something like a header in it. -/
def samplePackets : List Packet :=
  [⟨9, .send, 7, 1600000000, ['\n', '\n', 't', 'y', 'p', 'e', ':', 'A', '\n']⟩,
    ⟨0, .close, -1, 0, []⟩]

theorem receiveEach_samplePackets :
    (∃ next, Socket.receiveEach 5 8388608 (samplePackets.length + 1)
        { stream := samplePackets.flatMap Packet.serialize, cut := fun call => call } =
      .ok (samplePackets.map some ++ List.replicate 1 none, next)) :=
  (receiveEach_serialize 5 8388608 samplePackets (by
    intro packet member
    rcases List.mem_cons.mp member with first | later
    · subst first
      exact ⟨by decide, by decide, by decide, by decide, by decide⟩
    · rw [List.mem_singleton.mp later]
      exact ⟨by decide, by decide, by decide, by decide, by decide⟩) (by decide) (by decide)
    (fun call => call) 1).1

/-- A payload of so many letters. -/
def letters (count : Nat) : Packet := ⟨count, .send, 7, 1600000000, List.replicate count 'a'⟩

theorem length_body_letters (count : Nat) : count < (letters count).body.length := by
  have payload : (letters count).payload.length = count := List.length_replicate
  simp only [Packet.body, List.length_append, List.length_cons, payload]
  omega

theorem wellFormed_letters {count : Nat} (few : count < 10 ^ 9) : (letters count).WellFormed := by
  have digits : (showNat count).length ≤ 9 :=
    (Nat.length_toDigits_le_iff (by decide) (by decide)).mpr few
  have length : showInt count = showNat count := rfl
  have labels : "type:".length = 5 ∧ "timestamp:".length = 10 ∧ "sequenceNumber:".length = 15 ∧
      "length:".length = 7 := by
    decide
  have numbers : (showNat 1600000000).length = 10 ∧ (showInt 7).length = 1 ∧
      (Packet.typeToString .send).length = 4 := by
    decide
  refine ⟨show IsInt 7 by decide, show 1600000000 < 2 ^ 64 by decide, ?_, ?_, ?_⟩
  · intro inside
    exact absurd (List.eq_of_mem_replicate inside) (by decide)
  · exact congrArg Int.ofNat List.length_replicate.symm
  · simp only [letters, Packet.body, Packet.header, Packet.numberLines, List.length_append,
      List.length_cons, String.length_toList, List.length_replicate, length]
    omega

/-- On a stack of eight mebibytes there is no room for nine million letters. -/
theorem not_receiveEach_letters :
    (letters 9000000).WellFormed ∧ ∀ cut : Nat → Nat,
      ¬ ∃ next, Socket.receiveEach 5 8388608 1 { stream := (letters 9000000).serialize, cut } =
        .ok ([some (letters 9000000)], next) := by
  have wellFormed := @wellFormed_letters 9000000 (by decide)
  have long := length_body_letters 9000000
  generalize letters 9000000 = packet at wellFormed long ⊢
  refine ⟨wellFormed, ?_⟩
  rintro cut ⟨next, received⟩
  have overflow := @Socket.receive_narrow 8388608 { stream := packet.serialize, cut } 5 packet
    wellFormed (by decide) (by omega) [] (List.append_nil packet.serialize).symm
  rw [Socket.receiveEach, overflow] at received
  cases received

end TwitterClone
