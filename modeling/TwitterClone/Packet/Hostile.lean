import TwitterClone.Packet.Connection

/-! What a peer can do to the receiver with bytes of its own choice: a size field
without a number, a size that is no buffer's or for which the stack has no room, a word too
long for the type. -/
namespace TwitterClone

open Foundation

namespace Packet

/-- The word that `%s` copies into the buffer for the type. -/
def typeWord (rawData : Text) : Option Text :=
  let header := (splitFirst ((cString rawData).drop sizeFieldLength) [newline, newline]).1
  ((expect "type:".toList (cString header)).bind scanWord).map Prod.fst

def TypeFits (rawData : Text) : Prop :=
  ∀ word ∈ typeWord rawData, word.length < typeBufferSize

/-- Only the type can leave its buffer. -/
theorem deserialize_of_typeFits (now : Nat) {rawData : Text} (fits : TypeFits rawData) :
    ∃ packet, deserialize now rawData = .ok packet := by
  unfold TypeFits typeWord at fits
  unfold deserialize scanHeader
  dsimp only at fits ⊢
  split
  next fault failed =>
    split at failed
    next => cases failed
    next word rest scanned =>
      have short := fits word (by rw [scanned]; rfl)
      rw [if_neg (Nat.not_le.mpr short)] at failed
      cases failed
  next => exact ⟨_, rfl⟩
  next => exact ⟨_, rfl⟩

theorem deserialize_of_not_typeFits (now : Nat) {rawData : Text} (overflows : ¬ TypeFits rawData) :
    deserialize now rawData = .error .bufferOverflow := by
  unfold TypeFits typeWord at overflows
  rw [not_forall] at overflows
  obtain ⟨word, long⟩ := overflows
  obtain ⟨read, long⟩ := Classical.not_imp.mp long
  obtain ⟨⟨_, rest⟩, scanned, rfl⟩ := Option.map_eq_some_iff.mp (Option.mem_def.mp read)
  simp only [deserialize, scanHeader, scanned, if_pos (Nat.not_lt.mp long)]

end Packet

namespace Socket

/-- The size that a field announces, as the `int` that the receiver makes of it. -/
def announced (field : Text) : Option Int :=
  (scanNumeral (skipSpace (cString field))).map fun (numeral, _) => int32 numeral.value

/-- A buffer for so many bytes and the terminator has a size, and room on the stack. -/
def Roomy (stack size : Nat) : Prop := size + 1 < 2 ^ 31 ∧ size < stack

instance (stack size : Nat) : Decidable (Roomy stack size) := inferInstanceAs (Decidable (_ ∧ _))

/-- Bytes that a number of calls of `receive` can take: up to where the stream ends, each
size field holds a number that leaves the buffer room, and each type is short enough. -/
def Harmless (stack : Nat) : Nat → Text → Prop
  | 0, _ => True
  | calls + 1, stream =>
    let field := stream.take Packet.sizeFieldLength
    let rest := stream.drop Packet.sizeFieldLength
    Roomy stack Packet.sizeFieldLength ∧
      (stream.length < Packet.sizeFieldLength ∨
        ∃ size : Nat, announced field = some (size : Int) ∧ Roomy stack size ∧
          (rest.length < size ∨
            Packet.TypeFits (cString field ++ cString (rest.take size)) ∧
              Harmless stack calls (rest.drop size)))

section Calls

variable {stack : Nat} {socket : Socket}

theorem stoul_of_announced {field : Text} (short : field.length ≤ Packet.sizeFieldLength) :
    match announced field with
    | none => stoul (cString field) = .error .invalidArgument
    | some size => ∃ value, stoul (cString field) = .ok value ∧ int32 value = size := by
  have shorter : (cString field).length ≤ 10 :=
    (List.takeWhile_prefix _).length_le.trans short
  rw [stoul_short (by omega), announced]
  cases scanned : scanNumeral (skipSpace (cString field)) with
  | none => rfl
  | some read =>
    obtain ⟨numeral, rest⟩ := read
    have digits := scanNumeral_bound scanned
    have skipped := length_skipSpace_le (cString field)
    have small : (10 : Nat) ^ (skipSpace (cString field)).length ≤ 10 ^ 10 :=
      Nat.pow_le_pow_right (by decide) (by omega)
    exact ⟨_, rfl, int32_unsigned (by omega)⟩

/-- The size field is there, and what `receive` does next depends on its number. -/
theorem receive_sized (now : Nat) (field : Packet.sizeFieldLength < stack)
    (whole : Packet.sizeFieldLength ≤ socket.stream.length) :
    ∃ middle : Socket, middle.stream = socket.stream.drop Packet.sizeFieldLength ∧
      match announced (socket.stream.take Packet.sizeFieldLength) with
      | none => socket.receive now stack = .error .invalidArgument
      | some size => socket.receive now stack =
        match middle.receiveAll stack size with
        | .error fault => .error fault
        | .ok (none, next) => .ok (none, next)
        | .ok (some packetStr, next) =>
          match Packet.deserialize now
              (cString (socket.stream.take Packet.sizeFieldLength) ++ packetStr) with
          | .error fault => .error fault
          | .ok packet => .ok (some packet, next) := by
  obtain ⟨middle, sized, left⟩ := @receiveAll_spec stack socket _ sizeField_fits field
  rw [if_pos whole] at sized
  have value := stoul_of_announced (List.length_take_le Packet.sizeFieldLength socket.stream)
  refine ⟨middle, left, ?_⟩
  split at value
  next unread => simp only [receive, sized, value]
  next size read =>
    obtain ⟨value, number, cut⟩ := value
    cases taken : middle.receiveAll stack size with
    | error fault => simp only [receive, sized, number, cut, taken]
    | ok received =>
      obtain ⟨_ | packetStr, next⟩ := received
      · simp only [receive, sized, number, cut, taken]
      · cases made : Packet.deserialize now
            (cString (socket.stream.take Packet.sizeFieldLength) ++ packetStr) with
        | error fault => simp only [receive, sized, number, cut, taken, made]
        | ok packet => simp only [receive, sized, number, cut, taken, made]

theorem isInt_of_announced {field : Text} {size : Int} (read : announced field = some size) :
    IsInt size := by
  obtain ⟨⟨numeral, rest⟩, -, rfl⟩ := Option.map_eq_some_iff.mp read
  exact isInt_int32 _

theorem receiveAll_of_unfit {size : Int} (range : IsInt size)
    (unfit : ∀ length : Nat, size = length → ¬ Roomy stack length) :
    ∃ fault, socket.receiveAll stack size = .error fault := by
  unfold receiveAll
  by_cases below : int32 (size + 1) < 1
  · exact ⟨_, if_pos below⟩
  · unfold IsInt at range
    have small : size + 1 < 2 ^ 31 := by
      by_contra large
      have largest : size = 2 ^ 31 - 1 := by
        omega
      rw [largest] at below
      exact below (by decide)
    have next : int32 (size + 1) = size + 1 := int32_of_isInt (by unfold IsInt; omega)
    have narrow : ¬ Roomy stack size.toNat := unfit size.toNat (by omega)
    unfold Roomy at narrow
    rw [if_neg below, next]
    exact ⟨_, if_pos (by omega)⟩

section Announced

variable {size : Nat}

/-- A size for which there is a buffer is followed by its bytes, or by the end. -/
theorem receive_announced (now : Nat) (field : Packet.sizeFieldLength < stack)
    (whole : Packet.sizeFieldLength ≤ socket.stream.length)
    (read : announced (socket.stream.take Packet.sizeFieldLength) = some (size : Int))
    (room : Roomy stack size) :
    ∃ after : Socket, after.stream = (socket.stream.drop Packet.sizeFieldLength).drop size ∧
      ((socket.stream.drop Packet.sizeFieldLength).length < size →
        socket.receive now stack = .ok (none, after)) ∧
      (size ≤ (socket.stream.drop Packet.sizeFieldLength).length →
        socket.receive now stack = (Packet.deserialize now
          (cString (socket.stream.take Packet.sizeFieldLength) ++
            cString ((socket.stream.drop Packet.sizeFieldLength).take size))).map
          fun packet => (some packet, after)) := by
  obtain ⟨middle, left, sized⟩ := receive_sized now field whole
  simp only [read] at sized
  obtain ⟨after, result, remains⟩ := @receiveAll_spec stack middle size room.1 room.2
  rw [← left]
  refine ⟨after, remains, fun cutOff => ?_, fun enough => ?_⟩
  · rw [if_neg (Nat.not_le.mpr cutOff)] at result
    simp only [sized, result]
  · rw [if_pos enough] at result
    simp only [sized, result]
    cases Packet.deserialize now (cString (socket.stream.take Packet.sizeFieldLength) ++
        cString (middle.stream.take size)) with
    | error fault => rfl
    | ok packet => rfl

/-- A size for which there is none ends the receiver. -/
theorem receive_unfit (now : Nat) (field : Packet.sizeFieldLength < stack)
    (whole : Packet.sizeFieldLength ≤ socket.stream.length)
    (unfit : ¬ ∃ size : Nat, announced (socket.stream.take Packet.sizeFieldLength) =
      some (size : Int) ∧ Roomy stack size) :
    ∃ fault, socket.receive now stack = .error fault := by
  obtain ⟨middle, -, sized⟩ := receive_sized now field whole
  cases read : announced (socket.stream.take Packet.sizeFieldLength) with
  | none =>
    simp only [read] at sized
    exact ⟨_, sized⟩
  | some size =>
    simp only [read] at sized
    obtain ⟨fault, failed⟩ := @receiveAll_of_unfit stack middle size (isInt_of_announced read)
      (fun length same room => unfit ⟨length, same ▸ read, room⟩)
    exact ⟨fault, by simp only [sized, failed]⟩

end Announced

theorem exists_announced {field : Text} {length : Nat}
    (read : announced field = some (length : Int)) (room : Roomy stack length)
    (condition : Nat → Prop) :
    (∃ size : Nat, announced field = some (size : Int) ∧ Roomy stack size ∧ condition size) ↔
      condition length := by
  constructor
  · rintro ⟨size, same, -, holds⟩
    have equal : length = size := Int.ofNat.inj (Option.some.inj (read.symm.trans same))
    exact equal ▸ holds
  · intro holds
    exact ⟨length, read, room, holds⟩

/-- Nothing is received where there is no room even for the size field. -/
theorem receive_of_not_roomy (now : Nat) (narrow : ¬ Roomy stack Packet.sizeFieldLength) :
    ∃ fault, socket.receive now stack = .error fault := by
  obtain ⟨fault, failed⟩ := @receiveAll_of_unfit stack socket Packet.sizeFieldLength
    (by unfold IsInt Packet.sizeFieldLength; omega) (fun length same room =>
      narrow (Int.ofNat.inj same ▸ room))
  exact ⟨fault, by simp only [receive, failed]⟩

/-- One call and the calls after it. -/
theorem receiveEach_succ (now calls : Nat) :
    (∃ received next, socket.receiveEach now stack (calls + 1) = .ok (received, next)) ↔
      ∃ packet middle, socket.receive now stack = .ok (packet, middle) ∧
        ∃ received next, middle.receiveEach now stack calls = .ok (received, next) := by
  constructor
  · rintro ⟨received, next, whole⟩
    rw [receiveEach] at whole
    split at whole
    next => cases whole
    next packet middle first =>
      split at whole
      next => cases whole
      next later final rest => exact ⟨packet, middle, first, later, final, rest⟩
  · rintro ⟨packet, middle, first, received, next, later⟩
    exact ⟨packet :: received, next, by simp only [receiveEach, first, later]⟩

end Calls

/-- However the stream is cut, all calls return a packet or nothing exactly when the
bytes are harmless; on all other bytes one of them throws or leaves its buffer. -/
theorem receives_iff_harmless (now stack calls : Nat) (socket : Socket) :
    (∃ received next, socket.receiveEach now stack calls = .ok (received, next)) ↔
      Harmless stack calls socket.stream := by
  induction calls generalizing socket with
  | zero => exact iff_of_true ⟨_, _, rfl⟩ trivial
  | succ calls ih =>
    rw [receiveEach_succ, Harmless]
    by_cases narrow : ¬ Roomy stack Packet.sizeFieldLength
    · obtain ⟨fault, failed⟩ := @receive_of_not_roomy stack socket now narrow
      refine iff_of_false ?_ fun harmless => narrow harmless.1
      rintro ⟨packet, middle, received, -⟩
      rw [failed] at received
      cases received
    have enough := Classical.not_not.mp narrow
    have field := enough.2
    by_cases short : socket.stream.length < Packet.sizeFieldLength
    · obtain ⟨middle, result, left⟩ := receiveAll_short sizeField_fits field short
      have nothing : socket.receive now stack = .ok (none, middle) := by
        simp only [receive, result]
      obtain ⟨final, later⟩ := receiveEach_ended now calls field left
      exact iff_of_true ⟨none, middle, nothing, _, final, later⟩ ⟨enough, Or.inl short⟩
    · have whole := Nat.not_lt.mp short
      simp only [enough, true_and, short, false_or]
      by_cases fits : ∃ size : Nat, announced (socket.stream.take Packet.sizeFieldLength) =
          some (size : Int) ∧ Roomy stack size
      · obtain ⟨size, read, room⟩ := fits
        obtain ⟨after, remains, ended, packed⟩ := receive_announced now field whole read room
        rw [exists_announced read room]
        generalize socket.stream.drop Packet.sizeFieldLength = rest at remains ended packed ⊢
        by_cases cutOff : rest.length < size
        · have last : after.stream = [] := by
            rw [remains, List.drop_of_length_le (by omega)]
          obtain ⟨final, later⟩ := receiveEach_ended now calls field last
          exact iff_of_true ⟨none, after, ended cutOff, _, final, later⟩ (Or.inl cutOff)
        · have result := packed (Nat.not_lt.mp cutOff)
          by_cases typeFits : Packet.TypeFits (cString
              (socket.stream.take Packet.sizeFieldLength) ++ cString (rest.take size))
          · obtain ⟨packet, decoded⟩ := Packet.deserialize_of_typeFits now typeFits
            rw [decoded] at result
            simp only [result, cutOff, typeFits, false_or, true_and, ← remains, ← ih after]
            constructor
            · rintro ⟨first, next, same, later⟩
              cases same
              exact later
            · intro later
              exact ⟨some packet, after, rfl, later⟩
          · rw [Packet.deserialize_of_not_typeFits now typeFits] at result
            simp [result, cutOff, typeFits, Except.map]
      · obtain ⟨fault, failed⟩ := receive_unfit now field whole fits
        refine iff_of_false ?_ ?_
        · rintro ⟨packet, after, received, -⟩
          rw [failed] at received
          cases received
        · rintro ⟨size, read, room, -⟩
          exact fits ⟨size, read, room⟩

/-- Bytes that come one by one. -/
def trickle (stream : Text) : Socket := { stream, cut := fun _ => 1 }

theorem not_received_of_fault {stream : Text}
    (fault : ((trickle stream).receiveEach 0 8388608 1).toOption.isSome = false) :
    ¬ ∃ received next, (trickle stream).receiveEach 0 8388608 1 = .ok (received, next) := by
  rintro ⟨received, next, result⟩
  rw [result] at fault
  cases fault

/-- A size field without a number, a size of -1, one for which a stack of eight mebibytes
has no room, and a type of thirty bytes. -/
theorem not_received_of_hostileStreams :
    (¬ ∃ received next, (trickle "not a size".toList).receiveEach 0 8388608 1 =
        .ok (received, next)) ∧
      (¬ ∃ received next, (trickle "-000000001".toList).receiveEach 0 8388608 1 =
        .ok (received, next)) ∧
      (¬ ∃ received next, (trickle "0009000000".toList).receiveEach 0 8388608 1 =
        .ok (received, next)) ∧
      ¬ ∃ received next,
        (trickle ("0000000035type:".toList ++ List.replicate 30 'T')).receiveEach 0 8388608 1 =
          .ok (received, next) := by
  refine ⟨?_, ?_, ?_, ?_⟩
  · exact not_received_of_fault (by decide +kernel)
  · exact not_received_of_fault (by decide +kernel)
  · exact not_received_of_fault (by decide +kernel)
  · exact not_received_of_fault (by decide +kernel)

end Socket

end TwitterClone
