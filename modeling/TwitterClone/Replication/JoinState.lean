import TwitterClone.Foundation.CountedLoop
import TwitterClone.Packet.Sending
import TwitterClone.Replication.Joining

/-! What a new replica learns from the leader when it joins: its id and the replicas
there are, in one packet. -/
namespace TwitterClone

open Foundation

namespace ReplicaManager

/-- One line for each replica. The loop starts behind the first and its counter has 32
bits; there is no text while the turns do not suffice. -/
def serialize (turns : Nat) : List ReplicaInfo → Option Text
  | [] => some []
  | first :: rest =>
    countedLoop (fun serial replica => serial ++ newline :: replica.serialize) (first :: rest)
      turns 1 first.serialize

def deserialize (payload : Text) : List ReplicaInfo :=
  (split payload [newline]).map ReplicaInfo.deserialize

/-- The replica with the id it is given, and the packet for it. -/
def sendState (now turns : Nat) (replica : ReplicaInfo) (replicasInfo : List ReplicaInfo) :
    Option (ReplicaInfo × Packet) :=
  let replica := { replica with id := int32 replicasInfo.length }
  (serialize turns replicasInfo).map fun serial =>
    (replica, .ofPayload now .replicas (showInt replica.id ++ newline :: serial))

/-- An empty text is never taken for a list with one entry. -/
def receiveState (answerPacket : Option Packet) (info : ReplicaInfo) :
    ReplicaInfo × List ReplicaInfo :=
  match answerPacket with
  | none => (info, [])
  | some packet =>
    if packet.payload.length > 0 then
      let (id, replicas) := splitFirst packet.payload [newline]
      ({ info with id := atoi (cString id) },
        if replicas.length > 0 then deserialize replicas else [])
    else (info, [])

/-- What can be listed: numbers that are `int`s and an address that is one word of one
line. -/
structure Listable (replica : ReplicaInfo) : Prop extends replica.Sendable where
  line : newline ∉ replica.ip

instance (replica : ReplicaInfo) : Decidable (Listable replica) :=
  decidable_of_iff ((IsInt replica.id ∧ IsInt replica.port) ∧ ' ' ∉ replica.ip ∧
      nul ∉ replica.ip ∧ newline ∉ replica.ip) <| by
    constructor
    · rintro ⟨⟨id, port⟩, word, terminated, line⟩
      exact ⟨⟨id, port, word, terminated⟩, line⟩
    · intro listable
      exact ⟨⟨listable.id, listable.port⟩, listable.word, listable.terminated, listable.line⟩

/-- A byte that is part of no number and that the address lacks. -/
theorem notMem_serialize {replica : ReplicaInfo} {byte : Char} (noDigit : byte.isDigit = false)
    (noSign : byte ≠ '-') (noSpace : byte ≠ ' ') (free : byte ∉ replica.ip) :
    byte ∉ replica.serialize := by
  simp only [ReplicaInfo.serialize, List.mem_append, List.mem_cons, not_or]
  exact ⟨notMem_showInt noDigit noSign _, noSpace, free, noSpace, notMem_showInt noDigit noSign _⟩

/-- The loop ends for a list that its counter can number, with the lines joined. -/
theorem exists_serialize_iff {replicas : List ReplicaInfo} {serial : Text} :
    (∃ turns, serialize turns replicas = some serial) ↔
      replicas.length < 2 ^ 32 ∧
        joinStrings [newline] (replicas.map ReplicaInfo.serialize) = serial := by
  cases replicas with
  | nil => simp [serialize, joinStrings]
  | cons first rest =>
    have ends := @loopEnds_iff _ _ (fun serial replica => serial ++ newline :: replica.serialize)
      (first :: rest) 1 (by simp) (by decide) first.serialize serial
    rw [List.drop_one, List.tail_cons, List.foldl_append_eq_append] at ends
    rw [← List.flatMap_def] at ends
    simp only [serialize, joinStrings, List.map_cons, List.flatMap_map, List.singleton_append]
    exact ends

theorem serialize_eq_some {turns : Nat} {replicas : List ReplicaInfo} {serial : Text}
    (ended : serialize turns replicas = some serial) :
    serial = joinStrings [newline] (replicas.map ReplicaInfo.serialize) :=
  (exists_serialize_iff.mp ⟨turns, ended⟩).2.symm

theorem deserialize_lines {replicas : List ReplicaInfo} (nonempty : replicas ≠ [])
    (listable : ∀ replica ∈ replicas, Listable replica) :
    deserialize (joinStrings [newline] (replicas.map ReplicaInfo.serialize)) = replicas := by
  have lines : ∀ line ∈ replicas.map ReplicaInfo.serialize, newline ∉ line := by
    intro line member
    obtain ⟨replica, inside, rfl⟩ := List.mem_map.mp member
    exact notMem_serialize (by decide) (by decide) (by decide) (listable replica inside).line
  rw [deserialize, split_joinStrings (by simpa using nonempty) lines, List.map_map]
  conv_rhs => rw [← List.map_id replicas]
  apply List.map_congr_left
  intro replica inside
  exact ReplicaInfo.deserialize_serialize (listable replica inside).toSendable

theorem joinStrings_serialize_eq_nil {replicas : List ReplicaInfo} :
    joinStrings [newline] (replicas.map ReplicaInfo.serialize) = [] ↔ replicas = [] := by
  cases replicas with
  | nil => simp [joinStrings]
  | cons first rest => simp [joinStrings, ReplicaInfo.serialize]

/-- The guard of the receiver and the sender's test for an empty list fit together. -/
theorem receiveState_payload {replicas : List ReplicaInfo}
    (listable : ∀ replica ∈ replicas, Listable replica) {id : Int} (range : IsInt id)
    {packet : Packet} (payload : packet.payload =
      showInt id ++ newline :: joinStrings [newline] (replicas.map ReplicaInfo.serialize))
    (info : ReplicaInfo) :
    receiveState (some packet) info = ({ info with id }, replicas) := by
  have digits : ∀ {byte : Char}, byte.isDigit = false → byte ≠ '-' → byte ∉ showInt id :=
    fun noDigit noSign => notMem_showInt noDigit noSign id
  have parts := @splitFirst_append newline (showInt id)
    (joinStrings [newline] (replicas.map ReplicaInfo.serialize)) (digits (by decide) (by decide))
  have whole : packet.payload.length > 0 := by
    simp [payload]
  rw [receiveState, if_pos whole, payload]
  simp only [parts, cString_of_free (digits (by decide) (by decide)), atoi_showInt range]
  by_cases empty : replicas = []
  · simp [empty, joinStrings]
  · have some : (joinStrings [newline] (replicas.map ReplicaInfo.serialize)).length > 0 := by
      rw [gt_iff_lt, List.length_pos_iff, ne_eq, joinStrings_serialize_eq_nil]
      exact empty
    rw [if_pos some, deserialize_lines empty listable]

/-- What the leader sends is the payload of the handshake. -/
theorem sendState_eq_some {now turns : Nat} {replica recorded : ReplicaInfo}
    {replicasInfo : List ReplicaInfo} {packet : Packet}
    (sent : sendState now turns replica replicasInfo = some (recorded, packet)) :
    recorded = { replica with id := int32 replicasInfo.length } ∧ packet.type = .replicas ∧
      packet.payload = Joining.statePayload recorded replicasInfo ∧ IsInt packet.length := by
  obtain ⟨serial, ended, same⟩ := Option.map_eq_some_iff.mp sent
  obtain ⟨rfl, rfl⟩ := Prod.mk.inj same
  refine ⟨rfl, rfl, ?_, isInt_int32 _⟩
  rw [serialize_eq_some ended]
  rfl

/-- The leader has sent a packet as soon as its loop has ended, which it does for every
list that its counter can number. -/
theorem exists_sendState_iff (now : Nat) (replica : ReplicaInfo)
    (replicasInfo : List ReplicaInfo) :
    (∃ turns sent, sendState now turns replica replicasInfo = some sent) ↔
      replicasInfo.length < 2 ^ 32 := by
  constructor
  · rintro ⟨turns, sent, done⟩
    obtain ⟨serial, ended, -⟩ := Option.map_eq_some_iff.mp done
    exact (exists_serialize_iff.mp ⟨turns, ended⟩).1
  · intro short
    obtain ⟨turns, ended⟩ := exists_serialize_iff.mpr ⟨short, rfl⟩
    exact ⟨turns, _, by rw [sendState, ended]; rfl⟩

/-- A new replica that gets the packet has the id that the leader recorded for it, and
the leader's list. -/
theorem receiveState_sendState {now turns : Nat} {replica recorded : ReplicaInfo}
    {replicasInfo : List ReplicaInfo} {packet : Packet}
    (listable : ∀ replica ∈ replicasInfo, Listable replica)
    (sent : sendState now turns replica replicasInfo = some (recorded, packet))
    {sequenceNumber : Int} (numbered : IsInt sequenceNumber) {sentAt : Nat}
    (clock : sentAt < 2 ^ 64) (receivedAt : Nat) (info : ReplicaInfo) :
    ∃ received,
      Packet.deserialize receivedAt (packet.stamped sequenceNumber sentAt).serialize =
        .ok received ∧
      receiveState (some received) info = ({ info with id := recorded.id }, replicasInfo) := by
  obtain ⟨rfl, type, payload, length⟩ := sendState_eq_some sent
  have ink : nul ∉ showInt (int32 replicasInfo.length) ++ newline ::
      joinStrings [newline] (replicasInfo.map ReplicaInfo.serialize) := by
    refine List.not_mem_append (notMem_showInt (by decide) (by decide) _) ?_
    rw [List.mem_cons, not_or]
    refine ⟨by decide, notMem_joinStrings (by decide) ?_⟩
    intro line member
    obtain ⟨listed, inside, rfl⟩ := List.mem_map.mp member
    exact notMem_serialize (by decide) (by decide) (by decide) (listable listed inside).terminated
  rw [Joining.statePayload, cString_of_free ink] at payload
  have scannable : (packet.stamped sequenceNumber sentAt).Scannable :=
    ⟨numbered, clock, payload ▸ ink, length⟩
  refine ⟨_, Packet.deserialize_of_scannable receivedAt scannable, ?_⟩
  exact receiveState_payload listable (isInt_int32 _) payload info

/-- A backup joins a leader that has a backup already. -/
theorem receiveState_secondBackup :
    ∃ received, Packet.deserialize 9 ((Packet.ofPayload 7 .replicas
        "2\n0 10.0.0.1 5000\n1 10.0.0.2 5001".toList).stamped 12 8).serialize = .ok received ∧
      receiveState (some received) { ip := "10.0.0.3".toList, port := 5002 } =
        (⟨2, "10.0.0.3".toList, 5002⟩,
          [⟨0, "10.0.0.1".toList, 5000⟩, ⟨1, "10.0.0.2".toList, 5001⟩]) :=
  @receiveState_sendState 7 3 { ip := "10.0.0.3".toList, port := 5002 }
    ⟨2, "10.0.0.3".toList, 5002⟩ [⟨0, "10.0.0.1".toList, 5000⟩, ⟨1, "10.0.0.2".toList, 5001⟩] _
    (by decide) (by decide) 12 (by decide) 8 (by decide) 9 _

end ReplicaManager

end TwitterClone
