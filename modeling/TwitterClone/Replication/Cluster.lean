import TwitterClone.Foundation.ReplicatedLog
import TwitterClone.Foundation.Simulation
import TwitterClone.Packet.Sending
import TwitterClone.Replication.Updates

/-! A leader and the backups it knows, in any number: each of them reads the same two logs,
of the users and of the notifications that the leader published, at its own pace. -/
namespace TwitterClone

open Foundation

/-- A leader, what has been sent to each of its backups and not been handled, and the
managers of each. An exception ends a backup. -/
structure Cluster where
  leader : Leader
  arriving : Nat → List (PacketType × Text) := fun _ => []
  backups : Nat → Except Fault ReplicaManagers

/-- A packet had got its number and its time when it was sent. -/
inductive ClusterAction where
  | lead (action : LeaderAction)
  | handle (connection : Nat) (sequenceNumber : Int) (sentAt : Nat)

/-- The payloads of the packets of a type. -/
def payloadsOf (type : PacketType) (packets : List (PacketType × Text)) : List Text :=
  packets.filterMap fun packet => if packet.1 = type then some packet.2 else none

/-- The packets that a step of the leader sends on a connection. -/
def Leader.sendsOn (leader : Leader) (connection : Nat) : LeaderAction → List (PacketType × Text)
  | .profile action =>
    (leader.profiles.sendsTo profilePayload connection action).map (.updateProfile, ·)
  | .notification action =>
    (leader.notifications.sendsTo notificationPayload connection action).map
      (.updateNotification, ·)

/-- The size that the field before an update announces. -/
def updateSize (sequenceNumber : Int) (sentAt : Nat) (type : PacketType) (payload : Text) : Nat :=
  ((Packet.ofPayload sentAt type payload).stamped sequenceNumber sentAt).body.length

/-- The whole packet is received into a buffer on the thread's stack before it is handled. -/
def ReplicaManagers.receive (stack : Nat) (managers : ReplicaManagers) (sequenceNumber : Int)
    (sentAt : Nat) (type : PacketType) (payload : Text) : Except Fault ReplicaManagers :=
  let size := int32 (updateSize sequenceNumber sentAt type payload)
  if int32 (size + 1) < 1 then .error (.bufferSize (int32 (size + 1)))
  else if stack < int32 (size + 1) then .error .stackOverflow
  else managers.handle stack type payload

namespace Cluster

/-- A handler takes one packet after another; after an exception there is none. A size of
`2 ^ 32` and more would be read as a smaller one, and what is behind it as further packets. -/
def step (stack : Nat) (cluster : Cluster) : ClusterAction → Option Cluster
  | .lead action =>
    (cluster.leader.step action).map fun leader => { cluster with
      leader
      arriving := fun connection =>
        cluster.arriving connection ++ cluster.leader.sendsOn connection action }
  | .handle connection sequenceNumber sentAt =>
    match cluster.arriving connection, cluster.backups connection with
    | (type, payload) :: rest, .ok managers =>
      if IsInt sequenceNumber ∧ sentAt < 2 ^ 64 ∧
          updateSize sequenceNumber sentAt type payload < 2 ^ 32 then some { cluster with
        arriving := Function.update cluster.arriving connection rest
        backups := Function.update cluster.backups connection
          (managers.receive stack sequenceNumber sentAt type payload) }
      else none
    | _, _ => none

/-- A leader before it has served anybody, and backups that have joined it. -/
def start (leader : Leader) (initial : Nat → ReplicaManagers) : Cluster where
  leader
  backups connection := .ok (initial connection)

end Cluster

/-- What was published of each of the two managers, and how far each backup has read. -/
structure UpdateLogs where
  profiles : ReplicatedLog ProfileManager Nat := {}
  notifications : ReplicatedLog NotificationManager Nat := {}

inductive UpdateLogAction where
  | profile (action : LogAction ProfileManager Nat)
  | notification (action : LogAction NotificationManager Nat)

def UpdateLogs.step (logs : UpdateLogs) : UpdateLogAction → Option UpdateLogs
  | .profile action => (logs.profiles.step action).map fun profiles => { logs with profiles }
  | .notification action =>
    (logs.notifications.step action).map fun notifications => { logs with notifications }

/-- What a step of the cluster is in terms of the logs. -/
def Cluster.logged (cluster : Cluster) : ClusterAction → List UpdateLogAction
  | .lead (.profile action) =>
    (cluster.leader.profiles.published action).map fun entry => .profile (.append entry)
  | .lead (.notification action) =>
    (cluster.leader.notifications.published action).map fun entry => .notification (.append entry)
  | .handle connection _ _ =>
    match cluster.arriving connection with
    | (.updateProfile, _) :: _ => [.profile (.advance connection)]
    | (.updateNotification, _) :: _ => [.notification (.advance connection)]
    | _ => []

section Copies

variable {State Payload : Type}

/-- What a receiver holds who replaces its state by whatever it can decode. -/
def Copied (decode : Payload → Except Fault State) (encode : State → Payload) (initial : State)
    (read : List State) (copy : State) : Prop :=
  match read.getLast? with
  | none => copy = initial
  | some published => decode (encode published) = .ok copy

theorem copied_concat {decode : Payload → Except Fault State} {encode : State → Payload}
    {initial copy published : State} {read : List State}
    (decoded : decode (encode published) = .ok copy) :
    Copied decode encode initial (read ++ [published]) copy := by
  rw [Copied, List.getLast?_concat]
  exact decoded

end Copies

/-- A receiver cannot decode the payload, or it has no buffer for the packet. -/
def Fails {State : Type} (stack : Nat) (decode : Text → Except Fault State) (payload : Text)
    (fault : Fault) : Prop :=
  decode payload = .error fault ∨
    (fault = .stackOverflow ∨ ∃ size, fault = .bufferSize size) ∧
      ¬ Packet.PayloadFits stack payload

/-- What a backup has made of what it has read of the two logs, if it has not ended over
it. -/
def Restored (stack : Nat) (initial : ReplicaManagers) (profiles : List ProfileManager)
    (notifications : List NotificationManager) : Except Fault ReplicaManagers → Prop
  | .ok managers =>
    Copied ProfileManager.deserialize Leader.profilePayload initial.profileManager profiles
        managers.profileManager ∧
      Copied (NotificationManager.deserialize stack) Leader.notificationPayload
        initial.notificationManager notifications managers.notificationManager
  | .error fault =>
    (∃ published ∈ profiles,
        Fails stack ProfileManager.deserialize (Leader.profilePayload published) fault) ∨
      ∃ published ∈ notifications, Fails stack (NotificationManager.deserialize stack)
        (Leader.notificationPayload published) fault

/-- The cluster as its logs tell it. -/
structure Cluster.Reads (stack : Nat) (receivers : List Nat) (initial : Nat → ReplicaManagers)
    (cluster : Cluster) (logs : UpdateLogs) : Prop where
  group : cluster.leader.receivers = receivers
  profiles : Publisher.Follows Leader.profilePayload receivers cluster.leader.profiles
    (fun connection => payloadsOf .updateProfile (cluster.arriving connection)) logs.profiles
  notifications : Publisher.Follows Leader.notificationPayload receivers
    cluster.leader.notifications
    (fun connection => payloadsOf .updateNotification (cluster.arriving connection))
    logs.notifications
  strangers : ∀ connection ∉ receivers, cluster.arriving connection = []
  types : ∀ connection, ∀ packet ∈ cluster.arriving connection,
    packet.1 = .updateProfile ∨ packet.1 = .updateNotification
  backups : ∀ connection ∈ receivers,
    Restored stack (initial connection) (logs.profiles.read connection)
      (logs.notifications.read connection) (cluster.backups connection)

section Payloads

variable {type other : PacketType}

theorem payloadsOf_append (first second : List (PacketType × Text)) :
    payloadsOf type (first ++ second) = payloadsOf type first ++ payloadsOf type second :=
  List.filterMap_append

theorem payloadsOf_map (payloads : List Text) :
    payloadsOf type (payloads.map (other, ·)) = if other = type then payloads else [] := by
  rw [payloadsOf, List.filterMap_map]
  split
  next same => simp [same]
  next different => simp [different]

theorem payloadsOf_cons (payload : Text) (rest : List (PacketType × Text)) :
    payloadsOf type ((other, payload) :: rest) =
      if other = type then payload :: payloadsOf type rest else payloadsOf type rest := by
  rw [payloadsOf, List.filterMap_cons]
  split <;> simp_all [payloadsOf]

theorem payloadsOf_update (arriving : Nat → List (PacketType × Text)) (connection : Nat)
    (rest : List (PacketType × Text)) :
    (fun index => payloadsOf type (Function.update arriving connection rest index)) =
      Function.update (fun index => payloadsOf type (arriving index)) connection
        (payloadsOf type rest) := by
  funext index
  by_cases here : index = connection
  · subst here
    simp
  · simp [here]

end Payloads

section Restoring

variable {stack : Nat} {initial managers : ReplicaManagers} {profiles : List ProfileManager}
  {notifications : List NotificationManager} {payload : Text} {sequenceNumber : Int}
  {sentAt : Nat}

/-- A payload that fits is handled, whatever its packet's number and time. -/
theorem receive_cases (number : IsInt sequenceNumber) (clock : sentAt < 2 ^ 64)
    (type : PacketType) (payload : Text) :
    managers.receive stack sequenceNumber sentAt type payload =
        managers.handle stack type payload ∨
      ∃ fault, managers.receive stack sequenceNumber sentAt type payload = .error fault ∧
        (fault = .stackOverflow ∨ ∃ size, fault = .bufferSize size) ∧
          ¬ Packet.PayloadFits stack payload := by
  have roomy : Packet.PayloadFits stack payload →
      Socket.Roomy stack (updateSize sequenceNumber sentAt type payload) := by
    intro fits
    have shorter : (cString payload).length ≤ payload.length :=
      (List.takeWhile_prefix _).length_le
    have packetFits : ((Packet.ofPayload sentAt type payload).stamped sequenceNumber sentAt).Fits
        stack :=
      ⟨(Nat.add_le_add_right shorter _).trans_lt fits.1,
        (Nat.add_le_add_right shorter _).trans fits.2⟩
    exact packetFits.roomy ((Packet.sendable_ofPayload sentAt type payload).stamped number clock)
  unfold ReplicaManagers.receive
  dsimp only
  generalize updateSize sequenceNumber sentAt type payload = size at roomy ⊢
  have same : Socket.Roomy stack size → int32 (int32 size + 1) = size + 1 := by
    intro room
    rw [int32_of_small (Nat.lt_of_succ_lt room.1)]
    exact_mod_cast int32_of_small room.1
  by_cases fits : Packet.PayloadFits stack payload
  · have room := roomy fits
    have enough := room.2
    rw [same room, if_neg (by omega), if_neg (by omega)]
    exact Or.inl rfl
  · split
    next => exact Or.inr ⟨_, rfl, Or.inr ⟨_, rfl⟩, fits⟩
    next =>
      split
      next => exact Or.inr ⟨_, rfl, Or.inl rfl, fits⟩
      next => exact Or.inl rfl

theorem Restored.profile (restored : Restored stack initial profiles notifications (.ok managers))
    (number : IsInt sequenceNumber) (clock : sentAt < 2 ^ 64)
    {published : ProfileManager} (encodes : Leader.profilePayload published = payload) :
    Restored stack initial (profiles ++ [published]) notifications
      (managers.receive stack sequenceNumber sentAt .updateProfile payload) := by
  have member : published ∈ profiles ++ [published] :=
    List.mem_append_right _ List.mem_cons_self
  have text : cString payload = Leader.profilePayload published := by
    rw [← encodes, Leader.profilePayload, cString_of_free (nul_notMem_cString _)]
  rcases @receive_cases stack managers _ _ number clock .updateProfile payload with
    handled | ⟨fault, failed, reason, narrow⟩
  · rw [handled, ReplicaManagers.handle, text]
    cases decoded : ProfileManager.deserialize (Leader.profilePayload published) with
    | error fault => exact Or.inl ⟨published, member, Or.inl decoded⟩
    | ok copy => exact ⟨copied_concat decoded, restored.2⟩
  · rw [failed]
    exact Or.inl ⟨published, member, Or.inr ⟨reason, encodes ▸ narrow⟩⟩

theorem Restored.notification
    (restored : Restored stack initial profiles notifications (.ok managers))
    (number : IsInt sequenceNumber) (clock : sentAt < 2 ^ 64)
    {published : NotificationManager} (encodes : Leader.notificationPayload published = payload) :
    Restored stack initial profiles (notifications ++ [published])
      (managers.receive stack sequenceNumber sentAt .updateNotification payload) := by
  have member : published ∈ notifications ++ [published] :=
    List.mem_append_right _ List.mem_cons_self
  have text : cString payload = Leader.notificationPayload published := by
    rw [← encodes, Leader.notificationPayload, cString_of_free (nul_notMem_cString _)]
  rcases @receive_cases stack managers _ _ number clock .updateNotification payload with
    handled | ⟨fault, failed, reason, narrow⟩
  · rw [handled, ReplicaManagers.handle, text]
    cases decoded : NotificationManager.deserialize stack
        (Leader.notificationPayload published) with
    | error fault => exact Or.inr ⟨published, member, Or.inl decoded⟩
    | ok copy => exact ⟨restored.1, copied_concat decoded⟩
  · rw [failed]
    exact Or.inr ⟨published, member, Or.inr ⟨reason, encodes ▸ narrow⟩⟩

end Restoring

namespace UpdateLogs

theorem run_profiles (logs : UpdateLogs) (entries : List ProfileManager) :
    run step logs (entries.map fun entry => .profile (.append entry)) =
      some { logs with profiles := logs.profiles.append entries } := by
  induction entries generalizing logs with
  | nil => simp [ReplicatedLog.append]
  | cons entry rest ih =>
    rw [List.map_cons, run_cons]
    refine ⟨_, rfl, (ih _).trans ?_⟩
    simp [ReplicatedLog.append]

theorem run_notifications (logs : UpdateLogs) (entries : List NotificationManager) :
    run step logs (entries.map fun entry => .notification (.append entry)) =
      some { logs with notifications := logs.notifications.append entries } := by
  induction entries generalizing logs with
  | nil => simp [ReplicatedLog.append]
  | cons entry rest ih =>
    rw [List.map_cons, run_cons]
    refine ⟨_, rfl, (ih _).trans ?_⟩
    simp [ReplicatedLog.append]

end UpdateLogs

namespace Cluster

variable {stack : Nat} {receivers : List Nat} {initial : Nat → ReplicaManagers}
  {cluster next : Cluster} {logs : UpdateLogs}

/-- Only updates are sent. -/
theorem types_lead (reads : cluster.Reads stack receivers initial logs) (action : LeaderAction)
    (connection : Nat) :
    ∀ packet ∈ cluster.arriving connection ++ cluster.leader.sendsOn connection action,
      packet.1 = .updateProfile ∨ packet.1 = .updateNotification := by
  intro packet member
  rcases List.mem_append.mp member with old | new
  · exact reads.types connection packet old
  · cases action with
    | profile action =>
      obtain ⟨payload, -, rfl⟩ := List.mem_map.mp new
      exact Or.inl rfl
    | notification action =>
      obtain ⟨payload, -, rfl⟩ := List.mem_map.mp new
      exact Or.inr rfl

theorem Reads.types_update (reads : cluster.Reads stack receivers initial logs) {connection : Nat}
    {first : PacketType × Text} {rest : List (PacketType × Text)}
    (arriving : cluster.arriving connection = first :: rest) :
    ∀ other, ∀ packet ∈ Function.update cluster.arriving connection rest other,
      packet.1 = .updateProfile ∨ packet.1 = .updateNotification := by
  intro other packet member
  rw [Function.update_apply] at member
  split at member
  next => exact reads.types connection packet (arriving ▸ List.mem_cons_of_mem _ member)
  next => exact reads.types other packet member

theorem Reads.leadProfile (reads : cluster.Reads stack receivers initial logs)
    (distinct : receivers.Nodup) {action : PublisherAction ProfileOperation}
    {profiles : Publisher ProfileManager Nat Text}
    (moved : Publisher.Moved ProfileManager.operate Leader.profilePayload receivers
      cluster.leader.profiles action profiles) :
    Reads stack receivers initial { cluster with
        leader := { cluster.leader with profiles }
        arriving := fun connection => cluster.arriving connection ++
          cluster.leader.sendsOn connection (.profile action) }
      { logs with
        profiles := logs.profiles.append (cluster.leader.profiles.published action) } := by
  refine ⟨reads.group, ?_, ?_, ?_, types_lead reads (.profile action), ?_⟩
  · have follows := reads.profiles.step distinct moved
    simpa [Leader.sendsOn, payloadsOf_append, payloadsOf_map] using follows
  · simpa [Leader.sendsOn, payloadsOf_append, payloadsOf_map] using reads.notifications
  · intro connection stranger
    dsimp only
    rw [Leader.sendsOn, Publisher.sendsTo_stranger stranger reads.profiles.due,
      reads.strangers connection stranger]
    rfl
  · intro connection receives
    dsimp only
    rw [ReplicatedLog.read_append reads.profiles.behind]
    exact reads.backups connection receives

theorem Reads.leadNotification (reads : cluster.Reads stack receivers initial logs)
    (distinct : receivers.Nodup) {action : PublisherAction Operation}
    {notifications : Publisher NotificationManager Nat Text}
    (moved : Publisher.Moved NotificationManager.operate Leader.notificationPayload receivers
      cluster.leader.notifications action notifications) :
    Reads stack receivers initial { cluster with
        leader := { cluster.leader with notifications }
        arriving := fun connection => cluster.arriving connection ++
          cluster.leader.sendsOn connection (.notification action) }
      { logs with
        notifications :=
          logs.notifications.append (cluster.leader.notifications.published action) } := by
  refine ⟨reads.group, ?_, ?_, ?_, types_lead reads (.notification action), ?_⟩
  · simpa [Leader.sendsOn, payloadsOf_append, payloadsOf_map] using reads.profiles
  · have follows := reads.notifications.step distinct moved
    simpa [Leader.sendsOn, payloadsOf_append, payloadsOf_map] using follows
  · intro connection stranger
    dsimp only
    rw [Leader.sendsOn, Publisher.sendsTo_stranger stranger reads.notifications.due,
      reads.strangers connection stranger]
    rfl
  · intro connection receives
    dsimp only
    rw [ReplicatedLog.read_append reads.notifications.behind]
    exact reads.backups connection receives

/-- A packet less on its way to one of the receivers. -/
theorem Reads.strangers_update (reads : cluster.Reads stack receivers initial logs) {connection : Nat}
    (receives : connection ∈ receivers) (rest : List (PacketType × Text)) :
    ∀ other ∉ receivers, Function.update cluster.arriving connection rest other = [] := by
  intro other stranger
  have different : other ≠ connection := fun same => stranger (same ▸ receives)
  rw [Function.update_of_ne different]
  exact reads.strangers other stranger

theorem follows_unchanged {State : Type} {encode : State → Text}
    {publisher : Publisher State Nat Text} {log : ReplicatedLog State Nat}
    {arriving : Nat → List (PacketType × Text)} {type : PacketType} {connection : Nat}
    {rest : List (PacketType × Text)}
    (follows : Publisher.Follows encode receivers publisher
      (fun index => payloadsOf type (arriving index)) log)
    (same : payloadsOf type (arriving connection) = payloadsOf type rest) :
    Publisher.Follows encode receivers publisher
      (fun index => payloadsOf type (Function.update arriving connection rest index)) log := by
  rw [payloadsOf_update, ← same, Function.update_eq_self]
  exact follows

theorem Reads.handleProfile (reads : cluster.Reads stack receivers initial logs) {connection : Nat}
    (receives : connection ∈ receivers) {payload : Text} {rest : List (PacketType × Text)}
    (arriving : cluster.arriving connection = (.updateProfile, payload) :: rest)
    {managers : ReplicaManagers} (alive : cluster.backups connection = .ok managers)
    {sequenceNumber : Int} (number : IsInt sequenceNumber) {sentAt : Nat}
    (clock : sentAt < 2 ^ 64) :
    ∃ profiles, logs.profiles.step (.advance connection) = some profiles ∧
      Reads stack receivers initial { cluster with
        arriving := Function.update cluster.arriving connection rest
        backups := Function.update cluster.backups connection
          (managers.receive stack sequenceNumber sentAt .updateProfile payload) }
        { logs with profiles } := by
  have first : payloadsOf .updateProfile (cluster.arriving connection) =
      payload :: payloadsOf .updateProfile rest := by
    rw [arriving, payloadsOf_cons, if_pos rfl]
  have others : payloadsOf .updateNotification (cluster.arriving connection) =
      payloadsOf .updateNotification rest := by
    rw [arriving, payloadsOf_cons, if_neg (by decide)]
  obtain ⟨published, later, unread, encoded⟩ := reads.profiles.unread_cons receives first
  refine ⟨_, ReplicatedLog.step_advance unread, reads.group, ?_,
    follows_unchanged reads.notifications others, reads.strangers_update receives rest,
    reads.types_update arriving, ?_⟩
  · rw [payloadsOf_update]
    exact reads.profiles.take first unread
  · intro other member
    have before := reads.backups other member
    dsimp only
    rw [ReplicatedLog.read_advance unread]
    by_cases here : other = connection
    · subst here
      rw [Function.update_self, if_pos rfl]
      exact (alive ▸ before).profile number clock encoded
    · rw [Function.update_of_ne here, if_neg here]
      exact before

theorem Reads.handleNotification (reads : cluster.Reads stack receivers initial logs)
    {connection : Nat} (receives : connection ∈ receivers) {payload : Text} {rest : List (PacketType × Text)}
    (arriving : cluster.arriving connection = (.updateNotification, payload) :: rest)
    {managers : ReplicaManagers} (alive : cluster.backups connection = .ok managers)
    {sequenceNumber : Int} (number : IsInt sequenceNumber) {sentAt : Nat}
    (clock : sentAt < 2 ^ 64) :
    ∃ notifications, logs.notifications.step (.advance connection) = some notifications ∧
      Reads stack receivers initial { cluster with
        arriving := Function.update cluster.arriving connection rest
        backups := Function.update cluster.backups connection
          (managers.receive stack sequenceNumber sentAt .updateNotification payload) }
        { logs with notifications } := by
  have first : payloadsOf .updateNotification (cluster.arriving connection) =
      payload :: payloadsOf .updateNotification rest := by
    rw [arriving, payloadsOf_cons, if_pos rfl]
  have others : payloadsOf .updateProfile (cluster.arriving connection) =
      payloadsOf .updateProfile rest := by
    rw [arriving, payloadsOf_cons, if_neg (by decide)]
  obtain ⟨published, later, unread, encoded⟩ := reads.notifications.unread_cons receives first
  refine ⟨_, ReplicatedLog.step_advance unread, reads.group,
    follows_unchanged reads.profiles others, ?_, reads.strangers_update receives rest,
    reads.types_update arriving, ?_⟩
  · rw [payloadsOf_update]
    exact reads.notifications.take first unread
  · intro other member
    have before := reads.backups other member
    dsimp only
    rw [ReplicatedLog.read_advance unread]
    by_cases here : other = connection
    · subst here
      rw [Function.update_self, if_pos rfl]
      exact (alive ▸ before).notification number clock encoded
    · rw [Function.update_of_ne here, if_neg here]
      exact before

/-- The cluster refines its logs. -/
theorem simulation (distinct : receivers.Nodup) :
    Simulation (step stack) UpdateLogs.step logged (fun _ _ => True)
      (Reads stack receivers initial) where
  matchStep := by
    intro cluster next action logs reads _ taken
    cases action with
    | lead action =>
      obtain ⟨leader, led, rfl⟩ := Option.map_eq_some_iff.mp taken
      have moved := Leader.moved_step led
      cases moved with
      | profile action profiles admissible moved =>
        exact ⟨_, logs.run_profiles _, reads.leadProfile distinct (reads.group ▸ moved)⟩
      | notification action notifications admissible moved =>
        exact ⟨_, logs.run_notifications _, reads.leadNotification distinct (reads.group ▸ moved)⟩
    | handle connection sequenceNumber sentAt =>
      rw [step] at taken
      split at taken
      next type payload rest managers arriving alive =>
        obtain ⟨⟨number, clock, -⟩, same⟩ := Option.ite_none_right_eq_some.mp taken
        obtain rfl := Option.some.inj same
        have receives : connection ∈ receivers := by
          by_contra stranger
          rw [reads.strangers connection stranger] at arriving
          cases arriving
        rw [logged, arriving]
        rcases reads.types connection (type, payload) (arriving ▸ List.mem_cons_self) with
          rfl | rfl
        · obtain ⟨profiles, advanced, later⟩ :=
            reads.handleProfile receives arriving alive number clock
          exact ⟨_, run_cons.mpr ⟨_, Option.map_eq_some_iff.mpr ⟨profiles, advanced, rfl⟩, rfl⟩,
            later⟩
        · obtain ⟨notifications, advanced, later⟩ :=
            reads.handleNotification receives arriving alive number clock
          exact ⟨_, run_cons.mpr
            ⟨_, Option.map_eq_some_iff.mpr ⟨notifications, advanced, rfl⟩, rfl⟩, later⟩
      next => cases taken

end Cluster

end TwitterClone
