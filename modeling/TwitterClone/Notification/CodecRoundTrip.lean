import TwitterClone.Notification.Codec

/-! What a backup reads is what the leader wrote, layer by layer. -/
namespace TwitterClone

open Foundation InputStream

/-- A name that a stream reads as one word. -/
def IsWord (name : Text) : Prop := name ≠ [] ∧ ∀ byte ∈ name, isSpace byte = false

instance decidableIsWord (name : Text) : Decidable (IsWord name) :=
  have := List.decidableBAll (fun byte => isSpace byte = false) name
  inferInstanceAs (Decidable (name ≠ [] ∧ ∀ byte ∈ name, isSpace byte = false))

namespace Notification

/-- The values a notification can have. -/
structure Readable (notification : Notification) : Prop where
  id : IsInt notification.id
  timestamp : notification.timestamp < 2 ^ 64
  username : IsWord notification.username
  pendingCount : IsInt notification.pendingCount
  message : nul ∉ notification.message ∧ newline ∉ notification.message

/-- Terminated buffers and `int` lengths can hold its text, and the stack has room for it
and for its message at once. -/
structure Fits (stack : Nat) (notification : Notification) : Prop where
  username : nul ∉ notification.username
  size : notification.serializeAll.length < 2 ^ 31
  room : notification.serializeAll.length + notification.message.length ≤ stack

instance decidableReadable (notification : Notification) : Decidable notification.Readable :=
  decidable_of_iff (IsInt notification.id ∧ notification.timestamp < 2 ^ 64 ∧
      IsWord notification.username ∧ IsInt notification.pendingCount ∧
        nul ∉ notification.message ∧ newline ∉ notification.message)
    ⟨fun ⟨id, timestamp, username, pendingCount, message⟩ =>
        ⟨id, timestamp, username, pendingCount, message⟩,
      fun readable => ⟨readable.id, readable.timestamp, readable.username, readable.pendingCount,
        readable.message⟩⟩

instance decidableFits (stack : Nat) (notification : Notification) :
    Decidable (notification.Fits stack) :=
  decidable_of_iff (nul ∉ notification.username ∧ notification.serializeAll.length < 2 ^ 31 ∧
      notification.serializeAll.length + notification.message.length ≤ stack)
    ⟨fun ⟨username, size, room⟩ => ⟨username, size, room⟩,
      fun fits => ⟨fits.username, fits.size, fits.room⟩⟩

variable {stack : Nat} {notification : Notification}

theorem serializeAll_eq (readable : notification.Readable) :
    notification.serializeAll = showInt notification.id ++ ' ' ::
      (showNat notification.timestamp ++ ' ' :: (notification.username ++ ' ' ::
        (showInt notification.pendingCount ++ ' ' :: block notification.message))) := by
  rw [serializeAll, cString_of_free readable.message.1, block]

/-- When each stream gives its value and hands on the next, all depends on the message. -/
private theorem deserializeAll_of_reads {raw username : Text} {id pendingCount : Int}
    {timestamp : Nat} {first second third fourth : InputStream}
    (readId : (of raw).readInt = (some id, first))
    (readTimestamp : first.readUnsigned = (some timestamp, second))
    (readUsername : second.readWord = (some username, third))
    (readCount : third.readInt = (some pendingCount, fourth)) :
    deserializeAll stack raw = (fourth.readBlock stack).map fun read =>
      ⟨id, timestamp, username, pendingCount, read.1⟩ := by
  unfold deserializeAll
  rw [readId]
  dsimp only
  rw [readTimestamp]
  dsimp only
  rw [readUsername]
  dsimp only
  rw [readCount]
  dsimp only
  cases fourth.readBlock stack <;> rfl

/-- Every field is read back, one blank apart from the next, up to the message. -/
theorem deserializeAll_eq (readable : notification.Readable) :
    deserializeAll stack notification.serializeAll =
      ((of (' ' :: block notification.message)).readBlock stack).map fun read =>
        { notification with message := read.1 } := by
  have id := readInt_showInt (enter_of (ink_showInt notification.id) (showInt_ne_nil _)
    (' ' :: (showNat notification.timestamp ++ ' ' :: (notification.username ++ ' ' ::
      (showInt notification.pendingCount ++ ' ' :: block notification.message)))))
    readable.id (by simp)
  have timestamp := readUnsigned_showNat (enter_blank (ink_showNat notification.timestamp)
    (showNat_ne_nil _) (' ' :: (notification.username ++ ' ' ::
      (showInt notification.pendingCount ++ ' ' :: block notification.message))))
    readable.timestamp (by simp)
  have username := readWord_text (enter_blank readable.username.2 readable.username.1
    (' ' :: (showInt notification.pendingCount ++ ' ' :: block notification.message)))
    readable.username.2
  have pendingCount := readInt_showInt (enter_blank (ink_showInt notification.pendingCount)
    (showInt_ne_nil _) (' ' :: block notification.message)) readable.pendingCount (by simp)
  rw [serializeAll_eq readable]
  exact deserializeAll_of_reads id timestamp username pendingCount

theorem length_message_lt (readable : notification.Readable)
    (size : notification.serializeAll.length < 2 ^ 31) :
    notification.message.length < 2 ^ 31 := by
  rw [serializeAll_eq readable] at size
  simp only [block, List.length_append, List.length_cons] at size
  omega

theorem deserializeAll_serializeAll (readable : notification.Readable)
    (size : notification.serializeAll.length < 2 ^ 31)
    (room : notification.message.length ≤ stack) :
    deserializeAll stack notification.serializeAll = .ok notification := by
  have message := readBlock_block (enter_block_blank notification.message [])
    (length_message_lt readable size) room readable.message.1
  rw [List.append_nil] at message
  rw [deserializeAll_eq readable, message]
  rfl

theorem deserializeAll_narrow (readable : notification.Readable)
    (size : notification.serializeAll.length < 2 ^ 31)
    (narrow : stack < notification.message.length) :
    deserializeAll stack notification.serializeAll = .error .stackOverflow := by
  have message := readBlock_narrow (enter_block_blank notification.message [])
    (length_message_lt readable size) narrow
  rw [List.append_nil] at message
  rw [deserializeAll_eq readable, message]
  rfl

theorem Fits.whole (fits : notification.Fits stack) : notification.serializeAll.length ≤ stack :=
  le_of_add_le_left fits.room

theorem Fits.decoded (fits : notification.Fits stack) (readable : notification.Readable) :
    deserializeAll (stack - notification.serializeAll.length) notification.serializeAll =
      .ok notification :=
  deserializeAll_serializeAll readable fits.size (Nat.le_sub_of_add_le' fits.room)

end Notification

namespace PendingNotification

structure Readable (pending : PendingNotification) : Prop where
  sender : IsWord pending.sender
  notificationId : IsInt pending.notificationId

instance decidableReadable (pending : PendingNotification) : Decidable pending.Readable :=
  decidable_of_iff (IsWord pending.sender ∧ IsInt pending.notificationId)
    ⟨fun ⟨sender, notificationId⟩ => ⟨sender, notificationId⟩,
      fun readable => ⟨readable.sender, readable.notificationId⟩⟩

theorem deserialize_serialize {pending : PendingNotification} (readable : pending.Readable) :
    deserialize pending.serialize = pending := by
  have sender := readWord_text (enter_of readable.sender.2 readable.sender.1
    (' ' :: showInt pending.notificationId)) readable.sender.2
  have notificationId := readInt_showInt
    (enter_blank (ink_showInt pending.notificationId) (showInt_ne_nil _) [])
    readable.notificationId stops_nil
  rw [List.append_nil] at notificationId
  unfold deserialize serialize
  rw [sender]
  dsimp only
  rw [notificationId]
  rfl

end PendingNotification

namespace NotificationQueue

structure Readable (queue : NotificationQueue) : Prop where
  entries : ∀ pending ∈ queue.pendingQueue, pending.Readable

/-- The stack has room for the text and for each entry of it at once. -/
structure Fits (stack : Nat) (queue : NotificationQueue) : Prop where
  senders : ∀ pending ∈ queue.pendingQueue, nul ∉ pending.sender
  size : queue.serialize.length < 2 ^ 31
  whole : queue.serialize.length ≤ stack
  entries : ∀ pending ∈ queue.pendingQueue,
    queue.serialize.length + pending.serialize.length ≤ stack

instance decidableReadable (queue : NotificationQueue) : Decidable queue.Readable :=
  decidable_of_iff (∀ pending ∈ queue.pendingQueue, pending.Readable)
    ⟨fun entries => ⟨entries⟩, fun readable => readable.entries⟩

instance decidableFits (stack : Nat) (queue : NotificationQueue) : Decidable (queue.Fits stack) :=
  decidable_of_iff ((∀ pending ∈ queue.pendingQueue, nul ∉ pending.sender) ∧
      queue.serialize.length < 2 ^ 31 ∧ queue.serialize.length ≤ stack ∧
      ∀ pending ∈ queue.pendingQueue, queue.serialize.length + pending.serialize.length ≤ stack)
    ⟨fun ⟨senders, size, whole, entries⟩ => ⟨senders, size, whole, entries⟩,
      fun fits => ⟨fits.senders, fits.size, fits.whole, fits.entries⟩⟩

theorem nul_notMem_pending {pending : PendingNotification} (free : nul ∉ pending.sender) :
    nul ∉ pending.serialize := by
  have blank : nul ≠ ' ' := by decide
  simp only [PendingNotification.serialize, List.mem_append, List.mem_cons, not_or]
  exact ⟨free, blank, notMem_showInt rfl (by decide) _⟩

/-- The entries of a queue, each behind a blank and its length. -/
private def entryBlocks (entries : List PendingNotification) : Text :=
  entries.flatMap fun pending => ' ' :: block pending.serialize

private theorem length_le_entryBlocks (entries : List PendingNotification) :
    entries.length ≤ (entryBlocks entries).length := by
  induction entries with
  | nil => exact le_rfl
  | cons pending rest ih =>
    simp only [entryBlocks, List.flatMap_cons, List.length_cons, List.length_append] at ih ⊢
    omega

private theorem readPending_entryBlocks {stack : Nat} (entries : List PendingNotification)
    (readable : ∀ pending ∈ entries, pending.Readable)
    (free : ∀ pending ∈ entries, nul ∉ pending.sender)
    (room : ∀ pending ∈ entries, pending.serialize.length ≤ stack)
    (short : (entryBlocks entries).length < 2 ^ 31) :
    readPending stack entries.length (of (entryBlocks entries)) = .ok entries := by
  induction entries with
  | nil => rfl
  | cons pending rest ih =>
    have shape : entryBlocks (pending :: rest) =
        ' ' :: (block pending.serialize ++ entryBlocks rest) := rfl
    have sizes : pending.serialize.length < 2 ^ 31 ∧ (entryBlocks rest).length < 2 ^ 31 := by
      rw [shape] at short
      simp only [block, List.length_cons, List.length_append] at short
      omega
    have first := readBlock_block (enter_block_blank pending.serialize (entryBlocks rest)) sizes.1
      (room pending List.mem_cons_self) (nul_notMem_pending (free pending List.mem_cons_self))
    have later := ih (fun other member => readable other (List.mem_cons_of_mem pending member))
      (fun other member => free other (List.mem_cons_of_mem pending member))
      (fun other member => room other (List.mem_cons_of_mem pending member)) sizes.2
    have same := PendingNotification.deserialize_serialize (readable pending List.mem_cons_self)
    rw [shape, List.length_cons, readPending, first]
    dsimp only
    rw [later, same]

/-- A queue comes back with its entries in order and without subscribers. -/
theorem deserialize_serialize {stack : Nat} {queue : NotificationQueue}
    (readable : queue.Readable) (fits : queue.Fits stack) :
    deserialize (stack - queue.serialize.length) queue.serialize =
      .ok { pendingQueue := queue.pendingQueue } := by
  have shape : queue.serialize =
      showNat queue.pendingQueue.length ++ entryBlocks queue.pendingQueue := rfl
  have sizes := fits.size
  have count := length_le_entryBlocks queue.pendingQueue
  rw [shape, List.length_append] at sizes
  have stops : Stops (entryBlocks queue.pendingQueue) := by
    cases queue.pendingQueue <;> simp [entryBlocks]
  have size := readInt_showNat (enter_of (ink_showNat queue.pendingQueue.length)
    (showNat_ne_nil _) _) (by omega) stops
  have entries : readPending (stack - queue.serialize.length) queue.pendingQueue.length
      (after (entryBlocks queue.pendingQueue)) = .ok queue.pendingQueue := by
    have room : ∀ pending ∈ queue.pendingQueue,
        pending.serialize.length ≤ stack - queue.serialize.length := fun pending member =>
      Nat.le_sub_of_add_le' (fits.entries pending member)
    have read := readPending_entryBlocks queue.pendingQueue readable.entries fits.senders room
      (by omega)
    cases waiting : queue.pendingQueue with
    | nil => rfl
    | cons pending rest =>
      rw [waiting] at read
      exact read
  unfold deserialize
  rw [shape, size, ← shape]
  dsimp only
  rw [Int.toNat_natCast, entries]

end NotificationQueue

namespace NotificationManager

/-- The states the round trip is about: `int` ids, names of one word, messages of
one line. -/
structure Readable (manager : NotificationManager) : Prop where
  nextId : manager.nextId < 2 ^ 31
  senders : ∀ entry ∈ manager.notifications.entries,
    IsWord entry.1 ∧ ∀ notification ∈ entry.2, notification.Readable
  users : ∀ entry ∈ manager.pendingQueues.entries, IsWord entry.1 ∧ entry.2.Readable

/-- Its texts fit terminated buffers whose length is an `int` and which the stack has room
for. -/
structure Fits (stack : Nat) (manager : NotificationManager) : Prop where
  senders : ∀ entry ∈ manager.notifications.entries,
    entry.2.length < 2 ^ 31 ∧ ∀ notification ∈ entry.2, notification.Fits stack
  users : ∀ entry ∈ manager.pendingQueues.entries, entry.2.Fits stack

instance decidableReadable (manager : NotificationManager) : Decidable manager.Readable :=
  decidable_of_iff (manager.nextId < 2 ^ 31 ∧
      (∀ entry ∈ manager.notifications.entries,
        IsWord entry.1 ∧ ∀ notification ∈ entry.2, notification.Readable) ∧
      ∀ entry ∈ manager.pendingQueues.entries, IsWord entry.1 ∧ entry.2.Readable)
    ⟨fun ⟨nextId, senders, users⟩ => ⟨nextId, senders, users⟩,
      fun readable => ⟨readable.nextId, readable.senders, readable.users⟩⟩

instance decidableFits (stack : Nat) (manager : NotificationManager) :
    Decidable (manager.Fits stack) :=
  decidable_of_iff ((∀ entry ∈ manager.notifications.entries,
        entry.2.length < 2 ^ 31 ∧ ∀ notification ∈ entry.2, notification.Fits stack) ∧
      ∀ entry ∈ manager.pendingQueues.entries, entry.2.Fits stack)
    ⟨fun ⟨senders, users⟩ => ⟨senders, users⟩, fun fits => ⟨fits.senders, fits.users⟩⟩

variable {stack : Nat}

theorem newline_notMem_word {name : Text} (word : IsWord name) : newline ∉ name := by
  intro member
  have ink := word.2 newline member
  cases ink

section Notifications

theorem nul_notMem_serializeAll {notification : Notification}
    (readable : notification.Readable) (username : nul ∉ notification.username) :
    nul ∉ notification.serializeAll := by
  have blank : nul ≠ ' ' := by decide
  rw [Notification.serializeAll_eq readable]
  simp only [block, List.mem_append, List.mem_cons, not_or]
  exact ⟨notMem_showInt rfl (by decide) _, blank, notMem_showNat rfl _, blank, username,
    blank, notMem_showInt rfl (by decide) _, blank, notMem_showNat rfl _, blank,
    readable.message.1⟩

theorem newline_notMem_serializeAll {notification : Notification}
    (readable : notification.Readable) : newline ∉ notification.serializeAll := by
  have blank : newline ≠ ' ' := by decide
  rw [Notification.serializeAll_eq readable]
  simp only [block, List.mem_append, List.mem_cons, not_or]
  exact ⟨notMem_showInt rfl (by decide) _, blank, notMem_showNat rfl _, blank,
    newline_notMem_word readable.username, blank, notMem_showInt rfl (by decide) _, blank,
    notMem_showNat rfl _, blank, readable.message.2⟩

/-- One turn of the loop, when all three reads succeed. -/
theorem readNotifications_succ {size left : Nat} {stream next : InputStream} {buffer : Text}
    {notification : Notification} {later : List Notification}
    (readBuffer : stream.readBlock stack = .ok (buffer, left, next))
    (decoded : Notification.deserializeAll left buffer = .ok notification)
    (more : readNotifications stack size next.ignore = .ok later) :
    readNotifications stack (size + 1) stream = .ok (notification :: later) := by
  simp only [readNotifications, readBuffer, decoded, more]

/-- From the second notification on, a comma is skipped before each. -/
private theorem readNotifications_rest (notifications : List Notification)
    (readable : ∀ notification ∈ notifications, notification.Readable)
    (fits : ∀ notification ∈ notifications, notification.Fits stack) :
    readNotifications stack notifications.length (of (serializeEach false notifications)).ignore =
      .ok notifications := by
  induction notifications with
  | nil => rfl
  | cons notification rest ih =>
    have valid := readable notification List.mem_cons_self
    have small := fits notification List.mem_cons_self
    have first := readBlock_block
      (enter_block notification.serializeAll (serializeEach false rest)) small.size small.whole
      (nul_notMem_serializeAll valid small.username)
    have later := ih (fun other member => readable other (List.mem_cons_of_mem notification member))
      (fun other member => fits other (List.mem_cons_of_mem notification member))
    have comma : (of (serializeEach false (notification :: rest))).ignore =
        of (block notification.serializeAll ++ serializeEach false rest) := by
      simp only [serializeEach, Bool.false_eq_true, ↓reduceIte, List.singleton_append]
      exact ignore_cons ',' _
    rw [comma]
    exact readNotifications_succ first (small.decoded valid) later

private theorem readNotifications_each (notifications : List Notification)
    (readable : ∀ notification ∈ notifications, notification.Readable)
    (fits : ∀ notification ∈ notifications, notification.Fits stack) :
    readNotifications stack notifications.length (of (' ' :: serializeEach true notifications)) =
      .ok notifications := by
  cases notifications with
  | nil => rfl
  | cons notification rest =>
    have valid := readable notification List.mem_cons_self
    have small := fits notification List.mem_cons_self
    have first := readBlock_block
      (enter_block_blank notification.serializeAll (serializeEach false rest)) small.size
      small.whole (nul_notMem_serializeAll valid small.username)
    have later := readNotifications_rest rest
      (fun other member => readable other (List.mem_cons_of_mem notification member))
      (fun other member => fits other (List.mem_cons_of_mem notification member))
    have shape : serializeEach true (notification :: rest) =
        block notification.serializeAll ++ serializeEach false rest := by
      simp only [serializeEach, ↓reduceIte, List.nil_append]
    rw [shape]
    exact readNotifications_succ first (small.decoded valid) later

theorem deserializeList_serializeList {entry : Text × List Notification} (word : IsWord entry.1)
    (readable : ∀ notification ∈ entry.2, notification.Readable)
    (few : entry.2.length < 2 ^ 31) (fits : ∀ notification ∈ entry.2, notification.Fits stack) :
    deserializeList stack (serializeList entry) = .ok entry := by
  have key := readWord_text (enter_of word.2 word.1
    (' ' :: (showNat entry.2.length ++ ' ' :: serializeEach true entry.2))) word.2
  have size := readInt_showNat (enter_blank (ink_showNat entry.2.length) (showNat_ne_nil _)
    (' ' :: serializeEach true entry.2)) few (by simp)
  unfold deserializeList serializeList
  rw [key]
  dsimp only
  rw [size]
  dsimp only
  rw [after_cons, Int.toNat_natCast, readNotifications_each entry.2 readable fits]
  rfl

private theorem newline_notMem_serializeEach (notifications : List Notification)
    (readable : ∀ notification ∈ notifications, notification.Readable) (first : Bool) :
    newline ∉ serializeEach first notifications := by
  have comma : newline ∉ (if first then [] else [','] : Text) := by
    cases first <;> decide
  have blank : newline ≠ ' ' := by decide
  induction notifications generalizing first with
  | nil => exact List.not_mem_nil
  | cons notification rest ih =>
    have later := ih (fun other member =>
      readable other (List.mem_cons_of_mem notification member)) false (by decide)
    simp only [serializeEach, block, List.mem_append, List.mem_cons, not_or]
    exact ⟨comma, ⟨notMem_showNat rfl _, blank,
      newline_notMem_serializeAll (readable notification List.mem_cons_self)⟩, later⟩

theorem newline_notMem_serializeList {entry : Text × List Notification} (word : IsWord entry.1)
    (readable : ∀ notification ∈ entry.2, notification.Readable) :
    newline ∉ serializeList entry := by
  have blank : newline ≠ ' ' := by decide
  simp only [serializeList, List.mem_append, List.mem_cons, not_or]
  exact ⟨newline_notMem_word word, blank, notMem_showNat rfl _, blank,
    newline_notMem_serializeEach entry.2 readable true⟩

end Notifications

section Queues

private theorem nul_notMem_entryBlocks (entries : List PendingNotification)
    (free : ∀ pending ∈ entries, nul ∉ pending.sender) :
    nul ∉ entries.flatMap fun pending => ' ' :: block pending.serialize := by
  have blank : nul ≠ ' ' := by decide
  intro member
  obtain ⟨pending, inside, here⟩ := List.mem_flatMap.mp member
  revert here
  simp only [block, List.mem_append, List.mem_cons, imp_false, not_or]
  exact ⟨blank, notMem_showNat rfl _, blank,
    NotificationQueue.nul_notMem_pending (free pending inside)⟩

theorem deserializeQueue_serializeQueue {entry : Text × NotificationQueue} (word : IsWord entry.1)
    (readable : entry.2.Readable) (fits : entry.2.Fits stack) :
    deserializeQueue stack (serializeQueue entry) =
      .ok (entry.1, { pendingQueue := entry.2.pendingQueue }) := by
  have free : nul ∉ entry.2.serialize := by
    simp only [NotificationQueue.serialize, List.mem_append, not_or]
    exact ⟨notMem_showNat rfl _, nul_notMem_entryBlocks _ fits.senders⟩
  have key := readWord_text (enter_of word.2 word.1 (' ' :: block entry.2.serialize))
    word.2
  have queue := readBlock_block (enter_block_blank entry.2.serialize []) fits.size fits.whole
    free
  rw [List.append_nil] at queue
  unfold deserializeQueue serializeQueue
  rw [key]
  dsimp only
  rw [queue]
  dsimp only
  rw [NotificationQueue.deserialize_serialize readable fits]
  rfl

theorem newline_notMem_serializeQueue {entry : Text × NotificationQueue} (word : IsWord entry.1)
    (readable : entry.2.Readable) : newline ∉ serializeQueue entry := by
  have blank : newline ≠ ' ' := by decide
  simp only [serializeQueue, block, NotificationQueue.serialize, List.mem_append, List.mem_cons,
    not_or]
  refine ⟨newline_notMem_word word, blank, notMem_showNat rfl _, blank, notMem_showNat rfl _, ?_⟩
  intro member
  obtain ⟨pending, inside, here⟩ := List.mem_flatMap.mp member
  revert here
  simp only [PendingNotification.serialize, List.mem_append, List.mem_cons, imp_false, not_or]
  exact ⟨blank, notMem_showNat rfl _, blank,
    newline_notMem_word (readable.entries pending inside).sender, blank,
    notMem_showInt rfl (by decide) _⟩

end Queues

section Sections

variable {Value : Type}

/-- Lines under different keys fill the map in their order. -/
theorem readLines_entries (read : Text → Except Fault (Text × Value))
    {Source : Type} (line : Text × Source → Text) (value : Source → Value)
    (entries : List (Text × Source)) (distinct : (entries.map Prod.fst).Nodup)
    (reads : ∀ entry ∈ entries, line entry ≠ [] ∧ read (line entry) = .ok (entry.1, value entry.2))
    (map : UnorderedMap Text Value) (fresh : ∀ entry ∈ entries, entry.1 ∉ map) :
    ∃ result, readLines read map (entries.map line ++ [[]]) = .ok result ∧
      result.entries = map.entries ++ entries.map fun entry => (entry.1, value entry.2) := by
  induction entries generalizing map with
  | nil => exact ⟨map, by simp [readLines], by simp⟩
  | cons entry rest ih =>
    obtain ⟨absent, distinctRest⟩ := List.nodup_cons.mp distinct
    obtain ⟨nonempty, decoded⟩ := reads entry List.mem_cons_self
    have freshRest : ∀ other ∈ rest, other.1 ∉ map.emplace entry.1 (value entry.2) := by
      intro other member
      rw [UnorderedMap.mem_emplace, not_or]
      refine ⟨?_, fresh other (List.mem_cons_of_mem entry member)⟩
      intro same
      exact absent (same ▸ List.mem_map_of_mem member)
    obtain ⟨result, loaded, shape⟩ := ih distinctRest
      (fun other member => reads other (List.mem_cons_of_mem entry member)) _ freshRest
    refine ⟨result, ?_, ?_⟩
    · rw [List.map_cons, List.cons_append, readLines, if_neg nonempty, decoded]
      exact loaded
    · rw [shape, UnorderedMap.entries_emplace_of_notMem _ _ _ (fresh entry List.mem_cons_self)]
      simp

/-- A line with a blank in it is not the `&` of the mark. -/
theorem not_mark_line {line rest : Text} (free : newline ∉ line) (blank : ' ' ∈ line) :
    ¬ ['&', newline] <+: line ++ newline :: rest := by
  intro starts
  cases line with
  | nil => cases blank
  | cons byte more =>
    obtain ⟨ampersand, next⟩ := List.cons_prefix_cons.mp starts
    cases more with
    | nil =>
      rw [← List.mem_singleton.mp blank] at ampersand
      exact absurd ampersand (by decide)
    | cons other others =>
      have same := (List.cons_prefix_cons.mp next).1
      exact free (same ▸ List.mem_cons_of_mem byte List.mem_cons_self)

/-- The section mark is not found in whole lines. -/
theorem find_sectionMark (lines : List Text) {rest : Text}
    (free : ∀ line ∈ lines, newline ∉ line) (blank : ∀ line ∈ lines, ' ' ∈ line)
    (differs : ¬ ['&', newline] <+: rest) :
    find sectionMark (lines.flatMap (· ++ [newline]) ++ rest) =
      (find sectionMark rest).map (· + (lines.flatMap (· ++ [newline])).length) := by
  induction lines with
  | nil => simp
  | cons line more ih =>
    have later := ih (fun other member => free other (List.mem_cons_of_mem line member))
      (fun other member => blank other (List.mem_cons_of_mem line member))
    have notHere : ¬ sectionMark <+: newline :: (more.flatMap (· ++ [newline]) ++ rest) := by
      intro starts
      have second := (List.cons_prefix_cons.mp starts).2
      cases more with
      | nil => exact differs second
      | cons next others =>
        have member := List.mem_cons_of_mem line (List.mem_cons_self (a := next) (l := others))
        rw [List.flatMap_cons, List.append_assoc, List.append_assoc] at second
        exact not_mark_line (free next member) (blank next member) second
    have shape : (line :: more).flatMap (· ++ [newline]) ++ rest =
        line ++ newline :: (more.flatMap (· ++ [newline]) ++ rest) := by
      simp
    have skipped : find sectionMark (line ++ newline :: (more.flatMap (· ++ [newline]) ++ rest)) =
        (find sectionMark (newline :: (more.flatMap (· ++ [newline]) ++ rest))).map
          (· + line.length) :=
      find_append _ (free line List.mem_cons_self)
    rw [shape, skipped, find_cons notHere, later, Option.map_map, Option.map_map]
    congr 1
    funext position
    simp only [Function.comp_apply, List.flatMap_cons, List.length_append, List.length_singleton]
    omega

/-- The mark is found after the last line. -/
theorem splitFirst_sectionMark (lines : List Text) (rest : Text)
    (free : ∀ line ∈ lines, newline ∉ line) (blank : ∀ line ∈ lines, ' ' ∈ line) :
    splitFirst (lines.flatMap (· ++ [newline]) ++ (sectionMark ++ rest)) sectionMark =
      (lines.flatMap (· ++ [newline]), rest) := by
  have differs : ¬ ['&', newline] <+: sectionMark ++ rest := by
    intro starts
    exact absurd (List.cons_prefix_cons.mp starts).1 (by decide)
  apply splitFirst_of_find
  rw [find_sectionMark lines free blank differs, find_of_starts (List.prefix_append ..)]
  simp

end Sections

/-- The copy holds what the manager holds, its subscribers apart. -/
structure SameState (copy manager : NotificationManager) : Prop where
  nextId : copy.nextId = manager.nextId
  senders : ∀ sender, sender ∈ copy.notifications ↔ sender ∈ manager.notifications
  stored : ∀ sender, copy.stored sender = manager.stored sender
  users : ∀ user, user ∈ copy.pendingQueues ↔ user ∈ manager.pendingQueues
  pending : ∀ user, (copy.queueOf user).pendingQueue = (manager.queueOf user).pendingQueue

theorem sameState_of_entries {copy manager : NotificationManager}
    (nextId : copy.nextId = manager.nextId)
    (notifications : copy.notifications = manager.notifications)
    (queues : copy.pendingQueues.entries = manager.pendingQueues.entries.map fun entry =>
      (entry.1, ({ pendingQueue := entry.2.pendingQueue } : NotificationQueue))) :
    SameState copy manager := by
  have lookup := UnorderedMap.lookup_map
    (fun queue : NotificationQueue => ({ pendingQueue := queue.pendingQueue } : NotificationQueue))
    queues
  constructor
  · exact nextId
  · intro sender
    rw [notifications]
  · intro sender
    rw [stored, stored, notifications]
  · intro user
    rw [← UnorderedMap.lookup_isSome, lookup, Option.isSome_map, UnorderedMap.lookup_isSome]
  · intro user
    rw [queueOf, queueOf, lookup]
    cases manager.pendingQueues.lookup user <;> rfl

theorem serializeList_line {manager : NotificationManager} (readable : manager.Readable) :
    ∀ line ∈ manager.notifications.entries.map serializeList, newline ∉ line ∧ ' ' ∈ line := by
  intro line member
  obtain ⟨entry, inside, same⟩ := List.mem_map.mp member
  obtain ⟨word, each⟩ := readable.senders entry inside
  rw [← same]
  exact ⟨newline_notMem_serializeList word each, by simp [serializeList]⟩

theorem serializeQueue_line {manager : NotificationManager} (readable : manager.Readable) :
    ∀ line ∈ manager.pendingQueues.entries.map serializeQueue, newline ∉ line := by
  intro line member
  obtain ⟨entry, inside, same⟩ := List.mem_map.mp member
  obtain ⟨word, each⟩ := readable.users entry inside
  rw [← same]
  exact newline_notMem_serializeQueue word each

/-- Behind the id, everything depends on where the section mark is found. -/
theorem deserialize_number {number : Nat} (small : number < 2 ^ 31) (rest : Text) :
    deserialize stack (showNat number ++ newline :: rest) =
      match readLines (deserializeList stack) ∅
        (split (splitFirst rest sectionMark).1 [newline]) with
      | .error fault => .error fault
      | .ok notifications =>
        match readLines (deserializeQueue stack) ∅
          (split (splitFirst rest sectionMark).2 [newline]) with
        | .error fault => .error fault
        | .ok pendingQueues => .ok { notifications, pendingQueues, nextId := number } := by
  have first := splitFirst_append rest (@notMem_showNat newline rfl number)
  have id : ((number : Int) % 2 ^ 32).toNat = number := by
    omega
  rw [deserialize, first]
  dsimp only
  rw [stoi_showNat, if_pos small]
  dsimp only
  cases readLines (deserializeList stack) ∅
    (split (splitFirst rest sectionMark).1 [newline]) with
  | error fault => rfl
  | ok notifications =>
    cases readLines (deserializeQueue stack) ∅
      (split (splitFirst rest sectionMark).2 [newline]) with
    | error fault => rfl
    | ok pendingQueues =>
      dsimp only
      rw [id]

/-- The text falls apart into the lines it was made of. -/
theorem deserialize_lines {manager : NotificationManager} (small : manager.nextId < 2 ^ 31)
    (lists : ∀ line ∈ manager.notifications.entries.map serializeList, newline ∉ line ∧ ' ' ∈ line)
    (queues : ∀ line ∈ manager.pendingQueues.entries.map serializeQueue, newline ∉ line) :
    deserialize stack manager.serialize =
      match readLines (deserializeList stack) ∅
        (manager.notifications.entries.map serializeList ++ [[]]) with
      | .error fault => .error fault
      | .ok notifications =>
        match readLines (deserializeQueue stack) ∅
          (manager.pendingQueues.entries.map serializeQueue ++ [[]]) with
        | .error fault => .error fault
        | .ok pendingQueues =>
          .ok { notifications, pendingQueues, nextId := manager.nextId } := by
  have text : manager.serialize = showNat manager.nextId ++ newline ::
      ((manager.notifications.entries.map serializeList).flatMap (· ++ [newline]) ++
        (sectionMark ++
          (manager.pendingQueues.entries.map serializeQueue).flatMap (· ++ [newline]))) := by
    rw [serialize, List.flatMap_map, List.flatMap_map]
  have sections := splitFirst_sectionMark (manager.notifications.entries.map serializeList)
    ((manager.pendingQueues.entries.map serializeQueue).flatMap (· ++ [newline]))
    (fun line member => (lists line member).1) (fun line member => (lists line member).2)
  rw [text, deserialize_number small, sections, split_lines _ fun line member => (lists line member).1,
    split_lines _ queues]

/-- What is read back has the same id, notifications and pending entries. -/
theorem copy_of_readable {manager : NotificationManager} (readable : manager.Readable)
    (fits : manager.Fits stack) :
    ∃ copy, deserialize stack manager.serialize = .ok copy ∧ copy.nextId = manager.nextId ∧
      copy.notifications = manager.notifications ∧
      copy.pendingQueues.entries = manager.pendingQueues.entries.map fun entry =>
        (entry.1, ({ pendingQueue := entry.2.pendingQueue } : NotificationQueue)) := by
  obtain ⟨notifications, loaded, shape⟩ := readLines_entries (deserializeList stack) serializeList id
    manager.notifications.entries manager.notifications.distinct
    (by
      intro entry inside
      obtain ⟨word, each⟩ := readable.senders entry inside
      obtain ⟨few, small⟩ := fits.senders entry inside
      exact ⟨by simp [serializeList], deserializeList_serializeList word each few small⟩)
    ∅ (by simp)
  obtain ⟨pendingQueues, loadedQueues, queueShape⟩ := readLines_entries (deserializeQueue stack)
    serializeQueue (fun queue => { pendingQueue := queue.pendingQueue })
    manager.pendingQueues.entries manager.pendingQueues.distinct
    (by
      intro entry inside
      obtain ⟨word, each⟩ := readable.users entry inside
      exact ⟨by simp [serializeQueue], deserializeQueue_serializeQueue word each
        (fits.users entry inside)⟩)
    ∅ (by simp)
  refine ⟨{ notifications, pendingQueues, nextId := manager.nextId }, ?_, rfl,
    UnorderedMap.ext (by simpa using shape), by simpa using queueShape⟩
  rw [deserialize_lines readable.nextId (serializeList_line readable) (serializeQueue_line readable),
    loaded]
  dsimp only
  rw [loadedQueues]

/-- Reading what was written gives the state back, if the stack has room for it. -/
theorem sameState_deserialize_serialize (stack : Nat) (manager : NotificationManager)
    (readable : manager.Readable) (fits : manager.Fits stack) :
    ∃ copy, deserialize stack manager.serialize = .ok copy ∧ SameState copy manager := by
  obtain ⟨copy, decoded, nextId, notifications, queues⟩ := copy_of_readable readable fits
  exact ⟨copy, decoded, sameState_of_entries nextId notifications queues⟩

/-- One sender, one notification someone is waiting for. -/
def oneStored (notification : Notification) : NotificationManager where
  notifications := ⟨[(['a'], [notification])], List.nodup_singleton ['a']⟩
  pendingQueues := ⟨[(['f'], { pendingQueue := [⟨['a'], 1⟩] })], List.nodup_singleton ['f']⟩
  nextId := 2

theorem isWord_letter {letter : Char} (ink : isSpace letter = false) : IsWord [letter] :=
  ⟨List.cons_ne_nil letter [], fun _ member => List.mem_singleton.mp member ▸ ink⟩

theorem readable_oneStored {notification : Notification} (readable : notification.Readable) :
    (oneStored notification).Readable := by
  refine ⟨(by decide : 2 < 2 ^ 31), ?_, ?_⟩
  · intro entry member
    rw [List.mem_singleton.mp member]
    refine ⟨isWord_letter rfl, ?_⟩
    intro other inside
    rw [List.mem_singleton.mp inside]
    exact readable
  · intro entry member
    rw [List.mem_singleton.mp member]
    refine ⟨isWord_letter rfl, ⟨?_⟩⟩
    intro pending inside
    rw [List.mem_singleton.mp inside]
    exact ⟨isWord_letter rfl, by decide⟩

theorem fits_oneStored {notification : Notification} (fits : notification.Fits stack)
    (room : 10 ≤ stack) : (oneStored notification).Fits stack := by
  refine ⟨?_, ?_⟩
  · intro entry member
    rw [List.mem_singleton.mp member]
    refine ⟨by simp, ?_⟩
    intro other inside
    rw [List.mem_singleton.mp inside]
    exact fits
  · intro entry member
    have text : (NotificationQueue.serialize { pendingQueue := [⟨['a'], 1⟩] }).length = 7 := by
      decide
    rw [List.mem_singleton.mp member]
    refine ⟨?_, ?_, ?_, ?_⟩
    · intro pending inside
      rw [List.mem_singleton.mp inside]
      decide
    · rw [text]
      decide
    · rw [text]
      omega
    · intro pending inside
      rw [List.mem_singleton.mp inside, text]
      exact (by decide : 7 + (PendingNotification.serialize ⟨['a'], 1⟩).length ≤ 10).trans room

/-- A message with blanks, digits and the bytes that separate things elsewhere. -/
def trickyTweet : Notification := ⟨1, 5, ['a'], 1, [' ', '4', ',', '&', ' ']⟩

theorem sameState_oneStored :
    ∃ copy, deserialize 8388608 (oneStored trickyTweet).serialize = .ok copy ∧
      SameState copy (oneStored trickyTweet) :=
  sameState_deserialize_serialize 8388608 (oneStored trickyTweet)
    (readable_oneStored ⟨by decide, by decide, isWord_letter rfl, by decide, by decide⟩)
    (fits_oneStored ⟨by decide, by decide, by decide⟩ (by decide))

/-- A sender name that a terminated buffer cuts short. -/
def nulTweet : Notification := ⟨1, 5, ['a', nul, 'b'], 1, ['h', 'i']⟩

/-- A message that may be longer than a stack has room for, or than an `int` can tell. -/
def longTweet (length : Nat) : Notification := ⟨1, 5, ['a'], 1, List.replicate length 'x'⟩

theorem readable_longTweet (length : Nat) : (longTweet length).Readable := by
  have only : ∀ byte, byte ≠ 'x' → byte ∉ List.replicate length 'x' :=
    fun byte different member => different (List.eq_of_mem_replicate member)
  refine ⟨(by decide : IsInt 1), (by decide : 5 < 2 ^ 64), isWord_letter rfl,
    (by decide : IsInt 1), only nul (by decide), only newline (by decide)⟩

/-- A notification that cannot be read stops the whole update. -/
private theorem deserialize_oneStored {notification : Notification} {fault : Fault}
    (readable : notification.Readable)
    (unread : readNotifications stack 1 (of (' ' :: block notification.serializeAll)) =
      .error fault) :
    deserialize stack (oneStored notification).serialize = .error fault := by
  have word : IsWord ['a'] := isWord_letter rfl
  have key := readWord_text (enter_of word.2 word.1
    (' ' :: (showNat 1 ++ ' ' :: block notification.serializeAll))) word.2
  have size := readInt_showNat (enter_blank (ink_showNat 1) (showNat_ne_nil _)
    (' ' :: block notification.serializeAll)) (by decide) (by simp)
  have shape : serializeList (['a'], [notification]) =
      ['a'] ++ ' ' :: (showNat 1 ++ ' ' :: block notification.serializeAll) := by
    simp [serializeList, serializeEach]
  have list : deserializeList stack (serializeList (['a'], [notification])) = .error fault := by
    rw [shape]
    unfold deserializeList
    rw [key]
    dsimp only
    rw [size]
    dsimp only
    rw [after_cons, Int.toNat_natCast, unread]
  have nonempty : serializeList (['a'], [notification]) ≠ [] := by
    simp [serializeList]
  have lines : readLines (deserializeList stack) ∅
      ((oneStored notification).notifications.entries.map serializeList ++ [[]]) =
        .error fault := by
    show readLines (deserializeList stack) ∅ [serializeList (['a'], [notification]), []] =
      .error fault
    rw [readLines, if_neg nonempty, list]
  have whole := readable_oneStored readable
  rw [deserialize_lines whole.nextId (serializeList_line whole) (serializeQueue_line whole), lines]

private theorem not_sameState_of_error {manager : NotificationManager}
    (failed : ∃ fault, deserialize stack manager.serialize = .error fault) :
    ¬ ∃ copy, deserialize stack manager.serialize = .ok copy ∧ SameState copy manager := by
  obtain ⟨fault, failed⟩ := failed
  rintro ⟨copy, same, _⟩
  rw [failed] at same
  cases same

/-- Behind a blank, a notification without a NUL in its name that does not fit. -/
theorem readNotifications_of_not_fits {notification : Notification}
    (readable : notification.Readable) (username : nul ∉ notification.username)
    (overflows : ¬ notification.Fits stack) (size : Nat) (stream : InputStream) (rest : Text)
    (entered : stream.enter = some (block notification.serializeAll ++ rest)) :
    ∃ fault, readNotifications stack (size + 1) stream = .error fault := by
  by_cases long : 2 ^ 31 ≤ notification.serializeAll.length
  · obtain ⟨fault, failed⟩ := @readBlock_long stack _ _ _ entered long
    exact ⟨fault, by simp only [readNotifications, failed]⟩
  · have short := Nat.not_le.mp long
    by_cases narrow : stack < notification.serializeAll.length
    · exact ⟨_, by simp only [readNotifications, readBlock_narrow entered short narrow]; rfl⟩
    · have buffer := readBlock_block entered short (Nat.not_lt.mp narrow)
        (nul_notMem_serializeAll readable username)
      have left : stack - notification.serializeAll.length < notification.message.length := by
        by_contra room
        exact overflows ⟨username, short, by omega⟩
      have unread := Notification.deserializeAll_narrow readable short left
      exact ⟨_, by simp only [readNotifications, buffer, unread]; rfl⟩

private theorem unread_longTweet {length : Nat}
    (overflows : ¬ (longTweet length).Fits stack) :
    ∃ fault, deserialize stack (oneStored (longTweet length)).serialize = .error fault := by
  have entered := enter_block_blank (longTweet length).serializeAll []
  obtain ⟨fault, unread⟩ := readNotifications_of_not_fits (readable_longTweet length)
    (by decide : nul ∉ ['a']) overflows 0 _ [] entered
  rw [List.append_nil] at unread
  exact ⟨fault, deserialize_oneStored (readable_longTweet length) unread⟩

theorem length_le_serializeAll {notification : Notification} (readable : notification.Readable) :
    notification.message.length ≤ notification.serializeAll.length := by
  rw [Notification.serializeAll_eq readable]
  simp only [block, List.length_append, List.length_cons]
  omega

/-- What does not survive: a sender name with a NUL in it, a message of five million bytes on a
stack of eight mebibytes, and on one of a tebibyte a message longer than an `int` can tell. -/
theorem not_sameState_unbounded :
    ((oneStored nulTweet).Readable ∧
      ¬ ∃ copy, deserialize 8388608 (oneStored nulTweet).serialize = .ok copy ∧
        SameState copy (oneStored nulTweet)) ∧
    ((oneStored (longTweet 5000000)).Readable ∧
      ¬ ∃ copy, deserialize 8388608 (oneStored (longTweet 5000000)).serialize = .ok copy ∧
        SameState copy (oneStored (longTweet 5000000))) ∧
    ((oneStored (longTweet (2 ^ 31))).Readable ∧
      ¬ ∃ copy, deserialize (2 ^ 40) (oneStored (longTweet (2 ^ 31))).serialize = .ok copy ∧
        SameState copy (oneStored (longTweet (2 ^ 31)))) := by
  have nulReadable : nulTweet.Readable :=
    ⟨by decide, by decide, ⟨by decide, ink_of_all rfl⟩, by decide, by decide⟩
  have cut : readNotifications 8388608 1 (of (' ' :: block nulTweet.serializeAll)) =
      .error .uninitialized := by
    decide +kernel
  have message : ∀ length, (longTweet length).message.length = length :=
    fun length => List.length_replicate
  have narrow : ¬ (longTweet 5000000).Fits 8388608 := by
    intro fits
    have inside := length_le_serializeAll (readable_longTweet 5000000)
    have room := fits.room
    rw [message] at inside room
    omega
  have long : ¬ (longTweet (2 ^ 31)).Fits (2 ^ 40) := by
    intro fits
    have inside := length_le_serializeAll (readable_longTweet (2 ^ 31))
    rw [message] at inside
    exact absurd fits.size (Nat.not_lt.mpr inside)
  exact ⟨⟨readable_oneStored nulReadable,
      not_sameState_of_error ⟨_, deserialize_oneStored nulReadable cut⟩⟩,
    ⟨readable_oneStored (readable_longTweet 5000000),
      not_sameState_of_error (unread_longTweet narrow)⟩,
    readable_oneStored (readable_longTweet (2 ^ 31)),
    not_sameState_of_error (unread_longTweet long)⟩

end NotificationManager

end TwitterClone
