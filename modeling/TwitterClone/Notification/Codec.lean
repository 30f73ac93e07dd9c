import TwitterClone.Foundation.InputStream
import TwitterClone.Utils.Strings
import TwitterClone.Notification.Manager

/-! The text in which a leader sends its notification state to its backups, and
how a backup reads it. -/
namespace TwitterClone

open Foundation

def Notification.serializeAll (notification : Notification) : Text :=
  showInt notification.id ++ ' ' :: (showNat notification.timestamp ++ ' ' ::
    (notification.username ++ ' ' :: (showInt notification.pendingCount ++ ' ' ::
      (showNat notification.message.length ++ ' ' :: cString notification.message))))

/-- A value that is missing keeps its default; the clock's default is never seen,
since a stream that lacks a value lacks the length too. -/
def Notification.deserializeAll (stack : Nat) (rawData : Text) : Except Fault Notification :=
  let id := (InputStream.of rawData).readInt
  let timestamp := id.2.readUnsigned
  let username := timestamp.2.readWord
  let pendingCount := username.2.readInt
  match pendingCount.2.readBlock stack with
  | .error fault => .error fault
  | .ok (message, _) => .ok {
      id := id.1.getD (-1)
      timestamp := timestamp.1.getD 0
      username := username.1.getD []
      pendingCount := pendingCount.1.getD (-1)
      message }

def PendingNotification.serialize (pending : PendingNotification) : Text :=
  pending.sender ++ ' ' :: showInt pending.notificationId

def PendingNotification.deserialize (raw : Text) : PendingNotification :=
  let sender := (InputStream.of raw).readWord
  let notificationId := sender.2.readInt
  ⟨sender.1.getD [], notificationId.1.getD (-1)⟩

namespace NotificationQueue

def serialize (queue : NotificationQueue) : Text :=
  showNat queue.pendingQueue.length ++
    queue.pendingQueue.flatMap fun pending => ' ' :: InputStream.block pending.serialize

/-- The loop over the announced number of entries. -/
def readPending (stack : Nat) : Nat → InputStream → Except Fault (List PendingNotification)
  | 0, _ => .ok []
  | size + 1, stream =>
    match stream.readBlock stack with
    | .error fault => .error fault
    | .ok (buff, _, stream) =>
      match readPending stack size stream with
      | .error fault => .error fault
      | .ok later => .ok (PendingNotification.deserialize buff :: later)

/-- Only the pending entries are read; a new queue has no subscribers. -/
def deserialize (stack : Nat) (raw : Text) : Except Fault NotificationQueue :=
  match (InputStream.of raw).readInt with
  | (none, _) => .error .uninitialized
  | (some size, stream) =>
    match readPending stack size.toNat stream with
    | .error fault => .error fault
    | .ok pendingQueue => .ok { pendingQueue }

end NotificationQueue

namespace NotificationManager

/-- The notifications of one sender: the first without a comma in front. -/
def serializeEach (first : Bool) : List Notification → Text
  | [] => []
  | notification :: rest =>
    (if first then [] else [',']) ++
      (InputStream.block notification.serializeAll ++ serializeEach false rest)

def serializeList (entry : Text × List Notification) : Text :=
  entry.1 ++ ' ' :: (showNat entry.2.length ++ ' ' :: serializeEach true entry.2)

def serializeQueue (entry : Text × NotificationQueue) : Text :=
  entry.1 ++ ' ' :: InputStream.block entry.2.serialize

/-- What stands between the notifications and the queues. -/
def sectionMark : Text := [newline, '&', newline]

def serialize (manager : NotificationManager) : Text :=
  showNat manager.nextId ++ newline ::
    ((manager.notifications.entries.flatMap fun entry => serializeList entry ++ [newline]) ++
      (sectionMark ++
        manager.pendingQueues.entries.flatMap fun entry => serializeQueue entry ++ [newline]))

/-- The loop over the announced number of notifications; after each of them one
byte is skipped. The buffer is in use while the notification is read from it. -/
def readNotifications (stack : Nat) : Nat → InputStream → Except Fault (List Notification)
  | 0, _ => .ok []
  | size + 1, stream =>
    match stream.readBlock stack with
    | .error fault => .error fault
    | .ok (notificationBuffer, left, stream) =>
      match Notification.deserializeAll left notificationBuffer with
      | .error fault => .error fault
      | .ok notification =>
        match readNotifications stack size stream.ignore with
        | .error fault => .error fault
        | .ok later => .ok (notification :: later)

def deserializeList (stack : Nat) (strNotification : Text) :
    Except Fault (Text × List Notification) :=
  let (key, stream) := (InputStream.of strNotification).readWord
  match stream.readInt with
  | (none, _) => .error .uninitialized
  | (some size, stream) =>
    match readNotifications stack size.toNat stream with
    | .error fault => .error fault
    | .ok list => .ok (key.getD [], list)

def deserializeQueue (stack : Nat) (strQueue : Text) : Except Fault (Text × NotificationQueue) :=
  let (key, stream) := (InputStream.of strQueue).readWord
  match stream.readBlock stack with
  | .error fault => .error fault
  | .ok (queueBuffer, left, _) =>
    match NotificationQueue.deserialize left queueBuffer with
    | .error fault => .error fault
    | .ok queue => .ok (key.getD [], queue)

/-- Both loops over lines: empty ones are skipped, the others put under their key. -/
def readLines {Value : Type} (read : Text → Except Fault (Text × Value)) :
    UnorderedMap Text Value → List Text → Except Fault (UnorderedMap Text Value)
  | map, [] => .ok map
  | map, line :: rest =>
    if line = [] then readLines read map rest
    else
      match read line with
      | .error fault => .error fault
      | .ok (key, value) => readLines read (map.emplace key value) rest

/-- All three fields are replaced, so what the manager held plays no part. The local
buffers are on the stack of the thread, which has room for so many bytes. -/
def deserialize (stack : Nat) (raw : Text) : Except Fault NotificationManager :=
  let (rawId, rest) := splitFirst raw [newline]
  match stoi rawId with
  | .error fault => .error fault
  | .ok id =>
    let (rawNotifications, rawQueues) := splitFirst rest sectionMark
    match readLines (deserializeList stack) ∅ (split rawNotifications [newline]) with
    | .error fault => .error fault
    | .ok notifications =>
      match readLines (deserializeQueue stack) ∅ (split rawQueues [newline]) with
      | .error fault => .error fault
      | .ok pendingQueues => .ok { notifications, pendingQueues, nextId := (id % 2 ^ 32).toNat }

end NotificationManager

end TwitterClone
