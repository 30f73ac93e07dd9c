import TwitterClone.Foundation.Text
import TwitterClone.Foundation.UnorderedMap
import TwitterClone.Foundation.Word

/-! Notifications and the per-user notification queue. Session queues live in
the consumer threads; the manager only holds references to them, so a call
reports the insertions it made into them. -/
namespace TwitterClone

open Foundation

structure Notification where
  id : Int
  timestamp : Nat
  username : Text
  pendingCount : Int
  message : Text
  deriving DecidableEq, Repr

structure PendingNotification where
  sender : Text
  notificationId : Int
  deriving DecidableEq, Repr

/-- A reference to the session queue of one consumer. -/
abbrev QueueRef := Nat

/-- One element pushed to the back of a session queue. -/
structure Insertion where
  queue : QueueRef
  notification : Notification
  deriving DecidableEq, Repr

/-- Subscribers are keyed by a 32-bit unsigned integer. -/
structure NotificationQueue where
  subscribersQueue : UnorderedMap Nat QueueRef := ∅
  pendingQueue : List PendingNotification := []
  deriving DecidableEq

namespace NotificationQueue

/-- Some session of the user is subscribed. -/
def hasSubscribers (queue : NotificationQueue) : Bool :=
  !queue.subscribersQueue.entries.isEmpty

def hasPending (queue : NotificationQueue) : Bool :=
  !queue.pendingQueue.isEmpty

/-- The loop over the subscribers shared by `insert` and `insertToSubscribers`. -/
def insertToSubscribers (queue : NotificationQueue) (notification : Notification) :
    List Insertion :=
  queue.subscribersQueue.entries.map fun subscriber => ⟨subscriber.2, notification⟩

/-- The queue left behind, whether the notification was delivered, and the
insertions made. -/
def insert (queue : NotificationQueue) (notification : Notification) :
    NotificationQueue × Bool × List Insertion :=
  if queue.hasSubscribers then
    (queue, true, queue.insertToSubscribers notification)
  else
    ({ queue with pendingQueue := queue.pendingQueue ++ [⟨notification.username, notification.id⟩] },
      false, [])

/-- Popping an empty queue yields the default entry. -/
def removePending (queue : NotificationQueue) : PendingNotification × NotificationQueue :=
  match queue.pendingQueue with
  | [] => (⟨[], -1⟩, queue)
  | pending :: rest => (pending, { queue with pendingQueue := rest })

/-- `emplace` under the truncated id keeps an older session on a clash. -/
def subscribe (queue : NotificationQueue) (id : Nat) (session : QueueRef) : NotificationQueue :=
  { queue with subscribersQueue := queue.subscribersQueue.emplace (uint32 id) session }

def unsubscribe (queue : NotificationQueue) (id : Nat) : NotificationQueue :=
  { queue with subscribersQueue := queue.subscribersQueue.erase (uint32 id) }

theorem hasSubscribers_subscribe (queue : NotificationQueue) (id : Nat) (session : QueueRef) :
    (queue.subscribe id session).hasSubscribers = true := by
  have member : uint32 id ∈ (queue.subscribersQueue.emplace (uint32 id) session) := by simp
  obtain ⟨entry, inside, _⟩ := List.mem_map.mp (UnorderedMap.mem_keys.mpr member)
  simpa [hasSubscribers, subscribe] using List.ne_nil_of_mem inside

theorem insert_online {queue : NotificationQueue} (online : queue.hasSubscribers = true)
    (notification : Notification) :
    queue.insert notification = (queue, true, queue.insertToSubscribers notification) := by
  simp [insert, online]

theorem insert_offline {queue : NotificationQueue} (offline : queue.hasSubscribers = false)
    (notification : Notification) :
    queue.insert notification =
      ({ queue with pendingQueue :=
          queue.pendingQueue ++ [⟨notification.username, notification.id⟩] }, false, []) := by
  simp [insert, offline]

end NotificationQueue

end TwitterClone
