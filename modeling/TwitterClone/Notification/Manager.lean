import TwitterClone.Notification.Queue

/-! The notification manager. Every public method holds the manager's mutex
from its first to its last statement, so each one is a single function. -/
namespace TwitterClone

open Foundation

structure NotificationManager where
  notifications : UnorderedMap Text (List Notification) := ∅
  pendingQueues : UnorderedMap Text NotificationQueue := ∅
  nextId : Nat := 1
  deriving DecidableEq

/-- What one locked call leaves behind: the manager, the insertions into
session queues in order, and the managers handed to `onUpdateCallback`. -/
structure Call where
  manager : NotificationManager
  inserted : List Insertion := []
  updates : List NotificationManager := []

namespace NotificationManager

/-- `m_notifications[username]` where the key is known to be present. -/
def stored (manager : NotificationManager) (username : Text) : List Notification :=
  (manager.notifications.lookup username).getD []

/-- `m_pendingQueues[username]` where the key is known to be present. -/
def queueOf (manager : NotificationManager) (username : Text) : NotificationQueue :=
  (manager.pendingQueues.lookup username).getD {}

def changeStored (manager : NotificationManager) (username : Text)
    (change : List Notification → List Notification) : NotificationManager :=
  { manager with notifications := manager.notifications.modify username change }

def setQueue (manager : NotificationManager) (username : Text) (queue : NotificationQueue) :
    NotificationManager :=
  { manager with pendingQueues := manager.pendingQueues.modify username fun _ => queue }

/-- The current id and the manager whose unsigned counter moved on. -/
def getNextId (manager : NotificationManager) : Nat × NotificationManager :=
  (manager.nextId, { manager with nextId := uint32 (manager.nextId + 1) })

/-- The notification with its id, once stored under a registered sender. -/
def createNotification (manager : NotificationManager) (notification : Notification) :
    Option (Notification × NotificationManager) :=
  if notification.username ∈ manager.notifications then
    let (id, counted) := manager.getNextId
    let notification := { notification with id := int32 id }
    some (notification, counted.changeStored notification.username (· ++ [notification]))
  else none

/-- `notificationRef.pendingCount -= 1`, the reference being to the last element. -/
def countLastDown (manager : NotificationManager) (username : Text) : NotificationManager :=
  manager.changeStored username
    (List.modifyLast fun last => { last with pendingCount := last.pendingCount - 1 })

/-- One turn of the loop of `send` over the followers. -/
def sendTo (manager : NotificationManager) (notification : Notification) (follower : Text) :
    NotificationManager × List Insertion :=
  if follower ∈ manager.pendingQueues then
    let (queue, wasSent, inserted) := (manager.queueOf follower).insert notification
    let manager := manager.setQueue follower queue
    (if wasSent then manager.countLastDown notification.username else manager, inserted)
  else (manager, [])

def sendToEach (manager : NotificationManager) (notification : Notification) :
    List Text → NotificationManager × List Insertion
  | [] => (manager, [])
  | follower :: rest =>
    let (manager, first) := manager.sendTo notification follower
    let (manager, later) := manager.sendToEach notification rest
    (manager, first ++ later)

/-- Drop the notification just stored when every follower has been served. -/
def popSettled (manager : NotificationManager) (username : Text) : NotificationManager :=
  match (manager.stored username).getLast? with
  | some last =>
    if last.pendingCount ≤ 0 then manager.changeStored username List.dropLast else manager
  | none => manager

/-- An unregistered sender is skipped without any trace. -/
def send (manager : NotificationManager) (notification : Notification)
    (followers : List Text) : Call :=
  match manager.createNotification notification with
  | none => { manager }
  | some (notification, created) =>
    let (delivered, inserted) := created.sendToEach notification followers
    let settled := delivered.popSettled notification.username
    { manager := settled, inserted, updates := [settled] }

/-- Decrement; a count that is used up erases the notification. -/
def countDown (notification : Notification) : Option Notification :=
  if notification.pendingCount - 1 ≤ 0 then none
  else some { notification with pendingCount := notification.pendingCount - 1 }

/-- Count the first notification with the id down. -/
def countFirstDown (idToSearch : Int) : List Notification → List Notification
  | [] => []
  | notification :: rest =>
    if notification.id = idToSearch then (countDown notification).toList ++ rest
    else notification :: countFirstDown idToSearch rest

/-- The notification as it was found, before its count went down. -/
def findNotification (manager : NotificationManager) (pending : PendingNotification) :
    Option Notification × NotificationManager :=
  if pending.sender ∈ manager.notifications then
    match (manager.stored pending.sender).find? (·.id = pending.notificationId) with
    | some result =>
      (some result, manager.changeStored pending.sender (countFirstDown pending.notificationId))
    | none => (none, manager)
  else (none, manager)

/-- One turn of the drain loop of `subscribe`. -/
def drainOne (manager : NotificationManager) (username : Text) :
    NotificationManager × List Insertion :=
  let (pending, queue) := (manager.queueOf username).removePending
  let manager := manager.setQueue username queue
  if pending.sender ∈ manager.notifications then
    match manager.findNotification pending with
    | (some result, manager) =>
      (manager, (manager.queueOf username).insertToSubscribers result)
    | (none, manager) => (manager, [])
  else (manager, [])

/-- The drain loop with a bound on its turns. Each turn removes one pending
entry, so the length of the queue is bound enough: `drain_settles`. -/
def drain (manager : NotificationManager) (username : Text) :
    Nat → NotificationManager × List Insertion
  | 0 => (manager, [])
  | turns + 1 =>
    if (manager.queueOf username).hasPending then
      let (manager, first) := manager.drainOne username
      let (manager, later) := manager.drain username turns
      (manager, first ++ later)
    else (manager, [])

/-- Both maps get an empty entry; an entry already there is kept. -/
def register (manager : NotificationManager) (username : Text) : NotificationManager :=
  { manager with
    notifications := manager.notifications.emplace username []
    pendingQueues := manager.pendingQueues.emplace username {} }

def addSubscriber (manager : NotificationManager) (username : Text) (id : Nat)
    (session : QueueRef) : NotificationManager :=
  manager.setQueue username ((manager.queueOf username).subscribe id session)

def subscribe (manager : NotificationManager) (username : Text) (id : Nat)
    (session : QueueRef) : Call :=
  if username ∈ manager.pendingQueues then
    let subscribed := manager.addSubscriber username id session
    let turns := (subscribed.queueOf username).pendingQueue.length
    let (drained, inserted) := subscribed.drain username turns
    { manager := drained, inserted, updates := [drained] }
  else
    let subscribed := (manager.register username).addSubscriber username id session
    { manager := subscribed, updates := [subscribed] }

def unsubscribe (manager : NotificationManager) (username : Text) (id : Nat) : Call :=
  let left :=
    if username ∈ manager.pendingQueues then
      manager.setQueue username ((manager.queueOf username).unsubscribe id)
    else manager
  { manager := left, updates := [left] }

def loadUsers (manager : NotificationManager) (usernames : List Text) : Call :=
  { manager := usernames.foldl register manager }

/-- Every pending entry of every user. -/
def pendingEntries (manager : NotificationManager) : List PendingNotification :=
  manager.pendingQueues.gather NotificationQueue.pendingQueue

section Access

variable (manager : NotificationManager)

theorem mem_pendingEntries (pending : PendingNotification) :
    pending ∈ manager.pendingEntries ↔ ∃ user, pending ∈ (manager.queueOf user).pendingQueue := by
  rw [pendingEntries, UnorderedMap.mem_gather]
  constructor
  · rintro ⟨user, queue, found, inside⟩
    exact ⟨user, by simpa [queueOf, found] using inside⟩
  · rintro ⟨user, inside⟩
    cases found : manager.pendingQueues.lookup user with
    | none => simp [queueOf, found] at inside
    | some queue => exact ⟨user, queue, found, by simpa [queueOf, found] using inside⟩

theorem queueOf_of_notMem {user : Text} (absent : user ∉ manager.pendingQueues) :
    manager.queueOf user = {} := by
  simp [queueOf, UnorderedMap.lookup_eq_none.mpr absent]

theorem stored_of_notMem {sender : Text} (absent : sender ∉ manager.notifications) :
    manager.stored sender = [] := by
  simp [stored, UnorderedMap.lookup_eq_none.mpr absent]

theorem mem_of_mem_stored {sender : Text} {notification : Notification}
    (member : notification ∈ manager.stored sender) : sender ∈ manager.notifications := by
  by_cases present : sender ∈ manager.notifications
  · exact present
  · simp [stored_of_notMem manager present] at member

@[simp] theorem queueOf_changeStored (username user : Text)
    (change : List Notification → List Notification) :
    (manager.changeStored username change).queueOf user = manager.queueOf user := rfl

@[simp] theorem pendingEntries_changeStored (username : Text)
    (change : List Notification → List Notification) :
    (manager.changeStored username change).pendingEntries = manager.pendingEntries := rfl

@[simp] theorem stored_setQueue (username sender : Text) (queue : NotificationQueue) :
    (manager.setQueue username queue).stored sender = manager.stored sender := rfl

theorem stored_changeStored {username : Text} (present : username ∈ manager.notifications)
    (change : List Notification → List Notification) (sender : Text) :
    (manager.changeStored username change).stored sender =
      if sender = username then change (manager.stored sender) else manager.stored sender := by
  obtain ⟨value, found⟩ := UnorderedMap.lookup_of_mem present
  simp only [stored, changeStored, UnorderedMap.lookup_modify]
  by_cases same : sender = username
  · subst same
    simp [found]
  · simp [same]

theorem queueOf_setQueue {username : Text} (present : username ∈ manager.pendingQueues)
    (queue : NotificationQueue) (user : Text) :
    (manager.setQueue username queue).queueOf user =
      if user = username then queue else manager.queueOf user := by
  obtain ⟨value, found⟩ := UnorderedMap.lookup_of_mem present
  simp only [queueOf, setQueue, UnorderedMap.lookup_modify]
  by_cases same : user = username
  · subst same
    simp [found]
  · simp [same]

theorem count_setQueue {username : Text} (present : username ∈ manager.pendingQueues)
    (queue : NotificationQueue) (pending : PendingNotification) :
    (manager.setQueue username queue).pendingEntries.count pending +
        (manager.queueOf username).pendingQueue.count pending =
      manager.pendingEntries.count pending + queue.pendingQueue.count pending := by
  obtain ⟨value, found⟩ := UnorderedMap.lookup_of_mem present
  have traded := UnorderedMap.count_gather_modify NotificationQueue.pendingQueue
    manager.pendingQueues username (fun _ => queue) value found pending
  simpa [queueOf, found, pendingEntries, setQueue] using traded

@[simp] theorem mem_notifications_changeStored (username sender : Text)
    (change : List Notification → List Notification) :
    sender ∈ (manager.changeStored username change).notifications ↔
      sender ∈ manager.notifications := by
  simp [changeStored]

@[simp] theorem mem_pendingQueues_changeStored (username user : Text)
    (change : List Notification → List Notification) :
    user ∈ (manager.changeStored username change).pendingQueues ↔
      user ∈ manager.pendingQueues := Iff.rfl

@[simp] theorem mem_notifications_setQueue (username sender : Text) (queue : NotificationQueue) :
    sender ∈ (manager.setQueue username queue).notifications ↔
      sender ∈ manager.notifications := Iff.rfl

@[simp] theorem mem_pendingQueues_setQueue (username user : Text) (queue : NotificationQueue) :
    user ∈ (manager.setQueue username queue).pendingQueues ↔ user ∈ manager.pendingQueues := by
  simp [setQueue]

end Access

end NotificationManager

end TwitterClone
