import TwitterClone.Notification.Manager

/-! What each locked call does, stated once. `send` appends to offline
followers and hands the text to the sessions of online ones; `subscribe`
empties one pending queue and counts its notifications down. -/
namespace TwitterClone.NotificationManager

open Foundation

/-- The follower has no subscribed session, so `send` leaves it an entry. -/
def Offline (manager : NotificationManager) (user : Text) : Prop :=
  (manager.queueOf user).hasSubscribers = false

/-- The followers that `send` cannot reach at once. -/
def offlineAmong (manager : NotificationManager) (followers : List Text) : List Text :=
  followers.filter fun user => !(manager.queueOf user).hasSubscribers

theorem mem_offlineAmong {manager : NotificationManager} {followers : List Text} {user : Text} :
    user ∈ manager.offlineAmong followers ↔ user ∈ followers ∧ manager.Offline user := by
  simp [offlineAmong, Offline]

def enqueue (queue : NotificationQueue) (pending : PendingNotification) : NotificationQueue :=
  { queue with pendingQueue := queue.pendingQueue ++ [pending] }

/-- The state after the loop of `send` over a list of followers. -/
structure SentTo (manager : NotificationManager) (notification last : Notification)
    (before : List Notification) (followers : List Text)
    (result : NotificationManager × List Insertion) : Prop where
  stored : ∀ sender, result.1.stored sender =
    if sender = notification.username then
      before ++ [{ last with pendingCount :=
        last.pendingCount - followers.length + (manager.offlineAmong followers).length }]
    else manager.stored sender
  queues : ∀ user, result.1.queueOf user =
    if user ∈ manager.offlineAmong followers then
      enqueue (manager.queueOf user) ⟨notification.username, notification.id⟩
    else manager.queueOf user
  count : ∀ pending, result.1.pendingEntries.count pending =
    manager.pendingEntries.count pending +
      if pending = ⟨notification.username, notification.id⟩
      then (manager.offlineAmong followers).length else 0
  senders : ∀ sender, sender ∈ result.1.notifications ↔ sender ∈ manager.notifications
  users : ∀ user, user ∈ result.1.pendingQueues ↔ user ∈ manager.pendingQueues
  nextId : result.1.nextId = manager.nextId
  inserted : result.2 = followers.flatMap fun user =>
    (manager.queueOf user).insertToSubscribers notification

theorem insertToSubscribers_offline {queue : NotificationQueue}
    (offline : queue.hasSubscribers = false) (notification : Notification) :
    queue.insertToSubscribers notification = [] := by
  have empty : queue.subscribersQueue.entries = [] := by
    simpa [NotificationQueue.hasSubscribers] using offline
  simp [NotificationQueue.insertToSubscribers, empty]

theorem sendTo_offline (manager : NotificationManager) (notification : Notification)
    {follower : Text} (registered : follower ∈ manager.pendingQueues)
    (offline : manager.Offline follower) :
    manager.sendTo notification follower =
      (manager.setQueue follower
        (enqueue (manager.queueOf follower) ⟨notification.username, notification.id⟩), []) := by
  simp [sendTo, registered, NotificationQueue.insert_offline offline, enqueue]

theorem setQueue_queueOf (manager : NotificationManager) (user : Text) :
    manager.setQueue user (manager.queueOf user) = manager := by
  have same : manager.pendingQueues.modify user (fun _ => manager.queueOf user) =
      manager.pendingQueues := by
    apply UnorderedMap.modify_eq_self
    intro value found
    simp [queueOf, found]
  simp [setQueue, same]

theorem sendTo_online (manager : NotificationManager) (notification : Notification)
    {follower : Text} (registered : follower ∈ manager.pendingQueues)
    (online : ¬ manager.Offline follower) :
    manager.sendTo notification follower =
      (manager.countLastDown notification.username,
        (manager.queueOf follower).insertToSubscribers notification) := by
  have subscribed : (manager.queueOf follower).hasSubscribers = true := by
    simpa [Offline] using online
  simp [sendTo, registered, NotificationQueue.insert_online subscribed, setQueue_queueOf]

theorem offlineAmong_cons_offline {manager : NotificationManager} {follower : Text}
    (offline : manager.Offline follower) (rest : List Text) :
    manager.offlineAmong (follower :: rest) = follower :: manager.offlineAmong rest := by
  simp [offlineAmong, show (manager.queueOf follower).hasSubscribers = false from offline]

theorem offlineAmong_cons_online {manager : NotificationManager} {follower : Text}
    (online : ¬ manager.Offline follower) (rest : List Text) :
    manager.offlineAmong (follower :: rest) = manager.offlineAmong rest := by
  have subscribed : (manager.queueOf follower).hasSubscribers = true := by
    simpa [Offline] using online
  simp [offlineAmong, subscribed]

theorem count_enqueue (manager : NotificationManager) {user : Text}
    (present : user ∈ manager.pendingQueues) (entry pending : PendingNotification) :
    (manager.setQueue user (enqueue (manager.queueOf user) entry)).pendingEntries.count pending =
      manager.pendingEntries.count pending + if pending = entry then 1 else 0 := by
  have traded := count_setQueue manager present (enqueue (manager.queueOf user) entry) pending
  simp only [enqueue, List.count_append] at traded
  by_cases same : pending = entry
  · subst same
    simp only [List.count_singleton_self, ↓reduceIte, enqueue] at traded ⊢
    omega
  · have none : [entry].count pending = 0 := by simp [Ne.symm same]
    simp only [none, same, ↓reduceIte, enqueue] at traded ⊢
    omega

private theorem offlineAmong_setQueue (manager : NotificationManager) (follower : Text)
    (queue : NotificationQueue) (rest : List Text) (fresh : follower ∉ rest)
    (known : follower ∈ manager.pendingQueues) :
    (manager.setQueue follower queue).offlineAmong rest = manager.offlineAmong rest := by
  apply List.filter_congr
  intro user member
  have different : user ≠ follower := fun same => fresh (same ▸ member)
  simp [queueOf_setQueue manager known, different]

/-- Followers without a queue are passed over. -/
theorem sendToEach_known (manager : NotificationManager) (notification : Notification)
    (followers : List Text) :
    manager.sendToEach notification followers =
      manager.sendToEach notification (followers.filter (· ∈ manager.pendingQueues)) := by
  induction followers generalizing manager with
  | nil => rfl
  | cons follower rest ih =>
    by_cases known : follower ∈ manager.pendingQueues
    · have same : (rest.filter (· ∈ (manager.sendTo notification follower).1.pendingQueues)) =
          rest.filter (· ∈ manager.pendingQueues) := by
        apply List.filter_congr
        intro user _
        by_cases offline : manager.Offline follower
        · simp [sendTo_offline manager notification known offline]
        · simp [sendTo_online manager notification known offline, countLastDown]
      rw [List.filter_cons_of_pos (by simpa using known), sendToEach, sendToEach]
      dsimp only
      rw [ih, same]
    · rw [List.filter_cons_of_neg (by simpa using known), sendToEach, sendTo, if_neg known,
        ← ih]
      rfl

/-- The loop of `send`, for distinct registered followers and a stored last
element under the sender. -/
theorem sendToEach_spec (manager : NotificationManager) (notification last : Notification)
    (before : List Notification) (followers : List Text)
    (registered : ∀ follower ∈ followers, follower ∈ manager.pendingQueues)
    (distinct : followers.Nodup)
    (sender : notification.username ∈ manager.notifications)
    (ending : manager.stored notification.username = before ++ [last]) :
    SentTo manager notification last before followers
      (manager.sendToEach notification followers) := by
  induction followers generalizing manager last with
  | nil =>
    constructor
    all_goals simp [sendToEach, offlineAmong]
    rw [ending]
  | cons follower rest ih =>
    obtain ⟨fresh, distinctRest⟩ := List.nodup_cons.mp distinct
    have known := registered follower (by simp)
    have knownRest : ∀ user ∈ rest, user ∈ manager.pendingQueues :=
      fun user member => registered user (by simp [member])
    have freshOffline : follower ∉ manager.offlineAmong rest :=
      fun member => fresh (List.mem_of_mem_filter member)
    by_cases offline : manager.Offline follower
    · have step := ih (manager.setQueue follower
          (enqueue (manager.queueOf follower) ⟨notification.username, notification.id⟩)) last
        (fun user member => (mem_pendingQueues_setQueue ..).mpr (knownRest user member))
        distinctRest sender ending
      have same := offlineAmong_setQueue manager follower
        (enqueue (manager.queueOf follower) ⟨notification.username, notification.id⟩) rest fresh known
      have more := offlineAmong_cons_offline offline rest
      simp only [sendToEach, sendTo_offline manager notification known offline]
      constructor
      · intro name
        rw [step.stored name, same, more, stored_setQueue]
        congr 4
        simp only [List.length_cons]
        omega
      · intro user
        rw [step.queues user, same, more, queueOf_setQueue manager known]
        by_cases here : user = follower
        · simp [here, freshOffline]
        · simp [here]
      · intro pending
        rw [step.count pending, same, more, count_enqueue manager known]
        by_cases here : pending = ⟨notification.username, notification.id⟩
        · simp only [here, ↓reduceIte, List.length_cons]
          omega
        · simp [here]
      · intro name
        exact step.senders name
      · intro user
        exact (step.users user).trans (mem_pendingQueues_setQueue ..)
      · exact step.nextId
      · rw [step.inserted]
        simp only [List.flatMap_cons, insertToSubscribers_offline offline, List.nil_append]
        apply List.flatMap_congr
        intro user member
        have different : user ≠ follower := fun same => fresh (same ▸ member)
        simp [queueOf_setQueue manager known, different]
    · have ended : (manager.countLastDown notification.username).stored notification.username =
          before ++ [{ last with pendingCount := last.pendingCount - 1 }] := by
        simp [countLastDown, stored_changeStored manager sender, ending, List.modifyLast_concat]
      have step := ih (manager.countLastDown notification.username)
        { last with pendingCount := last.pendingCount - 1 } knownRest distinctRest
        ((mem_notifications_changeStored ..).mpr sender) ended
      have same : (manager.countLastDown notification.username).offlineAmong rest =
          manager.offlineAmong rest := rfl
      have more := offlineAmong_cons_online offline rest
      simp only [sendToEach, sendTo_online manager notification known offline]
      constructor
      · intro name
        rw [step.stored name, same, more]
        by_cases here : name = notification.username
        · simp only [here, ↓reduceIte]
          congr 3
          simp only [List.length_cons]
          omega
        · simp [here, countLastDown, stored_changeStored manager sender]
      · intro user
        rw [step.queues user, same, more]
        rfl
      · intro pending
        rw [step.count pending, same, more]
        rfl
      · intro name
        exact (step.senders name).trans (mem_notifications_changeStored ..)
      · intro user
        exact step.users user
      · exact step.nextId
      · rw [step.inserted]
        rfl

/-- The notification under the id that the next successful `send` hands out. -/
def issue (manager : NotificationManager) (notification : Notification) : Notification :=
  { notification with id := int32 manager.nextId }

@[simp] theorem username_issue (manager : NotificationManager) (notification : Notification) :
    (manager.issue notification).username = notification.username := rfl

@[simp] theorem pendingCount_issue (manager : NotificationManager) (notification : Notification) :
    (manager.issue notification).pendingCount = notification.pendingCount := rfl

/-- The entry an offline follower gets for it. -/
def issuedEntry (manager : NotificationManager) (notification : Notification) :
    PendingNotification :=
  ⟨notification.username, int32 manager.nextId⟩

/-- What a send with a registered sender leaves behind. -/
structure Sent (manager : NotificationManager) (notification : Notification)
    (followers : List Text) (call : Call) : Prop where
  stored : ∀ sender, call.manager.stored sender =
    if sender = notification.username ∧ manager.offlineAmong followers ≠ [] then
      manager.stored sender ++ [{ manager.issue notification with
        pendingCount := (manager.offlineAmong followers).length }]
    else manager.stored sender
  queues : ∀ user, call.manager.queueOf user =
    if user ∈ manager.offlineAmong followers then
      enqueue (manager.queueOf user) (manager.issuedEntry notification)
    else manager.queueOf user
  count : ∀ pending, call.manager.pendingEntries.count pending =
    manager.pendingEntries.count pending +
      if pending = manager.issuedEntry notification
      then (manager.offlineAmong followers).length else 0
  senders : ∀ sender, sender ∈ call.manager.notifications ↔ sender ∈ manager.notifications
  users : ∀ user, user ∈ call.manager.pendingQueues ↔ user ∈ manager.pendingQueues
  nextId : call.manager.nextId = uint32 (manager.nextId + 1)
  inserted : call.inserted = followers.flatMap fun user =>
    (manager.queueOf user).insertToSubscribers (manager.issue notification)
  updates : call.updates = [call.manager]

theorem send_unregistered (manager : NotificationManager) (notification : Notification)
    (followers : List Text) (absent : notification.username ∉ manager.notifications) :
    manager.send notification followers = { manager } := by
  simp [send, createNotification, absent]

/-- The manager in which `send` has stored its notification. -/
def created (manager : NotificationManager) (notification : Notification) :
    NotificationManager :=
  manager.getNextId.2.changeStored notification.username (· ++ [manager.issue notification])

theorem pendingQueues_created (manager : NotificationManager)
    (notification : Notification) :
    (created manager notification).pendingQueues = manager.pendingQueues := rfl

theorem mem_created (manager : NotificationManager) (notification : Notification)
    (sender : Text) :
    sender ∈ (created manager notification).notifications ↔ sender ∈ manager.notifications :=
  mem_notifications_changeStored manager.getNextId.2 ..

theorem send_registered (manager : NotificationManager) (notification : Notification)
    (followers : List Text) (sender : notification.username ∈ manager.notifications) :
    manager.send notification followers =
      let sent := (created manager notification).sendToEach (manager.issue notification) followers
      { manager := sent.1.popSettled notification.username
        inserted := sent.2
        updates := [sent.1.popSettled notification.username] } := by
  simp [send, createNotification, sender, created, issue, getNextId]

theorem popSettled_stored (manager : NotificationManager) (username : Text)
    (before : List Notification) (last : Notification)
    (ending : manager.stored username = before ++ [last]) (sender : Text) :
    (manager.popSettled username).stored sender =
      if sender = username ∧ last.pendingCount ≤ 0 then before else manager.stored sender := by
  have present : username ∈ manager.notifications :=
    @mem_of_mem_stored manager _ last (by simp [ending])
  by_cases settled : last.pendingCount ≤ 0
  · simp only [popSettled, ending, List.getLast?_concat, settled, ↓reduceIte, and_true]
    rw [stored_changeStored manager present]
    by_cases here : sender = username
    · simp [here, ending]
    · simp [here]
  · simp [popSettled, ending, settled]

theorem popSettled_frame (manager : NotificationManager) (username : Text) :
    (manager.popSettled username).pendingQueues = manager.pendingQueues ∧
      (manager.popSettled username).nextId = manager.nextId ∧
      ∀ sender, sender ∈ (manager.popSettled username).notifications ↔
        sender ∈ manager.notifications := by
  unfold popSettled
  split
  · split
    · exact ⟨rfl, rfl, fun sender => mem_notifications_changeStored ..⟩
    · exact ⟨rfl, rfl, fun sender => Iff.rfl⟩
  · exact ⟨rfl, rfl, fun sender => Iff.rfl⟩

theorem offlineAmong_created (manager : NotificationManager) (notification : Notification)
    (followers : List Text) :
    (created manager notification).offlineAmong followers = manager.offlineAmong followers := by
  simp only [offlineAmong, queueOf, pendingQueues_created]

/-- The loop of `send`, behind the notification that it is about. -/
theorem sendToEach_created (manager : NotificationManager) (notification : Notification)
    (followers : List Text) (sender : notification.username ∈ manager.notifications)
    (registered : ∀ follower ∈ followers, follower ∈ manager.pendingQueues)
    (distinct : followers.Nodup) :
    (∀ name, name ≠ notification.username →
      (created manager notification).stored name = manager.stored name) ∧
    SentTo (created manager notification) (manager.issue notification) (manager.issue notification)
      (manager.stored notification.username) followers
      ((created manager notification).sendToEach (manager.issue notification) followers) := by
  have storing := stored_changeStored manager.getNextId.2 sender (· ++ [manager.issue notification])
  have ending : (created manager notification).stored notification.username =
      manager.stored notification.username ++ [manager.issue notification] :=
    (storing notification.username).trans (if_pos rfl)
  have known : ∀ follower ∈ followers,
      follower ∈ (created manager notification).pendingQueues := by
    rw [pendingQueues_created]
    exact registered
  have present : (manager.issue notification).username ∈
      (created manager notification).notifications := by
    rw [mem_created, username_issue]
    exact sender
  refine ⟨fun name different => (storing name).trans (if_neg different), ?_⟩
  exact sendToEach_spec (created manager notification) (manager.issue notification)
    (manager.issue notification) (manager.stored notification.username) followers known
    distinct present (by rw [username_issue]; exact ending)

/-- `send` with a registered sender, distinct registered followers and the
count that the route gives it. -/
theorem send_spec (manager : NotificationManager) (notification : Notification)
    (followers : List Text)
    (sender : notification.username ∈ manager.notifications)
    (registered : ∀ follower ∈ followers, follower ∈ manager.pendingQueues)
    (distinct : followers.Nodup)
    (counted : notification.pendingCount = followers.length) :
    Sent manager notification followers (manager.send notification followers) := by
  obtain ⟨others, sent⟩ := sendToEach_created manager notification followers sender registered
    distinct
  have offline := offlineAmong_created manager notification followers
  have remaining : (manager.issue notification).pendingCount - followers.length +
      (manager.offlineAmong followers).length = (manager.offlineAmong followers).length := by
    simp [counted]
  rw [send_registered manager notification followers sender]
  generalize (created manager notification).sendToEach (manager.issue notification) followers =
    result at sent
  obtain ⟨queues, nextId, senders⟩ := popSettled_frame result.1 notification.username
  have last := sent.stored notification.username
  rw [offline, remaining] at last
  constructor
  · intro name
    simp only
    rw [popSettled_stored result.1 notification.username _ _ (last.trans (if_pos rfl))]
    by_cases here : name = notification.username
    · subst here
      by_cases none : manager.offlineAmong followers = []
      · simp [none]
      · have some : ¬ ((manager.offlineAmong followers).length : Int) ≤ 0 := by
          have := List.length_pos_iff.mpr none
          omega
        simp [none, last, issue]
    · simp [here, sent.stored name, others name here, issue]
  · intro user
    simp only [queueOf, queues]
    exact sent.queues user
  · intro pending
    simp only [pendingEntries, queues]
    exact sent.count pending
  · intro name
    exact (senders name).trans ((sent.senders name).trans (mem_created manager notification name))
  · intro user
    simp only [queues]
    exact sent.users user
  · exact nextId.trans sent.nextId
  · exact sent.inserted
  · rfl

end TwitterClone.NotificationManager
