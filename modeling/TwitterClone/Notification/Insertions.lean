import TwitterClone.Notification.Ledger

/-! What every call does to the subscriber maps and where it inserts, with no
assumption about the followers, the counts or the ids. -/
namespace TwitterClone.NotificationManager

open Foundation

/-- A subscriber map of the user has a reference to this session queue. -/
def Refers (manager : NotificationManager) (user : Text) (session : QueueRef) : Prop :=
  ∃ key, (key, session) ∈ (manager.queueOf user).subscribersQueue.entries

theorem mem_insertToSubscribers {queue : NotificationQueue} {notification : Notification}
    {insertion : Insertion} (member : insertion ∈ queue.insertToSubscribers notification) :
    insertion.notification = notification ∧
      ∃ key, (key, insertion.queue) ∈ queue.subscribersQueue.entries := by
  obtain ⟨entry, inside, same⟩ := List.mem_map.mp member
  exact same ▸ ⟨rfl, entry.1, inside⟩

section Send

variable {manager : NotificationManager}

/-- Nothing but the backlog of offline users changes, and queues of the given
users get the insertions. -/
structure Reaches (manager next : NotificationManager) (inserted : List Insertion)
    (users : List Text) : Prop where
  subscribers : ∀ user,
    (next.queueOf user).subscribersQueue = (manager.queueOf user).subscribersQueue
  backlog : ∀ user, (manager.queueOf user).hasSubscribers = true →
    (next.queueOf user).pendingQueue = (manager.queueOf user).pendingQueue
  targets : ∀ insertion ∈ inserted, ∃ user ∈ users, manager.Refers user insertion.queue

theorem sendTo_reaches (manager : NotificationManager) (notification : Notification)
    (follower : Text) :
    Reaches manager (manager.sendTo notification follower).1
      (manager.sendTo notification follower).2 [follower] := by
  by_cases known : follower ∈ manager.pendingQueues
  · by_cases offline : manager.Offline follower
    · rw [sendTo_offline manager notification known offline]
      refine ⟨?_, ?_, by simp⟩
      · intro user
        rw [queueOf_setQueue manager known]
        split
        next same => rw [same, enqueue]
        next => rfl
      · intro user online
        have different : user ≠ follower := by
          intro same
          rw [same, offline] at online
          cases online
        rw [queueOf_setQueue manager known, if_neg different]
    · rw [sendTo_online manager notification known offline]
      refine ⟨fun _ => rfl, fun _ _ => rfl, ?_⟩
      intro insertion member
      exact ⟨follower, List.mem_singleton_self _, (mem_insertToSubscribers member).2⟩
  · rw [sendTo, if_neg known]
    exact ⟨fun _ => rfl, fun _ _ => rfl, by simp⟩

theorem Reaches.trans {middle next : NotificationManager} {first second : List Insertion}
    {users others : List Text} (before : Reaches manager middle first users)
    (after : Reaches middle next second others) :
    Reaches manager next (first ++ second) (users ++ others) := by
  refine ⟨fun user => (after.subscribers user).trans (before.subscribers user), ?_, ?_⟩
  · intro user online
    have still : (middle.queueOf user).hasSubscribers = true := by
      rw [NotificationQueue.hasSubscribers, before.subscribers]
      exact online
    rw [after.backlog user still, before.backlog user online]
  · intro insertion member
    rcases List.mem_append.mp member with early | late
    · obtain ⟨user, inside, refers⟩ := before.targets insertion early
      exact ⟨user, List.mem_append_left _ inside, refers⟩
    · obtain ⟨user, inside, refers⟩ := after.targets insertion late
      rw [Refers, before.subscribers] at refers
      exact ⟨user, List.mem_append_right _ inside, refers⟩

theorem sendToEach_reaches (notification : Notification) (followers : List Text)
    (manager : NotificationManager) :
    Reaches manager (manager.sendToEach notification followers).1
      (manager.sendToEach notification followers).2 followers := by
  induction followers generalizing manager with
  | nil => exact ⟨fun _ => rfl, fun _ _ => rfl, by simp [sendToEach]⟩
  | cons follower rest ih => exact (sendTo_reaches manager notification follower).trans (ih _)

theorem send_reaches (manager : NotificationManager) (notification : Notification)
    (followers : List Text) :
    Reaches manager (manager.send notification followers).manager
      (manager.send notification followers).inserted
      (if notification.username ∈ manager.notifications then followers else []) := by
  by_cases sender : notification.username ∈ manager.notifications
  · have reached := sendToEach_reaches (manager.issue notification) followers
      (manager.getNextId.2.changeStored notification.username (· ++ [manager.issue notification]))
    have settled : ∀ next user,
        (popSettled next notification.username).queueOf user = next.queueOf user := by
      intro next user
      rw [queueOf, (popSettled_frame next notification.username).1]
      rfl
    rw [send, createNotification, if_pos sender, if_pos sender]
    refine ⟨?_, ?_, reached.targets⟩
    · intro user
      exact (congrArg NotificationQueue.subscribersQueue (settled _ user)).trans
        (reached.subscribers user)
    · intro user online
      exact (congrArg NotificationQueue.pendingQueue (settled _ user)).trans
        (reached.backlog user online)
  · rw [send_unregistered manager notification followers sender, if_neg sender]
    exact ⟨fun _ => rfl, fun _ _ => rfl, by simp⟩

theorem OnlineDrained.reaches {next : NotificationManager} {inserted : List Insertion}
    {users : List Text} (drained : OnlineDrained manager)
    (reached : Reaches manager next inserted users) : OnlineDrained next := by
  intro user online
  have before : (manager.queueOf user).hasSubscribers = true := by
    rw [NotificationQueue.hasSubscribers, ← reached.subscribers]
    exact online
  rw [reached.backlog user before, drained user before]

end Send

section Subscribe

variable {manager : NotificationManager} {username : Text}

theorem queueOf_findNotification (manager : NotificationManager) (pending : PendingNotification)
    (user : Text) : (manager.findNotification pending).2.queueOf user = manager.queueOf user := by
  unfold findNotification
  split
  next => split <;> rfl
  next => rfl

theorem drainOne_frame {pending : PendingNotification} {rest : List PendingNotification}
    (waiting : (manager.queueOf username).pendingQueue = pending :: rest) :
    (∀ user, (manager.drainOne username).1.queueOf user =
      if user = username then { manager.queueOf username with pendingQueue := rest }
      else manager.queueOf user) ∧
    ∀ insertion ∈ (manager.drainOne username).2, manager.Refers username insertion.queue := by
  have removed : (manager.queueOf username).removePending =
      (pending, { manager.queueOf username with pendingQueue := rest }) := by
    simp [NotificationQueue.removePending, waiting]
  have queues := queueOf_setQueue manager (mem_of_pending waiting)
    { manager.queueOf username with pendingQueue := rest }
  rw [drainOne, removed]
  dsimp only
  split
  next =>
    have searched := queueOf_findNotification (manager.setQueue username
      { manager.queueOf username with pendingQueue := rest }) pending
    split
    next result next found =>
      rw [found] at searched
      refine ⟨fun user => (searched user).trans (queues user), ?_⟩
      intro insertion member
      obtain ⟨-, key, entry⟩ := mem_insertToSubscribers member
      rw [searched, queues, if_pos rfl] at entry
      exact ⟨key, entry⟩
    next next found =>
      rw [found] at searched
      exact ⟨fun user => (searched user).trans (queues user), by simp⟩
  next => exact ⟨queues, by simp⟩

theorem drain_frame (backlog : List PendingNotification) (manager : NotificationManager)
    (waiting : (manager.queueOf username).pendingQueue = backlog) :
    (∀ user, (manager.drain username backlog.length).1.queueOf user =
      if user = username then { manager.queueOf username with pendingQueue := [] }
      else manager.queueOf user) ∧
    ∀ insertion ∈ (manager.drain username backlog.length).2,
      manager.Refers username insertion.queue := by
  induction backlog generalizing manager with
  | nil =>
    refine ⟨?_, by simp [drain]⟩
    intro user
    split
    next same =>
      show manager.queueOf user = _
      rw [same, ← waiting]
    next => rfl
  | cons pending rest ih =>
    obtain ⟨queues, targets⟩ := drainOne_frame waiting
    have still : ((manager.drainOne username).1.queueOf username).pendingQueue = rest := by
      rw [queues, if_pos rfl]
    obtain ⟨later, targetsLater⟩ := ih (manager.drainOne username).1 still
    have some : (manager.queueOf username).hasPending = true := by
      simp [NotificationQueue.hasPending, waiting]
    rw [List.length_cons, drain, if_pos some]
    constructor
    · intro user
      show ((manager.drainOne username).1.drain username rest.length).1.queueOf user = _
      rw [later, queues, queues, if_pos rfl]
      split <;> rfl
    · intro insertion member
      rcases List.mem_append.mp member with here | after
      · exact targets insertion here
      · have refers := targetsLater insertion after
        rw [Refers, queues, if_pos rfl] at refers
        exact refers

/-- A user who subscribes has no backlog left, whatever could be resolved. Without
a backlog nothing is inserted. -/
theorem subscribe_frame (manager : NotificationManager) (username : Text) (id : Nat)
    (session : QueueRef) :
    (∀ user, (manager.subscribe username id session).manager.queueOf user =
      if user = username then
        { (manager.queueOf username).subscribe id session with pendingQueue := [] }
      else manager.queueOf user) ∧
    ∀ insertion ∈ (manager.subscribe username id session).inserted,
      (manager.queueOf username).pendingQueue ≠ [] ∧
        (manager.subscribe username id session).manager.Refers username insertion.queue := by
  by_cases present : username ∈ manager.pendingQueues
  · have queue := queueOf_addSubscriber present id session
    have waiting := pendingQueue_addSubscriber present id session
    obtain ⟨queues, targets⟩ := drain_frame _ (manager.addSubscriber username id session) waiting
    rw [subscribe_of_mem present]
    constructor
    · intro user
      show ((manager.addSubscriber username id session).drain username _).1.queueOf user = _
      rw [queues, queue, queue, if_pos rfl]
      split <;> rfl
    · intro insertion member
      constructor
      · intro empty
        rw [empty] at member
        cases member
      · have refers := targets insertion member
        rw [Refers, queue, if_pos rfl] at refers
        rw [Refers, queues, if_pos rfl, queue, if_pos rfl]
        exact refers
  · have known := mem_register_self manager username
    rw [subscribe_of_notMem present]
    refine ⟨?_, by simp⟩
    intro user
    rw [queueOf_addSubscriber known, queueOf_register, queueOf_register]
    split
    next =>
      rw [queueOf_of_notMem manager present]
      rfl
    next => rfl

end Subscribe

end TwitterClone.NotificationManager
