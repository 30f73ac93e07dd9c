import TwitterClone.Notification.Displacement
import TwitterClone.Notification.ExactlyOnce

/-! Subscriptions of two users, in either order. The drains share the stored
notifications, and the one that comes last erases. -/
namespace TwitterClone

open Foundation

/-- What a session shows of a notification. -/
def Notification.shown (notification : Notification) : Int × Text × Nat × Text :=
  (notification.id, notification.username, notification.timestamp, notification.message)

namespace NotificationManager

/-- The maps have the same entry under every key. -/
structure Coincide (first second : NotificationManager) : Prop where
  notifications : ∀ sender, first.notifications.lookup sender = second.notifications.lookup sender
  pendingQueues : ∀ user, first.pendingQueues.lookup user = second.pendingQueues.lookup user
  nextId : first.nextId = second.nextId

/-- One user subscribes and then the other. -/
def subscribeBoth (manager : NotificationManager) (user : Text) (id : Nat) (queue : QueueRef)
    (other : Text) (otherId : Nat) (otherQueue : QueueRef) :
    NotificationManager × List Insertion :=
  let first := manager.subscribe user id queue
  let second := first.manager.subscribe other otherId otherQueue
  (second.manager, first.inserted ++ second.inserted)

/-- No user has the queue. -/
def Unlisted (manager : NotificationManager) (queue : QueueRef) : Prop :=
  ∀ name key, ¬ manager.Listed name key queue

/-- The order of two subscriptions makes no difference to the manager, nor to what the
two queues get to see. -/
structure Commute (manager : NotificationManager) (user : Text) (id : Nat) (queue : QueueRef)
    (other : Text) (otherId : Nat) (otherQueue : QueueRef) : Prop where
  state : Coincide (manager.subscribeBoth user id queue other otherId otherQueue).1
    (manager.subscribeBoth other otherId otherQueue user id queue).1
  queues : ∀ target ∈ [queue, otherQueue],
    (received (manager.subscribeBoth user id queue other otherId otherQueue).2 target).map
        Notification.shown =
      (received (manager.subscribeBoth other otherId otherQueue user id queue).2 target).map
        Notification.shown

section Settling

theorem countDown_shown {notification lower : Notification}
    (counted : countDown notification = some lower) : lower.shown = notification.shown := by
  unfold countDown at counted
  split at counted
  next => cases counted
  next =>
    rw [← Option.some.inj counted]
    rfl

theorem settle_shown {drained : List PendingNotification} {sender : Text}
    {notification lower : Notification}
    (settled : settle drained sender notification = some lower) :
    lower.shown = notification.shown := by
  unfold settle at settled
  split at settled
  next => exact countDown_shown settled
  next => rw [Option.some.inj settled]

/-- Two drains count a notification down independently. -/
theorem settle_comm (first second : List PendingNotification) (sender : Text)
    (notification : Notification) :
    (settle first sender notification).bind (settle second sender) =
      (settle second sender notification).bind (settle first sender) := by
  have later : ∀ drained : List PendingNotification,
      (countDown notification).bind (settle drained sender) =
        if ⟨sender, notification.id⟩ ∈ drained then (countDown notification).bind countDown
        else countDown notification := by
    intro drained
    cases counted : countDown notification with
    | none => simp
    | some lower =>
      rw [Option.bind_some, Option.bind_some, settle, countDown_id counted]
  have once : ∀ drained : List PendingNotification, settle drained sender notification =
      if ⟨sender, notification.id⟩ ∈ drained then countDown notification
      else some notification := fun _ => rfl
  rw [once first, once second]
  by_cases inFirst : ⟨sender, notification.id⟩ ∈ first
  · by_cases inSecond : ⟨sender, notification.id⟩ ∈ second
    · rw [if_pos inFirst, if_pos inSecond, later, later, if_pos inFirst, if_pos inSecond]
    · rw [if_pos inFirst, if_neg inSecond, later, if_neg inSecond, Option.bind_some, once,
        if_pos inFirst]
  · by_cases inSecond : ⟨sender, notification.id⟩ ∈ second
    · rw [if_neg inFirst, if_pos inSecond, later, if_neg inFirst, Option.bind_some, once,
        if_pos inSecond]
    · rw [if_neg inFirst, if_neg inSecond, Option.bind_some, Option.bind_some, once, once,
        if_neg inFirst, if_neg inSecond]

end Settling

section Received

variable {manager : NotificationManager} {user other : Text} {id otherId : Nat}
  {queue otherQueue : QueueRef}

/-- A notification is shown to a queue as often as the subscriber map lists it. -/
theorem shown_received (subscribers : NotificationQueue) (notification : Notification)
    (queue : QueueRef) :
    (received (subscribers.insertToSubscribers notification) queue).map Notification.shown =
      (subscribers.subscribersQueue.entries.filter (·.2 = queue)).map
        fun _ => notification.shown := by
  rw [received, NotificationQueue.insertToSubscribers, List.filter_map, List.map_map, List.map_map]
  rfl

/-- What the drain of a new session shows to its queue. -/
theorem shown_subscribe {call : Call} (subscribed : Subscribed manager user id queue call)
    (target : QueueRef) :
    (received call.inserted target).map Notification.shown =
      (manager.queueOf user).pendingQueue.flatMap fun pending =>
        ((manager.resolve pending).map Notification.shown).toList.flatMap fun shown =>
          ((((manager.queueOf user).subscribe id queue).subscribersQueue.entries.filter
            (·.2 = target)).map fun _ => shown) := by
  rw [subscribed.inserted, received_flatMap, List.map_flatMap]
  refine List.flatMap_congr fun pending _ => ?_
  cases manager.resolve pending with
  | none => rfl
  | some notification =>
    simp only [Option.toList_some, List.flatMap_cons, List.flatMap_nil, List.append_nil,
      Option.map_some]
    exact shown_received _ notification target

/-- A queue that a user does not have gets nothing from the drain of the user's queue. -/
theorem received_stranger {call : Call} (subscribed : Subscribed manager user id queue call)
    {target : QueueRef} (away : queue ≠ target)
    (unlisted : ∀ key, ¬ manager.Listed user key target) :
    received call.inserted target = [] := by
  have none : ((manager.queueOf user).subscribe id queue).subscribersQueue.entries.filter
      (·.2 = target) = [] := by
    rw [List.filter_eq_nil_iff]
    rintro ⟨key, session⟩ member
    rw [decide_eq_true_eq]
    rintro rfl
    exact unlisted key ((mem_emplace_entries away).mp member)
  apply List.map_eq_nil_iff.mp
  rw [shown_subscribe subscribed, none]
  simp

/-- A notification that two users wait for is still there, with its text, when one of them
has been served. -/
theorem shown_resolve (ledger : Ledger manager) {call : Call}
    (subscribed : Subscribed manager other otherId otherQueue call) (different : user ≠ other)
    {pending : PendingNotification} (waits : pending ∈ (manager.queueOf user).pendingQueue) :
    (call.manager.resolve pending).map Notification.shown =
      (manager.resolve pending).map Notification.shown := by
  have still : pending ∈ (call.manager.queueOf user).pendingQueue := by
    rw [subscribed.queues, if_neg different]
    exact waits
  obtain ⟨original, stored, sameId, found⟩ := ledger.resolve_eq waits
  obtain ⟨copy, kept, copyId, foundToo⟩ := subscribed.ledger.resolve_eq still
  rw [subscribed.stored] at kept
  obtain ⟨older, storedToo, settled⟩ := List.mem_filterMap.mp kept
  have same : older = original :=
    List.inj_on_of_nodup_map (ledger.distinctIds pending.sender) storedToo stored
      ((settle_id settled).symm.trans (copyId.trans sameId.symm))
  rw [found, foundToo, Option.map_some, Option.map_some, settle_shown settled, same]

/-- The other user's drain makes no difference to what a new session is shown. -/
theorem shown_after (ledger : Ledger manager) {call alone later : Call}
    (subscribed : Subscribed manager other otherId otherQueue call) (different : user ≠ other)
    (first : Subscribed manager user id queue alone)
    (second : Subscribed call.manager user id queue later) (target : QueueRef) :
    (received later.inserted target).map Notification.shown =
      (received alone.inserted target).map Notification.shown := by
  have same : call.manager.queueOf user = manager.queueOf user :=
    (subscribed.queues user).trans (if_neg different)
  rw [shown_subscribe first, shown_subscribe second, same]
  refine List.flatMap_congr fun pending waits => ?_
  rw [shown_resolve ledger subscribed different waits]

end Received

section Commuting

variable {manager : NotificationManager} {user other : Text} {id otherId : Nat}
  {queue otherQueue : QueueRef}

/-- The queue of one user, in both orders. -/
theorem shown_both (ledger : Ledger manager) (different : user ≠ other) (apart : queue ≠ otherQueue)
    (unlisted : manager.Unlisted queue) :
    (received (manager.subscribeBoth user id queue other otherId otherQueue).2 queue).map
        Notification.shown =
      (received (manager.subscribeBoth other otherId otherQueue user id queue).2 queue).map
        Notification.shown := by
  have first := subscribe_spec ledger user id queue
  have second := subscribe_spec first.ledger other otherId otherQueue
  have firstToo := subscribe_spec ledger other otherId otherQueue
  have secondToo := subscribe_spec firstToo.ledger user id queue
  have unlistedAfter : ∀ key,
      ¬ (manager.subscribe user id queue).manager.Listed other key queue := by
    intro key
    rw [Listed, first.queues, if_neg different.symm]
    exact unlisted other key
  rw [subscribeBoth, subscribeBoth, received_append, received_append,
    received_stranger second apart.symm unlistedAfter,
    received_stranger firstToo apart.symm (unlisted other), List.append_nil, List.nil_append]
  exact (shown_after ledger firstToo different first secondToo queue).symm

theorem coincide_both (ledger : Ledger manager) (different : user ≠ other) :
    Coincide (manager.subscribeBoth user id queue other otherId otherQueue).1
      (manager.subscribeBoth other otherId otherQueue user id queue).1 := by
  have first := subscribe_spec ledger user id queue
  have second := subscribe_spec first.ledger other otherId otherQueue
  have firstToo := subscribe_spec ledger other otherId otherQueue
  have secondToo := subscribe_spec firstToo.ledger user id queue
  constructor
  · refine UnorderedMap.lookup_congr [] ?_ ?_
    · intro sender
      show sender ∈ NotificationManager.notifications _ ↔ _
      rw [subscribeBoth, subscribeBoth, second.senders, first.senders, secondToo.senders,
        firstToo.senders, or_left_comm]
    · intro sender
      show NotificationManager.stored _ sender = NotificationManager.stored _ sender
      rw [subscribeBoth, subscribeBoth, second.stored, first.stored, secondToo.stored,
        firstToo.stored, first.queues, firstToo.queues, if_neg different, if_neg different.symm,
        List.filterMap_filterMap, List.filterMap_filterMap]
      exact List.filterMap_congr fun notification _ => settle_comm _ _ sender notification
  · refine UnorderedMap.lookup_congr {} ?_ ?_
    · intro name
      show name ∈ NotificationManager.pendingQueues _ ↔ _
      rw [subscribeBoth, subscribeBoth, second.users, first.users, secondToo.users,
        firstToo.users, or_left_comm]
    · intro name
      show NotificationManager.queueOf _ name = NotificationManager.queueOf _ name
      rw [subscribeBoth, subscribeBoth, second.queues, first.queues, first.queues,
        secondToo.queues, firstToo.queues, firstToo.queues, if_neg different,
        if_neg different.symm]
      by_cases here : name = user
      · rw [if_pos here, if_neg (here ▸ different), if_pos here]
      · rw [if_neg here, if_neg here]
  · rw [subscribeBoth, subscribeBoth, second.nextId, first.nextId, secondToo.nextId,
      firstToo.nextId]

theorem Ledger.commute (ledger : Ledger manager) (different : user ≠ other)
    (apart : queue ≠ otherQueue) (unlisted : manager.Unlisted queue)
    (unlistedToo : manager.Unlisted otherQueue) :
    manager.Commute user id queue other otherId otherQueue := by
  refine ⟨coincide_both ledger different, ?_⟩
  intro target member
  rcases List.mem_cons.mp member with rfl | second
  · exact shown_both ledger different apart unlisted
  · rw [List.mem_singleton.mp second]
    exact (shown_both ledger different.symm apart.symm unlistedToo).symm

/-- Every manager that is reached while no id has come round keeps the ledger. -/
theorem books_of_run {issued : Nat} {operations : List Operation} {final : NotificationManager}
    (books : Books issued manager) (few : issued + sends operations ≤ 2 ^ 32)
    (reached : run step manager operations = some final) : ∃ later, Books later final := by
  have kept : ∀ issued manager operation next, Books issued manager →
      step manager operation = some next → issued ≤ 2 ^ 32 →
      (operation.isSend = true → issued < 2 ^ 32) →
      ∃ later, Books later next ∧ later ≤ issued + if operation.isSend then 1 else 0 := by
    intro issued manager operation next books taken _ room
    obtain ⟨admissible, rfl⟩ := step_eq_some.mp taken
    exact books.call operation admissible room
  obtain ⟨later, -, last⟩ := run_counted kept books few reached
  exact ⟨later, last⟩

/-- A queue that no entry of the map lists. -/
theorem unlisted_of_entries (none : ∀ entry ∈ manager.pendingQueues.entries,
    ∀ listed ∈ entry.2.subscribersQueue.entries, listed.2 ≠ queue) : manager.Unlisted queue := by
  intro name key listed
  unfold Listed queueOf at listed
  cases found : manager.pendingQueues.lookup name with
  | none =>
    rw [found] at listed
    cases listed
  | some subscribers =>
    rw [found] at listed
    exact none _ (UnorderedMap.lookup_eq_some.mp found) _ listed rfl

end Commuting

end NotificationManager

open NotificationManager

/-- Two users can subscribe in any order, in every manager that is reached by at most
`2 ^ 32` sends. -/
theorem commute_of_run (operations : List Operation) (manager : NotificationManager)
    (user other : Text) (id otherId : Nat) (queue otherQueue : QueueRef)
    (reached : run NotificationManager.step {} operations = some manager)
    (few : sends operations ≤ 2 ^ 32) (different : user ≠ other) (apart : queue ≠ otherQueue)
    (unlisted : manager.Unlisted queue) (unlistedToo : manager.Unlisted otherQueue) :
    manager.Commute user id queue other otherId otherQueue := by
  obtain ⟨issued, books⟩ := books_of_run books_empty (by omega) reached
  exact books.ledger.commute different apart unlisted unlistedToo

/-- A tweet that two users wait for. -/
def shared : List Operation :=
  [.loadUsers [['a'], ['f'], ['g']], .send ⟨-1, 5, ['a'], 2, ['h', 'i']⟩ [['f'], ['g']]]

theorem commute_shared :
    ∃ manager, run NotificationManager.step {} shared = some manager ∧
      manager.Commute ['f'] 7 0 ['g'] 8 1 :=
  ⟨_, rfl, commute_of_run shared _ ['f'] ['g'] 7 8 0 1 rfl (by decide) (by decide) (by decide)
    (unlisted_of_entries (by decide)) (unlisted_of_entries (by decide))⟩

/-- A tweet with the id 1 waits for one of two users, and some id comes next. -/
def waitingFor (nextId : Nat) : NotificationManager where
  notifications := ⟨[(['a'], [⟨1, 5, ['a'], 1, ['h', 'i']⟩]), (['f'], []), (['g'], [])], by decide⟩
  pendingQueues := ⟨[(['a'], {}), (['f'], { pendingQueue := [⟨['a'], 1⟩] }), (['g'], {})], by decide⟩
  nextId

theorem step_waitingFor (nextId : Nat) :
    (waitingFor nextId).step unread = some (waitingFor (uint32 (nextId + 1))) := by
  rfl

/-- A later tweet for the other user. -/
def sameId : Operation := .send ⟨-1, 6, ['a'], 1, ['h', 'o']⟩ [['g']]

/-- Without the bound two tweets of one user have the same id, and whoever comes first
gets the older one. -/
theorem not_commute_unbounded :
    ¬ ∀ (operations : List Operation) (manager : NotificationManager) (user other : Text)
      (id otherId : Nat) (queue otherQueue : QueueRef),
      run NotificationManager.step {} operations = some manager → user ≠ other →
      queue ≠ otherQueue → manager.Unlisted queue → manager.Unlisted otherQueue →
      manager.Commute user id queue other otherId otherQueue := by
  intro claim
  have loaded : run NotificationManager.step {} [.loadUsers [['a'], ['f'], ['g']],
      .send ⟨-1, 5, ['a'], 1, ['h', 'i']⟩ [['f']]] = some (waitingFor 2) := rfl
  have wrapped : uint32 (2 + (2 ^ 32 - 1)) = 1 := by decide
  have unreadAll : run NotificationManager.step (waitingFor 2)
      (List.replicate (2 ^ 32 - 1) unread) = some (waitingFor 1) := by
    rw [run_replicate step_waitingFor, uint32_iterate (by decide), wrapped]
  have last : run NotificationManager.step (waitingFor 1) [sameId] =
      some ((waitingFor 1).call sameId).manager := rfl
  have reached := run_append.mpr ⟨_, loaded, run_append.mpr ⟨_, unreadAll, last⟩⟩
  have commute := claim _ _ ['f'] ['g'] 7 8 0 1 reached (by decide) (by decide)
    (unlisted_of_entries (by decide)) (unlisted_of_entries (by decide))
  exact absurd (commute.queues 0 (by decide)) (by decide)

end TwitterClone
