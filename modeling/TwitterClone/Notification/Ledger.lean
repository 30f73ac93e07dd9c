import TwitterClone.Notification.Calls

/-! The ledger that ties stored notifications to pending entries, and the
effect of draining one user's queue on it. -/
namespace TwitterClone

open Foundation

namespace NotificationManager

/-- Counters, sender lists and follower queues as three views of one relation. -/
structure Ledger (manager : NotificationManager) : Prop where
  sameKeys : ∀ user, user ∈ manager.notifications ↔ user ∈ manager.pendingQueues
  owned : ∀ sender, ∀ notification ∈ manager.stored sender, notification.username = sender
  distinctIds : ∀ sender, ((manager.stored sender).map Notification.id).Nodup
  positive : ∀ sender, ∀ notification ∈ manager.stored sender, 0 < notification.pendingCount
  counted : ∀ sender, ∀ notification ∈ manager.stored sender,
    notification.pendingCount = manager.pendingEntries.count ⟨sender, notification.id⟩
  resolved : ∀ user, ∀ pending ∈ (manager.queueOf user).pendingQueue,
    ∃ notification ∈ manager.stored pending.sender, notification.id = pending.notificationId
  once : ∀ user, (manager.queueOf user).pendingQueue.Nodup

/-- Nobody has backlog and a subscribed session at once. -/
def OnlineDrained (manager : NotificationManager) : Prop :=
  ∀ user, (manager.queueOf user).hasSubscribers = true →
    (manager.queueOf user).pendingQueue = []

/-- The stored notification a pending entry refers to. -/
def resolve (manager : NotificationManager) (pending : PendingNotification) :
    Option Notification :=
  (manager.stored pending.sender).find? (·.id = pending.notificationId)

theorem countDown_id {notification lower : Notification}
    (counted : countDown notification = some lower) : lower.id = notification.id := by
  unfold countDown at counted
  split at counted
  · cases counted
  · exact (Option.some.inj counted) ▸ rfl

theorem find_countFirstDown_ne {id other : Int} (different : other ≠ id)
    (notifications : List Notification) :
    (countFirstDown id notifications).find? (·.id = other) =
      notifications.find? (·.id = other) := by
  induction notifications with
  | nil => rfl
  | cons head rest ih =>
    by_cases here : head.id = id
    · have skipped : head.id ≠ other := fun same => different (same.symm.trans here)
      simp only [countFirstDown, here, ↓reduceIte]
      rw [List.find?_cons_of_neg (by simpa using skipped)]
      cases counted : countDown head with
      | none => simp
      | some lower =>
        have kept : lower.id ≠ other := (countDown_id counted).symm ▸ skipped
        simp [kept]
    · simp only [countFirstDown, here, ↓reduceIte]
      rw [List.find?_cons, List.find?_cons, ih]

/-- What a drain of the given entries makes of one stored notification. -/
def settle (drained : List PendingNotification) (sender : Text) (notification : Notification) :
    Option Notification :=
  if ⟨sender, notification.id⟩ ∈ drained then countDown notification else some notification

theorem settle_id {drained : List PendingNotification} {sender : Text}
    {notification lower : Notification}
    (settled : settle drained sender notification = some lower) :
    lower.id = notification.id := by
  unfold settle at settled
  split at settled
  · exact countDown_id settled
  · exact (Option.some.inj settled) ▸ rfl

theorem settle_some {drained : List PendingNotification} {sender : Text}
    {notification lower : Notification}
    (settled : settle drained sender notification = some lower) :
    lower = { notification with pendingCount := notification.pendingCount -
        if ⟨sender, notification.id⟩ ∈ drained then 1 else 0 } ∧
      (⟨sender, notification.id⟩ ∈ drained → 0 < lower.pendingCount) := by
  unfold settle countDown at settled
  by_cases inside : ⟨sender, notification.id⟩ ∈ drained
  · by_cases used : notification.pendingCount - 1 ≤ 0
    · simp [inside, used] at settled
    · simp only [inside, used, ↓reduceIte, Option.some.injEq] at settled
      subst settled
      simp only [inside, ↓reduceIte, true_and]
      intro _
      omega
  · simp only [inside, ↓reduceIte, Option.some.injEq] at settled
    subst settled
    simp [inside]

theorem ids_filterMap_settle (drained : List PendingNotification) (sender : Text)
    (notifications : List Notification) :
    ((notifications.filterMap (settle drained sender)).map Notification.id).Sublist
      (notifications.map Notification.id) := by
  induction notifications with
  | nil => simp
  | cons head rest ih =>
    cases settled : settle drained sender head with
    | none => simpa [settled] using ih.trans (List.sublist_cons_self ..)
    | some lower => simpa [settled, settle_id settled] using ih

theorem countFirstDown_eq_filterMap (sender : Text) (id : Int)
    (notifications : List Notification)
    (distinct : (notifications.map Notification.id).Nodup) :
    countFirstDown id notifications = notifications.filterMap (settle [⟨sender, id⟩] sender) := by
  induction notifications with
  | nil => rfl
  | cons head rest ih =>
    obtain ⟨fresh, distinctRest⟩ := List.nodup_cons.mp distinct
    by_cases here : head.id = id
    · have untouched : rest.filterMap (settle [⟨sender, id⟩] sender) = rest := by
        rw [List.filterMap_congr (g := some), List.filterMap_some]
        intro other member
        have different : other.id ≠ id := fun same =>
          fresh (List.mem_map.mpr ⟨other, member, same.trans here.symm⟩)
        simp [settle, different]
      rw [List.filterMap_cons, untouched]
      cases counted : countDown head <;> simp [countFirstDown, here, settle, counted]
    · simp [countFirstDown, here, settle, ih distinctRest]

theorem settle_cons (first : PendingNotification) (rest : List PendingNotification)
    (fresh : first ∉ rest) (sender : Text) (notification : Notification) :
    (settle [first] sender notification).bind (settle rest sender) =
      settle (first :: rest) sender notification := by
  by_cases here : (⟨sender, notification.id⟩ : PendingNotification) = first
  · have step : settle [first] sender notification = countDown notification := by
      simp [settle, here]
    have whole : settle (first :: rest) sender notification = countDown notification := by
      simp [settle, here]
    rw [step, whole]
    cases counted : countDown notification with
    | none => rfl
    | some lower =>
      have same : (⟨sender, lower.id⟩ : PendingNotification) = first := by
        rw [countDown_id counted, here]
      simp [settle, same, fresh]
  · simp [settle, here]

/-- One user's queue without its first entry, the entry's notification counted
down. -/
def taken (manager : NotificationManager) (username : Text) (pending : PendingNotification)
    (rest : List PendingNotification) : NotificationManager :=
  (manager.setQueue username
    { manager.queueOf username with pendingQueue := rest }).changeStored pending.sender
      (countFirstDown pending.notificationId)

section Taken

variable {manager : NotificationManager} {username : Text} {pending : PendingNotification}
  {rest : List PendingNotification}

private theorem first_mem {user : Text}
    (waiting : (manager.queueOf user).pendingQueue = pending :: rest) :
    pending ∈ (manager.queueOf user).pendingQueue := by
  rw [waiting]
  exact List.mem_cons_self

theorem Ledger.resolve_eq (ledger : Ledger manager) {user : Text}
    (member : pending ∈ (manager.queueOf user).pendingQueue) :
    ∃ notification ∈ manager.stored pending.sender,
      notification.id = pending.notificationId ∧
      manager.resolve pending = some notification := by
  obtain ⟨witness, stored, same⟩ := ledger.resolved user pending member
  have some : (manager.resolve pending).isSome = true := by
    simp only [resolve, List.find?_isSome, decide_eq_true_eq]
    exact ⟨witness, stored, same⟩
  obtain ⟨notification, found⟩ := Option.isSome_iff_exists.mp some
  have matching := List.find?_some found
  exact ⟨notification, List.mem_of_find?_eq_some found, by simpa using matching, found⟩

theorem mem_of_pending (waiting : (manager.queueOf username).pendingQueue = pending :: rest) :
    username ∈ manager.pendingQueues := by
  by_cases present : username ∈ manager.pendingQueues
  · exact present
  · simp [queueOf_of_notMem manager present] at waiting

/-- A turn of the drain loop whose entry leads to a stored notification. -/
theorem drainOne_found (waiting : (manager.queueOf username).pendingQueue = pending :: rest)
    {notification : Notification} (found : manager.resolve pending = some notification) :
    manager.drainOne username =
      (manager.taken username pending rest,
        (manager.queueOf username).insertToSubscribers notification) := by
  have known := mem_of_pending waiting
  have sender := mem_of_mem_stored manager (List.mem_of_find?_eq_some found)
  have search : (manager.stored pending.sender).find?
      (·.id = pending.notificationId) = some notification := found
  have removed : (manager.queueOf username).removePending =
      (pending, { manager.queueOf username with pendingQueue := rest }) := by
    simp [NotificationQueue.removePending, waiting]
  simp only [drainOne, removed, findNotification, mem_notifications_setQueue, sender, ↓reduceIte,
    stored_setQueue, search, queueOf_changeStored, queueOf_setQueue manager known]
  rfl

/-- A turn of the drain loop, on a manager that keeps the ledger. -/
theorem drainOne_spec (ledger : Ledger manager)
    (waiting : (manager.queueOf username).pendingQueue = pending :: rest) :
    manager.drainOne username =
      (manager.taken username pending rest,
        (manager.resolve pending).toList.flatMap
          (manager.queueOf username).insertToSubscribers) := by
  obtain ⟨notification, -, -, found⟩ := ledger.resolve_eq (first_mem waiting)
  rw [drainOne_found waiting found, found]
  simp

theorem stored_taken (ledger : Ledger manager)
    (waiting : (manager.queueOf username).pendingQueue = pending :: rest) (sender : Text) :
    (manager.taken username pending rest).stored sender =
      (manager.stored sender).filterMap (settle [pending] sender) := by
  obtain ⟨notification, stored, -, -⟩ :=
    ledger.resolve_eq (first_mem waiting)
  have present := mem_of_mem_stored manager stored
  have changed := stored_changeStored
    (manager.setQueue username { manager.queueOf username with pendingQueue := rest })
    present (countFirstDown pending.notificationId) sender
  rw [taken, changed, stored_setQueue]
  by_cases here : sender = pending.sender
  · subst here
    rw [if_pos rfl]
    exact countFirstDown_eq_filterMap pending.sender _ _ (ledger.distinctIds pending.sender)
  · rw [if_neg here, List.filterMap_congr (g := some), List.filterMap_some]
    intro other _
    have different : (⟨sender, other.id⟩ : PendingNotification) ≠ pending :=
      fun same => here (congrArg PendingNotification.sender same)
    simp [settle, different]

theorem queueOf_taken (waiting : (manager.queueOf username).pendingQueue = pending :: rest)
    (user : Text) :
    (manager.taken username pending rest).queueOf user =
      if user = username then { manager.queueOf username with pendingQueue := rest }
      else manager.queueOf user := by
  rw [taken, queueOf_changeStored, queueOf_setQueue manager (mem_of_pending waiting)]

theorem count_taken (waiting : (manager.queueOf username).pendingQueue = pending :: rest)
    (other : PendingNotification) :
    (manager.taken username pending rest).pendingEntries.count other +
        (if other = pending then 1 else 0) =
      manager.pendingEntries.count other := by
  have traded := count_setQueue manager (mem_of_pending waiting)
    { manager.queueOf username with pendingQueue := rest } other
  rw [waiting, List.count_cons] at traded
  rw [taken, pendingEntries_changeStored]
  by_cases same : other = pending
  · subst same
    simp only [beq_self_eq_true, ↓reduceIte] at traded ⊢
    omega
  · have different : (pending == other) = false := beq_eq_false_iff_ne.mpr (Ne.symm same)
    simp only [different, same, ↓reduceIte, Bool.false_eq_true] at traded ⊢
    omega

theorem resolve_taken_ne (other : PendingNotification) (different : other ≠ pending)
    (sender : pending.sender ∈ manager.notifications) :
    (manager.taken username pending rest).resolve other = manager.resolve other := by
  have changed := stored_changeStored
    (manager.setQueue username { manager.queueOf username with pendingQueue := rest })
    sender (countFirstDown pending.notificationId) other.sender
  rw [resolve, resolve, taken, changed, stored_setQueue]
  by_cases here : other.sender = pending.sender
  · rw [if_pos here]
    apply find_countFirstDown_ne
    intro same
    exact different (by cases other; cases pending; simp_all)
  · rw [if_neg here]

theorem mem_pendingQueue_taken
    (waiting : (manager.queueOf username).pendingQueue = pending :: rest) {user : Text}
    {other : PendingNotification}
    (member : other ∈ ((manager.taken username pending rest).queueOf user).pendingQueue) :
    other ∈ (manager.queueOf user).pendingQueue := by
  rw [queueOf_taken waiting] at member
  by_cases here : user = username
  · subst here
    rw [if_pos rfl] at member
    rw [waiting]
    exact List.mem_cons_of_mem pending member
  · simpa [here] using member

theorem Ledger.taken (ledger : Ledger manager)
    (waiting : (manager.queueOf username).pendingQueue = pending :: rest) :
    Ledger (manager.taken username pending rest) := by
  constructor
  · intro user
    simpa [NotificationManager.taken] using ledger.sameKeys user
  · intro sender lower member
    rw [stored_taken ledger waiting] at member
    obtain ⟨notification, stored, settled⟩ := List.mem_filterMap.mp member
    rw [(settle_some settled).1]
    exact ledger.owned sender notification stored
  · intro sender
    rw [stored_taken ledger waiting]
    exact (ledger.distinctIds sender).sublist (ids_filterMap_settle ..)
  · intro sender lower member
    rw [stored_taken ledger waiting] at member
    obtain ⟨notification, stored, settled⟩ := List.mem_filterMap.mp member
    obtain ⟨shape, positive⟩ := settle_some settled
    by_cases drained : (⟨sender, notification.id⟩ : PendingNotification) ∈ [pending]
    · exact positive drained
    · rw [shape]
      simpa [drained] using ledger.positive sender notification stored
  · intro sender lower member
    rw [stored_taken ledger waiting] at member
    obtain ⟨notification, stored, settled⟩ := List.mem_filterMap.mp member
    obtain ⟨shape, -⟩ := settle_some settled
    have before := ledger.counted sender notification stored
    have fewer := count_taken waiting ⟨sender, notification.id⟩
    simp only [List.mem_singleton] at shape
    rw [settle_id settled, shape]
    simp only
    split_ifs at fewer ⊢ <;> omega
  · intro user other member
    obtain ⟨notification, stored, same⟩ :=
      ledger.resolved user other (mem_pendingQueue_taken waiting member)
    have entry : (⟨other.sender, notification.id⟩ : PendingNotification) = other := by
      rw [same]
    have still : 0 < (manager.taken username pending rest).pendingEntries.count other :=
      List.count_pos_iff.mpr ((mem_pendingEntries _ other).mpr ⟨user, member⟩)
    have before := ledger.counted other.sender notification stored
    have fewer := count_taken waiting other
    rw [entry] at before
    have survives : ∃ lower, settle [pending] other.sender notification = some lower := by
      by_cases drained : other = pending
      · have enough : ¬ notification.pendingCount - 1 ≤ 0 := by
          simp only [drained, ↓reduceIte] at fewer before still
          omega
        rw [settle, if_pos (List.mem_singleton.mpr (entry.trans drained)), countDown,
          if_neg enough]
        exact ⟨_, rfl⟩
      · simp [settle, entry, drained]
    obtain ⟨lower, settled⟩ := survives
    refine ⟨lower, ?_, (settle_id settled).trans same⟩
    rw [stored_taken ledger waiting]
    exact List.mem_filterMap.mpr ⟨notification, stored, settled⟩
  · intro user
    rw [queueOf_taken waiting]
    by_cases here : user = username
    · have once := ledger.once username
      rw [waiting] at once
      simpa [here] using (List.nodup_cons.mp once).2
    · simpa [here] using ledger.once user

theorem filterMap_settle_nil (sender : Text) (notifications : List Notification) :
    notifications.filterMap (settle [] sender) = notifications := by
  rw [List.filterMap_congr (g := some), List.filterMap_some]
  intro notification _
  simp [settle]

/-- What draining a whole queue leaves behind. -/
structure Drained (manager : NotificationManager) (username : Text)
    (drained : List PendingNotification) (result : NotificationManager × List Insertion) :
    Prop where
  ledger : Ledger result.1
  stored : ∀ sender, result.1.stored sender =
    (manager.stored sender).filterMap (settle drained sender)
  queues : ∀ user, result.1.queueOf user =
    if user = username then { manager.queueOf username with pendingQueue := [] }
    else manager.queueOf user
  senders : ∀ sender, sender ∈ result.1.notifications ↔ sender ∈ manager.notifications
  users : ∀ user, user ∈ result.1.pendingQueues ↔ user ∈ manager.pendingQueues
  nextId : result.1.nextId = manager.nextId
  inserted : result.2 = drained.flatMap fun pending =>
    (manager.resolve pending).toList.flatMap (manager.queueOf username).insertToSubscribers

/-- The drain loop, run as many turns as there are entries, empties the queue. -/
theorem drain_settles (drained : List PendingNotification) (ledger : Ledger manager)
    (waiting : (manager.queueOf username).pendingQueue = drained) :
    Drained manager username drained (manager.drain username drained.length) := by
  induction drained generalizing manager with
  | nil =>
    have same : { manager.queueOf username with pendingQueue := [] } =
        manager.queueOf username := by
      rw [← waiting]
    refine ⟨ledger, ?_, ?_, fun _ => Iff.rfl, fun _ => Iff.rfl, rfl, rfl⟩
    · intro sender
      rw [filterMap_settle_nil]
      rfl
    · intro user
      by_cases here : user = username
      · simp [here, same, drain]
      · simp [here, drain]
  | cons pending rest ih =>
    have fresh : pending ∉ rest := by
      have once := ledger.once username
      rw [waiting] at once
      exact (List.nodup_cons.mp once).1
    obtain ⟨notification, stored, -, -⟩ :=
      ledger.resolve_eq (first_mem waiting)
    have sender := mem_of_mem_stored manager stored
    have left : ((manager.taken username pending rest).queueOf username).pendingQueue = rest := by
      rw [queueOf_taken waiting, if_pos rfl]
    have later := ih (ledger.taken waiting) left
    have nonempty : (manager.queueOf username).hasPending = true := by
      simp [NotificationQueue.hasPending, waiting]
    have turn : manager.drain username (pending :: rest).length =
        (((manager.taken username pending rest).drain username rest.length).1,
          (manager.resolve pending).toList.flatMap
            (manager.queueOf username).insertToSubscribers ++
          ((manager.taken username pending rest).drain username rest.length).2) := by
      simp only [List.length_cons, drain, nonempty, ↓reduceIte, drainOne_spec ledger waiting]
    rw [turn]
    refine ⟨later.ledger, ?_, ?_, ?_, ?_, later.nextId, ?_⟩
    · intro name
      rw [later.stored, stored_taken ledger waiting, List.filterMap_filterMap]
      apply List.filterMap_congr
      intro other _
      exact settle_cons pending rest fresh name other
    · intro user
      rw [later.queues, queueOf_taken waiting, queueOf_taken waiting]
      by_cases here : user = username
      · simp [here]
      · simp [here]
    · intro name
      rw [later.senders]
      simp [NotificationManager.taken]
    · intro user
      rw [later.users]
      simp [NotificationManager.taken]
    · simp only [later.inserted, List.flatMap_cons]
      congr 1
      apply List.flatMap_congr
      intro other member
      have different : other ≠ pending := fun same => fresh (same ▸ member)
      rw [resolve_taken_ne other different sender, queueOf_taken waiting, if_pos rfl]
      rfl

end Taken

section Registration

variable (manager : NotificationManager) (username : Text)

@[simp] theorem stored_register (sender : Text) :
    (manager.register username).stored sender = manager.stored sender := by
  simp only [stored, register, UnorderedMap.lookup_emplace]
  split
  next fresh => simp [fresh.1, UnorderedMap.lookup_eq_none.mpr fresh.2]
  next => rfl

@[simp] theorem queueOf_register (user : Text) :
    (manager.register username).queueOf user = manager.queueOf user := by
  simp only [queueOf, register, UnorderedMap.lookup_emplace]
  split
  next fresh => simp [fresh.1, UnorderedMap.lookup_eq_none.mpr fresh.2]
  next => rfl

@[simp] theorem pendingEntries_register :
    (manager.register username).pendingEntries = manager.pendingEntries :=
  UnorderedMap.gather_emplace_nil _ _ _ _ rfl

theorem mem_register_self : username ∈ (manager.register username).pendingQueues := by
  simp [register]

end Registration

variable {manager : NotificationManager}

theorem Ledger.register (ledger : Ledger manager) (username : Text) :
    Ledger (manager.register username) := by
  constructor
  · intro user
    simp [NotificationManager.register, ledger.sameKeys user]
  · simpa using ledger.owned
  · simpa using ledger.distinctIds
  · simpa using ledger.positive
  · simpa using ledger.counted
  · simpa using ledger.resolved
  · simpa using ledger.once

/-- Only the backlog of a queue matters to the ledger, not its subscribers. -/
theorem Ledger.setQueue (ledger : Ledger manager) {username : Text}
    (present : username ∈ manager.pendingQueues) (queue : NotificationQueue)
    (same : queue.pendingQueue = (manager.queueOf username).pendingQueue) :
    Ledger (manager.setQueue username queue) := by
  have backlog : ∀ user, ((manager.setQueue username queue).queueOf user).pendingQueue =
      (manager.queueOf user).pendingQueue := by
    intro user
    rw [queueOf_setQueue manager present]
    split
    next here => rw [here, same]
    next => rfl
  have count : ∀ pending, (manager.setQueue username queue).pendingEntries.count pending =
      manager.pendingEntries.count pending := by
    intro pending
    have traded := count_setQueue manager present queue pending
    rw [same] at traded
    omega
  constructor
  · intro user
    simpa using ledger.sameKeys user
  · exact ledger.owned
  · exact ledger.distinctIds
  · exact ledger.positive
  · intro sender notification member
    rw [count]
    exact ledger.counted sender notification member
  · intro user pending member
    rw [backlog] at member
    exact ledger.resolved user pending member
  · intro user
    rw [backlog]
    exact ledger.once user

/-- No stored notification of the sender carries the id that comes next. -/
def FreshId (manager : NotificationManager) (sender : Text) : Prop :=
  ∀ notification ∈ manager.stored sender, notification.id ≠ int32 manager.nextId

instance (manager : NotificationManager) (sender : Text) : Decidable (FreshId manager sender) :=
  inferInstanceAs (Decidable (∀ notification ∈ manager.stored sender, _))

theorem Ledger.entry_fresh (ledger : Ledger manager) {sender : Text}
    (fresh : FreshId manager sender) (user : Text) :
    ⟨sender, int32 manager.nextId⟩ ∉ (manager.queueOf user).pendingQueue := by
  intro member
  obtain ⟨notification, stored, same⟩ := ledger.resolved user _ member
  exact fresh notification stored same

section Sent

variable {notification : Notification} {followers : List Text} {call : Call}

theorem Sent.mem_stored (sent : Sent manager notification followers call) {sender : Text}
    {item : Notification} :
    item ∈ call.manager.stored sender ↔ item ∈ manager.stored sender ∨
      sender = notification.username ∧ manager.offlineAmong followers ≠ [] ∧
        item = { manager.issue notification with
          pendingCount := (manager.offlineAmong followers).length } := by
  rw [sent.stored sender]
  split
  next stored => simp [stored]
  next skipped =>
    constructor
    · exact Or.inl
    · intro either
      rcases either with old | ⟨here, some, -⟩
      · exact old
      · exact absurd ⟨here, some⟩ skipped

theorem Sent.mem_pendingQueue (sent : Sent manager notification followers call) {user : Text}
    {pending : PendingNotification} :
    pending ∈ (call.manager.queueOf user).pendingQueue ↔
      pending ∈ (manager.queueOf user).pendingQueue ∨
        user ∈ manager.offlineAmong followers ∧ pending = manager.issuedEntry notification := by
  rw [sent.queues user]
  split
  next offline => simp [enqueue, offline]
  next online => simp [online]

theorem Ledger.sent (ledger : Ledger manager) (fresh : FreshId manager notification.username)
    (sent : Sent manager notification followers call) : Ledger call.manager := by
  have unused : manager.pendingEntries.count (manager.issuedEntry notification) = 0 := by
    rw [List.count_eq_zero]
    intro member
    obtain ⟨user, inside⟩ := (mem_pendingEntries manager _).mp member
    exact ledger.entry_fresh fresh user inside
  constructor
  · intro user
    rw [sent.senders, sent.users]
    exact ledger.sameKeys user
  · intro sender item member
    rcases sent.mem_stored.mp member with old | ⟨here, -, new⟩
    · exact ledger.owned sender item old
    · rw [new, here]
      rfl
  · intro sender
    rw [sent.stored sender]
    split
    next stored =>
      rw [List.map_append]
      apply (ledger.distinctIds sender).append (List.nodup_singleton _)
      rw [List.disjoint_singleton]
      intro member
      obtain ⟨item, old, same⟩ := List.mem_map.mp member
      exact fresh item (stored.1 ▸ old) same
    next => exact ledger.distinctIds sender
  · intro sender item member
    rcases sent.mem_stored.mp member with old | ⟨-, some, new⟩
    · exact ledger.positive sender item old
    · rw [new]
      have := List.length_pos_iff.mpr some
      show (0 : Int) < (manager.offlineAmong followers).length
      omega
  · intro sender item member
    rw [sent.count]
    rcases sent.mem_stored.mp member with old | ⟨here, -, new⟩
    · have different : (⟨sender, item.id⟩ : PendingNotification) ≠
          manager.issuedEntry notification := by
        intro same
        obtain ⟨rfl, clash⟩ := PendingNotification.mk.inj same
        exact fresh item old clash
      rw [if_neg different]
      exact ledger.counted sender item old
    · have entry : (⟨sender, item.id⟩ : PendingNotification) =
          manager.issuedEntry notification := by
        rw [new, here]
        rfl
      rw [entry, if_pos rfl, unused, new]
      simp
  · intro user pending member
    rcases sent.mem_pendingQueue.mp member with old | ⟨offline, new⟩
    · obtain ⟨item, stored, same⟩ := ledger.resolved user pending old
      exact ⟨item, sent.mem_stored.mpr (Or.inl stored), same⟩
    · subst new
      exact ⟨_, sent.mem_stored.mpr (Or.inr ⟨rfl, List.ne_nil_of_mem offline, rfl⟩), rfl⟩
  · intro user
    rw [sent.queues user]
    split
    next =>
      apply (ledger.once user).append (List.nodup_singleton _)
      rw [List.disjoint_singleton]
      exact ledger.entry_fresh fresh user
    next => exact ledger.once user

/-- Nobody was offline: nothing is stored and nothing pends on it, under any id. -/
theorem Ledger.sent_online (ledger : Ledger manager)
    (sent : Sent manager notification followers call) (none : manager.offlineAmong followers = []) :
    Ledger call.manager := by
  have stored : ∀ sender, call.manager.stored sender = manager.stored sender := by
    intro sender
    rw [sent.stored, if_neg (by simp [none])]
  have queues : ∀ user, call.manager.queueOf user = manager.queueOf user := by
    intro user
    rw [sent.queues, if_neg (by simp [none])]
  have count : ∀ pending,
      call.manager.pendingEntries.count pending = manager.pendingEntries.count pending := by
    intro pending
    simp [sent.count, none]
  constructor
  · intro user
    rw [sent.senders, sent.users]
    exact ledger.sameKeys user
  · simpa only [stored] using ledger.owned
  · simpa only [stored] using ledger.distinctIds
  · simpa only [stored] using ledger.positive
  · simpa only [stored, count] using ledger.counted
  · simpa only [stored, queues] using ledger.resolved
  · simpa only [queues] using ledger.once

theorem OnlineDrained.sent (online : OnlineDrained manager)
    (sent : Sent manager notification followers call) : OnlineDrained call.manager := by
  intro user subscribed
  rw [sent.queues user] at subscribed ⊢
  split at subscribed
  next offline =>
    have silent := (mem_offlineAmong.mp offline).2
    exact absurd subscribed
      (by simpa [enqueue, NotificationQueue.hasSubscribers, Offline] using silent)
  next reached => simpa [reached] using online user subscribed

end Sent

/-- What `subscribe` leaves behind, for a known and for a new user. -/
structure Subscribed (manager : NotificationManager) (username : Text) (id : Nat)
    (session : QueueRef) (call : Call) : Prop where
  ledger : Ledger call.manager
  stored : ∀ sender, call.manager.stored sender =
    (manager.stored sender).filterMap (settle (manager.queueOf username).pendingQueue sender)
  queues : ∀ user, call.manager.queueOf user =
    if user = username then
      { (manager.queueOf username).subscribe id session with pendingQueue := [] }
    else manager.queueOf user
  senders : ∀ sender, sender ∈ call.manager.notifications ↔
    sender = username ∨ sender ∈ manager.notifications
  users : ∀ user, user ∈ call.manager.pendingQueues ↔
    user = username ∨ user ∈ manager.pendingQueues
  nextId : call.manager.nextId = manager.nextId
  inserted : call.inserted = (manager.queueOf username).pendingQueue.flatMap fun pending =>
    (manager.resolve pending).toList.flatMap
      ((manager.queueOf username).subscribe id session).insertToSubscribers
  updates : call.updates = [call.manager]

theorem queueOf_addSubscriber {username : Text} (present : username ∈ manager.pendingQueues)
    (id : Nat) (session : QueueRef) (user : Text) :
    (manager.addSubscriber username id session).queueOf user =
      if user = username then (manager.queueOf username).subscribe id session
      else manager.queueOf user :=
  queueOf_setQueue manager present _ user

theorem pendingQueue_addSubscriber {username : Text} (present : username ∈ manager.pendingQueues)
    (id : Nat) (session : QueueRef) :
    ((manager.addSubscriber username id session).queueOf username).pendingQueue =
      (manager.queueOf username).pendingQueue := by
  rw [queueOf_addSubscriber present, if_pos rfl]
  rfl

/-- A known user's backlog is handed to the new session. -/
theorem subscribe_of_mem {username : Text} (present : username ∈ manager.pendingQueues)
    (id : Nat) (session : QueueRef) :
    manager.subscribe username id session =
      let result := (manager.addSubscriber username id session).drain username
        (manager.queueOf username).pendingQueue.length
      { manager := result.1, inserted := result.2, updates := [result.1] } := by
  simp [subscribe, present, pendingQueue_addSubscriber present]

/-- A new user is entered. -/
theorem subscribe_of_notMem {username : Text} (absent : username ∉ manager.pendingQueues)
    (id : Nat) (session : QueueRef) :
    manager.subscribe username id session =
      { manager := (manager.register username).addSubscriber username id session
        updates := [(manager.register username).addSubscriber username id session] } := by
  simp [subscribe, absent]

private theorem subscribe_known (ledger : Ledger manager) {username : Text}
    (present : username ∈ manager.pendingQueues) (id : Nat) (session : QueueRef) :
    Subscribed manager username id session (manager.subscribe username id session) := by
  have queue := queueOf_addSubscriber present id session
  have waiting := pendingQueue_addSubscriber present id session
  have kept : Ledger (manager.addSubscriber username id session) :=
    ledger.setQueue present _ rfl
  have drained := drain_settles (manager.queueOf username).pendingQueue kept waiting
  rw [subscribe_of_mem present]
  refine ⟨drained.ledger, drained.stored, ?_, ?_, ?_, drained.nextId, ?_, rfl⟩
  · intro user
    rw [drained.queues, queue, queue, if_pos rfl]
    split <;> rfl
  · intro sender
    rw [drained.senders]
    exact ⟨Or.inr, fun either => either.elim
      (fun same => same ▸ (ledger.sameKeys username).mpr present) fun member => member⟩
  · intro user
    rw [drained.users]
    simp only [addSubscriber, mem_pendingQueues_setQueue]
    exact ⟨Or.inr, fun either => either.elim (fun same => same ▸ present) fun member => member⟩
  · simp only [drained.inserted, queue, ↓reduceIte]
    rfl

private theorem subscribe_new (ledger : Ledger manager) {username : Text}
    (absent : username ∉ manager.pendingQueues) (id : Nat) (session : QueueRef) :
    Subscribed manager username id session (manager.subscribe username id session) := by
  have present := mem_register_self manager username
  have queue := queueOf_addSubscriber present id session
  have empty := queueOf_of_notMem manager absent
  rw [subscribe_of_notMem absent]
  refine ⟨(ledger.register username).setQueue present _ rfl, ?_, ?_, ?_, ?_, rfl, ?_, rfl⟩
  · intro sender
    rw [empty, filterMap_settle_nil]
    exact stored_register manager username sender
  · intro user
    rw [queue, queueOf_register, queueOf_register]
    split
    next here =>
      rw [empty]
      rfl
    next => rfl
  · intro sender
    simp [addSubscriber, NotificationManager.register]
  · intro user
    simp [addSubscriber, NotificationManager.register]
  · rw [empty]
    rfl

theorem subscribe_spec (ledger : Ledger manager) (username : Text) (id : Nat)
    (session : QueueRef) :
    Subscribed manager username id session (manager.subscribe username id session) := by
  by_cases present : username ∈ manager.pendingQueues
  · exact subscribe_known ledger present id session
  · exact subscribe_new ledger present id session

theorem OnlineDrained.subscribed {username : Text} {id : Nat} {session : QueueRef} {call : Call}
    (online : OnlineDrained manager)
    (subscribed : Subscribed manager username id session call) : OnlineDrained call.manager := by
  intro user reached
  rw [subscribed.queues] at reached ⊢
  by_cases here : user = username
  · simp [here]
  · simp only [here, ↓reduceIte] at reached ⊢
    exact online user reached

theorem queueOf_unsubscribe (username : Text) (id : Nat) (user : Text) :
    (manager.unsubscribe username id).manager.queueOf user =
      if user = username then (manager.queueOf username).unsubscribe id
      else manager.queueOf user := by
  by_cases present : username ∈ manager.pendingQueues
  · simp only [unsubscribe, present, ↓reduceIte, queueOf_setQueue manager present]
  · simp only [unsubscribe, present, ↓reduceIte]
    split
    next here =>
      subst here
      rw [queueOf_of_notMem manager present]
      rfl
    next => rfl

theorem stored_unsubscribe (username : Text) (id : Nat) (sender : Text) :
    (manager.unsubscribe username id).manager.stored sender = manager.stored sender := by
  unfold unsubscribe
  split <;> rfl

theorem Ledger.unsubscribe (ledger : Ledger manager) (username : Text) (id : Nat) :
    Ledger (manager.unsubscribe username id).manager := by
  by_cases present : username ∈ manager.pendingQueues
  · simpa [NotificationManager.unsubscribe, present] using
      ledger.setQueue present ((manager.queueOf username).unsubscribe id) rfl
  · simpa [NotificationManager.unsubscribe, present] using ledger

theorem OnlineDrained.unsubscribe (online : OnlineDrained manager) (username : Text) (id : Nat) :
    OnlineDrained (manager.unsubscribe username id).manager := by
  intro user reached
  rw [queueOf_unsubscribe] at reached ⊢
  by_cases here : user = username
  · simp only [here, ↓reduceIte] at reached ⊢
    apply online username
    by_contra silent
    have none : (manager.queueOf username).subscribersQueue.entries = [] := by
      simpa [NotificationQueue.hasSubscribers] using silent
    simp [NotificationQueue.hasSubscribers, NotificationQueue.unsubscribe, UnorderedMap.erase,
      none] at reached
  · simp only [here, ↓reduceIte] at reached ⊢
    exact online user reached

end NotificationManager

end TwitterClone
