import TwitterClone.Notification.ExactlyOnce
import TwitterClone.Notification.Insertions

/-! What a manager keeps of one notification that somebody waits for, whatever else its
clients do: the text stays stored as long as an entry leads to it. Nothing is assumed
about the other notifications, their counts and their followers. -/
namespace TwitterClone.NotificationManager

open Foundation

/-- The notification waits for the user: it has an entry, and its text is stored. -/
def Awaits (manager : NotificationManager) (user : Text) (sent : Notification) : Prop :=
  sent.entry ∈ (manager.queueOf user).pendingQueue ∧
    ∃ item ∈ manager.stored sent.username, SameText item sent

/-- An entry leads to the notification, which is counted for all the entries there are. -/
def Backs (manager : NotificationManager) (sent : Notification) : Prop :=
  ∃ item, manager.resolve sent.entry = some item ∧ SameText item sent ∧
    (manager.pendingEntries.count sent.entry : Int) ≤ item.pendingCount

/-- The id that comes next is carried by nothing of the sender. -/
def UnusedId (manager : NotificationManager) (sender : Text) : Prop :=
  FreshId manager sender ∧ ⟨sender, int32 manager.nextId⟩ ∉ manager.pendingEntries

instance decidableUnusedId (manager : NotificationManager) (sender : Text) :
    Decidable (UnusedId manager sender) :=
  inferInstanceAs (Decidable (_ ∧ _))

variable {manager next : NotificationManager} {sent : Notification}

theorem Backs.awaits (backs : manager.Backs sent) {user : Text}
    (entry : sent.entry ∈ (manager.queueOf user).pendingQueue) : manager.Awaits user sent := by
  obtain ⟨item, found, same, -⟩ := backs
  exact ⟨entry, item, List.mem_of_find?_eq_some found, same⟩

theorem Backs.of_same (backs : manager.Backs sent)
    (stored : next.stored sent.username = manager.stored sent.username)
    (count : next.pendingEntries.count sent.entry ≤ manager.pendingEntries.count sent.entry) :
    next.Backs sent := by
  obtain ⟨item, found, same, enough⟩ := backs
  refine ⟨item, ?_, same, by omega⟩
  rw [resolve] at found ⊢
  exact stored ▸ found

section Drain

variable {username : Text} {pending : PendingNotification} {rest : List PendingNotification}

theorem find_countFirstDown_eq {id : Int} {notifications : List Notification}
    {item lower : Notification} (found : notifications.find? (·.id = id) = some item)
    (counted : countDown item = some lower) :
    (countFirstDown id notifications).find? (·.id = id) = some lower := by
  induction notifications with
  | nil => cases found
  | cons first rest ih =>
    by_cases here : first.id = id
    · rw [List.find?_cons_of_pos (by simpa using here)] at found
      obtain rfl := Option.some.inj found
      have kept : lower.id = id := (countDown_id counted).trans here
      simp [countFirstDown, here, counted, kept]
    · rw [List.find?_cons_of_neg (by simpa using here)] at found
      rw [countFirstDown, if_neg here, List.find?_cons_of_neg (by simpa using here)]
      exact ih found

/-- A turn of the drain loop whose entry leads nowhere. -/
theorem drainOne_lost (waiting : (manager.queueOf username).pendingQueue = pending :: rest)
    (lost : manager.resolve pending = none) :
    manager.drainOne username =
      (manager.setQueue username { manager.queueOf username with pendingQueue := rest }, []) := by
  have removed : (manager.queueOf username).removePending =
      (pending, { manager.queueOf username with pendingQueue := rest }) := by
    simp [NotificationQueue.removePending, waiting]
  have search : (manager.stored pending.sender).find?
      (·.id = pending.notificationId) = none := lost
  simp only [drainOne, removed, findNotification, mem_notifications_setQueue, stored_setQueue,
    search]
  split <;> rfl

/-- A notification outlives every turn of the drain loop that leaves somebody waiting for it. -/
theorem Backs.drainOne (backs : manager.Backs sent)
    (waiting : (manager.queueOf username).pendingQueue = pending :: rest)
    (awaited : sent.entry ∈ (manager.drainOne username).1.pendingEntries) :
    (manager.drainOne username).1.Backs sent := by
  have known := mem_of_pending waiting
  cases found : manager.resolve pending with
  | none =>
    have traded := count_setQueue manager known
      { manager.queueOf username with pendingQueue := rest } sent.entry
    rw [waiting, List.count_cons] at traded
    rw [drainOne_lost waiting found]
    exact backs.of_same rfl (by dsimp only at traded ⊢; omega)
  | some notification =>
    rw [drainOne_found waiting found] at awaited ⊢
    have fewer := count_taken waiting sent.entry
    obtain ⟨item, resolved, same, enough⟩ := backs
    by_cases here : sent.entry = pending
    · subst here
      obtain rfl := Option.some.inj (resolved.symm.trans found)
      have left : 0 < (manager.taken username sent.entry rest).pendingEntries.count sent.entry :=
        List.count_pos_iff.mpr awaited
      rw [if_pos rfl] at fewer
      have used : ¬ item.pendingCount - 1 ≤ 0 := by omega
      have counted : countDown item = some { item with pendingCount := item.pendingCount - 1 } := by
        rw [countDown, if_neg used]
      have present := mem_of_mem_stored manager (List.mem_of_find?_eq_some found)
      refine ⟨{ item with pendingCount := item.pendingCount - 1 }, ?_, same, ?_⟩
      · have changed := stored_changeStored
          (manager.setQueue username { manager.queueOf username with pendingQueue := rest })
          present (countFirstDown sent.entry.notificationId) sent.entry.sender
        rw [if_pos rfl, stored_setQueue] at changed
        rw [resolve, taken, changed]
        exact find_countFirstDown_eq resolved counted
      · show ((manager.taken username sent.entry rest).pendingEntries.count sent.entry : Int) ≤
          item.pendingCount - 1
        omega
    · have present := mem_of_mem_stored manager (List.mem_of_find?_eq_some found)
      rw [if_neg here, Nat.add_zero] at fewer
      exact ⟨item, (resolve_taken_ne sent.entry here present).trans resolved, same, fewer ▸ enough⟩

/-- What is handed out when a backlog is drained, and what stays for the others. -/
theorem Backs.drain (backlog : List PendingNotification) (backs : manager.Backs sent)
    (waiting : (manager.queueOf username).pendingQueue = backlog) :
    (∀ user, user ≠ username → sent.entry ∈ (manager.queueOf user).pendingQueue →
      (manager.drain username backlog.length).1.Backs sent) ∧
    (sent.entry ∈ backlog → (manager.queueOf username).hasSubscribers = true →
      ∃ insertion ∈ (manager.drain username backlog.length).2,
        SameText insertion.notification sent) := by
  induction backlog generalizing manager with
  | nil => exact ⟨fun _ _ _ => backs, fun member => absurd member List.not_mem_nil⟩
  | cons pending rest ih =>
    obtain ⟨queues, -⟩ := drainOne_frame waiting
    have still : ((manager.drainOne username).1.queueOf username).pendingQueue = rest := by
      rw [queues, if_pos rfl]
    have some : (manager.queueOf username).hasPending = true := by
      simp [NotificationQueue.hasPending, waiting]
    rw [List.length_cons, NotificationManager.drain, if_pos some]
    constructor
    · intro user other entry
      have later : sent.entry ∈ ((manager.drainOne username).1.queueOf user).pendingQueue := by
        rw [queues, if_neg other]
        exact entry
      have kept := backs.drainOne waiting ((mem_pendingEntries ..).mpr ⟨user, later⟩)
      exact (ih kept still).1 user other later
    · intro member online
      by_cases here : sent.entry = pending
      · -- the entry's turn: the text is found and inserted for every session
        obtain ⟨item, found, same, -⟩ := backs
        rw [here] at found
        have entries : (manager.queueOf username).subscribersQueue.entries ≠ [] := by
          simpa [NotificationQueue.hasSubscribers] using online
        obtain ⟨entry, inside⟩ := List.exists_mem_of_ne_nil _ entries
        refine ⟨⟨entry.2, item⟩, List.mem_append_left _ ?_, same⟩
        rw [drainOne_found waiting found]
        exact List.mem_map_of_mem inside
      · have later : sent.entry ∈ rest := (List.mem_cons.mp member).resolve_left here
        have awaited : sent.entry ∈ (manager.drainOne username).1.pendingEntries := by
          rw [mem_pendingEntries]
          exact ⟨username, still ▸ later⟩
        have subscribed : ((manager.drainOne username).1.queueOf username).hasSubscribers =
            true := by
          rw [queues, if_pos rfl]
          exact online
        obtain ⟨insertion, inside, same⟩ :=
          (ih (backs.drainOne waiting awaited) still).2 later subscribed
        exact ⟨insertion, List.mem_append_right _ inside, same⟩

end Drain

section Calls

variable {username : Text} {id : Nat} {session : QueueRef}

theorem Backs.setQueue (backs : manager.Backs sent) {user : Text}
    (present : user ∈ manager.pendingQueues) (queue : NotificationQueue)
    (same : queue.pendingQueue = (manager.queueOf user).pendingQueue) :
    (manager.setQueue user queue).Backs sent := by
  have traded := count_setQueue manager present queue sent.entry
  rw [same] at traded
  exact backs.of_same rfl (by omega)

/-- Who subscribes is handed the notification, and for the others it goes on waiting. -/
theorem Backs.subscribe (backs : manager.Backs sent) (username : Text) (id : Nat)
    (session : QueueRef) :
    (∀ user, user ≠ username → sent.entry ∈ (manager.queueOf user).pendingQueue →
      (manager.subscribe username id session).manager.Backs sent) ∧
    (sent.entry ∈ (manager.queueOf username).pendingQueue →
      ∃ insertion ∈ (manager.subscribe username id session).inserted,
        SameText insertion.notification sent) := by
  by_cases present : username ∈ manager.pendingQueues
  · have queue := queueOf_addSubscriber present id session
    have added : (manager.addSubscriber username id session).Backs sent :=
      backs.setQueue present _ rfl
    have waiting := pendingQueue_addSubscriber present id session
    obtain ⟨others, mine⟩ := added.drain _ waiting
    rw [subscribe_of_mem present]
    constructor
    · intro user other entry
      refine others user other ?_
      rw [queue, if_neg other]
      exact entry
    · intro entry
      refine mine entry ?_
      rw [queue, if_pos rfl]
      exact NotificationQueue.hasSubscribers_subscribe ..
  · rw [subscribe_of_notMem present]
    constructor
    · intro user other entry
      have registered : (manager.register username).Backs sent :=
        backs.of_same (stored_register ..) (by rw [pendingEntries_register])
      exact registered.setQueue (mem_register_self ..) _ rfl
    · intro entry
      rw [queueOf_of_notMem manager present] at entry
      cases entry

theorem Backs.unsubscribe (backs : manager.Backs sent) (username : Text) (id : Nat) :
    (manager.unsubscribe username id).manager.Backs sent := by
  by_cases present : username ∈ manager.pendingQueues
  · simpa [NotificationManager.unsubscribe, present] using
      backs.setQueue present ((manager.queueOf username).unsubscribe id) rfl
  · simpa [NotificationManager.unsubscribe, present] using backs

/-- What `send` leaves behind, whoever the followers are. -/
structure SentOn (manager : NotificationManager) (notification : Notification)
    (followers : List Text) (call : Call) : Prop where
  stored : ∀ sender, ∃ new, call.manager.stored sender = manager.stored sender ++ new
  queues : ∀ user, (call.manager.queueOf user).pendingQueue =
      (manager.queueOf user).pendingQueue ∨
    user ∈ manager.offlineAmong followers ∧ (call.manager.queueOf user).pendingQueue =
      (manager.queueOf user).pendingQueue ++ [manager.issuedEntry notification]
  count : ∀ pending, pending ≠ manager.issuedEntry notification →
    call.manager.pendingEntries.count pending = manager.pendingEntries.count pending
  quiet : manager.offlineAmong followers = [] →
    call.manager.pendingEntries.count (manager.issuedEntry notification) =
      manager.pendingEntries.count (manager.issuedEntry notification)
  inserted : call.inserted = followers.flatMap fun user =>
    (manager.queueOf user).insertToSubscribers (manager.issue notification)

theorem flatMap_filter_of_nil {Item Result : Type} (items : List Item) {keeps : Item → Bool}
    {results : Item → List Result} (nothing : ∀ item, keeps item = false → results item = []) :
    (items.filter keeps).flatMap results = items.flatMap results := by
  induction items with
  | nil => rfl
  | cons item rest ih =>
    cases kept : keeps item with
    | true => rw [List.filter_cons_of_pos kept, List.flatMap_cons, List.flatMap_cons, ih]
    | false =>
      rw [List.filter_cons_of_neg (by simp [kept]), List.flatMap_cons, nothing item kept, ih,
        List.nil_append]

theorem sentOn_send (manager : NotificationManager) (notification : Notification)
    {followers : List Text} (sender : notification.username ∈ manager.notifications)
    (distinct : followers.Nodup) :
    SentOn manager notification followers (manager.send notification followers) := by
  obtain ⟨others, delivered⟩ := sendToEach_created manager notification
    (followers.filter (· ∈ manager.pendingQueues)) sender (by simp) (distinct.filter _)
  have known : (created manager notification).sendToEach (manager.issue notification) followers =
      (created manager notification).sendToEach (manager.issue notification)
        (followers.filter (· ∈ manager.pendingQueues)) :=
    sendToEach_known ..
  have within : ∀ user ∈ (created manager notification).offlineAmong
      (followers.filter (· ∈ manager.pendingQueues)), user ∈ manager.offlineAmong followers := by
    intro user member
    rw [offlineAmong_created] at member
    obtain ⟨inside, offline⟩ := mem_offlineAmong.mp member
    exact mem_offlineAmong.mpr ⟨List.mem_of_mem_filter inside, offline⟩
  rw [send_registered manager notification followers sender, known]
  dsimp only
  generalize (created manager notification).sendToEach (manager.issue notification)
    (followers.filter (· ∈ manager.pendingQueues)) = result at delivered ⊢
  obtain ⟨queues, -, -⟩ := popSettled_frame result.1 notification.username
  have last := delivered.stored notification.username
  rw [username_issue, if_pos rfl] at last
  constructor
  · intro name
    show ∃ new, (result.1.popSettled notification.username).stored name = _
    rw [popSettled_stored result.1 notification.username _ _ last]
    by_cases here : name = notification.username
    · subst here
      split
      next => exact ⟨[], (List.append_nil _).symm⟩
      next => exact ⟨_, last⟩
    · rw [if_neg (fun both => here both.1), delivered.stored name, username_issue,
        if_neg here, others name here]
      exact ⟨[], (List.append_nil _).symm⟩
  · intro user
    show ((result.1.popSettled notification.username).queueOf user).pendingQueue = _ ∨ _
    rw [queueOf, queues]
    have queue := delivered.queues user
    rw [queueOf] at queue
    rw [queue]
    split
    next offline => exact Or.inr ⟨within user offline, rfl⟩
    next => exact Or.inl rfl
  · intro pending different
    show (result.1.popSettled notification.username).pendingEntries.count pending = _
    rw [pendingEntries, queues]
    exact (delivered.count pending).trans (if_neg different ▸ rfl)
  · intro nobody
    show (result.1.popSettled notification.username).pendingEntries.count _ = _
    rw [pendingEntries, queues]
    refine (delivered.count _).trans ?_
    have none : (created manager notification).offlineAmong
        (followers.filter (· ∈ manager.pendingQueues)) = [] :=
      List.eq_nil_iff_forall_not_mem.mpr fun user member =>
        absurd (nobody ▸ within user member) List.not_mem_nil
    rw [none]
    split <;> rfl
  · show result.2 = _
    rw [delivered.inserted]
    refine flatMap_filter_of_nil _ fun user unknown => ?_
    have absent : user ∉ manager.pendingQueues := by
      simpa using unknown
    show (manager.queueOf user).insertToSubscribers _ = []
    rw [queueOf_of_notMem manager absent]
    rfl

/-- Sending something else, under another id or to nobody who has to wait. -/
theorem Backs.send (backs : manager.Backs sent) {notification : Notification}
    {followers : List Text} (distinct : followers.Nodup)
    (unused : notification.username ∈ manager.notifications →
      manager.offlineAmong followers ≠ [] → manager.UnusedId notification.username) :
    (manager.send notification followers).manager.Backs sent := by
  by_cases sender : notification.username ∈ manager.notifications
  · have on := sentOn_send manager notification sender distinct
    obtain ⟨item, found, same, enough⟩ := backs
    obtain ⟨new, stored⟩ := on.stored sent.username
    refine ⟨item, ?_, same, ?_⟩
    · rw [resolve] at found ⊢
      show List.find? _ ((manager.send notification followers).manager.stored sent.username) = _
      rw [stored, List.find?_append]
      exact (congrArg (Option.or · _) found).trans rfl
    · by_cases clash : sent.entry = manager.issuedEntry notification
      · have nobody : manager.offlineAmong followers = [] := by
          by_contra some
          obtain ⟨fresh, -⟩ := unused sender some
          obtain ⟨username, id⟩ := PendingNotification.mk.inj clash
          refine fresh item (username ▸ List.mem_of_find?_eq_some found) ?_
          exact same.1.trans id
        rw [clash, on.quiet nobody, ← clash]
        exact enough
      · rw [on.count _ clash]
        exact enough
  · rw [send_unregistered manager notification followers sender]
    exact backs

/-- A new notification for registered followers, some of whom have to wait. -/
theorem backs_send {notification : Notification} {followers : List Text}
    (unused : manager.UnusedId notification.username)
    (sentAll : Sent manager notification followers (manager.send notification followers))
    (some : manager.offlineAmong followers ≠ []) :
    (manager.send notification followers).manager.Backs (manager.issue notification) := by
  have entry : (manager.issue notification).entry = manager.issuedEntry notification := rfl
  have none : manager.pendingEntries.count (manager.issuedEntry notification) = 0 :=
    List.count_eq_zero.mpr unused.2
  refine ⟨{ manager.issue notification with
    pendingCount := (manager.offlineAmong followers).length }, ?_, ⟨rfl, rfl, rfl, rfl⟩, ?_⟩
  · rw [resolve]
    show List.find? _ ((manager.send notification followers).manager.stored
      notification.username) = _
    rw [sentAll.stored, if_pos ⟨rfl, some⟩, List.find?_append]
    have skipped : (manager.stored notification.username).find?
        (·.id = (manager.issue notification).entry.notificationId) = Option.none := by
      rw [List.find?_eq_none]
      intro other stored clash
      exact unused.1 other stored (of_decide_eq_true clash)
    rw [skipped]
    simp [Notification.entry, issue]
  · rw [entry, sentAll.count, if_pos rfl, none]
    simp

end Calls

end TwitterClone.NotificationManager
