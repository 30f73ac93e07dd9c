import TwitterClone.Notification.Delivery

/-! The order in which the queue of a session is filled. A subscription brings a queue
of its own, and nothing else is asked of it: two session ids may have one key. -/
namespace TwitterClone.World

open Foundation NotificationManager

/-- The call is admissible, and the queue of a subscription was not used before. -/
def BringsFresh (world : World) (operation : Operation) : Prop :=
  world.manager.Admissible operation ∧
    match operation with
    | .subscribe _ _ queue => world.owner queue = none
    | _ => True

instance decidableBringsFresh (world : World) : (operation : Operation) →
    Decidable (world.BringsFresh operation)
  | .send _ _ | .loadUsers _ | .unsubscribe _ _ => inferInstanceAs (Decidable (_ ∧ True))
  | .subscribe _ _ _ => inferInstanceAs (Decidable (_ ∧ _ = none))

def freshStep (world : World) (operation : Operation) : Option World :=
  if world.BringsFresh operation then some (world.apply operation) else none

/-- The ids that a queue was given, in the order of their arrival. -/
def arrived (world : World) (queue : QueueRef) : List Int :=
  (world.appended queue).map Notification.id

/-- The ids in a backlog, and those a queue was given, grow to the back, and all of them
were handed out. A queue stands for one user and once. -/
structure InOrder (issued : Nat) (world : World) : Prop where
  books : Books issued world.manager
  backlog : ∀ user, ((world.manager.queueOf user).pendingQueue.map
    PendingNotification.notificationId).Pairwise (· < ·)
  arrived : ∀ queue, (world.arrived queue).Pairwise (· < ·)
  bound : ∀ queue, ∀ id ∈ world.arrived queue, id ≤ issued
  unowned : ∀ queue, world.owner queue = none → world.appended queue = []
  owned : ∀ user, ∀ queue ∈ world.references user, world.owner queue = some user
  distinct : ∀ user, (world.references user).Nodup

section Steps

variable {issued : Nat} {world : World}

theorem arrived_apply (operation : Operation) (queue : QueueRef) :
    (world.apply operation).arrived queue = world.arrived queue ++
      (received (world.manager.call operation).inserted queue).map Notification.id := by
  rw [arrived, apply, List.map_append, arrived]

theorem inOrder_empty : InOrder 0 {} := by
  refine ⟨books_empty, ?_, ?_, ?_, fun _ _ => rfl, ?_, ?_⟩
  · intro user
    exact List.Pairwise.nil
  · intro queue
    exact List.Pairwise.nil
  · intro queue id member
    cases member
  · intro user queue member
    cases member
  · intro user
    exact List.nodup_nil

/-- A call that inserts nothing and leaves the backlogs alone. -/
theorem InOrder.silent (inOrder : InOrder issued world) (operation : Operation)
    (books : Books issued (world.manager.call operation).manager)
    (nothing : (world.manager.call operation).inserted = [])
    (backlog : ∀ user, ((world.manager.call operation).manager.queueOf user).pendingQueue =
      (world.manager.queueOf user).pendingQueue)
    (fewer : ∀ user, ((world.apply operation).references user).Sublist (world.references user))
    (owner : owners world.owner operation = world.owner) :
    InOrder issued (world.apply operation) := by
  have appended : (world.apply operation).appended = world.appended := by
    funext queue
    simp [World.apply, nothing, received]
  have same : (world.apply operation).owner = world.owner := owner
  have arrived : (world.apply operation).arrived = world.arrived := by
    funext queue
    rw [World.arrived, appended, World.arrived]
  refine ⟨books, ?_, ?_, ?_, ?_, ?_, ?_⟩
  · intro user
    rw [show (world.apply operation).manager = (world.manager.call operation).manager from rfl,
      backlog]
    exact inOrder.backlog user
  · rw [arrived]
    exact inOrder.arrived
  · rw [arrived]
    exact inOrder.bound
  · rw [same, appended]
    exact inOrder.unowned
  · intro user queue member
    rw [same]
    exact inOrder.owned user queue ((fewer user).subset member)
  · intro user
    exact (inOrder.distinct user).sublist (fewer user)

/-- A send hands a queue its notification once or not at all. -/
theorem InOrder.received_send (inOrder : InOrder issued world) {notification : Notification}
    {followers : List Text} {call : Call} (distinct : followers.Nodup)
    (sent : Sent world.manager notification followers call) (queue : QueueRef) :
    received call.inserted queue =
      if (world.owner queue).getD [] ∈ followers ∧
          queue ∈ world.references ((world.owner queue).getD [])
      then [world.manager.issue notification] else [] := by
  rw [sent.inserted, received_flatMap]
  have each : ∀ user, received ((world.manager.queueOf user).insertToSubscribers
      (world.manager.issue notification)) queue =
        if queue ∈ world.references user then [world.manager.issue notification] else [] :=
    fun user => received_insertToSubscribers _ (inOrder.distinct user) _ queue
  simp only [each]
  refine flatMap_ite_singleton followers distinct _ _ ?_ _
  intro other referred
  rw [inOrder.owned other queue referred]
  rfl

/-- What waits was handed out. -/
theorem InOrder.pending_le (inOrder : InOrder issued world) (small : issued < 2 ^ 31)
    {user : Text} {pending : PendingNotification}
    (waiting : pending ∈ (world.manager.queueOf user).pendingQueue) :
    pending.notificationId ≤ issued := by
  obtain ⟨notification, stored, same⟩ := inOrder.books.ledger.resolved user pending waiting
  exact same ▸ (inOrder.books.numbered.inRange small stored).2

theorem InOrder.send (inOrder : InOrder issued world) {notification : Notification}
    {followers : List Text} (room : issued + 1 < 2 ^ 31)
    (admissible : world.manager.Admissible (.send notification followers))
    (sender : notification.username ∈ world.manager.notifications) :
    InOrder (issued + 1) (world.apply (.send notification followers)) := by
  obtain ⟨distinct, registered, counted⟩ := admissible
  have sent := send_spec world.manager notification followers sender registered distinct counted
  have number : int32 world.manager.nextId = (issued : Int) + 1 := by
    rw [inOrder.books.numbered.next, int32_uint32, int32_of_small room]
    rfl
  have references : (world.apply (.send notification followers)).references =
      world.references := by
    funext user
    have same := subscribersQueue_send world.manager notification followers
      ⟨distinct, registered, counted⟩ user
    rw [World.references, World.references]
    exact congrArg (fun map => map.entries.map Prod.snd) same
  have handed := inOrder.received_send distinct sent
  refine ⟨inOrder.books.sent (by omega) sent, ?_, ?_, ?_, ?_, ?_, ?_⟩
  · intro user
    show (((world.manager.send notification followers).manager.queueOf user).pendingQueue.map
      _).Pairwise _
    rw [sent.queues]
    split
    next =>
      rw [enqueue, List.map_append]
      refine List.pairwise_append.mpr ⟨inOrder.backlog user, List.pairwise_singleton .., ?_⟩
      intro older olderMember newer newerMember
      obtain ⟨pending, waiting, same⟩ := List.mem_map.mp olderMember
      have bound := inOrder.pending_le (by omega) waiting
      have new : newer = int32 world.manager.nextId := List.mem_singleton.mp newerMember
      omega
    next => exact inOrder.backlog user
  · intro queue
    rw [arrived_apply]
    refine List.pairwise_append.mpr ⟨inOrder.arrived queue, ?_, ?_⟩
    · rw [call, handed]
      split
      next => exact List.pairwise_singleton ..
      next => exact List.Pairwise.nil
    · intro older olderMember newer newerMember
      have bound := inOrder.bound queue older olderMember
      rw [call, handed] at newerMember
      split at newerMember
      next =>
        have new : newer = int32 world.manager.nextId := List.mem_singleton.mp newerMember
        omega
      next => cases newerMember
  · intro queue id member
    rw [arrived_apply] at member
    rcases List.mem_append.mp member with old | new
    · have bound := inOrder.bound queue id old
      omega
    · rw [call, handed] at new
      split at new
      next =>
        have same : id = int32 world.manager.nextId := List.mem_singleton.mp new
        omega
      next => cases new
  · intro queue free
    have unowned : world.owner queue = none := free
    have nobody : queue ∉ world.references ((world.owner queue).getD []) := by
      intro referred
      have owned := inOrder.owned _ queue referred
      rw [unowned] at owned
      cases owned
    show world.appended queue ++ received (world.manager.send notification followers).inserted
      queue = []
    rw [handed, if_neg fun both => nobody both.2, inOrder.unowned queue unowned]
    rfl
  · rw [references]
    exact inOrder.owned
  · rw [references]
    exact inOrder.distinct

theorem ids_filterMap_resolve (manager : NotificationManager)
    (backlog : List PendingNotification) :
    ((backlog.filterMap manager.resolve).map Notification.id).Sublist
      (backlog.map PendingNotification.notificationId) := by
  induction backlog with
  | nil => exact List.Sublist.refl _
  | cons pending rest ih =>
    cases found : manager.resolve pending with
    | none =>
      rw [List.filterMap_cons_none found]
      exact ih.cons _
    | some notification =>
      rw [List.filterMap_cons_some found, List.map_cons, List.map_cons, (resolve_spec found).2]
      exact ih.cons_cons _

/-- A new session of an online user is handed nothing, and that of an offline user
the backlog, whose queue was empty so far. -/
theorem InOrder.received_subscribe (inOrder : InOrder issued world) {username : Text} {id : Nat}
    {session : QueueRef} {call : Call}
    (subscribed : world.manager.Subscribed username id session call) (queue : QueueRef) :
    received call.inserted queue =
      if queue = session then
        (world.manager.queueOf username).pendingQueue.filterMap world.manager.resolve
      else [] := by
  rw [subscribed.inserted, received_flatMap]
  cases online : (world.manager.queueOf username).hasSubscribers with
  | true =>
    rw [inOrder.books.online username online]
    split <;> rfl
  | false =>
    have none : (world.manager.queueOf username).subscribersQueue.entries = [] := by
      simpa [NotificationQueue.hasSubscribers] using online
    have alone : ((world.manager.queueOf username).subscribe id session).subscribersQueue.entries =
        [(uint32 id, session)] := by
      rw [NotificationQueue.subscribe, UnorderedMap.entries_emplace_of_notMem, none]
      · rfl
      · simp [← UnorderedMap.mem_keys, UnorderedMap.keys, none]
    have each : ∀ notification,
        received (((world.manager.queueOf username).subscribe id session).insertToSubscribers
          notification) queue = if queue = session then [notification] else [] := by
      intro notification
      rw [NotificationQueue.insertToSubscribers, alone]
      by_cases here : queue = session
      · simp [received, here]
      · simp [received, here, Ne.symm here]
    simp only [received_flatMap, each]
    split
    next =>
      rw [List.filterMap_eq_flatMap_toList]
      simp
    next => simp

theorem references_subscribe {username : Text} {id : Nat} {session : QueueRef}
    (subscribed : world.manager.Subscribed username id session
      (world.manager.subscribe username id session)) (user : Text) :
    (world.apply (.subscribe username id session)).references user = world.references user ∨
      user = username ∧ (world.apply (.subscribe username id session)).references user =
        world.references user ++ [session] := by
  have shape : (world.apply (.subscribe username id session)).references user =
      ((world.manager.subscribe username id session).manager.queueOf
        user).subscribersQueue.entries.map Prod.snd := rfl
  rw [shape, subscribed.queues]
  by_cases here : user = username
  · subst here
    rw [if_pos rfl]
    by_cases known : uint32 id ∈ (world.manager.queueOf user).subscribersQueue
    · left
      show (((world.manager.queueOf user).subscribersQueue.emplace _ _).entries.map _) = _
      rw [UnorderedMap.emplace_of_mem _ _ _ known]
      rfl
    · refine Or.inr ⟨rfl, ?_⟩
      show (((world.manager.queueOf user).subscribersQueue.emplace _ _).entries.map _) = _
      rw [UnorderedMap.entries_emplace_of_notMem _ _ _ known, List.map_append]
      rfl
  · rw [if_neg here]
    exact Or.inl rfl

theorem InOrder.subscribe (inOrder : InOrder issued world) {username : Text} {id : Nat}
    {session : QueueRef} (fresh : world.owner session = none) (small : issued < 2 ^ 31) :
    InOrder issued (world.apply (.subscribe username id session)) := by
  have subscribed := subscribe_spec inOrder.books.ledger username id session
  have handed := inOrder.received_subscribe subscribed
  have references := references_subscribe subscribed
  have empty : world.arrived session = [] := by
    rw [World.arrived, inOrder.unowned session fresh]
    rfl
  have unused : ∀ user, session ∉ world.references user := by
    intro user member
    have owned := inOrder.owned user session member
    rw [fresh] at owned
    cases owned
  have arrived : ∀ queue, (world.apply (.subscribe username id session)).arrived queue =
      if queue = session then ((world.manager.queueOf username).pendingQueue.filterMap
        world.manager.resolve).map Notification.id else world.arrived queue := by
    intro queue
    rw [arrived_apply, call, handed]
    split
    next here => rw [here, empty, List.nil_append]
    next => rw [List.map_nil, List.append_nil]
  have sublist := ids_filterMap_resolve world.manager (world.manager.queueOf username).pendingQueue
  refine ⟨inOrder.books.shrinks subscribed.ledger (inOrder.books.online.subscribed subscribed)
    (shrinks_of_subscribed subscribed), ?_, ?_, ?_, ?_, ?_, ?_⟩
  · intro user
    show (((world.manager.subscribe username id session).manager.queueOf user).pendingQueue.map
      _).Pairwise _
    rw [subscribed.queues]
    split
    next => exact List.Pairwise.nil
    next => exact inOrder.backlog user
  · intro queue
    rw [arrived]
    split
    next => exact (inOrder.backlog username).sublist sublist
    next => exact inOrder.arrived queue
  · intro queue number member
    rw [arrived] at member
    split at member
    next =>
      obtain ⟨pending, waiting, same⟩ := List.mem_map.mp (sublist.subset member)
      exact same ▸ inOrder.pending_le small waiting
    next => exact inOrder.bound queue number member
  · intro queue free
    change (if queue = session then some username else world.owner queue) = none at free
    split at free
    next => cases free
    next away =>
      show world.appended queue ++ received (world.manager.subscribe username id session).inserted
        queue = []
      rw [handed, if_neg away, inOrder.unowned queue free]
      rfl
  · intro user queue member
    show (if queue = session then some username else world.owner queue) = some user
    rcases references user with same | ⟨here, more⟩
    · rw [same] at member
      rw [if_neg fun new : queue = session => unused user (new ▸ member)]
      exact inOrder.owned user queue member
    · rw [more] at member
      rcases List.mem_append.mp member with old | new
      · rw [if_neg fun new : queue = session => unused user (new ▸ old)]
        exact inOrder.owned user queue old
      · rw [if_pos (List.mem_singleton.mp new), here]
  · intro user
    rcases references user with same | ⟨-, more⟩
    · rw [same]
      exact inOrder.distinct user
    · rw [more]
      exact (inOrder.distinct user).append (List.nodup_singleton _)
        (List.disjoint_singleton.mpr (unused user))

/-- One call keeps the order, as long as the ids fit an int. -/
theorem InOrder.apply (inOrder : InOrder issued world) (operation : Operation)
    (fresh : world.BringsFresh operation) (small : issued < 2 ^ 31)
    (room : operation.isSend = true → issued + 1 < 2 ^ 31) :
    ∃ later, InOrder later (world.apply operation) ∧
      later ≤ issued + if operation.isSend then 1 else 0 := by
  have books := inOrder.books
  cases operation with
  | loadUsers usernames =>
    obtain ⟨ledger, online, shrinks⟩ :=
      register_frame usernames world.manager books.ledger books.online
    refine ⟨issued, inOrder.silent _ (books.shrinks ledger online shrinks) rfl ?_ ?_ rfl, by omega⟩
    · intro user
      exact congrArg NotificationQueue.pendingQueue
        (queueOf_loadUsers world.manager usernames user)
    · intro user
      show (((world.manager.loadUsers usernames).manager.queueOf
        user).subscribersQueue.entries.map Prod.snd).Sublist _
      rw [queueOf_loadUsers]
      exact List.Sublist.refl _
  | subscribe username id session => exact ⟨issued, inOrder.subscribe fresh.2 small, by omega⟩
  | unsubscribe username id =>
    refine ⟨issued, inOrder.silent _ (books.shrinks (books.ledger.unsubscribe username id)
      (books.online.unsubscribe username id) (shrinks_unsubscribe world.manager username id))
      rfl ?_ ?_ rfl, by omega⟩
    · intro user
      rw [call, queueOf_unsubscribe]
      split
      next here => rw [here]; rfl
      next => rfl
    · intro user
      show (((world.manager.unsubscribe username id).manager.queueOf
        user).subscribersQueue.entries.map Prod.snd).Sublist _
      rw [queueOf_unsubscribe]
      split
      next here =>
        rw [here]
        exact List.Sublist.map _ List.filter_sublist
      next => exact List.Sublist.refl _
  | send notification followers =>
    by_cases sender : notification.username ∈ world.manager.notifications
    · exact ⟨issued + 1, inOrder.send (room rfl) fresh.1 sender, by simp [Operation.isSend]⟩
    · have same : world.manager.call (.send notification followers) =
          { manager := world.manager } :=
        send_unregistered world.manager notification followers sender
      refine ⟨issued, inOrder.silent _ (by rw [same]; exact books) (by rw [same]) ?_ ?_ rfl,
        by omega⟩
      · intro user
        rw [same]
      · intro user
        show (((world.manager.call (.send notification followers)).manager.queueOf
          user).subscribersQueue.entries.map Prod.snd).Sublist _
        rw [same]
        exact List.Sublist.refl _

theorem inOrder_of_run {operations : List Operation} {final : World}
    (inOrder : InOrder issued world) (few : issued + sends operations < 2 ^ 31)
    (reached : run freshStep world operations = some final) :
    ∃ later, InOrder later final := by
  have kept : ∀ issued world operation next, InOrder issued world →
      freshStep world operation = some next → issued ≤ 2 ^ 31 - 1 →
      (operation.isSend = true → issued < 2 ^ 31 - 1) →
      ∃ later, InOrder later next ∧ later ≤ issued + if operation.isSend then 1 else 0 := by
    intro issued world operation next inOrder taken small room
    unfold freshStep at taken
    split at taken
    next fresh =>
      cases taken
      exact inOrder.apply operation fresh (by omega)
        fun isSend => Nat.add_lt_of_lt_sub (room isSend)
    next => cases taken
  obtain ⟨later, -, last⟩ := run_counted kept inOrder (by omega) reached
  exact ⟨later, last⟩

end Steps

/-- Every queue is given its ids in growing order, backlog and live ones alike. -/
theorem arrived_of_run (operations : List Operation) (world : World)
    (reached : run freshStep {} operations = some world) (few : sends operations < 2 ^ 31) :
    ∀ queue, (world.arrived queue).Pairwise (· < ·) := by
  obtain ⟨issued, inOrder⟩ := inOrder_of_run inOrder_empty (by omega) reached
  exact inOrder.arrived

/-- A user is offline for two notifications and online for a third, and a second session
whose id has the same key comes in between. -/
def orderRun : List Operation :=
  [.loadUsers [['a'], ['b'], ['c']], .send ⟨-1, 5, ['a'], 1, ['x']⟩ [['b']],
    .send ⟨-1, 6, ['c'], 1, ['y']⟩ [['b']], .subscribe ['b'] 7 0,
    .subscribe ['b'] (2 ^ 32 + 7) 1, .send ⟨-1, 7, ['a'], 1, ['z']⟩ [['b']],
    .unsubscribe ['b'] 7]

theorem arrived_of_orderRun : ∃ world, run freshStep {} orderRun = some world ∧
    world.arrived 0 = [1, 2, 3] ∧ ∀ queue, (world.arrived queue).Pairwise (· < ·) :=
  ⟨_, rfl, by decide, arrived_of_run orderRun _ rfl (by decide)⟩

end TwitterClone.World
