import TwitterClone.Notification.Accounting

/-! The manager together with the session queues it fills. Every subscription
brings its own queue; the queues keep everything that was ever appended. -/
namespace TwitterClone

open Foundation NotificationManager

/-- A session between its `subscribe` and its `unsubscribe`. -/
structure Session where
  user : Text
  id : Nat
  queue : QueueRef
  deriving DecidableEq

/-- The manager, what each session queue was given, the sessions now open and
the user for whom each queue was created. -/
structure World where
  manager : NotificationManager := {}
  appended : QueueRef → List Notification := fun _ => []
  sessions : List Session := []
  owner : QueueRef → Option Text := fun _ => none

/-- What a list of insertions appends to one queue. -/
def received (inserted : List Insertion) (queue : QueueRef) : List Notification :=
  (inserted.filter (·.queue = queue)).map Insertion.notification

namespace World

/-- A session of the user with this queue is open. -/
def Subscribed (world : World) (user : Text) (queue : QueueRef) : Prop :=
  ∃ session ∈ world.sessions, session.user = user ∧ session.queue = queue

instance (world : World) (user : Text) (queue : QueueRef) :
    Decidable (world.Subscribed user queue) :=
  inferInstanceAs (Decidable (∃ session ∈ world.sessions, _))

/-- Queues are fresh, and ids that agree modulo `2 ^ 32` name one session. -/
def Admissible (world : World) (operation : Operation) : Prop :=
  world.manager.Admissible operation ∧
    match operation with
    | .subscribe username id queue => world.owner queue = none ∧
        ∀ session ∈ world.sessions, session.user = username → uint32 session.id ≠ uint32 id
    | .unsubscribe username id =>
        ∀ session ∈ world.sessions, session.user = username →
          uint32 session.id = uint32 id → session.id = id
    | _ => True

instance (world : World) : (operation : Operation) → Decidable (world.Admissible operation)
  | .send _ _ | .loadUsers _ => inferInstanceAs (Decidable (_ ∧ True))
  | .subscribe _ _ _ => inferInstanceAs (Decidable (_ ∧ _ ∧ ∀ session ∈ world.sessions, _))
  | .unsubscribe _ _ => inferInstanceAs (Decidable (_ ∧ ∀ session ∈ world.sessions, _))

def openSessions (sessions : List Session) : Operation → List Session
  | .subscribe username id queue => sessions ++ [⟨username, id, queue⟩]
  | .unsubscribe username id =>
    sessions.filter fun session => ¬ (session.user = username ∧ session.id = id)
  | _ => sessions

def owners (owner : QueueRef → Option Text) : Operation → QueueRef → Option Text
  | .subscribe username _ queue => fun other => if other = queue then some username else owner other
  | _ => owner

def apply (world : World) (operation : Operation) : World where
  manager := (world.manager.call operation).manager
  appended queue :=
    world.appended queue ++ received (world.manager.call operation).inserted queue
  sessions := openSessions world.sessions operation
  owner := owners world.owner operation

def step (world : World) (operation : Operation) : Option World :=
  if world.Admissible operation then some (world.apply operation) else none

/-- What a queue was given under one id. -/
def copies (world : World) (queue : QueueRef) (id : Int) : List Notification :=
  (world.appended queue).filter (·.id = id)

/-- The references held for one user. -/
def references (world : World) (user : Text) : List QueueRef :=
  (world.manager.queueOf user).subscribersQueue.entries.map Prod.snd

/-- The manager's subscriber maps list exactly the open sessions. -/
structure Wired (world : World) : Prop where
  subscribers : ∀ user key queue,
    (key, queue) ∈ (world.manager.queueOf user).subscribersQueue.entries ↔
      ∃ session ∈ world.sessions,
        session.user = user ∧ uint32 session.id = key ∧ session.queue = queue
  distinct : ∀ first ∈ world.sessions, ∀ second ∈ world.sessions,
    first.queue = second.queue → first = second
  owned : ∀ session ∈ world.sessions, world.owner session.queue = some session.user

/-- What holds of every world reached while ids have not come round. -/
structure Sound (issued : Nat) (world : World) : Prop where
  books : Books issued world.manager
  wired : Wired world
  unowned : ∀ queue, world.owner queue = none → world.appended queue = []
  past : ∀ queue, ∀ notification ∈ world.appended queue,
    ∃ index, 1 ≤ index ∧ index ≤ issued ∧ notification.id = int32 index

end World

@[simp] theorem received_append (first second : List Insertion) (queue : QueueRef) :
    received (first ++ second) queue = received first queue ++ received second queue := by
  simp [received]

theorem received_flatMap {Item : Type} (items : List Item) (insertions : Item → List Insertion)
    (queue : QueueRef) :
    received (items.flatMap insertions) queue =
      items.flatMap fun item => received (insertions item) queue := by
  induction items with
  | nil => rfl
  | cons item rest ih => simp [ih]

/-- A subscriber map that lists a queue once hands it one copy. -/
theorem received_insertToSubscribers (subscribers : NotificationQueue)
    (distinct : (subscribers.subscribersQueue.entries.map Prod.snd).Nodup)
    (notification : Notification) (queue : QueueRef) :
    received (subscribers.insertToSubscribers notification) queue =
      if queue ∈ subscribers.subscribersQueue.entries.map Prod.snd then [notification] else [] := by
  unfold NotificationQueue.insertToSubscribers
  generalize subscribers.subscribersQueue.entries = entries at distinct
  induction entries with
  | nil => rfl
  | cons entry rest ih =>
    obtain ⟨fresh, distinctRest⟩ := List.nodup_cons.mp distinct
    have later := ih distinctRest
    by_cases here : entry.2 = queue
    · subst here
      have none :
          received (rest.map fun subscriber => ⟨subscriber.2, notification⟩) entry.2 = [] := by
        rw [later, if_neg fresh]
      simpa [received] using none
    · have skip : queue ∈ (entry :: rest).map Prod.snd ↔ queue ∈ rest.map Prod.snd := by
        rw [List.map_cons, List.mem_cons]
        exact or_iff_right (Ne.symm here)
      simp only [skip, ← later]
      simp [received, here]

theorem flatMap_ite_singleton {Result : Type} (items : List Text) (distinct : items.Nodup)
    (chosen : Text → Prop) [DecidablePred chosen] (item : Text)
    (only : ∀ other, chosen other → other = item) (result : Result) :
    (items.flatMap fun other => if chosen other then [result] else []) =
      if item ∈ items ∧ chosen item then [result] else [] := by
  induction items with
  | nil => simp
  | cons first rest ih =>
    obtain ⟨fresh, distinctRest⟩ := List.nodup_cons.mp distinct
    rw [List.flatMap_cons, ih distinctRest]
    by_cases here : chosen first
    · have same := only first here
      subst same
      simp [here, fresh]
    · by_cases same : item = first
      · subst same
        simp [here]
      · simp [here, same]

namespace World

section Wiring

variable {issued : Nat} {world : World}

theorem step_eq_some {operation : Operation} {next : World} :
    world.step operation = some next ↔
      world.Admissible operation ∧ world.apply operation = next := by
  by_cases admissible : world.Admissible operation <;> simp [step, admissible]

theorem Wired.mem_references (wired : Wired world) {user : Text} {queue : QueueRef} :
    queue ∈ world.references user ↔ world.Subscribed user queue := by
  simp only [references, List.mem_map, Prod.exists, exists_eq_right, wired.subscribers,
    Subscribed]
  constructor
  · rintro ⟨key, session, member, same, _, here⟩
    exact ⟨session, member, same, here⟩
  · rintro ⟨session, member, same, here⟩
    exact ⟨uint32 session.id, session, member, same, rfl, here⟩

theorem Wired.owner_of_subscribed (wired : Wired world) {user : Text} {queue : QueueRef}
    (subscribed : world.Subscribed user queue) : world.owner queue = some user := by
  obtain ⟨session, member, same, here⟩ := subscribed
  rw [← here, ← same]
  exact wired.owned session member

theorem Wired.references_nodup (wired : Wired world) (user : Text) :
    (world.references user).Nodup := by
  have entries := List.Nodup.of_map _ (world.manager.queueOf user).subscribersQueue.distinct
  apply List.Nodup.map_on _ entries
  rintro ⟨key, queue⟩ member ⟨other, same⟩ memberToo equal
  obtain ⟨session, inside, -, keyed, here⟩ := (wired.subscribers user key queue).mp member
  obtain ⟨session', insideToo, -, keyedToo, hereToo⟩ :=
    (wired.subscribers user other same).mp memberToo
  have one := wired.distinct session inside session' insideToo
    (here.trans (equal.trans hereToo.symm))
  subst one
  exact Prod.ext (keyed.symm.trans keyedToo) equal

/-- Handing a notification to one user's sessions reaches the open queues of
that user, each once. -/
theorem Wired.received_user (wired : Wired world) (user : Text) (notification : Notification)
    (queue : QueueRef) :
    received ((world.manager.queueOf user).insertToSubscribers notification) queue =
      if world.Subscribed user queue then [notification] else [] := by
  rw [received_insertToSubscribers _ (wired.references_nodup user)]
  simp only [← wired.mem_references]
  rfl

/-- A user is online exactly when one of the user's sessions is open. -/
theorem Wired.online (wired : Wired world) (user : Text) :
    (world.manager.queueOf user).hasSubscribers = true ↔
      ∃ queue, world.Subscribed user queue := by
  constructor
  · intro online
    have some : (world.manager.queueOf user).subscribersQueue.entries ≠ [] := by
      simpa [NotificationQueue.hasSubscribers] using online
    obtain ⟨entry, member⟩ := List.exists_mem_of_ne_nil _ some
    exact ⟨entry.2, wired.mem_references.mp (List.mem_map.mpr ⟨entry, member, rfl⟩)⟩
  · rintro ⟨queue, subscribed⟩
    obtain ⟨entry, member, _⟩ := List.mem_map.mp (wired.mem_references.mpr subscribed)
    simpa [NotificationQueue.hasSubscribers] using List.ne_nil_of_mem member

theorem queueOf_loadUsers (manager : NotificationManager) (usernames : List Text)
    (user : Text) : (manager.loadUsers usernames).manager.queueOf user = manager.queueOf user := by
  simp only [loadUsers]
  induction usernames generalizing manager with
  | nil => rfl
  | cons username rest ih => rw [List.foldl_cons, ih, queueOf_register]

theorem stored_loadUsers (manager : NotificationManager) (usernames : List Text)
    (sender : Text) :
    (manager.loadUsers usernames).manager.stored sender = manager.stored sender := by
  simp only [loadUsers]
  induction usernames generalizing manager with
  | nil => rfl
  | cons username rest ih => rw [List.foldl_cons, ih, stored_register]

/-- A send touches no subscriber map. -/
theorem subscribersQueue_send (manager : NotificationManager) (notification : Notification)
    (followers : List Text) (admissible : manager.Admissible (.send notification followers))
    (user : Text) :
    ((manager.send notification followers).manager.queueOf user).subscribersQueue =
      (manager.queueOf user).subscribersQueue := by
  by_cases sender : notification.username ∈ manager.notifications
  · obtain ⟨distinct, registered, counted⟩ := admissible
    rw [(send_spec manager notification followers sender registered distinct counted).queues]
    split <;> rfl
  · rw [send_unregistered manager notification followers sender]

theorem Wired.of_same {next : World} (wired : Wired world)
    (maps : ∀ user, (next.manager.queueOf user).subscribersQueue =
      (world.manager.queueOf user).subscribersQueue)
    (sessions : next.sessions = world.sessions) (owner : next.owner = world.owner) :
    Wired next := by
  constructor
  · intro user key queue
    rw [maps, sessions]
    exact wired.subscribers user key queue
  · rw [sessions]
    exact wired.distinct
  · rw [sessions, owner]
    exact wired.owned

theorem Wired.subscribe (wired : Wired world) (ledger : Ledger world.manager) (username : Text)
    (id : Nat) (queue : QueueRef) (admissible : world.Admissible (.subscribe username id queue)) :
    Wired (world.apply (.subscribe username id queue)) := by
  obtain ⟨_, unowned, fresh⟩ := admissible
  have queues := (subscribe_spec ledger username id queue).queues
  have unused : ∀ session ∈ world.sessions, session.queue ≠ queue := by
    intro session member same
    have owned := wired.owned session member
    rw [same, unowned] at owned
    cases owned
  have newKey : uint32 id ∉ (world.manager.queueOf username).subscribersQueue := by
    intro member
    obtain ⟨entry, inside, same⟩ := List.mem_map.mp (UnorderedMap.mem_keys.mpr member)
    obtain ⟨session, open', user, keyed, _⟩ :=
      (wired.subscribers username entry.1 entry.2).mp inside
    exact fresh session open' user (keyed.trans same)
  constructor
  · intro user key other
    show _ ∈ ((world.manager.subscribe username id queue).manager.queueOf
        user).subscribersQueue.entries ↔
      ∃ session ∈ world.sessions ++ [⟨username, id, queue⟩], _
    rw [queues]
    by_cases here : user = username
    · subst here
      simp only [↓reduceIte, NotificationQueue.subscribe,
        UnorderedMap.entries_emplace_of_notMem _ _ _ newKey, List.mem_append,
        wired.subscribers, List.mem_singleton, or_and_right, exists_or, exists_eq_left, true_and,
        Prod.mk.injEq, eq_comm (a := key), eq_comm (a := other)]
    · simp only [here, ↓reduceIte, wired.subscribers, List.mem_append, List.mem_singleton,
        or_and_right, exists_or, exists_eq_left, Ne.symm here, false_and, or_false]
  · intro first firstMember second secondMember same
    rcases List.mem_append.mp firstMember with old | new <;>
      rcases List.mem_append.mp secondMember with oldToo | newToo
    · exact wired.distinct first old second oldToo same
    · rw [List.mem_singleton.mp newToo] at same
      exact absurd same (unused first old)
    · rw [List.mem_singleton.mp new] at same
      exact absurd same.symm (unused second oldToo)
    · rw [List.mem_singleton.mp new, List.mem_singleton.mp newToo]
  · intro session member
    show (if session.queue = queue then some username else world.owner session.queue) = _
    rcases List.mem_append.mp member with old | new
    · rw [if_neg (unused session old)]
      exact wired.owned session old
    · rw [List.mem_singleton.mp new]
      simp

theorem Wired.unsubscribe (wired : Wired world) (username : Text) (id : Nat)
    (admissible : world.Admissible (.unsubscribe username id)) :
    Wired (world.apply (.unsubscribe username id)) := by
  have exact := admissible.2
  have left : ∀ session, session ∈ (world.apply (.unsubscribe username id)).sessions ↔
      session ∈ world.sessions ∧ ¬ (session.user = username ∧ session.id = id) := by
    intro session
    simp only [apply, openSessions, List.mem_filter, decide_eq_true_eq]
  constructor
  · intro user key queue
    show _ ∈ ((world.manager.unsubscribe username id).manager.queueOf
      user).subscribersQueue.entries ↔ _
    rw [queueOf_unsubscribe]
    simp only [left]
    by_cases here : user = username
    · subst here
      simp only [↓reduceIte, NotificationQueue.unsubscribe, UnorderedMap.erase, List.mem_filter,
        wired.subscribers, decide_eq_true_eq]
      constructor
      · rintro ⟨⟨session, member, same, keyed, there⟩, different⟩
        refine ⟨session, ⟨member, ?_⟩, same, keyed, there⟩
        intro gone
        exact different (by rw [← keyed, gone.2])
      · rintro ⟨session, ⟨member, kept⟩, same, keyed, there⟩
        refine ⟨⟨session, member, same, keyed, there⟩, ?_⟩
        intro clash
        exact kept ⟨same, exact session member same (keyed.trans clash)⟩
    · simp only [here, ↓reduceIte, wired.subscribers]
      constructor
      · rintro ⟨session, member, same, rest⟩
        exact ⟨session, ⟨member, fun gone => here (same.symm.trans gone.1)⟩, same, rest⟩
      · rintro ⟨session, ⟨member, _⟩, rest⟩
        exact ⟨session, member, rest⟩
  · intro first firstMember second secondMember same
    exact wired.distinct first ((left first).mp firstMember).1 second
      ((left second).mp secondMember).1 same
  · intro session member
    exact wired.owned session ((left session).mp member).1

theorem Wired.apply (wired : Wired world) (ledger : Ledger world.manager) (operation : Operation)
    (admissible : world.Admissible operation) : Wired (world.apply operation) := by
  cases operation with
  | loadUsers usernames =>
    have same : ∀ user,
        ((world.manager.loadUsers usernames).manager.queueOf user).subscribersQueue =
          (world.manager.queueOf user).subscribersQueue := by
      intro user
      rw [queueOf_loadUsers]
    exact wired.of_same same rfl rfl
  | subscribe username id queue => exact wired.subscribe ledger username id queue admissible
  | unsubscribe username id => exact wired.unsubscribe username id admissible
  | send notification followers =>
    exact wired.of_same (subscribersQueue_send _ _ _ admissible.1) rfl rfl

/-- What a send hands to one queue. -/
theorem Wired.received_send (wired : Wired world) {notification : Notification}
    {followers : List Text} {call : Call} (distinct : followers.Nodup)
    (sent : Sent world.manager notification followers call) (queue : QueueRef) (user : Text)
    (only : ∀ other, world.Subscribed other queue → other = user) :
    received call.inserted queue =
      if user ∈ followers ∧ world.Subscribed user queue
      then [world.manager.issue notification] else [] := by
  rw [sent.inserted, received_flatMap]
  simp only [wired.received_user]
  exact flatMap_ite_singleton followers distinct _ user only _

/-- What a new session is handed: the texts of the user's backlog, in order. -/
theorem Wired.received_subscribe (wired : Wired world) (ledger : Ledger world.manager)
    (username : Text) (id : Nat) (session queue : QueueRef)
    (admissible : world.Admissible (.subscribe username id session)) :
    received (world.manager.call (.subscribe username id session)).inserted queue =
      if (world.apply (.subscribe username id session)).Subscribed username queue
      then (world.manager.queueOf username).pendingQueue.filterMap world.manager.resolve
      else [] := by
  have subscribed := subscribe_spec ledger username id session
  have after := wired.subscribe ledger username id session admissible
  have same : ∀ notification,
      ((world.manager.queueOf username).subscribe id session).insertToSubscribers notification =
        ((world.apply (.subscribe username id session)).manager.queueOf
          username).insertToSubscribers notification := by
    intro notification
    show _ = ((world.manager.subscribe username id session).manager.queueOf
      username).insertToSubscribers notification
    rw [subscribed.queues, if_pos rfl]
    rfl
  show received (world.manager.subscribe username id session).inserted queue = _
  rw [subscribed.inserted]
  simp only [received_flatMap, same, after.received_user]
  split
  next =>
    rw [List.filterMap_eq_flatMap_toList]
    simp
  next => simp

/-- A queue created for one user is open for nobody else. -/
theorem Wired.only_owner (wired : Wired world) {queue : QueueRef} {user : Text}
    (owned : world.owner queue = some user) :
    ∀ other, world.Subscribed other queue → other = user := by
  intro other subscribed
  have ownedToo := wired.owner_of_subscribed subscribed
  rw [owned] at ownedToo
  exact (Option.some.inj ownedToo).symm

end Wiring

section Soundness

variable {issued : Nat} {world : World}

theorem resolve_spec {manager : NotificationManager} {pending : PendingNotification}
    {notification : Notification} (found : manager.resolve pending = some notification) :
    notification ∈ manager.stored pending.sender ∧
      notification.id = pending.notificationId := by
  have matching := List.find?_some found
  exact ⟨List.mem_of_find?_eq_some found, by simpa using matching⟩

private theorem Sound.silent (sound : Sound issued world) (operation : Operation)
    (books : Books issued (world.manager.call operation).manager)
    (wired : Wired (world.apply operation))
    (nothing : (world.manager.call operation).inserted = [])
    (owner : owners world.owner operation = world.owner) :
    Sound issued (world.apply operation) := by
  have appended : (world.apply operation).appended = world.appended := by
    funext queue
    simp [World.apply, nothing, received]
  refine ⟨books, wired, ?_, ?_⟩
  · rw [appended]
    show ∀ queue, owners world.owner operation queue = none → _
    rw [owner]
    exact sound.unowned
  · rw [appended]
    exact sound.past

theorem Sound.send (sound : Sound issued world) {notification : Notification}
    {followers : List Text} (room : issued < 2 ^ 32)
    (admissible : world.Admissible (.send notification followers))
    (sender : notification.username ∈ world.manager.notifications) :
    Sound (issued + 1) (world.apply (.send notification followers)) := by
  obtain ⟨distinct, registered, counted⟩ := admissible.1
  have sent := send_spec world.manager notification followers sender registered distinct counted
  have books : Books (issued + 1) (world.manager.send notification followers).manager :=
    sound.books.sent room sent
  have wired := sound.wired.apply sound.books.ledger _ admissible
  refine ⟨books, wired, ?_, ?_⟩
  · intro queue unowned
    have nobody : ∀ other, world.Subscribed other queue → other = [] := by
      intro other subscribed
      have owned := sound.wired.owner_of_subscribed subscribed
      rw [show world.owner queue = none from unowned] at owned
      cases owned
    have closed : ¬ world.Subscribed [] queue := by
      intro subscribed
      have owned := sound.wired.owner_of_subscribed subscribed
      rw [show world.owner queue = none from unowned] at owned
      cases owned
    show world.appended queue ++ received (world.manager.send notification followers).inserted
      queue = []
    rw [sound.wired.received_send distinct sent queue [] nobody, sound.unowned queue unowned]
    simp [closed]
  · intro queue item member
    rcases List.mem_append.mp member with old | new
    · obtain ⟨index, positive, bound, same⟩ := sound.past queue item old
      exact ⟨index, positive, by omega, same⟩
    · obtain ⟨insertion, inside, same⟩ := List.mem_map.mp new
      have source := (List.mem_filter.mp inside).1
      change insertion ∈ (world.manager.send notification followers).inserted at source
      rw [sent.inserted] at source
      obtain ⟨follower, _, handed⟩ := List.mem_flatMap.mp source
      obtain ⟨entry, _, shape⟩ := List.mem_map.mp handed
      refine ⟨issued + 1, by omega, by omega, ?_⟩
      rw [← same, ← shape]
      show int32 world.manager.nextId = _
      rw [sound.books.numbered.next, int32_uint32]

private theorem Sound.subscribe (sound : Sound issued world) {username : Text} {id : Nat}
    {session : QueueRef} (admissible : world.Admissible (.subscribe username id session))
    (books : Books issued (world.manager.subscribe username id session).manager) :
    Sound issued (world.apply (.subscribe username id session)) := by
  have wired := sound.wired.apply sound.books.ledger _ admissible
  have received := sound.wired.received_subscribe sound.books.ledger username id session
  refine ⟨books, wired, ?_, ?_⟩
  · intro queue unowned
    have before : world.owner queue = none := by
      change (if queue = session then some username else world.owner queue) = none at unowned
      split at unowned
      next => cases unowned
      next => exact unowned
    have closed : ¬ (world.apply (.subscribe username id session)).Subscribed username queue := by
      intro subscribed
      have owned := wired.owner_of_subscribed subscribed
      rw [unowned] at owned
      cases owned
    show world.appended queue ++ _ = []
    rw [received queue admissible, if_neg closed, sound.unowned queue before]
    rfl
  · intro queue item member
    rcases List.mem_append.mp member with old | new
    · exact sound.past queue item old
    · rw [received queue admissible] at new
      split at new
      next =>
        obtain ⟨pending, _, found⟩ := List.mem_filterMap.mp new
        exact sound.books.numbered.past _ item (resolve_spec found).1
      next => cases new

/-- Every admissible step keeps the world sound, as long as ids have not come
round. -/
theorem Sound.apply (sound : Sound issued world) (operation : Operation)
    (admissible : world.Admissible operation)
    (room : operation.isSend = true → issued < 2 ^ 32) :
    ∃ later, Sound later (world.apply operation) ∧ issued ≤ later ∧
      later ≤ issued + if operation.isSend then 1 else 0 := by
  have wired := sound.wired.apply sound.books.ledger operation admissible
  have books := sound.books
  cases operation with
  | loadUsers usernames =>
    obtain ⟨ledger, online, shrinks⟩ :=
      register_frame usernames world.manager books.ledger books.online
    exact ⟨issued, sound.silent _ (books.shrinks ledger online shrinks) wired rfl rfl, le_rfl,
      by omega⟩
  | subscribe username id session =>
    have subscribed := subscribe_spec books.ledger username id session
    exact ⟨issued, sound.subscribe admissible (books.shrinks subscribed.ledger
      (books.online.subscribed subscribed) (shrinks_of_subscribed subscribed)), le_rfl, by omega⟩
  | unsubscribe username id =>
    exact ⟨issued, sound.silent _ (books.shrinks (books.ledger.unsubscribe username id)
      (books.online.unsubscribe username id) (shrinks_unsubscribe world.manager username id))
      wired rfl rfl, le_rfl, by omega⟩
  | send notification followers =>
    by_cases sender : notification.username ∈ world.manager.notifications
    · exact ⟨issued + 1, sound.send (room rfl) admissible sender, by omega,
        by simp [Operation.isSend]⟩
    · have skipped := send_unregistered world.manager notification followers sender
      have same : world.manager.call (.send notification followers) = { manager := world.manager } :=
        skipped
      exact ⟨issued, sound.silent _ (by rw [same]; exact books) wired (by rw [same]) rfl,
        le_rfl, by omega⟩

theorem sound_empty : Sound 0 {} := by
  refine ⟨books_empty, ?_, fun _ _ => rfl, ?_⟩
  · constructor <;> simp [queueOf]
  · simp

end Soundness

end World

end TwitterClone
