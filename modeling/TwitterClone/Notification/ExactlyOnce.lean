import TwitterClone.Notification.Delivery

/-! Exactly-once delivery. A notification waits in a follower's pending queue
until one step hands it to the sessions the follower has open then. -/
namespace TwitterClone

open Foundation NotificationManager

/-- The parts of a notification that a follower gets to see. -/
def SameText (copy sent : Notification) : Prop :=
  copy.id = sent.id ∧ copy.username = sent.username ∧ copy.timestamp = sent.timestamp ∧
    copy.message = sent.message

/-- The entry that stands for a notification in a pending queue. -/
def Notification.entry (sent : Notification) : PendingNotification := ⟨sent.username, sent.id⟩

namespace World

/-- The notification is recorded once for the user, stored, and in none of the
user's session queues. -/
def Pending (world : World) (user : Text) (sent : Notification) : Prop :=
  (world.manager.queueOf user).pendingQueue.count sent.entry = 1 ∧
    (∃ item ∈ world.manager.stored sent.username, SameText item sent) ∧
    ∀ queue, world.owner queue = some user → world.copies queue sent.id = []

/-- Exactly the chosen queues of the user hold the notification, each of them one
copy. -/
structure HeldBy (world : World) (chosen : QueueRef → Prop) (user : Text)
    (sent : Notification) : Prop where
  mine : ∀ queue, chosen queue → world.owner queue = some user
  once : ∀ queue, chosen queue →
    ∃ copy, world.copies queue sent.id = [copy] ∧ SameText copy sent
  others : ∀ queue, world.owner queue = some user → ¬ chosen queue →
    world.copies queue sent.id = []

/-- Some step of the run handed the notification to the sessions that the user
had open at that moment, and nothing changed that since. -/
def Delivered (before : World) (operations : List Operation) (world : World) (user : Text)
    (sent : Notification) : Prop :=
  sent.entry ∉ (world.manager.queueOf user).pendingQueue ∧
    ∃ init operation rest previous moment, operations = init ++ operation :: rest ∧
      run World.step before init = some previous ∧
      previous.step operation = some moment ∧
      run World.step moment rest = some world ∧
      previous.HeldBy (fun _ => False) user sent ∧
      (∃ queue, moment.Subscribed user queue) ∧
      moment.HeldBy (moment.Subscribed user) user sent ∧
      world.HeldBy (moment.Subscribed user) user sent

/-- The notification was neither recorded for the user nor handed to the user. -/
def Untouched (world : World) (user : Text) (sent : Notification) : Prop :=
  (∀ pending ∈ (world.manager.queueOf user).pendingQueue, pending.notificationId ≠ sent.id) ∧
    ∀ queue, world.owner queue = some user → world.copies queue sent.id = []

/-- The index of an id that was handed out already. -/
def Issued (issued : Nat) (sent : Notification) : Prop :=
  ∃ index, 1 ≤ index ∧ index ≤ issued ∧ sent.id = int32 index

/-- Whatever is stored under the id carries its text. -/
def Faithful (world : World) (sent : Notification) : Prop :=
  ∀ sender, ∀ item ∈ world.manager.stored sender, item.id = sent.id → SameText item sent

/-- The invariant while the user has an entry. -/
structure Waiting (world : World) (user : Text) (sent : Notification) : Prop where
  entry : sent.entry ∈ (world.manager.queueOf user).pendingQueue
  faithful : Faithful world sent
  unseen : ∀ queue, world.owner queue = some user → world.copies queue sent.id = []

/-- The invariant from delivery on. -/
structure Settled (world : World) (chosen : QueueRef → Prop) (user : Text)
    (sent : Notification) : Prop where
  noEntry : ∀ pending ∈ (world.manager.queueOf user).pendingQueue,
    pending.notificationId ≠ sent.id
  held : world.HeldBy chosen user sent

section Step

variable {issued : Nat} {world : World} {user : Text} {sent : Notification}

theorem Issued.next_ne (old : Issued issued sent) (sound : Sound issued world)
    (room : issued < 2 ^ 32) : int32 world.manager.nextId ≠ sent.id := by
  obtain ⟨index, positive, bound, same⟩ := old
  rw [sound.books.numbered.next, int32_uint32, same]
  exact (int32_injective (by omega) (by omega)).symm

theorem Issued.mono {later : Nat} (old : Issued issued sent) (grows : issued ≤ later) :
    Issued later sent := by
  obtain ⟨index, positive, bound, same⟩ := old
  exact ⟨index, positive, by omega, same⟩

theorem copies_apply (operation : Operation) (queue : QueueRef) (id : Int) :
    (world.apply operation).copies queue id = world.copies queue id ++
      (received (world.manager.call operation).inserted queue).filter (·.id = id) :=
  List.filter_append ..

/-- An owner stays the owner. -/
theorem owner_apply {operation : Operation} (admissible : world.Admissible operation)
    {queue : QueueRef} (owned : world.owner queue = some user) :
    (world.apply operation).owner queue = some user := by
  cases operation with
  | subscribe username id session =>
    have different : queue ≠ session := by
      intro same
      rw [same, admissible.2.1] at owned
      cases owned
    show (if queue = session then some username else world.owner queue) = _
    rw [if_neg different, owned]
  | _ => exact owned

theorem owner_before {operation : Operation} (admissible : world.Admissible operation)
    {queue : QueueRef} (owned : (world.apply operation).owner queue = some user) :
    world.owner queue = some user ∨ world.owner queue = none := by
  cases operation with
  | subscribe username id session =>
    change (if queue = session then some username else world.owner queue) = some user at owned
    split at owned
    next same =>
      rw [same]
      exact Or.inr admissible.2.1
    next => exact Or.inl owned
  | _ => exact Or.inl owned

theorem copies_of_unowned (sound : Sound issued world) {queue : QueueRef}
    (unowned : world.owner queue = none) (id : Int) : world.copies queue id = [] := by
  simp [copies, sound.unowned queue unowned]

/-- Only a new session of the user whose backlog has the id brings new copies
of it to the user's queues. -/
theorem copies_kept (sound : Sound issued world) (old : Issued issued sent)
    {operation : Operation} (admissible : world.Admissible operation)
    (room : operation.isSend = true → issued < 2 ^ 32) {queue : QueueRef}
    (owned : (world.apply operation).owner queue = some user)
    (quiet : ∀ id session, operation = .subscribe user id session →
      ∀ pending ∈ (world.manager.queueOf user).pendingQueue, pending.notificationId ≠ sent.id) :
    (world.apply operation).copies queue sent.id = world.copies queue sent.id := by
  rw [copies_apply, List.append_right_eq_self, List.filter_eq_nil_iff]
  intro notification member
  cases operation with
  | loadUsers usernames => cases member
  | unsubscribe username id => cases member
  | send notification followers =>
    by_cases sender : notification.username ∈ world.manager.notifications
    · obtain ⟨distinct, registered, counted⟩ := admissible.1
      have effect :=
        send_spec world.manager notification followers sender registered distinct counted
      change _ ∈ received (world.manager.send notification followers).inserted queue at member
      rw [sound.wired.received_send distinct effect queue user (sound.wired.only_owner owned)]
        at member
      split at member
      next =>
        rw [List.mem_singleton.mp member]
        exact fun same => old.next_ne sound (room rfl) (of_decide_eq_true same)
      next => cases member
    · change _ ∈ received (world.manager.send notification followers).inserted queue at member
      rw [send_unregistered world.manager notification followers sender] at member
      cases member
  | subscribe username id session =>
    have after := sound.wired.subscribe sound.books.ledger username id session admissible
    rw [sound.wired.received_subscribe sound.books.ledger username id session queue admissible]
      at member
    split at member
    next subscribed =>
      have same := after.only_owner owned username subscribed
      subst same
      obtain ⟨pending, inside, found⟩ := List.mem_filterMap.mp member
      have different := quiet id session rfl pending inside
      rw [← (resolve_spec found).2] at different
      simpa using different
    next => cases member

/-- A pending queue only gains the id that comes next. -/
theorem mem_pendingQueue_apply (sound : Sound issued world) {operation : Operation}
    (admissible : world.Admissible operation) {pending : PendingNotification}
    (member : pending ∈ ((world.apply operation).manager.queueOf user).pendingQueue) :
    pending ∈ (world.manager.queueOf user).pendingQueue ∨
      operation.isSend = true ∧ pending.notificationId = int32 world.manager.nextId := by
  cases operation with
  | loadUsers usernames =>
    change pending ∈ ((world.manager.loadUsers usernames).manager.queueOf user).pendingQueue
      at member
    rw [queueOf_loadUsers] at member
    exact Or.inl member
  | unsubscribe username id =>
    change pending ∈ ((world.manager.unsubscribe username id).manager.queueOf user).pendingQueue
      at member
    rw [queueOf_unsubscribe] at member
    split at member
    next same => exact Or.inl (same ▸ member)
    next => exact Or.inl member
  | subscribe username id session =>
    change pending ∈ ((world.manager.subscribe username id session).manager.queueOf
      user).pendingQueue at member
    rw [(subscribe_spec sound.books.ledger username id session).queues] at member
    split at member
    next => cases member
    next => exact Or.inl member
  | send notification followers =>
    change pending ∈ ((world.manager.send notification followers).manager.queueOf
      user).pendingQueue at member
    by_cases sender : notification.username ∈ world.manager.notifications
    · obtain ⟨distinct, registered, counted⟩ := admissible.1
      have effect :=
        send_spec world.manager notification followers sender registered distinct counted
      rcases effect.mem_pendingQueue.mp member with before | ⟨_, new⟩
      · exact Or.inl before
      · exact Or.inr ⟨rfl, by rw [new]; rfl⟩
    · rw [send_unregistered world.manager notification followers sender] at member
      exact Or.inl member

/-- Only a new session of the user empties the user's pending queue. -/
theorem entry_kept (sound : Sound issued world) {operation : Operation}
    (admissible : world.Admissible operation)
    (offline : ∀ id session, operation ≠ .subscribe user id session)
    {pending : PendingNotification}
    (member : pending ∈ (world.manager.queueOf user).pendingQueue) :
    pending ∈ ((world.apply operation).manager.queueOf user).pendingQueue := by
  cases operation with
  | loadUsers usernames =>
    show pending ∈ ((world.manager.loadUsers usernames).manager.queueOf user).pendingQueue
    rw [queueOf_loadUsers]
    exact member
  | unsubscribe username id =>
    show pending ∈ ((world.manager.unsubscribe username id).manager.queueOf user).pendingQueue
    rw [queueOf_unsubscribe]
    split
    next same => exact same ▸ member
    next => exact member
  | subscribe username id session =>
    have different : user ≠ username := by
      intro same
      exact offline id session (same ▸ rfl)
    show pending ∈ ((world.manager.subscribe username id session).manager.queueOf
      user).pendingQueue
    rw [(subscribe_spec sound.books.ledger username id session).queues, if_neg different]
    exact member
  | send notification followers =>
    show pending ∈ ((world.manager.send notification followers).manager.queueOf user).pendingQueue
    by_cases sender : notification.username ∈ world.manager.notifications
    · obtain ⟨distinct, registered, counted⟩ := admissible.1
      have effect :=
        send_spec world.manager notification followers sender registered distinct counted
      exact effect.mem_pendingQueue.mpr (Or.inl member)
    · rw [send_unregistered world.manager notification followers sender]
      exact member

/-- Stored notifications keep their text; a new one has the id that comes next. -/
theorem mem_stored_apply (sound : Sound issued world) {operation : Operation}
    (admissible : world.Admissible operation) {sender : Text} {item : Notification}
    (member : item ∈ (world.apply operation).manager.stored sender) :
    (∃ older ∈ world.manager.stored sender, SameText item older) ∨
      operation.isSend = true ∧ item.id = int32 world.manager.nextId := by
  cases operation with
  | loadUsers usernames =>
    change item ∈ (world.manager.loadUsers usernames).manager.stored sender at member
    rw [stored_loadUsers] at member
    exact Or.inl ⟨item, member, rfl, rfl, rfl, rfl⟩
  | unsubscribe username id =>
    change item ∈ (world.manager.unsubscribe username id).manager.stored sender at member
    rw [stored_unsubscribe] at member
    exact Or.inl ⟨item, member, rfl, rfl, rfl, rfl⟩
  | subscribe username id session =>
    change item ∈ (world.manager.subscribe username id session).manager.stored sender at member
    rw [(subscribe_spec sound.books.ledger username id session).stored] at member
    obtain ⟨older, stored, settled⟩ := List.mem_filterMap.mp member
    refine Or.inl ⟨older, stored, ?_⟩
    rw [(settle_some settled).1]
    exact ⟨rfl, rfl, rfl, rfl⟩
  | send notification followers =>
    change item ∈ (world.manager.send notification followers).manager.stored sender at member
    by_cases registered : notification.username ∈ world.manager.notifications
    · obtain ⟨distinct, known, counted⟩ := admissible.1
      have effect :=
        send_spec world.manager notification followers registered known distinct counted
      rcases effect.mem_stored.mp member with old | ⟨_, _, new⟩
      · exact Or.inl ⟨item, old, rfl, rfl, rfl, rfl⟩
      · exact Or.inr ⟨rfl, by rw [new]; rfl⟩
    · rw [send_unregistered world.manager notification followers registered] at member
      exact Or.inl ⟨item, member, rfl, rfl, rfl, rfl⟩

theorem Faithful.apply (faithful : Faithful world sent) (sound : Sound issued world)
    (old : Issued issued sent) {operation : Operation} (admissible : world.Admissible operation)
    (room : operation.isSend = true → issued < 2 ^ 32) :
    Faithful (world.apply operation) sent := by
  intro sender item member same
  rcases mem_stored_apply sound admissible member with ⟨older, stored, text⟩ | ⟨isSend, new⟩
  · obtain ⟨id, username, timestamp, message⟩ := text
    obtain ⟨id', username', timestamp', message'⟩ :=
      faithful sender older stored (id.symm.trans same)
    exact ⟨same, username.trans username', timestamp.trans timestamp', message.trans message'⟩
  · exact absurd (new.symm.trans same) (old.next_ne sound (room isSend))

theorem noEntry_apply (sound : Sound issued world) (old : Issued issued sent)
    {operation : Operation} (admissible : world.Admissible operation)
    (room : operation.isSend = true → issued < 2 ^ 32)
    (noEntry : ∀ pending ∈ (world.manager.queueOf user).pendingQueue,
      pending.notificationId ≠ sent.id) :
    ∀ pending ∈ ((world.apply operation).manager.queueOf user).pendingQueue,
      pending.notificationId ≠ sent.id := by
  intro pending member
  rcases mem_pendingQueue_apply sound admissible member with before | ⟨isSend, new⟩
  · exact noEntry pending before
  · rw [new]
    exact old.next_ne sound (room isSend)

/-- What was delivered stays as it was delivered. -/
theorem Settled.apply {chosen : QueueRef → Prop} (settled : Settled world chosen user sent)
    (sound : Sound issued world) (old : Issued issued sent) {operation : Operation}
    (admissible : world.Admissible operation)
    (room : operation.isSend = true → issued < 2 ^ 32) :
    Settled (world.apply operation) chosen user sent := by
  have kept : ∀ queue, (world.apply operation).owner queue = some user →
      (world.apply operation).copies queue sent.id = world.copies queue sent.id := by
    intro queue owned
    exact copies_kept sound old admissible room owned fun _ _ _ => settled.noEntry
  have mine : ∀ queue, chosen queue → (world.apply operation).owner queue = some user :=
    fun queue inside => owner_apply admissible (settled.held.mine queue inside)
  refine ⟨noEntry_apply sound old admissible room settled.noEntry, mine, ?_, ?_⟩
  · intro queue inside
    rw [kept queue (mine queue inside)]
    exact settled.held.once queue inside
  · intro queue owned outside
    rw [kept queue owned]
    rcases owner_before admissible owned with before | unowned
    · exact settled.held.others queue before outside
    · exact copies_of_unowned sound unowned sent.id

/-- Without a new session of the user the notification goes on waiting. -/
theorem Waiting.apply (waiting : Waiting world user sent) (sound : Sound issued world)
    (old : Issued issued sent) {operation : Operation} (admissible : world.Admissible operation)
    (room : operation.isSend = true → issued < 2 ^ 32)
    (offline : ∀ id session, operation ≠ .subscribe user id session) :
    Waiting (world.apply operation) user sent := by
  refine ⟨entry_kept sound admissible offline waiting.entry,
    waiting.faithful.apply sound old admissible room, ?_⟩
  intro queue owned
  rw [copies_kept sound old admissible room owned fun id session same =>
    absurd same (offline id session)]
  rcases owner_before admissible owned with before | unowned
  · exact waiting.unseen queue before
  · exact copies_of_unowned sound unowned sent.id

theorem filter_resolve (manager : NotificationManager) (backlog : List PendingNotification)
    (id : Int) :
    (backlog.filterMap manager.resolve).filter (·.id = id) =
      (backlog.filter (·.notificationId = id)).filterMap manager.resolve := by
  rw [List.filter_filterMap, List.filterMap_filter]
  apply List.filterMap_congr
  intro pending _
  cases found : manager.resolve pending with
  | none => simp
  | some notification =>
    have same := (resolve_spec found).2
    by_cases here : notification.id = id
    · simp [here, ← same]
    · simp [here, ← same]

/-- The backlog holds one entry with the id, and it resolves to the text. -/
theorem Waiting.resolved (waiting : Waiting world user sent) (sound : Sound issued world) :
    ∃ copy, SameText copy sent ∧
      ((world.manager.queueOf user).pendingQueue.filterMap world.manager.resolve).filter
        (·.id = sent.id) = [copy] := by
  have ledger := sound.books.ledger
  obtain ⟨copy, stored, same, found⟩ := ledger.resolve_eq waiting.entry
  have text := waiting.faithful _ copy stored same
  have entries : (world.manager.queueOf user).pendingQueue.filter
      (·.notificationId = sent.id) = [sent.entry] := by
    apply List.perm_singleton.mp
    apply (List.perm_ext_iff_of_nodup ((ledger.once user).filter _) (List.nodup_singleton _)).mpr
    intro pending
    rw [List.mem_filter, List.mem_singleton]
    constructor
    · rintro ⟨member, matching⟩
      obtain ⟨item, itemStored, itemSame⟩ := ledger.resolved user pending member
      have equal : pending.notificationId = sent.id := by simpa using matching
      have sender := sound.books.separate pending.sender sent.username item itemStored copy stored
        (itemSame.trans (equal.trans same.symm))
      cases pending
      exact congrArg₂ PendingNotification.mk sender equal
    · intro here
      subst here
      exact ⟨waiting.entry, by simp [Notification.entry]⟩
  refine ⟨copy, text, ?_⟩
  rw [filter_resolve, entries]
  simp [found]

/-- A new session of the user is handed the notification. -/
theorem Waiting.delivered (waiting : Waiting world user sent) (sound : Sound issued world)
    {id : Nat} {session : QueueRef} (admissible : world.Admissible (.subscribe user id session)) :
    Settled (world.apply (.subscribe user id session))
      ((world.apply (.subscribe user id session)).Subscribed user) user sent := by
  have ledger := sound.books.ledger
  have after := sound.wired.subscribe ledger user id session admissible
  have fresh : ∀ queue, (world.apply (.subscribe user id session)).owner queue = some user →
      world.copies queue sent.id = [] := by
    intro queue owned
    rcases owner_before admissible owned with before | unowned
    · exact waiting.unseen queue before
    · exact copies_of_unowned sound unowned sent.id
  obtain ⟨copy, text, handed⟩ := waiting.resolved sound
  refine ⟨?_, fun queue subscribed => after.owner_of_subscribed subscribed, ?_, ?_⟩
  · have emptied : ((world.manager.subscribe user id session).manager.queueOf user).pendingQueue =
        [] := by
      rw [(subscribe_spec ledger user id session).queues, if_pos rfl]
    intro pending member
    change pending ∈ ((world.manager.subscribe user id session).manager.queueOf
      user).pendingQueue at member
    rw [emptied] at member
    cases member
  · intro queue subscribed
    refine ⟨copy, ?_, text⟩
    rw [copies_apply, fresh queue (after.owner_of_subscribed subscribed), List.nil_append,
      sound.wired.received_subscribe ledger user id session queue admissible, if_pos subscribed,
      handed]
  · intro queue owned closed
    rw [copies_apply, fresh queue owned, List.nil_append,
      sound.wired.received_subscribe ledger user id session queue admissible, if_neg closed]
    rfl

end Step

section FirstStep

variable {issued : Nat} {world : World} {user : Text} {notification : Notification}
  {followers : List Text}

/-- No queue holds a copy under the id that comes next. -/
theorem copies_unissued (sound : Sound issued world) (room : issued < 2 ^ 32)
    (queue : QueueRef) : world.copies queue (int32 world.manager.nextId) = [] := by
  rw [copies, List.filter_eq_nil_iff]
  intro item member
  obtain ⟨index, positive, bound, same⟩ := sound.past queue item member
  rw [decide_eq_true_eq, sound.books.numbered.next, int32_uint32, same]
  exact int32_injective (by omega) (by omega)

theorem faithful_send (sound : Sound issued world) (room : issued < 2 ^ 32)
    (effect : Sent world.manager notification followers
      (world.manager.send notification followers)) :
    Faithful (world.apply (.send notification followers)) (world.manager.issue notification) := by
  intro sender item member same
  rcases effect.mem_stored.mp member with old | ⟨_, _, new⟩
  · exact absurd same (sound.books.numbered.fresh room sender item old)
  · rw [new]
    exact ⟨rfl, rfl, rfl, rfl⟩

/-- An offline follower is left waiting. -/
theorem waiting_send (sound : Sound issued world) (room : issued < 2 ^ 32)
    (admissible : world.Admissible (.send notification followers))
    (effect : Sent world.manager notification followers
      (world.manager.send notification followers))
    (offline : user ∈ world.manager.offlineAmong followers) :
    Waiting (world.apply (.send notification followers)) user
      (world.manager.issue notification) := by
  refine ⟨effect.mem_pendingQueue.mpr (Or.inr ⟨offline, rfl⟩),
    faithful_send sound room effect, ?_⟩
  intro queue owned
  have silent : ¬ world.Subscribed user queue := by
    intro subscribed
    have online := (sound.wired.online user).mpr ⟨queue, subscribed⟩
    rw [(mem_offlineAmong.mp offline).2] at online
    cases online
  have handed := sound.wired.received_send admissible.1.1 effect queue user
    (sound.wired.only_owner owned)
  rw [copies_apply, show (world.manager.issue notification).id = int32 world.manager.nextId
    from rfl, copies_unissued sound room, List.nil_append]
  show List.filter _ (received (world.manager.send notification followers).inserted queue) = []
  rw [handed, if_neg fun both => silent both.2]
  rfl

/-- Everyone else is settled at once: an online follower with one copy for each
open session, a user who does not follow with none. -/
theorem settled_send (sound : Sound issued world) (room : issued < 2 ^ 32)
    (admissible : world.Admissible (.send notification followers))
    (effect : Sent world.manager notification followers
      (world.manager.send notification followers))
    (notOffline : user ∉ world.manager.offlineAmong followers) :
    Settled (world.apply (.send notification followers))
      (fun queue => user ∈ followers ∧ world.Subscribed user queue) user
      (world.manager.issue notification) := by
  have ledger := sound.books.ledger
  have copies : ∀ queue, world.owner queue = some user →
      (world.apply (.send notification followers)).copies queue
        (world.manager.issue notification).id =
        if user ∈ followers ∧ world.Subscribed user queue
        then [world.manager.issue notification] else [] := by
    intro queue owned
    have handed := sound.wired.received_send admissible.1.1 effect queue user
      (sound.wired.only_owner owned)
    rw [copies_apply, show (world.manager.issue notification).id = int32 world.manager.nextId
      from rfl, copies_unissued sound room, List.nil_append]
    show List.filter _ (received (world.manager.send notification followers).inserted queue) = _
    rw [handed]
    split <;> simp [issue]
  refine ⟨?_, ?_, ?_, ?_⟩
  · intro pending member same
    rcases effect.mem_pendingQueue.mp member with old | ⟨offline, _⟩
    · obtain ⟨item, stored, matching⟩ := ledger.resolved user pending old
      exact sound.books.numbered.fresh room _ item stored (matching.trans same)
    · exact notOffline offline
  · rintro queue ⟨_, subscribed⟩
    exact sound.wired.owner_of_subscribed subscribed
  · intro queue both
    rw [copies queue (sound.wired.owner_of_subscribed both.2), if_pos both]
    exact ⟨_, rfl, rfl, rfl, rfl, rfl⟩
  · intro queue owned neither
    rw [copies queue owned, if_neg neither]

end FirstStep

section Runs

variable {issued : Nat} {world final : World} {user : Text} {sent : Notification}

/-- A property kept by every sound step is kept by every run that hands out at
most `2 ^ 32` ids. -/
theorem run_kept (property : Nat → World → Prop)
    (kept : ∀ issued later world operation, Sound issued world → world.Admissible operation →
      (operation.isSend = true → issued < 2 ^ 32) → issued ≤ later →
      property issued world → property later (world.apply operation))
    {operations : List Operation} (sound : Sound issued world)
    (few : issued + sends operations ≤ 2 ^ 32)
    (reached : run World.step world operations = some final) (holds : property issued world) :
    ∃ last, Sound last final ∧ last ≤ issued + sends operations ∧ property last final := by
  have step : ∀ issued world operation next, Sound issued world ∧ property issued world →
      World.step world operation = some next → issued ≤ 2 ^ 32 →
      (operation.isSend = true → issued < 2 ^ 32) →
      ∃ later, (Sound later next ∧ property later next) ∧
        later ≤ issued + if operation.isSend then 1 else 0 := by
    rintro issued world operation next ⟨sound, holds⟩ taken - room
    obtain ⟨admissible, rfl⟩ := step_eq_some.mp taken
    obtain ⟨later, soundNext, grows, bound⟩ := sound.apply operation admissible room
    exact ⟨later, ⟨soundNext, kept issued later world operation sound admissible room grows holds⟩,
      bound⟩
  obtain ⟨last, bound, soundLast, holdsLast⟩ := run_counted step ⟨sound, holds⟩ few reached
  exact ⟨last, soundLast, bound, holdsLast⟩

theorem run_settled {chosen : QueueRef → Prop} {operations : List Operation}
    (settled : Settled world chosen user sent) (sound : Sound issued world)
    (old : Issued issued sent) (few : issued + sends operations ≤ 2 ^ 32)
    (reached : run World.step world operations = some final) :
    Settled final chosen user sent := by
  obtain ⟨last, _, _, _, kept⟩ := run_kept
    (fun issued world => Issued issued sent ∧ Settled world chosen user sent)
    (fun issued later world operation sound admissible room grows ⟨old, settled⟩ =>
      ⟨old.mono grows, settled.apply sound old admissible room⟩) sound few reached ⟨old, settled⟩
  exact kept

theorem Waiting.pending {later : Nat} (waiting : Waiting world user sent)
    (sound : Sound later world) : world.Pending user sent := by
  refine ⟨List.count_eq_one_of_mem (sound.books.ledger.once user) waiting.entry, ?_,
    waiting.unseen⟩
  obtain ⟨item, stored, same⟩ := sound.books.ledger.resolved user _ waiting.entry
  exact ⟨item, stored, waiting.faithful _ item stored same⟩

theorem Settled.delivered {before previous moment : World} (init : List Operation)
    {rest : List Operation} {operation : Operation}
    (settled : Settled final (moment.Subscribed user) user sent)
    (first : run World.step before init = some previous)
    (taken : previous.step operation = some moment)
    (reached : run World.step moment rest = some final)
    (unseen : ∀ queue, previous.owner queue = some user → previous.copies queue sent.id = [])
    (online : ∃ queue, moment.Subscribed user queue)
    (there : moment.HeldBy (moment.Subscribed user) user sent) :
    Delivered before (init ++ operation :: rest) final user sent := by
  refine ⟨fun member => settled.noEntry _ member rfl, init, operation, rest, previous, moment,
    rfl, first, taken, reached, ⟨fun _ => False.elim, fun _ => False.elim, ?_⟩, online, there,
    settled.held⟩
  intro queue owned _
  exact unseen queue owned

/-- A waiting notification waits to the end of the run or is delivered by the
step that opens the user's next session. -/
theorem run_waiting {before : World} (past : List Operation) {operations : List Operation}
    (waiting : Waiting world user sent) (sound : Sound issued world)
    (old : Issued issued sent) (few : issued + sends operations ≤ 2 ^ 32)
    (earlier : run World.step before past = some world)
    (reached : run World.step world operations = some final) :
    final.Pending user sent ∨ Delivered before (past ++ operations) final user sent := by
  induction operations generalizing issued world past with
  | nil =>
    have same : world = final := Option.some.inj reached
    subst same
    exact Or.inl (waiting.pending sound)
  | cons operation rest ih =>
    obtain ⟨next, taken, after⟩ := run_cons.mp reached
    obtain ⟨admissible, same⟩ := step_eq_some.mp taken
    simp only [sends, List.countP_cons] at few
    have room : operation.isSend = true → issued < 2 ^ 32 := by
      intro isSend
      simp only [isSend, ↓reduceIte] at few
      omega
    obtain ⟨later, soundNext, grows, bound⟩ := sound.apply operation admissible room
    have fewLater : later + sends rest ≤ 2 ^ 32 := by
      simp only [sends]
      omega
    by_cases opens : ∃ id session, operation = .subscribe user id session
    · obtain ⟨id, session, shape⟩ := opens
      subst same shape
      have settled := waiting.delivered sound admissible
      right
      exact (run_settled settled soundNext (old.mono grows) fewLater after).delivered past earlier
        taken after waiting.unseen ⟨session, ⟨user, id, session⟩, by simp [apply, openSessions]⟩
        settled.held
    · have offline : ∀ id session, operation ≠ .subscribe user id session :=
        fun id session shape => opens ⟨id, session, shape⟩
      have extended : run World.step before (past ++ [operation]) = some next :=
        run_append.mpr ⟨world, earlier, run_cons.mpr ⟨next, taken, rfl⟩⟩
      subst same
      have onward := ih (past ++ [operation]) (waiting.apply sound old admissible room offline)
        soundNext (old.mono grows) fewLater extended after
      rwa [List.append_assoc] at onward

end Runs

end World

/-- Exactly-once delivery: what a registered sender sends waits for a follower or
has been handed, once, to the sessions the follower had open at one moment. Nobody
else gets it. -/
theorem exactlyOnce_of_run (earlier later : List Operation) (notification : Notification)
    (followers : List Text) (before world : World) (user : Text)
    (reached : run World.step {} earlier = some before)
    (after : run World.step before (.send notification followers :: later) = some world)
    (few : sends (earlier ++ .send notification followers :: later) ≤ 2 ^ 32)
    (sender : notification.username ∈ before.manager.notifications) :
    (user ∈ followers →
      Xor (world.Pending user (before.manager.issue notification))
        (World.Delivered before (.send notification followers :: later) world user
          (before.manager.issue notification))) ∧
      (user ∉ followers → world.Untouched user (before.manager.issue notification)) := by
  have counted : sends (earlier ++ .send notification followers :: later) =
      sends earlier + (sends later + 1) := by
    rw [sends, List.countP_append]
    exact congrArg (sends earlier + ·) (List.countP_cons_of_pos rfl)
  obtain ⟨issued, sound, bound, _⟩ := World.run_kept (fun _ _ => True)
    (fun _ _ _ _ _ _ _ _ holds => holds) World.sound_empty (by omega) reached trivial
  obtain ⟨next, taken, onward⟩ := run_cons.mp after
  obtain ⟨admissible, same⟩ := World.step_eq_some.mp taken
  have room : issued < 2 ^ 32 := by omega
  have fewLater : issued + 1 + sends later ≤ 2 ^ 32 := by omega
  have soundNext := sound.send room admissible sender
  obtain ⟨distinct, registered, count⟩ := admissible.1
  have effect := send_spec before.manager notification followers sender registered distinct count
  have old : World.Issued (issued + 1) (before.manager.issue notification) := by
    refine ⟨issued + 1, by omega, le_rfl, ?_⟩
    show int32 before.manager.nextId = _
    rw [sound.books.numbered.next, int32_uint32]
  subst same
  constructor
  · intro follows
    have either : world.Pending user (before.manager.issue notification) ∨
        World.Delivered before (.send notification followers :: later) world user
          (before.manager.issue notification) := by
      by_cases offline : user ∈ before.manager.offlineAmong followers
      · have waiting := World.waiting_send sound room admissible effect offline
        exact World.run_waiting [.send notification followers] waiting soundNext old
          fewLater (run_cons.mpr ⟨_, taken, rfl⟩) onward
      · have settled := World.settled_send sound room admissible effect offline
        have online : ∃ queue, before.Subscribed user queue := by
          apply (sound.wired.online user).mp
          by_contra silent
          exact offline (mem_offlineAmong.mpr ⟨follows, by simpa [Offline] using silent⟩)
        have chosen : (fun queue => user ∈ followers ∧ before.Subscribed user queue) =
            (before.apply (.send notification followers)).Subscribed user := by
          funext queue
          exact propext (and_iff_right follows)
        rw [chosen] at settled
        right
        exact (World.run_settled settled soundNext old fewLater onward).delivered [] rfl
          taken onward
          (fun queue _ => World.copies_unissued sound room queue) online settled.held
    rcases either with waits | handed
    · exact Or.inl ⟨waits, fun both => by
        have present := List.count_pos_iff.mp (by rw [waits.1]; exact Nat.one_pos)
        exact both.1 present⟩
    · exact Or.inr ⟨handed, fun both => by
        have present := List.count_pos_iff.mp (by rw [both.1]; exact Nat.one_pos)
        exact handed.1 present⟩
  · intro stranger
    have notOffline : user ∉ before.manager.offlineAmong followers :=
      fun offline => stranger (mem_offlineAmong.mp offline).1
    have settled := World.run_settled (World.settled_send sound room admissible effect notOffline)
      soundNext old fewLater onward
    exact ⟨settled.noEntry, fun queue owned => settled.held.others queue owned
      fun both => stranger both.1⟩

/-- A send to a follower with a session and to one without. -/
def sampleSend : Operation := .send ⟨-1, 5, ['a'], 2, ['h', 'i']⟩ [['b'], ['e']]

/-- Before it, one of the two goes online. -/
def beforeSample : List Operation := [.loadUsers [['a'], ['b'], ['e']], .subscribe ['b'] 7 0]

/-- After it, the other one does. -/
def afterSample : List Operation := [.subscribe ['e'] 8 1]

theorem exactlyOnce_of_sampleRun :
    ∃ before world, run World.step {} beforeSample = some before ∧
      run World.step before (sampleSend :: afterSample) = some world ∧
      (['e'] ∈ [['b'], ['e']] →
        Xor (world.Pending ['e'] (before.manager.issue ⟨-1, 5, ['a'], 2, ['h', 'i']⟩))
          (World.Delivered before (sampleSend :: afterSample) world ['e']
            (before.manager.issue ⟨-1, 5, ['a'], 2, ['h', 'i']⟩))) :=
  ⟨_, _, rfl, rfl,
    (exactlyOnce_of_run beforeSample afterSample _ _ _ _ ['e'] rfl rfl (by decide) (by decide)).1⟩

/-- Two registered users without sessions, and some next id. -/
def twoUsers (nextId : Nat) : World where
  manager :=
    { notifications := ⟨[(['a'], []), (['f'], [])], by decide⟩
      pendingQueues := ⟨[(['a'], {}), (['f'], {})], by decide⟩
      nextId }

/-- A tweet of a user whom nobody follows. -/
def unread : Operation := .send ⟨-1, 5, ['a'], 0, ['h', 'i']⟩ []

theorem step_unread (nextId : Nat) :
    (twoUsers nextId).step unread = some (twoUsers (uint32 (nextId + 1))) := by
  rfl

/-- Unread tweets leave nothing but a counter that wraps around. -/
theorem run_unread (count nextId : Nat) (small : nextId < 2 ^ 32) :
    run World.step (twoUsers nextId) (List.replicate count unread) =
      some (twoUsers (uint32 (nextId + count))) := by
  rw [run_replicate step_unread count nextId, uint32_iterate small]

/-- A tweet that a user without a session has to wait for. -/
def awaited : Operation := .send ⟨-1, 6, ['a'], 1, ['h', 'o']⟩ [['f']]

/-- Without the bound the id of an unread tweet is handed out again, and a user
who did not follow has an entry for it. -/
theorem not_exactlyOnce_unbounded :
    ¬ ∀ (earlier later : List Operation) (notification : Notification) (followers : List Text)
      (before world : World) (user : Text),
      run World.step {} earlier = some before →
      run World.step before (.send notification followers :: later) = some world →
      notification.username ∈ before.manager.notifications →
      (user ∈ followers →
        Xor (world.Pending user (before.manager.issue notification))
          (World.Delivered before (.send notification followers :: later) world user
            (before.manager.issue notification))) ∧
        (user ∉ followers → world.Untouched user (before.manager.issue notification)) := by
  intro claim
  have loaded : run World.step {} [.loadUsers [['a'], ['f']]] = some (twoUsers 1) := rfl
  have wrapped : uint32 (2 + (2 ^ 32 - 1)) = 1 := by decide
  have last : run World.step (twoUsers 1) [awaited] = some ((twoUsers 1).apply awaited) := rfl
  have reached : run World.step (twoUsers 1)
      (unread :: (List.replicate (2 ^ 32 - 1) unread ++ [awaited])) =
        some ((twoUsers 1).apply awaited) := by
    refine run_cons.mpr ⟨twoUsers 2, rfl, run_append.mpr ⟨twoUsers 1, ?_, last⟩⟩
    rw [run_unread _ _ (by decide), wrapped]
  have untouched := (claim _ _ _ _ _ _ ['f'] loaded reached (by decide)).2 (by decide)
  exact untouched.1 ⟨['a'], 1⟩ (by decide) rfl

end TwitterClone
