import TwitterClone.Foundation.Mailbox
import TwitterClone.Foundation.Simulation
import TwitterClone.Notification.Commuting

/-! What the manager is for: it keeps a mailbox for every user. Ids, counters, stored
notifications and pending entries are how it does that. -/
namespace TwitterClone

open Foundation NotificationManager

abbrev Shown := Int × Text × Nat × Text

abbrev Boxes := Mailboxes Text QueueRef Shown

namespace World

/-- The texts behind the entries that wait for the user. -/
def backlog (manager : NotificationManager) (user : Text) : List (Option Shown) :=
  (manager.queueOf user).pendingQueue.map fun pending =>
    (manager.resolve pending).map Notification.shown

/-- A call as the mailboxes see it. A tweet of somebody who is not registered is none. -/
def mail (world : World) : Operation → List (MailAction Text QueueRef Shown)
  | .loadUsers usernames => [.enroll usernames]
  | .subscribe username _ queue => [.openBox username queue]
  | .unsubscribe username id => [.close {queue | ∃ session ∈ world.sessions,
      (session.user = username ∧ session.id = id) ∧ session.queue = queue}]
  | .send notification followers =>
    if notification.username ∈ world.manager.notifications then
      [.post (world.manager.issue notification).shown followers]
    else []

structure Matches (world : World) (boxes : Boxes) : Prop where
  members : ∀ user, user ∈ world.manager.pendingQueues ↔ user ∈ boxes.members
  waiting : ∀ user, backlog world.manager user = (boxes.waiting user).map some
  user : ∀ queue, boxes.user queue = world.owner queue
  reads : ∀ queue user, boxes.Reads queue user ↔ world.Subscribed user queue
  given : ∀ queue, (world.appended queue).map Notification.shown = boxes.given queue

/-- Ids have not come round when one is handed out. -/
def Roomy (world : World) (operation : Operation) : Prop :=
  ∃ issued, Sound issued world ∧ (operation.isSend = true → issued < 2 ^ 32)

theorem matches_empty : Matches {} {} where
  members user := by simp
  waiting _ := rfl
  user _ := rfl
  reads queue user := by simp [Mailboxes.Reads, Subscribed]
  given _ := rfl

theorem mem_pendingQueues_loadUsers (manager : NotificationManager) (usernames : List Text)
    (user : Text) : user ∈ (manager.loadUsers usernames).manager.pendingQueues ↔
      user ∈ manager.pendingQueues ∨ user ∈ usernames := by
  simp only [loadUsers]
  induction usernames generalizing manager with
  | nil => simp
  | cons username rest ih =>
    rw [List.foldl_cons, ih, List.mem_cons, ← or_assoc]
    refine or_congr_left ?_
    simp [register, or_comm]

section Steps

variable {issued : Nat} {world : World} {boxes : Boxes}

theorem backlog_congr {manager next : NotificationManager} {user : Text}
    (queue : (next.queueOf user).pendingQueue = (manager.queueOf user).pendingQueue)
    (resolved : ∀ pending ∈ (manager.queueOf user).pendingQueue,
      (next.resolve pending).map Notification.shown =
        (manager.resolve pending).map Notification.shown) :
    backlog next user = backlog manager user := by
  rw [backlog, backlog, queue]
  exact List.map_congr_left resolved

theorem Matches.online (holds : Matches world boxes) (wired : Wired world) (user : Text) :
    boxes.Online user ↔ (world.manager.queueOf user).hasSubscribers = true := by
  rw [wired.online, Mailboxes.Online]
  exact exists_congr fun queue => holds.reads queue user

/-- The texts that a new session is handed. -/
theorem Matches.shown_pending (holds : Matches world boxes) (user : Text) :
    ((world.manager.queueOf user).pendingQueue.filterMap world.manager.resolve).map
        Notification.shown = boxes.waiting user := by
  have waiting := congrArg (List.filterMap id) (holds.waiting user)
  rw [List.filterMap_map, backlog, List.filterMap_map] at waiting
  rw [List.map_filterMap]
  exact waiting.trans (List.filterMap_some ..)

theorem Matches.loadUsers (holds : Matches world boxes) (usernames : List Text) :
    Matches (world.apply (.loadUsers usernames))
      { boxes with members := boxes.members ∪ {user | user ∈ usernames} } where
  members user := by
    rw [Set.mem_union, ← holds.members]
    exact mem_pendingQueues_loadUsers world.manager usernames user
  waiting user := by
    refine (backlog_congr ?_ ?_).trans (holds.waiting user)
    · exact congrArg NotificationQueue.pendingQueue (queueOf_loadUsers ..)
    · intro pending _
      rw [resolve, resolve]
      exact congrArg (Option.map _ ∘ List.find? _) (stored_loadUsers ..)
  user := holds.user
  reads := holds.reads
  given queue := by
    rw [← holds.given]
    exact congrArg (List.map _) (List.append_nil _)

theorem Matches.unsubscribe (holds : Matches world boxes) (wired : Wired world) (username : Text)
    (id : Nat) :
    Matches (world.apply (.unsubscribe username id))
      { boxes with opened := boxes.opened \ {queue | ∃ session ∈ world.sessions,
        (session.user = username ∧ session.id = id) ∧ session.queue = queue} } where
  members user := by
    rw [← holds.members]
    show user ∈ (world.manager.unsubscribe username id).manager.pendingQueues ↔ _
    unfold NotificationManager.unsubscribe
    split
    next => exact mem_pendingQueues_setQueue ..
    next => rfl
  waiting user := by
    refine (backlog_congr ?_ ?_).trans (holds.waiting user)
    · show ((world.manager.unsubscribe username id).manager.queueOf user).pendingQueue = _
      rw [queueOf_unsubscribe]
      split
      next here => rw [here]; rfl
      next => rfl
    · intro pending _
      rw [resolve, resolve]
      exact congrArg (Option.map _ ∘ List.find? _) (stored_unsubscribe ..)
  user := holds.user
  reads queue user := by
    constructor
    · rintro ⟨⟨opened, kept⟩, mine⟩
      obtain ⟨session, member, reader, here⟩ := (holds.reads queue user).mp ⟨opened, mine⟩
      refine ⟨session, List.mem_filter.mpr ⟨member, ?_⟩, reader, here⟩
      rw [decide_eq_true_eq]
      exact fun gone => kept ⟨session, member, gone, here⟩
    · rintro ⟨session, member, reader, here⟩
      obtain ⟨inside, kept⟩ := List.mem_filter.mp member
      obtain ⟨opened, mine⟩ := (holds.reads queue user).mpr ⟨session, inside, reader, here⟩
      rw [decide_eq_true_eq] at kept
      refine ⟨⟨opened, ?_⟩, mine⟩
      rintro ⟨other, otherInside, gone, there⟩
      exact kept (wired.distinct other otherInside session inside (there.trans here.symm) ▸ gone)
  given queue := by
    rw [← holds.given]
    exact congrArg (List.map _) (List.append_nil _)

theorem Matches.subscribe (holds : Matches world boxes) (sound : Sound issued world)
    {username : Text} {id : Nat} {session : QueueRef}
    (admissible : world.Admissible (.subscribe username id session)) :
    Matches (world.apply (.subscribe username id session)) (boxes.openBox username session) where
  members user := by
    have subscribed := subscribe_spec sound.books.ledger username id session
    refine (subscribed.users user).trans ?_
    rw [holds.members]
    exact Set.mem_insert_iff.symm
  waiting user := by
    have subscribed := subscribe_spec sound.books.ledger username id session
    rw [Mailboxes.waiting_openBox]
    by_cases here : user = username
    · have empty : ((world.manager.subscribe username id session).manager.queueOf
          user).pendingQueue = [] := by
        rw [subscribed.queues, if_pos here]
      rw [if_pos here]
      exact congrArg (List.map _) empty
    · rw [if_neg here, ← holds.waiting user]
      refine backlog_congr ?_ fun pending waits => ?_
      · exact congrArg NotificationQueue.pendingQueue
          ((subscribed.queues user).trans (if_neg here))
      · exact shown_resolve sound.books.ledger subscribed here waits
  user queue := by
    rw [Mailboxes.user_openBox, holds.user]
    by_cases here : queue = session
    · rw [if_pos here]
      exact (if_pos here).symm
    · rw [if_neg here]
      exact (if_neg here).symm
  reads queue user := by
    have fresh : ∀ other, ¬ world.Subscribed other session := by
      intro other subscribed
      have owned := sound.wired.owner_of_subscribed subscribed
      rw [admissible.2.1] at owned
      cases owned
    have after : (world.apply (.subscribe username id session)).Subscribed user queue ↔
        world.Subscribed user queue ∨ username = user ∧ session = queue := by
      simp only [Subscribed, World.apply, openSessions, List.mem_append, List.mem_singleton,
        or_and_right, exists_or, exists_eq_left]
    have before := holds.reads queue user
    rw [Mailboxes.Reads] at before
    rw [after, Mailboxes.Reads, Mailboxes.user_openBox, ← before]
    by_cases here : queue = session
    · subst here
      have closed : ¬ (queue ∈ boxes.opened ∧ boxes.user queue = some user) :=
        fun reads => fresh user (before.mp reads)
      simp [Mailboxes.openBox, closed]
    · simp [Mailboxes.openBox, here, Ne.symm here]
  given queue := by
    have received := sound.wired.received_subscribe sound.books.ledger username id session queue
      admissible
    have wired := sound.wired.subscribe sound.books.ledger username id session admissible
    have appended : (world.apply (.subscribe username id session)).appended queue =
        world.appended queue ++ _ := congrArg (world.appended queue ++ ·) received
    rw [appended, List.map_append, Mailboxes.given_openBox, holds.given]
    by_cases here : queue = session
    · subst here
      have opened : (world.apply (.subscribe username id queue)).Subscribed username queue :=
        ⟨⟨username, id, queue⟩, List.mem_append_right _ List.mem_cons_self, rfl, rfl⟩
      have empty : boxes.given queue = [] := by
        rw [← holds.given, sound.unowned queue admissible.2.1, List.map_nil]
      rw [if_pos rfl, if_pos opened, empty, holds.shown_pending, List.nil_append]
    · rw [if_neg here]
      split
      next opened =>
        obtain ⟨other, member, mine, there⟩ := opened
        rcases List.mem_append.mp member with old | new
        · have online := (sound.wired.online username).mpr ⟨queue, other, old, mine, there⟩
          rw [sound.books.online username online]
          exact List.append_nil _
        · rw [List.mem_singleton.mp new] at there
          exact absurd there.symm here
      next => exact List.append_nil _

/-- Storing one more notification leaves the entries that wait where they were. -/
theorem resolve_sent {notification : Notification} {followers : List Text} {call : Call}
    (ledger : Ledger world.manager) (sent : Sent world.manager notification followers call)
    {user : Text} {pending : PendingNotification}
    (waits : pending ∈ (world.manager.queueOf user).pendingQueue) :
    call.manager.resolve pending = world.manager.resolve pending := by
  obtain ⟨older, -, -, found⟩ := ledger.resolve_eq waits
  rw [found, resolve, sent.stored]
  rw [resolve] at found
  split
  next => rw [List.find?_append, found, Option.some_or]
  next => exact found

/-- The entry that an offline follower is left leads to the tweet. -/
theorem resolve_issued {notification : Notification} {followers : List Text} {call : Call}
    (fresh : FreshId world.manager notification.username)
    (sent : Sent world.manager notification followers call)
    (some : world.manager.offlineAmong followers ≠ []) :
    (call.manager.resolve (world.manager.issuedEntry notification)).map Notification.shown =
      Option.some (world.manager.issue notification).shown := by
  have unused : (world.manager.stored notification.username).find?
      (·.id = int32 world.manager.nextId) = none := by
    rw [List.find?_eq_none]
    intro older stored
    simpa using fresh older stored
  rw [resolve, sent.stored, if_pos ⟨rfl, some⟩, List.find?_append]
  show Option.map _ (((world.manager.stored notification.username).find?
    (·.id = int32 world.manager.nextId)).or _) = _
  rw [unused, Option.none_or, List.find?_cons_of_pos (by simp [issuedEntry, issue])]
  rfl

theorem Matches.post (holds : Matches world boxes) (sound : Sound issued world)
    (room : issued < 2 ^ 32) {notification : Notification} {followers : List Text}
    (admissible : world.Admissible (.send notification followers))
    (sender : notification.username ∈ world.manager.notifications) :
    Matches (world.apply (.send notification followers))
      (boxes.post (world.manager.issue notification).shown followers) := by
  obtain ⟨distinct, registered, counted⟩ := admissible.1
  have sent := send_spec world.manager notification followers sender registered distinct counted
  have fresh := sound.books.numbered.fresh room notification.username
  refine ⟨?_, ?_, holds.user, holds.reads, ?_⟩
  · intro user
    exact (sent.users user).trans (holds.members user)
  · intro user
    have entry : ∀ pending ∈ (world.manager.queueOf user).pendingQueue,
        ((world.manager.send notification followers).manager.resolve pending).map
          Notification.shown = (world.manager.resolve pending).map Notification.shown :=
      fun pending waits => congrArg _ (resolve_sent sound.books.ledger sent waits)
    have queue := congrArg NotificationQueue.pendingQueue (sent.queues user)
    by_cases online : boxes.Online user
    · have reached : user ∉ world.manager.offlineAmong followers := by
        rw [mem_offlineAmong, Offline, (holds.online sound.wired user).mp online]
        simp
      rw [if_neg reached] at queue
      rw [Mailboxes.waiting_post_online _ _ online, ← holds.waiting user]
      exact backlog_congr queue entry
    · have offline : user ∈ world.manager.offlineAmong followers ↔ user ∈ followers := by
        rw [mem_offlineAmong, Offline]
        exact and_iff_left (Bool.eq_false_of_not_eq_true
          fun reached => online ((holds.online sound.wired user).mpr reached))
      rw [Mailboxes.waiting_post _ _ online, List.map_append, ← holds.waiting user]
      simp only [offline] at queue
      split
      next member =>
        rw [if_pos member] at queue
        have some : world.manager.offlineAmong followers ≠ [] :=
          List.ne_nil_of_mem (offline.mpr member)
        have issued := resolve_issued fresh sent some
        show List.map _ ((world.manager.send notification followers).manager.queueOf
          user).pendingQueue = _
        rw [queue, enqueue, List.map_append]
        exact congrArg₂ (· ++ ·) (List.map_congr_left entry) (congrArg (List.singleton ·) issued)
      next absent =>
        rw [if_neg absent] at queue
        rw [List.map_nil, List.append_nil]
        exact backlog_congr queue entry
  · intro queue
    show List.map _ (world.appended queue ++
      received (world.manager.send notification followers).inserted queue) = _
    rw [List.map_append, holds.given]
    by_cases reader : ∃ user, world.Subscribed user queue
    · obtain ⟨user, subscribed⟩ := reader
      have only := sound.wired.only_owner (sound.wired.owner_of_subscribed subscribed)
      have reads := (holds.reads queue user).mpr subscribed
      rw [sound.wired.received_send distinct sent queue user only,
        Mailboxes.given_post _ _ reads]
      simp only [subscribed, and_true]
      split <;> rfl
    · have unread : ∀ user, ¬ boxes.Reads queue user :=
        fun user reads => reader ⟨user, (holds.reads queue user).mp reads⟩
      have nobody : ∀ other, world.Subscribed other queue → other = [] :=
        fun other subscribed => absurd ⟨other, subscribed⟩ reader
      rw [sound.wired.received_send distinct sent queue [] nobody,
        Mailboxes.given_post_unread _ _ unread,
        if_neg fun both => reader ⟨[], both.2⟩, List.map_nil, List.append_nil]

end Steps

/-- Every call does to the mailboxes what it is called. -/
theorem simulation_mail : Simulation step Mailboxes.step mail Roomy Matches where
  matchStep := by
    rintro world next operation boxes holds ⟨issued, sound, room⟩ taken
    obtain ⟨admissible, rfl⟩ := step_eq_some.mp taken
    cases operation with
    | loadUsers usernames =>
      exact ⟨_, run_cons.mpr ⟨_, rfl, rfl⟩, holds.loadUsers usernames⟩
    | subscribe username id session =>
      have fresh : boxes.user session = none := (holds.user session).trans admissible.2.1
      exact ⟨_, run_cons.mpr ⟨_, if_pos fresh, rfl⟩, holds.subscribe sound admissible⟩
    | unsubscribe username id =>
      exact ⟨_, run_cons.mpr ⟨_, rfl, rfl⟩, holds.unsubscribe sound.wired username id⟩
    | send notification followers =>
      by_cases sender : notification.username ∈ world.manager.notifications
      · have known : ∀ user ∈ followers, user ∈ boxes.members :=
          fun user member => (holds.members user).mp (admissible.1.2.1 user member)
        rw [mail, if_pos sender]
        exact ⟨_, run_cons.mpr ⟨_, if_pos known, rfl⟩, holds.post sound (room rfl) admissible sender⟩
      · have same : world.apply (.send notification followers) = world := by
          have skipped := send_unregistered world.manager notification followers sender
          simp only [World.apply, NotificationManager.call, skipped, received, List.filter_nil,
            List.map_nil, List.append_nil, openSessions, owners]
        rw [mail, if_neg sender, same]
        exact ⟨boxes, rfl, holds⟩

theorem roomy_run {issued : Nat} {world : World} {operations : List Operation}
    (sound : Sound issued world) (few : issued + sends operations ≤ 2 ^ 32) :
    AllMeet step Roomy world operations := by
  induction operations generalizing issued world with
  | nil => trivial
  | cons operation rest ih =>
    have count : sends (operation :: rest) =
        sends rest + if operation.isSend then 1 else 0 := List.countP_cons
    have room : operation.isSend = true → issued < 2 ^ 32 := by
      intro isSend
      rw [isSend, if_pos rfl] at count
      omega
    refine ⟨⟨issued, sound, room⟩, ?_⟩
    intro next taken
    obtain ⟨admissible, rfl⟩ := step_eq_some.mp taken
    obtain ⟨later, soundNext, -, small⟩ := sound.apply operation admissible room
    exact ih soundNext (by omega)

/-- The calls of a run, as the mailboxes see them. -/
def mails (operations : List Operation) : List (MailAction Text QueueRef Shown) :=
  labels step mail {} operations

theorem matches_run {operations : List Operation} {world : World}
    (reached : run step {} operations = some world) (few : sends operations ≤ 2 ^ 32) :
    ∃ boxes, run Mailboxes.step {} (mails operations) = some boxes ∧ Matches world boxes :=
  simulation_mail.run_matches matches_empty (roomy_run sound_empty (by omega)) reached

/-- What has become of the tweets for a user. No session has missed one between the first
and the last that it was given, an open one has the last, the latest ones wait if nobody
is there to take them, and all others were given to some session. -/
structure Delivers (world : World) (user : Text) (tweets : List Shown) : Prop where
  drained : (∃ queue, world.Subscribed user queue) → backlog world.manager user = []
  stretch : ∀ queue, world.owner queue = some user →
    (world.appended queue).map Notification.shown <:+: tweets
  upToDate : ∀ queue, world.Subscribed user queue →
    (world.appended queue).map Notification.shown <:+ tweets
  unlost : ∃ earlier : List Shown, tweets.map some = earlier.map some ++ backlog world.manager user ∧
    ∀ tweet ∈ earlier, ∃ queue, world.owner queue = some user ∧
      tweet ∈ (world.appended queue).map Notification.shown

/-- Whatever is reliable about mailboxes is so about the manager. -/
theorem Matches.delivers {world : World} {boxes : Boxes} (holds : Matches world boxes)
    (reliable : boxes.Reliable) (user : Text) : world.Delivers user (boxes.addressed user) where
  drained := by
    rintro ⟨queue, subscribed⟩
    have empty := reliable.drained user ⟨queue, (holds.reads queue user).mpr subscribed⟩
    rw [holds.waiting, empty, List.map_nil]
  stretch queue owned := by
    rw [holds.given]
    exact reliable.stretch queue user ((holds.user queue).trans owned)
  upToDate queue subscribed := by
    rw [holds.given]
    exact reliable.upToDate queue user ((holds.reads queue user).mpr subscribed)
  unlost := by
    obtain ⟨earlier, split, found⟩ := reliable.unlost user
    refine ⟨earlier, by rw [holds.waiting, split, List.map_append], ?_⟩
    intro tweet member
    obtain ⟨queue, mine, inside⟩ := found tweet member
    exact ⟨queue, (holds.user queue).symm.trans mine, by rwa [holds.given]⟩

/-- In any order of at most `2 ^ 32` sends with the other calls, the manager is mailboxes. -/
theorem mailboxes_of_run (operations : List Operation) (world : World)
    (reached : run step {} operations = some world) (few : sends operations ≤ 2 ^ 32) :
    ∃ boxes, run Mailboxes.step {} (mails operations) = some boxes ∧ Matches world boxes :=
  matches_run reached few

/-- A user is offline for one tweet, online for the next and gone for the last. -/
def mailRun : List Operation :=
  [.loadUsers [['a'], ['b'], ['c']], .send ⟨-1, 5, ['a'], 1, ['x']⟩ [['b']],
    .subscribe ['b'] 7 0, .send ⟨-1, 6, ['c'], 2, ['y']⟩ [['b'], ['a']], .unsubscribe ['b'] 7,
    .send ⟨-1, 7, ['d'], 1, ['v']⟩ [['b']], .send ⟨-1, 7, ['a'], 1, ['z']⟩ [['b']]]

theorem mailboxes_of_mailRun : ∃ world boxes, run step {} mailRun = some world ∧
    run Mailboxes.step {} (mails mailRun) = some boxes ∧ Matches world boxes := by
  obtain ⟨boxes, ran, holds⟩ := mailboxes_of_run mailRun _ rfl (by decide)
  exact ⟨_, boxes, rfl, ran, holds⟩

/-- No tweet for a user is lost, given out of turn or left out between two others. -/
theorem delivers_of_run (operations : List Operation) (world : World)
    (reached : run step {} operations = some world) (few : sends operations ≤ 2 ^ 32)
    (user : Text) : world.Delivers user (lettersTo user (mails operations)) := by
  obtain ⟨boxes, ran, holds⟩ := matches_run reached few
  have addressed := Mailboxes.addressed_run ran user
  rw [List.nil_append] at addressed
  exact addressed ▸ holds.delivers (Mailboxes.reliable_run ran) user

theorem delivers_of_mailRun : ∃ world, run step {} mailRun = some world ∧
    lettersTo ['b'] (mails mailRun) =
      [(1, ['a'], 5, ['x']), (2, ['c'], 6, ['y']), (3, ['a'], 7, ['z'])] ∧
    world.Delivers ['b'] (lettersTo ['b'] (mails mailRun)) :=
  ⟨_, rfl, rfl, delivers_of_run mailRun _ rfl (by decide) ['b']⟩

end World

end TwitterClone
