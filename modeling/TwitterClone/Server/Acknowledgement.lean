import TwitterClone.Notification.ExactlyOnce
import TwitterClone.Server.Steps

/-! What the answer to a SEND request promises. Followers are read from one manager
and reached through the other, where users are only known once their consumer has
subscribed. -/
namespace TwitterClone

open Foundation NotificationManager

namespace Server

/-- A session of the user was given the notification, or it is recorded as pending
for the user and stored. -/
def Reached (server : Server) (user : Text) (sent : Notification) : Prop :=
  (∃ index, (server.connections index).username = user ∧
    ∃ copy ∈ (server.connections index).appended, SameText copy sent) ∨
  (sent.entry ∈ (server.notifications.queueOf user).pendingQueue ∧
    ∃ item ∈ server.notifications.stored sent.username, SameText item sent)

/-- Every follower that was read for a tweet has been reached. -/
def ReachesAll (server : Server) (tweet : SentTweet) : Prop :=
  ∀ follower ∈ tweet.followers, ∃ sent, tweet.created = some sent ∧ server.Reached follower sent

/-- No acknowledged tweet is dropped, and nothing is stored for more followers than
have an entry. -/
structure NoneDropped (server : Server) : Prop where
  reached : ∀ tweet ∈ server.acknowledged, server.ReachesAll tweet
  counted : ∀ sender, ∀ item ∈ server.notifications.stored sender,
    item.pendingCount ≤ server.notifications.pendingEntries.count ⟨sender, item.id⟩

/-- The sender and all followers are known to the notification manager, their number
is an `int`, and the id is not in use when somebody has to wait. -/
def KnowsAll (server : Server) : Handler → Prop
  | .sending notification followers => followers ≠ [] →
      notification.username ∈ server.notifications.notifications ∧
        (∀ follower ∈ followers, follower ∈ server.notifications.pendingQueues) ∧
        followers.length < 2 ^ 31 ∧
        (server.notifications.offlineAmong followers ≠ [] →
          server.notifications.FreshId notification.username)
  | _ => True

instance (server : Server) : (handler : Handler) → Decidable (server.KnowsAll handler)
  | .sending _ _ => inferInstanceAs (Decidable (_ → _))
  | .authorizing | .starting | .answering | .serving | .sent _ | .stopping | .joining | .closing
  | .finished => isTrue trivial

/-- Every call of `send` is for users that the notification manager knows. -/
def AllRegistered (server : Server) : ServerAction → Prop
  | .handler index .send => server.KnowsAll (server.connections index).handler
  | _ => True

instance (server : Server) : (action : ServerAction) → Decidable (server.AllRegistered action)
  | .handler _ .send => inferInstanceAs (Decidable (server.KnowsAll _))
  | .consumer _ _ | .lose _ | .handler _ .refuse | .handler _ (.login _ _)
  | .handler _ (.startConsumer _) | .handler _ .answerLogin | .handler _ (.follow _)
  | .handler _ (.readFollowers _ _) | .handler _ .answerSend | .handler _ .leave
  | .handler _ .stop | .handler _ .join | .handler _ .closeSession => isTrue trivial

/-- What every reached server keeps, as long as all are registered. -/
structure Accountable (server : Server) : Prop where
  wired : server.Wired
  distinct : server.profiles.DistinctFollowers
  ledger : Ledger server.notifications
  unused : ∀ index, (server.connections index).consumer = .absent →
    (server.connections index).appended = []
  drafts : ∀ index notification followers,
    (server.connections index).handler = .sending notification followers →
      followers.Nodup ∧ notification.pendingCount = int32 followers.length
  reached : ∀ tweet, tweet ∈ server.acknowledged ∨
    (∃ index, (server.connections index).handler = .sent tweet) → server.ReachesAll tweet

section Steps

variable {server next : Server}

theorem Reached.grows {user : Text} {sent : Notification} (reached : server.Reached user sent)
    (grows : Grows server next)
    (waiting : sent.entry ∈ (server.notifications.queueOf user).pendingQueue →
      (∃ item ∈ server.notifications.stored sent.username, SameText item sent) →
        next.Reached user sent) : next.Reached user sent := by
  rcases reached with given | ⟨entry, stored⟩
  · exact Or.inl (GivenTo.grows given grows)
  · exact waiting entry stored

theorem Accountable.sound (accountable : server.Accountable) : server.Sound :=
  ⟨accountable.wired, accountable.distinct, accountable.unused, accountable.drafts⟩

/-- Beside what every server keeps, there are the ledger and the promises. -/
theorem Sound.accountable (sound : server.Sound) (ledger : Ledger server.notifications)
    (reached : ∀ tweet, tweet ∈ server.acknowledged ∨
      (∃ index, (server.connections index).handler = .sent tweet) → server.ReachesAll tweet) :
    server.Accountable :=
  ⟨sound.wired, sound.distinct, ledger, sound.unused, sound.drafts, reached⟩

/-- A step without a notification call: histories stay, and the handler moves on to
something that still keeps its promises. -/
theorem Accountable.quiet (accountable : server.Accountable) (wired : next.Wired)
    {index : QueueRef} {connection : ClientConnection}
    (quiet : Quiet server next index connection) : next.Accountable := by
  have grows := quiet.grows accountable.sound
  have kept : ∀ tweet, server.ReachesAll tweet → next.ReachesAll tweet := by
    intro tweet all follower member
    obtain ⟨sent, created, reached⟩ := all follower member
    refine ⟨sent, created, reached.grows grows fun entry stored => Or.inr ?_⟩
    rw [quiet.notifications]
    exact ⟨entry, stored⟩
  refine (accountable.sound.quiet wired quiet).accountable
    (quiet.notifications ▸ accountable.ledger) ?_
  intro tweet either
  apply kept
  apply accountable.reached
  rcases either with acknowledged | ⟨other, handler⟩
  · exact (quiet.acknowledged tweet acknowledged).imp_right fun sent => ⟨index, sent⟩
  · rw [quiet.connections, Function.update_apply] at handler
    split at handler
    next => exact Or.inr ⟨index, quiet.tweet tweet handler⟩
    next => exact Or.inr ⟨other, handler⟩

theorem Accountable.sendTweet (accountable : server.Accountable) {index : QueueRef}
    {notification : Notification} {followers : List Text}
    (handler : (server.connections index).handler = .sending notification followers)
    (registered : server.AllRegistered (.handler index .send)) :
    (server.sendTweet index notification followers).Accountable := by
  obtain ⟨distinct, count⟩ := accountable.drafts index notification followers handler
  rw [AllRegistered, handler, KnowsAll] at registered
  have grows : Grows server (server.sendTweet index notification followers) :=
    grows_deliver server _ index rfl rfl
  -- what remains is said about the manager and about the one new tweet
  have assemble : Ledger (server.notifications.send notification followers).manager →
      (∀ user sent, sent.entry ∈ (server.notifications.queueOf user).pendingQueue →
        (∃ item ∈ server.notifications.stored sent.username, SameText item sent) →
          (server.sendTweet index notification followers).Reached user sent) →
      (server.sendTweet index notification followers).ReachesAll
        ⟨(server.notifications.createNotification notification).map Prod.fst, followers⟩ →
      (server.sendTweet index notification followers).Accountable := by
    intro ledger waiting new
    refine (accountable.sound.sendTweet index notification followers).accountable ledger ?_
    intro tweet either
    have old : tweet ∈ server.acknowledged ∨
        (∃ other, (server.connections other).handler = .sent tweet) →
          (server.sendTweet index notification followers).ReachesAll tweet := by
      intro before follower member
      obtain ⟨sent, created, reached⟩ := accountable.reached tweet before follower member
      exact ⟨sent, created, reached.grows grows fun entry stored =>
        waiting follower sent entry stored⟩
    rcases either with acknowledged | ⟨other, sent⟩
    · exact old (Or.inl acknowledged)
    · rw [Server.sendTweet, connections_setConnection] at sent
      split at sent
      next => exact Handler.sent.inj sent ▸ new
      next => exact old (Or.inr ⟨other, sent⟩)
  by_cases sender : notification.username ∈ server.notifications.notifications
  · have known : ∀ follower ∈ followers, follower ∈ server.notifications.pendingQueues :=
      fun follower member => (registered (List.ne_nil_of_mem member)).2.1 follower member
    have small : followers.length < 2 ^ 31 := by
      by_cases nobody : followers = []
      · simp [nobody]
      · exact (registered nobody).2.2.1
    rw [int32_of_small small] at count
    have sent := send_spec server.notifications notification followers sender known distinct count
    have created : (server.notifications.createNotification notification).map Prod.fst =
        some (server.notifications.issue notification) := by
      rw [createNotification, if_pos sender]
      rfl
    apply assemble
    · by_cases online : server.notifications.offlineAmong followers = []
      · exact accountable.ledger.sent_online sent online
      · have some : followers ≠ [] := by
          intro none
          exact online (by simp [none, offlineAmong])
        exact accountable.ledger.sent ((registered some).2.2.2 online) sent
    · rintro user old entry ⟨item, stored, same⟩
      exact Or.inr ⟨sent.mem_pendingQueue.mpr (Or.inl entry), item,
        sent.mem_stored.mpr (Or.inl stored), same⟩
    · intro follower member
      refine ⟨_, created, ?_⟩
      by_cases offline : server.notifications.Offline follower
      · have among := mem_offlineAmong.mpr ⟨member, offline⟩
        exact Or.inr ⟨sent.mem_pendingQueue.mpr (Or.inr ⟨among, rfl⟩), _,
          sent.mem_stored.mpr (Or.inr ⟨rfl, List.ne_nil_of_mem among, rfl⟩), rfl, rfl, rfl, rfl⟩
      · exact Or.inl (givenTo_sendTweet accountable.wired sent.inserted member offline)
  · have nobody : followers = [] := by
      by_contra some
      exact sender (registered some).1
    have skipped := send_unregistered server.notifications notification followers sender
    have same : (server.sendTweet index notification followers).notifications =
        server.notifications := congrArg Call.manager skipped
    apply assemble
    · rw [skipped]
      exact accountable.ledger
    · intro user old entry stored
      rw [Reached, same]
      exact Or.inr ⟨entry, stored⟩
    · intro follower member
      rw [nobody] at member
      cases member

/-- Under one sender an id leads to one text. -/
theorem sameText_of_id {manager : NotificationManager} (ledger : Ledger manager)
    {sent item other : Notification} (stored : item ∈ manager.stored sent.username)
    (same : SameText item sent) (member : other ∈ manager.stored sent.username)
    (id : other.id = sent.id) : SameText other sent := by
  have one : other = item := List.inj_on_of_nodup_map (ledger.distinctIds sent.username) member
    stored (id.trans same.1.symm)
  exact one ▸ same

/-- Who subscribes is handed what was waiting; for the others it goes on waiting. -/
theorem Accountable.reached_subscribe (accountable : server.Accountable) {index : QueueRef}
    (consumer : (server.connections index).consumer = .starting) {user : Text}
    {sent : Notification}
    (entry : sent.entry ∈ (server.notifications.queueOf user).pendingQueue)
    (stored : ∃ item ∈ server.notifications.stored sent.username, SameText item sent) :
    (server.subscribe index).Reached user sent := by
  have wired := accountable.wired.subscribe consumer
  have ledger := accountable.ledger
  have subscribed := subscribe_spec ledger (server.connections index).username
    (server.connections index).consumerId index
  obtain ⟨item, itemStored, same⟩ := stored
  by_cases mine : user = (server.connections index).username
  · subst mine
    left
    obtain ⟨found, foundStored, id, resolved⟩ := ledger.resolve_eq entry
    have text := sameText_of_id ledger itemStored same foundStored id
    have some := NotificationQueue.hasSubscribers_subscribe (server.notifications.queueOf
      (server.connections index).username) (server.connections index).consumerId index
    obtain ⟨⟨key, session⟩, inside⟩ := List.exists_mem_of_ne_nil _
      (by simpa [NotificationQueue.hasSubscribers] using some)
    have given : ⟨session, found⟩ ∈ (server.notifications.subscribe
        (server.connections index).username (server.connections index).consumerId index).inserted := by
      rw [subscribed.inserted, List.mem_flatMap]
      refine ⟨sent.entry, entry, ?_⟩
      rw [resolved, Option.toList_some, List.flatMap_singleton]
      exact List.mem_map.mpr ⟨_, inside, rfl⟩
    have attached := wired.attached (server.connections index).username key session (by
      show _ ∈ ((server.notifications.subscribe _ _ index).manager.queueOf _).subscribersQueue.entries
      rw [subscribed.queues, if_pos rfl]
      exact inside)
    refine givenTo_of_inserted given text ?_ rfl rfl
    have username := attached.1
    rw [Server.subscribe, connections_setConnection] at username
    split at username
    next here => exact here ▸ username
    next => exact username
  · right
    have still : sent.entry ∈ ((server.subscribe index).notifications.queueOf user).pendingQueue := by
      show _ ∈ ((server.notifications.subscribe _ _ index).manager.queueOf user).pendingQueue
      rw [subscribed.queues, if_neg mine]
      exact entry
    obtain ⟨lower, lowerStored, id⟩ := subscribed.ledger.resolved user sent.entry still
    refine ⟨still, lower, lowerStored, ?_⟩
    rw [subscribed.stored] at lowerStored
    obtain ⟨source, sourceStored, settled⟩ := List.mem_filterMap.mp lowerStored
    have text :=
      sameText_of_id ledger itemStored same sourceStored ((settle_id settled).symm.trans id)
    rw [(settle_some settled).1]
    exact text

theorem Accountable.subscribe (accountable : server.Accountable) {index : QueueRef}
    (consumer : (server.connections index).consumer = .starting) :
    (server.subscribe index).Accountable := by
  have grows : Grows server (server.subscribe index) := grows_deliver server _ index rfl rfl
  have handlers : ∀ other, ((server.subscribe index).connections other).handler =
      (server.connections other).handler := by
    intro other
    rw [Server.subscribe, connections_setConnection]
    split
    next here => exact here ▸ rfl
    next => rfl
  refine (accountable.sound.subscribe consumer).accountable
    (subscribe_spec accountable.ledger _ _ _).ledger ?_
  intro tweet either follower member
  simp only [handlers] at either
  obtain ⟨sent, created, reached⟩ := accountable.reached tweet either follower member
  exact ⟨sent, created, reached.grows grows (accountable.reached_subscribe consumer)⟩

theorem Accountable.unsubscribe (accountable : server.Accountable) {index : QueueRef}
    (consumer : (server.connections index).consumer = .leaving) :
    (server.unsubscribe index).Accountable := by
  have grows : Grows server (server.unsubscribe index) := grows_deliver server _ index rfl rfl
  have handlers : ∀ other, ((server.unsubscribe index).connections other).handler =
      (server.connections other).handler := by
    intro other
    rw [Server.unsubscribe, connections_setConnection]
    split
    next here => exact here ▸ rfl
    next => rfl
  refine (accountable.sound.unsubscribe consumer).accountable
    (accountable.ledger.unsubscribe _ _) ?_
  intro tweet either follower member
  simp only [handlers] at either
  obtain ⟨sent, created, reached⟩ := accountable.reached tweet either follower member
  refine ⟨sent, created, reached.grows grows ?_⟩
  intro entry stored
  right
  show sent.entry ∈ ((server.notifications.unsubscribe _ _).manager.queueOf follower).pendingQueue ∧
    ∃ item ∈ (server.notifications.unsubscribe _ _).manager.stored sent.username, SameText item sent
  rw [queueOf_unsubscribe, stored_unsubscribe]
  refine ⟨?_, stored⟩
  split
  next here => exact here ▸ entry
  next => exact entry

theorem Accountable.step (accountable : server.Accountable)
    {onUpdateCallback : ProfileManager → Bool} {action : ServerAction}
    (registered : server.AllRegistered action)
    (taken : Server.step onUpdateCallback server action = some next) : next.Accountable := by
  have wired := accountable.wired.step taken
  cases stepped_of_step accountable.wired taken with
  | quiet _ _ connection unlocked quiet => exact accountable.quiet wired quiet
  | sent index notification followers handler => exact accountable.sendTweet handler registered
  | subscribed index consumer => exact accountable.subscribe consumer
  | unsubscribed index consumer => exact accountable.unsubscribe consumer

theorem accountable_start {file : Option Text} {users : UnorderedMap Text User}
    (loaded : ProfilePersistency.readUsers file = .ok users) : (start users).Accountable := by
  have books := books_empty
  obtain ⟨ledger, -, -⟩ := register_frame users.keys {} books.ledger books.online
  refine (sound_start loaded).accountable ledger ?_
  rintro tweet (acknowledged | ⟨index, sent⟩)
  · cases acknowledged
  · cases sent

end Steps

/-- In every run in which the two managers agree at each call of `send`, whatever
the order of the steps, no acknowledged tweet is dropped. -/
theorem noneDropped_of_run (onUpdateCallback : ProfileManager → Bool) (file : Option Text)
    (users : UnorderedMap Text User) (loaded : ProfilePersistency.readUsers file = .ok users)
    (actions : List ServerAction) (server : Server)
    (registered : AllMeet (Server.step onUpdateCallback) AllRegistered (start users) actions)
    (reached : run (Server.step onUpdateCallback) (start users) actions = some server) :
    server.NoneDropped := by
  have accountable : server.Accountable :=
    run_preserves (fun _ _ _ accountable registered taken => accountable.step registered taken)
      (accountable_start loaded) registered reached
  refine ⟨fun tweet acknowledged => accountable.reached tweet (Or.inl acknowledged), ?_⟩
  intro sender item stored
  exact (accountable.ledger.counted sender item stored).le

/-- A user of the file follows a new one, who sends a tweet while the follower has
logged in but is not subscribed yet. -/
def followerLoaded : List ServerAction :=
  [.handler 1 (.login ['a'] 20), .handler 1 (.startConsumer 21), .handler 1 .answerLogin,
    .consumer 1 .subscribe, .handler 0 (.login ['b'] 10), .handler 0 (.startConsumer 11),
    .handler 0 .answerLogin, .handler 0 (.follow ['a']),
    .handler 1 (.readFollowers ['h', 'i'] 5), .handler 1 .send, .handler 1 .answerSend,
    .consumer 0 .subscribe]

def loadedFollower : UnorderedMap Text User :=
  (∅ : UnorderedMap Text User).emplace ['b'] { id := 1, username := ['b'] }

theorem noneDropped_of_followerLoaded :
    ∃ server, run (Server.step fun _ => true) (start loadedFollower) followerLoaded = some server ∧
      server.NoneDropped :=
  ⟨_, rfl, noneDropped_of_run (fun _ => true) (some ['b']) loadedFollower rfl followerLoaded _
    (by decide) rfl⟩

/-- The same steps with a follower who is new as well: the tweet is answered, and
nobody has it. -/
theorem not_noneDropped_of_followerNew :
    ∃ server, run (Server.step fun _ => true) (start ∅) followerLoaded = some server ∧
      ¬ server.NoneDropped := by
  obtain ⟨server, reached⟩ :
      ∃ server, run (Server.step fun _ => true) (start ∅) followerLoaded = some server := ⟨_, rfl⟩
  have observed : (run (Server.step fun _ => true) (start ∅) followerLoaded).map (fun server =>
      (server.acknowledged.map SentTweet.followers, (server.connections 0).appended,
        (server.connections 1).username, (server.notifications.queueOf ['b']).pendingQueue)) =
      some ([[['b']]], [], ['a'], []) := by decide +kernel
  rw [reached, Option.map_some] at observed
  obtain ⟨tweets, atFollower, atSender, backlog⟩ := by
    simpa only [Option.some.injEq, Prod.mk.injEq] using observed
  refine ⟨server, reached, fun holds => ?_⟩
  obtain ⟨tweet, acknowledged, followers⟩ :=
    List.mem_map.mp (tweets ▸ List.mem_singleton_self [['b']])
  obtain ⟨sent, -, found⟩ := holds.reached tweet acknowledged ['b'] (by simp [followers])
  rcases found with ⟨index, mine, copy, member, -⟩ | ⟨entry, -⟩
  · have two : ∀ action ∈ followerLoaded, action.index = 0 ∨ action.index = 1 := by decide
    obtain ⟨action, taken, here⟩ := acted_of_username reached rfl (by rw [mine]; simp)
    rcases here ▸ two action taken with follower | sender
    · rw [follower, atFollower] at member
      cases member
    · rw [sender, atSender] at mine
      cases mine
  · rw [backlog] at entry
    cases entry

end Server

end TwitterClone
