import TwitterClone.Notification.Backing
import TwitterClone.Packet.Sending
import TwitterClone.Replication.Publication
import TwitterClone.Server.Steps

/-! A leader's server with one backup, up to any point at which the leader may crash.
Whoever calls the notification manager holds its mutex until the update is sent;
meanwhile the consumers go on writing what is in their queues. -/
namespace TwitterClone

open Foundation NotificationManager

/-- One of the two threads of a connection. -/
inductive ServerThread where
  | handler (index : QueueRef)
  | consumer (index : QueueRef)
  deriving DecidableEq

/-- The thread that takes the step. A connection is lost by no thread. -/
def ServerAction.thread : ServerAction → Option ServerThread
  | .handler index _ => some (.handler index)
  | .consumer index _ => some (.consumer index)
  | .lose _ => none

namespace NotificationManager

def update (manager other : NotificationManager) : NotificationManager :=
  { manager with
    nextId := other.nextId
    pendingQueues := other.pendingQueues
    notifications := other.notifications }

/-- What a replica makes of the payloads of the updates that it receives. -/
def receiveUpdates (stack : Nat) (manager : NotificationManager) :
    List Text → Except Fault NotificationManager
  | [] => .ok manager
  | payload :: rest =>
    match deserialize stack payload with
    | .error fault => .error fault
    | .ok updatedManager => (manager.update updatedManager).receiveUpdates stack rest

/-- The text that is sent says all that a replica is to know, and the replica's stack has
room for the packet and for what it is decoded into. -/
structure Carried (stack : Nat) (manager : NotificationManager) : Prop where
  terminated : nul ∉ manager.serialize
  readable : manager.Readable
  fits : manager.Fits stack
  room : Packet.PayloadFits stack manager.serialize

instance decidableCarried (stack : Nat) (manager : NotificationManager) :
    Decidable (manager.Carried stack) :=
  decidable_of_iff (nul ∉ manager.serialize ∧ manager.Readable ∧ manager.Fits stack ∧
      Packet.PayloadFits stack manager.serialize)
    ⟨fun ⟨terminated, readable, fits, room⟩ => ⟨terminated, readable, fits, room⟩,
      fun carried => ⟨carried.terminated, carried.readable, carried.fits, carried.room⟩⟩

theorem receiveUpdates_concat {stack : Nat} {manager promoted updated : NotificationManager}
    {payloads : List Text} {payload : Text}
    (received : manager.receiveUpdates stack payloads = .ok promoted)
    (decoded : deserialize stack payload = .ok updated) :
    manager.receiveUpdates stack (payloads ++ [payload]) = .ok updated := by
  induction payloads generalizing manager with
  | nil =>
    rw [List.nil_append, receiveUpdates, decoded]
    rfl
  | cons first rest ih =>
    rw [receiveUpdates] at received
    rw [List.cons_append, receiveUpdates]
    split at received
    next => cases received
    next updatedManager read => exact ih received

end NotificationManager

namespace Server

variable (server : Server)

/-- The managers that the call of an action hands to `onUpdateCallback`. -/
def updates : ServerAction → List NotificationManager
  | .handler index .send =>
    match (server.connections index).handler with
    | .sending notification followers => (server.notifications.send notification followers).updates
    | _ => []
  | .consumer index .subscribe =>
    (server.notifications.subscribe (server.connections index).username
      (server.connections index).consumerId index).updates
  | .consumer index .unsubscribe =>
    (server.notifications.unsubscribe (server.connections index).username
      (server.connections index).consumerId).updates
  | _ => []

/-- The notification was written to the connection, which is the user's. -/
def WrittenAt (index : QueueRef) (user : Text) (sent : Notification) : Prop :=
  (server.connections index).username = user ∧
    ∃ copy ∈ (server.connections index).written, SameText copy sent

def WrittenTo (user : Text) (sent : Notification) : Prop :=
  ∃ index, server.WrittenAt index user sent

/-- The notification is in a session queue of the user, in the hands of a consumer, or was
given to a `send` that failed, and none of the user's connections was written it. -/
structure Exposed (user : Text) (sent : Notification) : Prop where
  unwritten : ∃ index, (server.connections index).username = user ∧
    ∃ copy ∈ (server.connections index).sent ++
      ((server.connections index).consumer.inHand ++ (server.connections index).queue),
      SameText copy sent
  never : ¬ server.WrittenTo user sent

instance decidableWrittenAt (index : QueueRef) (user : Text) (sent : Notification) :
    Decidable (server.WrittenAt index user sent) :=
  have : DecidablePred fun copy => SameText copy sent :=
    fun _ => inferInstanceAs (Decidable (_ ∧ _))
  inferInstanceAs (Decidable (_ ∧ _))

/-- Whoever was to be told of a tweet at once has been. -/
def Settles (tweet : SentTweet) : Prop :=
  ∀ sent, tweet.created = some sent → ∀ follower ∈ tweet.followers, ¬ server.Exposed follower sent

/-- Every follower was written the tweet, on one of these connections. -/
def SettlesAmong (indices : List QueueRef) (tweet : SentTweet) : Prop :=
  ∀ sent ∈ tweet.created.toList, ∀ follower ∈ tweet.followers,
    ∃ index ∈ indices, server.WrittenAt index follower sent

instance decidableSettlesAmong (indices : List QueueRef) (tweet : SentTweet) :
    Decidable (server.SettlesAmong indices tweet) :=
  inferInstanceAs (Decidable (∀ sent ∈ tweet.created.toList, _))

theorem SettlesAmong.settles {server : Server} {indices : List QueueRef} {tweet : SentTweet}
    (settles : server.SettlesAmong indices tweet) : server.Settles tweet := by
  intro sent created follower member exposed
  obtain ⟨index, -, written⟩ :=
    settles sent (Option.mem_toList.mpr created) follower member
  exact exposed.never ⟨index, written⟩

/-- The sender and all followers are known to the notification manager. -/
def Registered (notification : Notification) (followers : List Text) : Prop :=
  notification.username ∈ server.notifications.notifications ∧
    ∀ follower ∈ followers, follower ∈ server.notifications.pendingQueues

/-- When somebody has to wait, the id is not in use, and the count is an `int`. -/
def Unclashing (notification : Notification) (followers : List Text) : Prop :=
  notification.username ∈ server.notifications.notifications →
    server.notifications.offlineAmong followers ≠ [] →
      server.notifications.UnusedId notification.username ∧ followers.length < 2 ^ 31

instance decidableUnclashing (notification : Notification) (followers : List Text) :
    Decidable (server.Unclashing notification followers) :=
  inferInstanceAs (Decidable (_ → _))

instance decidableRegistered (notification : Notification) (followers : List Text) :
    Decidable (server.Registered notification followers) :=
  inferInstanceAs (Decidable (_ ∧ _))

end Server

/-- The server, the thread whose update is still to be sent, and what was sent. Of each
handler's last tweet it is recorded whether everybody was registered, and of those that
were answered then, what they promised. -/
structure ReplicatedServer where
  server : Server
  updating : Option ServerThread := none
  updates : List Text := []
  registered : QueueRef → Bool := fun _ => false
  promised : List SentTweet := []

inductive ReplicatedAction where
  | serve (action : ServerAction)
  | sendUpdate

/-- What the threads do in a step. -/
def ReplicatedAction.served : ReplicatedAction → Option ServerAction
  | .serve action => some action
  | .sendUpdate => none

namespace ReplicatedServer

/-- A leader whose backup has just been told of. -/
def start (server : Server) : ReplicatedServer where
  server

section Conditions

variable (state : ReplicatedServer)

def recognise : ServerAction → QueueRef → Bool
  | .handler index .send =>
    match (state.server.connections index).handler with
    | .sending notification followers =>
      Function.update state.registered index (state.server.Registered notification followers)
    | _ => state.registered
  | _ => state.registered

def promise : ServerAction → List SentTweet
  | .handler index .answerSend =>
    match (state.server.connections index).handler with
    | .sent tweet => if state.registered index then tweet :: state.promised else state.promised
    | _ => state.promised
  | _ => state.promised

/-- A thread is in its call until the update is sent, and nobody else gets the mutex. -/
def Blocked (action : ServerAction) : Prop :=
  state.updating ≠ none ∧ (state.updating = action.thread ∨ action.locks = true)

instance decidableBlocked (action : ServerAction) : Decidable (state.Blocked action) :=
  inferInstanceAs (Decidable (_ ∧ _))

/-- What the backup is sent can be received and read. -/
def Faithful (stack : Nat) : ReplicatedAction → Prop
  | .sendUpdate => state.server.notifications.Carried stack
  | .serve _ => True

/-- What is asked of a handler that calls `send`. -/
def MaySend : Handler → Prop
  | .sending notification followers => state.server.Unclashing notification followers
  | _ => True

instance decidableMaySend : (handler : Handler) → Decidable (state.MaySend handler)
  | .sending notification followers =>
    inferInstanceAs (Decidable (state.server.Unclashing notification followers))
  | .authorizing | .starting | .answering | .serving | .sent _ | .stopping | .joining | .closing
  | .finished => isTrue trivial

/-- What is asked of a handler that answers a tweet. -/
def MayAnswer (settles : Server → SentTweet → Prop) (index : QueueRef) : Handler → Prop
  | .sent tweet => state.registered index = true → settles state.server tweet
  | _ => True

instance decidableMayAnswer (settles : Server → SentTweet → Prop)
    [∀ server tweet, Decidable (settles server tweet)] (index : QueueRef) :
    (handler : Handler) → Decidable (state.MayAnswer settles index handler)
  | .sent tweet =>
    inferInstanceAs (Decidable (state.registered index = true → settles state.server tweet))
  | .authorizing | .starting | .answering | .serving | .sending _ _ | .stopping | .joining
  | .closing | .finished => isTrue trivial

/-- What is asked of the steps, where the predicate says which tweets are settled. -/
def TimelyBy (settles : Server → SentTweet → Prop) : ReplicatedAction → Prop
  | .sendUpdate => ∀ tweet ∈ state.promised, settles state.server tweet
  | .serve (.handler index .send) => state.MaySend (state.server.connections index).handler
  | .serve (.handler index .answerSend) =>
    state.MayAnswer settles index (state.server.connections index).handler
  | .serve _ => True

instance decidableTimelyBy (settles : Server → SentTweet → Prop)
    [∀ server tweet, Decidable (settles server tweet)] :
    (action : ReplicatedAction) → Decidable (state.TimelyBy settles action)
  | .sendUpdate => List.decidableBAll _ state.promised
  | .serve (.handler _ .send) => state.decidableMaySend _
  | .serve (.handler _ .answerSend) => state.decidableMayAnswer settles _ _
  | .serve (.consumer _ _) | .serve (.lose _) | .serve (.handler _ .refuse)
  | .serve (.handler _ (.login _ _)) | .serve (.handler _ (.startConsumer _))
  | .serve (.handler _ .answerLogin)
  | .serve (.handler _ (.follow _)) | .serve (.handler _ (.readFollowers _ _))
  | .serve (.handler _ .leave) | .serve (.handler _ .stop) | .serve (.handler _ .join)
  | .serve (.handler _ .closeSession) => isTrue trivial

theorem TimelyBy.imp {settles others : Server → SentTweet → Prop}
    (weaker : ∀ server tweet, settles server tweet → others server tweet)
    {state : ReplicatedServer} {action : ReplicatedAction}
    (timely : state.TimelyBy settles action) : state.TimelyBy others action := by
  unfold TimelyBy at timely ⊢
  split at timely
  next => exact fun tweet promise => weaker _ tweet (timely tweet promise)
  next => exact timely
  next index =>
    unfold MayAnswer at timely ⊢
    split at timely
    next tweet _ => exact fun registered => weaker _ tweet (timely registered)
    next => trivial
  next => trivial

/-- When the leader answers a tweet, and when it sends an update, nobody who was to be
told at once of an answered tweet is still to be written it. Ids are not in use when
somebody has to wait. -/
def Timely : ReplicatedAction → Prop := state.TimelyBy Server.Settles

instance decidableFaithful (stack : Nat) :
    (action : ReplicatedAction) → Decidable (state.Faithful stack action)
  | .sendUpdate => inferInstanceAs (Decidable (state.server.notifications.Carried stack))
  | .serve _ => isTrue trivial

/-- Every follower was written what was promised, or waits for it in the state of the
promoted backup. -/
def Survives (stack : Nat) (backup : NotificationManager) : Prop :=
  ∀ tweet ∈ state.promised, ∀ follower ∈ tweet.followers, ∃ sent, tweet.created = some sent ∧
    (state.server.WrittenTo follower sent ∨
      ∃ promoted, backup.receiveUpdates stack state.updates = .ok promoted ∧
        promoted.Awaits follower sent)

end Conditions

def step (onUpdateCallback : ProfileManager → Bool) (state : ReplicatedServer) :
    ReplicatedAction → Option ReplicatedServer
  | .serve action =>
    if state.Blocked action then none
    else (state.server.step onUpdateCallback action).map fun server => { state with
      server
      updating := if state.server.updates action = [] then state.updating else action.thread
      registered := state.recognise action
      promised := state.promise action }
  | .sendUpdate =>
    match state.updating with
    | none => none
    | some _ => some { state with
        updating := none
        updates := state.updates ++ [Leader.notificationPayload state.server.notifications] }

end ReplicatedServer

/-- A tweet was created, and something holds of it for each follower. -/
def SentTweet.Each (tweet : SentTweet) (holds : Text → Notification → Prop) : Prop :=
  ∀ follower ∈ tweet.followers, ∃ sent, tweet.created = some sent ∧ holds follower sent

theorem SentTweet.Each.imp {tweet : SentTweet} {holds later : Text → Notification → Prop}
    (each : tweet.Each holds) (step : ∀ follower sent, holds follower sent → later follower sent) :
    tweet.Each later := by
  intro follower member
  obtain ⟨sent, created, here⟩ := each follower member
  exact ⟨sent, created, step follower sent here⟩

namespace Server

/-- The notification was handed to a session of the user, or the user waits for it. -/
def Holds (server : Server) (user : Text) (sent : Notification) : Prop :=
  server.GivenTo user sent ∨
    sent.entry ∈ (server.notifications.queueOf user).pendingQueue ∧
      server.notifications.Backs sent

section Steps

variable {server next : Server}

/-- What was given is written, unless it is exposed. -/
theorem GivenTo.written (sound : server.Sound) {user : Text} {sent : Notification}
    (given : server.GivenTo user sent) (safe : ¬ server.Exposed user sent) :
    server.WrittenTo user sent := by
  by_contra never
  obtain ⟨index, mine, copy, member, same⟩ := given
  rw [(sound.wired.sane index).history, List.append_assoc] at member
  exact safe ⟨⟨index, mine, copy, member, same⟩, never⟩

/-- What was written stays written to the same user. -/
theorem WrittenTo.step (sound : server.Sound) {action : ServerAction} {user : Text}
    {sent : Notification} (written : server.WrittenTo user sent)
    (stepped : Stepped server action next) : next.WrittenTo user sent := by
  obtain ⟨index, mine, copy, member, same⟩ := written
  have called : ∀ {call : Call} {other : QueueRef} {connection : ClientConnection},
      connection.username = (server.connections other).username →
        connection.written = (server.connections other).written →
          ((server.deliver call).setConnection other connection).WrittenTo user sent := by
    intro call other connection username kept
    refine ⟨index, ?_⟩
    rw [WrittenAt, connections_setConnection]
    split
    next here =>
      subst here
      exact ⟨username.trans mine, copy, kept ▸ member, same⟩
    next => exact ⟨mine, copy, member, same⟩
  cases stepped with
  | quiet _ _ connection unlocked quiet =>
    refine ⟨index, ?_⟩
    rw [WrittenAt, quiet.connections, Function.update_apply]
    split
    next here =>
      subst here
      refine ⟨?_, copy, quiet.written member, same⟩
      rcases quiet.username with kept | absent
      · exact kept.trans mine
      · have sane := sound.wired.sane action.index
        have history := sane.history
        have handed := sane.carried.begun.subset member
        rw [sound.unused _ absent, List.append_assoc] at history
        rw [(List.append_eq_nil_iff.mp history.symm).1] at handed
        cases handed
    next => exact ⟨mine, copy, member, same⟩
  | sent other notification followers handler => exact called rfl rfl
  | subscribed other consumer => exact called rfl rfl
  | unsubscribed other consumer => exact called rfl rfl

theorem Holds.quiet (sound : server.Sound) {index : QueueRef} {connection : ClientConnection}
    (quiet : Quiet server next index connection) {user : Text} {sent : Notification}
    (holds : server.Holds user sent) : next.Holds user sent := by
  refine holds.imp (fun given => given.grows (quiet.grows sound)) fun waits => ?_
  rw [quiet.notifications]
  exact waits

theorem Holds.subscribe (sound : server.Sound) {index : QueueRef}
    (consumer : (server.connections index).consumer = .starting) {user : Text}
    {sent : Notification} (holds : server.Holds user sent) :
    (server.subscribe index).Holds user sent := by
  rcases holds with given | ⟨entry, backs⟩
  · exact Or.inl (given.grows (grows_deliver server _ index rfl rfl))
  · obtain ⟨others, mine⟩ := backs.subscribe (server.connections index).username
      (server.connections index).consumerId index
    obtain ⟨queues, targets⟩ := subscribe_frame server.notifications
      (server.connections index).username (server.connections index).consumerId index
    by_cases here : user = (server.connections index).username
    · subst here
      obtain ⟨insertion, inserted, same⟩ := mine entry
      have refers := (targets insertion inserted).2
      have username := ((sound.wired.subscribe consumer).present refers).1
      refine Or.inl (givenTo_of_inserted inserted same ?_ rfl rfl)
      rw [Server.subscribe, connections_setConnection] at username
      split at username
      next itself => exact itself ▸ username
      next => exact username
    · refine Or.inr ⟨?_, others user here entry⟩
      show sent.entry ∈ ((server.notifications.subscribe _ _ index).manager.queueOf user).pendingQueue
      rw [queues, if_neg here]
      exact entry

theorem Holds.unsubscribe {index : QueueRef} {user : Text} {sent : Notification}
    (holds : server.Holds user sent) : (server.unsubscribe index).Holds user sent := by
  rcases holds with given | ⟨entry, backs⟩
  · exact Or.inl (given.grows (grows_deliver server _ index rfl rfl))
  · refine Or.inr ⟨?_, backs.unsubscribe _ _⟩
    show sent.entry ∈ ((server.notifications.unsubscribe _ _).manager.queueOf user).pendingQueue
    rw [queueOf_unsubscribe]
    split
    next here => exact here ▸ entry
    next => exact entry

theorem Holds.sendTweet {index : QueueRef} {notification : Notification} {followers : List Text}
    (distinct : followers.Nodup) (unclashing : server.Unclashing notification followers)
    {user : Text} {sent : Notification} (holds : server.Holds user sent) :
    (server.sendTweet index notification followers).Holds user sent := by
  rcases holds with given | ⟨entry, backs⟩
  · exact Or.inl (given.grows (grows_deliver server _ index rfl rfl))
  · refine Or.inr ⟨?_, backs.send distinct fun sender some => (unclashing sender some).1⟩
    show sent.entry ∈ ((server.notifications.send notification followers).manager.queueOf
      user).pendingQueue
    by_cases sender : notification.username ∈ server.notifications.notifications
    · rcases (sentOn_send server.notifications notification sender distinct).queues user with
        same | ⟨-, more⟩
      · exact same ▸ entry
      · exact more ▸ List.mem_append_left _ entry
    · rw [send_unregistered server.notifications notification followers sender]
      exact entry

/-- A new tweet is handed to those who are there, and the others wait for it. -/
theorem each_sendTweet (sound : server.Sound) {index : QueueRef} {notification : Notification}
    {followers : List Text}
    (handler : (server.connections index).handler = .sending notification followers)
    (registered : server.Registered notification followers)
    (unclashing : server.Unclashing notification followers) :
    SentTweet.Each
      ⟨(server.notifications.createNotification notification).map Prod.fst, followers⟩
      (server.sendTweet index notification followers).Holds := by
  obtain ⟨sender, known⟩ := registered
  obtain ⟨distinct, count⟩ := sound.drafts index notification followers handler
  have on := sentOn_send server.notifications notification sender distinct
  intro follower member
  refine ⟨server.notifications.issue notification, ?_, ?_⟩
  · rw [createNotification, if_pos sender]
    rfl
  · by_cases offline : server.notifications.Offline follower
    · have among := mem_offlineAmong.mpr ⟨member, offline⟩
      have some := List.ne_nil_of_mem among
      obtain ⟨unused, small⟩ := unclashing sender some
      rw [int32_of_small small] at count
      have sent := send_spec server.notifications notification followers sender known distinct count
      exact Or.inr ⟨sent.mem_pendingQueue.mpr (Or.inr ⟨among, rfl⟩), backs_send unused sent some⟩
    · exact Or.inl (givenTo_sendTweet sound.wired on.inserted member offline)

end Steps

end Server

end TwitterClone
