import TwitterClone.Server.Wiring

/-! What becomes of the session queue of a client that disconnects. The consumer
looks at its stop flag before it looks at its queue, and it is subscribed a while
longer than it reads. -/
namespace TwitterClone

open Foundation NotificationManager

/-- The consumer has left its loop. -/
def Consumer.Ended (consumer : Consumer) : Prop := consumer = .leaving ∨ consumer = .finished

namespace Server

/-- Once a consumer thread has ended, everything its queue was given has been
written to the client or is pending again. -/
def NothingLost (server : Server) : Prop :=
  ∀ index, (server.connections index).consumer = .finished → ∀ notification,
    (server.connections index).appended.count notification ≤
      (server.connections index).written.count notification +
        (server.notifications.queueOf (server.connections index).username).pendingQueue.count
          ⟨notification.username, notification.id⟩

/-- What is sent goes to no consumer between its loop and its `unsubscribe`. -/
def SparesLeaving (server : Server) : Handler → Prop
  | .sending notification followers =>
    notification.username ∈ server.notifications.notifications → ∀ follower ∈ followers,
      ∀ entry ∈ (server.notifications.queueOf follower).subscribersQueue.entries,
        (server.connections entry.2).consumer ≠ .leaving
  | _ => True

instance (server : Server) : (handler : Handler) → Decidable (server.SparesLeaving handler)
  | .sending _ _ => inferInstanceAs (Decidable (_ → _))
  | .authorizing | .starting | .answering | .serving | .sent _ | .stopping | .joining | .closing
  | .finished => isTrue trivial

/-- A consumer sees its stop flag only with an empty queue, it writes nothing on a lost
connection, and no tweet is sent to a consumer that has left its loop. -/
def Orderly (server : Server) : ServerAction → Prop
  | .consumer index .check =>
    (server.connections index).consumer = .checking →
      (server.connections index).shouldStop = true → (server.connections index).queue = []
  | .consumer index .write => (server.connections index).broken = false
  | .handler index .send => server.SparesLeaving (server.connections index).handler
  | _ => True

instance (server : Server) : (action : ServerAction) → Decidable (server.Orderly action)
  | .consumer _ .check => inferInstanceAs (Decidable (_ → _ → _))
  | .consumer _ .write => inferInstanceAs (Decidable (_ = _))
  | .handler _ .send => inferInstanceAs (Decidable (server.SparesLeaving _))
  | .consumer _ .subscribe | .consumer _ .look | .consumer _ .wake | .consumer _ .timeout
  | .consumer _ .unsubscribe | .lose _ | .handler _ .refuse | .handler _ (.login _ _)
  | .handler _ (.startConsumer _) | .handler _ .answerLogin | .handler _ (.follow _)
  | .handler _ (.readFollowers _ _) | .handler _ .answerSend | .handler _ .leave
  | .handler _ .stop | .handler _ .join | .handler _ .closeSession => isTrue trivial

/-- The queues of consumers that have left their loops are empty. -/
def Emptied (server : Server) : Prop :=
  ∀ index, (server.connections index).consumer.Ended → (server.connections index).queue = []

/-- Whatever was sent was written, also on connections that were lost since. -/
def AllWritten (server : Server) : Prop :=
  ∀ index, (server.connections index).written = (server.connections index).sent

theorem received_eq_nil {inserted : List Insertion} {index : QueueRef}
    (elsewhere : ∀ insertion ∈ inserted, insertion.queue ≠ index) :
    received inserted index = [] := by
  have none : inserted.filter (·.queue = index) = [] := by
    rw [List.filter_eq_nil_iff]
    intro insertion member
    simpa using elsewhere insertion member
  rw [received, none]
  rfl

section Steps

variable {server : Server}

theorem Emptied.changed (emptied : server.Emptied) {next : Server} (index : QueueRef)
    {connection : ClientConnection}
    (connections : next.connections = Function.update server.connections index connection)
    (empty : connection.consumer.Ended → connection.queue = []) : next.Emptied := by
  intro other ended
  rw [connections, Function.update_apply] at ended ⊢
  split at ended
  next here => rw [if_pos here]; exact empty ended
  next away => rw [if_neg away]; exact emptied other ended

/-- A call that gives nothing to a consumer past its loop. -/
theorem Emptied.deliver (emptied : server.Emptied) (call : Call)
    (spared : ∀ insertion ∈ call.inserted,
      ¬ (server.connections insertion.queue).consumer.Ended) : (server.deliver call).Emptied := by
  intro index ended
  have none : received call.inserted index = [] :=
    received_eq_nil fun insertion member same => spared insertion member (same ▸ ended)
  show (server.connections index).queue ++ received call.inserted index = []
  rw [none, List.append_nil]
  exact emptied index ended

theorem Wired.running (wired : server.Wired) {user : Text} {index : QueueRef}
    (refers : server.notifications.Refers user index) :
    (server.connections index).consumer.Running := by
  obtain ⟨key, entry⟩ := refers
  exact (wired.attached user key index entry).2.2

theorem Emptied.sendTweet (emptied : server.Emptied) (wired : server.Wired) {index : QueueRef}
    {notification : Notification} {followers : List Text}
    (handler : (server.connections index).handler = .sending notification followers)
    (orderly : server.Orderly (.handler index .send)) :
    (server.sendTweet index notification followers).Emptied := by
  have delivered := emptied.deliver (server.notifications.send notification followers) (by
    intro insertion member ended
    obtain ⟨user, inside, refers⟩ :=
      (send_reaches server.notifications notification followers).targets insertion member
    split at inside
    next sender =>
      rcases ended with leaving | finished
      · rw [Orderly, handler, SparesLeaving] at orderly
        obtain ⟨key, entry⟩ := refers
        exact orderly sender user inside (key, insertion.queue) entry leaving
      · have running := wired.running refers
        rw [finished] at running
        exact running
    next => cases inside)
  exact delivered.changed index rfl (delivered index)

theorem Emptied.subscribe (emptied : server.Emptied) (wired : server.Wired) {index : QueueRef}
    (consumer : (server.connections index).consumer = .starting) :
    (server.subscribe index).Emptied := by
  obtain ⟨queues, targets⟩ := subscribe_frame server.notifications
    (server.connections index).username (server.connections index).consumerId index
  have delivered := emptied.deliver (server.notifications.subscribe
      (server.connections index).username (server.connections index).consumerId index) (by
    intro insertion member ended
    obtain ⟨backlog, key, entry⟩ := targets insertion member
    rw [queues, if_pos rfl] at entry
    -- a user with backlog had nobody subscribed, so the reference is the new one
    have nobody : (server.notifications.queueOf
        (server.connections index).username).subscribersQueue.entries = [] := by
      by_contra some
      exact backlog (wired.drained _ (by simpa [NotificationQueue.hasSubscribers] using some))
    have absent : uint32 (server.connections index).consumerId ∉
        (server.notifications.queueOf (server.connections index).username).subscribersQueue := by
      rw [← UnorderedMap.mem_keys, UnorderedMap.keys, nobody]
      exact List.not_mem_nil
    simp only [NotificationQueue.subscribe,
      UnorderedMap.entries_emplace_of_notMem _ _ _ absent, nobody, List.nil_append] at entry
    obtain ⟨-, here⟩ := Prod.mk.inj (List.mem_singleton.mp entry)
    rw [here, Consumer.Ended, consumer] at ended
    simp at ended)
  exact delivered.changed index rfl (by simp [Consumer.Ended])

theorem Emptied.handlerStep (emptied : server.Emptied) (wired : server.Wired)
    {onUpdateCallback : ProfileManager → Bool} {index : QueueRef} {action : HandlerAction}
    {next : Server} (orderly : server.Orderly (.handler index action))
    (taken : server.handlerStep onUpdateCallback index action = some next) : next.Emptied := by
  have here := emptied index
  cases handlerMove_of_taken taken with
  | refuse | login | answerLogin | readFollowers | answerSend | leave | stop | join
  | closeSession => exact emptied.changed index rfl here
  | startConsumer consumerId starting =>
    exact emptied.changed index rfl (by simp [Consumer.Ended])
  | follow userToFollow serving => exact emptied
  | send notification followers sending => exact emptied.sendTweet wired sending orderly

theorem not_ended_tryRemove (connection : ClientConnection) :
    ¬ connection.tryRemove.consumer.Ended := by
  unfold ClientConnection.tryRemove
  split <;> simp [Consumer.Ended]

theorem Emptied.consumerStep (emptied : server.Emptied) (wired : server.Wired)
    {index : QueueRef} {action : ConsumerAction} {next : Server}
    (orderly : server.Orderly (.consumer index action))
    (taken : server.consumerStep index action = some next) : next.Emptied := by
  cases consumerMove_of_taken taken with
  | subscribe starting => exact emptied.subscribe wired starting
  | check checking =>
    refine emptied.changed index rfl ?_
    dsimp only
    split
    next stopped => exact fun _ => orderly checking stopped
    next => simp [Consumer.Ended]
  | look | wake =>
    exact emptied.changed index rfl fun ended => absurd ended (not_ended_tryRemove _)
  | timeout => exact emptied.changed index rfl (by simp [Consumer.Ended])
  | write => exact emptied.changed index rfl (by simp [ClientConnection.write, Consumer.Ended])
  | unsubscribe leaving =>
    have delivered := emptied.deliver (server.notifications.unsubscribe
      (server.connections index).username (server.connections index).consumerId) (by
        simp [NotificationManager.unsubscribe])
    exact delivered.changed index rfl fun _ => delivered index (Or.inl leaving)

theorem Emptied.step (emptied : server.Emptied) (wired : server.Wired)
    {onUpdateCallback : ProfileManager → Bool} {action : ServerAction} {next : Server}
    (orderly : server.Orderly action)
    (taken : Server.step onUpdateCallback server action = some next) : next.Emptied := by
  cases action with
  | handler index action => exact emptied.handlerStep wired orderly taken
  | consumer index action => exact emptied.consumerStep wired orderly taken
  | lose index =>
    obtain rfl := Option.some.inj taken
    exact emptied.changed index rfl (emptied index)

theorem AllWritten.changed (written : server.AllWritten) {next : Server} (index : QueueRef)
    {connection : ClientConnection}
    (connections : next.connections = Function.update server.connections index connection)
    (same : connection.written = connection.sent) : next.AllWritten := by
  intro other
  rw [connections, Function.update_apply]
  split
  next => exact same
  next => exact written other

theorem AllWritten.step (written : server.AllWritten)
    {onUpdateCallback : ProfileManager → Bool} {action : ServerAction} {next : Server}
    (orderly : server.Orderly action)
    (taken : Server.step onUpdateCallback server action = some next) : next.AllWritten := by
  have delivered : ∀ call, (server.deliver call).AllWritten := fun _ => written
  cases action with
  | handler index action =>
    have here := written index
    cases handlerMove_of_taken taken with
    | refuse | login | startConsumer | answerLogin | readFollowers | answerSend | leave | stop
    | join | closeSession => exact written.changed index rfl here
    | follow userToFollow serving => exact written
    | send notification followers sending => exact (delivered _).changed index rfl here
  | consumer index action =>
    have here := written index
    cases consumerMove_of_taken taken with
    | check | timeout => exact written.changed index rfl here
    | look | wake =>
      refine written.changed index rfl ?_
      unfold ClientConnection.tryRemove
      split <;> exact here
    | write notification writing =>
      refine written.changed index rfl ?_
      have unbroken : (server.connections index).broken = false := orderly
      simp only [ClientConnection.write, unbroken, here, Bool.false_eq_true, if_false]
    | subscribe | unsubscribe => exact (delivered _).changed index rfl here
  | lose index =>
    obtain rfl := Option.some.inj taken
    exact written.changed index rfl (written index)

theorem Emptied.nothingLost (emptied : server.Emptied) (wired : server.Wired)
    (written : server.AllWritten) : server.NothingLost := by
  intro index finished notification
  have history := (wired.sane index).history
  rw [emptied index (Or.inr finished), finished, ← written index] at history
  have same : (server.connections index).appended = (server.connections index).written := by
    simpa [Consumer.inHand] using history
  rw [same]
  exact Nat.le_add_right _ _

end Steps

/-- In every run whose steps are orderly, whatever their order, no ended consumer
has lost a notification. -/
theorem nothingLost_of_run (onUpdateCallback : ProfileManager → Bool)
    (users : UnorderedMap Text User) (actions : List ServerAction) (server : Server)
    (orderly : AllMeet (Server.step onUpdateCallback) Orderly (start users) actions)
    (reached : run (Server.step onUpdateCallback) (start users) actions = some server) :
    server.NothingLost := by
  have step : ∀ (server : Server) (action : ServerAction) (next : Server),
      server.Wired ∧ server.Emptied ∧ server.AllWritten → server.Orderly action →
        Server.step onUpdateCallback server action = some next →
          next.Wired ∧ next.Emptied ∧ next.AllWritten := by
    intro server action next before orderly taken
    obtain ⟨wired, emptied, written⟩ := before
    exact ⟨wired.step taken, emptied.step wired orderly taken, written.step orderly taken⟩
  have begun : (start users).Wired ∧ (start users).Emptied ∧ (start users).AllWritten :=
    ⟨wired_start users, fun _ _ => rfl, fun _ => rfl⟩
  obtain ⟨wired, emptied, written⟩ := run_preserves step begun orderly reached
  exact emptied.nothingLost wired written

/-- Two clients log in, and the first one follows the second. -/
def twoClients : List ServerAction :=
  [.handler 0 (.login ['b'] 10), .handler 0 (.startConsumer 11), .handler 0 .answerLogin,
    .consumer 0 .subscribe, .handler 1 (.login ['a'] 20), .handler 1 (.startConsumer 21),
    .handler 1 .answerLogin, .consumer 1 .subscribe, .handler 0 (.follow ['a'])]

/-- The second client sends a tweet. -/
def oneTweet : List ServerAction :=
  [.handler 1 (.readFollowers ['h', 'i'] 5), .handler 1 .send, .handler 1 .answerSend]

/-- The tweet is written before the first client disconnects. -/
def writtenFirst : List ServerAction :=
  List.flatten [twoClients, oneTweet,
    [.consumer 0 .check, .consumer 0 .look, .consumer 0 .write, .handler 0 .leave, .handler 0 .stop,
      .consumer 0 .check, .consumer 0 .unsubscribe, .handler 0 .join, .handler 0 .closeSession]]

theorem nothingLost_of_writtenFirst :
    ∃ server, run (Server.step fun _ => true) (start ∅) writtenFirst = some server ∧
      server.NothingLost :=
  ⟨_, rfl, nothingLost_of_run (fun _ => true) ∅ writtenFirst _ (by decide) rfl⟩

/-- The first client disconnects while the tweet is in its session queue. -/
def stoppedFirst : List ServerAction :=
  List.flatten [twoClients, oneTweet,
    [.handler 0 .leave, .handler 0 .stop, .consumer 0 .check, .consumer 0 .unsubscribe]]

theorem not_nothingLost_of_stoppedFirst :
    ∃ server, run (Server.step fun _ => true) (start ∅) stoppedFirst = some server ∧
      ¬ server.NothingLost :=
  ⟨_, rfl, fun holds => absurd (holds 0 rfl ⟨1, 5, ['a'], 1, ['h', 'i']⟩) (by decide)⟩

end Server

end TwitterClone
