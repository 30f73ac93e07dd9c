import TwitterClone.Notification.Insertions
import TwitterClone.Server.Threads

/-! What holds of the threads and the subscriber maps in every state, whatever the
order of the steps: a reference leads to a consumer that is running for that user,
and nothing leaves a session queue except into the hands of its consumer. -/
namespace TwitterClone

open Foundation NotificationManager

/-- Between its `subscribe` and its `unsubscribe`. -/
def Consumer.Running : Consumer → Prop
  | .checking | .looking | .waiting | .writing _ | .leaving => True
  | .absent | .starting | .finished => False

/-- The notification that was taken from the queue and not sent yet. -/
def Consumer.inHand : Consumer → List Notification
  | .writing notification => [notification]
  | _ => []

/-- What was written is what was sent until the connection was lost. -/
structure Carried {α : Type} (sent written : List α) (broken : Bool) : Prop where
  begun : written <+: sent
  whole : broken = false → written = sent

theorem Carried.push {α : Type} {sent written : List α} {broken : Bool}
    (carried : Carried sent written broken) (item : α) :
    Carried (sent ++ [item]) (if broken then written else written ++ [item]) broken := by
  cases broken with
  | true => exact ⟨carried.begun.trans (List.prefix_append ..), nofun⟩
  | false =>
    rw [carried.whole rfl]
    exact ⟨List.prefix_refl _, fun _ => rfl⟩

namespace ClientConnection

/-- A reference under this key of this user may lead here. -/
def Attached (connection : ClientConnection) (user : Text) (key : Nat) : Prop :=
  connection.username = user ∧ uint32 connection.consumerId = key ∧ connection.consumer.Running

/-- What a connection keeps by itself. -/
structure Sane (connection : ClientConnection) : Prop where
  idle : connection.handler = .authorizing ∨ connection.handler = .starting →
    connection.consumer = .absent
  history : connection.appended =
    connection.sent ++ connection.consumer.inHand ++ connection.queue
  carried : Carried connection.sent connection.written connection.broken

theorem Sane.receive {connection : ClientConnection} (sane : connection.Sane)
    (notifications : List Notification) : (connection.receive notifications).Sane := by
  refine ⟨sane.idle, ?_, sane.carried⟩
  show connection.appended ++ notifications = _ ++ (connection.queue ++ notifications)
  rw [sane.history, List.append_assoc]
  rfl

theorem Sane.tryRemove {connection : ClientConnection} (sane : connection.Sane)
    (some : connection.consumer ≠ .absent) (empty : connection.consumer.inHand = []) :
    connection.tryRemove.Sane ∧ connection.tryRemove.username = connection.username ∧
      connection.tryRemove.consumerId = connection.consumerId ∧
      connection.tryRemove.consumer.Running := by
  have started : ¬ (connection.handler = .authorizing ∨ connection.handler = .starting) :=
    fun early => some (sane.idle early)
  have history := sane.history
  rw [empty, List.append_nil] at history
  unfold ClientConnection.tryRemove
  split
  next none =>
    rw [none] at history
    exact ⟨⟨fun early => absurd early started, by simpa [Consumer.inHand, none] using history,
      sane.carried⟩, rfl, rfl, trivial⟩
  next notification rest more =>
    rw [more] at history
    exact ⟨⟨fun early => absurd early started, by simpa [Consumer.inHand] using history,
      sane.carried⟩, rfl, rfl, trivial⟩

end ClientConnection

namespace Server

structure Wired (server : Server) : Prop where
  attached : ∀ user key index,
    (key, index) ∈ (server.notifications.queueOf user).subscribersQueue.entries →
      (server.connections index).Attached user key
  sane : ∀ index, (server.connections index).Sane
  drained : OnlineDrained server.notifications

theorem connections_setConnection (server : Server) (index other : QueueRef)
    (connection : ClientConnection) :
    (server.setConnection index connection).connections other =
      if other = index then connection else server.connections other :=
  Function.update_apply ..

section Elsewhere

variable {server next : Server} {other : QueueRef}

private theorem receive_nil (connection : ClientConnection) :
    connection.receive [] = connection := by
  simp [ClientConnection.receive]

private theorem elsewhere_changed {index : QueueRef} {connection : ClientConnection}
    (away : index ≠ other)
    (connections : next.connections = Function.update server.connections index connection) :
    ∃ given, next.connections other = (server.connections other).receive given :=
  ⟨[], by rw [connections, Function.update_of_ne away.symm, receive_nil]⟩

private theorem elsewhere_deliver {index : QueueRef} {connection : ClientConnection}
    (away : index ≠ other) (call : Call) :
    ∃ given, ((server.deliver call).setConnection index connection).connections other =
      (server.connections other).receive given :=
  ⟨received call.inserted other, Function.update_of_ne away.symm ..⟩

/-- A step of one connection's threads moves no other thread: it can only give
notifications to other session queues. -/
theorem elsewhere_step {onUpdateCallback : ProfileManager → Bool} {action : ServerAction}
    (taken : Server.step onUpdateCallback server action = some next)
    (away : action.index ≠ other) :
    ∃ given, next.connections other = (server.connections other).receive given := by
  cases action with
  | handler index action =>
    change index ≠ other at away
    cases handlerMove_of_taken taken with
    | refuse | login | startConsumer | answerLogin | readFollowers | answerSend | leave | stop
    | join | closeSession => exact elsewhere_changed away rfl
    | follow userToFollow serving => exact ⟨[], (receive_nil _).symm⟩
    | send notification followers sending => exact elsewhere_deliver away _
  | consumer index action =>
    change index ≠ other at away
    cases consumerMove_of_taken taken with
    | check | look | wake | timeout | write => exact elsewhere_changed away rfl
    | subscribe starting => exact elsewhere_deliver away _
    | unsubscribe leaving => exact elsewhere_deliver away _
  | lose index =>
    obtain rfl := Option.some.inj taken
    exact elsewhere_changed away rfl

theorem elsewhere_run {onUpdateCallback : ProfileManager → Bool} {actions : List ServerAction}
    {final : Server} (reached : run (Server.step onUpdateCallback) server actions = some final)
    (away : ∀ action ∈ actions, action.index ≠ other) :
    ∃ given, final.connections other = (server.connections other).receive given := by
  induction actions generalizing server with
  | nil => exact ⟨[], by rw [← Option.some.inj reached, receive_nil]⟩
  | cons action rest ih =>
    obtain ⟨next, taken, after⟩ := run_cons.mp reached
    obtain ⟨first, here⟩ := elsewhere_step taken (away action List.mem_cons_self)
    obtain ⟨later, there⟩ := ih after fun other member => away other (List.mem_cons_of_mem _ member)
    refine ⟨first ++ later, ?_⟩
    rw [there, here]
    simp [ClientConnection.receive]

/-- Only a client whose threads have taken a step has a name. -/
theorem acted_of_username {onUpdateCallback : ProfileManager → Bool}
    {actions : List ServerAction} {final : Server}
    (reached : run (Server.step onUpdateCallback) server actions = some final)
    (fresh : (server.connections other).username = [])
    (named : (final.connections other).username ≠ []) :
    ∃ action ∈ actions, action.index = other := by
  by_contra none
  push Not at none
  obtain ⟨given, same⟩ := elsewhere_run reached none
  rw [same] at named
  exact named fresh

end Elsewhere

section Preserved

variable {server : Server}

/-- A step that changes one connection and keeps it attached. Users and
acknowledgements play no part. -/
theorem Wired.changed (wired : server.Wired) {next : Server} (index : QueueRef)
    {connection : ClientConnection} (notifications : next.notifications = server.notifications)
    (connections : next.connections = Function.update server.connections index connection)
    (sane : connection.Sane)
    (kept : ∀ user key, (server.connections index).Attached user key →
      connection.Attached user key) : next.Wired := by
  refine ⟨?_, ?_, notifications ▸ wired.drained⟩
  · intro user key other entry
    rw [notifications] at entry
    have before := wired.attached user key other entry
    rw [connections, Function.update_apply]
    split
    next here => exact kept user key (here ▸ before)
    next => exact before
  · intro other
    rw [connections, Function.update_apply]
    split
    next => exact sane
    next => exact wired.sane other

theorem Wired.reaches (wired : server.Wired) {call : Call} {users : List Text}
    (reached : Reaches server.notifications call.manager call.inserted users) :
    (server.deliver call).Wired := by
  refine ⟨?_, fun index => (wired.sane index).receive _, wired.drained.reaches reached⟩
  intro user key index entry
  rw [deliver, reached.subscribers] at entry
  exact wired.attached user key index entry

theorem Wired.sendTweet (wired : server.Wired) {index : QueueRef} {notification : Notification}
    {followers : List Text} :
    (server.sendTweet index notification followers).Wired := by
  have delivered := wired.reaches (send_reaches server.notifications notification followers)
  refine delivered.changed index rfl rfl ?_ ?_
  · have sane := delivered.sane index
    exact ⟨by simp, sane.history, sane.carried⟩
  · exact fun _ _ attached => attached

theorem Wired.subscribe (wired : server.Wired) {index : QueueRef}
    (consumer : (server.connections index).consumer = .starting) :
    (server.subscribe index).Wired := by
  obtain ⟨queues, -⟩ := subscribe_frame server.notifications (server.connections index).username
    (server.connections index).consumerId index
  have sane := wired.sane index
  have started : ¬ ((server.connections index).handler = .authorizing ∨
      (server.connections index).handler = .starting) := by
    intro early
    rw [sane.idle early] at consumer
    cases consumer
  unfold Server.subscribe
  refine ⟨?_, ?_, ?_⟩
  · intro user key other entry
    change (key, other) ∈ ((server.notifications.subscribe _ _ index).manager.queueOf
      user).subscribersQueue.entries at entry
    rw [queues] at entry
    rw [connections_setConnection]
    have old : (key, other) ∈ (server.notifications.queueOf user).subscribersQueue.entries →
        (server.connections other).Attached user key := wired.attached user key other
    split at entry
    next same =>
      by_cases known : uint32 (server.connections index).consumerId ∈
          (server.notifications.queueOf (server.connections index).username).subscribersQueue
      · simp only [NotificationQueue.subscribe, UnorderedMap.emplace_of_mem _ _ _ known] at entry
        have before := old (same ▸ entry)
        rw [if_neg]
        · exact before
        · intro here
          rw [here, ClientConnection.Attached, consumer] at before
          exact before.2.2
      · simp only [NotificationQueue.subscribe,
          UnorderedMap.entries_emplace_of_notMem _ _ _ known] at entry
        rcases List.mem_append.mp entry with before | new
        · have before := old (same ▸ before)
          rw [if_neg]
          · exact before
          · intro here
            rw [here, ClientConnection.Attached, consumer] at before
            exact before.2.2
        · obtain ⟨rfl, rfl⟩ := Prod.mk.inj (List.mem_singleton.mp new)
          rw [if_pos rfl]
          exact ⟨same.symm, rfl, trivial⟩
    next =>
      have before := old entry
      rw [if_neg]
      · exact before
      · intro here
        rw [here, ClientConnection.Attached, consumer] at before
        exact before.2.2
  · intro other
    rw [connections_setConnection]
    split
    next =>
      refine ⟨fun early => absurd early started, ?_, sane.carried⟩
      have history := (sane.receive (received (server.notifications.subscribe
        (server.connections index).username (server.connections index).consumerId
        index).inserted index)).history
      simpa [Server.deliver, ClientConnection.receive, consumer, Consumer.inHand] using history
    next => exact (wired.sane other).receive _
  · intro user online
    change ((server.notifications.subscribe _ _ index).manager.queueOf user).hasSubscribers = true
      at online
    show ((server.notifications.subscribe _ _ index).manager.queueOf user).pendingQueue = []
    rw [queues] at online ⊢
    split at online
    next same => rw [if_pos same]
    next different =>
      rw [if_neg different]
      exact wired.drained user online

theorem Wired.unsubscribe (wired : server.Wired) {index : QueueRef}
    (consumer : (server.connections index).consumer = .leaving) :
    (server.unsubscribe index).Wired := by
  have sane := wired.sane index
  unfold Server.unsubscribe
  refine ⟨?_, ?_, ?_⟩
  · intro user key other entry
    change (key, other) ∈ ((server.notifications.unsubscribe _ _).manager.queueOf
      user).subscribersQueue.entries at entry
    rw [queueOf_unsubscribe] at entry
    have before : (server.connections other).Attached user key ∧ other ≠ index := by
      split at entry
      next same =>
        obtain ⟨inside, different⟩ := List.mem_filter.mp entry
        have attached := wired.attached user key other (same ▸ inside)
        refine ⟨attached, ?_⟩
        intro here
        rw [here] at attached
        simp [attached.2.1] at different
      next different =>
        have attached := wired.attached user key other entry
        refine ⟨attached, ?_⟩
        intro here
        exact different (here ▸ attached.1.symm)
    rw [connections_setConnection, if_neg before.2]
    exact before.1
  · intro other
    rw [connections_setConnection]
    split
    next =>
      have history := (sane.receive (received (server.notifications.unsubscribe
        (server.connections index).username (server.connections index).consumerId).inserted
        index)).history
      refine ⟨?_, ?_, sane.carried⟩
      · intro early
        have absent := sane.idle early
        rw [consumer] at absent
        cases absent
      · simpa [Server.deliver, ClientConnection.receive, consumer, Consumer.inHand] using history
    next => exact (wired.sane other).receive _
  · exact wired.drained.unsubscribe _ _

/-- A handler that has its consumer only moves on. -/
private theorem Wired.moveOn (wired : server.Wired) {next : Server} (index : QueueRef)
    {handler : Handler} {shouldStop : Bool}
    (later : handler ≠ .authorizing ∧ handler ≠ .starting)
    (notifications : next.notifications = server.notifications)
    (connections : next.connections = Function.update server.connections index
      { server.connections index with handler, shouldStop }) : next.Wired := by
  apply wired.changed index notifications connections
  · refine ⟨?_, (wired.sane index).history, (wired.sane index).carried⟩
    rintro (first | second)
    · exact absurd first later.1
    · exact absurd second later.2
  · exact fun _ _ attached => attached

theorem Wired.handlerStep (wired : server.Wired) {onUpdateCallback : ProfileManager → Bool}
    {index : QueueRef} {action : HandlerAction} {next : Server}
    (taken : server.handlerStep onUpdateCallback index action = some next) : next.Wired := by
  have sane := wired.sane index
  have unattached : (server.connections index).consumer = .absent →
      ∀ user key, ¬ (server.connections index).Attached user key := by
    intro absent user key attached
    rw [ClientConnection.Attached, absent] at attached
    exact attached.2.2
  cases handlerMove_of_taken taken with
  | refuse | answerLogin | readFollowers | answerSend | leave | stop | join | closeSession =>
    exact wired.moveOn index ⟨by simp, by simp⟩ rfl rfl
  | login username threadId authorizing =>
    have absent := sane.idle (Or.inl authorizing)
    refine wired.changed index rfl rfl
      ⟨fun _ => absent, sane.history, sane.carried⟩ ?_
    exact fun user key attached => absurd attached (unattached absent user key)
  | startConsumer consumerId starting =>
    have absent := sane.idle (Or.inr starting)
    have history := sane.history
    rw [absent] at history
    refine wired.changed index rfl rfl
      ⟨by simp, history, sane.carried⟩ ?_
    exact fun user key attached => absurd attached (unattached absent user key)
  | follow userToFollow serving => exact ⟨wired.attached, wired.sane, wired.drained⟩
  | send notification followers sending => exact wired.sendTweet

/-- A consumer in its loop stays attached while it goes round. -/
private theorem Wired.goRound (wired : server.Wired) (index : QueueRef)
    {connection : ClientConnection} (sane : connection.Sane)
    (username : connection.username = (server.connections index).username)
    (consumerId : connection.consumerId = (server.connections index).consumerId)
    (running : connection.consumer.Running) : (server.setConnection index connection).Wired := by
  refine wired.changed index rfl rfl sane ?_
  intro user key attached
  exact ⟨username.trans attached.1, consumerId ▸ attached.2.1, running⟩

theorem Wired.consumerStep (wired : server.Wired) {index : QueueRef} {action : ConsumerAction}
    {next : Server} (taken : server.consumerStep index action = some next) : next.Wired := by
  have sane := wired.sane index
  have history := sane.history
  have started : (server.connections index).consumer ≠ .absent →
      ¬ ((server.connections index).handler = .authorizing ∨
        (server.connections index).handler = .starting) :=
    fun some early => some (sane.idle early)
  cases consumerMove_of_taken taken with
  | subscribe starting => exact wired.subscribe starting
  | check checking =>
    rw [checking] at history started
    have sane : ∀ next, next.inHand = [] → ClientConnection.Sane
        { server.connections index with consumer := next } := fun next empty =>
      ⟨fun early => absurd early (started (by simp)), by rw [history, empty]; rfl,
        sane.carried⟩
    refine wired.goRound index (sane _ ?_) rfl rfl ?_
    · split <;> rfl
    · dsimp only
      split <;> trivial
  | look looking =>
    obtain ⟨next, username, consumerId, running⟩ :=
      sane.tryRemove (by simp [looking]) (by rw [looking]; rfl)
    exact wired.goRound index next username consumerId running
  | wake waiting =>
    obtain ⟨next, username, consumerId, running⟩ :=
      sane.tryRemove (by simp [waiting]) (by rw [waiting]; rfl)
    exact wired.goRound index next username consumerId running
  | timeout waiting =>
    rw [waiting] at history started
    exact wired.goRound index ⟨fun early => absurd early (started (by simp)), history,
      sane.carried⟩ rfl rfl trivial
  | write notification writing =>
    rw [writing] at history started
    refine wired.goRound index ⟨fun early => absurd early (started (by simp)), ?_,
      sane.carried.push notification⟩ rfl rfl trivial
    show (server.connections index).appended = _
    rw [history]
    exact (List.append_nil _).symm ▸ rfl
  | unsubscribe leaving => exact wired.unsubscribe leaving

/-- What is lost with a connection is not its threads. -/
theorem Wired.lose (wired : server.Wired) (index : QueueRef) : (server.lose index).Wired := by
  have sane := wired.sane index
  refine wired.changed index rfl rfl
    ⟨sane.idle, sane.history, ⟨sane.carried.begun, nofun⟩⟩ ?_
  exact fun _ _ attached => attached

/-- Every step keeps the threads wired. -/
theorem Wired.step (wired : server.Wired) {onUpdateCallback : ProfileManager → Bool}
    {action : ServerAction} {next : Server}
    (taken : Server.step onUpdateCallback server action = some next) : next.Wired := by
  cases action with
  | handler index action => exact wired.handlerStep taken
  | consumer index action => exact wired.consumerStep taken
  | lose index =>
    obtain rfl := Option.some.inj taken
    exact wired.lose index

theorem wired_start (users : UnorderedMap Text User) : (Server.start users).Wired := by
  have queues : ∀ user, (Server.start users).notifications.queueOf user = {} := by
    intro user
    exact World.queueOf_loadUsers {} users.keys user
  refine ⟨?_, fun _ => ⟨fun _ => rfl, rfl, ⟨List.prefix_refl _, fun _ => rfl⟩⟩, ?_⟩
  · intro user key index entry
    rw [queues] at entry
    cases entry
  · intro user _
    rw [queues]

end Preserved

end Server

end TwitterClone
