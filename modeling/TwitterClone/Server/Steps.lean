import TwitterClone.Notification.ExactlyOnce
import TwitterClone.Profile.FollowGraph
import TwitterClone.Server.Wiring

/-! What a step of the threads can do, said once, and what holds of the handlers and the
session queues in every state, whoever is registered. -/
namespace TwitterClone

open Foundation NotificationManager

/-- The step is a call of the notification manager, which holds its mutex. -/
def ServerAction.locks : ServerAction → Bool
  | .handler _ .send | .consumer _ .subscribe | .consumer _ .unsubscribe => true
  | _ => false

namespace Server

/-- A step without a call of the notification manager: one connection moves on. -/
structure Quiet (server next : Server) (index : QueueRef) (connection : ClientConnection) :
    Prop where
  notifications : next.notifications = server.notifications
  connections : next.connections = Function.update server.connections index connection
  appended : connection.appended = (server.connections index).appended
  written : (server.connections index).written ⊆ connection.written
  username : connection.username = (server.connections index).username ∨
    (server.connections index).consumer = .absent
  absent : connection.consumer = .absent → (server.connections index).consumer = .absent
  distinct : server.profiles.DistinctFollowers → next.profiles.DistinctFollowers
  draft : server.profiles.DistinctFollowers → ∀ notification followers,
    connection.handler = .sending notification followers →
      (server.connections index).handler = .sending notification followers ∨
        followers.Nodup ∧ notification.pendingCount = int32 followers.length
  tweet : ∀ tweet, connection.handler = .sent tweet →
    (server.connections index).handler = .sent tweet
  acknowledged : ∀ tweet ∈ next.acknowledged,
    tweet ∈ server.acknowledged ∨ (server.connections index).handler = .sent tweet

/-- What one step makes of a server. -/
inductive Stepped (server : Server) : ServerAction → Server → Prop where
  | quiet (action : ServerAction) (next : Server) (connection : ClientConnection)
      (unlocked : action.locks = false) (quiet : Quiet server next action.index connection) :
      Stepped server action next
  | sent (index : QueueRef) (notification : Notification) (followers : List Text)
      (handler : (server.connections index).handler = .sending notification followers) :
      Stepped server (.handler index .send) (server.sendTweet index notification followers)
  | subscribed (index : QueueRef)
      (consumer : (server.connections index).consumer = .starting) :
      Stepped server (.consumer index .subscribe) (server.subscribe index)
  | unsubscribed (index : QueueRef)
      (consumer : (server.connections index).consumer = .leaving) :
      Stepped server (.consumer index .unsubscribe) (server.unsubscribe index)

section Inversion

variable {server next : Server} {index : QueueRef}

/-- The handler moves on to something other than a tweet. -/
private theorem quiet_moveOn {handler : Handler} {shouldStop : Bool}
    (noDraft : ∀ notification followers, handler ≠ .sending notification followers)
    (noTweet : ∀ tweet, handler ≠ .sent tweet)
    (distinct : server.profiles.DistinctFollowers → next.profiles.DistinctFollowers)
    (notifications : next.notifications = server.notifications)
    (acknowledged : next.acknowledged = server.acknowledged)
    (connections : next.connections = Function.update server.connections index
      { server.connections index with handler, shouldStop }) :
    Quiet server next index { server.connections index with handler, shouldStop } where
  notifications := notifications
  connections := connections
  appended := rfl
  written := List.Subset.refl _
  username := Or.inl rfl
  absent := id
  distinct := distinct
  draft := fun _ notification followers same => absurd same (noDraft notification followers)
  tweet := fun tweet same => absurd same (noTweet tweet)
  acknowledged := fun _ member => Or.inl (acknowledged ▸ member)

/-- The consumer goes on with its loop. -/
private theorem quiet_goRound {connection : ClientConnection}
    (appended : connection.appended = (server.connections index).appended)
    (written : (server.connections index).written ⊆ connection.written)
    (username : connection.username = (server.connections index).username)
    (handler : connection.handler = (server.connections index).handler)
    (present : connection.consumer ≠ .absent) :
    Quiet server (server.setConnection index connection) index connection where
  notifications := rfl
  connections := rfl
  appended := appended
  written := written
  username := Or.inl username
  absent := fun absent => absurd absent present
  distinct := id
  draft := fun _ _ _ same => Or.inl (handler ▸ same)
  tweet := fun _ same => handler ▸ same
  acknowledged := fun _ member => Or.inl member

theorem tryRemove_frame (connection : ClientConnection) :
    connection.tryRemove.appended = connection.appended ∧
      connection.tryRemove.written = connection.written ∧
      connection.tryRemove.username = connection.username ∧
      connection.tryRemove.handler = connection.handler ∧
      connection.tryRemove.consumer ≠ .absent := by
  unfold ClientConnection.tryRemove
  split <;> simp

theorem written_write (connection : ClientConnection) (notification : Notification) :
    connection.written ⊆ (connection.write notification).written := by
  unfold ClientConnection.write
  dsimp only
  split
  · exact List.Subset.refl _
  · exact List.subset_append_left ..

private theorem stepped_handler (wired : server.Wired)
    {onUpdateCallback : ProfileManager → Bool} {action : HandlerAction}
    (taken : server.handlerStep onUpdateCallback index action = some next) :
    Stepped server (.handler index action) next := by
  have call := fun operation (distinct : server.profiles.DistinctFollowers) =>
    distinct.call onUpdateCallback operation
  cases handlerMove_of_taken taken with
  | refuse | answerLogin | leave | stop | join =>
    exact .quiet _ _ _ rfl (quiet_moveOn (by simp) (by simp) id rfl rfl rfl)
  | login username threadId authorizing =>
    refine .quiet _ _ _ rfl ⟨rfl, rfl, rfl, List.Subset.refl _, Or.inr ?_, id,
      call (.startSession username ⟨threadId, username⟩), ?_, ?_, fun _ => Or.inl⟩
    · exact (wired.sane index).idle (Or.inl authorizing)
    · intro _ notification followers handler
      dsimp only at handler
      split at handler <;> cases handler
    · intro tweet handler
      dsimp only at handler
      split at handler <;> cases handler
  | startConsumer consumerId starting =>
    exact .quiet _ _ _ rfl ⟨rfl, rfl, rfl, List.Subset.refl _, Or.inl rfl, by simp, id, by simp,
      by simp, fun _ => Or.inl⟩
  | follow userToFollow serving =>
    refine .quiet _ _ (server.connections index) rfl ⟨rfl, ?_, rfl, List.Subset.refl _, Or.inl rfl,
      id, call (.follow (server.connections index).username userToFollow),
      fun _ _ _ => Or.inl, fun _ => id, fun _ => Or.inl⟩
    exact (Function.update_eq_self ..).symm
  | readFollowers message timestamp serving =>
    refine .quiet _ _ _ rfl ⟨rfl, rfl, rfl, List.Subset.refl _, Or.inl rfl, id, id, ?_, by simp,
      fun _ => Or.inl⟩
    intro distinct notification followers handler
    obtain ⟨rfl, rfl⟩ := Handler.sending.inj handler
    exact Or.inr ⟨ProfileManager.nodup_followersOf distinct _, rfl⟩
  | send notification followers sending => exact .sent index notification followers sending
  | answerSend tweet sent =>
    refine .quiet _ _ _ rfl ⟨rfl, rfl, rfl, List.Subset.refl _, Or.inl rfl, id, id, by simp, by simp,
      ?_⟩
    intro other member
    rcases List.mem_cons.mp member with new | old
    · exact Or.inr (new ▸ sent)
    · exact Or.inl old
  | closeSession closing =>
    exact .quiet _ _ _ rfl (quiet_moveOn (by simp) (by simp)
      (call (.closeSession (server.connections index).username (server.connections index).threadId))
      rfl rfl rfl)

private theorem stepped_consumer {action : ConsumerAction}
    (taken : server.consumerStep index action = some next) :
    Stepped server (.consumer index action) next := by
  obtain ⟨appended, written, username, handler, present⟩ :=
    tryRemove_frame (server.connections index)
  have removed : Quiet server
      (server.setConnection index (server.connections index).tryRemove) index _ :=
    quiet_goRound appended (written ▸ List.Subset.refl _) username handler present
  cases consumerMove_of_taken taken with
  | subscribe starting => exact .subscribed index starting
  | check checking =>
    refine .quiet _ _ _ rfl (quiet_goRound rfl (List.Subset.refl _) rfl rfl ?_)
    dsimp only
    split <;> simp
  | look | wake => exact .quiet _ _ _ rfl removed
  | timeout waiting =>
    exact .quiet _ _ _ rfl (quiet_goRound rfl (List.Subset.refl _) rfl rfl (by simp))
  | write notification writing =>
    exact .quiet _ _ _ rfl (quiet_goRound rfl (written_write _ notification) rfl rfl
      (by simp [ClientConnection.write]))
  | unsubscribe leaving => exact .unsubscribed index leaving

theorem stepped_of_step (wired : server.Wired) {onUpdateCallback : ProfileManager → Bool}
    {action : ServerAction} (taken : Server.step onUpdateCallback server action = some next) :
    Stepped server action next := by
  cases action with
  | handler index action => exact stepped_handler wired taken
  | consumer index action => exact stepped_consumer taken
  | lose index =>
    obtain rfl := Option.some.inj taken
    exact .quiet _ _ _ rfl ⟨rfl, rfl, rfl, List.Subset.refl _, Or.inl rfl, id, id,
      fun _ _ _ => Or.inl, fun _ => id, fun _ => Or.inl⟩

end Inversion

/-- Nothing is taken out of the history of a session queue. -/
def Grows (server next : Server) : Prop :=
  ∀ index, ∀ copy ∈ (server.connections index).appended,
    (next.connections index).username = (server.connections index).username ∧
      copy ∈ (next.connections index).appended

/-- What every reached server keeps, whoever is registered. -/
structure Sound (server : Server) : Prop where
  wired : server.Wired
  distinct : server.profiles.DistinctFollowers
  unused : ∀ index, (server.connections index).consumer = .absent →
    (server.connections index).appended = []
  drafts : ∀ index notification followers,
    (server.connections index).handler = .sending notification followers →
      followers.Nodup ∧ notification.pendingCount = int32 followers.length

/-- A session of the user was given the notification. -/
def GivenTo (server : Server) (user : Text) (sent : Notification) : Prop :=
  ∃ index, (server.connections index).username = user ∧
    ∃ copy ∈ (server.connections index).appended, SameText copy sent

section Steps

variable {server next : Server}

theorem mem_received {inserted : List Insertion} {index : QueueRef} {copy : Notification} :
    copy ∈ received inserted index ↔ ⟨index, copy⟩ ∈ inserted := by
  simp only [received, List.mem_map, List.mem_filter, decide_eq_true_eq]
  constructor
  · rintro ⟨insertion, ⟨member, here⟩, same⟩
    rw [← here, ← same]
    exact member
  · intro member
    exact ⟨⟨index, copy⟩, ⟨member, rfl⟩, rfl⟩

theorem Wired.present (wired : server.Wired) {user : Text} {index : QueueRef}
    (refers : server.notifications.Refers user index) :
    (server.connections index).username = user ∧
      (server.connections index).consumer ≠ .absent := by
  obtain ⟨key, entry⟩ := refers
  obtain ⟨username, -, running⟩ := wired.attached user key index entry
  refine ⟨username, ?_⟩
  intro absent
  rw [absent] at running
  exact running

/-- A call of the notification manager by one thread, which then moves on. -/
theorem grows_deliver (server : Server) (call : Call) (index : QueueRef)
    {connection : ClientConnection}
    (appended : connection.appended = ((server.deliver call).connections index).appended)
    (username : connection.username = (server.connections index).username) :
    Grows server ((server.deliver call).setConnection index connection) := by
  intro other copy member
  rw [connections_setConnection]
  split
  next here =>
    subst here
    exact ⟨username, appended ▸ List.mem_append_left _ member⟩
  next => exact ⟨rfl, List.mem_append_left _ member⟩

theorem Quiet.grows (sound : server.Sound) {index : QueueRef} {connection : ClientConnection}
    (quiet : Quiet server next index connection) : Grows server next := by
  intro other copy member
  rw [quiet.connections, Function.update_apply]
  split
  next here =>
    subst here
    refine ⟨?_, quiet.appended ▸ member⟩
    rcases quiet.username with same | absent
    · exact same
    · rw [sound.unused _ absent] at member
      cases member
  next => exact ⟨rfl, member⟩

/-- A call gives notifications to consumers that are there, and the thread moves on. -/
theorem Sound.called (sound : server.Sound) {call : Call} {index : QueueRef}
    {connection : ClientConnection}
    (wired : ((server.deliver call).setConnection index connection).Wired)
    (targets : ∀ insertion ∈ call.inserted,
      (server.connections insertion.queue).consumer ≠ .absent)
    (unused : connection.consumer = .absent → (server.connections index).consumer = .absent)
    (appended : connection.appended = ((server.deliver call).connections index).appended)
    (draft : ∀ notification followers, connection.handler = .sending notification followers →
      (server.connections index).handler = .sending notification followers) :
    ((server.deliver call).setConnection index connection).Sound := by
  have empty : ∀ other, (server.connections other).consumer = .absent →
      ((server.deliver call).connections other).appended = [] := by
    intro other absent
    have none : received call.inserted other = [] := by
      rw [List.eq_nil_iff_forall_not_mem]
      intro copy member
      exact targets _ (mem_received.mp member) absent
    show (server.connections other).appended ++ received call.inserted other = []
    rw [none, List.append_nil]
    exact sound.unused other absent
  refine ⟨wired, sound.distinct, ?_, ?_⟩
  · intro other absent
    rw [connections_setConnection] at absent ⊢
    split at absent
    next here =>
      rw [if_pos here, appended]
      exact empty index (unused absent)
    next away =>
      rw [if_neg away]
      exact empty other absent
  · intro other notification followers handler
    rw [connections_setConnection] at handler
    split at handler
    next => exact sound.drafts index notification followers (draft notification followers handler)
    next => exact sound.drafts other notification followers handler

theorem Sound.sendTweet (sound : server.Sound) (index : QueueRef) (notification : Notification)
    (followers : List Text) : (server.sendTweet index notification followers).Sound := by
  refine sound.called sound.wired.sendTweet ?_ id rfl (by simp)
  intro insertion member
  obtain ⟨user, -, refers⟩ :=
    (send_reaches server.notifications notification followers).targets insertion member
  exact (sound.wired.present refers).2

theorem Sound.subscribe (sound : server.Sound) {index : QueueRef}
    (consumer : (server.connections index).consumer = .starting) :
    (server.subscribe index).Sound := by
  have wired := sound.wired.subscribe consumer
  refine sound.called wired ?_ (by simp) rfl (by simp [deliver, ClientConnection.receive])
  intro insertion member absent
  have refers := ((subscribe_frame server.notifications (server.connections index).username
    (server.connections index).consumerId index).2 insertion member).2
  have present := (wired.present refers).2
  rw [Server.subscribe, connections_setConnection] at present
  split at present
  next here =>
    rw [here, consumer] at absent
    cases absent
  next => exact present absent

theorem Sound.unsubscribe (sound : server.Sound) {index : QueueRef}
    (consumer : (server.connections index).consumer = .leaving) :
    (server.unsubscribe index).Sound :=
  sound.called (sound.wired.unsubscribe consumer) (by simp [NotificationManager.unsubscribe])
    (by simp) rfl (by simp [deliver, ClientConnection.receive])

theorem Sound.quiet (sound : server.Sound) (wired : next.Wired) {index : QueueRef}
    {connection : ClientConnection} (quiet : Quiet server next index connection) : next.Sound := by
  refine ⟨wired, quiet.distinct sound.distinct, ?_, ?_⟩
  · intro other absent
    rw [quiet.connections, Function.update_apply] at absent ⊢
    split at absent
    next here =>
      rw [if_pos here, quiet.appended]
      exact sound.unused index (quiet.absent absent)
    next away =>
      rw [if_neg away]
      exact sound.unused other absent
  · intro other notification followers handler
    rw [quiet.connections, Function.update_apply] at handler
    split at handler
    next =>
      rcases quiet.draft sound.distinct notification followers handler with old | new
      · exact sound.drafts index notification followers old
      · exact new
    next => exact sound.drafts other notification followers handler

theorem GivenTo.grows {user : Text} {sent : Notification} (given : server.GivenTo user sent)
    (grows : Grows server next) : next.GivenTo user sent := by
  obtain ⟨index, mine, copy, member, same⟩ := given
  obtain ⟨username, still⟩ := grows index copy member
  exact ⟨index, username.trans mine, copy, still, same⟩

/-- A call that inserts a copy for a user gives it to one of the user's sessions. -/
theorem givenTo_of_inserted {call : Call} {index : QueueRef} {connection : ClientConnection}
    {user : Text} {sent : Notification} {insertion : Insertion}
    (inserted : insertion ∈ call.inserted) (same : SameText insertion.notification sent)
    (mine : (server.connections insertion.queue).username = user)
    (appended : connection.appended = ((server.deliver call).connections index).appended)
    (username : connection.username = (server.connections index).username) :
    ((server.deliver call).setConnection index connection).GivenTo user sent := by
  have given : insertion.notification ∈
      ((server.deliver call).connections insertion.queue).appended :=
    List.mem_append_right _ (mem_received.mpr inserted)
  refine ⟨insertion.queue, ?_⟩
  rw [connections_setConnection]
  split
  next here =>
    subst here
    exact ⟨username.trans mine, insertion.notification, appended ▸ given, same⟩
  next => exact ⟨mine, insertion.notification, given, same⟩

/-- Who is there when a tweet is sent is given it. -/
theorem givenTo_sendTweet (wired : server.Wired) {index : QueueRef} {notification : Notification}
    {followers : List Text} {follower : Text}
    (inserted : (server.notifications.send notification followers).inserted =
      followers.flatMap fun user =>
        (server.notifications.queueOf user).subscribersQueue.entries.map fun entry =>
          ⟨entry.2, server.notifications.issue notification⟩)
    (member : follower ∈ followers) (online : ¬ server.notifications.Offline follower) :
    (server.sendTweet index notification followers).GivenTo follower
      (server.notifications.issue notification) := by
  have some : (server.notifications.queueOf follower).subscribersQueue.entries ≠ [] := by
    simpa [Offline, NotificationQueue.hasSubscribers] using online
  obtain ⟨⟨key, session⟩, subscribed⟩ := List.exists_mem_of_ne_nil _ some
  have given : ⟨session, server.notifications.issue notification⟩ ∈
      (server.notifications.send notification followers).inserted := by
    rw [inserted]
    exact List.mem_flatMap.mpr ⟨follower, member, List.mem_map.mpr ⟨_, subscribed, rfl⟩⟩
  exact givenTo_of_inserted given ⟨rfl, rfl, rfl, rfl⟩ (wired.present ⟨key, subscribed⟩).1 rfl rfl

theorem Sound.step (sound : server.Sound) {onUpdateCallback : ProfileManager → Bool}
    {action : ServerAction} (taken : Server.step onUpdateCallback server action = some next) :
    next.Sound := by
  have wired := sound.wired.step taken
  cases stepped_of_step sound.wired taken with
  | quiet _ _ connection unlocked quiet => exact sound.quiet wired quiet
  | sent index notification followers handler => exact sound.sendTweet index notification followers
  | subscribed index consumer => exact sound.subscribe consumer
  | unsubscribed index consumer => exact sound.unsubscribe consumer

theorem sound_start {file : Option Text} {users : UnorderedMap Text User}
    (loaded : ProfilePersistency.readUsers file = .ok users) : (start users).Sound := by
  refine ⟨wired_start users, ProfileManager.distinctFollowers_readUsers loaded, fun _ _ => rfl, ?_⟩
  intro index notification followers handler
  cases handler

end Steps

end Server

end TwitterClone
