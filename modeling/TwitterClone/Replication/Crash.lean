import TwitterClone.Replication.Backup

/-! What an answered tweet is worth after a crash of the leader, whenever it comes. -/
namespace TwitterClone

open Foundation NotificationManager

/-- The last tweet of a handler, sent when everybody was registered. -/
def ReplicatedServer.Sends (state : ReplicatedServer) (index : QueueRef) (tweet : SentTweet) :
    Prop :=
  (state.server.connections index).handler = .sent tweet ∧ state.registered index = true

/-- What a run keeps, with what the backup has made of the updates so far. -/
structure ReplicatedServer.Kept (promoted : NotificationManager) (state : ReplicatedServer) :
    Prop where
  sound : state.server.Sound
  current : ∀ tweet, tweet ∈ state.promised ∨ (∃ index, state.Sends index tweet) →
    tweet.Each state.server.Holds
  published : ∀ index tweet, state.Sends index tweet → state.updating ≠ some (.handler index) →
    tweet.Each fun user sent => state.server.GivenTo user sent ∨ promoted.Awaits user sent
  safe : ∀ tweet ∈ state.promised,
    tweet.Each fun user sent => state.server.WrittenTo user sent ∨ promoted.Awaits user sent

namespace ReplicatedServer

variable {stack : Nat} {promoted : NotificationManager} {state next : ReplicatedServer}

/-- Sending the update brings the backup up to date. -/
theorem Kept.sendUpdate (kept : state.Kept promoted) {copy : NotificationManager}
    (same : SameState copy state.server.notifications)
    (timely : state.Timely .sendUpdate) (payload : Text) :
    Kept copy { state with updating := none, updates := state.updates ++ [payload] } := by
  have awaits : ∀ user sent, state.server.Holds user sent →
      state.server.GivenTo user sent ∨ copy.Awaits user sent := by
    rintro user sent (given | ⟨entry, backs⟩)
    · exact Or.inl given
    · obtain ⟨waits, item, stored, text⟩ := backs.awaits entry
      exact Or.inr ⟨same.pending user ▸ waits, item, same.stored sent.username ▸ stored, text⟩
  refine ⟨kept.sound, kept.current, ?_, ?_⟩
  · intro index tweet sends _
    exact (kept.current tweet (Or.inr ⟨index, sends⟩)).imp awaits
  · intro tweet promise follower member
    obtain ⟨sent, created, holds⟩ := kept.current tweet (Or.inl promise) follower member
    refine ⟨sent, created, (awaits follower sent holds).imp_left fun given => ?_⟩
    exact given.written kept.sound (timely tweet promise sent created follower member)

/-- A step that keeps what was given and written. Handlers send nothing new, or what is
held for all its followers, and what is answered was settled. -/
theorem Kept.moved (kept : state.Kept promoted) (sound : next.server.Sound)
    (holds : ∀ user sent, state.server.Holds user sent → next.server.Holds user sent)
    (grows : Server.Grows state.server next.server)
    (written : ∀ user sent, state.server.WrittenTo user sent → next.server.WrittenTo user sent)
    (sends : ∀ index tweet, next.Sends index tweet → state.Sends index tweet ∨
      next.updating = some (.handler index) ∧ tweet.Each next.server.Holds)
    (updating : ∀ thread, state.updating = some thread → next.updating = some thread)
    (promises : ∀ tweet ∈ next.promised, tweet ∈ state.promised ∨
      ∃ index, state.Sends index tweet ∧ state.updating ≠ some (.handler index) ∧
        state.server.Settles tweet) : next.Kept promoted := by
  have still : ∀ tweet, (tweet ∈ state.promised ∨ ∃ index, state.Sends index tweet) →
      tweet.Each next.server.Holds :=
    fun tweet before => (kept.current tweet before).imp holds
  refine ⟨sound, ?_, ?_, ?_⟩
  · rintro tweet (promise | ⟨index, sent⟩)
    · rcases promises tweet promise with old | ⟨index, sent, -⟩
      · exact still tweet (Or.inl old)
      · exact still tweet (Or.inr ⟨index, sent⟩)
    · rcases sends index tweet sent with old | new
      · exact still tweet (Or.inr ⟨index, old⟩)
      · exact new.2
  · intro index tweet sent free
    rcases sends index tweet sent with old | new
    · refine (kept.published index tweet old fun busy => free (updating _ busy)).imp ?_
      exact fun user sent either => either.imp_left fun given => given.grows grows
    · exact absurd new.1 free
  · intro tweet promise
    rcases promises tweet promise with old | ⟨index, sent, free, settled⟩
    · exact (kept.safe tweet old).imp fun user sent either => either.imp_left (written user sent)
    · intro follower member
      obtain ⟨sent, created, either⟩ := kept.published index tweet sent free follower member
      refine ⟨sent, created, either.imp_left fun given => written follower sent ?_⟩
      exact given.written kept.sound (settled sent created follower member)

theorem updates_of_unlocked {server : Server} {action : ServerAction}
    (unlocked : action.locks = false) : server.updates action = [] := by
  unfold Server.updates
  split
  next => cases unlocked
  next => cases unlocked
  next => cases unlocked
  next => rfl

theorem recognise_of_unlocked {action : ServerAction} (unlocked : action.locks = false) :
    state.recognise action = state.registered := by
  unfold recognise
  split
  next => cases unlocked
  next => rfl

/-- Only an answer makes a promise. -/
theorem mem_promise {action : ServerAction} {tweet : SentTweet}
    (member : tweet ∈ state.promise action) :
    tweet ∈ state.promised ∨
      ∃ index, action = .handler index .answerSend ∧ state.Sends index tweet := by
  unfold promise at member
  split at member
  next index =>
    split at member
    next other handler =>
      split at member
      next registered =>
        rcases List.mem_cons.mp member with new | old
        · exact Or.inr ⟨index, rfl, new ▸ handler, registered⟩
        · exact Or.inl old
      next => exact Or.inl member
    next => exact Or.inl member
  next => exact Or.inl member

/-- A locked call by a consumer, which leaves every handler where it is. -/
theorem Kept.attend (kept : state.Kept promoted) {server : Server} {index : QueueRef}
    {action : ConsumerAction} (sound : server.Sound) (idle : state.updating = none)
    (holds : ∀ user sent, state.server.Holds user sent → server.Holds user sent)
    (grows : Server.Grows state.server server)
    (written : ∀ user sent, state.server.WrittenTo user sent → server.WrittenTo user sent)
    (handlers : ∀ other,
      (server.connections other).handler = (state.server.connections other).handler) :
    Kept promoted { state with
      server
      updating := if state.server.updates (.consumer index action) = [] then state.updating
        else some (.consumer index)
      registered := state.recognise (.consumer index action)
      promised := state.promise (.consumer index action) } := by
  refine kept.moved sound holds grows written ?_ ?_ fun tweet member => Or.inl member
  · rintro other tweet ⟨sends, registered⟩
    exact Or.inl ⟨(handlers other).symm.trans sends, registered⟩
  · intro thread busy
    rw [idle] at busy
    cases busy

theorem Kept.serve (kept : state.Kept promoted) {action : ServerAction} {server : Server}
    (timely : state.Timely (.serve action)) (free : ¬ state.Blocked action)
    (stepped : Server.Stepped state.server action server) (sound : server.Sound) :
    Kept promoted { state with
      server
      updating := if state.server.updates action = [] then state.updating else action.thread
      registered := state.recognise action
      promised := state.promise action } := by
  have written : ∀ user sent, state.server.WrittenTo user sent → server.WrittenTo user sent :=
    fun user sent before => before.step kept.sound stepped
  -- whoever gets the mutex finds it free
  have idle : action.locks = true → state.updating = none :=
    fun locked => by_contra fun busy => free ⟨busy, Or.inr locked⟩
  have unanswered : action.locks = true → ∀ tweet ∈ state.promise action,
      tweet ∈ state.promised := by
    intro locked tweet member
    rcases mem_promise member with old | ⟨index, answer, -⟩
    · exact old
    · rw [answer] at locked
      cases locked
  cases stepped with
  | quiet _ _ connection unlocked quiet =>
    rw [updates_of_unlocked unlocked, recognise_of_unlocked unlocked]
    refine kept.moved sound (fun user sent => .quiet kept.sound quiet) (quiet.grows kept.sound)
      written ?_ (fun _ => id) ?_
    · rintro index tweet ⟨handler, registered⟩
      refine Or.inl ⟨?_, registered⟩
      simp only [quiet.connections, Function.update_apply] at handler
      split at handler
      next here => exact here ▸ quiet.tweet tweet handler
      next => exact handler
    · intro tweet member
      rcases mem_promise member with old | ⟨index, rfl, handler, registered⟩
      · exact Or.inl old
      · refine Or.inr ⟨index, ⟨handler, registered⟩, fun busy => free ⟨by simp [busy], Or.inl busy⟩, ?_⟩
        have answers : state.MayAnswer Server.Settles index
            (state.server.connections index).handler := timely
        rw [handler] at answers
        exact answers registered
  | sent index notification followers handler =>
    have distinct := (kept.sound.drafts index notification followers handler).1
    have unclashing : state.MaySend (state.server.connections index).handler := timely
    rw [handler] at unclashing
    refine kept.moved sound (fun user sent => .sendTweet distinct unclashing)
      (Server.grows_deliver state.server _ index rfl rfl) written ?_ ?_
      fun tweet member => Or.inl (unanswered rfl tweet member)
    · rintro other tweet ⟨sends, registered⟩
      simp only [Server.sendTweet, Server.connections_setConnection] at sends
      simp only [recognise, handler, Function.update_apply] at registered
      split at sends
      next here =>
        subst here
        rw [if_pos rfl, decide_eq_true_eq] at registered
        obtain rfl := Handler.sent.inj sends
        refine Or.inr ⟨?_, Server.each_sendTweet kept.sound handler registered unclashing⟩
        have asks : state.server.updates (.handler other .send) ≠ [] := by
          simp [Server.updates, handler, send_registered _ _ _ registered.1]
        exact if_neg asks
      next away =>
        rw [if_neg away] at registered
        exact Or.inl ⟨sends, registered⟩
    · intro thread busy
      rw [idle rfl] at busy
      cases busy
  | subscribed index consumer =>
    refine kept.attend sound (idle rfl) (fun user sent => .subscribe kept.sound consumer)
      (Server.grows_deliver state.server _ index rfl rfl) written ?_
    intro other
    simp only [Server.subscribe, Server.connections_setConnection]
    split
    next here => rw [here]; rfl
    next => rfl
  | unsubscribed index consumer =>
    refine kept.attend sound (idle rfl) (fun user sent => .unsubscribe)
      (Server.grows_deliver state.server _ index rfl rfl) written ?_
    intro other
    simp only [Server.unsubscribe, Server.connections_setConnection]
    split
    next here => rw [here]; rfl
    next => rfl

/-- A replicated server does what the server does. -/
theorem run_server {onUpdateCallback : ProfileManager → Bool} {actions : List ReplicatedAction}
    (reached : run (step onUpdateCallback) state actions = some next) :
    run (Server.step onUpdateCallback) state.server (actions.filterMap ReplicatedAction.served) =
      some next.server := by
  induction actions generalizing state with
  | nil =>
    obtain rfl := Option.some.inj reached
    rfl
  | cons action rest ih =>
    obtain ⟨middle, taken, after⟩ := run_cons.mp reached
    have later := ih after
    cases action with
    | serve action =>
      rw [step] at taken
      split at taken
      next => cases taken
      next =>
        obtain ⟨server, stepped, rfl⟩ := Option.map_eq_some_iff.mp taken
        exact run_cons.mpr ⟨server, stepped, later⟩
    | sendUpdate =>
      rw [step] at taken
      split at taken
      next => cases taken
      next =>
        obtain rfl := Option.some.inj taken
        exact later

/-- A leader that has just been told of its backup has promised nothing to it. -/
theorem kept_start {server : Server} (sound : server.Sound) : (start server).Kept promoted := by
  refine ⟨sound, ?_, ?_, ?_⟩
  · rintro tweet (promise | ⟨index, -, registered⟩)
    · cases promise
    · cases registered
  · rintro index tweet ⟨-, registered⟩
    cases registered
  · intro tweet promise
    cases promise

/-- What the backup has made of the updates is what the leader keeps. -/
def Backed (stack : Nat) (backup : NotificationManager) (state : ReplicatedServer) : Prop :=
  ∃ promoted, backup.receiveUpdates stack state.updates = .ok promoted ∧ state.Kept promoted

theorem Backed.step {backup : NotificationManager} (backed : state.Backed stack backup)
    {onUpdateCallback : ProfileManager → Bool} {action : ReplicatedAction}
    (faithful : state.Faithful stack action) (timely : state.Timely action)
    (taken : step onUpdateCallback state action = some next) : next.Backed stack backup := by
  obtain ⟨promoted, received, kept⟩ := backed
  cases action with
  | serve action =>
    rw [ReplicatedServer.step] at taken
    split at taken
    next => cases taken
    next free =>
      obtain ⟨server, stepped, rfl⟩ := Option.map_eq_some_iff.mp taken
      exact ⟨promoted, received, kept.serve timely free
        (Server.stepped_of_step kept.sound.wired stepped) (kept.sound.step stepped)⟩
  | sendUpdate =>
    rw [ReplicatedServer.step] at taken
    split at taken
    next => cases taken
    next =>
      obtain rfl := Option.some.inj taken
      obtain ⟨terminated, readable, fits, -⟩ := faithful
      obtain ⟨copy, decoded, nextId, notifications, queues⟩ := copy_of_readable readable fits
      have payload : Leader.notificationPayload state.server.notifications =
          state.server.notifications.serialize := cString_of_free terminated
      exact ⟨copy, receiveUpdates_concat received (payload ▸ decoded),
        kept.sendUpdate (sameState_of_entries nextId notifications queues) timely _⟩

/-- Wherever a leader crashes: if whatever it answered or sent was settled by then, an
answered tweet is written to each follower or waits at the promoted backup. -/
theorem survives_of_run (onUpdateCallback : ProfileManager → Bool) (file : Option Text)
    (users : UnorderedMap Text User) (loaded : ProfilePersistency.readUsers file = .ok users)
    (before : List ServerAction) (server : Server)
    (served : run (Server.step onUpdateCallback) (Server.start users) before = some server)
    (stack : Nat) (backup : NotificationManager) (actions : List ReplicatedAction)
    (state : ReplicatedServer)
    (faithful : AllMeet (step onUpdateCallback) (fun state => state.Faithful stack) (start server)
      actions)
    (timely : AllMeet (step onUpdateCallback) Timely (start server) actions)
    (reached : run (step onUpdateCallback) (start server) actions = some state) :
    state.Survives stack backup := by
  have sound : server.Sound :=
    run_invariant (fun _ _ _ sound taken => sound.step taken) (Server.sound_start loaded) served
  obtain ⟨promoted, received, kept⟩ := run_preserves
    (fun _ _ _ backed met taken => Backed.step backed met.1 met.2 taken)
    ⟨backup, rfl, kept_start sound⟩ (faithful.and timely) reached
  intro tweet promise follower member
  obtain ⟨sent, created, either⟩ := kept.safe tweet promise follower member
  exact ⟨sent, created, either.imp_right fun awaits => ⟨promoted, received, awaits⟩⟩

/-- Two clients log in, and the first one follows the second, who reads its followers. -/
def beforeTweet : List ServerAction := [
  .handler 0 (.login ['b'] 10), .handler 0 (.startConsumer 11), .handler 0 .answerLogin,
  .consumer 0 .subscribe, .handler 1 (.login ['a'] 20), .handler 1 (.startConsumer 21),
  .handler 1 .answerLogin, .consumer 1 .subscribe, .handler 0 (.follow ['a']),
  .handler 1 (.readFollowers ['h', 'i'] 5)]

def servedLeader : Server :=
  (run (Server.step fun _ => true) (Server.start ∅) beforeTweet).getD {}

/-- The follower is written the tweet before it is answered. -/
def writtenBefore : List ReplicatedAction := [
  .serve (.handler 1 .send), .serve (.consumer 0 .check), .serve (.consumer 0 .look), .sendUpdate,
  .serve (.consumer 0 .write), .serve (.handler 1 .answerSend)]

theorem survives_of_writtenBefore :
    ∃ state, run (step fun _ => true) (start servedLeader) writtenBefore = some state ∧
      state.promised ≠ [] ∧ state.Survives 8388608 {} := by
  refine ⟨_, rfl, by decide, ?_⟩
  have faithful : AllMeet (step fun _ => true) (fun state => state.Faithful 8388608)
      (start servedLeader) writtenBefore := by
    decide +kernel
  have settled : AllMeet (step fun _ => true) (fun state => state.TimelyBy (·.SettlesAmong [0]))
      (start servedLeader) writtenBefore := by
    decide +kernel
  exact survives_of_run (fun _ => true) none ∅ rfl beforeTweet servedLeader rfl 8388608 {}
    writtenBefore _ faithful (settled.imp fun _ _ => .imp fun _ _ => Server.SettlesAmong.settles) rfl

/-- The tweet is answered while it is in the session queue. -/
def answeredBefore : List ReplicatedAction := [
  .serve (.handler 1 .send), .sendUpdate, .serve (.handler 1 .answerSend)]

theorem not_survives_of_answeredBefore :
    AllMeet (step fun _ => true) (fun state => state.Faithful 8388608) (start servedLeader)
        answeredBefore ∧
      ∃ state, run (step fun _ => true) (start servedLeader) answeredBefore = some state ∧
        ¬ state.Survives 8388608 {} := by
  refine ⟨by decide +kernel, ?_⟩
  obtain ⟨state, reached⟩ : ∃ state,
      run (step fun _ => true) (start servedLeader) answeredBefore = some state := ⟨_, rfl⟩
  have observed : (run (step fun _ => true) (start servedLeader) answeredBefore).map (fun state =>
      (state.promised.map SentTweet.followers, (state.server.connections 0).written,
        (state.server.connections 1).username,
        (receiveUpdates 8388608 {} state.updates).toOption.map fun promoted =>
          (promoted.queueOf ['b']).pendingQueue)) = some ([[['b']]], [], ['a'], some []) := by
    decide +kernel
  rw [reached, Option.map_some] at observed
  obtain ⟨tweets, atFollower, atSender, backlog⟩ := by
    simpa only [Option.some.injEq, Prod.mk.injEq] using observed
  refine ⟨state, reached, fun survives => ?_⟩
  obtain ⟨tweet, promise, followers⟩ :=
    List.mem_map.mp (tweets ▸ List.mem_singleton_self [['b']])
  obtain ⟨sent, -, found⟩ := survives tweet promise ['b'] (by simp [followers])
  rcases found with ⟨index, mine, copy, member, -⟩ | ⟨promoted, received, entry, -⟩
  · have served : run (Server.step fun _ => true) (Server.start ∅) beforeTweet =
        some servedLeader := rfl
    have whole := run_append.mpr ⟨servedLeader, served, run_server reached⟩
    have two : ∀ action ∈ beforeTweet ++ answeredBefore.filterMap ReplicatedAction.served,
        action.index = 0 ∨ action.index = 1 := by decide
    obtain ⟨action, taken, here⟩ := Server.acted_of_username whole rfl (by rw [mine]; simp)
    rcases here ▸ two action taken with follower | sender
    · rw [follower, atFollower] at member
      cases member
    · rw [sender, atSender] at mine
      cases mine
  · rw [received] at backlog
    have none : (promoted.queueOf ['b']).pendingQueue = [] := Option.some.inj backlog
    rw [none] at entry
    cases entry

end ReplicatedServer

end TwitterClone
