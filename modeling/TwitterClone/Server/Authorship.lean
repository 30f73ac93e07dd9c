import TwitterClone.Notification.Provenance
import TwitterClone.Server.Dialogue

/-! Who is behind a notification. A client is sent nothing but tweets of users that it
follows, as they were sent on a connection that is logged in under their names. -/
namespace TwitterClone

open Foundation NotificationManager

/-- On this connection somebody is logged in under the name and has asked to send the
message. -/
def Wire.Asked (wire : Wire) (username message : Text) : Prop :=
  ∃ login later, wire.received = login :: later ∧ login.type = .login ∧
    login.payload = username ∧ ∃ request ∈ later, request.type = .send ∧ request.payload = message

namespace Service

def Tweeted (service : Service) (username message : Text) : Prop :=
  ∃ index, (service.wires index).Asked username message

def Follows (service : Service) (user sender : Text) : Prop :=
  user ∈ service.server.profiles.followersOf sender

structure Authored (service : Service) : Prop where
  dialogue : service.Dialogue
  sound : service.server.Sound
  genuine : Genuine service.Tweeted service.Follows service.server.notifications
  drafts : ∀ index notification followers,
    (service.server.connections index).handler = .sending notification followers →
      service.Tweeted notification.username notification.message ∧
        ∀ follower ∈ followers, service.Follows follower notification.username
  given : ∀ index, ∀ notification ∈ (service.server.connections index).appended,
    service.Tweeted notification.username notification.message ∧
      service.Follows (service.server.connections index).username notification.username

section Steps

variable {service next : Service} {index : QueueRef} {onUpdateCallback : ProfileManager → Bool}
  {ids : QueueRef → ThreadIds}

/-- What was received once stays received. -/
theorem received_step {action : ServiceAction} (target : QueueRef)
    (taken : service.step onUpdateCallback ids action = some next) :
    (service.wires target).received <+: (next.wires target).received := by
  by_cases away : action.index ≠ target
  · rw [wires_step taken away]
  · have here : action.index = target := not_not.mp away
    subst here
    cases move_of_step taken with
    | hangUp index | follow index | answer index | write index =>
      rw [ServiceAction.index, wires_self]
      exact List.prefix_refl _
    | reject index | respond index =>
      rw [ServiceAction.index, wires_setWire]
      exact List.prefix_refl _
    | receive index =>
      rw [ServiceAction.index, wires_setWire]
      exact List.prefix_append ..
    | leave index =>
      rw [ServiceAction.index, wires_self]
      exact List.prefix_append ..
    | authorize index =>
      unfold authorizeSession
      dsimp only
      split
      next =>
        rw [ServiceAction.index, wires_self]
        split
        next => exact List.prefix_refl _
        next => exact List.prefix_refl _
      next =>
        rw [ServiceAction.index, wires_self]
        exact List.prefix_refl _
    | work | consume | lose => exact List.prefix_refl _

theorem Asked.mono {wire later : Wire} {username message : Text}
    (asked : wire.Asked username message) (grows : wire.received <+: later.received) :
    later.Asked username message := by
  obtain ⟨login, after, received, type, named, request, member, asks⟩ := asked
  obtain ⟨more, longer⟩ := grows
  rw [received, List.cons_append] at longer
  exact ⟨login, after ++ more, longer.symm, type, named, request, List.mem_append_left _ member,
    asks⟩

theorem tweeted_step {action : ServiceAction} {username message : Text}
    (tweeted : service.Tweeted username message)
    (taken : service.step onUpdateCallback ids action = some next) :
    next.Tweeted username message := by
  obtain ⟨index, asked⟩ := tweeted
  exact ⟨index, Asked.mono asked (received_step index taken)⟩

theorem follows_step {action : ServiceAction} {user sender : Text}
    (follows : service.Follows user sender)
    (taken : service.step onUpdateCallback ids action = some next) : next.Follows user sender :=
  followersOf_serverMove (serverMove_of_step taken) sender user follows

/-- A login without a name changes no more than one with a name. -/
theorem quiet_startSession {server : Server} (sound : server.Sound)
    (handler : (server.connections index).handler = .authorizing) (username : Text)
    (threadId : Nat) :
    ∃ connection, Server.Quiet server (server.startSession onUpdateCallback index username threadId)
      index connection := by
  refine ⟨_, rfl, rfl, rfl, List.Subset.refl _, Or.inr ?_, id, ?_, ?_, ?_, fun _ => Or.inl⟩
  · exact (sound.wired.sane index).idle (Or.inl handler)
  · exact fun distinct =>
      distinct.call onUpdateCallback (.startSession username ⟨threadId, username⟩)
  · intro _ notification followers place
    dsimp only at place
    split at place <;> cases place
  · intro tweet place
    dsimp only at place
    split at place <;> cases place

/-- Every step of the service is at most one of the four kinds of steps of a server. -/
theorem stepped_of_serverMove {server : Server} (sound : service.server.Sound)
    (moved : ServerMove onUpdateCallback service index server) :
    server = service.server ∨
      ∃ action : ServerAction, action.index = index ∧ Server.Stepped service.server action server := by
  cases moved with
  | same => exact Or.inl rfl
  | handled action server taken =>
    exact Or.inr ⟨.handler index action, rfl, @Server.stepped_of_step _ _ sound.wired
      onUpdateCallback (.handler index action) taken⟩
  | consumed action server taken =>
    exact Or.inr ⟨.consumer index action, rfl, @Server.stepped_of_step _ _ sound.wired
      onUpdateCallback (.consumer index action) taken⟩
  | login username threadId handler =>
    obtain ⟨connection, quiet⟩ := @quiet_startSession index onUpdateCallback _ sound handler
      username threadId
    exact Or.inr ⟨.handler index (.login username threadId), rfl, .quiet _ _ connection rfl quiet⟩
  | lost =>
    exact Or.inr ⟨.lose index, rfl, @Server.stepped_of_step _ _ sound.wired onUpdateCallback
      (.lose index) rfl⟩

theorem draft_handlerStep {server later : Server} {action : HandlerAction}
    (taken : server.handlerStep onUpdateCallback index action = some later)
    {notification : Notification} {followers : List Text}
    (sending : (later.connections index).handler = .sending notification followers) :
    (server.connections index).handler = .sending notification followers ∨
      ∃ message timestamp, action = .readFollowers message timestamp ∧
        (server.connections index).handler = .serving ∧
        followers = server.profiles.followersOf (server.connections index).username ∧
        notification = Server.draft (server.connections index).username message timestamp followers := by
  cases Server.handlerMove_of_taken taken with
  | refuse | startConsumer | answerLogin | answerSend | leave | stop | join | closeSession =>
    rw [setConnection_self] at sending
    cases sending
  | login =>
    rw [setConnection_self] at sending
    dsimp only at sending
    split at sending <;> cases sending
  | follow => exact Or.inl sending
  | send =>
    rw [Server.sendTweet, setConnection_self] at sending
    cases sending
  | readFollowers message timestamp serving =>
    rw [setConnection_self] at sending
    obtain ⟨rfl, rfl⟩ := Handler.sending.inj sending
    exact Or.inr ⟨message, timestamp, rfl, serving, rfl, rfl⟩

/-- A handler that has something to send had it before, or has just been asked to. -/
theorem draft_step (dialogue : service.Dialogue) {action : ServiceAction}
    (taken : service.step onUpdateCallback ids action = some next) {target : QueueRef}
    {notification : Notification} {followers : List Text}
    (sending : (next.server.connections target).handler = .sending notification followers) :
    (service.server.connections target).handler = .sending notification followers ∨
      (service.wires target).Asked notification.username notification.message ∧
        followers = service.server.profiles.followersOf notification.username := by
  by_cases away : action.index ≠ target
  · obtain ⟨given, same⟩ := elsewhere_serverMove away (serverMove_of_step taken)
    rw [same] at sending
    exact Or.inl sending
  · obtain rfl : action.index = target := not_not.mp away
    cases move_of_step taken with
    | receive | reject | respond => exact Or.inl sending
    | hangUp _ _ _ _ moved | leave _ _ _ _ _ _ moved | follow _ _ _ _ _ _ _ _ moved =>
      rcases draft_handlerStep moved sending with old | ⟨_, _, other, _⟩
      · exact Or.inl old
      · cases other
    | answer _ _ action _ handler _ moved =>
      rcases draft_handlerStep moved sending with old | ⟨_, _, rfl, _⟩
      · exact Or.inl old
      · rcases handler with ⟨-, other, -⟩ | ⟨-, other, -⟩
        · cases other
        · cases other
    | lose index =>
      dsimp only [ServiceAction.index] at sending
      rw [Server.lose, setConnection_self] at sending
      exact Or.inl sending
    | authorize index =>
      unfold authorizeSession at sending
      dsimp only at sending
      split at sending
      next =>
        rw [ServiceAction.index, Server.startSession, setConnection_self] at sending
        dsimp only at sending
        split at sending <;> cases sending
      next =>
        rw [ServiceAction.index, setConnection_self] at sending
        cases sending
    | work index now action works server moved =>
      rcases draft_handlerStep moved sending with old | ⟨message, _, rfl, serving, members, rfl⟩
      · exact Or.inl old
      · obtain ⟨request, served, type, payload⟩ : ∃ request,
            (service.wires index).request = some request ∧ request.type = .send ∧
              request.payload = message := by
          rcases works with ⟨-, other⟩ | ⟨request, served, type, -, same⟩ | other
          · cases other
          · exact ⟨request, served, type, (HandlerAction.readFollowers.inj same).1.symm⟩
          · simp at other
        obtain ⟨login, loginType, username, answered, unanswered, answers, received, -, -, owes⟩ :=
          (dialogue.talk index).begun (by rw [serving]; decide)
        rw [ClientConnection.Owes, serving, served] at owes
        refine Or.inr ⟨⟨login, _, received, loginType, username, request, ?_, type, payload⟩, members⟩
        rw [owes.1]
        exact List.mem_append_right _ (List.mem_singleton_self _)
    | write index action _ _ server moved | consume index action _ server moved =>
      rw [ServiceAction.index, (Server.consumerStep_frame moved).1] at sending
      exact Or.inl sending

theorem sound_stepped {server : Server} {action : ServerAction} (sound : service.server.Sound)
    (wired : server.Wired) (stepped : Server.Stepped service.server action server) :
    server.Sound := by
  cases stepped with
  | quiet _ _ connection _ quiet => exact sound.quiet wired quiet
  | sent index notification followers => exact sound.sendTweet index notification followers
  | subscribed index consumer => exact sound.subscribe consumer
  | unsubscribed index consumer => exact sound.unsubscribe consumer

/-- A call gives session queues what it inserts into them, and their users stay. -/
theorem called_frame (server : Server) (call : Call) (connection : ClientConnection)
    (appended : connection.appended = ((server.deliver call).connections index).appended)
    (username : connection.username = (server.connections index).username) (other : QueueRef) :
    (((server.deliver call).setConnection index connection).connections other).appended =
        (server.connections other).appended ++ received call.inserted other ∧
      (((server.deliver call).setConnection index connection).connections other).username =
        (server.connections other).username := by
  rw [Server.connections_setConnection]
  split
  next here =>
    subst here
    exact ⟨appended, username⟩
  next => exact ⟨rfl, rfl⟩

/-- The step leaves the manager genuine, and what sessions are given by it is for their
users. -/
theorem genuine_stepped {server : Server} {action : ServerAction} (authored : service.Authored)
    (stepped : Server.Stepped service.server action server) :
    Genuine service.Tweeted service.Follows server.notifications ∧
      ∀ index, ∀ notification ∈ (server.connections index).appended,
        service.Tweeted notification.username notification.message ∧
          service.Follows (server.connections index).username notification.username := by
  have genuine := authored.genuine
  have given := authored.given
  have wired := authored.sound.wired
  cases stepped with
  | quiet _ _ connection _ quiet =>
    refine ⟨quiet.notifications ▸ genuine, ?_⟩
    intro index notification member
    rw [quiet.connections, Function.update_apply] at member ⊢
    split at member
    next here =>
      rw [if_pos here]
      rw [quiet.appended] at member
      rcases quiet.username with same | absent
      · rw [same]
        exact given _ notification member
      · rw [authored.sound.unused _ absent] at member
        cases member
    next away =>
      rw [if_neg away]
      exact given index notification member
  | sent index draft followers handler =>
    obtain ⟨tweeted, allowed⟩ := authored.drafts index draft followers handler
    obtain ⟨kept, handed⟩ := genuine.send tweeted allowed
    refine ⟨kept, ?_⟩
    intro other notification member
    obtain ⟨appended, username⟩ := called_frame service.server
      (service.server.notifications.send draft followers) {
        (service.server.deliver (service.server.notifications.send draft followers)).connections
          index with handler := .sent ⟨_, followers⟩ } rfl rfl other
    rw [Server.sendTweet] at member ⊢
    rw [appended] at member
    rw [username]
    rcases List.mem_append.mp member with old | new
    · exact given other notification old
    · have inserted := Server.mem_received.mp new
      obtain ⟨user, inside, refers⟩ :=
        (send_reaches service.server.notifications draft followers).targets _ inserted
      have reader := (wired.present refers).1
      have same : notification = service.server.notifications.issue draft := handed _ inserted
      have follower : user ∈ followers := by
        split at inside
        next => exact inside
        next => cases inside
      rw [same, reader]
      exact ⟨tweeted, allowed user follower⟩
  | subscribed index consumer =>
    obtain ⟨kept, handed⟩ := genuine.subscribe (service.server.connections index).username
      (service.server.connections index).consumerId index
    refine ⟨kept, ?_⟩
    intro other notification member
    obtain ⟨appended, username⟩ := called_frame service.server
      (service.server.notifications.subscribe (service.server.connections index).username
        (service.server.connections index).consumerId index) {
        (service.server.deliver (service.server.notifications.subscribe
          (service.server.connections index).username (service.server.connections index).consumerId
          index)).connections index with consumer := .checking } rfl rfl other
    have after := wired.subscribe consumer
    rw [Server.subscribe] at member after ⊢
    rw [appended] at member
    rw [username]
    rcases List.mem_append.mp member with old | new
    · exact given other notification old
    · have inserted := Server.mem_received.mp new
      have refers := ((subscribe_frame service.server.notifications _ _ index).2 _ inserted).2
      have reader := (after.present refers).1
      rw [username] at reader
      rw [reader]
      exact handed _ inserted
  | unsubscribed index consumer =>
    refine ⟨genuine.unsubscribe _ _, ?_⟩
    intro other notification member
    obtain ⟨appended, username⟩ := called_frame service.server
      (service.server.notifications.unsubscribe (service.server.connections index).username
        (service.server.connections index).consumerId) {
        (service.server.deliver (service.server.notifications.unsubscribe
          (service.server.connections index).username
          (service.server.connections index).consumerId)).connections index with
        consumer := .finished } rfl rfl other
    rw [Server.unsubscribe] at member ⊢
    rw [appended] at member
    rw [username]
    rcases List.mem_append.mp member with old | new
    · exact given other notification old
    · cases new

theorem Authored.step (authored : service.Authored) {action : ServiceAction}
    (taken : service.step onUpdateCallback ids action = some next) : next.Authored := by
  have dialogue := authored.dialogue.step taken
  have drafts : ∀ index notification followers,
      (next.server.connections index).handler = .sending notification followers →
        next.Tweeted notification.username notification.message ∧
          ∀ follower ∈ followers, next.Follows follower notification.username := by
    intro index notification followers sending
    rcases draft_step authored.dialogue taken sending with old | ⟨asked, members⟩
    · obtain ⟨sent, allowed⟩ := authored.drafts index notification followers old
      exact ⟨tweeted_step sent taken, fun user member => follows_step (allowed user member) taken⟩
    · refine ⟨tweeted_step ⟨index, asked⟩ taken, ?_⟩
      intro user member
      rw [members] at member
      exact follows_step member taken
  rcases stepped_of_serverMove authored.sound (serverMove_of_step taken) with
    same | ⟨serverAction, -, stepped⟩
  · refine ⟨dialogue, same ▸ authored.sound, ?_, drafts, ?_⟩
    · rw [same]
      exact authored.genuine.mono (fun _ _ sent => tweeted_step sent taken)
        fun _ _ member => follows_step member taken
    · rw [same]
      intro index notification member
      obtain ⟨sent, member⟩ := authored.given index notification member
      exact ⟨tweeted_step sent taken, follows_step member taken⟩
  · obtain ⟨genuine, given⟩ := genuine_stepped authored stepped
    refine ⟨dialogue, sound_stepped authored.sound dialogue.wired stepped, ?_, drafts, ?_⟩
    · exact genuine.mono (fun _ _ sent => tweeted_step sent taken)
        fun _ _ member => follows_step member taken
    · intro index notification member
      obtain ⟨sent, member⟩ := given index notification member
      exact ⟨tweeted_step sent taken, follows_step member taken⟩

theorem authored_start {file : Option Text} {users : UnorderedMap Text User}
    (loaded : ProfilePersistency.readUsers file = .ok users) : (start users).Authored where
  dialogue := dialogue_start users
  sound := Server.sound_start loaded
  genuine := genuine_empty.loadUsers _
  drafts index notification followers sending := by cases sending
  given index notification member := by cases member

end Steps

/-- In every run from a loaded user file, whatever clients send and even when ids come
round: what a client is sent as a notification is a tweet, word for word, that somebody has
asked to send on a connection logged in under the sender's name, and its user follows that
sender. -/
theorem authored_of_run (onUpdateCallback : ProfileManager → Bool) (ids : QueueRef → ThreadIds)
    (file : Option Text) (users : UnorderedMap Text User)
    (loaded : ProfilePersistency.readUsers file = .ok users) (actions : List ServiceAction)
    (service : Service)
    (reached : run (step onUpdateCallback ids) (start users) actions = some service)
    (index : QueueRef) (packet : Response) (sent : packet ∈ (service.wires index).sent)
    (data : packet.1 = .data) :
    ∃ notification, packet = dataPacket notification ∧
      (service.server.connections index).username ∈
        service.server.profiles.followersOf notification.username ∧
      ∃ other, (service.wires other).Asked notification.username notification.message := by
  have authored : service.Authored :=
    run_invariant (fun _ _ _ authored taken => Authored.step authored taken)
      (authored_start loaded) reached
  have pushed : packet ∈ (service.wires index).pushed := List.mem_filter.mpr ⟨sent, by simpa⟩
  rw [(authored.dialogue.shipped index).pushed] at pushed
  obtain ⟨notification, handed, rfl⟩ := List.mem_map.mp pushed
  have appended : notification ∈ (service.server.connections index).appended := by
    rw [(authored.sound.wired.sane index).history, List.append_assoc]
    exact List.mem_append_left _ handed
  obtain ⟨tweeted, follows⟩ := authored.given index notification appended
  exact ⟨notification, rfl, follows, tweeted⟩

theorem authored_of_twoConnections :
    ∃ service, run (step (fun _ => true) twoHandles) (start ∅) twoConnections = some service ∧
      dataPacket ⟨1, 4, ['a'], 1, ['h', 'i']⟩ ∈ (service.wires 0).sent ∧
      ∃ notification, dataPacket ⟨1, 4, ['a'], 1, ['h', 'i']⟩ = dataPacket notification ∧
        (service.server.connections 0).username ∈
          service.server.profiles.followersOf notification.username ∧
        ∃ other, (service.wires other).Asked notification.username notification.message :=
  ⟨_, rfl, by decide, authored_of_run (fun _ => true) twoHandles none ∅ rfl twoConnections _ rfl 0 _
    (by decide) rfl⟩

end Service

end TwitterClone
