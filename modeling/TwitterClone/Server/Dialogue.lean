import TwitterClone.Profile.FollowGraph
import TwitterClone.Server.ConnectionHandler
import TwitterClone.Server.Steps

/-! What is said on a connection. Between a login and its end every request has one
response, in the order of the requests, and in between come the notifications of the
session queue in the order of that queue. -/
namespace TwitterClone

open Foundation ConnectionHandler

namespace ProfileManager

variable {manager : ProfileManager}

/-- What the callback answers makes no difference to the users. -/
theorem manager_call (onUpdateCallback : ProfileManager → Bool) (operation : ProfileOperation) :
    (manager.call onUpdateCallback operation).manager =
      (manager.call (fun _ => true) operation).manager := by
  cases operation with
  | startSession username session =>
    rw [call, call, startSession, startSession]
    split <;> rfl
  | closeSession username id => rfl
  | follow follower userToFollow => rw [call, call, follow_manager, follow_manager]

/-- Nobody stops to be a follower. -/
theorem followersOf_grows {onUpdateCallback : ProfileManager → Bool}
    (operation : ProfileOperation) {name other : Text} (listed : other ∈ manager.followersOf name) :
    other ∈ (manager.call onUpdateCallback operation).manager.followersOf name := by
  rw [manager_call, mem_followersOf_call]
  exact Or.inl listed

/-- Whoever is told so is a follower from then on. -/
theorem followersOf_follow {onUpdateCallback : ProfileManager → Bool} {follower userToFollow : Text}
    (success : (manager.follow onUpdateCallback follower userToFollow).success = true) :
    follower ∈ (manager.follow onUpdateCallback follower userToFollow).manager.followersOf
      userToFollow := by
  have followed : (manager.follow (fun _ => true) follower userToFollow).success = true := by
    unfold follow at success ⊢
    split
    next both =>
      rw [if_pos both] at success
      dsimp only at success ⊢
      split
      next => rfl
      next refused =>
        rw [if_neg refused] at success
        exact success
    next neither =>
      rw [if_neg neither] at success
      exact success
  have listed := (mem_followersOf_call (.follow follower userToFollow) userToFollow follower).mpr
    (Or.inr ⟨rfl, followed⟩)
  rw [← manager_call onUpdateCallback] at listed
  exact listed

end ProfileManager

namespace Wire

/-- What the handler has sent. All else that is sent are notifications. -/
def replies (wire : Wire) : List Response := wire.sent.filter (·.1 ≠ .data)

def pushed (wire : Wire) : List Response := wire.sent.filter (·.1 = .data)

/-- The notifications that were written, not only sent. -/
def delivered (wire : Wire) : List Response := wire.written.filter (·.1 = .data)

section Sending

variable {wire : Wire} {broken : Bool} {response : Response}

theorem replies_send (reply : response.1 ≠ .data) :
    (wire.send broken response).replies = wire.replies ++ [response] := by
  simp [replies, send, push, reply]

theorem pushed_send (reply : response.1 ≠ .data) :
    (wire.send broken response).pushed = wire.pushed := by
  simp [pushed, send, push, reply]

theorem delivered_send (reply : response.1 ≠ .data) :
    (wire.send broken response).delivered = wire.delivered := by
  cases broken with
  | true => rfl
  | false => simp [delivered, send, push, reply]

theorem replies_push (notification : Notification) :
    (wire.push broken (dataPacket notification)).replies = wire.replies := by
  simp [replies, push, dataPacket]

theorem pushed_push (notification : Notification) :
    (wire.push broken (dataPacket notification)).pushed =
      wire.pushed ++ [dataPacket notification] := by
  simp [pushed, push, dataPacket]

theorem delivered_push (notification : Notification) :
    (wire.push broken (dataPacket notification)).delivered =
      if broken then wire.delivered else wire.delivered ++ [dataPacket notification] := by
  cases broken with
  | true => rfl
  | false => simp [delivered, push, dataPacket]

end Sending

end Wire

/-- The responses to a request of a user. A user who is told to follow somebody does. -/
inductive Answers (profiles : ProfileManager) (username : Text) (request : Packet) :
    Response → Prop where
  | sent (type : request.type = .send) :
    Answers profiles username request SendTweetRoute.response
  | follows (type : request.type = .follow)
      (listed : username ∈ profiles.followersOf request.payload) :
    Answers profiles username request (FollowRoute.response request.payload true)
  | stays (type : request.type = .follow) :
    Answers profiles username request (FollowRoute.response request.payload false)
  | again (type : request.type = .login) : Answers profiles username request alreadyLoggedIn
  | bad (type : request.type ≠ .send ∧ request.type ≠ .follow ∧ request.type ≠ .login ∧
      request.type ≠ .close) : Answers profiles username request badRequest

/-- What is left to be answered at each place of a handler whose session has begun. -/
def ClientConnection.Owes (profiles : ProfileManager) (connection : ClientConnection) (wire : Wire)
    (unanswered : List Packet) : Prop :=
  match connection.handler with
  | .serving => unanswered = wire.request.toList ∧ (∀ request ∈ wire.request, request.type ≠ .close) ∧
      ∀ response ∈ wire.response, ∃ request ∈ wire.request,
        Answers profiles connection.username request response
  | .sending _ _ | .sent _ => wire.response = none ∧ ∃ request ∈ wire.request,
      unanswered = [request] ∧ request.type = .send
  | .stopping | .joining | .closing | .finished => wire.request = none ∧ wire.response = none ∧
      unanswered.length ≤ 1 ∧ ∀ packet ∈ unanswered, packet.type = .close
  | .authorizing | .starting | .answering => False

/-- Nothing was said, the connection was refused, a login was accepted, or its session
was begun. Then all requests have been answered but those that are still owed. -/
inductive Talk (profiles : ProfileManager) (connection : ClientConnection) (wire : Wire) :
    Prop where
  | silent (handler : connection.handler = .authorizing)
      (received : wire.received = wire.request.toList) (response : wire.response = none)
      (replies : wire.replies = [])
  | refused (handler : connection.handler = .finished) (absent : connection.consumer = .absent)
      (received : wire.received.length ≤ 1) (response : wire.response = none ∨ wire.replies = [])
      (replies : wire.replies ++ wire.response.toList = [refused])
  | admitted (login : Packet) (type : login.type = .login)
      (username : login.payload = connection.username)
      (handler : connection.handler = .starting ∨ connection.handler = .answering)
      (received : wire.received = [login]) (request : wire.request = none)
      (response : wire.response = none) (replies : wire.replies = [])
  | served (login : Packet) (type : login.type = .login)
      (username : login.payload = connection.username)
      (answered unanswered : List Packet) (answers : List Response)
      (received : wire.received = login :: (answered ++ unanswered))
      (replies : wire.replies = started :: answers)
      (matched : List.Forall₂ (Answers profiles connection.username) answered answers)
      (owes : connection.Owes profiles wire unanswered)

/-- The notifications on the wire are those of the consumer, and what was written is what was
sent until the connection was lost. -/
structure Shipped (connection : ClientConnection) (wire : Wire) : Prop where
  pushed : wire.pushed = connection.sent.map dataPacket
  delivered : wire.delivered = connection.written.map dataPacket
  carried : Carried wire.sent wire.written connection.broken

namespace Service

structure Dialogue (service : Service) : Prop where
  wired : service.server.Wired
  talk : ∀ index, Talk service.server.profiles (service.server.connections index)
    (service.wires index)
  shipped : ∀ index, Shipped (service.server.connections index) (service.wires index)

end Service

section Talking

variable {profiles later : ProfileManager} {connection : ClientConnection} {wire : Wire}
  {broken : Bool}

theorem Answers.mono {username : Text} {request : Packet} {response : Response}
    (grows : ∀ name other, other ∈ profiles.followersOf name → other ∈ later.followersOf name)
    (answers : Answers profiles username request response) :
    Answers later username request response := by
  cases answers with
  | sent type => exact .sent type
  | follows type listed => exact .follows type (grows _ _ listed)
  | stays type => exact .stays type
  | again type => exact .again type
  | bad type => exact .bad type

theorem Answers.reply {username : Text} {request : Packet} {response : Response}
    (answers : Answers profiles username request response) : response.1 ≠ .data := by
  cases answers with
  | sent | again | bad => exact PacketType.noConfusion
  | follows | stays => exact PacketType.noConfusion

/-- Another place of the consumer, or more in the session queue, is no part of the talk. -/
theorem Talk.go (talk : Talk profiles connection wire) {next : ClientConnection} {same : Wire}
    (grows : ∀ name other, other ∈ profiles.followersOf name → other ∈ later.followersOf name)
    (handler : next.handler = connection.handler) (username : next.username = connection.username)
    (absent : connection.consumer = .absent → next.consumer = .absent)
    (request : same.request = wire.request) (response : same.response = wire.response)
    (received : same.received = wire.received) (replies : same.replies = wire.replies) :
    Talk later next same := by
  cases talk with
  | silent place heard empty nothing =>
    exact .silent (handler.trans place) (by rw [received, request, heard]) (response.trans empty)
      (replies.trans nothing)
  | refused place gone heard before after =>
    exact .refused (handler.trans place) (absent gone) (received ▸ heard)
      (by rwa [response, replies]) (by rwa [response, replies])
  | admitted login type named place heard none empty nothing =>
    exact .admitted login type (named.trans username.symm) (by rwa [handler]) (received.trans heard)
      (request.trans none) (response.trans empty) (replies.trans nothing)
  | served login type named answered unanswered answers heard said matched owes =>
    refine .served login type (named.trans username.symm) answered unanswered answers
      (received.trans heard) (replies.trans said) ?_ ?_
    · rw [username]
      exact matched.imp fun _ _ => Answers.mono grows
    · unfold ClientConnection.Owes at owes ⊢
      rw [handler, request, response, username]
      split at owes
      next =>
        obtain ⟨left, open', built⟩ := owes
        refine ⟨left, open', ?_⟩
        intro answer member
        obtain ⟨asked, inside, right⟩ := built answer member
        exact ⟨asked, inside, right.mono grows⟩
      all_goals exact owes

theorem Talk.authorizing (talk : Talk profiles connection wire)
    (handler : connection.handler = .authorizing) :
    wire.received = wire.request.toList ∧ wire.response = none ∧ wire.replies = [] := by
  cases talk with
  | silent _ received response replies => exact ⟨received, response, replies⟩
  | refused place => cases handler.symm.trans place
  | admitted _ _ _ place => rcases place with first | second <;> simp_all
  | served _ _ _ _ _ _ _ _ _ owes =>
    rw [ClientConnection.Owes, handler] at owes
    exact owes.elim

/-- Once the session has begun, a talk is only about what is still owed. -/
theorem Talk.begun (talk : Talk profiles connection wire)
    (handler : connection.handler ≠ .authorizing ∧ connection.handler ≠ .starting ∧
      connection.handler ≠ .answering ∧ connection.handler ≠ .finished) :
    ∃ login : Packet, login.type = .login ∧ login.payload = connection.username ∧
      ∃ answered unanswered answers, wire.received = login :: (answered ++ unanswered) ∧
        wire.replies = started :: answers ∧
        List.Forall₂ (Answers profiles connection.username) answered answers ∧
        connection.Owes profiles wire unanswered := by
  cases talk with
  | silent place => exact absurd place handler.1
  | refused place => exact absurd place handler.2.2.2
  | admitted _ _ _ place => exact absurd place (not_or.mpr ⟨handler.2.1, handler.2.2.1⟩)
  | served login type username answered unanswered answers received replies matched owes =>
    exact ⟨login, type, username, answered, unanswered, answers, received, replies, matched, owes⟩

theorem Talk.admission (talk : Talk profiles connection wire)
    (handler : connection.handler = .starting ∨ connection.handler = .answering) :
    ∃ login : Packet, login.type = .login ∧ login.payload = connection.username ∧
      wire.received = [login] ∧ wire.request = none ∧ wire.response = none ∧ wire.replies = [] := by
  cases talk with
  | silent place => rw [place] at handler; simp at handler
  | refused place => rw [place] at handler; simp at handler
  | admitted login type username _ received request response replies =>
    exact ⟨login, type, username, received, request, response, replies⟩
  | served _ _ _ _ _ _ _ _ _ owes =>
    rw [ClientConnection.Owes] at owes
    rcases handler with place | place
    · rw [place] at owes
      exact owes.elim
    · rw [place] at owes
      exact owes.elim

/-- A connection that is not let in is told so. -/
theorem Talk.refuse (talk : Talk profiles connection wire) {next : ClientConnection}
    (handler : connection.handler = .authorizing) (finished : next.handler = .finished)
    (absent : next.consumer = .absent) :
    Talk later next (wire.respond ConnectionHandler.refused) := by
  obtain ⟨received, -, replies⟩ := talk.authorizing handler
  refine .refused finished absent ?_ (Or.inr replies) ?_
  · show wire.received.length ≤ 1
    rw [received]
    cases wire.request <;> simp
  · show wire.replies ++ [ConnectionHandler.refused] = _
    rw [replies, List.nil_append]

theorem Talk.admit (talk : Talk profiles connection wire) {next : ClientConnection}
    {login : Packet} (handler : connection.handler = .authorizing)
    (request : wire.request = some login) (type : login.type = .login)
    (username : login.payload = next.username) (starting : next.handler = .starting) :
    Talk later next { wire with request := none } := by
  obtain ⟨received, response, replies⟩ := talk.authorizing handler
  rw [request] at received
  exact .admitted login type username (Or.inl starting) received rfl response replies

theorem Talk.hear (talk : Talk profiles connection wire) {packet : Packet}
    (handler : connection.handler = .authorizing ∨
      connection.handler = .serving ∧ packet.type ≠ .close)
    (idle : wire.request = none ∧ wire.response = none) :
    Talk profiles connection (wire.receive packet) := by
  rcases handler with handler | ⟨handler, open'⟩
  · obtain ⟨received, response, replies⟩ := talk.authorizing handler
    rw [idle.1] at received
    exact .silent handler (congrArg (· ++ [packet]) received) response replies
  · obtain ⟨login, type, username, answered, unanswered, answers, received, replies, matched,
      owes⟩ := talk.begun (by rw [handler]; decide)
    rw [ClientConnection.Owes, handler, idle.1] at owes
    refine .served login type username answered [packet] answers ?_ replies matched ?_
    · show wire.received ++ [packet] = _
      rw [received, owes.1, Option.toList_none, List.append_nil, List.cons_append]
    · rw [ClientConnection.Owes, handler]
      refine ⟨rfl, ?_, ?_⟩
      · intro request same
        exact Option.some.inj same ▸ open'
      · intro response built
        rw [Wire.receive, idle.2] at built
        cases built

/-- The session ends with the connection, or with a last packet that is not answered. -/
theorem Talk.leave (talk : Talk profiles connection wire) {next : ClientConnection}
    {last : Option Packet} (close : ∀ packet ∈ last, packet.type = .close)
    (handler : connection.handler = .serving) (idle : wire.request = none ∧ wire.response = none)
    (stopping : next.handler = .stopping) (username : next.username = connection.username) :
    Talk profiles next { wire with received := wire.received ++ last.toList } := by
  obtain ⟨login, type, named, answered, unanswered, answers, received, replies, matched, owes⟩ :=
    talk.begun (by rw [handler]; decide)
  rw [ClientConnection.Owes, handler, idle.1] at owes
  refine .served login type (named.trans username.symm) answered last.toList answers ?_ replies
    (username ▸ matched) ?_
  · show wire.received ++ last.toList = _
    rw [received, owes.1, Option.toList_none, List.append_nil, List.cons_append]
  · rw [ClientConnection.Owes, stopping]
    refine ⟨idle.1, idle.2, ?_, by simpa using close⟩
    cases last <;> simp

theorem Talk.build (talk : Talk profiles connection wire) {request : Packet} {response : Response}
    (grows : ∀ name other, other ∈ profiles.followersOf name → other ∈ later.followersOf name)
    (handler : connection.handler = .serving) (served : wire.request = some request)
    (right : request.type ≠ .close → Answers later connection.username request response) :
    Talk later connection (wire.respond response) := by
  obtain ⟨login, type, username, answered, unanswered, answers, received, replies, matched, owes⟩ :=
    talk.begun (by rw [handler]; decide)
  rw [ClientConnection.Owes, handler] at owes
  refine .served login type username answered unanswered answers received replies
    (matched.imp fun _ _ => Answers.mono grows) ?_
  rw [ClientConnection.Owes, handler]
  refine ⟨owes.1, owes.2.1, ?_⟩
  intro built same
  exact ⟨request, served, Option.some.inj same ▸ right (owes.2.1 request served)⟩

/-- With a response one request more is answered, and nothing is left. -/
theorem served_send {login : Packet} {answered unanswered : List Packet} {answers : List Response}
    {next : ClientConnection} {request : Packet} {response : Response} (type : login.type = .login)
    (username : login.payload = next.username)
    (received : wire.received = login :: (answered ++ unanswered))
    (replies : wire.replies = started :: answers)
    (matched : List.Forall₂ (Answers profiles next.username) answered answers)
    (owed : unanswered = [request]) (right : Answers profiles next.username request response)
    (serving : next.handler = .serving) : Talk profiles next (wire.send broken response) := by
  refine .served login type username (answered ++ [request]) [] (answers ++ [response]) ?_ ?_ ?_ ?_
  · rw [Wire.send, Wire.push, received, owed, List.append_nil]
  · rw [Wire.replies_send right.reply, replies, List.cons_append]
  · exact List.rel_append matched (.cons right .nil)
  · rw [ClientConnection.Owes, serving]
    exact ⟨rfl, by simp [Wire.send], by simp [Wire.send]⟩

theorem Talk.reply (talk : Talk profiles connection wire) {response : Response}
    (handler : connection.handler = .serving ∨ connection.handler = .finished)
    (built : wire.response = some response) :
    Talk profiles connection (wire.send broken response) := by
  rcases handler with handler | handler
  · obtain ⟨login, type, username, answered, unanswered, answers, received, replies, matched,
      owes⟩ := talk.begun (by rw [handler]; decide)
    rw [ClientConnection.Owes, handler] at owes
    obtain ⟨request, served, right⟩ := owes.2.2 response built
    rw [Option.mem_def.mp served, Option.toList_some] at owes
    exact served_send type username received replies matched owes.1 right handler
  · cases talk with
    | silent place => cases handler.symm.trans place
    | refused place absent received before replies =>
      have nothing : wire.replies = [] := by
        rcases before with none | empty
        · rw [built] at none
          cases none
        · exact empty
      rw [nothing, built, List.nil_append, Option.toList_some, List.singleton_inj] at replies
      subst replies
      refine .refused place absent received (Or.inl rfl) ?_
      rw [Wire.replies_send (by decide), nothing]
      rfl
    | admitted _ _ _ place =>
      rw [handler] at place
      rcases place with first | second
      · cases first
      · cases second
    | served _ _ _ _ _ _ _ _ _ owes =>
      rw [ClientConnection.Owes, handler, built] at owes
      cases owes.2.1

/-- No response looks like a notification. -/
theorem Talk.response_reply (talk : Talk profiles connection wire) {response : Response}
    (built : wire.response = some response) : response.1 ≠ .data := by
  cases talk with
  | silent _ _ none | admitted _ _ _ _ _ _ none =>
    rw [built] at none
    cases none
  | refused _ _ _ _ replies =>
    have member : response ∈ wire.replies ++ wire.response.toList := by
      rw [built]
      exact List.mem_append_right _ (List.mem_singleton_self _)
    rw [replies] at member
    rw [List.mem_singleton.mp member]
    decide
  | served _ _ _ _ _ _ _ _ _ owes =>
    unfold ClientConnection.Owes at owes
    split at owes
    next =>
      obtain ⟨request, -, right⟩ := owes.2.2 response built
      exact right.reply
    all_goals simp [built] at owes

theorem Talk.greet (talk : Talk profiles connection wire) {next : ClientConnection}
    (handler : connection.handler = .answering) (serving : next.handler = .serving)
    (username : next.username = connection.username) :
    Talk profiles next (wire.send broken started) := by
  obtain ⟨login, type, named, received, -, -, replies⟩ := talk.admission (Or.inr handler)
  refine .served login type (named.trans username.symm) [] [] [] received ?_ .nil ?_
  · rw [Wire.replies_send (by decide), replies]
    rfl
  · rw [ClientConnection.Owes, serving]
    exact ⟨rfl, by simp [Wire.send], by simp [Wire.send]⟩

theorem Talk.confirm (talk : Talk profiles connection wire) {next : ClientConnection}
    {tweet : SentTweet} (handler : connection.handler = .sent tweet)
    (serving : next.handler = .serving) (username : next.username = connection.username) :
    Talk profiles next (wire.send broken SendTweetRoute.response) := by
  obtain ⟨login, type, named, answered, unanswered, answers, received, replies, matched, owes⟩ :=
    talk.begun (by simp [handler])
  rw [ClientConnection.Owes, handler] at owes
  obtain ⟨-, request, -, owed, send⟩ := owes
  exact served_send type (named.trans username.symm) received replies (username ▸ matched) owed
    (.sent send) serving

/-- The handler goes on to where the same is owed. -/
theorem Talk.proceed (talk : Talk profiles connection wire) {next : ClientConnection}
    (begun : connection.handler ≠ .authorizing ∧ connection.handler ≠ .starting ∧
      connection.handler ≠ .answering ∧ connection.handler ≠ .finished)
    (username : next.username = connection.username)
    (owes : ∀ unanswered, connection.Owes profiles wire unanswered →
      next.Owes profiles wire unanswered) : Talk profiles next wire := by
  obtain ⟨login, type, named, answered, unanswered, answers, received, replies, matched, owed⟩ :=
    talk.begun begun
  exact .served login type (named.trans username.symm) answered unanswered answers received replies
    (username ▸ matched) (owes unanswered owed)

end Talking

namespace Server

section Frames

variable {server next : Server} {index : QueueRef} {onUpdateCallback : ProfileManager → Bool}

theorem followersOf_handlerStep {action : HandlerAction}
    (taken : server.handlerStep onUpdateCallback index action = some next) (name other : Text)
    (listed : other ∈ server.profiles.followersOf name) :
    other ∈ next.profiles.followersOf name := by
  cases handlerMove_of_taken taken with
  | refuse | startConsumer | answerLogin | readFollowers | send | answerSend | leave | stop | join =>
    exact listed
  | login username threadId =>
    exact ProfileManager.followersOf_grows (.startSession username ⟨threadId, username⟩) listed
  | follow userToFollow => exact ProfileManager.followersOf_grows (.follow _ userToFollow) listed
  | closeSession =>
    exact @ProfileManager.followersOf_grows _ onUpdateCallback (.closeSession _ _) _ _ listed

theorem profiles_consumerStep {action : ConsumerAction}
    (taken : server.consumerStep index action = some next) : next.profiles = server.profiles := by
  cases consumerMove_of_taken taken with
  | subscribe | check | look | wake | timeout | write | unsubscribe => rfl

/-- What a step of other threads leaves of a connection's history. -/
structure SameShipping (before after : ClientConnection) : Prop where
  sent : after.sent = before.sent
  written : after.written = before.written
  broken : after.broken = before.broken

theorem sameShipping_changed {connection : ClientConnection}
    (connections : next.connections = Function.update server.connections index connection)
    (same : SameShipping (server.connections index) connection) :
    SameShipping (server.connections index) (next.connections index) := by
  rw [connections, Function.update_self]
  exact same

/-- A handler sends no notifications. -/
theorem sameShipping_handlerStep {action : HandlerAction}
    (taken : server.handlerStep onUpdateCallback index action = some next) :
    SameShipping (server.connections index) (next.connections index) := by
  cases handlerMove_of_taken taken with
  | refuse | login | startConsumer | answerLogin | readFollowers | answerSend | leave | stop
  | join | closeSession => exact sameShipping_changed rfl ⟨rfl, rfl, rfl⟩
  | send =>
    rw [sendTweet, connections_setConnection, if_pos rfl]
    exact ⟨rfl, rfl, rfl⟩
  | follow => exact ⟨rfl, rfl, rfl⟩

/-- A consumer without a notification in its hands sends none. -/
theorem sameShipping_consumerStep {action : ConsumerAction}
    (silent : (server.connections index).consumer.inHand = [])
    (taken : server.consumerStep index action = some next) :
    SameShipping (server.connections index) (next.connections index) := by
  have removed : SameShipping (server.connections index) (server.connections index).tryRemove := by
    unfold ClientConnection.tryRemove
    split <;> exact ⟨rfl, rfl, rfl⟩
  cases consumerMove_of_taken taken with
  | subscribe => rw [subscribe, connections_setConnection, if_pos rfl]; exact ⟨rfl, rfl, rfl⟩
  | unsubscribe => rw [unsubscribe, connections_setConnection, if_pos rfl]; exact ⟨rfl, rfl, rfl⟩
  | check | timeout => exact sameShipping_changed rfl ⟨rfl, rfl, rfl⟩
  | look | wake => exact sameShipping_changed rfl removed
  | write notification place =>
    rw [place] at silent
    cases silent

/-- A consumer with a notification in its hands can only send it. -/
theorem writing_consumerStep {action : ConsumerAction} {notification : Notification}
    (writing : (server.connections index).consumer = .writing notification)
    (taken : server.consumerStep index action = some next) :
    next.connections index = (server.connections index).write notification := by
  cases consumerMove_of_taken taken with
  | subscribe place | check place | look place | wake place | timeout place | unsubscribe place =>
    rw [writing] at place
    cases place
  | write other place =>
    obtain rfl := Consumer.writing.inj (writing.symm.trans place)
    exact Function.update_self ..

/-- The handler of a connection stays where it is when its consumer moves. -/
theorem consumerStep_frame {action : ConsumerAction}
    (taken : server.consumerStep index action = some next) :
    (next.connections index).handler = (server.connections index).handler ∧
      (next.connections index).username = (server.connections index).username ∧
      (server.connections index).consumer ≠ .absent := by
  have removed := tryRemove_frame (server.connections index)
  have changed := fun connection => connections_setConnection server index index connection
  simp only [if_true] at changed
  cases consumerMove_of_taken taken with
  | subscribe place | unsubscribe place =>
    simp [place, Server.subscribe, Server.unsubscribe, connections_setConnection, deliver,
      ClientConnection.receive]
  | check place | timeout place => simp [place, changed]
  | write _ place => simp [place, changed, ClientConnection.write]
  | look place | wake place => simp [place, changed, removed]

end Frames

end Server

section Shipping

variable {connection later : ClientConnection} {wire after : Wire}

theorem Shipped.same (shipped : Shipped connection wire)
    (same : Server.SameShipping connection later) (sent : after.sent = wire.sent)
    (written : after.written = wire.written) : Shipped later after := by
  refine ⟨?_, ?_, ?_⟩
  · rw [Wire.pushed, sent, same.sent]
    exact shipped.pushed
  · rw [Wire.delivered, written, same.written]
    exact shipped.delivered
  · rw [sent, written, same.broken]
    exact shipped.carried

/-- A response is no notification. -/
theorem Shipped.send (shipped : Shipped connection wire)
    (same : Server.SameShipping connection later) {response : Response}
    (reply : response.1 ≠ .data) : Shipped later (wire.send connection.broken response) := by
  refine ⟨?_, ?_, ?_⟩
  · rw [Wire.pushed_send reply, shipped.pushed, same.sent]
  · rw [Wire.delivered_send reply, shipped.delivered, same.written]
  · rw [same.broken]
    exact shipped.carried.push response

theorem Shipped.push (shipped : Shipped connection wire) (notification : Notification) :
    Shipped (connection.write notification)
      (wire.push connection.broken (dataPacket notification)) := by
  refine ⟨?_, ?_, shipped.carried.push _⟩
  · rw [Wire.pushed_push, shipped.pushed, ClientConnection.write, List.map_append]
    rfl
  · rw [Wire.delivered_push, shipped.delivered]
    unfold ClientConnection.write
    dsimp only
    split
    next => rfl
    next => rw [List.map_append]; rfl

end Shipping

namespace Service

section Steps

variable {service next : Service} {index : QueueRef} {onUpdateCallback : ProfileManager → Bool}
  {ids : QueueRef → ThreadIds}

theorem setConnection_self (server : Server) (index : QueueRef) (connection : ClientConnection) :
    (server.setConnection index connection).connections index = connection :=
  Function.update_self ..

theorem wires_self (server : Server) (wires : QueueRef → Wire) (index : QueueRef) (wire : Wire) :
    ({ server, wires := Function.update wires index wire } : Service).wires index = wire :=
  Function.update_self ..

theorem wires_setWire (service : Service) (index : QueueRef) (wire : Wire) :
    (service.setWire index wire).wires index = wire :=
  Function.update_self ..

theorem wired_authorizeSession (wired : service.server.Wired) {packet : Packet}
    (handler : (service.server.connections index).handler = .authorizing) :
    (service.authorizeSession onUpdateCallback ids index packet).server.Wired := by
  have sane := wired.sane index
  have absent := sane.idle (Or.inl handler)
  have unattached : ∀ user key, ¬ (service.server.connections index).Attached user key := by
    intro user key attached
    rw [ClientConnection.Attached, absent] at attached
    exact attached.2.2
  unfold authorizeSession
  dsimp only
  split
  next =>
    exact wired.changed index rfl rfl ⟨fun _ => absent, sane.history, sane.carried⟩
      fun user key attached => absurd attached (unattached user key)
  next =>
    exact wired.changed index rfl rfl ⟨fun _ => absent, sane.history, sane.carried⟩
      fun user key attached => absurd attached (unattached user key)

theorem wired_step (wired : service.server.Wired) {action : ServiceAction}
    (taken : service.step onUpdateCallback ids action = some next) : next.server.Wired := by
  cases move_of_step taken with
  | hangUp _ _ _ _ moved | leave _ _ _ _ _ _ moved | follow _ _ _ _ _ _ _ _ moved
  | answer _ _ _ _ _ _ moved | work _ _ _ _ _ moved => exact wired.handlerStep moved
  | receive | reject | respond => exact wired
  | authorize index now packet handler => exact wired_authorizeSession wired handler
  | write _ _ _ _ _ moved | consume _ _ _ _ moved => exact wired.consumerStep moved
  | lose index => exact wired.lose index

/-- The steps of a handler that say nothing. -/
theorem talk_work {now : Nat} {action : HandlerAction} {server : Server}
    (talk : Talk service.server.profiles (service.server.connections index) (service.wires index))
    (works : (service.server.connections index).handler = .starting ∧
        action = .startConsumer (ids index).consumer ∨
      (∃ request, (service.wires index).request = some request ∧ request.type = .send ∧
        (service.wires index).response = none ∧
        action = .readFollowers request.payload now) ∨
      action = .send ∨ action = .stop ∨ action = .join ∨ action = .closeSession)
    (moved : service.server.handlerStep onUpdateCallback index action = some server) :
    Talk server.profiles (server.connections index) (service.wires index) := by
  cases Server.handlerMove_of_taken moved with
  | startConsumer consumerId handler =>
    obtain ⟨login, type, username, received, request, response, replies⟩ :=
      talk.admission (Or.inl handler)
    rw [setConnection_self]
    exact .admitted login type username (Or.inr rfl) received request response replies
  | readFollowers message timestamp handler =>
    obtain ⟨request, served, type, response⟩ : ∃ request,
        (service.wires index).request = some request ∧ request.type = .send ∧
          (service.wires index).response = none := by
      rcases works with ⟨-, same⟩ | ⟨request, served, type, response, -⟩ | same | same | same | same
      · cases same
      · exact ⟨request, served, type, response⟩
      all_goals cases same
    rw [setConnection_self]
    refine talk.proceed (by rw [handler]; decide) rfl fun unanswered owes => ?_
    rw [ClientConnection.Owes, handler] at owes
    rw [Option.mem_def.mp served] at owes
    exact ⟨response, request, served, owes.1, type⟩
  | send notification followers handler =>
    rw [Server.sendTweet, setConnection_self]
    refine talk.proceed (by simp [handler]) rfl fun unanswered owes => ?_
    rw [ClientConnection.Owes, handler] at owes
    exact owes
  | stop handler | join handler _ =>
    rw [setConnection_self]
    refine talk.proceed (by rw [handler]; decide) rfl fun unanswered owes => ?_
    rw [ClientConnection.Owes, handler] at owes
    exact owes
  | closeSession handler =>
    rw [setConnection_self]
    have listed := Server.followersOf_handlerStep moved
    have later : Talk _ (service.server.connections index) (service.wires index) :=
      talk.go listed rfl rfl id rfl rfl rfl rfl
    refine later.proceed (by rw [handler]; decide) rfl fun unanswered owes => ?_
    rw [ClientConnection.Owes, handler] at owes
    exact owes
  | refuse | login | answerLogin | follow | answerSend | leave => simp at works

/-- What the talk on a connection becomes when its own threads take a step. -/
theorem talk_step {target : QueueRef} (wired : service.server.Wired) {action : ServiceAction}
    (talk : Talk service.server.profiles (service.server.connections target)
      (service.wires target))
    (taken : service.step onUpdateCallback ids action = some next) (here : action.index = target) :
    Talk next.server.profiles (next.server.connections target) (next.wires target) := by
  have idle := (wired.sane target).idle
  have keep : ∀ name other, other ∈ service.server.profiles.followersOf name →
      other ∈ service.server.profiles.followersOf name := fun _ _ => id
  cases move_of_step taken with
  | hangUp index handler _ server moved =>
    obtain rfl : index = target := here
    rw [wires_self]
    cases Server.handlerMove_of_taken moved with
    | refuse =>
      rw [setConnection_self]
      exact talk.refuse handler rfl (idle (Or.inl handler))
  | receive index packet handler free =>
    obtain rfl : index = target := here
    rw [wires_setWire]
    exact talk.hear handler free
  | leave index last close handler free server moved =>
    obtain rfl : index = target := here
    rw [wires_self]
    cases Server.handlerMove_of_taken moved with
    | leave =>
      rw [setConnection_self]
      exact talk.leave close handler free rfl rfl
  | authorize index now packet handler request response =>
    obtain rfl : index = target := here
    unfold authorizeSession
    dsimp only
    split
    next login =>
      rw [Server.startSession, setConnection_self, wires_self]
      dsimp only
      split
      next success => exact talk.admit handler request login.2 rfl rfl
      next failure => exact talk.refuse handler rfl (idle (Or.inl handler))
    next =>
      rw [setConnection_self, wires_self]
      exact talk.refuse handler rfl (idle (Or.inl handler))
  | follow index now request handler served response type server moved =>
    obtain rfl : index = target := here
    rw [wires_self]
    have grows := Server.followersOf_handlerStep moved
    cases Server.handlerMove_of_taken moved with
    | follow =>
      refine talk.build grows handler served fun _ => ?_
      cases followed : (service.server.profiles.follow onUpdateCallback
        (service.server.connections index).username request.payload).success with
      | true => exact .follows type (ProfileManager.followersOf_follow followed)
      | false => exact .stays type
  | reject index now request response handler served _ type answer =>
    obtain rfl : index = target := here
    rw [wires_setWire]
    refine talk.build keep handler served fun open' => ?_
    rw [answer]
    split
    next again => exact .again again
    next other => exact .bad ⟨type.1, type.2, other, open'⟩
  | respond index now response handler built =>
    obtain rfl : index = target := here
    rw [wires_setWire]
    exact talk.reply handler built
  | answer index now action response handler server moved =>
    obtain rfl : index = target := here
    rw [wires_self]
    rcases handler with ⟨handler, rfl, rfl⟩ | ⟨⟨tweet, handler⟩, rfl, rfl⟩
    · cases Server.handlerMove_of_taken moved with
      | answerLogin =>
        rw [setConnection_self]
        exact talk.greet handler rfl rfl
    · cases Server.handlerMove_of_taken moved with
      | answerSend =>
        rw [setConnection_self]
        exact talk.confirm handler rfl rfl
  | work index now action works server moved =>
    obtain rfl : index = target := here
    have later := talk_work talk works moved
    exact later
  | write index action notification writing server moved =>
    obtain rfl : index = target := here
    obtain ⟨handler, username, present⟩ := Server.consumerStep_frame moved
    rw [Server.profiles_consumerStep moved, wires_self]
    exact talk.go keep handler username (fun absent => absurd absent present) rfl rfl rfl
      (Wire.replies_push notification)
  | consume index action silent server moved =>
    obtain rfl : index = target := here
    obtain ⟨handler, username, present⟩ := Server.consumerStep_frame moved
    rw [Server.profiles_consumerStep moved]
    exact talk.go keep handler username (fun absent => absurd absent present) rfl rfl rfl rfl
  | lose index =>
    obtain rfl : index = target := here
    dsimp only
    rw [Server.lose, setConnection_self]
    exact talk.go keep rfl rfl id rfl rfl rfl rfl

theorem elsewhere_serverMove {server : Server} {other : QueueRef} (away : index ≠ other)
    (moved : ServerMove onUpdateCallback service index server) :
    ∃ given, server.connections other = (service.server.connections other).receive given := by
  cases moved with
  | same => exact ⟨[], by simp [ClientConnection.receive]⟩
  | handled action server taken =>
    exact @Server.elsewhere_step _ _ _ onUpdateCallback (.handler index action) taken away
  | consumed action server taken =>
    exact @Server.elsewhere_step _ _ _ onUpdateCallback (.consumer index action) taken away
  | login username threadId handler =>
    refine ⟨[], ?_⟩
    rw [Server.startSession, Server.connections_setConnection, if_neg away.symm]
    simp [ClientConnection.receive]
  | lost => exact @Server.elsewhere_step _ _ _ onUpdateCallback (.lose index) rfl away

theorem followersOf_serverMove {server : Server}
    (moved : ServerMove onUpdateCallback service index server) (name other : Text)
    (listed : other ∈ service.server.profiles.followersOf name) :
    other ∈ server.profiles.followersOf name := by
  cases moved with
  | same => exact listed
  | handled action server taken => exact Server.followersOf_handlerStep taken name other listed
  | consumed action server taken => rwa [Server.profiles_consumerStep taken]
  | login username threadId handler =>
    exact ProfileManager.followersOf_grows (.startSession username ⟨threadId, username⟩) listed
  | lost => exact listed

/-- Threads write on their own connection only. -/
theorem wires_step {other : QueueRef} {action : ServiceAction}
    (taken : service.step onUpdateCallback ids action = some next) (away : action.index ≠ other) :
    next.wires other = service.wires other := by
  cases move_of_step taken with
  | hangUp | receive | leave | follow | reject | respond | answer | write =>
    exact Function.update_of_ne (Ne.symm away) ..
  | authorize =>
    unfold authorizeSession
    dsimp only
    split
    next => exact Function.update_of_ne (Ne.symm away) ..
    next => exact Function.update_of_ne (Ne.symm away) ..
  | work | consume | lose => rfl

/-- A step sends nothing on a connection, a response, or the notification that its consumer
has in hand. -/
theorem shipped_step {action : ServiceAction} {target : QueueRef}
    (talk : Talk service.server.profiles (service.server.connections target)
      (service.wires target))
    (shipped : Shipped (service.server.connections target) (service.wires target))
    (taken : service.step onUpdateCallback ids action = some next) (here : action.index = target) :
    Shipped (next.server.connections target) (next.wires target) := by
  cases move_of_step taken with
  | hangUp index _ _ server moved | leave index _ _ _ _ server moved
  | follow index _ _ _ _ _ _ server moved =>
    obtain rfl : index = target := here
    rw [wires_self]
    exact shipped.same (Server.sameShipping_handlerStep moved) rfl rfl
  | work index _ _ _ server moved =>
    obtain rfl : index = target := here
    exact shipped.same (Server.sameShipping_handlerStep moved) rfl rfl
  | receive index | reject index =>
    obtain rfl : index = target := here
    rw [wires_setWire]
    exact shipped.same ⟨rfl, rfl, rfl⟩ rfl rfl
  | authorize index now packet handler =>
    obtain rfl : index = target := here
    unfold authorizeSession
    dsimp only
    split
    next =>
      rw [Server.startSession, setConnection_self, wires_self]
      dsimp only
      split
      next => exact shipped.same ⟨rfl, rfl, rfl⟩ rfl rfl
      next => exact shipped.same ⟨rfl, rfl, rfl⟩ rfl rfl
    next =>
      rw [setConnection_self, wires_self]
      exact shipped.same ⟨rfl, rfl, rfl⟩ rfl rfl
  | respond index now response handler built =>
    obtain rfl : index = target := here
    rw [wires_setWire]
    exact shipped.send ⟨rfl, rfl, rfl⟩ (talk.response_reply built)
  | answer index now action response handler server moved =>
    obtain rfl : index = target := here
    have reply : response.1 ≠ .data := by
      rcases handler with ⟨-, -, rfl⟩ | ⟨-, -, rfl⟩
      · decide
      · decide
    rw [wires_self]
    exact shipped.send (Server.sameShipping_handlerStep moved) reply
  | write index action notification writing server moved =>
    obtain rfl : index = target := here
    rw [wires_self, Server.writing_consumerStep writing moved]
    exact shipped.push notification
  | consume index action silent server moved =>
    obtain rfl : index = target := here
    exact shipped.same (Server.sameShipping_consumerStep silent moved) rfl rfl
  | lose index =>
    obtain rfl : index = target := here
    dsimp only
    rw [Server.lose, setConnection_self]
    exact ⟨shipped.pushed, shipped.delivered, ⟨shipped.carried.begun, nofun⟩⟩

theorem Dialogue.step (dialogue : service.Dialogue) {action : ServiceAction}
    (taken : service.step onUpdateCallback ids action = some next) : next.Dialogue := by
  have moved := serverMove_of_step taken
  have wired := wired_step dialogue.wired taken
  refine ⟨wired, ?_, ?_⟩
  · intro index
    by_cases here : action.index = index
    · exact talk_step dialogue.wired (dialogue.talk index) taken here
    · obtain ⟨given, same⟩ := elsewhere_serverMove here moved
      rw [same, wires_step taken here]
      exact (dialogue.talk index).go (followersOf_serverMove moved) rfl rfl id rfl rfl rfl rfl
  · intro index
    by_cases here : action.index = index
    · exact shipped_step (dialogue.talk index) (dialogue.shipped index) taken here
    · obtain ⟨given, same⟩ := elsewhere_serverMove here moved
      rw [same, wires_step taken here]
      exact (dialogue.shipped index).same ⟨rfl, rfl, rfl⟩ rfl rfl

theorem dialogue_start (users : UnorderedMap Text User) : (start users).Dialogue where
  wired := Server.wired_start users
  talk _ := .silent rfl rfl rfl rfl
  shipped _ := ⟨rfl, rfl, ⟨List.prefix_refl _, fun _ => rfl⟩⟩

end Steps

end Service

end TwitterClone
