import TwitterClone.Client.Notification
import TwitterClone.Foundation.Simulation
import TwitterClone.Packet.Packet
import TwitterClone.Server.Wiring

/-! The connection handler with the packets that it receives and sends. What it does to
the managers in between is what a handler of the server does. -/
namespace TwitterClone

open Foundation

/-- A packet as it is built; its number and its time are set when it is sent. -/
abbrev Response := PacketType × Text

/-- What goes over a connection: the request that is being served and the response to it,
all that was received, all that the two threads gave to `send`, and what of that was
written. -/
structure Wire where
  request : Option Packet := none
  response : Option Response := none
  received : List Packet := []
  sent : List Response := []
  written : List Response := []
  deriving DecidableEq

/-- The native handles of the two threads of a connection. -/
structure ThreadIds where
  handler : Nat
  consumer : Nat

structure Service where
  server : Server
  wires : QueueRef → Wire := fun _ => {}

/-- `receive` has nothing when the client has closed the connection or is gone. -/
inductive ServiceAction where
  | receive (index : QueueRef) (packet : Option Packet)
  | handle (index : QueueRef) (now : Nat)
  | consume (index : QueueRef) (action : ConsumerAction)
  | lose (index : QueueRef)
  deriving DecidableEq

/-- The connection whose thread takes the step, or that is lost. -/
def ServiceAction.index : ServiceAction → QueueRef
  | .receive index _ | .handle index _ | .consume index _ | .lose index => index

namespace Wire

def receive (wire : Wire) (packet : Packet) : Wire :=
  { wire with request := some packet, received := wire.received ++ [packet] }

def respond (wire : Wire) (response : Response) : Wire := { wire with response := some response }

/-- One of the two threads sends a packet. Nobody looks at the result of `send`. -/
def push (wire : Wire) (broken : Bool) (packet : Response) : Wire :=
  { wire with
    sent := wire.sent ++ [packet]
    written := if broken then wire.written else wire.written ++ [packet] }

/-- With the response the request is deleted. -/
def send (wire : Wire) (broken : Bool) (response : Response) : Wire :=
  { wire.push broken response with request := none, response := none }

end Wire

namespace FollowRoute

def response (follow : Text) (success : Bool) : Response :=
  if success then (.success, cString ("Now you are following ".toList ++ follow))
  else (.success, cString ("It was not possible to follow ".toList ++ follow))

end FollowRoute

namespace SendTweetRoute

def response : Response := (.success, "Sent!".toList)

end SendTweetRoute

namespace ConnectionHandler

def started : Response := (.success, [])

def refused : Response := (.error, "Connection refused.".toList)

def alreadyLoggedIn : Response := (.error, "Already logged in.".toList)

def badRequest : Response := (.error, "Bad request.".toList)

end ConnectionHandler

/-- The packet that a consumer builds of a notification. -/
def dataPacket (notification : Notification) : Response := (.data, cString notification.serialize)

open ConnectionHandler

/-- A handler asks for a session, whatever the name is. -/
def Server.startSession (onUpdateCallback : ProfileManager → Bool) (server : Server)
    (index : QueueRef) (username : Text) (threadId : Nat) : Server :=
  let call := server.profiles.startSession onUpdateCallback username ⟨threadId, username⟩
  let handler := if call.success then .starting else .finished
  { server with profiles := call.manager }.setConnection index
    { server.connections index with handler, username, threadId }

namespace Service

variable (onUpdateCallback : ProfileManager → Bool) (ids : QueueRef → ThreadIds)
  (service : Service) (index : QueueRef)

def setWire (wire : Wire) : Service :=
  { service with wires := Function.update service.wires index wire }

/-- A step of the server, by the handler of the connection. -/
def take (action : HandlerAction) (wire : Wire) : Option Service :=
  (service.server.handlerStep onUpdateCallback index action).map fun server =>
    { server, wires := Function.update service.wires index wire }

def receive (packet : Option Packet) : Option Service :=
  let wire := service.wires index
  if wire.request = none ∧ wire.response = none then
    match (service.server.connections index).handler, packet with
    | .authorizing, none => service.take onUpdateCallback index .refuse (wire.respond refused)
    | .authorizing, some packet => some (service.setWire index (wire.receive packet))
    | .serving, none => service.take onUpdateCallback index .leave wire
    | .serving, some packet =>
      if packet.type = .close then
        service.take onUpdateCallback index .leave
          { wire with received := wire.received ++ [packet] }
      else some (service.setWire index (wire.receive packet))
    | _, _ => none
  else none

/-- The length is the one that the packet's header has claimed. -/
def authorizeSession (packet : Packet) : Service :=
  let wire := service.wires index
  if 0 < packet.length ∧ packet.type = .login then
    let call := service.server.profiles.startSession onUpdateCallback packet.payload
      ⟨(ids index).handler, packet.payload⟩
    { server := service.server.startSession onUpdateCallback index packet.payload
        (ids index).handler
      wires := Function.update service.wires index
        (if call.success then { wire with request := none } else wire.respond refused) }
  else
    { server := service.server.setConnection index
        { service.server.connections index with handler := .finished }
      wires := Function.update service.wires index (wire.respond refused) }

/-- The first locked call of a route, or a response without one. -/
def route (request : Packet) (now : Nat) : Option Service :=
  let wire := service.wires index
  match request.type with
  | .send => service.take onUpdateCallback index (.readFollowers request.payload now) wire
  | .follow =>
    let followed := service.server.profiles.follow onUpdateCallback
      (service.server.connections index).username request.payload
    service.take onUpdateCallback index (.follow request.payload)
      (wire.respond (FollowRoute.response request.payload followed.success))
  | .login => some (service.setWire index (wire.respond alreadyLoggedIn))
  | _ => some (service.setWire index (wire.respond badRequest))

def handle (now : Nat) : Option Service :=
  let wire := service.wires index
  let broken := (service.server.connections index).broken
  match (service.server.connections index).handler, wire.request, wire.response with
  | .authorizing, some packet, none =>
    some (service.authorizeSession onUpdateCallback ids index packet)
  | .starting, _, _ =>
    service.take onUpdateCallback index (.startConsumer (ids index).consumer) wire
  | .answering, _, _ => service.take onUpdateCallback index .answerLogin (wire.send broken started)
  | .serving, some request, none => service.route onUpdateCallback index request now
  | .serving, _, some response => some (service.setWire index (wire.send broken response))
  | .sending _ _, _, _ => service.take onUpdateCallback index .send wire
  | .sent _, _, _ =>
    service.take onUpdateCallback index .answerSend (wire.send broken SendTweetRoute.response)
  | .stopping, _, _ => service.take onUpdateCallback index .stop wire
  | .joining, _, _ => service.take onUpdateCallback index .join wire
  | .closing, _, _ => service.take onUpdateCallback index .closeSession wire
  | .finished, _, some response => some (service.setWire index (wire.send broken response))
  | _, _, _ => none

def consume (action : ConsumerAction) : Option Service :=
  (service.server.consumerStep index action).map fun server =>
    { server
      wires := match (service.server.connections index).consumer with
        | .writing notification =>
          Function.update service.wires index ((service.wires index).push
            (service.server.connections index).broken (dataPacket notification))
        | _ => service.wires }

def step (service : Service) : ServiceAction → Option Service
  | .receive index packet => service.receive onUpdateCallback index packet
  | .handle index now => service.handle onUpdateCallback ids index now
  | .consume index action => service.consume index action
  | .lose index => some { service with server := service.server.lose index }

/-- The service when the server begins to listen. -/
def start (users : UnorderedMap Text User) : Service where
  server := .start users

section Moves

variable {onUpdateCallback : ProfileManager → Bool} {ids : QueueRef → ThreadIds}
  {service next : Service} {index : QueueRef} {now : Nat}

/-- What a thread of the service can do, with what it finds. -/
inductive Move (onUpdateCallback : ProfileManager → Bool) (ids : QueueRef → ThreadIds)
    (service : Service) : ServiceAction → Service → Prop where
  | hangUp (index : QueueRef)
      (handler : (service.server.connections index).handler = .authorizing)
      (idle : (service.wires index).request = none ∧ (service.wires index).response = none)
      (server : Server)
      (taken : service.server.handlerStep onUpdateCallback index .refuse = some server) :
    Move onUpdateCallback ids service (.receive index none)
      { server
        wires := Function.update service.wires index ((service.wires index).respond refused) }
  | receive (index : QueueRef) (packet : Packet)
      (handler : (service.server.connections index).handler = .authorizing ∨
        (service.server.connections index).handler = .serving ∧ packet.type ≠ .close)
      (idle : (service.wires index).request = none ∧ (service.wires index).response = none) :
    Move onUpdateCallback ids service (.receive index (some packet))
      (service.setWire index ((service.wires index).receive packet))
  | leave (index : QueueRef) (last : Option Packet) (close : ∀ packet ∈ last, packet.type = .close)
      (handler : (service.server.connections index).handler = .serving)
      (idle : (service.wires index).request = none ∧ (service.wires index).response = none)
      (server : Server)
      (taken : service.server.handlerStep onUpdateCallback index .leave = some server) :
    Move onUpdateCallback ids service (.receive index last)
      { server
        wires := Function.update service.wires index { service.wires index with
          received := (service.wires index).received ++ last.toList } }
  | authorize (index : QueueRef) (now : Nat) (packet : Packet)
      (handler : (service.server.connections index).handler = .authorizing)
      (request : (service.wires index).request = some packet)
      (response : (service.wires index).response = none) :
    Move onUpdateCallback ids service (.handle index now)
      (service.authorizeSession onUpdateCallback ids index packet)
  | follow (index : QueueRef) (now : Nat) (request : Packet)
      (handler : (service.server.connections index).handler = .serving)
      (served : (service.wires index).request = some request)
      (response : (service.wires index).response = none) (type : request.type = .follow)
      (server : Server)
      (taken : service.server.handlerStep onUpdateCallback index (.follow request.payload) =
        some server) :
    Move onUpdateCallback ids service (.handle index now)
      { server
        wires := Function.update service.wires index
          ((service.wires index).respond (FollowRoute.response request.payload
            (service.server.profiles.follow onUpdateCallback
              (service.server.connections index).username request.payload).success)) }
  | reject (index : QueueRef) (now : Nat) (request : Packet) (response : Response)
      (handler : (service.server.connections index).handler = .serving)
      (served : (service.wires index).request = some request)
      (open' : (service.wires index).response = none)
      (type : request.type ≠ .send ∧ request.type ≠ .follow)
      (answer : response = if request.type = .login then alreadyLoggedIn else badRequest) :
    Move onUpdateCallback ids service (.handle index now)
      (service.setWire index ((service.wires index).respond response))
  | respond (index : QueueRef) (now : Nat) (response : Response)
      (handler : (service.server.connections index).handler = .serving ∨
        (service.server.connections index).handler = .finished)
      (built : (service.wires index).response = some response) :
    Move onUpdateCallback ids service (.handle index now)
      (service.setWire index ((service.wires index).send
        (service.server.connections index).broken response))
  | answer (index : QueueRef) (now : Nat) (action : HandlerAction) (response : Response)
      (handler : (service.server.connections index).handler = .answering ∧
          action = .answerLogin ∧ response = started ∨
        (∃ tweet, (service.server.connections index).handler = .sent tweet) ∧
          action = .answerSend ∧ response = SendTweetRoute.response)
      (server : Server)
      (taken : service.server.handlerStep onUpdateCallback index action = some server) :
    Move onUpdateCallback ids service (.handle index now)
      { server
        wires := Function.update service.wires index ((service.wires index).send
          (service.server.connections index).broken response) }
  | work (index : QueueRef) (now : Nat) (action : HandlerAction)
      (works : (service.server.connections index).handler = .starting ∧
          action = .startConsumer (ids index).consumer ∨
        (∃ request, (service.wires index).request = some request ∧ request.type = .send ∧
          (service.wires index).response = none ∧
          action = .readFollowers request.payload now) ∨
        action = .send ∨ action = .stop ∨ action = .join ∨ action = .closeSession)
      (server : Server)
      (taken : service.server.handlerStep onUpdateCallback index action = some server) :
    Move onUpdateCallback ids service (.handle index now) { service with server }
  | write (index : QueueRef) (action : ConsumerAction) (notification : Notification)
      (writing : (service.server.connections index).consumer = .writing notification)
      (server : Server) (taken : service.server.consumerStep index action = some server) :
    Move onUpdateCallback ids service (.consume index action)
      { server
        wires := Function.update service.wires index ((service.wires index).push
          (service.server.connections index).broken (dataPacket notification)) }
  | consume (index : QueueRef) (action : ConsumerAction)
      (silent : (service.server.connections index).consumer.inHand = [])
      (server : Server) (taken : service.server.consumerStep index action = some server) :
    Move onUpdateCallback ids service (.consume index action) { service with server }
  | lose (index : QueueRef) :
    Move onUpdateCallback ids service (.lose index)
      { service with server := service.server.lose index }

theorem take_eq_some {action : HandlerAction} {wire : Wire} :
    service.take onUpdateCallback index action wire = some next ↔
      ∃ server, service.server.handlerStep onUpdateCallback index action = some server ∧
        { server, wires := Function.update service.wires index wire } = next := by
  rw [take, Option.map_eq_some_iff]

/-- A step that leaves the wire as it is. -/
theorem take_same {action : HandlerAction}
    (taken : service.take onUpdateCallback index action (service.wires index) = some next) :
    ∃ server, service.server.handlerStep onUpdateCallback index action = some server ∧
      next = { service with server } := by
  obtain ⟨server, moved, rfl⟩ := take_eq_some.mp taken
  exact ⟨server, moved, by rw [Function.update_eq_self]⟩

theorem move_of_receive {packet : Option Packet}
    (taken : service.receive onUpdateCallback index packet = some next) :
    Move onUpdateCallback ids service (.receive index packet) next := by
  unfold receive at taken
  dsimp only at taken
  split at taken
  next idle =>
    split at taken
    next handler =>
      obtain ⟨server, moved, rfl⟩ := take_eq_some.mp taken
      exact .hangUp index handler idle server moved
    next packet handler =>
      cases taken
      exact .receive index packet (Or.inl handler) idle
    next handler =>
      obtain ⟨server, moved, rfl⟩ := take_eq_some.mp taken
      have leaves : Move onUpdateCallback ids service _ _ :=
        .leave index none (by simp) handler idle server moved
      rwa [Option.toList_none, List.append_nil] at leaves
    next packet handler =>
      split at taken
      next close =>
        obtain ⟨server, moved, rfl⟩ := take_eq_some.mp taken
        exact .leave index (some packet) (by simpa using close) handler idle server moved
      next other =>
        cases taken
        exact .receive index packet (Or.inr ⟨handler, other⟩) idle
    next => cases taken
  next => cases taken

theorem move_of_route {request : Packet}
    (handler : (service.server.connections index).handler = .serving)
    (served : (service.wires index).request = some request)
    (response : (service.wires index).response = none)
    (taken : service.route onUpdateCallback index request now = some next) :
    Move onUpdateCallback ids service (.handle index now) next := by
  unfold route at taken
  dsimp only at taken
  split at taken
  next type =>
    obtain ⟨server, moved, rfl⟩ := take_same taken
    exact .work index now _ (Or.inr (Or.inl ⟨request, served, type, response, rfl⟩)) server moved
  next type =>
    obtain ⟨server, moved, rfl⟩ := take_eq_some.mp taken
    exact .follow index now request handler served response type server moved
  next type =>
    cases taken
    exact .reject index now request _ handler served response (by simp [type]) (by simp [type])
  next send follow login =>
    cases taken
    exact .reject index now request _ handler served response ⟨send, follow⟩ (if_neg login).symm

theorem move_of_handle (taken : service.handle onUpdateCallback ids index now = some next) :
    Move onUpdateCallback ids service (.handle index now) next := by
  unfold handle at taken
  dsimp only at taken
  split at taken
  next packet handler request response =>
    cases taken
    exact .authorize index now packet handler request response
  next handler =>
    obtain ⟨server, moved, rfl⟩ := take_same taken
    exact .work index now _ (Or.inl ⟨handler, rfl⟩) server moved
  next handler =>
    obtain ⟨server, moved, rfl⟩ := take_eq_some.mp taken
    exact .answer index now _ _ (Or.inl ⟨handler, rfl, rfl⟩) server moved
  next request handler served response => exact move_of_route handler served response taken
  next response handler built =>
    cases taken
    exact .respond index now response (Or.inl handler) built
  next =>
    obtain ⟨server, moved, rfl⟩ := take_same taken
    exact .work index now _ (by simp) server moved
  next tweet handler =>
    obtain ⟨server, moved, rfl⟩ := take_eq_some.mp taken
    exact .answer index now _ _ (Or.inr ⟨⟨tweet, handler⟩, rfl, rfl⟩) server moved
  next =>
    obtain ⟨server, moved, rfl⟩ := take_same taken
    exact .work index now _ (by simp) server moved
  next =>
    obtain ⟨server, moved, rfl⟩ := take_same taken
    exact .work index now _ (by simp) server moved
  next =>
    obtain ⟨server, moved, rfl⟩ := take_same taken
    exact .work index now _ (by simp) server moved
  next response handler built =>
    cases taken
    exact .respond index now response (Or.inr handler) built
  next => cases taken

theorem move_of_consume {action : ConsumerAction}
    (taken : service.consume index action = some next) :
    Move onUpdateCallback ids service (.consume index action) next := by
  obtain ⟨server, moved, rfl⟩ := Option.map_eq_some_iff.mp taken
  split
  next notification writing => exact .write index action notification writing server moved
  next other =>
    refine .consume index action ?_ server moved
    cases place : (service.server.connections index).consumer with
    | writing notification => exact absurd place (other notification)
    | absent | starting | checking | looking | waiting | leaving | finished => rfl

theorem move_of_step {action : ServiceAction}
    (taken : service.step onUpdateCallback ids action = some next) :
    Move onUpdateCallback ids service action next := by
  cases action with
  | receive index packet => exact move_of_receive taken
  | handle index now => exact move_of_handle taken
  | consume index action => exact move_of_consume taken
  | lose index =>
    obtain rfl := Option.some.inj taken
    exact .lose index

theorem refuse_eq {server : Server} (handler : (server.connections index).handler = .authorizing) :
    server.handlerStep onUpdateCallback index .refuse =
      some (server.setConnection index { server.connections index with handler := .finished }) := by
  simp only [Server.handlerStep, handler]

/-- What a step makes of the server: nothing, a step of the server by a thread of the same
connection, a login, or the loss of the connection. -/
inductive ServerMove (onUpdateCallback : ProfileManager → Bool) (service : Service)
    (index : QueueRef) : Server → Prop where
  | same : ServerMove onUpdateCallback service index service.server
  | handled (action : HandlerAction) (server : Server)
      (taken : service.server.handlerStep onUpdateCallback index action = some server) :
    ServerMove onUpdateCallback service index server
  | consumed (action : ConsumerAction) (server : Server)
      (taken : service.server.consumerStep index action = some server) :
    ServerMove onUpdateCallback service index server
  | login (username : Text) (threadId : Nat)
      (handler : (service.server.connections index).handler = .authorizing) :
    ServerMove onUpdateCallback service index
      (service.server.startSession onUpdateCallback index username threadId)
  | lost : ServerMove onUpdateCallback service index (service.server.lose index)

theorem serverMove_of_step {action : ServiceAction}
    (taken : service.step onUpdateCallback ids action = some next) :
    ServerMove onUpdateCallback service action.index next.server := by
  cases move_of_step taken with
  | hangUp index _ _ server moved | leave index _ _ _ _ server moved
  | follow index _ _ _ _ _ _ server moved | answer index _ _ _ _ server moved
  | work index _ _ _ server moved => exact .handled _ server moved
  | receive | reject | respond => exact .same
  | authorize index now packet handler =>
    unfold authorizeSession
    dsimp only
    split
    next => exact .login packet.payload (ids index).handler handler
    next =>
      exact .handled .refuse _ (refuse_eq handler)
  | write index action _ _ server moved | consume index action _ server moved =>
    exact .consumed action server moved
  | lose index => exact .lost

end Moves

section Refinement

/-- What the handler calls next, if anything. -/
def handlerAction (ids : QueueRef → ThreadIds) (service : Service) (index : QueueRef) (now : Nat) :
    Option HandlerAction :=
  let wire := service.wires index
  match (service.server.connections index).handler, wire.request, wire.response with
  | .authorizing, some packet, none =>
    if 0 < packet.length ∧ packet.type = .login then
      some (.login packet.payload (ids index).handler)
    else some .refuse
  | .starting, _, _ => some (.startConsumer (ids index).consumer)
  | .answering, _, _ => some .answerLogin
  | .serving, some request, none =>
    match request.type with
    | .send => some (.readFollowers request.payload now)
    | .follow => some (.follow request.payload)
    | _ => none
  | .sending _ _, _, _ => some .send
  | .sent _, _, _ => some .answerSend
  | .stopping, _, _ => some .stop
  | .joining, _, _ => some .join
  | .closing, _, _ => some .closeSession
  | _, _, _ => none

/-- The steps of the server that a step of the service is: one or none. -/
def serverActions (ids : QueueRef → ThreadIds) (service : Service) :
    ServiceAction → List ServerAction
  | .receive index packet =>
    match (service.server.connections index).handler, packet with
    | .authorizing, none => [.handler index .refuse]
    | .serving, none => [.handler index .leave]
    | .serving, some packet => if packet.type = .close then [.handler index .leave] else []
    | _, _ => []
  | .handle index now => (service.handlerAction ids index now).toList.map (.handler index)
  | .consume index action => [.consumer index action]
  | .lose index => [.lose index]

variable {onUpdateCallback : ProfileManager → Bool} {ids : QueueRef → ThreadIds}
  {service next : Service}

theorem startSession_eq {server : Server} {index : QueueRef} {username : Text} {threadId : Nat}
    (handler : (server.connections index).handler = .authorizing) :
    server.handlerStep onUpdateCallback index (.login username threadId) =
      some (server.startSession onUpdateCallback index username threadId) := by
  simp only [Server.handlerStep, handler]
  rfl

theorem run_single {action : ServerAction} {server later : Server}
    (taken : Server.step onUpdateCallback server action = some later) :
    run (Server.step onUpdateCallback) server [action] = some later :=
  run_cons.mpr ⟨later, taken, rfl⟩

theorem serverActions_step {action : ServiceAction}
    (taken : service.step onUpdateCallback ids action = some next) :
    run (Server.step onUpdateCallback) service.server (service.serverActions ids action) =
      some next.server := by
  cases move_of_step taken with
  | hangUp index handler idle server moved =>
    simp only [serverActions, handler]
    exact run_single moved
  | receive index packet handler idle =>
    rcases handler with handler | ⟨handler, open'⟩
    · simp only [serverActions, handler]
      rfl
    · simp only [serverActions, handler, if_neg open']
      rfl
  | leave index last close handler idle server moved =>
    cases last with
    | none =>
      simp only [serverActions, handler]
      exact run_single moved
    | some packet =>
      simp only [serverActions, handler, if_pos (close packet rfl)]
      exact run_single moved
  | authorize index now packet handler request response =>
    simp only [serverActions, handlerAction, handler, request, response, authorizeSession]
    split
    next => exact run_single (startSession_eq handler)
    next => exact run_single (refuse_eq handler)
  | follow index now request handler served response type server moved =>
    simp only [serverActions, handlerAction, handler, served, response, type]
    exact run_single moved
  | reject index now request response handler served open' type answer =>
    simp only [serverActions, handlerAction, handler, served, open']
    split
    next send => exact absurd send type.1
    next follow => exact absurd follow type.2
    next => rfl
  | respond index now response handler built =>
    rcases handler with handler | handler
    · cases held : (service.wires index).request with
      | none | some _ =>
        simp only [serverActions, handlerAction, handler, built, held]
        rfl
    · simp only [serverActions, handlerAction, handler, built]
      rfl
  | answer index now action response handler server moved =>
    rcases handler with ⟨handler, rfl, -⟩ | ⟨⟨tweet, handler⟩, rfl, -⟩
    · simp only [serverActions, handlerAction, handler]
      exact run_single moved
    · simp only [serverActions, handlerAction, handler]
      exact run_single moved
  | work index now action works server moved =>
    rcases works with ⟨handler, rfl⟩ | ⟨request, served, type, response, rfl⟩ | same
    · simp only [serverActions, handlerAction, handler]
      exact run_single moved
    · cases Server.handlerMove_of_taken moved with
      | readFollowers _ _ handler =>
        simp only [serverActions, handlerAction, handler, served, type, response]
        exact run_single moved
    · have next : service.handlerAction ids index now = some action := by
        cases Server.handlerMove_of_taken moved with
        | send _ _ handler | stop handler | join handler | closeSession handler =>
          simp only [handlerAction, handler]
        | refuse | login | startConsumer | answerLogin | follow | readFollowers | answerSend
        | leave => simp at same
      rw [serverActions, next]
      exact run_single moved
  | write index action notification writing server moved => exact run_single moved
  | consume index action silent server moved => exact run_single moved
  | lose index => exact run_single rfl

/-- Every step of the service is what its server makes of it. -/
theorem simulation_server : Simulation (step onUpdateCallback ids) (Server.step onUpdateCallback)
    (serverActions ids) (fun _ _ => True) (fun service server => service.server = server) where
  matchStep := by
    intro service next action server same _ taken
    exact ⟨next.server, same ▸ serverActions_step taken, rfl⟩

/-- Whatever clients send, and whichever of them are lost, the server goes through a run of
its threads. -/
theorem server_of_run (onUpdateCallback : ProfileManager → Bool) (ids : QueueRef → ThreadIds)
    (users : UnorderedMap Text User) (actions : List ServiceAction) (service : Service)
    (reached : run (step onUpdateCallback ids) (start users) actions = some service) :
    run (Server.step onUpdateCallback) (.start users)
      (labels (step onUpdateCallback ids) (serverActions ids) (start users) actions) =
        some service.server := by
  obtain ⟨server, ran, same⟩ := simulation_server.run_matches rfl
    (.of_forall fun _ _ => trivial) reached
  exact ran.trans (congrArg some same.symm)

/-- One client follows another one, who sends a tweet. -/
def twoConnections : List ServiceAction :=
  [.receive 0 (some (.ofPayload 1 .login ['b'])), .handle 0 1, .handle 0 1, .handle 0 1,
    .consume 0 .subscribe, .receive 1 (some (.ofPayload 2 .login ['a'])), .handle 1 2, .handle 1 2,
    .handle 1 2, .consume 1 .subscribe, .receive 0 (some (.ofPayload 3 .follow ['a'])),
    .handle 0 3, .handle 0 3, .receive 1 (some (.ofPayload 4 .send ['h', 'i'])), .handle 1 4,
    .handle 1 4, .handle 1 5, .consume 0 .check, .consume 0 .look, .consume 0 .write,
    .receive 0 (some (.ofPayload 6 .close [])), .handle 0 6]

/-- The threads of one connection have neighbouring handles. -/
def twoHandles (index : QueueRef) : ThreadIds := ⟨2 * index + 10, 2 * index + 11⟩

theorem server_of_twoConnections :
    ∃ service, run (step (fun _ => true) twoHandles) (start ∅) twoConnections = some service ∧
      run (Server.step fun _ => true) (.start ∅)
        (labels (step (fun _ => true) twoHandles) (serverActions twoHandles) (start ∅)
          twoConnections) = some service.server :=
  ⟨_, rfl, server_of_run (fun _ => true) twoHandles ∅ twoConnections _ rfl⟩

end Refinement

end Service

end TwitterClone
