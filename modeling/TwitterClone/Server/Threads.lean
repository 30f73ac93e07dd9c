import TwitterClone.Foundation.Machine
import TwitterClone.Notification.Delivery
import TwitterClone.Profile.Persistency
import TwitterClone.Utils.Queue

/-! The threads of a running server. Every connection has a handler and, once its
session has started, a consumer. A step is one locked call, or one transfer on the
connection; between two steps of a thread any other thread may take its own. -/
namespace TwitterClone

open Foundation

/-- What a SEND request came to: the notification with its id, if the manager
created one, and the followers that were read for it. -/
structure SentTweet where
  created : Option Notification
  followers : List Text
  deriving DecidableEq

/-- What a connection handler does next. -/
inductive Handler where
  | authorizing
  | starting
  | answering
  | serving
  | sending (notification : Notification) (followers : List Text)
  | sent (tweet : SentTweet)
  | stopping
  | joining
  | closing
  | finished
  deriving DecidableEq

/-- What a notification consumer does next. It waits while its queue is empty. -/
inductive Consumer where
  | absent
  | starting
  | checking
  | looking
  | waiting
  | writing (notification : Notification)
  | leaving
  | finished
  deriving DecidableEq

/-- One client with its two threads, and the history of its session queue: what was given
to it, what of that the consumer gave to `send`, and what of that was written. -/
structure ClientConnection where
  handler : Handler := .authorizing
  username : Text := []
  threadId : Nat := 0
  consumer : Consumer := .absent
  consumerId : Nat := 0
  shouldStop : Bool := false
  queue : List Notification := []
  appended : List Notification := []
  sent : List Notification := []
  written : List Notification := []
  broken : Bool := false
  deriving DecidableEq

/-- The session queue of a connection has the connection's number as reference. -/
structure Server where
  profiles : ProfileManager := {}
  notifications : NotificationManager := {}
  connections : QueueRef → ClientConnection := fun _ => {}
  acknowledged : List SentTweet := []

inductive HandlerAction where
  | refuse
  | login (username : Text) (threadId : Nat)
  | startConsumer (consumerId : Nat)
  | answerLogin
  | follow (userToFollow : Text)
  | readFollowers (message : Text) (timestamp : Nat)
  | send
  | answerSend
  | leave
  | stop
  | join
  | closeSession
  deriving DecidableEq

inductive ConsumerAction where
  | subscribe
  | check
  | look
  | wake
  | timeout
  | write
  | unsubscribe
  deriving DecidableEq

/-- A connection is lost when its client has gone: from then on every `send` on it fails.
Where such a `send` ends the process with a signal, the run ends there. -/
inductive ServerAction where
  | handler (index : QueueRef) (action : HandlerAction)
  | consumer (index : QueueRef) (action : ConsumerAction)
  | lose (index : QueueRef)
  deriving DecidableEq

/-- The connection whose thread takes the step, or that is lost. -/
def ServerAction.index : ServerAction → QueueRef
  | .handler index _ | .consumer index _ | .lose index => index

namespace ClientConnection

/-- The session queue is given more notifications. -/
def receive (connection : ClientConnection) (notifications : List Notification) :
    ClientConnection :=
  { connection with
    queue := connection.queue ++ notifications
    appended := connection.appended ++ notifications }

/-- `tryRemoveFor` takes the first notification, or waits for one. -/
def tryRemove (connection : ClientConnection) : ClientConnection :=
  match connection.queue with
  | [] => { connection with consumer := .waiting }
  | notification :: rest => { connection with consumer := .writing notification, queue := rest }

/-- The consumer sends a notification. Nobody looks at the result of `send`. -/
def write (connection : ClientConnection) (notification : Notification) : ClientConnection :=
  { connection with
    consumer := .checking
    sent := connection.sent ++ [notification]
    written := if connection.broken then connection.written
      else connection.written ++ [notification] }

end ClientConnection

namespace Server

/-- The server when it begins to listen, with the users it has loaded. -/
def start (users : UnorderedMap Text User) : Server where
  profiles := { users }
  notifications := (({} : NotificationManager).loadUsers
    (ProfileManager.getAllUsernames { users })).manager

section Calls

variable (server : Server)

def setConnection (index : QueueRef) (connection : ClientConnection) : Server :=
  { server with connections := Function.update server.connections index connection }

/-- Each session queue is given what a call inserted into it. -/
def deliver (call : Call) : Server :=
  { server with
    notifications := call.manager
    connections := fun index => (server.connections index).receive (received call.inserted index) }

/-- The tweet that the route builds; a count of followers is an `int`. -/
def draft (username message : Text) (timestamp : Nat) (followers : List Text) : Notification where
  id := -1
  timestamp
  username
  pendingCount := int32 followers.length
  message

/-- The result of a handler's call to `send`. -/
def sendTweet (index : QueueRef) (notification : Notification) (followers : List Text) : Server :=
  let created := (server.notifications.createNotification notification).map Prod.fst
  let delivered := server.deliver (server.notifications.send notification followers)
  delivered.setConnection index
    { delivered.connections index with handler := .sent ⟨created, followers⟩ }

def handlerStep (onUpdateCallback : ProfileManager → Bool) (index : QueueRef)
    (action : HandlerAction) : Option Server :=
  let connection := server.connections index
  match connection.handler, action with
  | .authorizing, .refuse => some (server.setConnection index { connection with handler := .finished })
  | .authorizing, .login username threadId =>
    let call := server.profiles.startSession onUpdateCallback username ⟨threadId, username⟩
    let handler := if call.success then .starting else .finished
    some ({ server with profiles := call.manager }.setConnection index
      { connection with handler, username, threadId })
  | .starting, .startConsumer consumerId =>
    some (server.setConnection index
      { connection with handler := .answering, consumer := .starting, consumerId })
  | .answering, .answerLogin =>
    some (server.setConnection index { connection with handler := .serving })
  | .serving, .follow userToFollow =>
    some { server with
      profiles := (server.profiles.follow onUpdateCallback connection.username userToFollow).manager }
  | .serving, .readFollowers message timestamp =>
    let followers := server.profiles.followersOf connection.username
    some (server.setConnection index { connection with
      handler := .sending (draft connection.username message timestamp followers) followers })
  | .sending notification followers, .send => some (server.sendTweet index notification followers)
  | .sent tweet, .answerSend =>
    some ({ server with acknowledged := tweet :: server.acknowledged }.setConnection index
      { connection with handler := .serving })
  | .serving, .leave => some (server.setConnection index { connection with handler := .stopping })
  | .stopping, .stop =>
    some (server.setConnection index { connection with handler := .joining, shouldStop := true })
  | .joining, .join =>
    if connection.consumer = .finished then
      some (server.setConnection index { connection with handler := .closing })
    else none
  | .closing, .closeSession =>
    some ({ server with
      profiles := server.profiles.closeSession connection.username connection.threadId }.setConnection
        index { connection with handler := .finished })
  | _, _ => none

def subscribe (index : QueueRef) : Server :=
  let connection := server.connections index
  let delivered := server.deliver
    (server.notifications.subscribe connection.username connection.consumerId index)
  delivered.setConnection index { delivered.connections index with consumer := .checking }

def unsubscribe (index : QueueRef) : Server :=
  let connection := server.connections index
  let left := server.deliver
    (server.notifications.unsubscribe connection.username connection.consumerId)
  left.setConnection index { left.connections index with consumer := .finished }

/-- A wait may end early, with the queue still empty, and it may run out of time
although the queue was filled in the meantime. -/
def consumerStep (index : QueueRef) (action : ConsumerAction) : Option Server :=
  let connection := server.connections index
  match connection.consumer, action with
  | .starting, .subscribe => some (server.subscribe index)
  | .checking, .check =>
    let consumer := if connection.shouldStop then .leaving else .looking
    some (server.setConnection index { connection with consumer })
  | .looking, .look | .waiting, .wake => some (server.setConnection index connection.tryRemove)
  | .waiting, .timeout => some (server.setConnection index { connection with consumer := .checking })
  | .writing notification, .write =>
    some (server.setConnection index (connection.write notification))
  | .leaving, .unsubscribe => some (server.unsubscribe index)
  | _, _ => none

def lose (index : QueueRef) : Server :=
  server.setConnection index { server.connections index with broken := true }

end Calls

def step (onUpdateCallback : ProfileManager → Bool) (server : Server) :
    ServerAction → Option Server
  | .handler index action => server.handlerStep onUpdateCallback index action
  | .consumer index action => server.consumerStep index action
  | .lose index => some (server.lose index)

section Moves

variable {onUpdateCallback : ProfileManager → Bool} {server next : Server} {index : QueueRef}

/-- The steps of a handler, with what each finds. -/
inductive HandlerMove (onUpdateCallback : ProfileManager → Bool) (server : Server)
    (index : QueueRef) : HandlerAction → Server → Prop where
  | refuse (authorizing : (server.connections index).handler = .authorizing) :
    HandlerMove onUpdateCallback server index .refuse
      (server.setConnection index { server.connections index with handler := .finished })
  | login (username : Text) (threadId : Nat)
      (authorizing : (server.connections index).handler = .authorizing) :
    HandlerMove onUpdateCallback server index (.login username threadId)
      ({ server with
        profiles := (server.profiles.startSession onUpdateCallback username
          ⟨threadId, username⟩).manager }.setConnection index
        { server.connections index with
          handler := if (server.profiles.startSession onUpdateCallback username
            ⟨threadId, username⟩).success then .starting else .finished
          username
          threadId })
  | startConsumer (consumerId : Nat) (starting : (server.connections index).handler = .starting) :
    HandlerMove onUpdateCallback server index (.startConsumer consumerId)
      (server.setConnection index
        { server.connections index with handler := .answering, consumer := .starting, consumerId })
  | answerLogin (answering : (server.connections index).handler = .answering) :
    HandlerMove onUpdateCallback server index .answerLogin
      (server.setConnection index { server.connections index with handler := .serving })
  | follow (userToFollow : Text) (serving : (server.connections index).handler = .serving) :
    HandlerMove onUpdateCallback server index (.follow userToFollow)
      { server with
        profiles := (server.profiles.follow onUpdateCallback (server.connections index).username
          userToFollow).manager }
  | readFollowers (message : Text) (timestamp : Nat)
      (serving : (server.connections index).handler = .serving) :
    HandlerMove onUpdateCallback server index (.readFollowers message timestamp)
      (server.setConnection index { server.connections index with
        handler := .sending
          (draft (server.connections index).username message timestamp
            (server.profiles.followersOf (server.connections index).username))
          (server.profiles.followersOf (server.connections index).username) })
  | send (notification : Notification) (followers : List Text)
      (sending : (server.connections index).handler = .sending notification followers) :
    HandlerMove onUpdateCallback server index .send (server.sendTweet index notification followers)
  | answerSend (tweet : SentTweet) (sent : (server.connections index).handler = .sent tweet) :
    HandlerMove onUpdateCallback server index .answerSend
      ({ server with acknowledged := tweet :: server.acknowledged }.setConnection index
        { server.connections index with handler := .serving })
  | leave (serving : (server.connections index).handler = .serving) :
    HandlerMove onUpdateCallback server index .leave
      (server.setConnection index { server.connections index with handler := .stopping })
  | stop (stopping : (server.connections index).handler = .stopping) :
    HandlerMove onUpdateCallback server index .stop
      (server.setConnection index
        { server.connections index with handler := .joining, shouldStop := true })
  | join (joining : (server.connections index).handler = .joining)
      (finished : (server.connections index).consumer = .finished) :
    HandlerMove onUpdateCallback server index .join
      (server.setConnection index { server.connections index with handler := .closing })
  | closeSession (closing : (server.connections index).handler = .closing) :
    HandlerMove onUpdateCallback server index .closeSession
      ({ server with
        profiles := server.profiles.closeSession (server.connections index).username
          (server.connections index).threadId }.setConnection index
        { server.connections index with handler := .finished })

theorem handlerMove_of_taken {action : HandlerAction}
    (taken : server.handlerStep onUpdateCallback index action = some next) :
    HandlerMove onUpdateCallback server index action next := by
  unfold handlerStep at taken
  dsimp only at taken
  split at taken
  next authorizing => cases taken; exact .refuse authorizing
  next username threadId authorizing => cases taken; exact .login username threadId authorizing
  next consumerId starting => cases taken; exact .startConsumer consumerId starting
  next answering => cases taken; exact .answerLogin answering
  next userToFollow serving => cases taken; exact .follow userToFollow serving
  next message timestamp serving => cases taken; exact .readFollowers message timestamp serving
  next notification followers sending => cases taken; exact .send notification followers sending
  next tweet sent => cases taken; exact .answerSend tweet sent
  next serving => cases taken; exact .leave serving
  next stopping => cases taken; exact .stop stopping
  next joining =>
    split at taken
    next finished => cases taken; exact .join joining finished
    next => cases taken
  next closing => cases taken; exact .closeSession closing
  next => cases taken

/-- The steps of a consumer, with what each finds. -/
inductive ConsumerMove (server : Server) (index : QueueRef) : ConsumerAction → Server → Prop where
  | subscribe (starting : (server.connections index).consumer = .starting) :
    ConsumerMove server index .subscribe (server.subscribe index)
  | check (checking : (server.connections index).consumer = .checking) :
    ConsumerMove server index .check
      (server.setConnection index { server.connections index with
        consumer := if (server.connections index).shouldStop then .leaving else .looking })
  | look (looking : (server.connections index).consumer = .looking) :
    ConsumerMove server index .look
      (server.setConnection index (server.connections index).tryRemove)
  | wake (waiting : (server.connections index).consumer = .waiting) :
    ConsumerMove server index .wake
      (server.setConnection index (server.connections index).tryRemove)
  | timeout (waiting : (server.connections index).consumer = .waiting) :
    ConsumerMove server index .timeout
      (server.setConnection index { server.connections index with consumer := .checking })
  | write (notification : Notification)
      (writing : (server.connections index).consumer = .writing notification) :
    ConsumerMove server index .write
      (server.setConnection index ((server.connections index).write notification))
  | unsubscribe (leaving : (server.connections index).consumer = .leaving) :
    ConsumerMove server index .unsubscribe (server.unsubscribe index)

theorem consumerMove_of_taken {action : ConsumerAction}
    (taken : server.consumerStep index action = some next) :
    ConsumerMove server index action next := by
  unfold consumerStep at taken
  dsimp only at taken
  split at taken
  next starting => cases taken; exact .subscribe starting
  next checking => cases taken; exact .check checking
  next looking => cases taken; exact .look looking
  next waiting => cases taken; exact .wake waiting
  next waiting => cases taken; exact .timeout waiting
  next notification writing => cases taken; exact .write notification writing
  next leaving => cases taken; exact .unsubscribe leaving
  next => cases taken

end Moves

end Server

section SessionQueue

/-- Where a consumer is in the code of its queue. -/
inductive Consumer.At : Consumer → Queue.Place Notification → Prop where
  | looking : At .looking (.calling (.tryRemoveFor 1500))
  | waiting : At .waiting (.waitingFor 1500)
  | writing (notification : Notification) : At (.writing notification) (.returned (some notification))
  | checking : At .checking (.returned none)

/-- The insertions of a call are sections of the queue, one after another. -/
theorem queue_receive (connection : ClientConnection) (notifications : List Notification) :
    (connection.receive notifications).queue = notifications.foldl
      (fun queue notification => ((Queue.insert notification).complete queue).1)
      connection.queue := by
  show connection.queue ++ notifications = _
  generalize connection.queue = queue
  induction notifications generalizing queue with
  | nil => exact List.append_nil queue
  | cons notification rest ih =>
    rw [List.foldl_cons, ← ih, Queue.insert, Section.complete, Section.complete,
      List.append_assoc, List.singleton_append]

/-- `tryRemoveFor` of a connection's queue, up to its wait or its end. -/
theorem tryRemove_section (connection : ClientConnection) :
    ∃ ended, (Queue.tryRemoveFor 1500 .noTimeout).complete connection.queue =
        (connection.tryRemove.queue, ended) ∧ connection.tryRemove.consumer.At ended := by
  obtain ⟨handler, username, threadId, consumer, consumerId, shouldStop, queue⟩ := connection
  cases queue with
  | nil => exact ⟨_, rfl, .waiting⟩
  | cons notification rest => exact ⟨_, rfl, .writing notification⟩

/-- What a consumer does with its queue is a section of the queue's code. -/
theorem consumerStep_section {server next : Server} {index : QueueRef} {action : ConsumerAction}
    (queueing : action = .look ∨ action = .wake ∨ action = .timeout)
    (taken : server.consumerStep index action = some next) :
    ∃ began move body ended, (server.connections index).consumer.At began ∧
      Queue.monitor.inside began move = some body ∧
      body.complete (server.connections index).queue = ((next.connections index).queue, ended) ∧
      (next.connections index).consumer.At ended := by
  obtain ⟨ended, completed, there⟩ := tryRemove_section (server.connections index)
  have changed : ∀ connection,
      (server.setConnection index connection).connections index = connection := by
    intro connection
    simp only [Server.setConnection, Function.update_self]
  cases Server.consumerMove_of_taken taken with
  | subscribe | check | write | unsubscribe => simp at queueing
  | look looking =>
    rw [looking, changed]
    exact ⟨_, .lock, _, ended, .looking, rfl, completed, there⟩
  | wake waiting =>
    rw [waiting, changed]
    exact ⟨_, .wake .noTimeout, _, ended, .waiting, rfl, completed, there⟩
  | timeout waiting =>
    rw [waiting, changed]
    refine ⟨_, .wake .timeout, _, .returned none, .waiting, rfl, ?_, .checking⟩
    cases (server.connections index).queue <;> rfl

end SessionQueue

end TwitterClone
