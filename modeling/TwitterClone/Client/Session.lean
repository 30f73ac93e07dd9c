import TwitterClone.Client.Notification
import TwitterClone.Foundation.Machine
import TwitterClone.Packet.Packet

/-! The client's main loop, with the threads that receive for it. A lost connection is
noticed by a thread and replaced by the loop, before it goes on with the key that was
pressed. -/
namespace TwitterClone.Client

open Foundation

/-- The keys that the loop tells apart. -/
inductive Key where
  | exit
  | command
  | feed
  | other
  deriving DecidableEq, Repr

/-- What is used although it is `NULL`. -/
inductive NullUse where
  | connection
  | reply
  deriving DecidableEq, Repr

/-- The next statement of `main` and of the functions it calls. A key is the one that the
loop goes on with after a reconnection; there is none before the loop. -/
inductive Statement where
  | connecting
  | login (key : Option Key)
  | awaitingReply (key : Option Key)
  | starting (key : Option Key)
  | readingKey
  | testing (key : Key)
  | reconnecting (key : Key)
  | clearing (key : Key)
  | handling (key : Key)
  | ended (code : Int)
  | crashed (use : NullUse)
  deriving DecidableEq, Repr

/-- The next statement of a `ConnectionConsumer`. -/
inductive Receiver where
  | testing
  | receiving
  | lost
  | finished
  deriving DecidableEq, Repr

inductive ReceiverMove where
  | test
  | receive
  | fail
  | set
  deriving DecidableEq, Repr

/-- The pointer to the connection, as the number of the connection if it is not `NULL`. -/
structure Session where
  username : Text
  statement : Statement := .connecting
  connection : Option Nat := none
  connections : Nat := 0
  shouldReconnect : Bool := false
  receivers : List (Nat × Receiver) := []
  sent : List (Nat × PacketType × Text) := []

inductive SessionAction where
  | connect (answers : List Bool)
  | login
  | reply (response : Option PacketType)
  | start
  | key (key : Key)
  | test
  | clear
  | command (command : Text)
  | handle
  | receiver (index : Nat) (move : ReceiverMove)
  deriving DecidableEq, Repr

def removePrefix (origin beginning : Text) : Text :=
  if beginning <+: origin then origin.drop beginning.length else origin

/-- The packet that a command asks for. -/
def commandPacket (command : Text) : Option (PacketType × Text) :=
  if "SEND ".toList <+: command then
    some (.send, cString (removePrefix command "SEND ".toList))
  else if "FOLLOW ".toList <+: command then
    let username := removePrefix command "FOLLOW ".toList
    if usernameIsValid username then some (.follow, cString username) else none
  else none

namespace Session

/-- One front end after the other is tried until one answers. -/
def connectToAnyProvider (session : Session) (answers : List Bool) : Session :=
  if true ∈ answers then
    { session with
      connection := some session.connections
      connections := session.connections + 1 }
  else { session with connection := none }

/-- The use of the connection that it is called with. -/
def send (session : Session) (type : PacketType) (payload : Text) (next : Statement) : Session :=
  match session.connection with
  | none => { session with statement := .crashed .connection }
  | some connection => { session with
      sent := session.sent ++ [(connection, type, payload)]
      statement := next }

/-- Where the program goes on when `tryLogin` has returned `false`. -/
def refused : Option Key → Statement
  | none => .ended 0
  | some key => .clearing key

/-- The first part of `tryLogin`. -/
def tryLogin (session : Session) (key : Option Key) : Session :=
  if usernameIsValid session.username then
    session.send .login (cString session.username) (.awaitingReply key)
  else { session with statement := refused key }

/-- The rest of `tryLogin`: the type of the reply is read without a test for `NULL`. -/
def inspect (session : Session) (key : Option Key) (response : Option PacketType) : Session :=
  match session.connection, response with
  | none, _ => { session with statement := .crashed .connection }
  | some _, none => { session with statement := .crashed .reply }
  | some _, some type =>
    { session with statement := if type = .success then .starting key else refused key }

/-- The receiver takes a reference to the connection. -/
def startReceiver (session : Session) (key : Option Key) : Session :=
  match session.connection with
  | none => { session with statement := .crashed .connection }
  | some connection => { session with
      receivers := session.receivers ++ [(connection, .testing)]
      statement := match key with
        | none => .readingKey
        | some key => .clearing key }

def handleCommand (session : Session) (command : Text) : Session :=
  match commandPacket command with
  | none => { session with statement := .readingKey }
  | some (type, payload) => session.send type payload .readingKey

/-- Threads of replaced receivers are detached and go on. -/
def stepReceiver (session : Session) (index : Nat) (move : ReceiverMove) : Option Session :=
  match session.receivers[index]?, move with
  | some (connection, .testing), .test =>
    let next := if session.shouldReconnect then .finished else .receiving
    some { session with receivers := session.receivers.set index (connection, next) }
  | some (connection, .receiving), .receive =>
    some { session with receivers := session.receivers.set index (connection, .testing) }
  | some (connection, .receiving), .fail =>
    some { session with receivers := session.receivers.set index (connection, .lost) }
  | some (connection, .lost), .set =>
    some { session with
      receivers := session.receivers.set index (connection, .testing)
      shouldReconnect := true }
  | _, _ => none

def step (session : Session) (action : SessionAction) : Option Session :=
  match session.statement, action with
  | .connecting, .connect answers =>
    let session := session.connectToAnyProvider answers
    some { session with
      statement := if session.connection = none then .ended (-1) else .login none }
  | .login key, .login => some (session.tryLogin key)
  | .awaitingReply key, .reply response => some (session.inspect key response)
  | .starting key, .start => some (session.startReceiver key)
  | .readingKey, .key key =>
    some { session with statement := if key = .exit then .ended 0 else .testing key }
  | .testing key, .test =>
    some { session with
      statement := if session.shouldReconnect then .reconnecting key else .handling key }
  | .reconnecting key, .connect answers =>
    let session := session.connectToAnyProvider answers
    some { session with
      statement := if session.connection = none then .clearing key else .login (some key) }
  | .clearing key, .clear =>
    some { session with shouldReconnect := false, statement := .handling key }
  | .handling .command, .command command => some (session.handleCommand command)
  | .handling key, .handle =>
    if key = .command then none else some { session with statement := .readingKey }
  | .ended _, _ => none
  | .crashed _, _ => none
  | _, .receiver index move => session.stepReceiver index move
  | _, _ => none

/-- No statement has used a null pointer. -/
def Survives (session : Session) : Prop := ∀ use, session.statement ≠ .crashed use

/-- A login is answered, and what is typed without a connection is nothing to send. -/
def Served (session : Session) : SessionAction → Prop
  | .reply response => response ≠ none
  | .command command => session.connection ≠ none ∨ commandPacket command = none
  | _ => True

/-- From a successful attempt to connect to the start of the receiver there is a
connection. -/
def Connected (session : Session) : Prop :=
  match session.statement with
  | .login _ | .awaitingReply _ | .starting _ => session.connection ≠ none
  | _ => True

section Steps

variable {session next : Session}

theorem refused_ne_crashed (key : Option Key) (use : NullUse) : refused key ≠ .crashed use := by
  cases key with
  | none => exact Statement.noConfusion
  | some key => exact Statement.noConfusion

theorem survives_send_iff {type : PacketType} {payload : Text} {later : Statement}
    (goesOn : ∀ use, later ≠ .crashed use) :
    (session.send type payload later).Survives ↔ session.connection ≠ none := by
  unfold send
  cases session.connection with
  | none => simp [Survives]
  | some connection => simpa [Survives] using goesOn

theorem survives_tryLogin (connected : session.connection ≠ none) (key : Option Key) :
    (session.tryLogin key).Survives := by
  unfold tryLogin
  split
  · exact (survives_send_iff fun _ => Statement.noConfusion).mpr connected
  · exact refused_ne_crashed key

theorem survives_inspect_iff (connected : session.connection ≠ none) {key : Option Key}
    {response : Option PacketType} :
    (session.inspect key response).Survives ↔ response ≠ none := by
  obtain ⟨connection, there⟩ := Option.ne_none_iff_exists'.mp connected
  cases response with
  | none => simp [inspect, there, Survives]
  | some type =>
    refine iff_of_true ?_ (Option.some_ne_none type)
    intro use
    simp only [inspect, there]
    split
    · exact Statement.noConfusion
    · exact refused_ne_crashed key use

theorem survives_startReceiver (connected : session.connection ≠ none) (key : Option Key) :
    (session.startReceiver key).Survives := by
  obtain ⟨connection, there⟩ := Option.ne_none_iff_exists'.mp connected
  intro use
  simp only [startReceiver, there]
  cases key with
  | none => exact Statement.noConfusion
  | some key => exact Statement.noConfusion

theorem survives_handleCommand_iff {command : Text} :
    (session.handleCommand command).Survives ↔
      session.connection ≠ none ∨ commandPacket command = none := by
  unfold handleCommand
  cases asked : commandPacket command with
  | none => simp [Survives]
  | some packet => simp [survives_send_iff]

/-- A receiver changes neither the statement of the loop nor its pointer. -/
theorem stepReceiver_frame {index : Nat} {move : ReceiverMove}
    (taken : session.stepReceiver index move = some next) :
    next.statement = session.statement ∧ next.connection = session.connection := by
  unfold stepReceiver at taken
  split at taken
  all_goals cases taken
  all_goals exact ⟨rfl, rfl⟩

theorem connected_of_connection (there : session.connection ≠ none) : session.Connected := by
  unfold Connected
  split
  · exact there
  · exact there
  · exact there
  · trivial

theorem connection_send {type : PacketType} {payload : Text} {later : Statement} :
    (session.send type payload later).connection = session.connection := by
  unfold send
  split <;> rfl

theorem connection_tryLogin (key : Option Key) :
    (session.tryLogin key).connection = session.connection := by
  unfold tryLogin
  split
  · exact connection_send
  · rfl

theorem connection_inspect (key : Option Key) (response : Option PacketType) :
    (session.inspect key response).connection = session.connection := by
  unfold inspect
  split <;> rfl

theorem connected_startReceiver (key : Option Key) : (session.startReceiver key).Connected := by
  unfold startReceiver
  split
  · trivial
  · cases key with
    | none => trivial
    | some key => trivial

theorem connected_handleCommand (command : Text) : (session.handleCommand command).Connected := by
  unfold handleCommand send
  split
  · trivial
  · split <;> trivial

/-- An attempt to connect is followed by a login only if it has succeeded. -/
theorem connected_attempt {other : Statement} {key : Option Key}
    (harmless : { session with statement := other }.Connected) :
    { session with
      statement := if session.connection = none then other else .login key }.Connected := by
  by_cases gone : session.connection = none
  · rwa [if_pos gone]
  · exact connected_of_connection gone

/-- What one step does to the pointer, and whether it survives. -/
theorem step_spec {action : SessionAction} (connected : session.Connected)
    (taken : session.step action = some next) :
    next.Connected ∧ (next.Survives ↔ session.Served action) := by
  unfold step at taken
  split at taken
  next answers here =>
    cases taken
    refine ⟨connected_attempt trivial, iff_of_true ?_ trivial⟩
    intro use
    split <;> exact Statement.noConfusion
  next key here =>
    cases taken
    have there : session.connection ≠ none := by
      simpa only [Connected, here] using connected
    exact ⟨connected_of_connection (by rwa [connection_tryLogin]),
      iff_of_true (survives_tryLogin there key) trivial⟩
  next key response here =>
    cases taken
    have there : session.connection ≠ none := by
      simpa only [Connected, here] using connected
    exact ⟨connected_of_connection (by rwa [connection_inspect]), survives_inspect_iff there⟩
  next key here =>
    cases taken
    have there : session.connection ≠ none := by
      simpa only [Connected, here] using connected
    exact ⟨connected_startReceiver key, iff_of_true (survives_startReceiver there key) trivial⟩
  next key here =>
    cases taken
    refine ⟨?_, iff_of_true ?_ trivial⟩
    · split <;> trivial
    · intro use
      split <;> exact Statement.noConfusion
  next key here =>
    cases taken
    refine ⟨?_, iff_of_true ?_ trivial⟩
    · split <;> trivial
    · intro use
      split <;> exact Statement.noConfusion
  next key answers here =>
    cases taken
    refine ⟨connected_attempt trivial, iff_of_true ?_ trivial⟩
    intro use
    split <;> exact Statement.noConfusion
  next key here =>
    cases taken
    exact ⟨trivial, iff_of_true (fun use => Statement.noConfusion) trivial⟩
  next command here =>
    cases taken
    exact ⟨connected_handleCommand command, survives_handleCommand_iff⟩
  next key here =>
    split at taken
    · cases taken
    · cases taken
      exact ⟨trivial, iff_of_true (fun use => Statement.noConfusion) trivial⟩
  next => cases taken
  next => cases taken
  next index move _ alive =>
    obtain ⟨statement, connection⟩ := stepReceiver_frame taken
    refine ⟨?_, iff_of_true ?_ trivial⟩
    · unfold Connected at connected ⊢
      rwa [statement, connection]
    · intro use crashed
      exact alive use (statement ▸ crashed)
  next => cases taken

end Steps

/-- In every run, the client uses no null pointer exactly if every login is answered and
nothing is to be sent while there is no connection. -/
theorem always_survives_iff {username : Text} {actions : List SessionAction} {final : Session}
    (reached : run step { username } actions = some final) :
    Always step Survives { username } actions ↔ AllMeet step Served { username } actions :=
  always_iff_allMeet_of_invariant (fun _ _ _ connected taken => (step_spec connected taken).1)
    (fun _ _ _ connected _ taken => (step_spec connected taken).2) trivial
    (fun _ => Statement.noConfusion) reached

/-- A session that is moved to another front end and sends a message there. -/
def movedOver : List SessionAction :=
  [.connect [true], .login, .reply (some .success), .start, .receiver 0 .test, .receiver 0 .fail,
    .receiver 0 .set, .key .command, .test, .connect [false, true], .login, .reply (some .success),
    .start, .clear, .command "SEND hi".toList]

theorem always_survives_movedOver :
    Always step Survives { username := "@alice".toList } movedOver ↔
      AllMeet step Served { username := "@alice".toList } movedOver :=
  @always_survives_iff "@alice".toList movedOver _ rfl

/-- The server is gone before it has answered the login. -/
def lostLogin : List SessionAction := [.connect [true], .login, .reply none]

/-- No front end is left, and a message is sent all the same. -/
def sentUnconnected : List SessionAction :=
  [.connect [true], .login, .reply (some .success), .start, .receiver 0 .test, .receiver 0 .fail,
    .receiver 0 .set, .key .command, .test, .connect [false, false], .clear,
    .command "SEND hi".toList]

theorem not_always_survives_lostLogin_of_sentUnconnected :
    (¬ Always step Survives { username := "@alice".toList } lostLogin) ∧
      ¬ Always step Survives { username := "@alice".toList } sentUnconnected :=
  ⟨fun always => always.final rfl .reply rfl, fun always => always.final rfl .connection rfl⟩

end Session

end TwitterClone.Client
