import TwitterClone.Client.FeedDrawing
import TwitterClone.Client.Session
import TwitterClone.Foundation.LineEditor
import TwitterClone.Packet.Sending

/-! The command box of the client. Whatever keys are hit and whatever becomes of the
connections, what is sent has the form that its receivers expect. -/
namespace TwitterClone.Client

open Foundation

/-- The codes that the terminal's library has for keys without a character. -/
def keyBackspace : Int := 263

def keyF (number : Nat) : Int := 264 + number

structure TextInput where
  position : Vector2
  size : Vector2
  text : Text := []
  maxSize : Int := -1

namespace TextInput

/-- The greatest size is compared as a 64-bit unsigned number. -/
def limit (box : TextInput) : Nat := (box.maxSize % 2 ^ 64).toNat

/-- One turn of the loop, which may end it with a result. The text outlives the key that
leaves the box. -/
def press (box : TextInput) (event : Int) : TextInput × Option Text :=
  if event = keyF 1 then (box, some [])
  else if 0 < event ∧ event < 256 then
    let byte := Char.ofNat event.toNat
    if byte = newline then ({ box with text := [] }, some box.text)
    else if box.text.length < box.limit then ({ box with text := box.text ++ [byte] }, none)
    else (box, none)
  else if event = keyBackspace then ({ box with text := box.text.dropLast }, none)
  else (box, none)

/-- A call with all its events: the last one ends it. -/
def input (box : TextInput) : List Int → Option (Text × TextInput)
  | [] => none
  | event :: rest =>
    match box.press event with
    | (box, none) => box.input rest
    | (box, some result) => if rest = [] then some (result, box) else none

/-- The calls that clear the rows of the box, and those that write its text. -/
def draw (box : TextInput) : List Print × List Print :=
  ((List.range box.size.y.toNat).map fun (j : Nat) =>
      ⟨box.position.y + j, box.position.x, cString (List.replicate box.size.x.toNat ' ')⟩,
    (splitByLength box.size.x.toNat box.text).mapIdx fun j line =>
      ⟨box.position.y + j, box.position.x, cString line⟩)

/-- A line that fits. -/
structure Line (room : Nat) (text : Text) : Prop where
  short : text.length ≤ room
  free : nul ∉ text
  line : newline ∉ text

theorem Line.of_sublist {room : Nat} {text part : Text} (line : Line room text)
    (inside : part.Sublist text) : Line room part :=
  ⟨inside.length_le.trans line.short, fun member => line.free (inside.subset member),
    fun member => line.line (inside.subset member)⟩

variable {box : TextInput}

theorem nul_ne_of_event {event : Int} (byte : 0 < event ∧ event < 256) :
    nul ≠ Char.ofNat event.toNat := by
  intro same
  have code := congrArg Char.toNat same
  have valid : event.toNat.isValidChar := Or.inl (by omega)
  rw [Char.ofNat, dif_pos valid] at code
  change 0 = event.toNat at code
  omega

/-- A key changes nothing but the text, which stays a line; and what it returns is one. -/
theorem line_press (line : Line box.limit box.text) (event : Int) :
    (∃ text, (box.press event).1 = { box with text } ∧ Line box.limit text) ∧
      ∀ result ∈ (box.press event).2, Line box.limit result := by
  have none : Line box.limit [] := line.of_sublist (List.nil_sublist _)
  unfold press
  split
  next => exact ⟨⟨_, rfl, line⟩, by simpa using none⟩
  next =>
    split
    next byte =>
      dsimp only
      split
      next => exact ⟨⟨_, rfl, none⟩, by simpa using line⟩
      next printing =>
        split
        next room =>
          refine ⟨⟨_, rfl, ?_, ?_, ?_⟩, by simp⟩
          · rw [List.length_append, List.length_singleton]
            exact room
          · exact List.not_mem_append line.free (by simpa using nul_ne_of_event byte)
          · exact List.not_mem_append line.line (by simpa using Ne.symm printing)
        next => exact ⟨⟨_, rfl, line⟩, by simp⟩
    next =>
      split
      next => exact ⟨⟨_, rfl, line.of_sublist (List.dropLast_sublist _)⟩, by simp⟩
      next => exact ⟨⟨_, rfl, line⟩, by simp⟩

theorem line_input {events : List Int} {command : Text} {next : TextInput}
    (line : Line box.limit box.text) (ended : box.input events = some (command, next)) :
    Line box.limit command ∧ ∃ text, next = { box with text } ∧ Line box.limit text := by
  induction events generalizing box with
  | nil => cases ended
  | cons event rest ih =>
    obtain ⟨⟨text, same, kept⟩, results⟩ := line_press line event
    rw [input] at ended
    split at ended
    next later pressed =>
      rw [pressed] at same
      subst same
      exact @ih { box with text } kept ended
    next later result pressed =>
      split at ended
      next =>
        cases ended
        rw [pressed] at same results
        exact ⟨results command rfl, text, same, kept⟩
      next => cases ended

/-- The key that an event stands for. -/
def editorKey (event : Int) : EditorKey :=
  if event = 10 then .enter
  else if 0 < event ∧ event < 256 then .letter (Char.ofNat event.toNat)
  else if event = keyBackspace then .erase
  else .idle

theorem ofNat_eq_newline_iff {event : Int} (byte : 0 < event ∧ event < 256) :
    Char.ofNat event.toNat = newline ↔ event = 10 := by
  constructor
  · intro same
    have code := congrArg Char.toNat same
    have valid : event.toNat.isValidChar := Or.inl (by omega)
    rw [Char.ofNat, dif_pos valid] at code
    change event.toNat = 10 at code
    omega
  · rintro rfl
    rfl

/-- A turn edits the line, unless its key ends the call. -/
theorem press_typed (box : TextInput) (event : Int) :
    ∃ completed, LineEditor.typed box.limit box.text [editorKey event] =
        (completed, (box.press event).1.text) ∧
      ((box.press event).2 = none ∧ completed = [] ∨
        ∃ result, (box.press event).2 = some result ∧
          (completed = [result] ∨ completed = [] ∧ result = [])) := by
  unfold press editorKey
  by_cases leaves : event = keyF 1
  · subst leaves
    exact ⟨[], rfl, Or.inr ⟨[], rfl, Or.inr ⟨rfl, rfl⟩⟩⟩
  · rw [if_neg leaves]
    by_cases byte : 0 < event ∧ event < 256
    · by_cases ends : event = 10
      · subst ends
        exact ⟨[box.text], rfl, Or.inr ⟨box.text, rfl, Or.inl rfl⟩⟩
      · have printing := mt (ofNat_eq_newline_iff byte).mp ends
        simp only [if_pos byte, if_neg ends, if_neg printing]
        by_cases room : box.text.length < box.limit
        · exact ⟨[], by simp [LineEditor.typed, LineEditor.edit, room], Or.inl (by simp [room])⟩
        · exact ⟨[], by simp [LineEditor.typed, LineEditor.edit, room], Or.inl (by simp [room])⟩
    · have other : event ≠ 10 := by
        omega
      rw [if_neg byte, if_neg byte, if_neg other]
      by_cases erases : event = keyBackspace
      · rw [if_pos erases, if_pos erases]
        exact ⟨[], rfl, Or.inl ⟨rfl, rfl⟩⟩
      · rw [if_neg erases, if_neg erases]
        exact ⟨[], rfl, Or.inl ⟨rfl, rfl⟩⟩

/-- A call returns the line that its keys complete, or nothing if they complete none. -/
theorem input_typed {events : List Int} {command : Text} {next : TextInput}
    (line : Line box.limit box.text) (ended : box.input events = some (command, next)) :
    ∃ completed, LineEditor.typed box.limit box.text (events.map editorKey) =
        (completed, next.text) ∧
      (completed = [command] ∨ completed = [] ∧ command = []) := by
  induction events generalizing box with
  | nil => cases ended
  | cons event rest ih =>
    obtain ⟨⟨text, same, kept⟩, -⟩ := line_press line event
    obtain ⟨first, edits, result⟩ := press_typed box event
    rw [input] at ended
    have split := @LineEditor.typed_append box.limit box.text [editorKey event]
      (rest.map editorKey)
    rw [edits] at split
    rw [List.map_cons, ← List.singleton_append, split]
    split at ended
    next later pressed =>
      rw [pressed] at same result ⊢
      subst same
      obtain ⟨-, none⟩ : _ ∧ first = [] := result.resolve_right (by simp)
      obtain ⟨completed, typed, known⟩ := @ih { box with text } kept ended
      refine ⟨completed, ?_, known⟩
      rw [none]
      exact typed
    next later returned pressed =>
      split at ended
      next last =>
        cases ended
        rw [pressed] at result ⊢
        obtain ⟨other, same, known⟩ := result.resolve_left (by simp)
        obtain rfl := Option.some.inj same
        rw [last]
        exact ⟨first, by simp [LineEditor.typed], known⟩
      next => cases ended

/-- What the box prints is its text, as formats, in rows that it has cleared. -/
theorem draw_line (wide : 0 < box.size.x.toNat) (line : Line box.limit box.text)
    (room : (box.limit - 1) / box.size.x.toNat < box.size.y.toNat) :
    (box.draw.2.map Print.format).flatten = box.text ∧
      ∀ written ∈ box.draw.2, ∃ cleared ∈ box.draw.1, cleared.row = written.row := by
  have flat := flatten_splitByLength wide box.text
  have rows := length_splitByLength wide box.text
  have fewer : (box.text.length - 1) / box.size.x.toNat ≤ (box.limit - 1) / box.size.x.toNat :=
    Nat.div_le_div_right (Nat.sub_le_sub_right line.short 1)
  constructor
  · have formats : box.draw.2.map Print.format = splitByLength box.size.x.toNat box.text := by
      apply List.ext_getElem (by simp [draw])
      intro j _ inside
      have free : nul ∉ (splitByLength box.size.x.toNat box.text)[j] := by
        intro member
        have whole : nul ∈ (splitByLength box.size.x.toNat box.text).flatten :=
          List.mem_flatten.mpr ⟨_, List.getElem_mem inside, member⟩
        rw [flat] at whole
        exact line.free whole
      simp only [draw, List.getElem_map, List.getElem_mapIdx]
      exact cString_of_free free
    rw [formats, flat]
  · intro written member
    obtain ⟨j, inside, rfl⟩ := List.mem_mapIdx.mp member
    refine ⟨_, List.mem_map.mpr ⟨j, List.mem_range.mpr ?_, rfl⟩, rfl⟩
    omega

end TextInput

/-- The client with its command box. -/
structure Terminal where
  session : Session
  box : TextInput

/-- The keys of a command take the place of the command. -/
inductive TerminalAction where
  | loop (action : SessionAction)
  | command (events : List Int)
  deriving DecidableEq

/-- What is typed into the command box. -/
def TerminalAction.keys : TerminalAction → List EditorKey
  | .loop _ => []
  | .command events => events.map TextInput.editorKey

/-- A packet that the client builds, by what it may hold: a command has its word in front. -/
inductive Request : PacketType × Text → Prop where
  | login (username : Text) (short : username.length ≤ maxSizeUsername + 1) (free : nul ∉ username) :
    Request (.login, username)
  | send (message : Text)
      (line : TextInput.Line Notification.maxSize ("SEND ".toList ++ message)) :
    Request (.send, message)
  | follow (username : Text) (valid : usernameIsValid username = true)
      (line : TextInput.Line Notification.maxSize ("FOLLOW ".toList ++ username)) :
    Request (.follow, username)

namespace Session

variable {session next : Session}

/-- What was sent on a connection. -/
def sentOn (session : Session) (connection : Nat) : List (PacketType × Text) :=
  (session.sent.filter fun entry => entry.1 = connection).map Prod.snd

/-- What was sent for commands, over all connections. -/
def requests (session : Session) : List (PacketType × Text) :=
  (session.sent.map Prod.snd).filter fun request => request.1 ≠ .login

theorem sent_send (type : PacketType) (payload : Text) (later : Statement) :
    (session.send type payload later).sent = session.sent ∨
      ∃ connection, (session.send type payload later).sent =
        session.sent ++ [(connection, type, payload)] := by
  unfold send
  split
  next => exact Or.inl rfl
  next connection there => exact Or.inr ⟨connection, rfl⟩

/-- A step sends nothing, the user's name or what a command asks for. -/
theorem sent_step {action : SessionAction} (taken : session.step action = some next) :
    next.sent = session.sent ∨
      ∃ connection packet, next.sent = session.sent ++ [(connection, packet)] ∧
        (usernameIsValid session.username = true ∧ packet = (.login, cString session.username) ∨
          ∃ command, action = .command command ∧ commandPacket command = some packet) := by
  unfold step at taken
  split at taken
  next => cases taken; unfold connectToAnyProvider; split <;> exact Or.inl rfl
  next =>
    cases taken
    unfold tryLogin
    split
    next valid =>
      rcases sent_send .login (cString session.username) (.awaitingReply _) with none | sent
      · exact Or.inl none
      · obtain ⟨connection, sent⟩ := sent
        exact Or.inr ⟨connection, _, sent, Or.inl ⟨valid, rfl⟩⟩
    next => exact Or.inl rfl
  next => cases taken; unfold inspect; split <;> exact Or.inl rfl
  next => cases taken; unfold startReceiver; split <;> exact Or.inl rfl
  next => cases taken; exact Or.inl rfl
  next => cases taken; exact Or.inl rfl
  next => cases taken; unfold connectToAnyProvider; split <;> exact Or.inl rfl
  next => cases taken; exact Or.inl rfl
  next command _ =>
    cases taken
    unfold handleCommand
    split
    next => exact Or.inl rfl
    next type payload asked =>
      rcases sent_send type payload .readingKey with none | sent
      · exact Or.inl none
      · obtain ⟨connection, sent⟩ := sent
        exact Or.inr ⟨connection, _, sent, Or.inr ⟨command, rfl, asked⟩⟩
  next =>
    split at taken
    next => cases taken
    next => cases taken; exact Or.inl rfl
  next => cases taken
  next => cases taken
  next index move _ _ =>
    unfold stepReceiver at taken
    split at taken
    all_goals cases taken
    all_goals exact Or.inl rfl
  next => cases taken

theorem ne_login_of_commandPacket {command : Text} {packet : PacketType × Text}
    (asked : commandPacket command = some packet) : packet.1 ≠ .login := by
  unfold commandPacket at asked
  split at asked
  next =>
    cases asked
    exact PacketType.noConfusion
  next =>
    split at asked
    next =>
      dsimp only at asked
      split at asked
      next =>
        cases asked
        exact PacketType.noConfusion
      next => cases asked
    next => cases asked

/-- A client that has used a null pointer does not go on. -/
theorem survives_of_step {action : SessionAction} (taken : session.step action = some next) :
    session.Survives := by
  intro use crashed
  rw [step.eq_def, crashed] at taken
  cases taken

theorem requests_step {action : SessionAction} (untyped : ∀ command, action ≠ .command command)
    (taken : session.step action = some next) : next.requests = session.requests := by
  rcases sent_step taken with none | ⟨connection, packet, sent, reason⟩
  · rw [requests, requests, none]
  · rcases reason with ⟨-, rfl⟩ | ⟨command, typed, -⟩
    · rw [requests, requests, sent]
      simp
    · exact absurd typed (untyped command)

/-- A command sends what it asks for, if the client survives it. -/
theorem requests_command {command : Text}
    (taken : session.step (.command command) = some next) :
    next.requests = session.requests ++ (commandPacket command).toList ∨
      next.requests = session.requests ∧ ¬ next.Survives := by
  have handled : next = session.handleCommand command := by
    unfold step at taken
    split at taken
    case h_9 other same =>
      cases same
      exact (Option.some.inj taken).symm
    all_goals contradiction
  rw [handled, handleCommand]
  split
  next none =>
    rw [none]
    exact Or.inl (List.append_nil _).symm
  next type payload asked =>
    rw [asked, send]
    split
    next => exact Or.inr ⟨rfl, fun survives => survives .connection rfl⟩
    next connection there =>
      have kept : type ≠ .login := ne_login_of_commandPacket asked
      refine Or.inl ?_
      simp [requests, kept]

end Session

section Requests

theorem length_of_usernameIsValid {username : Text} (valid : usernameIsValid username = true) :
    username.length ≤ maxSizeUsername + 1 := by
  unfold usernameIsValid at valid
  split at valid
  next => exact of_decide_eq_true (Bool.and_eq_true_iff.mp valid).2
  next => cases valid

theorem request_login {username : Text} (valid : usernameIsValid username = true) :
    Request (.login, cString username) :=
  .login _ ((List.takeWhile_prefix _).length_le.trans (length_of_usernameIsValid valid))
    (nul_notMem_cString username)

/-- Behind the word, the packet has the rest of the line. -/
theorem request_command {command : Text} (line : TextInput.Line Notification.maxSize command)
    {packet : PacketType × Text} (asked : commandPacket command = some packet) :
    Request packet := by
  have rest : ∀ {word : Text}, word <+: command →
      command = word ++ removePrefix command word ∧
        cString (removePrefix command word) = removePrefix command word := by
    intro word begins
    obtain ⟨behind, rfl⟩ := begins
    have removed : removePrefix (word ++ behind) word = behind := by
      rw [removePrefix, if_pos (List.prefix_append ..), List.drop_left]
    refine ⟨by rw [removed], ?_⟩
    rw [removed]
    exact cString_of_free fun member => line.free (List.mem_append_right _ member)
  unfold commandPacket at asked
  split at asked
  next begins =>
    obtain ⟨whole, text⟩ := rest begins
    cases asked
    rw [text]
    exact .send _ (whole ▸ line)
  next =>
    split at asked
    next begins =>
      obtain ⟨whole, text⟩ := rest begins
      dsimp only at asked
      split at asked
      next valid =>
        cases asked
        rw [text]
        exact .follow _ valid (whole ▸ line)
      next => cases asked
    next => cases asked

/-- A step in which only a line is a command sends only requests. -/
theorem requests_sent {session next : Session} {action : SessionAction}
    (before : ∀ entry ∈ session.sent, Request entry.2)
    (line : ∀ command, action = .command command → TextInput.Line Notification.maxSize command)
    (taken : session.step action = some next) : ∀ entry ∈ next.sent, Request entry.2 := by
  rcases Session.sent_step taken with none | ⟨connection, packet, sent, reason⟩
  · exact fun entry member => before entry (none ▸ member)
  · intro entry member
    rw [sent] at member
    rcases List.mem_append.mp member with old | new
    · exact before entry old
    · rw [List.mem_singleton.mp new]
      rcases reason with ⟨valid, rfl⟩ | ⟨command, typed, asked⟩
      · exact request_login valid
      · exact request_command (line command typed) asked

/-- The length of a request is the one that its packet tells. -/
theorem Request.spec {request : PacketType × Text} (made : Request request) :
    request.2.length ≤ Notification.maxSize ∧ nul ∉ request.2 := by
  cases made with
  | login username short free => exact ⟨short.trans (by decide), free⟩
  | send message line =>
    have short := line.short
    rw [List.length_append] at short
    exact ⟨by dsimp only; omega, fun member => line.free (List.mem_append_right _ member)⟩
  | follow username valid line =>
    exact ⟨(length_of_usernameIsValid valid).trans (by decide),
      fun member => line.free (List.mem_append_right _ member)⟩

theorem Request.content {request : PacketType × Text} (made : Request request) (now : Nat) :
    (Packet.ofPayload now request.1 request.2).content =
      (request.1, (request.2.length : Int), request.2) := by
  obtain ⟨short, free⟩ := made.spec
  have text := cString_of_free free
  have length : int32 (request.2.length : Int) = request.2.length := by
    refine int32_of_small (short.trans_lt ?_)
    unfold Notification.maxSize
    decide
  rw [Packet.ofPayload, Packet.content, text, length]

end Requests

namespace Terminal

/-- The box that `main` creates in a window of 60 columns and 5 rows. -/
def commandBox : TextInput where
  position := ⟨1, 1⟩
  size := ⟨58, 3⟩
  maxSize := Notification.maxSize

def start (username : Text) : Terminal := ⟨{ username }, commandBox⟩

def step (terminal : Terminal) : TerminalAction → Option Terminal
  | .loop (.command _) => none
  | .loop action => (terminal.session.step action).map fun session => { terminal with session }
  | .command events =>
    (terminal.box.input events).bind fun (command, box) =>
      (terminal.session.step (.command command)).map fun session => ⟨session, box⟩

/-- The box holds a line, and only requests were sent. -/
structure Orderly (terminal : Terminal) : Prop where
  box : ∃ text, terminal.box = { commandBox with text } ∧
    TextInput.Line Notification.maxSize text
  sent : ∀ entry ∈ terminal.session.sent, Request entry.2

/-- The lines that the keys of a run complete, and what is left of them. -/
def typed (actions : List TerminalAction) : List Text × Text :=
  LineEditor.typed Notification.maxSize [] (actions.flatMap TerminalAction.keys)

/-- The box holds what is left of the keys. Every line that they completed was looked at, and
what it asks for was sent, if the client has survived it. -/
structure Typed (actions : List TerminalAction) (terminal : Terminal) : Prop where
  left : terminal.box.text = (typed actions).2
  begun : terminal.session.requests <+: (typed actions).1.filterMap commandPacket
  all : terminal.session.Survives →
    terminal.session.requests = (typed actions).1.filterMap commandPacket

variable {terminal next : Terminal}

theorem step_loop {action : SessionAction} (taken : terminal.step (.loop action) = some next) :
    (∀ command, action ≠ .command command) ∧
      ∃ session, terminal.session.step action = some session ∧
        { terminal with session } = next := by
  unfold Terminal.step at taken
  split at taken
  next => cases taken
  next other same =>
    cases same
    exact ⟨fun command typed => other command (typed ▸ rfl), Option.map_eq_some_iff.mp taken⟩
  next other => cases other

theorem step_command {events : List Int}
    (taken : terminal.step (.command events) = some next) :
    ∃ command, terminal.box.input events = some (command, next.box) ∧
      terminal.session.step (.command command) = some next.session := by
  obtain ⟨⟨command, box⟩, ended, rest⟩ := Option.bind_eq_some_iff.mp taken
  obtain ⟨session, stepped, rfl⟩ := Option.map_eq_some_iff.mp rest
  exact ⟨command, ended, stepped⟩

theorem Orderly.step (orderly : terminal.Orderly) {action : TerminalAction}
    (taken : terminal.step action = some next) : next.Orderly := by
  obtain ⟨text, same, line⟩ := orderly.box
  cases action with
  | loop action =>
    obtain ⟨untyped, session, stepped, rfl⟩ := step_loop taken
    exact ⟨⟨text, same, line⟩,
      requests_sent orderly.sent (fun command typed => absurd typed (untyped command)) stepped⟩
  | command events =>
    obtain ⟨command, ended, stepped⟩ := step_command taken
    rw [same] at ended
    obtain ⟨typed, left, after, kept⟩ :=
      @TextInput.line_input { commandBox with text } events command next.box line ended
    refine ⟨⟨left, after, kept⟩, requests_sent orderly.sent (fun other same => ?_) stepped⟩
    cases same
    exact typed

theorem orderly_start (username : Text) : (start username).Orderly where
  box := ⟨[], rfl, ⟨Nat.zero_le _, List.not_mem_nil, List.not_mem_nil⟩⟩
  sent := by simp [start]

theorem typed_start (username : Text) : Typed [] (start username) where
  left := rfl
  begun := List.prefix_rfl
  all _ := rfl

/-- One action more goes on with what is left of the keys before. -/
theorem typed_concat (front : List TerminalAction) (action : TerminalAction) :
    typed (front ++ [action]) =
      ((typed front).1 ++ (LineEditor.typed Notification.maxSize (typed front).2 action.keys).1,
        (LineEditor.typed Notification.maxSize (typed front).2 action.keys).2) := by
  rw [typed, List.flatMap_append, List.flatMap_singleton, LineEditor.typed_append]
  rfl

/-- A key outside the box adds nothing to what was typed, a command the line that its keys
complete. -/
theorem Typed.step {front : List TerminalAction} (typed : Typed front terminal)
    (orderly : terminal.Orderly) {action : TerminalAction}
    (taken : terminal.step action = some next) : Typed (front ++ [action]) next := by
  have lines := typed_concat front action
  rw [← typed.left] at lines
  cases action with
  | loop action =>
    obtain ⟨untyped, session, stepped, rfl⟩ := step_loop taken
    have whole := typed.all (Session.survives_of_step stepped)
    have sent : session.requests = (Terminal.typed (front ++ [.loop action])).1.filterMap
        commandPacket := by
      rw [lines, Session.requests_step untyped stepped, whole]
      exact congrArg _ (List.append_nil _).symm
    exact ⟨by rw [lines]; rfl, sent ▸ List.prefix_rfl, fun _ => sent⟩
  | command events =>
    obtain ⟨command, ended, stepped⟩ := step_command taken
    have whole := typed.all (Session.survives_of_step stepped)
    obtain ⟨text, same, line⟩ := orderly.box
    rw [same] at ended lines
    obtain ⟨completed, edits, known⟩ :=
      @TextInput.input_typed { commandBox with text } events command next.box line ended
    have edits : LineEditor.typed Notification.maxSize text (events.map TextInput.editorKey) =
        (completed, next.box.text) := edits
    have asked : completed.filterMap commandPacket = (commandPacket command).toList := by
      rcases known with rfl | ⟨rfl, rfl⟩
      · cases asked : commandPacket command with
        | none => simp [asked]
        | some packet => simp [asked]
      · rfl
    rw [TerminalAction.keys, edits] at lines
    have sum : (Terminal.typed (front ++ [.command events])).1.filterMap commandPacket =
        terminal.session.requests ++ (commandPacket command).toList := by
      rw [lines, List.filterMap_append, asked, whole]
    refine ⟨(congrArg Prod.snd lines).symm, ?_, ?_⟩
    all_goals rw [sum]
    · rcases Session.requests_command stepped with sent | ⟨kept, -⟩
      · exact sent ▸ List.prefix_rfl
      · exact kept ▸ List.prefix_append _ _
    · intro survives
      rcases Session.requests_command stepped with sent | ⟨-, crashed⟩
      · exact sent
      · exact absurd survives crashed

theorem sentOn_request (orderly : terminal.Orderly) {connection : Nat}
    {request : PacketType × Text} (member : request ∈ terminal.session.sentOn connection) :
    Request request := by
  obtain ⟨entry, inside, rfl⟩ := List.mem_map.mp member
  exact orderly.sent entry (List.mem_filter.mp inside).1

/-- Requests that are sent over a connection arrive, with their true lengths. -/
theorem arrives_sentOn (orderly : terminal.Orderly) (connection built : Nat) {stack : Nat}
    (room : Notification.maxSize + Packet.headerRoom ≤ stack)
    (hop : Hop stack (terminal.session.sentOn connection).length) :
    ∃ arrived : List Packet, hop.carry ((terminal.session.sentOn connection).map fun request =>
        .ofPayload built request.1 request.2) =
        .ok (arrived.map some ++ List.replicate hop.extra none) ∧
      arrived.map Packet.content = (terminal.session.sentOn connection).map fun request =>
        (request.1, (request.2.length : Int), request.2) := by
  have sendable : ∀ packet ∈ (terminal.session.sentOn connection).map
      (fun request => Packet.ofPayload built request.1 request.2),
      packet.Sendable ∧ packet.Fits stack := by
    intro packet member
    obtain ⟨request, sent, rfl⟩ := List.mem_map.mp member
    obtain ⟨short, free⟩ := (sentOn_request orderly sent).spec
    refine ⟨Packet.sendable_ofPayload .., ?_⟩
    rw [Packet.Fits, Packet.ofPayload, cString_of_free free, Packet.PayloadFits]
    unfold Notification.maxSize Packet.headerRoom at *
    dsimp only
    omega
  obtain ⟨arrived, carried, contents, -⟩ := hop.carry_eq (List.length_map ..) sendable
  refine ⟨arrived, carried, ?_⟩
  rw [contents, List.map_map]
  exact List.map_congr_left fun request sent => (sentOn_request orderly sent).content built

theorem orderly_of_run {username : Text} {actions : List TerminalAction}
    (reached : run step (start username) actions = some terminal) : terminal.Orderly :=
  run_invariant (fun _ _ _ orderly taken => Orderly.step orderly taken)
    (orderly_start username) reached

theorem typed_of_run {username : Text} {actions : List TerminalAction}
    (reached : run step (start username) actions = some terminal) : Typed actions terminal :=
  run_history (typed_start username)
    (fun _ _ _ _ before typed taken => Typed.step typed (orderly_of_run before) taken) reached

/-- Whatever keys are hit and whatever becomes of the connections: the client sends only
logins, messages of one line that the feed does not shorten, and valid names to follow; what
it sends besides logins is what the lines that were typed ask for; the command box prints its
text into its rows; and on every connection all requests arrive in order and as they were
sent, however the stream is cut. -/
theorem requests_of_run (username : Text) (actions : List TerminalAction) (terminal : Terminal)
    (reached : run step (start username) actions = some terminal) :
    (∀ entry ∈ terminal.session.sent, Request entry.2) ∧ Typed actions terminal ∧
    ((terminal.box.draw.2.map Print.format).flatten = terminal.box.text ∧
      ∀ written ∈ terminal.box.draw.2, ∃ cleared ∈ terminal.box.draw.1,
        cleared.row = written.row) ∧
    ∀ (connection built stack : Nat), Notification.maxSize + Packet.headerRoom ≤ stack →
      ∀ hop : Hop stack (terminal.session.sentOn connection).length,
      ∃ arrived : List Packet, hop.carry ((terminal.session.sentOn connection).map fun request =>
          .ofPayload built request.1 request.2) =
          .ok (arrived.map some ++ List.replicate hop.extra none) ∧
        arrived.map Packet.content = (terminal.session.sentOn connection).map fun request =>
          (request.1, (request.2.length : Int), request.2) := by
  have orderly := orderly_of_run reached
  refine ⟨orderly.sent, typed_of_run reached, ?_, fun connection built _ room hop =>
    arrives_sentOn orderly connection built room hop⟩
  obtain ⟨text, same, line⟩ := orderly.box
  rw [same]
  have wide : 0 < commandBox.size.x.toNat := by decide
  have room : (commandBox.limit - 1) / commandBox.size.x.toNat < commandBox.size.y.toNat := by
    decide
  exact @TextInput.draw_line { commandBox with text } wide line room

/-- A message with a slip that is corrected, typed after the login. -/
def correctedMessage : List TerminalAction :=
  [.loop (.connect [true]), .loop .login, .loop (.reply (some .success)), .loop .start,
    .loop (.key .command), .loop .test,
    .command ("SEND hj".toList.map (fun byte => (byte.toNat : Int)) ++ [keyBackspace, -1, 105, 10])]

theorem requests_of_correctedMessage :
    ∃ terminal, run step (start "@anna".toList) correctedMessage = some terminal ∧
      terminal.session.sent = [(0, .login, "@anna".toList), (0, .send, "hi".toList)] ∧
      (∀ entry ∈ terminal.session.sent, Request entry.2) ∧ Typed correctedMessage terminal :=
  have requests := requests_of_run "@anna".toList correctedMessage _ rfl
  ⟨_, rfl, rfl, requests.1, requests.2.1⟩

end Terminal

end TwitterClone.Client
