import TwitterClone.Client.NotificationList
import TwitterClone.Packet.Sending
import TwitterClone.Server.Dialogue

/-! What the client makes of the packets of its connection, from the session queue of the
server over a front-end to the feed. -/
namespace TwitterClone

open Foundation

namespace Client

/-- What a receiver writes to. -/
structure Screen where
  feed : NotificationList
  response : Option Text := none

section Receiving

variable {Moment : Type} (localtime : Int → Option Moment) (strftime : Moment → Text)

/-- One turn of the loop with a packet. -/
def Screen.take (screen : Screen) (packet : Packet) : Except Misuse Screen :=
  if packet.type = .data then
    (consume localtime strftime packet.payload).map fun notification =>
      { screen with feed := screen.feed.addItem notification }
  else if packet.type = .success ∨ packet.type = .error then
    .ok { screen with response := packet.payload }
  else .ok screen

def Screen.takeEach (screen : Screen) : List Packet → Except Misuse Screen
  | [] => .ok screen
  | packet :: rest =>
    match screen.take localtime strftime packet with
    | .error misuse => .error misuse
    | .ok screen => screen.takeEach rest

/-- `tryLogin` takes the first packet for the response, and without success the client ends.
A receiver takes the others. -/
def Screen.attend (screen : Screen) : List Packet → Except Misuse (Option Screen)
  | [] => .error .nullPointer
  | response :: rest =>
    if response.type = .success then (screen.takeEach localtime strftime rest).map some
    else .ok none

end Receiving

/-- What of a notification is the same for the server and the client. -/
def Notification.told (notification : Notification) : Int × Text × Text :=
  (notification.id, notification.sender, notification.message)

def told (notification : TwitterClone.Notification) : Int × Text × Text :=
  (notification.id, notification.username, notification.message)

/-- The sender has a name as the client takes it, without white space, and the client's clock
knows the time. -/
structure Readable {Moment : Type} (localtime : Int → Option Moment)
    (notification : TwitterClone.Notification) : Prop where
  valid : usernameIsValid notification.username = true
  ink : ∀ byte ∈ notification.username, isSpace byte = false
  texts : nul ∉ notification.username ∧ nul ∉ notification.message
  numbers : IsInt notification.id ∧ notification.timestamp < 2 ^ 64
  known : (localtime (timeT notification.timestamp)).isSome = true

section Feed

variable {Moment : Type} {localtime : Int → Option Moment} {strftime : Moment → Text}
  {screen : Screen}

end Feed

end Client

namespace Service

open Client

variable {onUpdateCallback : ProfileManager → Bool} {ids : QueueRef → ThreadIds}
  {service : Service}

end Service

end TwitterClone
