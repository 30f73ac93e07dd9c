import TwitterClone.Server.Dialogue

/-! Whether a client is told of its login before it is told anything else. The handler
starts the consumer of a session before it answers the login. -/
namespace TwitterClone

open Foundation ConnectionHandler

namespace Wire

/-- The first packet that is given to `send` is no notification. -/
def Greeted (wire : Wire) : Prop := ∀ first ∈ wire.sent.head?, first.1 ≠ .data

variable {wire : Wire} {broken : Bool}

theorem Greeted.send (greeted : wire.Greeted) {response : Response} (reply : response.1 ≠ .data) :
    (wire.send broken response).Greeted := by
  intro first begins
  cases before : wire.sent with
  | nil =>
    simp only [Wire.send, Wire.push, before, List.nil_append, List.head?_cons,
      Option.mem_some] at begins
    exact begins ▸ reply
  | cons earlier rest =>
    simp only [Wire.send, Wire.push, before, List.cons_append, List.head?_cons,
      Option.mem_some] at begins
    exact greeted first (by rw [before]; exact congrArg some begins)

theorem Greeted.push (greeted : wire.Greeted) (begun : wire.replies ≠ [])
    (notification : Notification) : (wire.push broken (dataPacket notification)).Greeted := by
  intro first begins
  cases before : wire.sent with
  | nil => exact absurd (by rw [Wire.replies, before]; rfl) begun
  | cons earlier rest =>
    simp only [Wire.push, before, List.cons_append, List.head?_cons, Option.mem_some] at begins
    exact greeted first (by rw [before]; exact congrArg some begins)

/-- Without a reply, nothing was sent before. -/
theorem Greeted.not_push (greeted : wire.Greeted) (silent : wire.replies = [])
    (notification : Notification) : ¬ (wire.push broken (dataPacket notification)).Greeted := by
  intro after
  cases before : wire.sent with
  | nil =>
    exact after (dataPacket notification) (by simp [Wire.push, before]) rfl
  | cons earlier rest =>
    have reply := greeted earlier (by simp [before])
    have member : earlier ∈ wire.replies := by
      rw [Wire.replies, before]
      simp [reply]
    rw [silent] at member
    cases member

end Wire

namespace Service

def Greeted (service : Service) : Prop := ∀ index, (service.wires index).Greeted

/-- No consumer writes before the handler of its connection has answered the login. -/
def Waits (service : Service) : ServiceAction → Prop
  | .consume index .write => (service.server.connections index).handler ≠ .answering
  | _ => True

instance (service : Service) : (action : ServiceAction) → Decidable (service.Waits action)
  | .consume index .write =>
    inferInstanceAs (Decidable ((service.server.connections index).handler ≠ .answering))
  | .consume _ .subscribe | .consume _ .check | .consume _ .look | .consume _ .wake
  | .consume _ .timeout | .consume _ .unsubscribe | .receive _ _ | .handle _ _ | .lose _ =>
    isTrue trivial

variable {onUpdateCallback : ProfileManager → Bool} {ids : QueueRef → ThreadIds}
  {service next : Service}

/-- One wire changes. -/
theorem greeted_setWire (greeted : service.Greeted) {index : QueueRef} {wire : Wire}
    (server : Server) :
    Greeted { server, wires := Function.update service.wires index wire } ↔ wire.Greeted := by
  constructor
  · intro all
    have here := all index
    rwa [wires_self] at here
  · intro one other
    dsimp only
    rw [Function.update_apply]
    split
    next => exact one
    next => exact greeted other

/-- A consumer has something in hand only in a session. -/
theorem greeted_write (dialogue : service.Dialogue) (greeted : service.Greeted) {index : QueueRef}
    {notification : Notification}
    (writing : (service.server.connections index).consumer = .writing notification) :
    ((service.wires index).push (service.server.connections index).broken
        (dataPacket notification)).Greeted ↔
      (service.server.connections index).handler ≠ .answering := by
  have sane := (dialogue.wired.sane index).idle
  rw [writing] at sane
  cases dialogue.talk index with
  | silent handler => cases sane (Or.inl handler)
  | refused handler absent =>
    rw [writing] at absent
    cases absent
  | admitted login type username handler received request response replies =>
    rcases handler with starting | answering
    · cases sane (Or.inr starting)
    · rw [answering]
      exact iff_of_false ((greeted index).not_push replies notification) fun away => away rfl
  | served login type username answered unanswered answers received replies matched owes =>
    refine iff_of_true ((greeted index).push (by simp [replies]) notification) ?_
    intro answering
    rw [ClientConnection.Owes, answering] at owes
    exact owes

theorem greeted_step_iff (dialogue : service.Dialogue) (greeted : service.Greeted)
    {action : ServiceAction} (taken : service.step onUpdateCallback ids action = some next) :
    next.Greeted ↔ service.Waits action := by
  cases move_of_step taken with
  | hangUp index | receive index | leave index | follow index | reject index =>
    exact iff_of_true ((greeted_setWire greeted _).mpr (greeted _)) trivial
  | authorize index now packet =>
    refine iff_of_true ?_ trivial
    unfold authorizeSession
    dsimp only
    split
    next =>
      refine (greeted_setWire greeted _).mpr ?_
      split
      next => exact greeted index
      next => exact greeted index
    next => exact (greeted_setWire greeted _).mpr (greeted index)
  | respond index now response handler built =>
    have reply := (dialogue.talk index).response_reply built
    exact iff_of_true ((greeted_setWire greeted _).mpr ((greeted index).send reply)) trivial
  | answer index now action response handler server moved =>
    have reply : response.1 ≠ .data := by
      rcases handler with ⟨-, -, rfl⟩ | ⟨-, -, rfl⟩
      · decide
      · decide
    exact iff_of_true ((greeted_setWire greeted _).mpr ((greeted index).send reply)) trivial
  | work | lose => exact iff_of_true greeted trivial
  | write index action notification writing server moved =>
    have same : action = .write := by
      cases Server.consumerMove_of_taken moved with
      | write => rfl
      | subscribe other | check other | look other | wake other | timeout other
      | unsubscribe other =>
        rw [writing] at other
        cases other
    subst same
    rw [greeted_setWire greeted]
    exact greeted_write dialogue greeted writing
  | consume index action silent server moved =>
    refine iff_of_true greeted ?_
    cases Server.consumerMove_of_taken moved with
    | subscribe | check | look | wake | timeout | unsubscribe => trivial
    | write notification writing =>
      rw [writing] at silent
      cases silent

/-- In every run, whatever clients send: no connection is sent a notification as its first
packet exactly if no consumer writes while its login is still to be answered. Nothing in the
code keeps it from that. -/
theorem always_greeted_iff (onUpdateCallback : ProfileManager → Bool)
    (ids : QueueRef → ThreadIds) (users : UnorderedMap Text User) (actions : List ServiceAction)
    (service : Service)
    (reached : run (step onUpdateCallback ids) (start users) actions = some service) :
    Always (step onUpdateCallback ids) Greeted (start users) actions ↔
      AllMeet (step onUpdateCallback ids) Waits (start users) actions :=
  always_iff_allMeet_of_invariant (fun _ _ _ dialogue taken => Dialogue.step dialogue taken)
    (fun _ _ _ dialogue greeted taken => greeted_step_iff dialogue greeted taken)
    (dialogue_start users) (fun index first begins => by cases begins) reached

theorem always_greeted_twoConnections :
    Always (step (fun _ => true) twoHandles) Greeted (start ∅) twoConnections ↔
      AllMeet (step (fun _ => true) twoHandles) Waits (start ∅) twoConnections :=
  always_greeted_iff (fun _ => true) twoHandles ∅ twoConnections _ rfl

/-- A follower leaves, misses a tweet and comes back on another connection. The consumer is
faster than the handler that has started it. -/
def overtakenLogin : List ServiceAction :=
  [.receive 0 (some (.ofPayload 1 .login ['b'])), .handle 0 1, .handle 0 1, .handle 0 1,
    .consume 0 .subscribe, .receive 1 (some (.ofPayload 2 .login ['a'])), .handle 1 2, .handle 1 2,
    .handle 1 2, .consume 1 .subscribe, .receive 0 (some (.ofPayload 3 .follow ['a'])),
    .handle 0 3, .handle 0 3, .receive 0 none, .handle 0 3, .consume 0 .check,
    .consume 0 .unsubscribe, .handle 0 3, .handle 0 3,
    .receive 1 (some (.ofPayload 4 .send ['h', 'i'])), .handle 1 4, .handle 1 4, .handle 1 5,
    .receive 2 (some (.ofPayload 6 .login ['b'])), .handle 2 6, .handle 2 6, .consume 2 .subscribe,
    .consume 2 .check, .consume 2 .look, .consume 2 .write, .handle 2 6]

theorem not_greeted_overtakenLogin :
    ∃ service, run (step (fun _ => true) twoHandles) (start ∅) overtakenLogin = some service ∧
      (service.wires 2).sent = [dataPacket ⟨1, 4, ['a'], 1, ['h', 'i']⟩, started] ∧
      ¬ service.Greeted := by
  refine ⟨_, rfl, by decide, ?_⟩
  intro greeted
  exact greeted 2 _ rfl (by decide)

end Service

end TwitterClone
