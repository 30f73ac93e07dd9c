import TwitterClone.Foundation.Machine
import TwitterClone.Packet.Sending

/-! What a front-end does with the packets of one client. The connection to the server is
replaced by the main thread and closed by consumers, at any time between two locked
sections of the handler. -/
namespace TwitterClone

open Foundation

/-- What a handler did with a request. -/
inductive Fate where
  | flagged
  | refused
  | forwarded (connection : Nat)
  deriving DecidableEq, Repr

/-- What the thread of a `ClientHandler` does next. -/
inductive RelayPlace where
  | receiving
  | handling (request : Packet)
  | closing
  | finished
  deriving DecidableEq, Repr

def RelayPlace.inHand : RelayPlace → List Packet
  | .handling request => [request]
  | .receiving | .closing | .finished => []

/-- Connections to the server have numbers. Between its calls of `connect` and
`setServerConnection`, the main thread has a new one in a variable. -/
structure Relay where
  place : RelayPlace := .receiving
  serverConn : Option Nat := none
  opened : Nat := 0
  connected : Option (Option Nat) := none
  shouldRestablish : Bool := false
  username : Text := []
  received : List Packet := []
  handled : List (Packet × Fate) := []
  toServer : Nat → List Packet := fun _ => []
  toClient : List Packet := []

/-- `receive` has nothing when the client is gone. The flag is shared by all clients. -/
inductive RelayAction where
  | receive (packet : Option Packet)
  | handle (now : Nat)
  | close (now : Nat)
  | connect (succeeds : Bool) (now : Nat)
  | setServerConnection
  | disconnect
  | flag (shouldRestablish : Bool)
  deriving DecidableEq

namespace Relay

/-- The server may be out of reach when a client comes. -/
def start (connects : Bool) : Relay :=
  if connects then { serverConn := some 0, opened := 1 } else {}

section Step

variable (relay : Relay)

def take (packet : Packet) : Relay :=
  { relay with
    place := .handling packet
    username := if packet.type = .login then packet.payload else relay.username
    received := relay.received ++ [packet] }

def sendTo (connection : Nat) (packet : Packet) : Relay :=
  { relay with
    toServer := Function.update relay.toServer connection
      (relay.toServer connection ++ [packet]) }

/-- The section of the loop that is locked. -/
def handle (now : Nat) (request : Packet) : Relay :=
  let done (fate : Fate) : Relay :=
    { relay with place := .receiving, handled := relay.handled ++ [(request, fate)] }
  if request.type = .newLeader then { done .flagged with shouldRestablish := true }
  else
    match relay.serverConn with
    | none => { done .refused with toClient := relay.toClient ++
        [.ofPayload now .error "Connection lost. Please, retry in a few seconds.".toList] }
    | some connection =>
      if relay.shouldRestablish then { done .refused with toClient := relay.toClient ++
          [.ofPayload now .error "Connection lost. Please, retry in a few seconds.".toList] }
      else (done (.forwarded connection)).sendTo connection request

def close (now : Nat) : Relay :=
  match relay.serverConn with
  | none => { relay with place := .finished }
  | some connection =>
    { relay with place := .finished }.sendTo connection (.ofPayload now .close [])

/-- A connection that succeeds is told at once who the client is. -/
def connect (succeeds : Bool) (now : Nat) : Relay :=
  if succeeds then
    { relay with connected := some (some relay.opened), opened := relay.opened + 1 }.sendTo
      relay.opened (.ofPayload now .login relay.username)
  else { relay with connected := some none }

def step : RelayAction → Option Relay
  | .receive packet =>
    match relay.place, packet with
    | .receiving, none => some { relay with place := .closing }
    | .receiving, some packet => some (relay.take packet)
    | _, _ => none
  | .handle now =>
    match relay.place with
    | .handling request => some (relay.handle now request)
    | _ => none
  | .close now => if relay.place = .closing then some (relay.close now) else none
  | .connect succeeds now =>
    if relay.connected = none then some (relay.connect succeeds now) else none
  | .setServerConnection =>
    relay.connected.map fun serverConn => { relay with serverConn, connected := none }
  | .disconnect => some { relay with serverConn := none }
  | .flag shouldRestablish => some { relay with shouldRestablish }

end Step

/-- The name that the last login among the packets gives. -/
def lastLogin (packets : List Packet) : Text :=
  packets.foldl (fun name packet => if packet.type = .login then packet.payload else name) []

def forwardedTo (relay : Relay) (connection : Nat) : List Packet :=
  (relay.handled.filter fun entry => entry.2 = .forwarded connection).map Prod.fst

/-- In the run, the main thread opened the connection at that time, when the client had
sent these packets. -/
def OpenedIn (connects : Bool) (actions : List RelayAction) (connection now : Nat)
    (known : List Packet) : Prop :=
  ∃ before after middle, actions = before ++ .connect true now :: after ∧
    run step (start connects) before = some middle ∧ middle.opened = connection ∧
      middle.received = known

/-- What a connection begins with: the login under the name that was known when it was
opened in the run, or nothing if it was there before. -/
structure Opening (connects : Bool) (actions : List RelayAction) (connection : Nat)
    (first : List Packet) : Prop where
  greeted : ∀ now known, OpenedIn connects actions connection now known →
    first = [.ofPayload now .login (lastLogin known)]
  silent : (∀ now known, ¬ OpenedIn connects actions connection now known) → first = []

/-- What a connection ends with: nothing, or the farewell of a client that is gone. -/
def Ending (place : RelayPlace) (last : List Packet) : Prop :=
  last = [] ∨ place = .finished ∧ ∃ now, last = [Packet.ofPayload now .close []]

/-- Every packet of the client has one fate, and the connections have what they began with
and what was forwarded on them. -/
structure Accounted (greeting : Nat → List Packet) (relay : Relay) : Prop where
  received : relay.received = relay.handled.map Prod.fst ++ relay.place.inHand
  username : relay.username = lastLogin relay.received
  fates : ∀ entry ∈ relay.handled, entry.2 = .flagged ↔ entry.1.type = .newLeader
  toServer : ∀ connection, ∃ last,
    relay.toServer connection =
        greeting connection ++ (relay.forwardedTo connection ++ last) ∧
      Ending relay.place last
  toClient : relay.toClient.length =
      (relay.handled.filter fun entry => entry.2 = .refused).length ∧
    ∀ packet ∈ relay.toClient, packet.type = .error
  unopened : ∀ connection, relay.opened ≤ connection → relay.toServer connection = []
  installed : ∀ connection, relay.serverConn = some connection ∨
    relay.connected = some (some connection) → connection < relay.opened

section Steps

variable {greeting : Nat → List Packet} {relay next : Relay}

/-- A step in which no packet goes anywhere. -/
theorem Accounted.keep (accounted : relay.Accounted greeting) (received : next.received = relay.received)
    (handled : next.handled = relay.handled) (inHand : next.place.inHand = relay.place.inHand)
    (username : next.username = relay.username) (toServer : next.toServer = relay.toServer)
    (toClient : next.toClient = relay.toClient) (opened : next.opened = relay.opened)
    (finished : relay.place = .finished → next.place = .finished)
    (installed : ∀ connection, next.serverConn = some connection ∨
      next.connected = some (some connection) → connection < relay.opened) :
    next.Accounted greeting where
  received := by rw [received, handled, inHand, accounted.received]
  username := by rw [username, received, accounted.username]
  fates := handled ▸ accounted.fates
  toServer connection := by
    obtain ⟨last, sent, ending⟩ := accounted.toServer connection
    refine ⟨last, ?_, ?_⟩
    · rw [toServer, forwardedTo, handled]
      exact sent
    · exact ending.imp_right fun farewell => ⟨finished farewell.1, farewell.2⟩
  toClient := by rw [toClient, handled]; exact accounted.toClient
  unopened := by rw [opened, toServer]; exact accounted.unopened
  installed := by rw [opened]; exact installed

theorem Accounted.take (accounted : relay.Accounted greeting) (place : relay.place = .receiving)
    (packet : Packet) : (relay.take packet).Accounted greeting where
  received := by
    have before := accounted.received
    rw [place, RelayPlace.inHand, List.append_nil] at before
    show relay.received ++ [packet] = relay.handled.map Prod.fst ++ [packet]
    rw [before]
  username := by
    show (if packet.type = .login then packet.payload else relay.username) =
      lastLogin (relay.received ++ [packet])
    rw [accounted.username, lastLogin, lastLogin, List.foldl_append]
    rfl
  fates := accounted.fates
  toServer connection := by
    obtain ⟨last, sent, ending⟩ := accounted.toServer connection
    refine ⟨last, sent, ending.imp_right ?_⟩
    intro farewell
    rw [place] at farewell
    cases farewell.1
  toClient := accounted.toClient
  unopened := accounted.unopened
  installed := accounted.installed

/-- The handler is done with a request, which goes to at most one connection. -/
theorem Accounted.done (accounted : relay.Accounted greeting) {request : Packet}
    (place : relay.place = .handling request) (fate : Fate)
    (type : fate = .flagged ↔ request.type = .newLeader)
    (opened : ∀ connection, fate = .forwarded connection → connection < relay.opened)
    (errors : List Packet) (refused : errors.length = if fate = .refused then 1 else 0)
    (error : ∀ packet ∈ errors, packet.type = .error)
    (shouldRestablish : Bool) (toServer : Nat → List Packet)
    (sent : ∀ connection, toServer connection = relay.toServer connection ++
      if fate = .forwarded connection then [request] else []) :
    Accounted greeting { relay with
      place := .receiving
      shouldRestablish
      handled := relay.handled ++ [(request, fate)]
      toServer
      toClient := relay.toClient ++ errors } where
  received := by
    rw [accounted.received, place]
    simp [RelayPlace.inHand]
  username := accounted.username
  fates entry member := by
    rcases List.mem_append.mp member with old | new
    · exact accounted.fates entry old
    · rw [List.mem_singleton.mp new]
      exact type
  toServer connection := by
    obtain ⟨last, before, ending⟩ := accounted.toServer connection
    have none : last = [] := by
      rcases ending with none | ⟨finished, -⟩
      · exact none
      · rw [place] at finished
        cases finished
    refine ⟨[], ?_, Or.inl rfl⟩
    dsimp only
    rw [sent, before, none, List.append_nil, List.append_nil, List.append_assoc]
    congr 1
    by_cases here : fate = .forwarded connection
    · simp [forwardedTo, here]
    · simp [forwardedTo, here]
  toClient := by
    obtain ⟨count, errorsOnly⟩ := accounted.toClient
    refine ⟨?_, ?_⟩
    · rw [List.length_append, List.filter_append, List.length_append, count, refused]
      by_cases here : fate = .refused
      · simp [here]
      · simp [here]
    · intro packet member
      exact (List.mem_append.mp member).elim (errorsOnly packet) (error packet)
  unopened connection later := by
    dsimp only at later ⊢
    have away : fate ≠ .forwarded connection :=
      fun here => Nat.not_le.mpr (opened connection here) later
    rw [sent, accounted.unopened connection later, if_neg away]
    rfl
  installed := accounted.installed

theorem Accounted.handle (accounted : relay.Accounted greeting) {request : Packet}
    (place : relay.place = .handling request) (now : Nat) :
    (relay.handle now request).Accounted greeting := by
  have unsent : ∀ fate : Fate, (∀ connection, fate ≠ .forwarded connection) →
      ∀ connection, relay.toServer connection = relay.toServer connection ++
        if fate = .forwarded connection then [request] else [] := by
    intro fate nowhere connection
    rw [if_neg (nowhere connection), List.append_nil]
  have refused : request.type ≠ .newLeader → ∀ error : Packet, error.type = .error →
      Accounted greeting { relay with
        place := .receiving
        handled := relay.handled ++ [(request, .refused)]
        toClient := relay.toClient ++ [error] } := by
    intro other error type
    exact accounted.done place .refused (by simpa using other) (by simp) [error] rfl
      (by simpa using type) relay.shouldRestablish relay.toServer (unsent .refused (by simp))
  unfold Relay.handle
  dsimp only
  split
  next leader =>
    have flagged := accounted.done place .flagged (by simpa using leader) (by simp) [] rfl
      (by simp) true relay.toServer (unsent .flagged (by simp))
    rwa [List.append_nil] at flagged
  next other =>
    split
    next => exact refused other _ rfl
    next connection installed =>
      split
      next => exact refused other _ rfl
      next =>
        have reached := accounted.installed connection (Or.inl installed)
        have sent : ∀ target, Function.update relay.toServer connection
            (relay.toServer connection ++ [request]) target = relay.toServer target ++
              if Fate.forwarded connection = .forwarded target then [request] else [] := by
          intro target
          rw [Function.update_apply]
          by_cases here : target = connection
          · simp [here]
          · simp [here, Ne.symm here]
        have forwarded := accounted.done place (.forwarded connection) (by simpa using other)
          (by simpa using reached) [] rfl (by simp) relay.shouldRestablish _ sent
        rwa [List.append_nil] at forwarded

/-- A farewell on the connection that is installed then. -/
theorem Accounted.close (accounted : relay.Accounted greeting) (place : relay.place = .closing)
    (now : Nat) : (relay.close now).Accounted greeting := by
  have before := accounted.received
  rw [place] at before
  unfold Relay.close
  split
  next =>
    refine accounted.keep rfl rfl (by rw [place]; rfl) rfl rfl rfl rfl (fun _ => rfl)
      accounted.installed
  next connection installed =>
    refine ⟨before, accounted.username, accounted.fates, ?_, accounted.toClient, ?_,
      accounted.installed⟩
    · intro target
      obtain ⟨last, sent, ending⟩ := accounted.toServer target
      have none : last = [] := by
        rcases ending with none | ⟨finished, -⟩
        · exact none
        · rw [place] at finished
          cases finished
      rw [none, List.append_nil] at sent
      by_cases here : target = connection
      · refine ⟨[.ofPayload now .close []], ?_, Or.inr ⟨rfl, now, rfl⟩⟩
        subst here
        rw [← List.append_assoc, sendTo]
        dsimp only
        rw [Function.update_self, sent]
        rfl
      · refine ⟨[], ?_, Or.inl rfl⟩
        rw [List.append_nil, sendTo]
        dsimp only
        rw [Function.update_of_ne here, sent]
        rfl
    · intro target later
      have away : target ≠ connection := by
        rintro rfl
        exact Nat.not_le.mpr (accounted.installed target (Or.inl installed)) later
      rw [sendTo]
      dsimp only
      rw [Function.update_of_ne away]
      exact accounted.unopened target later

/-- An attempt that fails sends nothing. -/
theorem Accounted.connect_false (accounted : relay.Accounted greeting) (now : Nat) :
    (relay.connect false now).Accounted greeting := by
  refine accounted.keep rfl rfl rfl rfl rfl rfl rfl id ?_
  rintro connection (installed | waiting)
  · exact accounted.installed connection (Or.inl installed)
  · cases waiting

theorem Accounted.greeting_opened (accounted : relay.Accounted greeting) :
    greeting relay.opened = [] ∧ relay.forwardedTo relay.opened = [] := by
  obtain ⟨last, sent, -⟩ := accounted.toServer relay.opened
  rw [accounted.unopened relay.opened le_rfl] at sent
  obtain ⟨none, rest⟩ := List.append_eq_nil_iff.mp sent.symm
  exact ⟨none, (List.append_eq_nil_iff.mp rest).1⟩

/-- A connection that was not there begins with the login. -/
theorem Accounted.connect_true (accounted : relay.Accounted greeting) (now : Nat) :
    (relay.connect true now).Accounted
      (Function.update greeting relay.opened
        [.ofPayload now .login (lastLogin relay.received)]) := by
  have empty := accounted.unopened relay.opened le_rfl
  refine ⟨accounted.received, accounted.username, accounted.fates, ?_, accounted.toClient, ?_, ?_⟩
  · intro connection
    obtain ⟨last, sent, ending⟩ := accounted.toServer connection
    by_cases here : connection = relay.opened
    · subst here
      refine ⟨[], ?_, Or.inl rfl⟩
      show Function.update relay.toServer relay.opened _ relay.opened = _ ++
        (relay.forwardedTo relay.opened ++ [])
      rw [Function.update_self, Function.update_self, empty, accounted.greeting_opened.2,
        accounted.username]
      rfl
    · refine ⟨last, ?_, ending⟩
      show Function.update relay.toServer relay.opened _ connection = _
      rw [Function.update_of_ne here, Function.update_of_ne here, sent]
      rfl
  · intro connection later
    have away : connection ≠ relay.opened := (Nat.lt_of_succ_le later).ne'
    show Function.update relay.toServer relay.opened _ connection = []
    rw [Function.update_of_ne away]
    exact accounted.unopened connection (Nat.le_of_succ_le later)
  · rintro connection (installed | waiting)
    · exact Nat.lt_succ_of_lt (accounted.installed connection (Or.inl installed))
    · cases waiting
      exact Nat.lt_succ_self _

/-- A step in which no connection is opened. -/
theorem Accounted.step (accounted : relay.Accounted greeting) {action : RelayAction}
    (opens : ∀ now, action ≠ .connect true now) (taken : relay.step action = some next) :
    next.Accounted greeting := by
  cases action with
  | receive packet =>
    simp only [Relay.step] at taken
    split at taken
    next place =>
      cases taken
      exact accounted.keep rfl rfl (by rw [place]; rfl) rfl rfl rfl rfl (by simp [place])
        accounted.installed
    next packet place => cases taken; exact accounted.take place packet
    next => cases taken
  | handle now =>
    simp only [Relay.step] at taken
    split at taken
    next request place => cases taken; exact accounted.handle place now
    next => cases taken
  | close now =>
    simp only [Relay.step] at taken
    split at taken
    next place => cases taken; exact accounted.close place now
    next => cases taken
  | connect succeeds now =>
    cases succeeds with
    | true => exact absurd rfl (opens now)
    | false =>
      simp only [Relay.step] at taken
      split at taken
      next => cases taken; exact accounted.connect_false now
      next => cases taken
  | setServerConnection =>
    obtain ⟨serverConn, waiting, rfl⟩ := Option.map_eq_some_iff.mp taken
    refine accounted.keep rfl rfl rfl rfl rfl rfl rfl id ?_
    rintro connection (installed | later)
    · cases installed
      exact accounted.installed connection (Or.inr waiting)
    · cases later
  | disconnect =>
    cases taken
    refine accounted.keep rfl rfl rfl rfl rfl rfl rfl id ?_
    rintro connection (installed | waiting)
    · cases installed
    · exact accounted.installed connection (Or.inr waiting)
  | flag shouldRestablish =>
    cases taken
    exact accounted.keep rfl rfl rfl rfl rfl rfl rfl id accounted.installed

theorem accounted_start (connects : Bool) : (start connects).Accounted fun _ => [] := by
  have blank : ∀ connects, (start connects).received = [] ∧ (start connects).handled = [] ∧
      (start connects).place = .receiving ∧ (start connects).username = [] ∧
      (start connects).toServer = (fun _ => []) ∧ (start connects).toClient = [] := by
    intro connects
    cases connects <;> exact ⟨rfl, rfl, rfl, rfl, rfl, rfl⟩
  obtain ⟨received, handled, place, username, toServer, toClient⟩ := blank connects
  refine ⟨by rw [received, handled, place]; rfl, by rw [received, username]; rfl, ?_, ?_, ?_, ?_, ?_⟩
  · simp [handled]
  · intro connection
    exact ⟨[], by simp [toServer, forwardedTo, handled], Or.inl rfl⟩
  · simp [toClient, handled]
  · simp [toServer]
  · intro connection
    cases connects <;> simp [start, eq_comm]

theorem foldl_login (packets : List Packet) (name : Text) :
    packets.foldl (fun name packet => if packet.type = .login then packet.payload else name) name =
        name ∨
      ∃ packet ∈ packets, packet.payload = packets.foldl
        (fun name packet => if packet.type = .login then packet.payload else name) name := by
  induction packets generalizing name with
  | nil => exact Or.inl rfl
  | cons first rest ih =>
    rw [List.foldl_cons]
    rcases ih (if first.type = .login then first.payload else name) with same | found
    · rw [same]
      split
      next => exact Or.inr ⟨first, List.mem_cons_self, rfl⟩
      next => exact Or.inl rfl
    · obtain ⟨packet, member, same⟩ := found
      exact Or.inr ⟨packet, List.mem_cons_of_mem _ member, same⟩

/-- The client's packets are only added to. -/
theorem received_step {action : RelayAction} (taken : relay.step action = some next) :
    relay.received <+: next.received := by
  unfold Relay.step at taken
  split at taken
  next =>
    split at taken
    next => cases taken; exact List.prefix_refl _
    next => cases taken; exact List.prefix_append _ _
    next => cases taken
  next =>
    split at taken
    next =>
      cases taken
      unfold Relay.handle sendTo
      dsimp only
      repeat' split
      all_goals exact List.prefix_refl _
    next => cases taken
  next =>
    split at taken
    next =>
      cases taken
      unfold Relay.close sendTo
      split
      all_goals exact List.prefix_refl _
    next => cases taken
  next =>
    split at taken
    next =>
      cases taken
      unfold Relay.connect sendTo
      split
      all_goals exact List.prefix_refl _
    next => cases taken
  next =>
    obtain ⟨serverConn, -, rfl⟩ := Option.map_eq_some_iff.mp taken
    exact List.prefix_refl _
  next => cases taken; exact List.prefix_refl _
  next => cases taken; exact List.prefix_refl _

theorem received_of_run {actions : List RelayAction}
    (reached : run Relay.step relay actions = some next) : relay.received <+: next.received := by
  have kept : ∀ (state : Relay) (action : RelayAction) (after : Relay),
      relay.received <+: state.received → state.step action = some after →
        relay.received <+: after.received :=
    fun state action after before taken => before.trans (received_step taken)
  exact run_invariant kept (List.prefix_refl _) reached

section Openings

variable {connects : Bool} {actions : List RelayAction}

/-- The last action of a run opens the connection, or it was opened earlier. -/
theorem openedIn_concat {action : RelayAction}
    (reached : run Relay.step (start connects) actions = some relay) {connection now : Nat}
    {known : List Packet} :
    OpenedIn connects (actions ++ [action]) connection now known ↔
      OpenedIn connects actions connection now known ∨
        action = .connect true now ∧ relay.opened = connection ∧ relay.received = known := by
  constructor
  · rintro ⟨before, after, middle, whole, ran, opened, received⟩
    rcases List.eq_nil_or_concat after with none | ⟨front, last, more⟩
    · subst none
      obtain ⟨same, taken⟩ := List.append_inj' whole rfl
      subst same
      obtain rfl := Option.some.inj (reached.symm.trans ran)
      exact Or.inr ⟨(List.cons.inj taken).1, opened, received⟩
    · rw [more, List.concat_eq_append, ← List.cons_append, ← List.append_assoc] at whole
      have early := (List.append_inj' whole rfl).1
      exact Or.inl ⟨before, front, middle, early, ran, opened, received⟩
  · rintro (⟨before, after, middle, whole, found⟩ | ⟨taken, opened, received⟩)
    · exact ⟨before, after ++ [action], middle, by simp [whole], found⟩
    · exact ⟨actions, [], relay, by rw [taken], reached, opened, received⟩

/-- The connections begin as they were opened in the run. -/
def Begun (connects : Bool) (actions : List RelayAction) (relay : Relay) : Prop :=
  ∃ greeting, relay.Accounted greeting ∧
    ∀ connection, Opening connects actions connection (greeting connection)

theorem begun_start (connects : Bool) : Begun connects [] (start connects) := by
  refine ⟨fun _ => [], accounted_start connects, fun connection => ⟨?_, fun _ => rfl⟩⟩
  rintro now known ⟨before, after, middle, whole, -⟩
  cases before <;> cases whole

/-- A connection that is opened is a new one, and is greeted under the name known now. -/
theorem Begun.connect (reached : run Relay.step (start connects) actions = some relay)
    (begun : Begun connects actions relay) (now : Nat) :
    Begun connects (actions ++ [.connect true now]) (relay.connect true now) := by
  obtain ⟨greeting, accounted, opening⟩ := begun
  refine ⟨_, accounted.connect_true now, fun connection => ?_⟩
  by_cases here : connection = relay.opened
  · subst here
    rw [Function.update_self]
    refine ⟨fun time known opened => ?_, fun never => ?_⟩
    · rcases (openedIn_concat reached).mp opened with early | ⟨taken, -, received⟩
      · -- the number would have been given before
        have nothing := (opening relay.opened).greeted time known early
        rw [accounted.greeting_opened.1] at nothing
        cases nothing
      · cases taken
        rw [received]
    · exact absurd ((openedIn_concat reached).mpr (Or.inr ⟨rfl, rfl, rfl⟩))
        (never now relay.received)
  · rw [Function.update_of_ne here]
    refine ⟨fun time known opened => ?_, fun never => ?_⟩
    · rcases (openedIn_concat reached).mp opened with early | ⟨-, same, -⟩
      · exact (opening connection).greeted time known early
      · exact absurd same.symm here
    · exact (opening connection).silent fun time known early =>
        never time known ((openedIn_concat reached).mpr (Or.inl early))

theorem Begun.step (reached : run Relay.step (start connects) actions = some relay)
    (begun : Begun connects actions relay) {action : RelayAction}
    (taken : relay.step action = some next) : Begun connects (actions ++ [action]) next := by
  by_cases opens : ∃ now, action = .connect true now
  · obtain ⟨now, rfl⟩ := opens
    simp only [Relay.step] at taken
    split at taken
    next => cases taken; exact begun.connect reached now
    next => cases taken
  · obtain ⟨greeting, accounted, opening⟩ := begun
    have quiet : ∀ now, action ≠ .connect true now := not_exists.mp opens
    have same : ∀ {connection now : Nat} {known : List Packet},
        OpenedIn connects (actions ++ [action]) connection now known ↔
          OpenedIn connects actions connection now known := by
      intro connection now known
      rw [openedIn_concat reached]
      exact or_iff_left fun opened => quiet now opened.1
    refine ⟨greeting, accounted.step quiet taken, fun connection => ⟨?_, ?_⟩⟩
    · exact fun time known opened => (opening connection).greeted time known (same.mp opened)
    · exact fun never => (opening connection).silent fun time known early =>
        never time known (same.mpr early)

theorem begun_of_run (reached : run Relay.step (start connects) actions = some relay) :
    Begun connects actions relay :=
  run_history (begun_start connects)
    (fun _ _ _ _ before begun taken => begun.step before taken) reached

/-- What a connection begins with is nothing or one login, under the name of a packet that
was received or none. -/
theorem Opening.shape {first : List Packet} {connection : Nat}
    (reached : run Relay.step (start connects) actions = some relay)
    (opening : Opening connects actions connection first) :
    first = [] ∨ ∃ now known, known <+: relay.received ∧
      first = [Packet.ofPayload now .login (lastLogin known)] := by
  by_cases opened : ∃ now known, OpenedIn connects actions connection now known
  · obtain ⟨now, known, found⟩ := opened
    refine Or.inr ⟨now, known, ?_, opening.greeted now known found⟩
    obtain ⟨before, after, middle, whole, ran, -, rfl⟩ := found
    rw [whole] at reached
    obtain ⟨other, same, rest⟩ := run_append.mp reached
    obtain rfl := Option.some.inj (ran.symm.trans same)
    exact received_of_run rest
  · refine Or.inl (opening.silent fun now known found => opened ⟨now, known, found⟩)

end Openings

/-- What is sent to the server can be read there. -/
theorem sendable_toServer (accounted : relay.Accounted greeting) {stack : Nat}
    (room : Packet.headerRoom ≤ stack)
    (readable : ∀ packet ∈ relay.received, packet.Sendable ∧ packet.Fits stack)
    {connection : Nat} (opening : greeting connection = [] ∨
      ∃ now known, known <+: relay.received ∧
        greeting connection = [Packet.ofPayload now .login (lastLogin known)])
    {packet : Packet} (sent : packet ∈ relay.toServer connection) :
    packet.Sendable ∧ packet.Fits stack := by
  have empty : Packet.PayloadFits stack [] := by
    unfold Packet.PayloadFits Packet.headerRoom at *
    exact ⟨by decide, by simpa using room⟩
  obtain ⟨last, whole, ending⟩ := accounted.toServer connection
  rw [whole] at sent
  rcases List.mem_append.mp sent with early | sent
  · rcases opening with none | ⟨now, known, before, same⟩
    · rw [none] at early
      cases early
    · rw [same] at early
      rw [List.mem_singleton.mp early]
      refine ⟨Packet.sendable_ofPayload .., ?_⟩
      have shorter : (cString (lastLogin known)).length ≤ (lastLogin known).length :=
        (List.takeWhile_prefix _).length_le
      rcases foldl_login known [] with none | ⟨login, member, name⟩
      · have blank : lastLogin known = [] := none
        rw [blank]
        exact empty
      · have named : login.payload = lastLogin known := name
        exact (readable login (before.subset member)).2.of_payload_le (named ▸ shorter)
  · rcases List.mem_append.mp sent with forwarded | late
    · obtain ⟨entry, member, rfl⟩ := List.mem_map.mp forwarded
      have inside : entry.1 ∈ relay.handled.map Prod.fst :=
        List.mem_map_of_mem (List.mem_filter.mp member).1
      exact readable _ (accounted.received ▸ List.mem_append_left _ inside)
    · rcases ending with none | ⟨-, now, same⟩
      · rw [none] at late
        cases late
      · rw [same] at late
        rw [List.mem_singleton.mp late]
        exact ⟨Packet.sendable_ofPayload .., empty⟩

end Steps

/-- Whatever bytes a client writes, and whenever connections to the server are lost and
replaced: of every packet, in order, one of three things becomes. It raises the flag, exactly
if it tells of a new leader; or it is refused with an error of its own; or it is forwarded on
one connection. And what the server receives on a connection is the login under the name
known then, if the front-end has opened it at that time, the packets forwarded on it, and at
most one farewell. -/
theorem relayed_of_run (connects : Bool) (actions : List RelayAction) (relay : Relay)
    (reached : run step (start connects) actions = some relay) (client : Socket)
    (now ownStack calls : Nat) (clock : now < 2 ^ 64) (received : List (Option Packet))
    (next : Socket) (taken : client.receiveEach now ownStack calls = .ok (received, next))
    (same : relay.received = received.reduceOption) (stack : Nat)
    (room : Packet.headerRoom ≤ stack) (fits : ∀ packet ∈ relay.received, packet.Fits stack) :
    (relay.received = relay.handled.map Prod.fst ++ relay.place.inHand ∧
      (∀ entry ∈ relay.handled, entry.2 = .flagged ↔ entry.1.type = .newLeader) ∧
      relay.toClient.length = (relay.handled.filter fun entry => entry.2 = .refused).length ∧
      ∀ packet ∈ relay.toClient, packet.type = .error) ∧
    ∀ connection, ∃ first last, Opening connects actions connection first ∧
      Ending relay.place last ∧
      ∀ hop : Hop stack (relay.toServer connection).length, ∃ arrived : List Packet,
        hop.carry (relay.toServer connection) =
            .ok (arrived.map some ++ List.replicate hop.extra none) ∧
          arrived.map Packet.content =
            (first ++ (relay.forwardedTo connection ++ last)).map Packet.content := by
  obtain ⟨greeting, accounted, opening⟩ := begun_of_run reached
  have readable : ∀ packet ∈ relay.received, packet.Sendable ∧ packet.Fits stack := by
    intro packet member
    have arrived : packet ∈ received.reduceOption := same ▸ member
    exact ⟨(Socket.scannable_of_receiveEach clock taken packet arrived).sendable, fits packet member⟩
  refine ⟨⟨accounted.received, accounted.fates, accounted.toClient⟩, ?_⟩
  intro connection
  obtain ⟨last, whole, ending⟩ := accounted.toServer connection
  refine ⟨greeting connection, last, opening connection, ending, ?_⟩
  intro hop
  obtain ⟨arrived, carried, contents, -⟩ := hop.carry_eq rfl fun packet sent =>
    sendable_toServer accounted room readable ((opening connection).shape reached) sent
  exact ⟨arrived, carried, by rw [contents, whole]⟩

/-- A login, a change of the leader that the client tells of, a message in between and one
on the new connection. -/
def movedClient : List Packet :=
  [⟨5, .login, 1, 7, "@anna".toList⟩, ⟨0, .newLeader, 2, 7, []⟩, ⟨2, .send, 3, 7, ['h', 'i']⟩,
    ⟨2, .send, 4, 8, ['y', 'o']⟩]

def movedRun : List RelayAction :=
  [.receive movedClient[0]?, .handle 7, .receive movedClient[1]?, .handle 7, .connect true 7,
    .receive movedClient[2]?, .handle 7, .setServerConnection, .flag false,
    .receive movedClient[3]?, .handle 8, .receive none, .close 9]

theorem relayed_of_movedRun :
    ∃ relay, run step (start true) movedRun = some relay ∧
      relay.handled.map Prod.snd = [.forwarded 0, .flagged, .refused, .forwarded 1] ∧
      relay.toServer 1 = [.ofPayload 7 .login "@anna".toList, ⟨2, .send, 4, 8, ['y', 'o']⟩,
        .ofPayload 9 .close []] ∧
      relay.toClient.length = (relay.handled.filter fun entry => entry.2 = .refused).length := by
  have scannable : ∀ packet ∈ movedClient, packet.Scannable := by
    simp only [movedClient, List.forall_mem_cons]
    exact ⟨⟨by decide, by decide, by decide, by decide⟩, ⟨by decide, by decide, by decide, by decide⟩,
      ⟨by decide, by decide, by decide, by decide⟩, ⟨by decide, by decide, by decide, by decide⟩,
      by simp⟩
  obtain ⟨next, taken⟩ := @Socket.receiveEach_scannable 8388608
    { stream := movedClient.flatMap Packet.serialize, cut := fun call => call } 5 1 movedClient
    scannable (by decide) (by decide) rfl
  have moved := relayed_of_run true movedRun _ rfl _ 5 8388608 5 (by decide) _ next taken rfl
    8388608 (by decide) (by decide)
  exact ⟨_, rfl, rfl, rfl, moved.1.2.2.1⟩

end Relay

end TwitterClone
