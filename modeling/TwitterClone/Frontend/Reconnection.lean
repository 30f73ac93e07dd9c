import TwitterClone.Foundation.Machine

/-! How a front-end moves its clients to a new leader. The main thread replaces one
connection after another, while consumers that lose their connection close whatever is
installed at that time. -/
namespace TwitterClone

open Foundation

/-- Before and after the change of the leader. -/
inductive Generation where
  | old
  | new
  deriving DecidableEq

/-- What a server consumer does next. Its loop reads the pointer twice, first to compare
it with `NULL` and then to call `receive`. -/
inductive ServerConsumer where
  | absent
  | testing
  | asking
  | calling
  | receiving (connection : Generation)
  | forwarding
  | leaving
  | finished
  | faulted
  deriving DecidableEq

/-- A client's handler: the pointer that its threads share, and what they do. -/
structure ClientHandler where
  serverConn : Option Generation
  consumers : Generation → ServerConsumer
  reconnected : Bool := false
  closed : Generation → Bool := fun _ => false

inductive MainThread where
  | watching
  | connecting (index : Nat)
  | installing (index : Nat)
  | starting (index : Nat)
  | cleared
  deriving DecidableEq

structure FrontEnd where
  count : Nat
  shouldRestablish : Bool := false
  main : MainThread := .watching
  handlers : Nat → ClientHandler
  crashed : Bool := false

inductive ConsumerMove where
  | test
  | ask
  | call
  | receive
  | fail
  | forward
  | leave
  deriving DecidableEq

inductive FrontEndAction where
  | newLeader
  | watch
  | connect (succeeds : Bool)
  | setServerConnection
  | restartServerConsumer
  | clear
  | consumer (index : Nat) (generation : Generation) (move : ConsumerMove)
  deriving DecidableEq

namespace ClientHandler

variable (handler : ClientHandler)

def setConsumer (generation : Generation) (consumer : ServerConsumer) : ClientHandler :=
  { handler with consumers := Function.update handler.consumers generation consumer }

/-- The connection that is installed, if there is one, is closed and deleted. -/
def disconnect : ClientHandler :=
  match handler.serverConn with
  | some connection => { handler with
      serverConn := none
      closed := Function.update handler.closed connection true }
  | none => handler

def setServerConnection (connection : Option Generation) : ClientHandler :=
  { handler.disconnect with serverConn := connection }

/-- Only a connection that lasts, and is not closed here, cannot fail. -/
def consumerStep (lasts shouldRestablish : Bool) (generation : Generation) (move : ConsumerMove) :
    Option ClientHandler :=
  match handler.consumers generation, move with
  | .testing, .test =>
    some (handler.setConsumer generation
      (if handler.serverConn = none then .leaving else .asking))
  | .asking, .ask =>
    some (handler.setConsumer generation (if shouldRestablish then .leaving else .calling))
  | .calling, .call =>
    some (handler.setConsumer generation
      (match handler.serverConn with
        | some connection => .receiving connection
        | none => .faulted))
  | .receiving connection, .receive =>
    if handler.closed connection then none
    else some (handler.setConsumer generation .forwarding)
  | .receiving connection, .fail =>
    if connection = .new ∧ lasts = true ∧ handler.closed .new = false then none
    else some (handler.setConsumer generation .leaving)
  | .forwarding, .forward => some (handler.setConsumer generation .testing)
  | .leaving, .leave => some (handler.disconnect.setConsumer generation .finished)
  | _, _ => none

end ClientHandler

namespace FrontEnd

/-- The clients of the old leader; some of them may never have reached it. -/
def start (count : Nat) (connected : Nat → Bool) : FrontEnd where
  count
  handlers index := {
    serverConn := if connected index then some .old else none
    consumers := fun
      | .old => .testing
      | .new => .absent }

section Step

variable (lasts : Nat → Bool) (state : FrontEnd)

def setHandler (index : Nat) (handler : ClientHandler) : FrontEnd :=
  { state with handlers := Function.update state.handlers index handler }

def mainStep : FrontEndAction → Option FrontEnd
  | .watch =>
    if state.main = .watching ∧ state.shouldRestablish = true then
      some { state with main := .connecting 0 }
    else none
  | .connect succeeds =>
    match state.main with
    | .connecting index =>
      if index < state.count then
        some { state.setHandler index { state.handlers index with reconnected := succeeds } with
          main := .installing index }
      else none
    | _ => none
  | .setServerConnection =>
    match state.main with
    | .installing index =>
      let serverConn := if (state.handlers index).reconnected then some .new else none
      some { state.setHandler index ((state.handlers index).setServerConnection serverConn) with
        main := .starting index }
    | _ => none
  | .restartServerConsumer =>
    match state.main with
    | .starting index =>
      some { state.setHandler index ((state.handlers index).setConsumer .new .testing) with
        main := .connecting (index + 1) }
    | _ => none
  | .clear =>
    match state.main with
    | .connecting index =>
      if index < state.count then none
      else some { state with shouldRestablish := false, main := .cleared }
    | _ => none
  | .newLeader | .consumer _ _ _ => none

/-- A call through `NULL` ends the process. A later leader begins anew. -/
def step : FrontEndAction → Option FrontEnd
  | .newLeader =>
    if state.crashed ∨ state.main = .cleared then none
    else some { state with shouldRestablish := true }
  | .consumer index generation move =>
    if state.crashed ∨ state.count ≤ index then none
    else ((state.handlers index).consumerStep (lasts index) state.shouldRestablish generation
      move).map fun handler => { state.setHandler index handler with
        crashed := handler.consumers generation = .faulted }
  | action => if state.crashed then none else state.mainStep action

end Step

end FrontEnd

/-- In the loop, on no other connection than the new one. -/
def ServerConsumer.Forwards : ServerConsumer → Prop
  | .testing | .asking | .calling | .receiving .new | .forwarding => True
  | .receiving .old | .absent | .leaving | .finished | .faulted => False

namespace ClientHandler

/-- The new connection is installed and open. -/
structure OnNew (handler : ClientHandler) : Prop where
  installed : handler.serverConn = some .new
  opened : handler.closed .new = false

/-- The new connection is not installed yet. -/
structure BeforeNew (handler : ClientHandler) : Prop where
  installed : handler.serverConn ≠ some .new
  opened : handler.closed .new = false

section Moves

variable {handler next : ClientHandler} {lasts shouldRestablish : Bool}
  {generation : Generation} {move : ConsumerMove}

/-- The steps of a consumer, with what each finds. -/
inductive Moved (handler : ClientHandler) (lasts shouldRestablish : Bool)
    (generation : Generation) : ConsumerMove → ClientHandler → Prop where
  | test (testing : handler.consumers generation = .testing) :
    Moved handler lasts shouldRestablish generation .test (handler.setConsumer generation
      (if handler.serverConn = none then .leaving else .asking))
  | ask (asking : handler.consumers generation = .asking) :
    Moved handler lasts shouldRestablish generation .ask (handler.setConsumer generation
      (if shouldRestablish then .leaving else .calling))
  | call (calling : handler.consumers generation = .calling) :
    Moved handler lasts shouldRestablish generation .call (handler.setConsumer generation
      (match handler.serverConn with
        | some connection => .receiving connection
        | none => .faulted))
  | receive (connection : Generation)
      (receiving : handler.consumers generation = .receiving connection)
      (opened : ¬ handler.closed connection = true) :
    Moved handler lasts shouldRestablish generation .receive
      (handler.setConsumer generation .forwarding)
  | fail (connection : Generation)
      (receiving : handler.consumers generation = .receiving connection)
      (fails : ¬ (connection = .new ∧ lasts = true ∧ handler.closed .new = false)) :
    Moved handler lasts shouldRestablish generation .fail
      (handler.setConsumer generation .leaving)
  | forward (forwarding : handler.consumers generation = .forwarding) :
    Moved handler lasts shouldRestablish generation .forward
      (handler.setConsumer generation .testing)
  | leave (leaving : handler.consumers generation = .leaving) :
    Moved handler lasts shouldRestablish generation .leave
      (handler.disconnect.setConsumer generation .finished)

theorem moved_of_taken
    (taken : handler.consumerStep lasts shouldRestablish generation move = some next) :
    Moved handler lasts shouldRestablish generation move next := by
  unfold consumerStep at taken
  split at taken
  next testing => cases taken; exact .test testing
  next asking => cases taken; exact .ask asking
  next calling => cases taken; exact .call calling
  next connection receiving =>
    split at taken
    next => cases taken
    next opened => cases taken; exact .receive connection receiving opened
  next connection receiving =>
    split at taken
    next => cases taken
    next fails => cases taken; exact .fail connection receiving fails
  next forwarding => cases taken; exact .forward forwarding
  next leaving => cases taken; exact .leave leaving
  next => cases taken

/-- A consumer only moves on, unless it leaves: then the installed connection goes. -/
theorem consumerStep_eq
    (taken : handler.consumerStep lasts shouldRestablish generation move = some next) :
    ∃ consumer, next =
      (if move = .leave then handler.disconnect else handler).setConsumer generation consumer := by
  cases moved_of_taken taken <;> exact ⟨_, rfl⟩

theorem consumers_consumerStep
    (taken : handler.consumerStep lasts shouldRestablish generation move = some next)
    {other : Generation} (different : other ≠ generation) :
    next.consumers other = handler.consumers other := by
  obtain ⟨consumer, rfl⟩ := consumerStep_eq taken
  have same : (if move = .leave then handler.disconnect else handler).consumers =
      handler.consumers := by
    unfold disconnect
    split
    next => split <;> rfl
    next => rfl
  rw [← same]
  exact Function.update_of_ne different ..

theorem reconnected_consumerStep
    (taken : handler.consumerStep lasts shouldRestablish generation move = some next) :
    next.reconnected = handler.reconnected := by
  obtain ⟨consumer, rfl⟩ := consumerStep_eq taken
  unfold setConsumer disconnect
  split
  next => split <;> rfl
  next => rfl

theorem BeforeNew.disconnect (before : handler.BeforeNew) : handler.disconnect.BeforeNew := by
  unfold ClientHandler.disconnect
  split
  next connection installed =>
    refine ⟨by simp, ?_⟩
    have older : connection ≠ .new := fun new => before.installed (new ▸ installed)
    show Function.update handler.closed connection true .new = false
    rw [Function.update_of_ne older.symm]
    exact before.opened
  next => exact before

theorem BeforeNew.consumerStep (before : handler.BeforeNew)
    (taken : handler.consumerStep lasts shouldRestablish generation move = some next) :
    next.BeforeNew := by
  obtain ⟨consumer, rfl⟩ := consumerStep_eq taken
  split
  next => exact ⟨before.disconnect.installed, before.disconnect.opened⟩
  next => exact ⟨before.installed, before.opened⟩

theorem OnNew.consumerStep (onNew : handler.OnNew) (stays : move ≠ .leave)
    (taken : handler.consumerStep lasts shouldRestablish generation move = some next) :
    next.OnNew := by
  obtain ⟨consumer, rfl⟩ := consumerStep_eq taken
  rw [if_neg stays]
  exact ⟨onNew.installed, onNew.opened⟩

/-- On an open connection that lasts, a consumer leaves its loop only for the flag. -/
theorem forwards_consumerStep (onNew : handler.OnNew)
    (forwards : (handler.consumers generation).Forwards)
    (cleared : move = .ask → shouldRestablish = false)
    (taken : handler.consumerStep true shouldRestablish generation move = some next) :
    move ≠ .leave ∧ (next.consumers generation).Forwards := by
  have own : ∀ consumer, (handler.setConsumer generation consumer).consumers generation =
      consumer := fun consumer => Function.update_self ..
  cases moved_of_taken taken with
  | test testing =>
    rw [own, onNew.installed]
    exact ⟨by simp, trivial⟩
  | ask asking =>
    rw [own, cleared rfl]
    exact ⟨by simp, trivial⟩
  | call calling =>
    rw [own, onNew.installed]
    exact ⟨by simp, trivial⟩
  | receive connection receiving opened =>
    rw [own]
    exact ⟨by simp, trivial⟩
  | fail connection receiving fails =>
    rw [receiving] at forwards
    cases connection with
    | old => exact absurd forwards id
    | new => exact absurd ⟨rfl, rfl, onNew.opened⟩ fails
  | forward forwarding =>
    rw [own]
    exact ⟨by simp, trivial⟩
  | leave leaving =>
    rw [leaving] at forwards
    exact absurd forwards id

theorem not_faulted (called : move = .call → handler.serverConn ≠ none)
    (taken : handler.consumerStep lasts shouldRestablish generation move = some next) :
    next.consumers generation ≠ .faulted := by
  have own : ∀ (handler : ClientHandler) consumer,
      (handler.setConsumer generation consumer).consumers generation = consumer :=
    fun handler consumer => Function.update_self ..
  cases moved_of_taken taken with
  | test testing =>
    rw [own]
    split <;> simp
  | ask asking =>
    rw [own]
    split <;> simp
  | call calling =>
    rw [own]
    split
    next => simp
    next none => exact absurd none (called rfl)
  | receive | fail | forward | leave => simp [own]

theorem present_of_consumerStep
    (taken : handler.consumerStep lasts shouldRestablish generation move = some next) :
    handler.consumers generation ≠ .absent := by
  intro absent
  simp [consumerStep, absent] at taken

end Moves

end ClientHandler

/-- The new connection of the handler is installed. -/
def MainThread.Installed : MainThread → Nat → Prop
  | .watching, _ => False
  | .connecting current, index | .installing current, index => index < current
  | .starting current, index => index ≤ current
  | .cleared, _ => True

/-- The new consumer of the handler is started. -/
def MainThread.Started : MainThread → Nat → Prop
  | .watching, _ => False
  | .connecting current, index | .installing current, index | .starting current, index =>
    index < current
  | .cleared, _ => True

theorem MainThread.Started.installed {main : MainThread} {index : Nat}
    (started : main.Started index) : main.Installed index := by
  cases main with
  | watching => exact absurd started id
  | connecting current => exact started
  | installing current => exact started
  | starting current => exact Nat.le_of_lt started
  | cleared => trivial

namespace FrontEnd

/-- No old consumer leaves while a new connection is installed that would last, no new
consumer reads the flag before it is cleared, and none calls through `NULL`. -/
def Undisturbed (lasts : Nat → Bool) (state : FrontEnd) : FrontEndAction → Prop
  | .consumer index .old .leave =>
    lasts index = true → (state.handlers index).serverConn ≠ some .new
  | .consumer index .new .ask => lasts index = true → state.shouldRestablish = false
  | .consumer index _ .call => (state.handlers index).serverConn ≠ none
  | _ => True

instance decidableUndisturbed (lasts : Nat → Bool) (state : FrontEnd) :
    (action : FrontEndAction) → Decidable (state.Undisturbed lasts action)
  | .consumer index .old .leave =>
    inferInstanceAs (Decidable (lasts index = true → (state.handlers index).serverConn ≠ some .new))
  | .consumer index .new .ask =>
    inferInstanceAs (Decidable (lasts index = true → state.shouldRestablish = false))
  | .consumer index .old .call | .consumer index .new .call =>
    inferInstanceAs (Decidable ((state.handlers index).serverConn ≠ none))
  | .newLeader | .watch | .connect _ | .setServerConnection | .restartServerConsumer | .clear
  | .consumer _ .old .test | .consumer _ .old .ask | .consumer _ .old .receive
  | .consumer _ .old .fail | .consumer _ .old .forward | .consumer _ .new .test
  | .consumer _ .new .receive | .consumer _ .new .fail | .consumer _ .new .forward
  | .consumer _ .new .leave => isTrue trivial

/-- What a run keeps: who is where, by how far the main thread has come. -/
structure Secure (lasts : Nat → Bool) (state : FrontEnd) : Prop where
  alive : state.crashed = false
  before : ∀ index < state.count, ¬ state.main.Installed index →
    (state.handlers index).BeforeNew
  absent : ∀ index < state.count, ¬ state.main.Started index →
    (state.handlers index).consumers .new = .absent
  onNew : ∀ index < state.count, (state.handlers index).reconnected = true →
    lasts index = true → state.main.Installed index → (state.handlers index).OnNew
  forwards : ∀ index < state.count, (state.handlers index).reconnected = true →
    lasts index = true → state.main.Started index →
      ((state.handlers index).consumers .new).Forwards

section Steps

variable {lasts : Nat → Bool} {state next : FrontEnd} {index : Nat} {handler : ClientHandler}

/-- One handler changes; the others are where they were. -/
theorem Secure.changed (secure : state.Secure lasts) (main : next.main = state.main)
    (count : next.count = state.count)
    (handlers : next.handlers = Function.update state.handlers index handler)
    (alive : next.crashed = false)
    (before : index < state.count → ¬ state.main.Installed index → handler.BeforeNew)
    (absent : index < state.count → ¬ state.main.Started index → handler.consumers .new = .absent)
    (onNew : index < state.count → handler.reconnected = true → lasts index = true →
      state.main.Installed index → handler.OnNew)
    (forwards : index < state.count → handler.reconnected = true → lasts index = true →
      state.main.Started index → (handler.consumers .new).Forwards) : next.Secure lasts := by
  refine ⟨alive, ?_, ?_, ?_, ?_⟩
  · intro other inside
    rw [main, handlers, Function.update_apply]
    rw [count] at inside
    split
    next here => exact here ▸ before (here ▸ inside)
    next => exact secure.before other inside
  · intro other inside
    rw [main, handlers, Function.update_apply]
    rw [count] at inside
    split
    next here => exact here ▸ absent (here ▸ inside)
    next => exact secure.absent other inside
  · intro other inside
    rw [main, handlers, Function.update_apply]
    rw [count] at inside
    split
    next here => exact here ▸ onNew (here ▸ inside)
    next => exact secure.onNew other inside
  · intro other inside
    rw [main, handlers, Function.update_apply]
    rw [count] at inside
    split
    next here => exact here ▸ forwards (here ▸ inside)
    next => exact secure.forwards other inside

theorem Secure.consumer (secure : state.Secure lasts) {generation : Generation}
    {move : ConsumerMove}
    (undisturbed : state.Undisturbed lasts (.consumer index generation move))
    (inside : index < state.count)
    (taken : (state.handlers index).consumerStep (lasts index) state.shouldRestablish generation
      move = some handler) :
    Secure lasts { state.setHandler index handler with
      crashed := handler.consumers generation = .faulted } := by
  have called : move = .call → (state.handlers index).serverConn ≠ none := by
    rintro rfl
    cases generation <;> exact undisturbed
  have reconnected := ClientHandler.reconnected_consumerStep taken
  have present := ClientHandler.present_of_consumerStep taken
  refine secure.changed rfl rfl rfl (decide_eq_false (ClientHandler.not_faulted called taken))
    ?_ ?_ ?_ ?_
  · exact fun _ later => (secure.before index inside later).consumerStep taken
  · intro _ later
    have absent := secure.absent index inside later
    cases generation with
    | old => rw [ClientHandler.consumers_consumerStep taken (by simp), absent]
    | new => exact absurd absent present
  · intro _ connected lasting installed
    rw [reconnected] at connected
    have onNew := secure.onNew index inside connected lasting installed
    refine onNew.consumerStep ?_ taken
    rintro rfl
    cases generation with
    | old => exact undisturbed lasting onNew.installed
    | new =>
      by_cases started : state.main.Started index
      · rw [lasting] at taken
        have forwards := secure.forwards index inside connected lasting started
        exact (ClientHandler.forwards_consumerStep onNew forwards (by simp) taken).1 rfl
      · exact present (secure.absent index inside started)
  · intro _ connected lasting started
    rw [reconnected] at connected
    have forwards := secure.forwards index inside connected lasting started
    cases generation with
    | old =>
      rw [ClientHandler.consumers_consumerStep taken (by simp)]
      exact forwards
    | new =>
      have installed := started.installed
      have onNew := secure.onNew index inside connected lasting installed
      rw [lasting] at taken
      refine (ClientHandler.forwards_consumerStep onNew forwards ?_ taken).2
      rintro rfl
      exact undisturbed lasting

/-- The main thread has come to one handler, which changes; for the others it is as before. -/
theorem Secure.advanced (secure : state.Secure lasts) {main : MainThread}
    (installed : ∀ other, other ≠ index → (main.Installed other ↔ state.main.Installed other))
    (started : ∀ other, other ≠ index → (main.Started other ↔ state.main.Started other))
    (before : index < state.count → ¬ main.Installed index → handler.BeforeNew)
    (absent : index < state.count → ¬ main.Started index → handler.consumers .new = .absent)
    (onNew : index < state.count → handler.reconnected = true → lasts index = true →
      main.Installed index → handler.OnNew)
    (forwards : index < state.count → handler.reconnected = true → lasts index = true →
      main.Started index → (handler.consumers .new).Forwards) :
    Secure lasts { state.setHandler index handler with main } := by
  refine ⟨secure.alive, ?_, ?_, ?_, ?_⟩
  · intro other inside later
    simp only [setHandler, Function.update_apply] at later ⊢
    split
    next here => exact before (here ▸ inside) (here ▸ later)
    next away =>
      exact secure.before other inside fun early => later ((installed other away).mpr early)
  · intro other inside later
    simp only [setHandler, Function.update_apply] at later ⊢
    split
    next here => exact absent (here ▸ inside) (here ▸ later)
    next away =>
      exact secure.absent other inside fun early => later ((started other away).mpr early)
  · intro other inside connected lasting done
    simp only [setHandler, Function.update_apply] at connected done ⊢
    split at connected
    next here =>
      rw [if_pos here]
      exact onNew (here ▸ inside) connected (here ▸ lasting) (here ▸ done)
    next away =>
      rw [if_neg away]
      exact secure.onNew other inside connected lasting ((installed other away).mp done)
  · intro other inside connected lasting done
    simp only [setHandler, Function.update_apply] at connected done ⊢
    split at connected
    next here =>
      rw [if_pos here]
      exact forwards (here ▸ inside) connected (here ▸ lasting) (here ▸ done)
    next away =>
      rw [if_neg away]
      exact secure.forwards other inside connected lasting ((started other away).mp done)

theorem Secure.mainStep (secure : state.Secure lasts) {action : FrontEndAction}
    (taken : state.mainStep action = some next) : next.Secure lasts := by
  unfold FrontEnd.mainStep at taken
  split at taken
  next =>
    split at taken
    next watches =>
      obtain rfl := Option.some.inj taken
      have none : ∀ index, ¬ state.main.Installed index := by
        intro index
        rw [watches.1]
        exact id
      refine ⟨secure.alive, fun index inside _ => secure.before index inside (none index),
        fun index inside _ =>
          secure.absent index inside fun started => none index started.installed,
        ?_, ?_⟩
      · exact fun index _ _ _ installed => absurd installed (Nat.not_lt_zero index)
      · exact fun index _ _ _ started => absurd started (Nat.not_lt_zero index)
    next => cases taken
  next succeeds =>
    split at taken
    next index connecting =>
      split at taken
      next inside =>
        obtain rfl := Option.some.inj taken
        have waits : ¬ state.main.Installed index := by
          rw [connecting]
          exact Nat.lt_irrefl index
        refine secure.advanced ?_ ?_ ?_ ?_ ?_ ?_
        · intro other _
          rw [connecting]
          exact Iff.rfl
        · intro other _
          rw [connecting]
          exact Iff.rfl
        · exact fun _ _ => ⟨(secure.before index inside waits).installed,
            (secure.before index inside waits).opened⟩
        · exact fun _ _ => secure.absent index inside fun started => waits started.installed
        · exact fun _ _ _ installed => absurd installed (Nat.lt_irrefl index)
        · exact fun _ _ _ started => absurd started (Nat.lt_irrefl index)
      next => cases taken
    next => cases taken
  next =>
    split at taken
    next index installing =>
      obtain rfl := Option.some.inj taken
      have waits : ¬ state.main.Installed index := by
        rw [installing]
        exact Nat.lt_irrefl index
      refine secure.advanced ?_ ?_ ?_ ?_ ?_ ?_
      · intro other away
        rw [installing]
        exact ⟨fun upTo => Nat.lt_of_le_of_ne upTo away, Nat.le_of_lt⟩
      · intro other _
        rw [installing]
        exact Iff.rfl
      · exact fun _ later => absurd (Nat.le_refl index) later
      · intro inside _
        have absent := secure.absent index inside fun started => waits started.installed
        unfold ClientHandler.setServerConnection ClientHandler.disconnect
        split <;> exact absent
      · intro inside connected _ _
        refine ⟨?_, (secure.before index inside waits).disconnect.opened⟩
        have reconnected : (state.handlers index).reconnected = true := by
          unfold ClientHandler.setServerConnection ClientHandler.disconnect at connected
          split at connected <;> exact connected
        show (if (state.handlers index).reconnected then some Generation.new else none) = _
        rw [if_pos reconnected]
      · exact fun _ _ _ started => absurd started (Nat.lt_irrefl index)
    next => cases taken
  next =>
    split at taken
    next index starting =>
      obtain rfl := Option.some.inj taken
      have installed : state.main.Installed index := by
        rw [starting]
        exact Nat.le_refl index
      refine secure.advanced ?_ ?_ ?_ ?_ ?_ ?_
      · intro other _
        rw [starting]
        exact Nat.lt_succ_iff
      · intro other away
        rw [starting]
        exact ⟨fun upTo => Nat.lt_of_le_of_ne (Nat.le_of_lt_succ upTo) away, Nat.lt_succ_of_lt⟩
      · exact fun _ later => absurd (Nat.lt_succ_self index) later
      · exact fun _ later => absurd (Nat.lt_succ_self index) later
      · intro inside connected lasting _
        have onNew := secure.onNew index inside connected lasting installed
        exact ⟨onNew.installed, onNew.opened⟩
      · intro _ _ _ _
        show (Function.update (state.handlers index).consumers .new .testing .new).Forwards
        rw [Function.update_self]
        trivial
    next => cases taken
  next =>
    split at taken
    next index connecting =>
      split at taken
      next => cases taken
      next last =>
        obtain rfl := Option.some.inj taken
        have passed : ∀ other < state.count,
            state.main.Installed other ∧ state.main.Started other := by
          intro other inside
          rw [connecting]
          exact ⟨Nat.lt_of_lt_of_le inside (Nat.not_lt.mp last),
            Nat.lt_of_lt_of_le inside (Nat.not_lt.mp last)⟩
        refine ⟨secure.alive, fun _ _ later => absurd trivial later,
          fun _ _ later => absurd trivial later, ?_, ?_⟩
        · intro other inside connected lasting _
          exact secure.onNew other inside connected lasting (passed other inside).1
        · intro other inside connected lasting _
          exact secure.forwards other inside connected lasting (passed other inside).2
    next => cases taken
  next => cases taken
  next => cases taken

theorem Secure.step (secure : state.Secure lasts) {action : FrontEndAction}
    (undisturbed : state.Undisturbed lasts action)
    (taken : FrontEnd.step lasts state action = some next) : next.Secure lasts := by
  unfold FrontEnd.step at taken
  split at taken
  next =>
    split at taken
    next => cases taken
    next =>
      obtain rfl := Option.some.inj taken
      exact ⟨secure.alive, secure.before, secure.absent, secure.onNew, secure.forwards⟩
  next index generation move =>
    split at taken
    next => cases taken
    next live =>
      obtain ⟨handler, moved, rfl⟩ := Option.map_eq_some_iff.mp taken
      rw [not_or, Nat.not_le] at live
      exact secure.consumer undisturbed live.2 moved
  next =>
    split at taken
    next => cases taken
    next => exact secure.mainStep taken

end Steps

end FrontEnd

end TwitterClone
