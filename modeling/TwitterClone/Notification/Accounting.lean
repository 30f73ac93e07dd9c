import TwitterClone.Foundation.Machine
import TwitterClone.Notification.Ledger

/-! Runs of the notification manager and the accounting invariant that every
one of them keeps. -/
namespace TwitterClone

open Foundation NotificationManager

/-- The public calls of the manager that change its state. -/
inductive Operation where
  | loadUsers (usernames : List Text)
  | subscribe (username : Text) (id : Nat) (session : QueueRef)
  | unsubscribe (username : Text) (id : Nat)
  | send (notification : Notification) (followers : List Text)
  deriving DecidableEq

namespace NotificationManager

def call (manager : NotificationManager) : Operation → Call
  | .loadUsers usernames => manager.loadUsers usernames
  | .subscribe username id session => manager.subscribe username id session
  | .unsubscribe username id => manager.unsubscribe username id
  | .send notification followers => manager.send notification followers

/-- What the route that sends tweets hands to `send`: distinct registered
followers, and their number as the count. -/
def Admissible (manager : NotificationManager) : Operation → Prop
  | .send notification followers => followers.Nodup ∧
      (∀ follower ∈ followers, follower ∈ manager.pendingQueues) ∧
      notification.pendingCount = followers.length
  | _ => True

instance (manager : NotificationManager) : (operation : Operation) →
    Decidable (manager.Admissible operation)
  | .send _ _ => inferInstanceAs (Decidable (_ ∧ _ ∧ _))
  | .loadUsers _ | .subscribe _ _ _ | .unsubscribe _ _ => isTrue trivial

/-- One step of a run: an admissible call. -/
def step (manager : NotificationManager) (operation : Operation) : Option NotificationManager :=
  if manager.Admissible operation then some (manager.call operation).manager else none

theorem step_eq_some {manager next : NotificationManager} {operation : Operation} :
    manager.step operation = some next ↔
      manager.Admissible operation ∧ (manager.call operation).manager = next := by
  unfold step
  split
  next admissible => simp [admissible]
  next inadmissible => simp [inadmissible]

end NotificationManager

def Operation.isSend : Operation → Bool
  | .send _ _ => true
  | _ => false

/-- The sends of a run that hand out an id are at most its sends. -/
def sends (operations : List Operation) : Nat := operations.countP Operation.isSend

/-- What every step keeps while it has room for its id, a run keeps whose sends fit the
bound. -/
theorem run_counted {State : Type*} {step : State → Operation → Option State}
    {property : Nat → State → Prop} {bound : Nat}
    (kept : ∀ issued state operation next, property issued state →
      step state operation = some next → issued ≤ bound →
      (operation.isSend = true → issued < bound) →
      ∃ later, property later next ∧ later ≤ issued + if operation.isSend then 1 else 0)
    {issued : Nat} {state final : State} {operations : List Operation}
    (holds : property issued state) (few : issued + sends operations ≤ bound)
    (reached : run step state operations = some final) :
    ∃ later, later ≤ issued + sends operations ∧ property later final := by
  induction operations generalizing issued state with
  | nil => exact ⟨issued, by simp [sends], Option.some.inj reached ▸ holds⟩
  | cons operation rest ih =>
    obtain ⟨next, taken, after⟩ := run_cons.mp reached
    have count : sends (operation :: rest) =
        sends rest + if operation.isSend then 1 else 0 := List.countP_cons
    have room : operation.isSend = true → issued < bound := by
      intro isSend
      rw [isSend, if_pos rfl] at count
      omega
    obtain ⟨middle, holdsNext, small⟩ := kept issued state operation next holds taken
      (by omega) room
    obtain ⟨later, fewer, last⟩ := ih holdsNext (by omega) after
    exact ⟨later, by omega, last⟩

namespace NotificationManager

/-- The ids handed out so far are the numbers `1, …, issued` read as `int`. -/
structure Numbered (issued : Nat) (manager : NotificationManager) : Prop where
  next : manager.nextId = uint32 (issued + 1)
  past : ∀ sender, ∀ notification ∈ manager.stored sender,
    ∃ index, 1 ≤ index ∧ index ≤ issued ∧ notification.id = int32 index

/-- No id is stored under two senders. -/
def SeparateIds (manager : NotificationManager) : Prop :=
  ∀ sender other, ∀ first ∈ manager.stored sender, ∀ second ∈ manager.stored other,
    first.id = second.id → sender = other

/-- What holds of a manager that has handed out `issued` ids. -/
structure Books (issued : Nat) (manager : NotificationManager) : Prop where
  ledger : Ledger manager
  separate : SeparateIds manager
  online : OnlineDrained manager
  numbered : Numbered issued manager

/-- Lists only lose elements and the counter stands still. -/
def Shrinks (manager next : NotificationManager) : Prop :=
  next.nextId = manager.nextId ∧
    ∀ sender, ((next.stored sender).map Notification.id).Sublist
      ((manager.stored sender).map Notification.id)

section Steps

variable {issued : Nat} {manager next : NotificationManager}

theorem Numbered.shrinks (numbered : Numbered issued manager) (shrinks : Shrinks manager next) :
    Numbered issued next := by
  constructor
  · rw [shrinks.1]
    exact numbered.next
  · intro sender notification member
    have id := (shrinks.2 sender).subset (List.mem_map.mpr ⟨notification, member, rfl⟩)
    obtain ⟨older, stored, same⟩ := List.mem_map.mp id
    rw [← same]
    exact numbered.past sender older stored

/-- The next `2 ^ 32` ids are all different. -/
theorem Numbered.fresh (numbered : Numbered issued manager) (room : issued < 2 ^ 32)
    (sender : Text) : FreshId manager sender := by
  intro notification member
  obtain ⟨index, positive, bound, same⟩ := numbered.past sender notification member
  rw [same, numbered.next, int32_uint32]
  exact int32_injective (by omega) (by omega)

theorem SeparateIds.shrinks (separate : SeparateIds manager) (shrinks : Shrinks manager next) :
    SeparateIds next := by
  intro sender other first firstMember second secondMember same
  obtain ⟨older, olderStored, sameFirst⟩ := List.mem_map.mp
    ((shrinks.2 sender).subset (List.mem_map.mpr ⟨first, firstMember, rfl⟩))
  obtain ⟨another, anotherStored, sameSecond⟩ := List.mem_map.mp
    ((shrinks.2 other).subset (List.mem_map.mpr ⟨second, secondMember, rfl⟩))
  exact separate sender other older olderStored another anotherStored
    (sameFirst.trans (same.trans sameSecond.symm))

theorem SeparateIds.sent {notification : Notification} {followers : List Text} {call : Call}
    (separate : SeparateIds manager) (fresh : ∀ sender, FreshId manager sender)
    (sent : Sent manager notification followers call) : SeparateIds call.manager := by
  intro sender other first firstMember second secondMember same
  rcases sent.mem_stored.mp firstMember with oldFirst | ⟨hereFirst, -, newFirst⟩ <;>
    rcases sent.mem_stored.mp secondMember with oldSecond | ⟨hereSecond, -, newSecond⟩
  · exact separate sender other first oldFirst second oldSecond same
  · rw [newSecond] at same
    exact absurd same (fresh sender first oldFirst)
  · rw [newFirst] at same
    exact absurd same.symm (fresh other second oldSecond)
  · exact hereFirst.trans hereSecond.symm

theorem Numbered.sent {notification : Notification} {followers : List Text} {call : Call}
    (numbered : Numbered issued manager) (sent : Sent manager notification followers call) :
    Numbered (issued + 1) call.manager := by
  constructor
  · rw [sent.nextId, numbered.next]
    simp [uint32]
  · intro sender item member
    rcases sent.mem_stored.mp member with old | ⟨-, -, new⟩
    · obtain ⟨index, positive, bound, same⟩ := numbered.past sender item old
      exact ⟨index, positive, by omega, same⟩
    · refine ⟨issued + 1, by omega, by omega, ?_⟩
      rw [new]
      show int32 manager.nextId = _
      rw [numbered.next, int32_uint32]

theorem Books.shrinks (books : Books issued manager) (ledger : Ledger next)
    (online : OnlineDrained next) (shrinks : Shrinks manager next) : Books issued next :=
  ⟨ledger, books.separate.shrinks shrinks, online, books.numbered.shrinks shrinks⟩

theorem Books.sent {notification : Notification} {followers : List Text} {call : Call}
    (books : Books issued manager) (room : issued < 2 ^ 32)
    (sent : Sent manager notification followers call) : Books (issued + 1) call.manager :=
  have fresh := books.numbered.fresh room
  ⟨books.ledger.sent (fresh _) sent, books.separate.sent fresh sent, books.online.sent sent,
    books.numbered.sent sent⟩

theorem shrinks_of_subscribed {username : Text} {id : Nat} {session : QueueRef} {call : Call}
    (subscribed : Subscribed manager username id session call) :
    Shrinks manager call.manager := by
  refine ⟨subscribed.nextId, ?_⟩
  intro sender
  rw [subscribed.stored]
  exact ids_filterMap_settle ..

theorem shrinks_unsubscribe (manager : NotificationManager) (username : Text) (id : Nat) :
    Shrinks manager (manager.unsubscribe username id).manager := by
  refine ⟨?_, ?_⟩
  · unfold unsubscribe
    split <;> rfl
  · intro sender
    rw [stored_unsubscribe]

theorem register_frame (usernames : List Text) (manager : NotificationManager)
    (ledger : Ledger manager) (online : OnlineDrained manager) :
    Ledger (usernames.foldl register manager) ∧
      OnlineDrained (usernames.foldl register manager) ∧
      Shrinks manager (usernames.foldl register manager) := by
  induction usernames generalizing manager with
  | nil => exact ⟨ledger, online, rfl, fun _ => List.Sublist.refl _⟩
  | cons username rest ih =>
    obtain ⟨kept, drained, same, fewer⟩ := ih (manager.register username)
      (ledger.register username) (by simpa [OnlineDrained] using online)
    exact ⟨kept, drained, same, by simpa using fewer⟩

/-- Every call except a send that is carried out only shrinks the lists. -/
theorem call_cases (books : Books issued manager) (operation : Operation)
    (admissible : manager.Admissible operation) :
    (Ledger (manager.call operation).manager ∧ OnlineDrained (manager.call operation).manager ∧
        Shrinks manager (manager.call operation).manager) ∨
      ∃ notification followers, operation = .send notification followers ∧
        Sent manager notification followers (manager.call operation) := by
  cases operation with
  | loadUsers usernames =>
    exact Or.inl (register_frame usernames manager books.ledger books.online)
  | subscribe username id session =>
    have subscribed := subscribe_spec books.ledger username id session
    exact Or.inl ⟨subscribed.ledger, books.online.subscribed subscribed,
      shrinks_of_subscribed subscribed⟩
  | unsubscribe username id =>
    exact Or.inl ⟨books.ledger.unsubscribe username id, books.online.unsubscribe username id,
      shrinks_unsubscribe manager username id⟩
  | send notification followers =>
    obtain ⟨distinct, registered, counted⟩ := admissible
    by_cases sender : notification.username ∈ manager.notifications
    · exact Or.inr ⟨notification, followers, rfl,
        send_spec manager notification followers sender registered distinct counted⟩
    · left
      rw [call, send_unregistered manager notification followers sender]
      exact ⟨books.ledger, books.online, rfl, fun _ => List.Sublist.refl _⟩

/-- One call keeps the books, as long as ids have not come round. -/
theorem Books.call (books : Books issued manager) (operation : Operation)
    (admissible : manager.Admissible operation)
    (room : operation.isSend = true → issued < 2 ^ 32) :
    ∃ later, Books later (manager.call operation).manager ∧
      later ≤ issued + if operation.isSend then 1 else 0 := by
  rcases call_cases books operation admissible with
    ⟨ledger, online, shrinks⟩ | ⟨notification, followers, same, sent⟩
  · exact ⟨issued, books.shrinks ledger online shrinks, by omega⟩
  · refine ⟨issued + 1, books.sent (room (same ▸ rfl)) sent, ?_⟩
    simp [same, Operation.isSend]

theorem books_empty : Books 0 {} := by
  constructor
  · constructor <;> simp [stored, queueOf]
  · intro sender other first member
    simp [stored] at member
  · intro user _
    simp [queueOf]
  · exact ⟨rfl, by simp [stored]⟩

end Steps

end NotificationManager

/-- The invariant that every reachable manager satisfies while ids fit an `int`. -/
structure Accounting (manager : NotificationManager) : Prop where
  sameKeys : ∀ user, user ∈ manager.notifications ↔ user ∈ manager.pendingQueues
  increasing : ∀ sender, ((manager.stored sender).map Notification.id).Pairwise (· < ·)
  inRange : ∀ sender, ∀ notification ∈ manager.stored sender,
    1 ≤ notification.id ∧ notification.id < manager.nextId
  separate : ∀ sender other, ∀ first ∈ manager.stored sender, ∀ second ∈ manager.stored other,
    first.id = second.id → sender = other
  positive : ∀ sender, ∀ notification ∈ manager.stored sender, 0 < notification.pendingCount
  counted : ∀ sender, ∀ notification ∈ manager.stored sender,
    notification.pendingCount = manager.pendingEntries.count ⟨sender, notification.id⟩
  resolved : ∀ user, ∀ pending ∈ (manager.queueOf user).pendingQueue,
    ∃ notification ∈ manager.stored pending.sender, notification.id = pending.notificationId
  once : ∀ user, (manager.queueOf user).pendingQueue.Nodup
  online : ∀ user, (manager.queueOf user).hasSubscribers = true →
    (manager.queueOf user).pendingQueue = []

namespace NotificationManager

def Increasing (manager : NotificationManager) : Prop :=
  ∀ sender, ((manager.stored sender).map Notification.id).Pairwise (· < ·)

section Order

variable {issued : Nat} {manager : NotificationManager}

/-- While fewer than `2 ^ 31` ids are out, an id is the number of its send. -/
theorem Numbered.inRange (numbered : Numbered issued manager) (small : issued < 2 ^ 31)
    {sender : Text} {notification : Notification}
    (member : notification ∈ manager.stored sender) :
    1 ≤ notification.id ∧ notification.id ≤ issued := by
  obtain ⟨index, positive, bound, same⟩ := numbered.past sender notification member
  rw [same, int32_of_small (by omega)]
  omega

theorem Increasing.sent {notification : Notification} {followers : List Text} {call : Call}
    (increasing : Increasing manager) (numbered : Numbered issued manager)
    (room : issued + 1 < 2 ^ 31) (sent : Sent manager notification followers call) :
    Increasing call.manager := by
  intro sender
  rw [sent.stored]
  split
  next =>
    rw [List.map_append]
    apply List.pairwise_append.mpr
    refine ⟨increasing sender, List.pairwise_singleton .., ?_⟩
    intro older olderMember newer newerMember
    obtain ⟨notification, stored, same⟩ := List.mem_map.mp olderMember
    have bound := numbered.inRange (by omega) stored
    have number : newer = int32 manager.nextId := by simpa [issue] using newerMember
    rw [numbered.next, int32_uint32, int32_of_small room] at number
    omega
  next => exact increasing sender

/-- One call keeps the order of the ids while they fit an `int`. -/
theorem Books.callIncreasing (books : Books issued manager) (increasing : Increasing manager)
    (operation : Operation) (admissible : manager.Admissible operation)
    (room : operation.isSend = true → issued + 1 < 2 ^ 31) :
    Increasing (manager.call operation).manager := by
  rcases call_cases books operation admissible with
    ⟨-, -, shrinks⟩ | ⟨notification, followers, same, sent⟩
  · exact fun sender => (increasing sender).sublist (shrinks.2 sender)
  · exact increasing.sent books.numbered (room (same ▸ rfl)) sent

theorem run_books {operations : List Operation} {final : NotificationManager}
    (books : Books issued manager) (increasing : Increasing manager)
    (few : issued + sends operations < 2 ^ 31)
    (reached : run step manager operations = some final) :
    ∃ later < 2 ^ 31, Books later final ∧ Increasing final := by
  have kept : ∀ issued manager operation next, Books issued manager ∧ Increasing manager →
      step manager operation = some next → issued ≤ 2 ^ 31 - 1 →
      (operation.isSend = true → issued < 2 ^ 31 - 1) →
      ∃ later, (Books later next ∧ Increasing next) ∧
        later ≤ issued + if operation.isSend then 1 else 0 := by
    rintro issued manager operation next ⟨books, increasing⟩ taken - room
    obtain ⟨admissible, rfl⟩ := step_eq_some.mp taken
    obtain ⟨later, kept, bound⟩ := books.call operation admissible
      fun isSend => (room isSend).trans (by decide)
    have ordered := books.callIncreasing increasing operation admissible
      fun isSend => Nat.add_lt_of_lt_sub (room isSend)
    exact ⟨later, ⟨kept, ordered⟩, bound⟩
  obtain ⟨later, bound, last⟩ := run_counted kept ⟨books, increasing⟩ (by omega) reached
  exact ⟨later, by omega, last⟩

end Order

end NotificationManager

/-- Every manager reached from the empty one by fewer than `2 ^ 31` sends, and
any other calls, keeps the accounting invariant. -/
theorem accounting_of_run (operations : List Operation) (manager : NotificationManager)
    (reached : run NotificationManager.step {} operations = some manager)
    (few : sends operations < 2 ^ 31) : Accounting manager := by
  obtain ⟨issued, small, books, increasing⟩ := run_books books_empty
    (fun sender => by simp [stored]) (by omega) reached
  have ledger := books.ledger
  refine ⟨ledger.sameKeys, increasing, ?_, books.separate, ledger.positive, ledger.counted,
    ledger.resolved, ledger.once, books.online⟩
  intro sender notification member
  have range := books.numbered.inRange small member
  have next : manager.nextId = issued + 1 := by
    rw [books.numbered.next, uint32]
    omega
  omega

/-- Two followers, one of them online: the other one's entry stays accounted for. -/
def sampleRun : List Operation :=
  [.loadUsers [['a'], ['b']], .subscribe ['b'] 7 0, .subscribe ['e'] 8 1, .unsubscribe ['e'] 8,
    .send ⟨-1, 5, ['a'], 2, ['h', 'i']⟩ [['b'], ['e']]]

theorem accounting_of_sampleRun :
    ∃ manager, run NotificationManager.step {} sampleRun = some manager ∧ Accounting manager :=
  ⟨_, rfl, accounting_of_run sampleRun _ rfl (by decide)⟩

end TwitterClone
