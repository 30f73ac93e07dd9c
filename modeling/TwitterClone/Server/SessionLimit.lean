import Mathlib.Data.Finset.Card
import TwitterClone.Profile.Sessions
import TwitterClone.Server.Dialogue

/-! The seats of a user. The profile manager counts sessions by ids; the connections that
are in session are the ones it counts, whatever the order of their threads. -/
namespace TwitterClone

open Foundation

/-- From the login that was accepted to the call of `closeSession`. -/
def Handler.InSession : Handler → Prop
  | .starting | .answering | .serving | .sending _ _ | .sent _ | .stopping | .joining
  | .closing => True
  | .authorizing | .finished => False

namespace Server

/-- The connection holds a seat of the user. -/
def Seat (server : Server) (user : Text) (index : QueueRef) : Prop :=
  (server.connections index).handler.InSession ∧ (server.connections index).username = user

/-- A user's ids are those of the connections that are in session, each once. -/
structure Seats (server : Server) : Prop where
  seated : server.profiles.Seated
  held : ∀ user id, id ∈ server.profiles.sessionIds user ↔
    ∃ index, server.Seat user index ∧ (server.connections index).threadId = id
  single : ∀ user first second, server.Seat user first → server.Seat user second →
    (server.connections first).threadId = (server.connections second).threadId → first = second

section Steps

variable {server next : Server} {index : QueueRef}

/-- A step that takes no seat and leaves none. -/
theorem Seats.keep (seats : server.Seats) (seated : next.profiles.Seated)
    (ids : ∀ user, next.profiles.sessionIds user = server.profiles.sessionIds user)
    (seat : ∀ user other, next.Seat user other ↔ server.Seat user other)
    (threadId : ∀ user other, server.Seat user other →
      (next.connections other).threadId = (server.connections other).threadId) : next.Seats where
  seated := seated
  held user id := by
    rw [ids, seats.held]
    refine exists_congr fun other => ?_
    rw [seat]
    exact and_congr_right fun holds => by rw [threadId user other holds]
  single user first second holds holdsToo same := by
    have before := (seat user first).mp holds
    have beforeToo := (seat user second).mp holdsToo
    rw [threadId user first before, threadId user second beforeToo] at same
    exact seats.single user first second before beforeToo same

/-- One connection moves on, with its session. -/
theorem Seats.goOn (seats : server.Seats) {connection : ClientConnection}
    (connections : next.connections = Function.update server.connections index connection)
    (profiles : next.profiles = server.profiles)
    (inSession : connection.handler.InSession ↔ (server.connections index).handler.InSession)
    (username : connection.username = (server.connections index).username)
    (threadId : connection.threadId = (server.connections index).threadId) : next.Seats := by
  refine seats.keep (profiles ▸ seats.seated) (fun _ => by rw [profiles]) ?_ ?_
  · intro user other
    rw [Seat, Seat, connections, Function.update_apply]
    split
    next here => rw [here, inSession, username]
    next => rfl
  · intro user other _
    rw [connections, Function.update_apply]
    split
    next here => rw [here, threadId]
    next => rfl

/-- A call of the notification manager has nothing to do with seats. -/
theorem Seats.called (seats : server.Seats) (call : Call) {connection : ClientConnection}
    (inSession : connection.handler.InSession ↔ (server.connections index).handler.InSession)
    (username : connection.username = (server.connections index).username)
    (threadId : connection.threadId = (server.connections index).threadId) :
    ((server.deliver call).setConnection index connection).Seats := by
  refine seats.keep seats.seated (fun _ => rfl) ?_ ?_
  · intro user other
    rw [Seat, Seat, connections_setConnection]
    split
    next here => rw [here, inSession, username]
    next => rfl
  · intro user other _
    rw [connections_setConnection]
    split
    next here => rw [here, threadId]
    next => rfl

theorem Seats.startSession (seats : server.Seats) {username : Text} {threadId : Nat}
    (handler : (server.connections index).handler = .authorizing)
    (notOpen : server.profiles.NotOpen (.startSession username ⟨threadId, username⟩)) :
    (server.startSession (fun _ => true) index username threadId).Seats := by
  have vacant : ∀ user, ¬ server.Seat user index := by
    intro user holds
    rw [Seat, handler] at holds
    exact holds.1
  have elsewhere : ∀ user other, server.Seat user other → other ≠ index :=
    fun user other holds here => vacant user (here ▸ holds)
  cases answer :
      (server.profiles.startSession (fun _ => true) username ⟨threadId, username⟩).success with
  | false =>
    have same := ProfileManager.startSession_refused answer
    refine seats.keep ?_ ?_ ?_ ?_
    · have seated : (server.profiles.startSession (fun _ => true) username
          ⟨threadId, username⟩).manager.Seated := by
        rw [same]
        exact seats.seated
      exact seated
    · exact fun user => congrArg (ProfileManager.sessionIds · user) same
    · intro user other
      rw [Seat, Server.startSession, connections_setConnection]
      split
      next here =>
        rw [answer, here]
        exact iff_of_false (fun holds => holds.1) (vacant user)
      next => rfl
    · intro user other holds
      rw [Server.startSession, connections_setConnection, if_neg (elsewhere user other holds)]
  | true =>
    have seated := seats.seated.call notOpen
    have ids := seats.seated.sessionIds_call (.startSession username ⟨threadId, username⟩)
    have seat : ∀ user other,
        (server.startSession (fun _ => true) index username threadId).Seat user other ↔
          if other = index then username = user else server.Seat user other := by
      intro user other
      rw [Seat, Server.startSession, connections_setConnection, answer]
      split
      next => exact and_iff_right trivial
      next => rfl
    have thread : ∀ other,
        ((server.startSession (fun _ => true) index username threadId).connections other).threadId =
          if other = index then threadId else (server.connections other).threadId := by
      intro other
      rw [Server.startSession, connections_setConnection]
      split <;> rfl
    refine ⟨seated, ?_, ?_⟩
    · intro user id
      refine (iff_of_eq (congrArg (id ∈ ·) (ids user))).trans ?_
      simp only [seat, thread]
      have old : id ∈ server.profiles.sessionIds user ↔
          ∃ other, other ≠ index ∧ server.Seat user other ∧
            (server.connections other).threadId = id := by
        rw [seats.held]
        refine exists_congr fun other => ?_
        exact ⟨fun both => ⟨elsewhere user other both.1, both⟩, And.right⟩
      have success : (server.profiles.call (fun _ => true)
          (.startSession username ⟨threadId, username⟩)).success = true := answer
      rw [idsAfter, success]
      by_cases here : username = user
      · rw [if_pos ⟨here, rfl⟩, List.mem_append, List.mem_singleton, old]
        constructor
        · rintro (⟨other, away, holds, same⟩ | new)
          · exact ⟨other, by rwa [if_neg away], by rwa [if_neg away]⟩
          · exact ⟨index, by rwa [if_pos rfl], by rw [if_pos rfl, new]⟩
        · rintro ⟨other, holds, same⟩
          by_cases away : other = index
          · rw [if_pos away] at same
            exact Or.inr same.symm
          · rw [if_neg away] at holds same
            exact Or.inl ⟨other, away, holds, same⟩
      · rw [if_neg fun both => here both.1, old]
        refine exists_congr fun other => ?_
        by_cases away : other = index
        · simp [away, here]
        · simp [away]
    · intro user first second holds holdsToo same
      have clash : ∀ other, other ≠ index → username = user → server.Seat user other →
          (server.connections other).threadId ≠ threadId := by
        rintro other _ rfl held rfl
        exact notOpen ((seats.held _ _).mpr ⟨other, held, rfl⟩)
      rw [seat] at holds holdsToo
      rw [thread, thread] at same
      by_cases firstHere : first = index
      · by_cases secondHere : second = index
        · rw [firstHere, secondHere]
        · rw [if_pos firstHere] at holds same
          rw [if_neg secondHere] at holdsToo same
          exact absurd same.symm (clash second secondHere holds holdsToo)
      · rw [if_neg firstHere] at holds same
        by_cases secondHere : second = index
        · rw [if_pos secondHere] at holdsToo same
          exact absurd same (clash first firstHere holdsToo holds)
        · rw [if_neg secondHere] at holdsToo same
          exact seats.single user first second holds holdsToo same

/-- With its last step a handler leaves its seat. -/
theorem Seats.closeSession (seats : server.Seats)
    (handler : (server.connections index).handler = .closing) :
    (({ server with
      profiles := server.profiles.closeSession (server.connections index).username
        (server.connections index).threadId }).setConnection index
      { server.connections index with handler := .finished }).Seats := by
  have holder : server.Seat (server.connections index).username index := by
    rw [Seat, handler]
    exact ⟨trivial, rfl⟩
  have seated : (server.profiles.call (fun _ => true) (.closeSession
      (server.connections index).username (server.connections index).threadId)).manager.Seated :=
    seats.seated.call trivial
  have ids := seats.seated.sessionIds_call (.closeSession (server.connections index).username
    (server.connections index).threadId)
  have seat : ∀ user other,
      (({ server with
        profiles := server.profiles.closeSession (server.connections index).username
          (server.connections index).threadId }).setConnection index
        { server.connections index with handler := .finished }).Seat user other ↔
          other ≠ index ∧ server.Seat user other := by
    intro user other
    rw [Seat, connections_setConnection]
    split
    next here => exact iff_of_false (fun holds => holds.1) fun both => both.1 here
    next away => exact (and_iff_right away).symm
  have thread : ∀ other, ((({ server with
        profiles := server.profiles.closeSession (server.connections index).username
          (server.connections index).threadId }).setConnection index
        { server.connections index with handler := .finished }).connections other).threadId =
          (server.connections other).threadId := by
    intro other
    rw [connections_setConnection]
    split
    next here => rw [here]
    next => rfl
  refine ⟨seated, ?_, ?_⟩
  · intro user id
    refine (iff_of_eq (congrArg (id ∈ ·) (ids user))).trans ?_
    simp only [seat, thread, idsAfter]
    by_cases here : (server.connections index).username = user
    · rw [if_pos here, List.mem_filter, seats.held]
      constructor
      · rintro ⟨⟨other, holds, same⟩, different⟩
        refine ⟨other, ⟨?_, holds⟩, same⟩
        rintro rfl
        simp [same] at different
      · rintro ⟨other, ⟨away, holds⟩, same⟩
        refine ⟨⟨other, holds, same⟩, decide_eq_true ?_⟩
        intro clash
        exact away (seats.single user other index holds (here ▸ holder) (same.trans clash))
    · rw [if_neg here, seats.held]
      refine exists_congr fun other => and_congr_left fun _ => ?_
      refine ⟨fun holds => ⟨?_, holds⟩, And.right⟩
      rintro rfl
      exact here holds.2
  · intro user first second holds holdsToo same
    rw [seat] at holds holdsToo
    rw [thread, thread] at same
    exact seats.single user first second holds.2 holdsToo.2 same

/-- What a handler does after its login and before its end. -/
theorem Seats.handlerStep (seats : server.Seats) {action : HandlerAction}
    (later : ∀ username threadId, action ≠ .login username threadId)
    (taken : server.handlerStep (fun _ => true) index action = some next) : next.Seats := by
  cases handlerMove_of_taken taken with
  | refuse handler | startConsumer _ handler | answerLogin handler | readFollowers _ _ handler
  | leave handler | stop handler | join handler =>
    refine seats.goOn rfl rfl ?_ rfl rfl
    rw [handler]
    simp [Handler.InSession]
  | answerSend tweet handler =>
    refine seats.goOn rfl rfl ?_ rfl rfl
    rw [handler]
    simp [Handler.InSession]
  | login username threadId => exact absurd rfl (later username threadId)
  | follow userToFollow handler =>
    have seated : (server.profiles.call (fun _ => true)
        (.follow (server.connections index).username userToFollow)).manager.Seated :=
      seats.seated.call trivial
    refine seats.keep seated ?_ (fun _ _ => Iff.rfl) fun _ _ _ => rfl
    exact fun user => seats.seated.sessionIds_call (.follow _ userToFollow) user
  | send notification followers handler =>
    refine seats.called _ ?_ rfl rfl
    rw [handler]
    simp [Handler.InSession]
  | closeSession handler => exact seats.closeSession handler

theorem Seats.lose (seats : server.Seats) (index : QueueRef) : (server.lose index).Seats :=
  seats.goOn rfl rfl Iff.rfl rfl rfl

theorem Seats.consumerStep (seats : server.Seats) {action : ConsumerAction}
    (taken : server.consumerStep index action = some next) : next.Seats := by
  have threadId : (server.connections index).tryRemove.threadId =
      (server.connections index).threadId := by
    unfold ClientConnection.tryRemove
    split <;> rfl
  obtain ⟨-, -, username, handler, -⟩ := tryRemove_frame (server.connections index)
  cases consumerMove_of_taken taken with
  | check | timeout | write =>
    exact seats.goOn rfl rfl Iff.rfl rfl rfl
  | look | wake => exact seats.goOn rfl rfl (handler ▸ Iff.rfl) username threadId
  | subscribe | unsubscribe => exact seats.called _ Iff.rfl rfl rfl

theorem Seats.card_le (seats : server.Seats) {user : Text} {holders : Finset QueueRef}
    (holds : ∀ index ∈ holders, server.Seat user index) :
    holders.card ≤ (server.profiles.sessionIds user).length := by
  have apart : Set.InjOn (fun index => (server.connections index).threadId) holders :=
    fun first member second memberToo same =>
      seats.single user first second (holds first member) (holds second memberToo) same
  have inside : holders.image (fun index => (server.connections index).threadId) ⊆
      (server.profiles.sessionIds user).toFinset := by
    intro id member
    obtain ⟨index, holder, same⟩ := Finset.mem_image.mp member
    exact List.mem_toFinset.mpr ((seats.held user id).mpr ⟨index, holds index holder, same⟩)
  calc holders.card
      = (holders.image fun index => (server.connections index).threadId).card :=
        (Finset.card_image_of_injOn apart).symm
    _ ≤ (server.profiles.sessionIds user).toFinset.card := Finset.card_le_card inside
    _ ≤ (server.profiles.sessionIds user).length := List.toFinset_card_le _

/-- A login is refused if and only if two connections have the seats. -/
theorem Seats.refused_iff (seats : server.Seats) (user : Text) (session : ProfileSession) :
    (server.profiles.startSession (fun _ => true) user session).success = false ↔
      ∃ first second, first ≠ second ∧ server.Seat user first ∧ server.Seat user second := by
  rw [← Bool.not_eq_true, ProfileManager.startSession_success]
  constructor
  · intro full
    have few := seats.seated.few user
    have distinct := seats.seated.distinct user
    match ids : server.profiles.sessionIds user with
    | [] => simp [ids, User.maxSessionsPerUser] at full
    | [only] => simp [ids, User.maxSessionsPerUser] at full
    | one :: two :: rest =>
      obtain ⟨first, holds, rfl⟩ := (seats.held user one).mp (by simp [ids])
      obtain ⟨second, holdsToo, rfl⟩ := (seats.held user two).mp (by simp [ids])
      refine ⟨first, second, ?_, holds, holdsToo⟩
      rintro rfl
      simp [ids] at distinct
  · rintro ⟨first, second, different, holds, holdsToo⟩ room
    have both : ∀ index ∈ ({first, second} : Finset QueueRef), server.Seat user index := by
      intro index member
      rcases Finset.mem_insert.mp member with rfl | other
      · exact holds
      · rwa [Finset.mem_singleton.mp other]
    have two := seats.card_le both
    rw [Finset.card_pair different] at two
    exact absurd room (Nat.not_lt.mpr two)

end Steps

end Server

namespace Service

open Server

/-- The user has no session under the handle of the thread that asks for one. Handles of
threads that are alive differ, and a thread is alive while it has its session. -/
def Fresh (ids : QueueRef → ThreadIds) (service : Service) : ServiceAction → Prop
  | .handle index _ => (service.server.connections index).handler = .authorizing →
      ∀ packet ∈ (service.wires index).request, service.server.profiles.NotOpen
        (.startSession packet.payload ⟨(ids index).handler, packet.payload⟩)
  | .receive _ _ | .consume _ _ | .lose _ => True

instance (ids : QueueRef → ThreadIds) (service : Service) :
    (action : ServiceAction) → Decidable (service.Fresh ids action)
  | .handle _ _ => inferInstanceAs (Decidable (_ → ∀ packet ∈ _, _))
  | .receive _ _ | .consume _ _ | .lose _ => isTrue trivial

variable {ids : QueueRef → ThreadIds} {service next : Service}

theorem seats_step (seats : service.server.Seats) {action : ServiceAction}
    (fresh : service.Fresh ids action)
    (taken : service.step (fun _ => true) ids action = some next) : next.server.Seats := by
  cases move_of_step taken with
  | receive | reject | respond => exact seats
  | hangUp index handler idle server moved => exact seats.handlerStep (by simp) moved
  | leave index last close handler idle server moved => exact seats.handlerStep (by simp) moved
  | follow index now request handler served response type server moved =>
    exact seats.handlerStep (by simp) moved
  | answer index now action response place server moved =>
    refine seats.handlerStep ?_ moved
    rcases place with ⟨-, rfl, -⟩ | ⟨-, rfl, -⟩
    · simp
    · simp
  | work index now action works server moved =>
    refine seats.handlerStep ?_ moved
    rcases works with ⟨-, rfl⟩ | ⟨_, -, -, -, rfl⟩ | rfl | rfl | rfl | rfl <;> simp
  | write index action notification writing server moved => exact seats.consumerStep moved
  | consume index action silent server moved => exact seats.consumerStep moved
  | lose index => exact seats.lose index
  | authorize index now packet handler request response =>
    unfold authorizeSession
    dsimp only
    split
    next => exact seats.startSession handler (fresh handler packet request)
    next => exact seats.handlerStep (by simp) (refuse_eq handler)

theorem seats_start {users : UnorderedMap Text User}
    (idle : ∀ name user, users.lookup name = some user → user.sessions = []) :
    (start users).server.Seats := by
  obtain ⟨seated, none⟩ := ProfileManager.seated_of_idle idle
  refine ⟨seated, ?_, fun user first second holds => holds.1.elim⟩
  intro user id
  have empty : (start users).server.profiles.sessionIds user = [] := none user
  rw [empty]
  refine iff_of_false (List.not_mem_nil) ?_
  rintro ⟨index, holds, -⟩
  exact holds.1

/-- Whatever clients do and in whatever order the threads of the connections run: the ids
that the profile manager has for a user are those of the connections in session, nobody is
in session on more connections than there may be, and a login is refused exactly when that
many are. -/
theorem seats_of_run (ids : QueueRef → ThreadIds) (users : UnorderedMap Text User)
    (idle : ∀ name user, users.lookup name = some user → user.sessions = [])
    (actions : List ServiceAction) (service : Service)
    (fresh : AllMeet (step (fun _ => true) ids) (Fresh ids) (start users) actions)
    (reached : run (step (fun _ => true) ids) (start users) actions = some service)
    (user : Text) :
    (∀ id, id ∈ service.server.profiles.sessionIds user ↔
      ∃ index, service.server.Seat user index ∧
        (service.server.connections index).threadId = id) ∧
    (∀ holders : Finset QueueRef, (∀ index ∈ holders, service.server.Seat user index) →
      holders.card ≤ User.maxSessionsPerUser) ∧
    ∀ session, (service.server.profiles.startSession (fun _ => true) user session).success =
      false ↔ ∃ first second, first ≠ second ∧
        service.server.Seat user first ∧ service.server.Seat user second := by
  have seats : service.server.Seats :=
    run_preserves (fun _ _ _ seats fresh taken => seats_step seats fresh taken)
      (seats_start idle) fresh reached
  refine ⟨seats.held user, fun holders holds => ?_, seats.refused_iff user⟩
  exact (seats.card_le holds).trans (seats.seated.few user)

theorem seats_of_twoConnections :
    ∃ service, run (step (fun _ => true) twoHandles) (start ∅) twoConnections = some service ∧
      ∀ user, ∀ holders : Finset QueueRef, (∀ index ∈ holders, service.server.Seat user index) →
        holders.card ≤ User.maxSessionsPerUser :=
  ⟨_, rfl, fun user => (seats_of_run twoHandles ∅ (by intro name user found; cases found)
    twoConnections _ (by decide) rfl user).2.1⟩

end Service

end TwitterClone
