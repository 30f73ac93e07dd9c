import TwitterClone.Notification.Texts
import TwitterClone.Profile.Names
import TwitterClone.Replication.ReplicaInfo

/-! How a leader keeps its replicas up to date: whoever changes a manager holds its
mutex until the encoded state has been sent to every other replica. -/
namespace TwitterClone

open Foundation

/-- What a client's call makes of the manager, and what it hands to the callback. -/
def NotificationManager.operate (manager : NotificationManager) (operation : Operation) :
    NotificationManager × Option NotificationManager :=
  let call := manager.call operation
  (call.manager, call.updates.head?)

/-- The calls that serve clients. The users are loaded before there are any. -/
def Operation.Serves : Operation → Prop
  | .loadUsers _ => False
  | _ => True

instance : (operation : Operation) → Decidable operation.Serves
  | .loadUsers _ => isFalse id
  | .subscribe _ _ _ | .unsubscribe _ _ | .send _ _ => isTrue trivial

/-- A leader's managers, and its connections with the infos of the other ends. -/
structure Leader where
  info : ReplicaInfo
  replicasVector : List (Nat × ReplicaInfo)
  profiles : Publisher ProfileManager Nat Text
  notifications : Publisher NotificationManager Nat Text

inductive LeaderAction where
  | profile (action : PublisherAction ProfileOperation)
  | notification (action : PublisherAction Operation)

/-- Names come out of packets, whose payloads end at their first NUL. -/
def Terminated (name : Text) : Prop := nul ∉ name

instance (name : Text) : Decidable (Terminated name) := inferInstanceAs (Decidable (_ ∉ _))

namespace Leader

/-- The payload of an update packet. -/
def profilePayload (manager : ProfileManager) : Text := cString manager.serialize

def notificationPayload (manager : NotificationManager) : Text := cString manager.serialize

/-- The connections that `sendProfileUpdate` and `sendNotificationUpdate` send to. -/
def receivers (leader : Leader) : List Nat :=
  (leader.replicasVector.filter fun replica => replica.2.NotEqual leader.info).map Prod.fst

/-- What the routes and consumers of a leader call, and with which texts. -/
def Admissible : LeaderAction → Prop
  | .profile (.operate operation) => operation.Uses Terminated
  | .notification (.operate operation) => operation.Serves ∧ operation.Uses Terminated fun _ => True
  | _ => True

instance : (action : LeaderAction) → Decidable (Admissible action)
  | .profile (.operate operation) => inferInstanceAs (Decidable (operation.Uses Terminated))
  | .notification (.operate operation) =>
    inferInstanceAs (Decidable (operation.Serves ∧ operation.Uses Terminated fun _ => True))
  | .profile .publish | .profile .send => isTrue trivial
  | .notification .publish | .notification .send => isTrue trivial

/-- One step of whoever holds the mutex of one of the managers. -/
def act (leader : Leader) : LeaderAction → Option Leader
  | .profile action =>
    (leader.profiles.step ProfileManager.operate profilePayload leader.receivers action).map
      fun profiles => { leader with profiles }
  | .notification action =>
    (leader.notifications.step NotificationManager.operate notificationPayload leader.receivers
      action).map fun notifications => { leader with notifications }

def step (leader : Leader) (action : LeaderAction) : Option Leader :=
  if Admissible action then leader.act action else none

/-- A leader before it has served anybody. -/
def start (info : ReplicaInfo) (replicasVector : List (Nat × ReplicaInfo))
    (profileManager : ProfileManager) (notificationManager : NotificationManager) : Leader where
  info
  replicasVector
  profiles := { state := profileManager }
  notifications := { state := notificationManager }

/-- No name in the managers contains a NUL. -/
structure Clean (leader : Leader) : Prop where
  profiles : leader.profiles.state.Holds Terminated
  notifications : leader.notifications.state.Holds Terminated fun _ => True

/-- What a payload shows of the users: those of a manager that differs from the
current one only where the relation lets it. -/
def Shown (same : User → User → Prop) (shown manager : ProfileManager) : Prop :=
  ProfileManager.Alike same shown manager ∧ shown.Holds Terminated

/-- What one step makes of a leader. -/
inductive Moved (leader : Leader) : LeaderAction → Leader → Prop where
  | profile (action : PublisherAction ProfileOperation)
      (profiles : Publisher ProfileManager Nat Text) (admissible : Admissible (.profile action))
      (moved : Publisher.Moved ProfileManager.operate profilePayload leader.receivers
        leader.profiles action profiles) :
      Moved leader (.profile action) { leader with profiles }
  | notification (action : PublisherAction Operation)
      (notifications : Publisher NotificationManager Nat Text)
      (admissible : Admissible (.notification action))
      (moved : Publisher.Moved NotificationManager.operate notificationPayload leader.receivers
        leader.notifications action notifications) :
      Moved leader (.notification action) { leader with notifications }

section Steps

variable {leader next : Leader} {action : LeaderAction}

theorem moved_step (taken : leader.step action = some next) : Moved leader action next := by
  unfold step at taken
  split at taken
  next admissible =>
    cases action with
    | profile action =>
      obtain ⟨profiles, moved, same⟩ := Option.map_eq_some_iff.mp taken
      exact same ▸ .profile action profiles admissible (Publisher.moved_step moved)
    | notification action =>
      obtain ⟨notifications, moved, same⟩ := Option.map_eq_some_iff.mp taken
      exact same ▸ .notification action notifications admissible (Publisher.moved_step moved)
  next => cases taken

theorem receivers_step (moved : Moved leader action next) : next.receivers = leader.receivers := by
  cases moved with
  | profile action profiles admissible moved => rfl
  | notification action notifications admissible moved => rfl

theorem Clean.step (clean : leader.Clean) (moved : Moved leader action next) : next.Clean := by
  cases moved with
  | profile action profiles admissible moved =>
    refine ⟨?_, clean.notifications⟩
    have state := Publisher.state_step moved
    cases action with
    | operate operation => exact state ▸ clean.profiles.call (fun _ => true) admissible
    | publish => exact state ▸ clean.profiles
    | send => exact state ▸ clean.profiles
  | notification action notifications admissible moved =>
    refine ⟨clean.profiles, ?_⟩
    have state := Publisher.state_step moved
    cases action with
    | operate operation => exact state ▸ clean.notifications.call admissible.2
    | publish => exact state ▸ clean.notifications
    | send => exact state ▸ clean.notifications

theorem operate_asks (manager : NotificationManager) (operation : Operation)
    (update : NotificationManager) (asked : (manager.operate operation).2 = some update) :
    update = (manager.operate operation).1 := by
  unfold NotificationManager.operate at asked ⊢
  dsimp only at asked ⊢
  cases operation with
  | loadUsers usernames => cases asked
  | subscribe username id session =>
    rw [NotificationManager.call, NotificationManager.subscribe] at asked ⊢
    split at asked
    next present =>
      rw [if_pos present]
      exact (Option.some.inj asked).symm
    next absent =>
      rw [if_neg absent]
      exact (Option.some.inj asked).symm
  | unsubscribe username id => exact (Option.some.inj asked).symm
  | send notification followers =>
    rw [NotificationManager.call, NotificationManager.send] at asked ⊢
    split at asked
    next => cases asked
    next => exact (Option.some.inj asked).symm

/-- Of the calls that serve clients only a send of an unregistered user asks for no
publication, and it changes nothing. -/
theorem eq_of_silent {manager : NotificationManager} {operation : Operation}
    (serves : operation.Serves) (quiet : (manager.operate operation).2 = none) :
    manager = (manager.operate operation).1 := by
  unfold NotificationManager.operate at quiet ⊢
  dsimp only at quiet ⊢
  cases operation with
  | loadUsers usernames => exact absurd serves id
  | subscribe username id session =>
    rw [NotificationManager.call, NotificationManager.subscribe] at quiet
    split at quiet
    next => cases quiet
    next => cases quiet
  | unsubscribe username id => cases quiet
  | send notification followers =>
    rw [NotificationManager.call, NotificationManager.send] at quiet ⊢
    split at quiet
    next => rfl
    next => cases quiet

/-- What is being published is what the managers are. -/
structure Exact (leader : Leader) : Prop where
  profiles : leader.profiles.Exact
  notifications : leader.notifications.Exact

theorem Exact.step (exact : leader.Exact) (moved : Moved leader action next) : next.Exact := by
  cases moved with
  | profile action profiles admissible moved =>
    exact ⟨Publisher.exact_step ProfileManager.operate_asks exact.profiles moved,
      exact.notifications⟩
  | notification action notifications admissible moved =>
    exact ⟨exact.profiles, Publisher.exact_step operate_asks exact.notifications moved⟩

theorem Shown.trans {same : User → User → Prop}
    (trans : ∀ shown middle user, same shown middle → same middle user → same shown user)
    (first second third : ProfileManager) (left : Shown same first second)
    (right : Shown same second third) : Shown same first third :=
  ⟨left.1.trans trans right.1, left.2⟩

/-- What a relation between users needs for replicas to be kept up to date by it. -/
structure Lasting (same : User → User → Prop) (leader : Leader) (action : LeaderAction) : Prop where
  refl : ∀ user, same user user
  trans : ∀ shown middle user, same shown middle → same middle user → same shown user
  silent : ∀ operation, action = .profile (.operate operation) →
    (leader.profiles.state.operate operation).2 = none →
      ProfileManager.Alike same leader.profiles.state (leader.profiles.state.operate operation).1

/-- Some connections are shown what they should be. -/
structure UpToDate (same : User → User → Prop) (watched : List Nat) (leader : Leader) : Prop where
  profiles : leader.profiles.Current profilePayload (Shown same) watched
  notifications : leader.notifications.Current notificationPayload Eq watched

theorem UpToDate.step {same : User → User → Prop} {watched : List Nat}
    (upToDate : leader.UpToDate same watched) (clean : leader.Clean) (exact : leader.Exact)
    (within : ∀ connection ∈ watched, connection ∈ leader.receivers)
    (lasting : Lasting same leader action) (moved : Moved leader action next) :
    next.UpToDate same watched := by
  cases moved with
  | profile action profiles admissible moved =>
    refine ⟨Publisher.current_step (Shown.trans lasting.trans)
      ⟨.refl _ lasting.refl, clean.profiles⟩ ?_ within exact.profiles upToDate.profiles moved,
      upToDate.notifications⟩
    intro operation operates quiet
    subst operates
    exact ⟨lasting.silent operation rfl quiet, clean.profiles⟩
  | notification action notifications admissible moved =>
    refine ⟨upToDate.profiles,
      Publisher.current_step (fun _ _ _ first second => first.trans second) rfl ?_ within
        exact.notifications upToDate.notifications moved⟩
    intro operation operates quiet
    subst operates
    exact eq_of_silent admissible.1 quiet

/-- Whatever calls there are, the order of followers and the sessions are all that
changes without a publication. -/
theorem lasting_following (leader : Leader) (action : LeaderAction) :
    Lasting ProfileManager.SameFollowing leader action :=
  ⟨fun user => (ProfileManager.SameAccount.refl user).following,
    ProfileManager.SameFollowing.trans,
    fun _ _ quiet => ProfileManager.following_of_silent quiet⟩

theorem exact_start (info : ReplicaInfo) (replicasVector : List (Nat × ReplicaInfo))
    (profileManager : ProfileManager) (notificationManager : NotificationManager) :
    (start info replicasVector profileManager notificationManager).Exact :=
  ⟨trivial, trivial⟩

theorem upToDate_start {same : User → User → Prop} (info : ReplicaInfo)
    (replicasVector : List (Nat × ReplicaInfo)) (profileManager : ProfileManager)
    (notificationManager : NotificationManager) :
    (start info replicasVector profileManager notificationManager).UpToDate same
      (start info replicasVector profileManager notificationManager).receivers := by
  constructor
  · intro receiver _ payload last
    cases last
  · intro receiver _ payload last
    cases last

theorem mem_receivers {replica : Nat × ReplicaInfo} (member : replica ∈ leader.replicasVector)
    (other : replica.2.NotEqual leader.info) : replica.1 ∈ leader.receivers :=
  List.mem_map_of_mem (List.mem_filter.mpr ⟨member, by simpa using other⟩)

end Steps

section Runs

variable {leader final : Leader} {actions : List LeaderAction}

theorem kept_run {same : User → User → Prop} {watched : List Nat} (clean : leader.Clean)
    (exact : leader.Exact) (upToDate : leader.UpToDate same watched)
    (within : ∀ connection ∈ watched, connection ∈ leader.receivers)
    (lasting : ∀ leader action, Lasting same leader action)
    (reached : run step leader actions = some final) :
    final.Clean ∧ final.UpToDate same watched ∧ final.receivers = leader.receivers := by
  have kept : ∀ state action next,
      (state.Clean ∧ state.Exact) ∧ state.UpToDate same watched ∧
          state.receivers = leader.receivers →
        step state action = some next →
          (next.Clean ∧ next.Exact) ∧ next.UpToDate same watched ∧
            next.receivers = leader.receivers := by
    rintro state action next ⟨⟨clean, exact⟩, upToDate, receivers⟩ taken
    have moved := moved_step taken
    exact ⟨⟨clean.step moved, exact.step moved⟩,
      upToDate.step clean exact (receivers ▸ within) (lasting state action) moved,
      (receivers_step moved).trans receivers⟩
  have result := run_invariant kept ⟨⟨clean, exact⟩, upToDate, rfl⟩ reached
  exact ⟨result.1.1, result.2⟩

/-- Replicas that a publication has served stay served. -/
theorem served_step {next : Leader} {action : LeaderAction} (moved : Moved leader action next) :
    (action = .profile .publish ∨ leader.profiles.Served leader.receivers →
        next.profiles.Served next.receivers) ∧
      (action = .notification .publish ∨ leader.notifications.Served leader.receivers →
        next.notifications.Served next.receivers) := by
  cases moved with
  | profile action profiles admissible moved =>
    constructor
    · rintro (here | served)
      · cases here
        exact Publisher.served_publish moved
      · exact Publisher.served_step served moved
    · rintro (here | served)
      · cases here
      · exact served
  | notification action notifications admissible moved =>
    constructor
    · rintro (here | served)
      · cases here
      · exact served
    · rintro (here | served)
      · cases here
        exact Publisher.served_publish moved
      · exact Publisher.served_step served moved

theorem served_run (reached : run step leader actions = some final) :
    (.profile .publish ∈ actions ∨ leader.profiles.Served leader.receivers →
        final.profiles.Served final.receivers) ∧
      (.notification .publish ∈ actions ∨ leader.notifications.Served leader.receivers →
        final.notifications.Served final.receivers) := by
  induction actions generalizing leader with
  | nil =>
    rw [← Option.some.inj reached]
    simp
  | cons action rest ih =>
    obtain ⟨next, taken, after⟩ := run_cons.mp reached
    obtain ⟨profiles, notifications⟩ := served_step (moved_step taken)
    obtain ⟨profilesLater, notificationsLater⟩ := ih after
    simp only [List.mem_cons, or_assoc]
    constructor
    · rintro (here | later | served)
      · exact profilesLater (Or.inr (profiles (Or.inl here.symm)))
      · exact profilesLater (Or.inl later)
      · exact profilesLater (Or.inr (profiles (Or.inr served)))
    · rintro (here | later | served)
      · exact notificationsLater (Or.inr (notifications (Or.inl here.symm)))
      · exact notificationsLater (Or.inl later)
      · exact notificationsLater (Or.inr (notifications (Or.inr served)))

end Runs

/-- Whatever a leader's clients call: once a manager was published and no call of it
is under way, the last that each other replica was sent is what the manager is. -/
theorem published_of_run (info : ReplicaInfo) (replicasVector : List (Nat × ReplicaInfo))
    (profileManager : ProfileManager) (notificationManager : NotificationManager)
    (profileNames : profileManager.Holds Terminated)
    (notificationNames : notificationManager.Holds Terminated fun _ => True)
    (actions : List LeaderAction) (final : Leader)
    (reached : run step (start info replicasVector profileManager notificationManager) actions =
      some final) (replica : Nat × ReplicaInfo) (member : replica ∈ replicasVector)
    (other : replica.2.NotEqual info) :
    (final.notifications.publication = .idle → .notification .publish ∈ actions →
        (final.notifications.receivedBy replica.1).getLast? =
          some final.notifications.state.serialize) ∧
      (final.profiles.publication = .idle → .profile .publish ∈ actions →
        ∃ shown, (final.profiles.receivedBy replica.1).getLast? = some shown.serialize ∧
          ProfileManager.Alike ProfileManager.SameFollowing shown final.profiles.state) := by
  obtain ⟨clean, upToDate, receivers⟩ := kept_run ⟨profileNames, notificationNames⟩
    (exact_start info replicasVector profileManager notificationManager)
    (upToDate_start info replicasVector profileManager notificationManager)
    (fun _ member => member) lasting_following reached
  obtain ⟨profilesServed, notificationsServed⟩ := served_run reached
  have known : replica.1 ∈
      (start info replicasVector profileManager notificationManager).receivers :=
    mem_receivers member other
  have receives : replica.1 ∈ final.receivers := receivers ▸ known
  constructor
  · intro idle published
    have served := notificationsServed (Or.inl published) replica.1 receives
    have current := upToDate.notifications
    rw [Publisher.due, idle] at served
    rw [Publisher.Current, idle] at current
    obtain ⟨payload, last⟩ := Option.isSome_iff_exists.mp
      (List.getLast?_isSome.mpr (served List.not_mem_nil))
    obtain ⟨shown, encoded, same⟩ := current replica.1 known payload last
    rw [last, encoded, same, notificationPayload, cString_of_free clean.notifications.nul_notMem]
  · intro idle published
    have served := profilesServed (Or.inl published) replica.1 receives
    have current := upToDate.profiles
    rw [Publisher.due, idle] at served
    rw [Publisher.Current, idle] at current
    obtain ⟨payload, last⟩ := Option.isSome_iff_exists.mp
      (List.getLast?_isSome.mpr (served List.not_mem_nil))
    obtain ⟨shown, encoded, alike, free⟩ := current replica.1 known payload last
    refine ⟨shown, ?_, alike⟩
    rw [last, encoded, profilePayload, cString_of_free free.nul_notMem]

/-- A client logs in and out again; the two managers are published at once. -/
def clientServed : List LeaderAction := [
  .notification (.operate (.subscribe ['b'] 7 0)), .notification .publish,
  .profile (.operate (.startSession ['b'] ⟨7, ['b']⟩)), .notification .send, .profile .publish,
  .profile .send, .notification .send, .profile .send, .profile .send, .notification .send,
  .profile (.operate (.closeSession ['b'] 7))]

theorem published_of_clientServed :
    ∃ final, run step (start ⟨-1, ['h'], 1⟩ [(0, ⟨0, ['h'], 2⟩), (1, ⟨1, ['h'], 3⟩)] {} {})
        clientServed = some final ∧
      (final.notifications.receivedBy 1).getLast? = some final.notifications.state.serialize ∧
      ∃ shown, (final.profiles.receivedBy 1).getLast? = some shown.serialize ∧
        ProfileManager.Alike ProfileManager.SameFollowing shown final.profiles.state := by
  have noUsers : ({} : ProfileManager).Holds Terminated := by
    intro name user found
    cases found
  have shown := published_of_run ⟨-1, ['h'], 1⟩ [(0, ⟨0, ['h'], 2⟩), (1, ⟨1, ['h'], 3⟩)] {} {}
    noUsers NotificationManager.holds_empty clientServed _ rfl (1, ⟨1, ['h'], 3⟩) (by simp)
    (by decide)
  exact ⟨_, rfl, shown.1 rfl (by simp [clientServed]), shown.2 rfl (by simp [clientServed])⟩

end Leader

end TwitterClone
