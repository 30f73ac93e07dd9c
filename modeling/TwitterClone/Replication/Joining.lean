import TwitterClone.Replication.Publication

/-! A backup joins while the leader serves clients. The handshake holds no mutex of
the managers, so calls of clients fall between its steps. -/
namespace TwitterClone

open Foundation

/-- How far `answerStartHandshake` has got, with the managers as it serialized them. -/
inductive Handshake where
  | greeted
  | welcomed
  | profileSerialized (profiles : ProfileManager)
  | profileSent (profiles : ProfileManager)
  | notificationSerialized (profiles : ProfileManager) (notifications : NotificationManager)
  | notificationSent (profiles : ProfileManager) (notifications : NotificationManager)
  | ended

/-- A leader, and the connection of a backup that it answers. It is undefined what happens
once the vector was changed while a publication was going through it. -/
structure Joining where
  leader : Leader
  connection : Nat
  newReplica : ReplicaInfo
  handshake : Handshake := .greeted
  replicasSent : List Text := []
  undefined : Bool := false

inductive JoiningAction where
  | leader (action : LeaderAction)
  | handshake

namespace Joining

/-- The payload of REPLICAS: the new id, and the infos of the replicas there are. -/
def statePayload (newReplica : ReplicaInfo) (replicasInfo : List ReplicaInfo) : Text :=
  cString (showInt newReplica.id ++ newline ::
    joinStrings [newline] (replicasInfo.map ReplicaInfo.serialize))

def sendState (joining : Joining) : Joining :=
  let replicasInfo := joining.leader.replicasVector.map Prod.snd
  let newReplica := { joining.newReplica with id := int32 replicasInfo.length }
  { joining with
    newReplica
    handshake := .welcomed
    replicasSent := joining.replicasSent ++ [statePayload newReplica replicasInfo] }

/-- The connection joins those that later updates are sent to. No mutex keeps `push_back`
from the loops over the vector, which it may move. -/
def pushBack (joining : Joining) : Joining :=
  { joining with
    leader := { joining.leader with
      replicasVector := joining.leader.replicasVector ++ [(joining.connection, joining.newReplica)] }
    handshake := .ended
    undefined := joining.leader.profiles.sending || joining.leader.notifications.sending }

/-- The next statement of the handshake, for a leader and a valid replica. -/
def answerStartHandshake (joining : Joining) : Option Joining :=
  let leader := joining.leader
  match joining.handshake with
  | .greeted => some joining.sendState
  | .welcomed => some { joining with handshake := .profileSerialized leader.profiles.state }
  | .profileSerialized profiles => some { joining with
      leader := { leader with
        profiles := leader.profiles.post joining.connection (Leader.profilePayload profiles) }
      handshake := .profileSent profiles }
  | .profileSent profiles =>
    some { joining with handshake := .notificationSerialized profiles leader.notifications.state }
  | .notificationSerialized profiles notifications => some { joining with
      leader := { leader with
        notifications := leader.notifications.post joining.connection
          (Leader.notificationPayload notifications) }
      handshake := .notificationSent profiles notifications }
  | .notificationSent _ _ => some joining.pushBack
  | .ended => none

def step (joining : Joining) : JoiningAction → Option Joining
  | .leader action => (joining.leader.step action).map fun leader => { joining with leader }
  | .handshake => joining.answerStartHandshake

/-- The last payloads that the backup was sent encode the managers of the leader, if
no call that changes them is under way. -/
structure CaughtUp (same : User → User → Prop) (joining : Joining) : Prop where
  defined : joining.undefined = false
  profiles : joining.handshake = .ended → joining.leader.profiles.publication = .idle →
    ∃ shown, (joining.leader.profiles.receivedBy joining.connection).getLast? =
        some shown.serialize ∧
      ProfileManager.Alike same shown joining.leader.profiles.state
  notifications : joining.handshake = .ended → joining.leader.notifications.publication = .idle →
    (joining.leader.notifications.receivedBy joining.connection).getLast? =
      some joining.leader.notifications.state.serialize

/-- A manager is as it was serialized, or its change will be published to all that
are in the vector by then. -/
def Unchanged {State : Type} (same : State → State → Prop) (taken : State)
    (publisher : Publisher State Nat Text) : Prop :=
  (∃ update, publisher.publication = .changed update) ∨ same taken publisher.state

/-- The backup is pushed into the vector only when no publication is going through it and
nothing has passed the backup by. -/
def PushedInTime (same : User → User → Prop) (joining : Joining) : JoiningAction → Prop
  | .leader _ => True
  | .handshake =>
    match joining.handshake with
    | .notificationSent profiles notifications =>
      (joining.leader.profiles.sending = false ∧ joining.leader.notifications.sending = false) ∧
        Unchanged (ProfileManager.Alike same) profiles joining.leader.profiles ∧
        Unchanged (fun taken manager => taken.serialize = manager.serialize) notifications
          joining.leader.notifications
    | _ => True

/-- After the handshake no refused follow changes the order of followers. -/
def LeavesOrder (joining : Joining) : JoiningAction → Prop
  | .leader (.profile (.operate operation)) =>
    joining.handshake = .ended → joining.leader.profiles.state.LeavesOrder operation
  | _ => True

def start (leader : Leader) (connection : Nat) (newReplica : ReplicaInfo) : Joining :=
  { leader, connection, newReplica }

/-- What has been put on the connection before it is pushed into the vector. -/
def Handed (joining : Joining) : Prop :=
  match joining.handshake with
  | .greeted | .welcomed | .ended => True
  | .profileSerialized profiles => profiles.Holds Terminated
  | .profileSent profiles | .notificationSerialized profiles _ =>
    profiles.Holds Terminated ∧
      (joining.leader.profiles.receivedBy joining.connection).getLast? =
        some (Leader.profilePayload profiles)
  | .notificationSent profiles notifications =>
    (profiles.Holds Terminated ∧
      (joining.leader.profiles.receivedBy joining.connection).getLast? =
        some (Leader.profilePayload profiles)) ∧
      (joining.leader.notifications.receivedBy joining.connection).getLast? =
        some (Leader.notificationPayload notifications)

/-- Before the push no publication knows of the connection. -/
structure Awaiting (joining : Joining) : Prop where
  absent : joining.connection ∉ joining.leader.receivers
  profiles : joining.connection ∉ joining.leader.profiles.due
  notifications : joining.connection ∉ joining.leader.notifications.due
  handed : joining.Handed

/-- After the push the publications keep the backup up to date. -/
structure Joined (same : User → User → Prop) (joining : Joining) : Prop where
  receives : joining.connection ∈ joining.leader.receivers
  profiles : joining.leader.profiles.receivedBy joining.connection ≠ []
  notifications : joining.leader.notifications.receivedBy joining.connection ≠ []
  upToDate : joining.leader.UpToDate same [joining.connection]

structure Sound (same : User → User → Prop) (joining : Joining) : Prop where
  clean : joining.leader.Clean
  exact : joining.leader.Exact
  other : joining.newReplica.NotEqual joining.leader.info
  defined : joining.undefined = false
  awaiting : joining.handshake ≠ .ended → joining.Awaiting
  joined : joining.handshake = .ended → joining.Joined same

section Steps

variable {same : User → User → Prop} {joining next : Joining}

theorem Awaiting.step (awaiting : joining.Awaiting) {action : LeaderAction} {leader : Leader}
    (moved : Leader.Moved joining.leader action leader) :
    ({ joining with leader } : Joining).Awaiting := by
  have receivers := Leader.receivers_step moved
  cases moved with
  | profile action profiles admissible moved =>
    obtain ⟨received, due⟩ := Publisher.receivedBy_step awaiting.absent awaiting.profiles moved
    refine ⟨receivers ▸ awaiting.absent, due, awaiting.notifications, ?_⟩
    have handed := awaiting.handed
    unfold Handed at handed ⊢
    dsimp only
    rw [received]
    exact handed
  | notification action notifications admissible moved =>
    obtain ⟨received, due⟩ :=
      Publisher.receivedBy_step awaiting.absent awaiting.notifications moved
    refine ⟨receivers ▸ awaiting.absent, awaiting.profiles, due, ?_⟩
    have handed := awaiting.handed
    unfold Handed at handed ⊢
    dsimp only
    rw [received]
    exact handed

theorem Joined.step (joined : joining.Joined same) (clean : joining.leader.Clean)
    (exact : joining.leader.Exact) {action : LeaderAction} {leader : Leader}
    (lasting : Leader.Lasting same joining.leader action)
    (moved : Leader.Moved joining.leader action leader) :
    ({ joining with leader } : Joining).Joined same := by
  have receivers := Leader.receivers_step moved
  have within : ∀ connection ∈ [joining.connection], connection ∈ joining.leader.receivers := by
    intro connection member
    exact List.mem_singleton.mp member ▸ joined.receives
  have upToDate := joined.upToDate.step clean exact within lasting moved
  refine ⟨receivers ▸ joined.receives, ?_, ?_, upToDate⟩
  · cases moved with
    | profile action profiles admissible moved => exact Publisher.received_step joined.profiles moved
    | notification action notifications admissible moved => exact joined.profiles
  · cases moved with
    | profile action profiles admissible moved => exact joined.notifications
    | notification action notifications admissible moved =>
      exact Publisher.received_step joined.notifications moved

/-- What the pushed backup was sent for a manager that did not pass it by. -/
theorem current_of_unchanged {State : Type} {encode : State → Text} {Same : State → State → Prop}
    {publisher : Publisher State Nat Text} {connection : Nat} {taken : State}
    (unchanged : Unchanged Same taken publisher)
    (last : (publisher.receivedBy connection).getLast? = some (encode taken)) :
    publisher.Current encode Same [connection] := by
  have shows : Same taken publisher.state → publisher.Shows encode Same connection := by
    intro same payload sent
    rw [last] at sent
    exact ⟨taken, (Option.some.inj sent).symm, same⟩
  unfold Publisher.Current
  rcases unchanged with ⟨update, changed⟩ | same
  · rw [changed]
    trivial
  · split
    next =>
      intro receiver member
      exact List.mem_singleton.mp member ▸ shows same
    next => trivial
    next =>
      intro receiver member _
      exact List.mem_singleton.mp member ▸ shows same

theorem Sound.pushBack (sound : joining.Sound same) {profiles : ProfileManager}
    {notifications : NotificationManager}
    (stage : joining.handshake = .notificationSent profiles notifications)
    (inTime : joining.PushedInTime same .handshake) : joining.pushBack.Sound same := by
  have awaiting := sound.awaiting (by simp [stage])
  have handed := awaiting.handed
  rw [Handed, stage] at handed
  obtain ⟨⟨free, profilesLast⟩, notificationsLast⟩ := handed
  rw [PushedInTime, stage] at inTime
  obtain ⟨⟨profilesRest, notificationsRest⟩, profilesKept, notificationsKept⟩ := inTime
  have shown : Unchanged (Leader.Shown same) profiles joining.leader.profiles := by
    rcases profilesKept with changed | alike
    · exact Or.inl changed
    · exact Or.inr ⟨alike, free⟩
  have current : joining.leader.notifications.Current Leader.notificationPayload Eq
      [joining.connection] := by
    rcases notificationsKept with changed | alike
    · exact current_of_unchanged (Or.inl changed) notificationsLast
    · rw [Leader.notificationPayload, alike] at notificationsLast
      exact current_of_unchanged (Or.inr rfl) notificationsLast
  refine ⟨⟨sound.clean.profiles, sound.clean.notifications⟩,
    ⟨sound.exact.profiles, sound.exact.notifications⟩, sound.other, ?_,
    fun running => absurd rfl running, fun _ => ?_⟩
  · simp only [Joining.pushBack, profilesRest, notificationsRest, Bool.or_false]
  constructor
  · refine @Leader.mem_receivers _ (joining.connection, joining.newReplica) ?_ sound.other
    exact List.mem_append_right _ (List.mem_singleton_self _)
  · intro nothing
    rw [show joining.leader.profiles.receivedBy joining.connection = [] from nothing] at profilesLast
    cases profilesLast
  · intro nothing
    rw [show joining.leader.notifications.receivedBy joining.connection = [] from nothing]
      at notificationsLast
    cases notificationsLast
  · exact ⟨current_of_unchanged shown profilesLast, current⟩

theorem Sound.handshake (sound : joining.Sound same)
    (inTime : joining.PushedInTime same .handshake)
    (taken : joining.answerStartHandshake = some next) : next.Sound same := by
  have awaiting := sound.awaiting
  unfold answerStartHandshake at taken
  cases stage : joining.handshake with
  | greeted =>
    rw [stage] at taken awaiting
    rw [← Option.some.inj taken]
    obtain ⟨absent, profiles, notifications, -⟩ := awaiting (by simp)
    exact ⟨sound.clean, sound.exact, sound.other, sound.defined,
      fun _ => ⟨absent, profiles, notifications, trivial⟩, fun ended => by cases ended⟩
  | welcomed =>
    rw [stage] at taken awaiting
    rw [← Option.some.inj taken]
    obtain ⟨absent, profiles, notifications, -⟩ := awaiting (by simp)
    exact ⟨sound.clean, sound.exact, sound.other, sound.defined,
      fun _ => ⟨absent, profiles, notifications, sound.clean.profiles⟩,
      fun ended => by cases ended⟩
  | profileSerialized serialized =>
    rw [stage] at taken awaiting
    rw [← Option.some.inj taken]
    obtain ⟨absent, profiles, notifications, handed⟩ := awaiting (by simp)
    rw [Handed, stage] at handed
    refine ⟨⟨sound.clean.profiles, sound.clean.notifications⟩,
      ⟨sound.exact.profiles, sound.exact.notifications⟩, sound.other, sound.defined,
      fun _ => ⟨absent, profiles, notifications, handed, ?_⟩, fun ended => by cases ended⟩
    rw [Publisher.receivedBy_post, if_pos rfl, List.getLast?_concat]
  | profileSent serialized =>
    rw [stage] at taken awaiting
    rw [← Option.some.inj taken]
    obtain ⟨absent, profiles, notifications, handed⟩ := awaiting (by simp)
    rw [Handed, stage] at handed
    exact ⟨sound.clean, sound.exact, sound.other, sound.defined,
      fun _ => ⟨absent, profiles, notifications, handed⟩, fun ended => by cases ended⟩
  | notificationSerialized serialized other =>
    rw [stage] at taken awaiting
    rw [← Option.some.inj taken]
    obtain ⟨absent, profiles, notifications, handed⟩ := awaiting (by simp)
    rw [Handed, stage] at handed
    refine ⟨⟨sound.clean.profiles, sound.clean.notifications⟩,
      ⟨sound.exact.profiles, sound.exact.notifications⟩, sound.other, sound.defined,
      fun _ => ⟨absent, profiles, notifications, handed, ?_⟩, fun ended => by cases ended⟩
    rw [Publisher.receivedBy_post, if_pos rfl, List.getLast?_concat]
  | notificationSent serialized other =>
    rw [stage] at taken
    exact Option.some.inj taken ▸ sound.pushBack stage inTime
  | ended =>
    rw [stage] at taken
    cases taken

/-- What a step has to keep to, for the backup to be shown the users up to a relation. -/
theorem Sound.step (sound : joining.Sound same) {action : JoiningAction}
    (inTime : joining.PushedInTime same action)
    (lasting : ∀ inner, action = .leader inner → joining.handshake = .ended →
      Leader.Lasting same joining.leader inner)
    (taken : joining.step action = some next) : next.Sound same := by
  cases action with
  | leader inner =>
    obtain ⟨leader, served, whole⟩ := Option.map_eq_some_iff.mp taken
    subst whole
    have moved := Leader.moved_step served
    refine ⟨sound.clean.step moved, sound.exact.step moved, ?_, sound.defined, ?_, ?_⟩
    · have info : leader.info = joining.leader.info := by
        cases moved with
        | profile action profiles admissible moved => rfl
        | notification action notifications admissible moved => rfl
      exact info ▸ sound.other
    · exact fun running => (sound.awaiting running).step moved
    · exact fun ended => (sound.joined ended).step sound.clean sound.exact
        (lasting inner rfl ended) moved
  | handshake => exact sound.handshake inTime taken

theorem Sound.caughtUp (sound : joining.Sound same) : joining.CaughtUp same := by
  refine ⟨sound.defined, ?_, ?_⟩
  · intro ended idle
    have joined := sound.joined ended
    have current := joined.upToDate.profiles
    rw [Publisher.Current, idle] at current
    obtain ⟨payload, last⟩ := Option.isSome_iff_exists.mp
      (List.getLast?_isSome.mpr joined.profiles)
    obtain ⟨shown, encoded, alike, free⟩ := current _ (List.mem_singleton_self _) payload last
    refine ⟨shown, ?_, alike⟩
    rw [last, encoded, Leader.profilePayload, cString_of_free free.nul_notMem]
  · intro ended idle
    have joined := sound.joined ended
    have current := joined.upToDate.notifications
    rw [Publisher.Current, idle] at current
    obtain ⟨payload, last⟩ := Option.isSome_iff_exists.mp
      (List.getLast?_isSome.mpr joined.notifications)
    obtain ⟨shown, encoded, same⟩ := current _ (List.mem_singleton_self _) payload last
    rw [last, encoded, same, Leader.notificationPayload,
      cString_of_free sound.clean.notifications.nul_notMem]

theorem sound_start (leader : Leader) (clean : leader.Clean) (exact : leader.Exact)
    (connection : Nat) (newReplica : ReplicaInfo) (other : newReplica.NotEqual leader.info)
    (fresh : ∀ replica ∈ leader.replicasVector, replica.1 ≠ connection)
    (profiles : connection ∉ leader.profiles.due)
    (notifications : connection ∉ leader.notifications.due) :
    (start leader connection newReplica).Sound same := by
  refine ⟨clean, exact, other, rfl, fun _ => ⟨?_, profiles, notifications, trivial⟩,
    fun ended => by cases ended⟩
  intro member
  obtain ⟨replica, inside, same⟩ := List.mem_map.mp member
  exact fresh replica (List.mem_filter.mp inside).1 same

/-- The conditions under which the followers are shown in the order they are kept in. -/
def InTimeAndOrder (joining : Joining) (action : JoiningAction) : Prop :=
  joining.PushedInTime ProfileManager.SameAccount action ∧ joining.LeavesOrder action

theorem Sound.inTime {action : JoiningAction}
    (sound : joining.Sound ProfileManager.SameFollowing)
    (inTime : joining.PushedInTime ProfileManager.SameFollowing action)
    (taken : joining.step action = some next) : next.Sound ProfileManager.SameFollowing :=
  sound.step inTime (fun inner _ _ => Leader.lasting_following joining.leader inner) taken

theorem Sound.inOrder {action : JoiningAction} (sound : joining.Sound ProfileManager.SameAccount)
    (condition : joining.InTimeAndOrder action)
    (taken : joining.step action = some next) : next.Sound ProfileManager.SameAccount := by
  refine sound.step condition.1 ?_ taken
  intro inner same ended
  refine ⟨ProfileManager.SameAccount.refl, ProfileManager.SameAccount.trans, ?_⟩
  intro operation operates quiet
  subst same operates
  exact ProfileManager.account_of_silent (condition.2 ended) quiet

end Steps

/-- A backup that joins misses no update, if whatever changed since its snapshots were
taken is published after it is pushed into the vector, and no publication is going through
the vector at the push. -/
theorem caughtUp_of_run (info : ReplicaInfo) (replicasVector : List (Nat × ReplicaInfo))
    (profileManager : ProfileManager) (notificationManager : NotificationManager)
    (profileNames : profileManager.Holds Terminated)
    (notificationNames : notificationManager.Holds Terminated fun _ => True)
    (connection : Nat) (newReplica : ReplicaInfo) (other : newReplica.NotEqual info)
    (fresh : ∀ replica ∈ replicasVector, replica.1 ≠ connection) (actions : List JoiningAction)
    (final : Joining)
    (reached : run step (start (Leader.start info replicasVector profileManager
      notificationManager) connection newReplica) actions = some final) :
    (AllMeet step (PushedInTime ProfileManager.SameFollowing) (start (Leader.start info
        replicasVector profileManager notificationManager) connection newReplica) actions →
      final.CaughtUp ProfileManager.SameFollowing) ∧
    (AllMeet step InTimeAndOrder (start (Leader.start info replicasVector profileManager
        notificationManager) connection newReplica) actions →
      final.CaughtUp ProfileManager.SameAccount) := by
  have sound : ∀ same, (start (Leader.start info replicasVector profileManager
      notificationManager) connection newReplica).Sound same := fun same =>
    sound_start _ ⟨profileNames, notificationNames⟩ (Leader.exact_start ..) connection newReplica
      other fresh List.not_mem_nil List.not_mem_nil
  constructor
  · intro meets
    exact (run_preserves (fun _ _ _ sound inTime taken => Sound.inTime sound inTime taken)
      (sound _) meets reached).caughtUp
  · intro meets
    exact (run_preserves (fun _ _ _ sound condition taken => Sound.inOrder sound condition taken)
      (sound _) meets reached).caughtUp

/-- The leader of an empty store answers its first backup. -/
def firstBackup : Joining := start (Leader.start ⟨-1, ['h'], 1⟩ [] {} {}) 0 ⟨-1, ['h'], 2⟩

/-- All of the handshake but the push. -/
def snapshotsSent : List JoiningAction :=
  [.handshake, .handshake, .handshake, .handshake, .handshake]

def subscribes : JoiningAction := .leader (.notification (.operate (.subscribe ['b'] 7 0)))

def publishes : JoiningAction := .leader (.notification .publish)

def sends : JoiningAction := .leader (.notification .send)

/-- The change is made before the push and published after it. -/
def publishedLater : List JoiningAction :=
  snapshotsSent ++ [subscribes, .handshake, publishes, sends, sends]

theorem caughtUp_of_publishedLater :
    ∃ final, run step firstBackup publishedLater = some final ∧
      final.CaughtUp ProfileManager.SameFollowing ∧ final.CaughtUp ProfileManager.SameAccount := by
  have noUsers : ({} : ProfileManager).Holds Terminated := by
    intro name user found
    cases found
  have caughtUp := caughtUp_of_run ⟨-1, ['h'], 1⟩ [] {} {} noUsers
    NotificationManager.holds_empty 0 ⟨-1, ['h'], 2⟩ (by decide) (by simp) publishedLater _ rfl
  have inTime : ∀ same : User → User → Prop, (∀ user, same user user) →
      AllMeet step (PushedInTime same) firstBackup publishedLater := fun same refl =>
    .cons rfl trivial <| .cons rfl trivial <| .cons rfl trivial <| .cons rfl trivial <|
      .cons rfl trivial <| .cons rfl trivial <|
      .cons rfl ⟨⟨rfl, rfl⟩, Or.inr (.refl _ refl), Or.inl ⟨_, rfl⟩⟩ <| .cons rfl trivial <|
      .cons rfl trivial <| .cons rfl trivial trivial
  have inOrder : AllMeet step LeavesOrder firstBackup publishedLater :=
    .cons rfl trivial <| .cons rfl trivial <| .cons rfl trivial <| .cons rfl trivial <|
      .cons rfl trivial <| .cons rfl trivial <| .cons rfl trivial <| .cons rfl trivial <|
      .cons rfl trivial <| .cons rfl trivial trivial
  exact ⟨_, rfl,
    caughtUp.1 (inTime _ fun user => (ProfileManager.SameAccount.refl user).following),
    caughtUp.2 ((inTime _ ProfileManager.SameAccount.refl).and inOrder)⟩

/-- The change is made and published between the snapshots and the push. -/
theorem not_caughtUp_of_passedBy :
    ∃ final, run step firstBackup (snapshotsSent ++ [subscribes, publishes, sends, .handshake]) =
      some final ∧ ∀ same : User → User → Prop, ¬ final.CaughtUp same := by
  refine ⟨_, rfl, ?_⟩
  intro same caughtUp
  have last := caughtUp.notifications rfl rfl
  revert last
  decide +kernel

end Joining

end TwitterClone
