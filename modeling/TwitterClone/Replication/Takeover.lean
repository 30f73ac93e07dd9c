import TwitterClone.Profile.StateTransfer
import TwitterClone.Replication.Cluster

/-! What a backup is worth when the leader is gone. Whoever of them takes over has the state
of one of the leader's publications: the last, if none was in progress. -/
namespace TwitterClone

open Foundation

namespace ProfileManager

/-- The text that is sent says all that a replica is to know, and the replica's stack has
room for the packet. -/
structure Carried (stack : Nat) (manager : ProfileManager) : Prop where
  terminated : nul ∉ manager.serialize
  plain : manager.Plain
  sendable : manager.Sendable
  room : Packet.PayloadFits stack manager.serialize

instance decidablePlainUser (name : Text) (user : User) : Decidable (PlainUser name user) :=
  decidable_of_iff (user.username = name ∧ PlainName name ∧
      (∀ follower ∈ user.followers, PlainName follower) ∧
      (∀ session ∈ user.sessions, PlainName session.username) ∧ IsInt user.id)
    ⟨fun ⟨named, plain, followers, sessions, id⟩ => ⟨named, plain, followers, sessions, id⟩,
      fun user => ⟨user.named, user.plain, user.followers, user.sessions, user.id⟩⟩

theorem carried_iff {stack : Nat} {manager : ProfileManager} :
    manager.Carried stack ↔ (nul ∉ manager.serialize ∧
      Packet.PayloadFits stack manager.serialize) ∧ ∀ entry ∈ manager.users.entries,
        PlainUser entry.1 entry.2 ∧ entry.2.isValid = true ∧ ShortList entry.2 := by
  constructor
  · intro carried
    refine ⟨⟨carried.terminated, carried.room⟩, fun entry member => ?_⟩
    have found := UnorderedMap.lookup_eq_some.mpr member
    exact ⟨carried.plain entry.1 entry.2 found, carried.sendable entry.1 entry.2 found⟩
  · rintro ⟨⟨terminated, room⟩, each⟩
    have stored := fun name user (found : manager.users.lookup name = some user) =>
      each (name, user) (UnorderedMap.lookup_eq_some.mp found)
    exact ⟨terminated, fun name user found => (stored name user found).1,
      fun name user found => (stored name user found).2, room⟩

instance decidableCarried (stack : Nat) (manager : ProfileManager) :
    Decidable (manager.Carried stack) :=
  decidable_of_iff _ carried_iff.symm

/-- What is read back are the same users, without their sessions. -/
theorem Carried.copy {stack : Nat} {manager : ProfileManager} (carried : manager.Carried stack) :
    ∃ copy, deserialize (Leader.profilePayload manager) = .ok copy ∧
      Alike SameAccount copy manager := by
  have each := (carried_iff.mp carried).2
  obtain ⟨users, result, shape⟩ := readUserLines_lines manager.users.entries
    (fun entry member => (each entry member).1) (fun entry member => (each entry member).2.2)
    manager.users.distinct ∅ (by simp)
  have everyone : survivors manager.users.entries =
      manager.users.entries.map fun entry => (entry.1, withoutSessions entry.2) := by
    rw [survivors, List.filter_eq_self.mpr fun entry member => (each entry member).2.1]
  rw [UnorderedMap.entries_empty, List.nil_append, everyone] at shape
  have lookup := UnorderedMap.lookup_map withoutSessions shape
  refine ⟨{ users }, ?_, ?_, ?_⟩
  · rw [Leader.profilePayload, cString_of_free carried.terminated,
      deserialize_serialize carried.plain, result]
  · intro name
    rw [← UnorderedMap.lookup_isSome, ← UnorderedMap.lookup_isSome, lookup, Option.isSome_map]
  · intro name shown user copied found
    rw [lookup, found] at copied
    obtain rfl := Option.some.inj copied
    exact ⟨rfl, rfl, rfl⟩

end ProfileManager

namespace NotificationManager

theorem Carried.copy {stack : Nat} {manager : NotificationManager}
    (carried : manager.Carried stack) :
    ∃ copy, deserialize stack (Leader.notificationPayload manager) = .ok copy ∧
      SameState copy manager := by
  obtain ⟨copy, decoded, nextId, notifications, queues⟩ :=
    copy_of_readable carried.readable carried.fits
  refine ⟨copy, ?_, sameState_of_entries nextId notifications queues⟩
  rw [Leader.notificationPayload, cString_of_free carried.terminated, decoded]

end NotificationManager

section Copying

variable {State Payload : Type} {decode : Payload → Except Fault State}
  {encode : State → Payload} {Same : State → State → Prop} {initial first copy : State}
  {read : List State}

/-- Where all that was read can be decoded, the copy shows the last of it. -/
theorem Copied.shows (copied : Copied decode encode initial read copy)
    (carried : ∀ published ∈ read, ∃ copy, decode (encode published) = .ok copy ∧
      Same copy published) (begins : Same initial first) : Same copy (read.getLastD first) := by
  rw [Copied] at copied
  rw [List.getLastD_eq_getLast?]
  cases last : read.getLast? with
  | none =>
    rw [last] at copied
    exact copied ▸ begins
  | some published =>
    rw [last] at copied
    obtain ⟨decoded, result, same⟩ := carried published (List.mem_of_getLast? last)
    have equal : decoded = copy := Except.ok.inj (result.symm.trans copied)
    exact equal ▸ same

end Copying

namespace Cluster

/-- What a step begins to publish of the users. -/
def publishedProfiles (cluster : Cluster) : ClusterAction → List ProfileManager
  | .lead (.profile action) => cluster.leader.profiles.published action
  | .lead (.notification _) | .handle _ _ _ => []

def publishedNotifications (cluster : Cluster) : ClusterAction → List NotificationManager
  | .lead (.notification action) => cluster.leader.notifications.published action
  | .lead (.profile _) | .handle _ _ _ => []

/-- Whatever is published, its encoding carries it. -/
structure Carries (stack : Nat) (cluster : Cluster) (action : ClusterAction) : Prop where
  profiles : ∀ update ∈ cluster.publishedProfiles action, update.Carried stack
  notifications : ∀ update ∈ cluster.publishedNotifications action, update.Carried stack

instance decidableCarries (stack : Nat) (cluster : Cluster) (action : ClusterAction) :
    Decidable (cluster.Carries stack action) :=
  decidable_of_iff ((∀ update ∈ cluster.publishedProfiles action, update.Carried stack) ∧
      ∀ update ∈ cluster.publishedNotifications action, update.Carried stack)
    ⟨fun ⟨profiles, notifications⟩ => ⟨profiles, notifications⟩,
      fun carries => ⟨carries.profiles, carries.notifications⟩⟩

/-- The last entries of the logs are what the leader has or is publishing, and all of them
can be read. -/
structure Lists (stack : Nat) (profileManager : ProfileManager)
    (notificationManager : NotificationManager) (cluster : Cluster) (logs : UpdateLogs) : Prop where
  latestProfiles : cluster.leader.profiles.Latest
    (ProfileManager.Alike ProfileManager.SameFollowing) profileManager logs.profiles.entries
  latestNotifications :
    cluster.leader.notifications.Latest Eq notificationManager logs.notifications.entries
  profiles : ∀ published ∈ logs.profiles.entries, published.Carried stack
  notifications : ∀ published ∈ logs.notifications.entries, published.Carried stack

section Steps

variable {stack : Nat} {cluster next : Cluster} {logs later : UpdateLogs} {action : ClusterAction}
  {profileManager : ProfileManager} {notificationManager : NotificationManager}

theorem entries_logged (described : run UpdateLogs.step logs (cluster.logged action) = some later) :
    later.profiles.entries = logs.profiles.entries ++ cluster.publishedProfiles action ∧
      later.notifications.entries =
        logs.notifications.entries ++ cluster.publishedNotifications action := by
  cases action with
  | lead action =>
    cases action with
    | profile action =>
      rw [logged, UpdateLogs.run_profiles] at described
      obtain rfl := Option.some.inj described
      exact ⟨rfl, (List.append_nil _).symm⟩
    | notification action =>
      rw [logged, UpdateLogs.run_notifications] at described
      obtain rfl := Option.some.inj described
      exact ⟨(List.append_nil _).symm, rfl⟩
  | handle connection sequenceNumber sentAt =>
    have nothing : later.profiles.entries = logs.profiles.entries ∧
        later.notifications.entries = logs.notifications.entries := by
      rw [logged] at described
      split at described
      next =>
        obtain ⟨middle, advanced, reached⟩ := run_cons.mp described
        obtain rfl := Option.some.inj reached
        obtain ⟨profiles, moved, rfl⟩ := Option.map_eq_some_iff.mp advanced
        exact ⟨ReplicatedLog.entries_of_advance moved, rfl⟩
      next =>
        obtain ⟨middle, advanced, reached⟩ := run_cons.mp described
        obtain rfl := Option.some.inj reached
        obtain ⟨notifications, moved, rfl⟩ := Option.map_eq_some_iff.mp advanced
        exact ⟨rfl, ReplicatedLog.entries_of_advance moved⟩
      next =>
        obtain rfl := Option.some.inj described
        exact ⟨rfl, rfl⟩
    exact ⟨nothing.1.trans (List.append_nil _).symm, nothing.2.trans (List.append_nil _).symm⟩

/-- What a step of the leader leaves as its last entries. -/
theorem latest_lead (lists : cluster.Lists stack profileManager notificationManager logs)
    {action : LeaderAction} {leader : Leader} (moved : Leader.Moved cluster.leader action leader) :
    leader.profiles.Latest (ProfileManager.Alike ProfileManager.SameFollowing) profileManager
        (logs.profiles.entries ++ cluster.publishedProfiles (.lead action)) ∧
      leader.notifications.Latest Eq notificationManager
        (logs.notifications.entries ++ cluster.publishedNotifications (.lead action)) := by
  have following : ∀ user, ProfileManager.SameFollowing user user :=
    fun user => (ProfileManager.SameAccount.refl user).following
  cases moved with
  | profile action profiles admissible moved =>
    refine ⟨?_, (List.append_nil logs.notifications.entries).symm ▸ lists.latestNotifications⟩
    exact Publisher.latest_step
      (fun _ _ _ => ProfileManager.Alike.trans ProfileManager.SameFollowing.trans)
      (fun manager => .refl manager following) ProfileManager.operate_asks
      (fun _ _ quiet => ProfileManager.following_of_silent quiet) lists.latestProfiles moved
  | notification action notifications admissible moved =>
    refine ⟨(List.append_nil logs.profiles.entries).symm ▸ lists.latestProfiles, ?_⟩
    refine Publisher.latest_step (fun _ _ _ => Eq.trans) (fun _ => rfl) Leader.operate_asks ?_
      lists.latestNotifications moved
    intro operation operates quiet
    subst operates
    exact Leader.eq_of_silent admissible.1 quiet

theorem Lists.step (lists : cluster.Lists stack profileManager notificationManager logs)
    (carries : cluster.Carries stack action) (taken : cluster.step stack action = some next)
    (described : run UpdateLogs.step logs (cluster.logged action) = some later) :
    next.Lists stack profileManager notificationManager later := by
  obtain ⟨profiles, notifications⟩ := entries_logged described
  have latest : next.leader.profiles.Latest
        (ProfileManager.Alike ProfileManager.SameFollowing) profileManager later.profiles.entries ∧
      next.leader.notifications.Latest Eq notificationManager later.notifications.entries := by
    rw [profiles, notifications]
    cases action with
    | lead action =>
      obtain ⟨leader, led, rfl⟩ := Option.map_eq_some_iff.mp taken
      exact latest_lead lists (Leader.moved_step led)
    | handle connection sequenceNumber sentAt =>
      have same : next.leader = cluster.leader := by
        rw [Cluster.step] at taken
        split at taken
        next =>
          obtain ⟨-, moved⟩ := Option.ite_none_right_eq_some.mp taken
          exact Option.some.inj moved ▸ rfl
        next => cases taken
      rw [same, publishedProfiles, publishedNotifications, List.append_nil, List.append_nil]
      exact ⟨lists.latestProfiles, lists.latestNotifications⟩
  refine ⟨latest.1, latest.2, ?_, ?_⟩
  · rw [profiles]
    intro published member
    rcases List.mem_append.mp member with old | new
    · exact lists.profiles published old
    · exact carries.profiles published new
  · rw [notifications]
    intro published member
    rcases List.mem_append.mp member with old | new
    · exact lists.notifications published old
    · exact carries.notifications published new

end Steps

/-- The store before a second client logs in. -/
def oneUser : ProfileManager where
  users := (∅ : UnorderedMap Text User).emplace ['a'] { id := 1, username := ['a'] }

end Cluster

end TwitterClone
