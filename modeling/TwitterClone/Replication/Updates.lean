import TwitterClone.Foundation.Collect
import TwitterClone.Packet.Packet
import TwitterClone.Profile.Manager
import TwitterClone.Replication.Backup

/-! What a replica makes of the text of an update, whatever it is. The text is decoded into
a new manager, and that is taken over as it is. -/
namespace TwitterClone

open Foundation

namespace ProfileManager

def update (manager other : ProfileManager) : ProfileManager :=
  { manager with users := other.users }

/-- One turn of the loop over the lines. -/
def readUserLine (rawUser : Text) : Except Fault (Option (Text × User)) :=
  if 0 < rawUser.length then
    let (key, raw) := splitFirst rawUser [' ']
    match ({} : User).deserialize raw with
    | .error fault => .error fault
    | .ok user => .ok (if user.isValid then some (key, user) else none)
  else .ok none

/-- The line has a user under the key: six fields or more behind the first blank, with
numbers where `stoi` reads them, a positive id and a name. -/
def UserLine (line key : Text) (user : User) : Prop :=
  line ≠ [] ∧ (splitFirst line [' ']).1 = key ∧
    ∃ id followersSize followers sessionsSize sessions more count,
      split (splitFirst line [' ']).2 [' '] = id :: user.username :: followersSize :: followers ::
        sessionsSize :: sessions :: more ∧
      stoi id = .ok user.id ∧ stoi followersSize = .ok count ∧
      user.followers = (if 0 < count then split followers [','] else []) ∧
      user.sessions = [] ∧ 0 < user.id ∧ user.username ≠ []

/-- If the line has six fields, `stoi` reads the first and the third. -/
def Convertible (line : Text) : Prop :=
  ∀ id username followersSize followers sessionsSize sessions more,
    split (splitFirst line [' ']).2 [' '] = id :: username :: followersSize :: followers ::
      sessionsSize :: sessions :: more →
    (∃ number, stoi id = .ok number) ∧ ∃ count, stoi followersSize = .ok count

/-- The text tells of each user what the map has, and of nobody else. -/
structure EchoesUsers (payload : Text) (users : UnorderedMap Text User) : Prop where
  convertible : ∀ line ∈ split payload [newline], Convertible line
  same : ∀ name user, users.lookup name = some user ↔
    FirstAt UserLine (split payload [newline]) name user

theorem readUserLines_eq (users : UnorderedMap Text User) (lines : List Text) :
    readUserLines users lines = collect readUserLine users lines := by
  induction lines generalizing users with
  | nil => rfl
  | cons line rest ih =>
    rw [readUserLines, collect, readUserLine]
    split
    next =>
      dsimp only
      cases ({} : User).deserialize (splitFirst line [' ']).2 with
      | error fault => rfl
      | ok user =>
        dsimp only
        split
        next => exact ih _
        next => exact ih users
    next => exact ih users

/-- A user is read from six fields, and from fewer the default one. -/
theorem deserialize_fields (raw : Text) :
    (∃ id username followersSize followers sessionsSize sessions more,
      split raw [' '] = id :: username :: followersSize :: followers ::
        sessionsSize :: sessions :: more) ∨
      ({} : User).deserialize raw = .ok {} ∧
        ∀ id username followersSize followers sessionsSize sessions more,
          split raw [' '] ≠ id :: username :: followersSize :: followers ::
            sessionsSize :: sessions :: more := by
  unfold User.deserialize
  split
  next id username followersSize followers sessionsSize sessions more fields =>
    exact Or.inl ⟨id, username, followersSize, followers, sessionsSize, sessions, more, fields⟩
  next short => exact Or.inr ⟨rfl, short⟩

/-- What the loop makes of six fields. -/
theorem readUserLine_fields {line id username followersSize followers sessionsSize sessions : Text}
    {more : List Text} (nonempty : line ≠ [])
    (fields : split (splitFirst line [' ']).2 [' '] = id :: username :: followersSize ::
      followers :: sessionsSize :: sessions :: more) :
    readUserLine line =
      match stoi id with
      | .error fault => .error fault
      | .ok id =>
        match stoi followersSize with
        | .error fault => .error fault
        | .ok count => .ok (if 0 < id ∧ username ≠ [] then
            some ((splitFirst line [' ']).1, {
              id, username
              followers := if 0 < count then split followers [','] else [] })
          else none) := by
  rw [readUserLine, if_pos (List.length_pos_iff.mpr nonempty)]
  dsimp only
  rw [User.deserialize, fields]
  dsimp only
  cases stoi id with
  | error fault => rfl
  | ok id =>
    cases stoi followersSize with
    | error fault => rfl
    | ok count => simp [User.isValid, List.length_pos_iff]

/-- The default user has no name, so it is dropped. -/
theorem readUserLine_short {line : Text}
    (short : ({} : User).deserialize (splitFirst line [' ']).2 = .ok {}) :
    readUserLine line = .ok none := by
  rw [readUserLine]
  split
  next =>
    dsimp only
    rw [short]
    rfl
  next => rfl

theorem readUserLine_eq_ok {line : Text} :
    (∃ entry, readUserLine line = .ok entry) ↔ Convertible line := by
  by_cases empty : line = []
  · subst empty
    refine iff_of_true ⟨none, rfl⟩ ?_
    intro id username followersSize followers sessionsSize sessions more fields
    cases fields
  · rcases deserialize_fields (splitFirst line [' ']).2 with
      ⟨id, username, followersSize, followers, sessionsSize, sessions, more, fields⟩ | ⟨short, none⟩
    · rw [readUserLine_fields empty fields]
      constructor
      · rintro ⟨entry, result⟩ otherId otherName otherSize others _ _ _ otherFields
        cases fields.symm.trans otherFields
        cases first : stoi id with
        | error fault =>
          rw [first] at result
          cases result
        | ok number =>
          rw [first] at result
          cases second : stoi followersSize with
          | error fault =>
            rw [second] at result
            cases result
          | ok count => exact ⟨⟨number, rfl⟩, count, rfl⟩
      · intro convertible
        obtain ⟨⟨number, first⟩, count, second⟩ := convertible _ _ _ _ _ _ _ fields
        rw [first, second]
        exact ⟨_, rfl⟩
    · refine iff_of_true ⟨_, readUserLine_short short⟩ ?_
      intro id username followersSize followers sessionsSize sessions more fields
      exact absurd fields (none _ _ _ _ _ _ _)

theorem readUserLine_eq_some {line key : Text} {user : User} :
    readUserLine line = .ok (some (key, user)) ↔ UserLine line key user := by
  constructor
  · intro result
    have nonempty : line ≠ [] := by
      rintro rfl
      cases result
    rcases deserialize_fields (splitFirst line [' ']).2 with
      ⟨id, username, followersSize, followers, sessionsSize, sessions, more, fields⟩ | ⟨short, none⟩
    · rw [readUserLine_fields nonempty fields] at result
      split at result
      next => cases result
      next number first =>
        split at result
        next => cases result
        next count second =>
          split at result
          next valid =>
            cases result
            exact ⟨nonempty, rfl, id, followersSize, followers, sessionsSize, sessions, more, count,
              fields, first, second, rfl, rfl, valid.1, valid.2⟩
          next => cases result
    · rw [readUserLine_short short] at result
      cases result
  · rintro ⟨nonempty, head, id, followersSize, followers, sessionsSize, sessions, more, count,
      fields, first, second, members, nobody, positive, named⟩
    rw [readUserLine_fields nonempty fields, first, second]
    dsimp only
    rw [if_pos ⟨positive, named⟩, head, ← members, ← nobody]

end ProfileManager

namespace NotificationManager

/-- From here on the stream has so many blocks, each with a notification in it and one byte
behind it. The stack has room for each block, and beside it for the message. -/
inductive NotificationsAt (stack : Nat) : Nat → InputStream → List Notification → Prop where
  | none (stream : InputStream) : NotificationsAt stack 0 stream []
  | block {size left : Nat} {stream next : InputStream} {bytes : Text}
      {notification : Notification} {later : List Notification}
      (read : stream.readBlock stack = .ok (bytes, left, next))
      (decoded : Notification.deserializeAll left bytes = .ok notification)
      (rest : NotificationsAt stack size next.ignore later) :
      NotificationsAt stack (size + 1) stream (notification :: later)

/-- The line has a list under the key: a word, a number and as many notifications. -/
def ListLine (stack : Nat) (line key : Text) (list : List Notification) : Prop :=
  line ≠ [] ∧ (InputStream.of line).readWord.1.getD [] = key ∧
    ∃ size next, (InputStream.of line).readWord.2.readInt = (some size, next) ∧
      NotificationsAt stack size.toNat next list

/-- The line has a queue under the key: a word and a block. -/
def QueueLine (stack : Nat) (line key : Text) (queue : NotificationQueue) : Prop :=
  line ≠ [] ∧ (InputStream.of line).readWord.1.getD [] = key ∧
    ∃ bytes left next,
      (InputStream.of line).readWord.2.readBlock stack = .ok (bytes, left, next) ∧
        NotificationQueue.deserialize left bytes = .ok queue

/-- The lines behind the first one, up to the mark. -/
def listLines (payload : Text) : List Text :=
  split (splitFirst (splitFirst payload [newline]).2 sectionMark).1 [newline]

/-- The lines behind the mark; where there is none, behind the first two bytes. -/
def queueLines (payload : Text) : List Text :=
  split (splitFirst (splitFirst payload [newline]).2 sectionMark).2 [newline]

/-- The text can be read to its end and tells what the manager has: the id in its first
line, and of each list and each queue the first line with its key. -/
structure EchoesNotifications (stack : Nat) (payload : Text) (manager : NotificationManager) :
    Prop where
  nextId : ∃ id, stoi (splitFirst payload [newline]).1 = .ok id ∧
    (id % 2 ^ 32).toNat = manager.nextId
  lists : ∀ line ∈ listLines payload, line ≠ [] → ∃ key list, ListLine stack line key list
  queues : ∀ line ∈ queueLines payload, line ≠ [] → ∃ key queue, QueueLine stack line key queue
  sameLists : ∀ key list, manager.notifications.lookup key = some list ↔
    FirstAt (ListLine stack) (listLines payload) key list
  sameQueues : ∀ key queue, manager.pendingQueues.lookup key = some queue ↔
    FirstAt (QueueLine stack) (queueLines payload) key queue

section Lines

variable {Value : Type}

/-- One turn of either loop. -/
def readLine (read : Text → Except Fault (Text × Value)) (line : Text) :
    Except Fault (Option (Text × Value)) :=
  if line = [] then .ok none else (read line).map some

theorem readLines_eq (read : Text → Except Fault (Text × Value)) (map : UnorderedMap Text Value)
    (lines : List Text) : readLines read map lines = collect (readLine read) map lines := by
  induction lines generalizing map with
  | nil => rfl
  | cons line rest ih =>
    rw [readLines, collect, readLine]
    split
    next => exact ih map
    next =>
      cases read line with
      | error fault => rfl
      | ok entry => exact ih _

theorem readLine_eq_some {read : Text → Except Fault (Text × Value)} {line key : Text}
    {value : Value} :
    readLine read line = .ok (some (key, value)) ↔ line ≠ [] ∧ read line = .ok (key, value) := by
  unfold readLine
  split
  next empty => simp [empty]
  next some =>
    rw [and_iff_right some]
    cases read line <;> simp [Except.map]

theorem readLine_eq_ok {read : Text → Except Fault (Text × Value)} {line : Text} :
    (∃ entry, readLine read line = .ok entry) ↔
      (line ≠ [] → ∃ key value, read line = .ok (key, value)) := by
  unfold readLine
  split
  next empty => simp [empty]
  next some =>
    rw [forall_prop_of_true some]
    cases read line with
    | error fault => simp [Except.map]
    | ok entry => exact iff_of_true ⟨_, rfl⟩ ⟨entry.1, entry.2, rfl⟩

end Lines

section Decoding

variable {stack : Nat}

theorem readNotifications_eq_ok {size : Nat} {stream : InputStream} {list : List Notification} :
    readNotifications stack size stream = .ok list ↔ NotificationsAt stack size stream list := by
  constructor
  · intro result
    induction size generalizing stream list with
    | zero =>
      cases result
      exact .none stream
    | succ size ih =>
      rw [readNotifications] at result
      split at result
      next => cases result
      next bytes left next read =>
        split at result
        next => cases result
        next notification decoded =>
          split at result
          next => cases result
          next later rest =>
            cases result
            exact .block read decoded (ih rest)
  · intro there
    induction there with
    | none stream => rfl
    | block read decoded rest ih => rw [readNotifications, read]; simp only [decoded, ih]

theorem deserializeList_eq_ok {line key : Text} {list : List Notification} :
    line ≠ [] ∧ deserializeList stack line = .ok (key, list) ↔ ListLine stack line key list := by
  rw [ListLine, deserializeList]
  refine and_congr_right fun _ => ?_
  dsimp only
  cases number : (InputStream.of line).readWord.2.readInt with
  | mk size next =>
    cases size with
    | none => simp
    | some size =>
      dsimp only
      constructor
      · intro result
        split at result
        next => cases result
        next found read =>
          cases result
          exact ⟨rfl, size, next, rfl, readNotifications_eq_ok.mp read⟩
      · rintro ⟨rfl, size, next, same, there⟩
        cases same
        rw [readNotifications_eq_ok.mpr there]

theorem deserializeQueue_eq_ok {line key : Text} {queue : NotificationQueue} :
    line ≠ [] ∧ deserializeQueue stack line = .ok (key, queue) ↔ QueueLine stack line key queue := by
  rw [QueueLine, deserializeQueue]
  refine and_congr_right fun _ => ?_
  dsimp only
  constructor
  · intro result
    split at result
    next => cases result
    next bytes left next read =>
      split at result
      next => cases result
      next found decoded =>
        cases result
        exact ⟨rfl, bytes, left, next, read, decoded⟩
  · rintro ⟨rfl, bytes, left, next, read, decoded⟩
    rw [read]
    dsimp only
    rw [decoded]

/-- A text is decoded when its number and both its sections are. -/
theorem deserialize_eq_ok {raw : Text} {updated : NotificationManager} :
    deserialize stack raw = .ok updated ↔
      (∃ id, stoi (splitFirst raw [newline]).1 = .ok id ∧ (id % 2 ^ 32).toNat = updated.nextId) ∧
        readLines (deserializeList stack) ∅ (listLines raw) = .ok updated.notifications ∧
        readLines (deserializeQueue stack) ∅ (queueLines raw) = .ok updated.pendingQueues := by
  rw [deserialize, listLines, queueLines]
  dsimp only
  constructor
  · intro decoded
    split at decoded
    next => cases decoded
    next id number =>
      split at decoded
      next => cases decoded
      next notifications lists =>
        split at decoded
        next => cases decoded
        next pendingQueues queues =>
          cases decoded
          exact ⟨⟨id, number, rfl⟩, lists, queues⟩
  · rintro ⟨⟨id, number, nextId⟩, lists, queues⟩
    rw [number]
    dsimp only
    rw [lists]
    dsimp only
    rw [queues]
    dsimp only
    rw [nextId]

end Decoding

end NotificationManager

/-- The managers of a replica. -/
structure ReplicaManagers where
  profileManager : ProfileManager := {}
  notificationManager : NotificationManager := {}
  deriving DecidableEq

namespace ReplicaManagers

/-- What a handler thread does with the payload of one packet. Of the packets that it
handles, two touch the managers; an exception, or too little room on the thread's stack,
would end the process. -/
def handle (stack : Nat) (managers : ReplicaManagers) (type : PacketType) (payload : Text) :
    Except Fault ReplicaManagers :=
  match type with
  | .updateProfile =>
    match ProfileManager.deserialize (cString payload) with
    | .error fault => .error fault
    | .ok updatedManager =>
      .ok { managers with profileManager := managers.profileManager.update updatedManager }
  | .updateNotification =>
    match NotificationManager.deserialize stack (cString payload) with
    | .error fault => .error fault
    | .ok updatedManager =>
      .ok { managers with
        notificationManager := managers.notificationManager.update updatedManager }
  | _ => .ok managers

/-- Both managers hold the same, whatever the order in their maps. -/
structure Same (first second : ReplicaManagers) : Prop where
  users : ∀ name,
    first.profileManager.users.lookup name = second.profileManager.users.lookup name
  nextId : first.notificationManager.nextId = second.notificationManager.nextId
  notifications : ∀ name, first.notificationManager.notifications.lookup name =
    second.notificationManager.notifications.lookup name
  pendingQueues : ∀ name, first.notificationManager.pendingQueues.lookup name =
    second.notificationManager.pendingQueues.lookup name

/-- The packet is handled without an exception, and the managers are as they were. -/
def LeftAlone (stack : Nat) (managers : ReplicaManagers) (type : PacketType) (payload : Text) :
    Prop :=
  ∃ next, managers.handle stack type payload = .ok next ∧ next.Same managers

theorem leftAlone_profile_iff (stack : Nat) (managers : ReplicaManagers) (payload : Text) :
    managers.LeftAlone stack .updateProfile payload ↔
      ProfileManager.EchoesUsers (cString payload) managers.profileManager.users := by
  have decoded : managers.LeftAlone stack .updateProfile payload ↔
      ∃ built, collect ProfileManager.readUserLine ∅ (split (cString payload) [newline]) =
          .ok built ∧
        ∀ name, built.lookup name = managers.profileManager.users.lookup name := by
    rw [← ProfileManager.readUserLines_eq, LeftAlone, handle, ProfileManager.deserialize]
    cases ProfileManager.readUserLines ∅ (split (cString payload) [newline]) with
    | error fault => simp
    | ok users =>
      constructor
      · rintro ⟨next, handled, same⟩
        cases handled
        exact ⟨users, rfl, same.users⟩
      · rintro ⟨built, read, same⟩
        cases read
        exact ⟨_, rfl, same, rfl, fun name => rfl, fun name => rfl⟩
  rw [decoded, collect_same_iff fun line _ key user => ProfileManager.readUserLine_eq_some]
  simp only [ProfileManager.readUserLine_eq_ok]
  constructor
  · rintro ⟨convertible, same⟩
    exact ⟨convertible, same⟩
  · intro echoes
    exact ⟨echoes.convertible, echoes.same⟩

/-- Each of the two sections, read as the map that is there. -/
theorem readLines_same_iff {Value : Type} {read : Text → Except Fault (Text × Value)}
    {tells : Text → Text → Value → Prop}
    (agree : ∀ line key value, line ≠ [] ∧ read line = .ok (key, value) ↔ tells line key value)
    (lines : List Text) (map : UnorderedMap Text Value) :
    (∃ built, NotificationManager.readLines read ∅ lines = .ok built ∧
        ∀ key, built.lookup key = map.lookup key) ↔
      (∀ line ∈ lines, line ≠ [] → ∃ key value, tells line key value) ∧
        ∀ key value, map.lookup key = some value ↔ FirstAt tells lines key value := by
  rw [NotificationManager.readLines_eq, collect_same_iff fun line _ key value =>
    NotificationManager.readLine_eq_some.trans (agree line key value)]
  refine and_congr_left fun _ => forall₂_congr fun line _ => ?_
  rw [NotificationManager.readLine_eq_ok]
  refine forall_congr' fun some => exists₂_congr fun key value => ?_
  rw [← agree, and_iff_right some]

theorem leftAlone_notification_iff (stack : Nat) (managers : ReplicaManagers) (payload : Text) :
    managers.LeftAlone stack .updateNotification payload ↔
      NotificationManager.EchoesNotifications stack (cString payload)
        managers.notificationManager := by
  have lists := readLines_same_iff
    (fun _ _ _ => @NotificationManager.deserializeList_eq_ok stack _ _ _)
    (NotificationManager.listLines (cString payload)) managers.notificationManager.notifications
  have queues := readLines_same_iff
    (fun _ _ _ => @NotificationManager.deserializeQueue_eq_ok stack _ _ _)
    (NotificationManager.queueLines (cString payload)) managers.notificationManager.pendingQueues
  have decoded : managers.LeftAlone stack .updateNotification payload ↔
      (∃ id, stoi (splitFirst (cString payload) [newline]).1 = .ok id ∧
        (id % 2 ^ 32).toNat = managers.notificationManager.nextId) ∧
      (∃ built, NotificationManager.readLines (NotificationManager.deserializeList stack) ∅
          (NotificationManager.listLines (cString payload)) = .ok built ∧
        ∀ key, built.lookup key = managers.notificationManager.notifications.lookup key) ∧
      ∃ built, NotificationManager.readLines (NotificationManager.deserializeQueue stack) ∅
          (NotificationManager.queueLines (cString payload)) = .ok built ∧
        ∀ key, built.lookup key = managers.notificationManager.pendingQueues.lookup key := by
    rw [LeftAlone, handle]
    constructor
    · rintro ⟨next, handled, same⟩
      split at handled
      next => cases handled
      next updated read =>
        cases handled
        obtain ⟨⟨id, number, nextId⟩, lists, queues⟩ := NotificationManager.deserialize_eq_ok.mp read
        exact ⟨⟨id, number, nextId.trans same.nextId⟩, ⟨_, lists, same.notifications⟩,
          _, queues, same.pendingQueues⟩
    · rintro ⟨⟨id, number, nextId⟩, ⟨notifications, lists, sameLists⟩, pendingQueues, queues,
        sameQueues⟩
      have read : NotificationManager.deserialize stack (cString payload) =
          .ok { notifications, pendingQueues, nextId := (id % 2 ^ 32).toNat } :=
        NotificationManager.deserialize_eq_ok.mpr ⟨⟨id, number, rfl⟩, lists, queues⟩
      rw [read]
      exact ⟨_, rfl, fun name => rfl, nextId, sameLists, sameQueues⟩
  rw [decoded, lists, queues]
  constructor
  · rintro ⟨nextId, ⟨lists, sameLists⟩, queues, sameQueues⟩
    exact ⟨nextId, lists, queues, sameLists, sameQueues⟩
  · intro echoes
    exact ⟨echoes.nextId, ⟨echoes.lists, echoes.sameLists⟩, echoes.queues, echoes.sameQueues⟩

/-- A payload leaves the managers alone exactly when it is an echo of what it replaces: every
other one is taken over as far as it can be decoded, or ends the process. -/
theorem leftAlone_iff (stack : Nat) (managers : ReplicaManagers) (payload : Text) :
    (managers.LeftAlone stack .updateProfile payload ↔
      ProfileManager.EchoesUsers (cString payload) managers.profileManager.users) ∧
    (managers.LeftAlone stack .updateNotification payload ↔
      NotificationManager.EchoesNotifications stack (cString payload) managers.notificationManager) :=
  ⟨leftAlone_profile_iff stack managers payload, leftAlone_notification_iff stack managers payload⟩

/-- What a manager serializes ends with a line end if it is anything at all. -/
theorem getLast?_serialize (manager : ProfileManager) :
    manager.serialize = [] ∨ manager.serialize.getLast? = some newline := by
  rw [ProfileManager.serialize]
  rcases List.eq_nil_or_concat manager.users.entries with none | ⟨front, last, shape⟩
  · rw [none]
    exact Or.inl rfl
  · refine Or.inr ?_
    rw [shape, List.concat_eq_append, List.flatMap_append, List.flatMap_singleton, ← List.append_assoc,
      List.getLast?_concat]

theorem newline_mem_serialize (manager : NotificationManager) : newline ∈ manager.serialize := by
  rw [NotificationManager.serialize]
  exact List.mem_append_right _ List.mem_cons_self

/-- A replica that knows one user. -/
def oneUserReplica : ReplicaManagers where
  profileManager := {
    users := UnorderedMap.emplace ∅ ['a'] { id := 1, username := ['a'], followers := [['b']] } }

/-- A text that nobody serializes, for want of its line end, and an echo all the same. -/
example : oneUserReplica.handle 8388608 .updateProfile "a 1 a 1 b 0 x".toList =
    .ok oneUserReplica := by
  decide +kernel

/-- Of a text that no manager serializes, the first decoder makes no users at all, and the
second one does not get past the number. -/
theorem not_leftAlone_garbage :
    ((∀ manager : ProfileManager, "garbage".toList ≠ manager.serialize) ∧
      ¬ oneUserReplica.LeftAlone 8388608 .updateProfile "garbage".toList) ∧
    (∀ manager : NotificationManager, "garbage".toList ≠ manager.serialize) ∧
      oneUserReplica.handle 8388608 .updateNotification "garbage".toList = .error .invalidArgument ∧
      ¬ oneUserReplica.LeftAlone 8388608 .updateNotification "garbage".toList := by
  have fault : oneUserReplica.handle 8388608 .updateNotification "garbage".toList =
      .error .invalidArgument := by
    decide +kernel
  refine ⟨⟨?_, ?_⟩, ?_, fault, ?_⟩
  · intro manager same
    rcases getLast?_serialize manager with empty | ends
    · rw [← same] at empty
      cases empty
    · rw [← same] at ends
      revert ends
      decide
  · rintro ⟨next, handled, same⟩
    have wiped : oneUserReplica.handle 8388608 .updateProfile "garbage".toList = .ok {} := by
      decide +kernel
    cases wiped.symm.trans handled
    cases same.users ['a']
  · intro manager same
    have inside := newline_mem_serialize manager
    rw [← same] at inside
    revert inside
    decide
  · rintro ⟨next, handled, same⟩
    cases fault.symm.trans handled

end ReplicaManagers

end TwitterClone
