import TwitterClone.Notification.Insertions
import TwitterClone.Notification.Texts

/-! Where notifications come from. Nothing is assumed about the followers, the counts or
the ids, which may have come round. -/
namespace TwitterClone.NotificationManager

open Foundation

/-- Notifications are stored under those who sent them, and users wait for nothing but
tweets of those whom they follow. -/
structure Genuine (tweeted : Text → Text → Prop) (follows : Text → Text → Prop)
    (manager : NotificationManager) : Prop where
  stored : ∀ sender, ∀ notification ∈ manager.stored sender,
    notification.username = sender ∧ tweeted sender notification.message
  pending : ∀ user, ∀ pending ∈ (manager.queueOf user).pendingQueue, follows user pending.sender

section Calls

variable {tweeted follows : Text → Text → Prop} {manager : NotificationManager}

theorem genuine_empty : Genuine tweeted follows {} where
  stored sender notification member := by cases member
  pending user pending member := by cases member

theorem Genuine.mono {more others : Text → Text → Prop} (genuine : Genuine tweeted follows manager)
    (grows : ∀ sender message, tweeted sender message → more sender message)
    (growsToo : ∀ user sender, follows user sender → others user sender) :
    Genuine more others manager where
  stored sender notification member :=
    ⟨(genuine.stored sender notification member).1,
      grows _ _ (genuine.stored sender notification member).2⟩
  pending user pending member := growsToo _ _ (genuine.pending user pending member)

theorem mem_stored_changeStored {username sender : Text}
    {change : List Notification → List Notification} {item : Notification}
    (member : item ∈ (manager.changeStored username change).stored sender) :
    item ∈ manager.stored sender ∨ sender = username ∧ item ∈ change (manager.stored username) := by
  have present := (mem_notifications_changeStored ..).mp (mem_of_mem_stored _ member)
  by_cases here : sender = username
  · subst here
    rw [stored_changeStored manager present, if_pos rfl] at member
    exact Or.inr ⟨rfl, member⟩
  · by_cases known : username ∈ manager.notifications
    · rw [stored_changeStored manager known, if_neg here] at member
      exact Or.inl member
    · have same : (manager.changeStored username change).stored sender = manager.stored sender := by
        simp only [stored, changeStored, UnorderedMap.lookup_modify, if_neg here]
      exact Or.inl (same ▸ member)

theorem mem_pendingQueue_setQueue {username user : Text} {queue : NotificationQueue}
    {item : PendingNotification}
    (member : item ∈ ((manager.setQueue username queue).queueOf user).pendingQueue) :
    item ∈ (manager.queueOf user).pendingQueue ∨ user = username ∧ item ∈ queue.pendingQueue := by
  by_cases known : username ∈ manager.pendingQueues
  · rw [queueOf_setQueue manager known] at member
    split at member
    next here => exact Or.inr ⟨here, member⟩
    next => exact Or.inl member
  · by_cases here : user = username
    · subst here
      have absent : user ∉ (manager.setQueue user queue).pendingQueues := by
        rwa [mem_pendingQueues_setQueue]
      rw [queueOf_of_notMem _ absent] at member
      cases member
    · have same : (manager.setQueue username queue).queueOf user = manager.queueOf user := by
        simp only [queueOf, setQueue, UnorderedMap.lookup_modify, if_neg here]
      exact Or.inl (same ▸ member)

theorem Genuine.changeStored (genuine : Genuine tweeted follows manager) {username : Text}
    {change : List Notification → List Notification}
    (kept : ∀ item ∈ change (manager.stored username),
      item.username = username ∧ tweeted username item.message) :
    Genuine tweeted follows (manager.changeStored username change) where
  stored sender notification member := by
    rcases mem_stored_changeStored member with old | ⟨rfl, new⟩
    · exact genuine.stored sender notification old
    · exact kept notification new
  pending := genuine.pending

theorem Genuine.setQueue (genuine : Genuine tweeted follows manager) {username : Text}
    {queue : NotificationQueue}
    (kept : ∀ pending ∈ queue.pendingQueue, follows username pending.sender) :
    Genuine tweeted follows (manager.setQueue username queue) where
  stored := genuine.stored
  pending user pending member := by
    rcases mem_pendingQueue_setQueue member with old | ⟨rfl, new⟩
    · exact genuine.pending user pending old
    · exact kept pending new

/-- Counting the last notification down leaves its sender and its text. -/
theorem Genuine.countLastDown (genuine : Genuine tweeted follows manager) (username : Text) :
    Genuine tweeted follows (manager.countLastDown username) := by
  refine genuine.changeStored fun item member => ?_
  rcases List.eq_nil_or_concat (manager.stored username) with empty | ⟨before, last, ending⟩
  · rw [empty] at member
    cases member
  · rw [ending, List.concat_eq_append, List.modifyLast_concat] at member
    have old := genuine.stored username
    rw [ending, List.concat_eq_append] at old
    rcases List.mem_append.mp member with early | new
    · exact old item (List.mem_append_left _ early)
    · have same := old last (List.mem_append_right _ (List.mem_singleton_self _))
      rw [List.mem_singleton.mp new]
      exact same

/-- What each follower is handed is the notification, and a missing one is entered. -/
theorem Genuine.sendTo (genuine : Genuine tweeted follows manager) {notification : Notification}
    {follower : Text} (allowed : follows follower notification.username) :
    Genuine tweeted follows (manager.sendTo notification follower).1 ∧
      ∀ insertion ∈ (manager.sendTo notification follower).2,
        insertion.notification = notification := by
  by_cases known : follower ∈ manager.pendingQueues
  · by_cases offline : manager.Offline follower
    · rw [sendTo_offline manager notification known offline]
      refine ⟨genuine.setQueue ?_, by simp⟩
      intro pending member
      rcases List.mem_append.mp member with old | new
      · exact genuine.pending follower pending old
      · rw [List.mem_singleton.mp new]
        exact allowed
    · rw [sendTo_online manager notification known offline]
      exact ⟨genuine.countLastDown _, fun insertion member => (mem_insertToSubscribers member).1⟩
  · rw [NotificationManager.sendTo, if_neg known]
    exact ⟨genuine, by simp⟩

theorem Genuine.sendToEach {notification : Notification} {followers : List Text}
    (allowed : ∀ follower ∈ followers, follows follower notification.username)
    (genuine : Genuine tweeted follows manager) :
    Genuine tweeted follows (manager.sendToEach notification followers).1 ∧
      ∀ insertion ∈ (manager.sendToEach notification followers).2,
        insertion.notification = notification := by
  induction followers generalizing manager with
  | nil => exact ⟨genuine, by simp [NotificationManager.sendToEach]⟩
  | cons follower rest ih =>
    obtain ⟨first, handed⟩ := genuine.sendTo (allowed follower List.mem_cons_self)
    obtain ⟨later, handedLater⟩ :=
      ih (fun user member => allowed user (List.mem_cons_of_mem _ member)) first
    refine ⟨later, ?_⟩
    intro insertion member
    rcases List.mem_append.mp member with here | after
    · exact handed insertion here
    · exact handedLater insertion after

theorem Genuine.popSettled (genuine : Genuine tweeted follows manager) (username : Text) :
    Genuine tweeted follows (manager.popSettled username) := by
  unfold NotificationManager.popSettled
  split
  next =>
    split
    next =>
      exact genuine.changeStored fun item member =>
        genuine.stored username item (List.mem_of_mem_dropLast member)
    next => exact genuine
  next => exact genuine

theorem Genuine.send (genuine : Genuine tweeted follows manager) {notification : Notification}
    {followers : List Text} (sent : tweeted notification.username notification.message)
    (allowed : ∀ follower ∈ followers, follows follower notification.username) :
    Genuine tweeted follows (manager.send notification followers).manager ∧
      ∀ insertion ∈ (manager.send notification followers).inserted,
        insertion.notification = manager.issue notification := by
  by_cases sender : notification.username ∈ manager.notifications
  · have numbered : Genuine tweeted follows manager.getNextId.2 := ⟨genuine.stored, genuine.pending⟩
    have created : Genuine tweeted follows (manager.created notification) := by
      refine numbered.changeStored fun item member => ?_
      rcases List.mem_append.mp member with old | new
      · exact genuine.stored _ item old
      · rw [List.mem_singleton.mp new]
        exact ⟨rfl, sent⟩
    have issued : ∀ follower ∈ followers,
        follows follower (manager.issue notification).username := allowed
    obtain ⟨delivered, handed⟩ := created.sendToEach issued
    rw [send_registered manager notification followers sender]
    exact ⟨delivered.popSettled _, handed⟩
  · rw [send_unregistered manager notification followers sender]
    exact ⟨genuine, by simp⟩

theorem Genuine.findNotification (genuine : Genuine tweeted follows manager)
    (pending : PendingNotification) :
    Genuine tweeted follows (manager.findNotification pending).2 ∧
      ∀ result ∈ (manager.findNotification pending).1,
        result.username = pending.sender ∧ tweeted pending.sender result.message := by
  unfold NotificationManager.findNotification
  split
  next =>
    split
    next result found =>
      refine ⟨genuine.changeStored fun item member => ?_, ?_⟩
      · obtain ⟨older, stored, username, message⟩ := mem_countFirstDown member
        rw [username, message]
        exact genuine.stored _ older stored
      · intro other same
        rw [← Option.some.inj same]
        exact genuine.stored _ result (List.mem_of_find?_eq_some found)
    next => exact ⟨genuine, by simp⟩
  next => exact ⟨genuine, by simp⟩

theorem Genuine.drainOne (genuine : Genuine tweeted follows manager) {username : Text}
    {pending : PendingNotification} {rest : List PendingNotification}
    (waiting : (manager.queueOf username).pendingQueue = pending :: rest) :
    Genuine tweeted follows (manager.drainOne username).1 ∧
      ∀ insertion ∈ (manager.drainOne username).2,
        tweeted insertion.notification.username insertion.notification.message ∧
          follows username insertion.notification.username := by
  have removed : (manager.queueOf username).removePending =
      (pending, { manager.queueOf username with pendingQueue := rest }) := by
    simp [NotificationQueue.removePending, waiting]
  have listed : ∀ item ∈ pending :: rest, follows username item.sender :=
    waiting ▸ genuine.pending username
  have left : Genuine tweeted follows
      (manager.setQueue username { manager.queueOf username with pendingQueue := rest }) :=
    genuine.setQueue fun item member => listed item (List.mem_cons_of_mem _ member)
  obtain ⟨searched, result⟩ := left.findNotification pending
  rw [NotificationManager.drainOne, removed]
  dsimp only
  split
  next =>
    split
    next item next found =>
      rw [found] at searched result
      refine ⟨searched, ?_⟩
      intro insertion member
      obtain ⟨username, message⟩ := result item rfl
      rw [(mem_insertToSubscribers member).1, username]
      exact ⟨message, listed pending List.mem_cons_self⟩
    next next found =>
      rw [found] at searched
      exact ⟨searched, by simp⟩
  next => exact ⟨left, by simp⟩

theorem Genuine.drain (genuine : Genuine tweeted follows manager) (username : Text)
    (turns : Nat) :
    Genuine tweeted follows (manager.drain username turns).1 ∧
      ∀ insertion ∈ (manager.drain username turns).2,
        tweeted insertion.notification.username insertion.notification.message ∧
          follows username insertion.notification.username := by
  induction turns generalizing manager with
  | zero => exact ⟨genuine, by simp [NotificationManager.drain]⟩
  | succ turns ih =>
    rw [NotificationManager.drain]
    split
    next some =>
      obtain ⟨pending, rest, waiting⟩ : ∃ pending rest,
          (manager.queueOf username).pendingQueue = pending :: rest :=
        List.exists_cons_of_ne_nil (by simpa [NotificationQueue.hasPending] using some)
      obtain ⟨first, handed⟩ := genuine.drainOne waiting
      obtain ⟨later, handedLater⟩ := ih first
      refine ⟨later, ?_⟩
      intro insertion member
      rcases List.mem_append.mp member with here | after
      · exact handed insertion here
      · exact handedLater insertion after
    next => exact ⟨genuine, by simp⟩

theorem Genuine.addSubscriber (genuine : Genuine tweeted follows manager) (username : Text)
    (id : Nat) (session : QueueRef) :
    Genuine tweeted follows (manager.addSubscriber username id session) :=
  genuine.setQueue (genuine.pending username)

theorem Genuine.register (genuine : Genuine tweeted follows manager) (username : Text) :
    Genuine tweeted follows (manager.register username) where
  stored sender notification member := by
    rw [stored_register] at member
    exact genuine.stored sender notification member
  pending user pending member := by
    rw [queueOf_register] at member
    exact genuine.pending user pending member

theorem Genuine.subscribe (genuine : Genuine tweeted follows manager) (username : Text) (id : Nat)
    (session : QueueRef) :
    Genuine tweeted follows (manager.subscribe username id session).manager ∧
      ∀ insertion ∈ (manager.subscribe username id session).inserted,
        tweeted insertion.notification.username insertion.notification.message ∧
          follows username insertion.notification.username := by
  by_cases present : username ∈ manager.pendingQueues
  · rw [subscribe_of_mem present]
    exact (genuine.addSubscriber username id session).drain username _
  · rw [subscribe_of_notMem present]
    exact ⟨(genuine.register username).addSubscriber username id session, by simp⟩

theorem Genuine.unsubscribe (genuine : Genuine tweeted follows manager) (username : Text)
    (id : Nat) : Genuine tweeted follows (manager.unsubscribe username id).manager := by
  unfold NotificationManager.unsubscribe
  split
  next => exact genuine.setQueue (genuine.pending username)
  next => exact genuine

theorem Genuine.loadUsers (genuine : Genuine tweeted follows manager) (usernames : List Text) :
    Genuine tweeted follows (manager.loadUsers usernames).manager := by
  simp only [NotificationManager.loadUsers]
  induction usernames generalizing manager with
  | nil => exact genuine
  | cons username rest ih => exact ih (genuine.register username)

end Calls

end TwitterClone.NotificationManager
