import TwitterClone.Notification.Accounting
import TwitterClone.Notification.CodecRoundTrip

/-! Every name and message that the manager holds came in with some call, so what
all calls keep to holds of the manager, and of the text it is encoded in. -/
namespace TwitterClone

open Foundation

/-- The names and messages of a call. -/
def Operation.Uses (name message : Text → Prop) : Operation → Prop
  | .loadUsers usernames => ∀ username ∈ usernames, name username
  | .subscribe username _ _ => name username
  | .unsubscribe _ _ => True
  | .send notification _ => message notification.message

instance Operation.decidableUses (name message : Text → Prop) [DecidablePred name]
    [DecidablePred message] :
    (operation : Operation) → Decidable (operation.Uses name message)
  | .loadUsers usernames => List.decidableBAll _ usernames
  | .subscribe username _ _ => inferInstanceAs (Decidable (name username))
  | .unsubscribe _ _ => isTrue trivial
  | .send notification _ => inferInstanceAs (Decidable (message notification.message))

namespace NotificationManager

/-- The names and messages of a manager. -/
structure Holds (name message : Text → Prop) (manager : NotificationManager) : Prop where
  senders : ∀ sender ∈ manager.notifications, name sender
  users : ∀ user ∈ manager.pendingQueues, name user
  stored : ∀ sender, ∀ notification ∈ manager.stored sender,
    name notification.username ∧ message notification.message
  pending : ∀ user, ∀ pending ∈ (manager.queueOf user).pendingQueue, name pending.sender

section Calls

variable {name message : Text → Prop} {manager : NotificationManager}

theorem holds_empty : Holds name message {} where
  senders := by simp
  users := by simp
  stored := by simp [NotificationManager.stored]
  pending := by simp [queueOf]

theorem Holds.changeStored (holds : manager.Holds name message) (username : Text)
    {change : List Notification → List Notification}
    (kept : ∀ notification ∈ change (manager.stored username),
      name notification.username ∧ message notification.message) :
    (manager.changeStored username change).Holds name message := by
  refine ⟨?_, holds.users, ?_, holds.pending⟩
  · intro sender member
    exact holds.senders sender ((mem_notifications_changeStored ..).mp member)
  · intro sender notification member
    have present := (mem_notifications_changeStored ..).mp (mem_of_mem_stored _ member)
    by_cases here : sender = username
    · subst here
      rw [stored_changeStored _ present, if_pos rfl] at member
      exact kept notification member
    · have other : (manager.changeStored username change).stored sender =
          manager.stored sender := by
        simp [NotificationManager.changeStored, NotificationManager.stored,
          UnorderedMap.lookup_modify, here]
      exact holds.stored sender notification (other ▸ member)

theorem Holds.setQueue (holds : manager.Holds name message) (username : Text)
    {queue : NotificationQueue} (kept : ∀ pending ∈ queue.pendingQueue, name pending.sender) :
    (manager.setQueue username queue).Holds name message := by
  refine ⟨holds.senders, ?_, holds.stored, ?_⟩
  · intro user member
    exact holds.users user ((mem_pendingQueues_setQueue ..).mp member)
  · intro user pending member
    by_cases present : username ∈ manager.pendingQueues
    · rw [queueOf_setQueue _ present] at member
      split at member
      next => exact kept pending member
      next => exact holds.pending user pending member
    · have same : (manager.setQueue username queue).queueOf user = manager.queueOf user := by
        rw [NotificationManager.setQueue, UnorderedMap.modify_eq_self]
        intro value found
        exact absurd (UnorderedMap.mem_of_lookup found) present
      exact holds.pending user pending (same ▸ member)

theorem Holds.register (holds : manager.Holds name message) {username : Text}
    (good : name username) : (manager.register username).Holds name message := by
  refine ⟨?_, ?_, ?_, ?_⟩
  · intro sender member
    rcases (UnorderedMap.mem_emplace ..).mp member with new | old
    · exact new ▸ good
    · exact holds.senders sender old
  · intro user member
    rcases (UnorderedMap.mem_emplace ..).mp member with new | old
    · exact new ▸ good
    · exact holds.users user old
  · intro sender notification member
    rw [stored_register] at member
    exact holds.stored sender notification member
  · intro user pending member
    rw [queueOf_register] at member
    exact holds.pending user pending member

theorem Holds.createNotification (holds : manager.Holds name message)
    {notification created : Notification} {next : NotificationManager}
    (good : message notification.message)
    (made : manager.createNotification notification = some (created, next)) :
    next.Holds name message ∧ name created.username := by
  unfold NotificationManager.createNotification at made
  split at made
  next present =>
    obtain ⟨rfl, rfl⟩ := Prod.mk.inj (Option.some.inj made)
    have sender := holds.senders notification.username present
    have counted : manager.getNextId.2.Holds name message :=
      ⟨holds.senders, holds.users, holds.stored, holds.pending⟩
    refine ⟨counted.changeStored notification.username ?_, sender⟩
    intro other member
    rcases List.mem_append.mp member with old | new
    · exact counted.stored notification.username other old
    · rw [List.mem_singleton.mp new]
      exact ⟨sender, good⟩
  next => cases made

theorem mem_modifyLast {Item : Type} {change : Item → Item} {items : List Item} {item : Item}
    (member : item ∈ items.modifyLast change) :
    item ∈ items ∨ ∃ last ∈ items, item = change last := by
  rcases List.eq_nil_or_concat items with empty | ⟨front, last, whole⟩
  · subst empty
    exact absurd member List.not_mem_nil
  · rw [List.concat_eq_append] at whole
    subst whole
    rw [List.modifyLast_concat] at member
    rcases List.mem_append.mp member with old | new
    · exact Or.inl (List.mem_append_left _ old)
    · exact Or.inr ⟨last, by simp, List.mem_singleton.mp new⟩

theorem Holds.countLastDown (holds : manager.Holds name message) (username : Text) :
    (manager.countLastDown username).Holds name message := by
  refine holds.changeStored username ?_
  intro notification member
  rcases mem_modifyLast member with old | ⟨last, old, same⟩
  · exact holds.stored username notification old
  · rw [same]
    exact holds.stored username last old

theorem Holds.sendTo (holds : manager.Holds name message) {notification : Notification}
    (good : name notification.username) (follower : Text) :
    (manager.sendTo notification follower).1.Holds name message := by
  have waiting := holds.pending follower
  by_cases present : follower ∈ manager.pendingQueues
  · by_cases offline : manager.Offline follower
    · rw [sendTo_offline manager notification present offline]
      refine holds.setQueue follower ?_
      intro pending member
      rcases List.mem_append.mp member with old | new
      · exact waiting pending old
      · exact List.mem_singleton.mp new ▸ good
    · rw [sendTo_online manager notification present offline]
      exact holds.countLastDown notification.username
  · rw [NotificationManager.sendTo, if_neg present]
    exact holds

theorem Holds.sendToEach (holds : manager.Holds name message) {notification : Notification}
    (good : name notification.username) (followers : List Text) :
    (manager.sendToEach notification followers).1.Holds name message := by
  induction followers generalizing manager with
  | nil => exact holds
  | cons follower rest ih => exact ih (holds.sendTo good follower)

theorem Holds.popSettled (holds : manager.Holds name message) (username : Text) :
    (manager.popSettled username).Holds name message := by
  unfold NotificationManager.popSettled
  split
  next =>
    split
    next =>
      refine holds.changeStored username ?_
      exact fun notification member =>
        holds.stored username notification (List.dropLast_subset _ member)
    next => exact holds
  next => exact holds

theorem Holds.send (holds : manager.Holds name message) {notification : Notification}
    (good : message notification.message) (followers : List Text) :
    (manager.send notification followers).manager.Holds name message := by
  unfold NotificationManager.send
  split
  next => exact holds
  next created next made =>
    obtain ⟨holdsNext, sender⟩ := holds.createNotification good made
    exact (holdsNext.sendToEach sender followers).popSettled created.username

theorem mem_countFirstDown {id : Int} {notifications : List Notification} {result : Notification}
    (member : result ∈ countFirstDown id notifications) :
    ∃ source ∈ notifications, result.username = source.username ∧
      result.message = source.message := by
  induction notifications with
  | nil => cases member
  | cons first rest ih =>
    rw [countFirstDown] at member
    split at member
    next =>
      rcases List.mem_append.mp member with here | later
      · refine ⟨first, List.mem_cons_self, ?_⟩
        unfold countDown at here
        split at here
        next => cases here
        next => exact List.mem_singleton.mp here ▸ ⟨rfl, rfl⟩
      · exact ⟨result, List.mem_cons_of_mem first later, rfl, rfl⟩
    next =>
      rcases List.mem_cons.mp member with here | later
      · exact ⟨first, List.mem_cons_self, here ▸ ⟨rfl, rfl⟩⟩
      · obtain ⟨source, inside, same⟩ := ih later
        exact ⟨source, List.mem_cons_of_mem first inside, same⟩

theorem Holds.findNotification (holds : manager.Holds name message)
    (pending : PendingNotification) :
    (manager.findNotification pending).2.Holds name message := by
  unfold NotificationManager.findNotification
  split
  next =>
    split
    next =>
      refine holds.changeStored pending.sender ?_
      intro notification member
      obtain ⟨source, inside, username, text⟩ := mem_countFirstDown member
      rw [username, text]
      exact holds.stored pending.sender source inside
    next => exact holds
  next => exact holds

theorem Holds.drainOne (holds : manager.Holds name message) (username : Text) :
    (manager.drainOne username).1.Holds name message := by
  have removed : (manager.setQueue username
      (manager.queueOf username).removePending.2).Holds name message := by
    refine holds.setQueue username ?_
    intro pending member
    refine holds.pending username pending ?_
    unfold NotificationQueue.removePending at member
    split at member
    next => exact member
    next whole => exact whole ▸ List.mem_cons_of_mem _ member
  have found := removed.findNotification (manager.queueOf username).removePending.1
  unfold NotificationManager.drainOne
  dsimp only
  split
  next =>
    split
    next same =>
      rw [same] at found
      exact found
    next same =>
      rw [same] at found
      exact found
  next => exact removed

theorem Holds.drain (holds : manager.Holds name message) (username : Text) (turns : Nat) :
    (manager.drain username turns).1.Holds name message := by
  induction turns generalizing manager with
  | zero => exact holds
  | succ turns ih =>
    rw [NotificationManager.drain]
    split
    next => exact ih (holds.drainOne username)
    next => exact holds

theorem Holds.addSubscriber (holds : manager.Holds name message) (username : Text) (id : Nat)
    (session : QueueRef) : (manager.addSubscriber username id session).Holds name message :=
  holds.setQueue username fun pending member => holds.pending username pending member

theorem Holds.subscribe (holds : manager.Holds name message) {username : Text}
    (good : name username) (id : Nat) (session : QueueRef) :
    (manager.subscribe username id session).manager.Holds name message := by
  unfold NotificationManager.subscribe
  split
  next => exact (holds.addSubscriber username id session).drain username _
  next => exact (holds.register good).addSubscriber username id session

theorem Holds.loadUsers (holds : manager.Holds name message) {usernames : List Text}
    (good : ∀ username ∈ usernames, name username) :
    (manager.loadUsers usernames).manager.Holds name message := by
  unfold NotificationManager.loadUsers
  dsimp only
  induction usernames generalizing manager with
  | nil => exact holds
  | cons username rest ih =>
    exact ih (holds.register (good username List.mem_cons_self))
      fun other member => good other (List.mem_cons_of_mem username member)

/-- A manager's texts come from its calls. -/
theorem Holds.call (holds : manager.Holds name message) {operation : Operation}
    (uses : operation.Uses name message) :
    (manager.call operation).manager.Holds name message := by
  cases operation with
  | loadUsers usernames => exact holds.loadUsers uses
  | subscribe username id session => exact holds.subscribe uses id session
  | unsubscribe username id =>
    unfold NotificationManager.call NotificationManager.unsubscribe
    dsimp only
    split
    next => exact holds.setQueue username fun pending member => holds.pending username pending member
    next => exact holds
  | send notification followers => exact holds.send uses followers

end Calls

section Encoding

variable {manager : NotificationManager}

theorem nul_notMem_block {text : Text} (free : nul ∉ text) : nul ∉ InputStream.block text := by
  have blank : nul ≠ ' ' := by decide
  simp only [InputStream.block, List.mem_append, List.mem_cons, not_or]
  exact ⟨notMem_showNat rfl _, blank, free⟩

theorem nul_notMem_each {notifications : List Notification} {first : Bool}
    (free : ∀ notification ∈ notifications, nul ∉ notification.username) :
    nul ∉ serializeEach first notifications := by
  have blank : nul ≠ ' ' := by decide
  have comma : nul ∉ (if first then [] else [','] : Text) := by
    cases first <;> decide
  induction notifications generalizing first with
  | nil => exact List.not_mem_nil
  | cons notification rest ih =>
    have here : nul ∉ notification.serializeAll := by
      simp only [Notification.serializeAll, List.mem_append, List.mem_cons, not_or]
      exact ⟨notMem_showInt rfl (by decide) _, blank, notMem_showNat rfl _, blank,
        free notification List.mem_cons_self, blank, notMem_showInt rfl (by decide) _, blank,
        notMem_showNat rfl _, blank, nul_notMem_cString _⟩
    have later := @ih false
      (fun other member => free other (List.mem_cons_of_mem notification member)) (by decide)
    simp only [serializeEach, List.mem_append, not_or]
    exact ⟨comma, nul_notMem_block here, later⟩

/-- No name with a NUL, no NUL in the encoded state. -/
theorem Holds.nul_notMem {message : Text → Prop}
    (holds : manager.Holds (fun name => nul ∉ name) message) : nul ∉ manager.serialize := by
  have blank : nul ≠ ' ' := by decide
  have line : nul ∉ [newline] := by decide
  have lists : ∀ entry ∈ manager.notifications.entries, nul ∉ serializeList entry := by
    intro entry member
    have found := UnorderedMap.lookup_eq_some.mpr member
    have free : ∀ notification ∈ entry.2, nul ∉ notification.username := by
      intro notification inside
      have stored : notification ∈ manager.stored entry.1 := by
        simpa [NotificationManager.stored, found] using inside
      exact (holds.stored entry.1 notification stored).1
    simp only [serializeList, List.mem_append, List.mem_cons, not_or]
    exact ⟨holds.senders entry.1 (UnorderedMap.mem_of_lookup found), blank, notMem_showNat rfl _,
      blank, nul_notMem_each free⟩
  have queues : ∀ entry ∈ manager.pendingQueues.entries, nul ∉ serializeQueue entry := by
    intro entry member
    have found := UnorderedMap.lookup_eq_some.mpr member
    have queue : nul ∉ entry.2.serialize := by
      simp only [NotificationQueue.serialize, List.mem_append, List.mem_flatMap, List.mem_cons,
        not_or, not_exists, not_and]
      refine ⟨notMem_showNat rfl _, ?_⟩
      intro pending inside
      have sender := holds.pending entry.1 pending (by simpa [queueOf, found] using inside)
      exact ⟨blank, nul_notMem_block (NotificationQueue.nul_notMem_pending sender)⟩
    simp only [serializeQueue, List.mem_append, List.mem_cons, not_or]
    exact ⟨holds.users entry.1 (UnorderedMap.mem_of_lookup found), blank, nul_notMem_block queue⟩
  simp only [serialize, List.mem_append, List.mem_cons, List.mem_flatMap, not_or, not_exists,
    not_and]
  refine ⟨notMem_showNat rfl _, by decide, ?_, by decide, ?_⟩
  · exact fun entry member => ⟨lists entry member, by decide⟩
  · exact fun entry member => ⟨queues entry member, by decide⟩

end Encoding

end NotificationManager

end TwitterClone
