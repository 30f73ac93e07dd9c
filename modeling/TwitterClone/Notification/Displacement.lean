import TwitterClone.Notification.Backing

/-! Two sessions of one user. The map of subscribers is keyed by 32 bits of an id that
has 64, so one session can take the place of the other. -/
namespace TwitterClone

open Foundation

/-- The call subscribes a session with this queue. -/
def Operation.Brings (queue : QueueRef) : Operation → Prop
  | .subscribe _ _ session => session = queue
  | _ => False

/-- The call is the end of this session. -/
def Operation.Ends (user : Text) (id : Nat) : Operation → Prop
  | .unsubscribe username stranger => username = user ∧ stranger = id
  | _ => False

/-- The call is the end of a session of the user whose id is another and has the same key. -/
def Operation.Displaces (user : Text) (id : Nat) : Operation → Prop
  | .unsubscribe username stranger =>
    username = user ∧ stranger ≠ id ∧ uint32 stranger = uint32 id
  | _ => False

namespace NotificationManager

/-- The manager after some calls, whatever they are. -/
def after (manager : NotificationManager) : List Operation → NotificationManager
  | [] => manager
  | operation :: rest => (manager.call operation).manager.after rest

/-- A notification that somebody known sends to the user comes to the queue, once. -/
def Serves (manager : NotificationManager) (user : Text) (queue : QueueRef) : Prop :=
  ∀ notification followers, notification.username ∈ manager.notifications → followers.Nodup →
    user ∈ followers →
    received (manager.send notification followers).inserted queue = [manager.issue notification]

/-- Both sessions are served, and each one still is when the other ends. -/
structure Undisturbed (manager : NotificationManager) (user : Text) (first second : Nat)
    (queue other : QueueRef) : Prop where
  servesFirst : manager.Serves user queue
  servesSecond : manager.Serves user other
  withoutFirst : (manager.unsubscribe user first).manager.Serves user other
  withoutSecond : (manager.unsubscribe user second).manager.Serves user queue

/-- No session of the user has the key of the id. -/
def Free (manager : NotificationManager) (user : Text) (id : Nat) : Prop :=
  uint32 id ∉ (manager.queueOf user).subscribersQueue

instance decidableFree (manager : NotificationManager) (user : Text) (id : Nat) :
    Decidable (manager.Free user id) :=
  inferInstanceAs (Decidable (_ ∉ _))

/-- The user has the queue under the key. -/
def Listed (manager : NotificationManager) (user : Text) (key : Nat) (queue : QueueRef) : Prop :=
  (key, queue) ∈ (manager.queueOf user).subscribersQueue.entries

instance decidableListed (manager : NotificationManager) (user : Text) (key : Nat)
    (queue : QueueRef) : Decidable (manager.Listed user key queue) :=
  inferInstanceAs (Decidable (_ ∈ _))

/-- The queue is nobody else's and under no other key. -/
def OnlyUnder (manager : NotificationManager) (user : Text) (key : Nat) (queue : QueueRef) :
    Prop :=
  ∀ name stranger, manager.Listed name stranger queue → name = user ∧ stranger = key

section Registered

variable {manager : NotificationManager} {sender : Text}

theorem registered_sendToEach (notification : Notification) (followers : List Text)
    (known : sender ∈ manager.notifications) :
    sender ∈ (manager.sendToEach notification followers).1.notifications := by
  induction followers generalizing manager with
  | nil => exact known
  | cons follower rest ih =>
    have step : sender ∈ (manager.sendTo notification follower).1.notifications := by
      unfold sendTo
      split
      next =>
        dsimp only
        split
        next =>
          rw [countLastDown, mem_notifications_changeStored, mem_notifications_setQueue]
          exact known
        next =>
          rw [mem_notifications_setQueue]
          exact known
      next => exact known
    exact ih step

theorem registered_drain (username : Text) (turns : Nat)
    (known : sender ∈ manager.notifications) :
    sender ∈ (manager.drain username turns).1.notifications := by
  induction turns generalizing manager with
  | zero => exact known
  | succ turns ih =>
    rw [drain]
    split
    next =>
      refine ih ?_
      rw [drainOne]
      dsimp only
      split
      next =>
        have kept : ∀ pending queue,
            sender ∈ ((manager.setQueue username queue).findNotification pending).2.notifications := by
          intro pending queue
          unfold findNotification
          split
          next =>
            split
            next =>
              rw [mem_notifications_changeStored, mem_notifications_setQueue]
              exact known
            next =>
              rw [mem_notifications_setQueue]
              exact known
          next =>
            rw [mem_notifications_setQueue]
            exact known
        have member := kept (manager.queueOf username).removePending.1
          (manager.queueOf username).removePending.2
        split
        next result next found =>
          rw [found] at member
          exact member
        next next found =>
          rw [found] at member
          exact member
      next =>
        rw [mem_notifications_setQueue]
        exact known
    next => exact known

theorem registered_register (username : Text) (known : sender ∈ manager.notifications) :
    sender ∈ (manager.register username).notifications :=
  (UnorderedMap.mem_emplace ..).mpr (Or.inr known)

/-- Nobody is forgotten. -/
theorem registered_call (operation : Operation) (known : sender ∈ manager.notifications) :
    sender ∈ (manager.call operation).manager.notifications := by
  cases operation with
  | loadUsers usernames =>
    rw [call, loadUsers]
    induction usernames generalizing manager with
    | nil => exact known
    | cons username rest ih => exact ih (registered_register username known)
  | subscribe username id session =>
    rw [call, subscribe]
    split
    next =>
      refine registered_drain username _ ?_
      rw [addSubscriber, mem_notifications_setQueue]
      exact known
    next =>
      rw [addSubscriber, mem_notifications_setQueue]
      exact registered_register username known
  | unsubscribe username id =>
    rw [call, unsubscribe]
    split
    next =>
      rw [mem_notifications_setQueue]
      exact known
    next => exact known
  | send notification followers =>
    rw [call]
    by_cases registered : notification.username ∈ manager.notifications
    · rw [send_registered manager notification followers registered]
      exact ((popSettled_frame _ _).2.2 sender).mpr
        (registered_sendToEach _ _ ((mem_created manager notification sender).mpr known))
    · rw [send_unregistered manager notification followers registered]
      exact known

end Registered

section Listing

variable {manager : NotificationManager} {user : Text} {key : Nat} {queue : QueueRef}

theorem mem_emplace_entries {map : UnorderedMap Nat QueueRef} {stranger : Nat}
    {session : QueueRef} (away : session ≠ queue) :
    (key, queue) ∈ (map.emplace stranger session).entries ↔ (key, queue) ∈ map.entries := by
  by_cases known : stranger ∈ map
  · rw [UnorderedMap.emplace_of_mem _ _ _ known]
  · rw [UnorderedMap.entries_emplace_of_notMem _ _ _ known, List.mem_append, List.mem_singleton]
    refine or_iff_left ?_
    intro same
    exact away (congrArg Prod.snd same).symm

/-- Only an end of a session of the user with this key takes the queue away. -/
theorem listed_call (operation : Operation) (fresh : ¬ operation.Brings queue) :
    (manager.call operation).manager.Listed user key queue ↔
      manager.Listed user key queue ∧
        ∀ id, operation = .unsubscribe user id → uint32 id ≠ key := by
  have kept : ∀ next : NotificationManager, (next.queueOf user).subscribersQueue =
      (manager.queueOf user).subscribersQueue → (∀ id, operation ≠ .unsubscribe user id) →
      (next.Listed user key queue ↔ manager.Listed user key queue ∧
        ∀ id, operation = .unsubscribe user id → uint32 id ≠ key) := by
    intro next same other
    rw [Listed, same]
    exact (and_iff_left fun id equal => absurd equal (other id)).symm
  cases operation with
  | loadUsers usernames =>
    refine kept _ ?_ (fun id equal => by cases equal)
    exact congrArg NotificationQueue.subscribersQueue
      (World.queueOf_loadUsers manager usernames user)
  | subscribe username id session =>
    have queues := (subscribe_frame manager username id session).1 user
    have other : ∀ stranger, Operation.subscribe username id session ≠ .unsubscribe user stranger :=
      fun stranger equal => by cases equal
    by_cases here : user = username
    · rw [if_pos here] at queues
      rw [call, Listed, queues, here]
      exact (mem_emplace_entries fresh).trans
        (and_iff_left fun stranger equal => by cases equal).symm
    · rw [if_neg here] at queues
      exact kept _ (congrArg NotificationQueue.subscribersQueue queues) other
  | unsubscribe username id =>
    have queues := @queueOf_unsubscribe manager username id user
    by_cases here : user = username
    · subst here
      rw [if_pos rfl] at queues
      rw [call, Listed, queues]
      show (key, queue) ∈ ((manager.queueOf user).subscribersQueue.entries.filter _) ↔ _
      rw [List.mem_filter, decide_eq_true_eq]
      refine and_congr_right fun _ => ⟨?_, fun differs same => differs id rfl same.symm⟩
      rintro differs stranger equal
      cases equal
      exact fun same => differs same.symm
    · rw [if_neg here] at queues
      refine kept _ (congrArg NotificationQueue.subscribersQueue queues) ?_
      intro stranger equal
      cases equal
      exact here rfl
  | send notification followers =>
    exact kept _ ((send_reaches manager notification followers).subscribers user)
      (fun id equal => by cases equal)

theorem after_append (first second : List Operation) :
    manager.after (first ++ second) = (manager.after first).after second := by
  induction first generalizing manager with
  | nil => rfl
  | cons operation rest ih => exact ih

theorem listed_of_after {operations : List Operation}
    (fresh : ∀ operation ∈ operations, ¬ operation.Brings queue)
    (listed : (manager.after operations).Listed user key queue) :
    manager.Listed user key queue := by
  induction operations generalizing manager with
  | nil => exact listed
  | cons operation rest ih =>
    obtain ⟨here, later⟩ := List.forall_mem_cons.mp fresh
    exact ((listed_call operation here).mp (ih later listed)).1

theorem OnlyUnder.after (only : manager.OnlyUnder user key queue) {operations : List Operation}
    (fresh : ∀ operation ∈ operations, ¬ operation.Brings queue) :
    (manager.after operations).OnlyUnder user key queue :=
  fun name stranger listed => only name stranger (listed_of_after fresh listed)

/-- A session that does not end itself stays listed as long as no other one with its key
ends. -/
theorem listed_after (id : Nat) (operations : List Operation)
    (fresh : ∀ operation ∈ operations, ¬ operation.Brings queue)
    (going : ∀ operation ∈ operations, ¬ operation.Ends user id) :
    (manager.after operations).Listed user (uint32 id) queue ↔
      manager.Listed user (uint32 id) queue ∧
        ∀ operation ∈ operations, ¬ operation.Displaces user id := by
  induction operations generalizing manager with
  | nil => simp [NotificationManager.after]
  | cons operation rest ih =>
    obtain ⟨freshHere, freshLater⟩ := List.forall_mem_cons.mp fresh
    obtain ⟨goingHere, goingLater⟩ := List.forall_mem_cons.mp going
    have step : (∀ stranger, operation = .unsubscribe user stranger →
        uint32 stranger ≠ uint32 id) ↔ ¬ operation.Displaces user id := by
      constructor
      · intro differs displaces
        cases operation with
        | unsubscribe username stranger =>
          obtain ⟨rfl, -, same⟩ := displaces
          exact differs stranger rfl same
        | loadUsers _ => exact displaces
        | subscribe _ _ _ => exact displaces
        | send _ _ => exact displaces
      · rintro kept stranger rfl same
        refine kept ⟨rfl, ?_, same⟩
        exact fun equal => goingHere ⟨rfl, equal⟩
    rw [NotificationManager.after, ih freshLater goingLater, listed_call operation freshHere, step,
      List.forall_mem_cons, and_assoc]

theorem registered_after (operations : List Operation) {sender : Text}
    (known : sender ∈ manager.notifications) : sender ∈ (manager.after operations).notifications := by
  induction operations generalizing manager with
  | nil => exact known
  | cons operation rest ih => exact ih (registered_call operation known)

/-- A new session is listed exactly when its key was free. -/
theorem listed_subscribe {id : Nat} (unused : ∀ stranger, ¬ manager.Listed user stranger queue) :
    (manager.subscribe user id queue).manager.Listed user (uint32 id) queue ↔
      manager.Free user id := by
  rw [Listed, (subscribe_frame manager user id queue).1 user, if_pos rfl]
  show (uint32 id, queue) ∈ ((manager.queueOf user).subscribersQueue.emplace _ _).entries ↔ _
  by_cases known : uint32 id ∈ (manager.queueOf user).subscribersQueue
  · rw [UnorderedMap.emplace_of_mem _ _ _ known]
    exact iff_of_false (unused (uint32 id)) (not_not_intro known)
  · rw [UnorderedMap.entries_emplace_of_notMem _ _ _ known]
    exact iff_of_true (List.mem_append_right _ (List.mem_singleton_self _)) known

theorem onlyUnder_subscribe (user : Text) (id : Nat)
    (unused : ∀ name stranger, ¬ manager.Listed name stranger queue) :
    (manager.subscribe user id queue).manager.OnlyUnder user (uint32 id) queue := by
  intro name stranger listed
  rw [Listed, (subscribe_frame manager user id queue).1 name] at listed
  by_cases here : name = user
  · refine ⟨here, ?_⟩
    rw [if_pos here] at listed
    change (stranger, queue) ∈ ((manager.queueOf user).subscribersQueue.emplace _ _).entries
      at listed
    by_cases known : uint32 id ∈ (manager.queueOf user).subscribersQueue
    · rw [UnorderedMap.emplace_of_mem _ _ _ known] at listed
      exact absurd listed (unused user stranger)
    · rw [UnorderedMap.entries_emplace_of_notMem _ _ _ known] at listed
      rcases List.mem_append.mp listed with old | new
      · exact absurd old (unused user stranger)
      · exact congrArg Prod.fst (List.mem_singleton.mp new)
  · rw [if_neg here] at listed
    exact absurd listed (unused name stranger)

/-- What comes to a queue that is under one key of one user. -/
theorem OnlyUnder.received_user (only : manager.OnlyUnder user key queue) (name : Text)
    (notification : Notification) :
    received ((manager.queueOf name).insertToSubscribers notification) queue =
      if name = user ∧ manager.Listed user key queue then [notification] else [] := by
  have once : ((manager.queueOf name).subscribersQueue.entries.filter (·.2 = queue)) =
      if name = user ∧ manager.Listed user key queue then [(key, queue)] else [] := by
    have distinct := (manager.queueOf name).subscribersQueue.distinct
    split
    next both =>
      obtain ⟨rfl, listed⟩ := both
      refine List.perm_singleton.mp ((List.perm_ext_iff_of_nodup ?_ (List.nodup_singleton _)).mpr ?_)
      · exact (List.Nodup.of_map _ distinct).filter _
      · rintro ⟨stranger, session⟩
        rw [List.mem_filter, List.mem_singleton, decide_eq_true_eq]
        constructor
        · rintro ⟨inside, rfl⟩
          exact Prod.ext (only name stranger inside).2 rfl
        · intro same
          cases same
          exact ⟨listed, rfl⟩
    next neither =>
      refine List.filter_eq_nil_iff.mpr ?_
      rintro ⟨stranger, session⟩ inside same
      obtain rfl : session = queue := of_decide_eq_true same
      obtain ⟨rfl, rfl⟩ := only name stranger inside
      exact neither ⟨rfl, inside⟩
  have shape : received ((manager.queueOf name).insertToSubscribers notification) queue =
      ((manager.queueOf name).subscribersQueue.entries.filter (·.2 = queue)).map
        fun _ => notification := by
    rw [received, NotificationQueue.insertToSubscribers, List.filter_map, List.map_map]
    rfl
  rw [shape, once]
  split <;> rfl

/-- A queue is served exactly when it is listed. -/
theorem OnlyUnder.serves_iff (only : manager.OnlyUnder user key queue)
    (known : user ∈ manager.notifications) :
    manager.Serves user queue ↔ manager.Listed user key queue := by
  have sent : ∀ notification followers, notification.username ∈ manager.notifications →
      followers.Nodup → received (manager.send notification followers).inserted queue =
        if user ∈ followers ∧ manager.Listed user key queue
        then [manager.issue notification] else [] := by
    intro notification followers sender distinct
    have handed := flatMap_ite_singleton followers distinct
      (fun name => name = user ∧ manager.Listed user key queue) user (fun _ both => both.1)
      (manager.issue notification)
    simp only [true_and] at handed
    rw [(sentOn_send manager notification sender distinct).inserted, received_flatMap]
    simp only [only.received_user]
    exact handed
  constructor
  · intro serves
    have handed := serves ⟨0, 0, user, 0, []⟩ [user] known (List.nodup_singleton _)
      (List.mem_singleton_self _)
    rw [sent _ _ known (List.nodup_singleton _)] at handed
    by_contra absent
    rw [if_neg fun both => absent both.2] at handed
    cases handed
  · intro listed notification followers sender distinct member
    rw [sent notification followers sender distinct, if_pos ⟨member, listed⟩]

end Listing

section Pair

variable {manager : NotificationManager} {user : Text} {first second : Nat}
  {queue other : QueueRef}

/-- Where the two queues are where they belong, it is enough that both are listed. -/
theorem undisturbed_iff_listed (known : user ∈ manager.notifications) (apart : queue ≠ other)
    (onlyFirst : manager.OnlyUnder user (uint32 first) queue)
    (onlySecond : manager.OnlyUnder user (uint32 second) other) :
    manager.Undisturbed user first second queue other ↔
      manager.Listed user (uint32 first) queue ∧ manager.Listed user (uint32 second) other := by
  constructor
  · intro undisturbed
    exact ⟨(onlyFirst.serves_iff known).mp undisturbed.servesFirst,
      (onlySecond.serves_iff known).mp undisturbed.servesSecond⟩
  · rintro ⟨listedFirst, listedSecond⟩
    have keys : uint32 first ≠ uint32 second := by
      intro same
      rw [Listed, same] at listedFirst
      exact apart (Option.some.inj ((UnorderedMap.lookup_eq_some.mpr listedFirst).symm.trans
        (UnorderedMap.lookup_eq_some.mpr listedSecond)))
    have without : ∀ {id key : Nat} {session : QueueRef}, manager.OnlyUnder user key session →
        manager.Listed user key session → uint32 id ≠ key →
        (manager.unsubscribe user id).manager.Serves user session := by
      intro id key session only listed differs
      have call := @listed_call manager user key session (.unsubscribe user id) not_false
      have kept : (manager.unsubscribe user id).manager.OnlyUnder user key session :=
        fun name stranger still => only name stranger
          ((@listed_call manager name stranger session (.unsubscribe user id) not_false).mp still).1
      refine (kept.serves_iff (registered_call (.unsubscribe user id) known)).mpr (call.mpr ?_)
      refine ⟨listed, ?_⟩
      rintro stranger equal
      cases equal
      exact differs
    exact ⟨(onlyFirst.serves_iff known).mpr listedFirst,
      (onlySecond.serves_iff known).mpr listedSecond, without onlySecond listedSecond keys,
      without onlyFirst listedFirst keys.symm⟩

end Pair

/-- Two sessions of a user with queues of their own, one subscribed after the other: at the
end of any calls that end neither of them both are served, and either one without the
other, exactly when the keys were free and no session with one of them ended. -/
theorem undisturbed_iff (manager : NotificationManager) (user : Text) (first second : Nat)
    (queue other : QueueRef) (between later : List Operation)
    (known : user ∈ manager.notifications) (apart : queue ≠ other)
    (unused : ∀ name key, ¬ manager.Listed name key queue ∧ ¬ manager.Listed name key other)
    (fresh : ∀ operation ∈ between ++ later,
      ¬ operation.Brings queue ∧ ¬ operation.Brings other)
    (goingFirst : ∀ operation ∈ between ++ later, ¬ operation.Ends user first)
    (goingSecond : ∀ operation ∈ later, ¬ operation.Ends user second) :
    (manager.after (.subscribe user first queue ::
        (between ++ .subscribe user second other :: later))).Undisturbed
        user first second queue other ↔
      manager.Free user first ∧
      (manager.after (.subscribe user first queue :: between)).Free user second ∧
      (∀ operation ∈ between ++ later, ¬ operation.Displaces user first) ∧
      ∀ operation ∈ later, ¬ operation.Displaces user second := by
  set calls := between ++ .subscribe user second other :: later
  set middle := manager.after (.subscribe user first queue :: between)
  have shape : manager.after (.subscribe user first queue :: calls) =
      (middle.subscribe user second other).manager.after later := by
    rw [← List.cons_append, after_append]
    rfl
  have member : ∀ operation, operation ∈ calls ↔
      operation = .subscribe user second other ∨ operation ∈ between ++ later := by
    intro operation
    rw [List.mem_append, List.mem_cons, List.mem_append]
    exact or_left_comm
  -- the first session, from its subscription on
  have freshFirst : ∀ operation ∈ calls, ¬ operation.Brings queue := by
    intro operation inside
    rcases (member operation).mp inside with rfl | elsewhere
    · exact apart.symm
    · exact (fresh operation elsewhere).1
  have onlyFirst := (onlyUnder_subscribe user first fun name key => (unused name key).1).after
    freshFirst
  have listedFirst : (manager.after (.subscribe user first queue :: calls)).Listed user
      (uint32 first) queue ↔ manager.Free user first ∧
        ∀ operation ∈ between ++ later, ¬ operation.Displaces user first := by
    refine (listed_after first calls freshFirst ?_).trans
      (and_congr (listed_subscribe fun key => (unused user key).1) ?_)
    · intro operation inside
      rcases (member operation).mp inside with rfl | elsewhere
      · exact not_false
      · exact goingFirst operation elsewhere
    · constructor
      · intro kept operation inside
        exact kept operation ((member operation).mpr (Or.inr inside))
      · intro kept operation inside
        rcases (member operation).mp inside with rfl | elsewhere
        · exact not_false
        · exact kept operation elsewhere
  -- the second one, from its subscription on
  have freshSecond : ∀ operation ∈ later, ¬ operation.Brings other :=
    fun operation inside => (fresh operation (List.mem_append_right between inside)).2
  have unusedSecond : ∀ name key, ¬ middle.Listed name key other := by
    intro name key listed
    refine (unused name key).2 (listed_of_after ?_ listed)
    refine List.forall_mem_cons.mpr ⟨apart, ?_⟩
    exact fun operation inside => (fresh operation (List.mem_append_left later inside)).2
  have onlySecond := (onlyUnder_subscribe user second unusedSecond).after freshSecond
  have listedSecond := (listed_after second later freshSecond goingSecond).trans
    (and_congr_left' (listed_subscribe (unusedSecond user)))
  rw [← shape] at onlySecond listedSecond
  have registered := registered_after (.subscribe user first queue :: calls) known
  rw [undisturbed_iff_listed registered apart onlyFirst onlySecond, listedFirst, listedSecond]
  constructor
  · rintro ⟨⟨freeFirst, keptFirst⟩, freeSecond, keptSecond⟩
    exact ⟨freeFirst, freeSecond, keptFirst, keptSecond⟩
  · rintro ⟨freeFirst, freeSecond, keptFirst, keptSecond⟩
    exact ⟨⟨freeFirst, keptFirst⟩, freeSecond, keptSecond⟩

/-- A known user without sessions. -/
def lonely : NotificationManager := (loadUsers {} [['u']]).manager

theorem unlisted_lonely (name : Text) (key : Nat) (queue : QueueRef) :
    ¬ lonely.Listed name key queue := by
  rw [Listed, lonely, World.queueOf_loadUsers]
  exact List.not_mem_nil

/-- Two sessions with keys of their own, a third one between them that ends, and a send. -/
theorem undisturbed_lonely :
    (lonely.after [.subscribe ['u'] 7 0, .subscribe ['u'] 8 1, .subscribe ['u'] 9 2,
      .unsubscribe ['u'] 8, .send ⟨-1, 5, ['u'], 1, ['x']⟩ [['u']]]).Undisturbed ['u'] 7 9 0 2 :=
  (undisturbed_iff lonely ['u'] 7 9 0 2 [.subscribe ['u'] 8 1]
    [.unsubscribe ['u'] 8, .send ⟨-1, 5, ['u'], 1, ['x']⟩ [['u']]] (by decide) (by decide)
    (fun name key => ⟨unlisted_lonely name key 0, unlisted_lonely name key 2⟩)
    (by simp [Operation.Brings]) (by simp [Operation.Ends]) (by simp [Operation.Ends])).mpr
    ⟨by decide, by decide, by simp [Operation.Displaces, uint32],
      by simp [Operation.Displaces, uint32]⟩

/-- A second handle whose lower half is that of the first is not served, and its end is
the end of the first. -/
theorem not_undisturbed_lowerHalf :
    ¬ (lonely.after [.subscribe ['u'] 7 0,
      .subscribe ['u'] (2 ^ 32 + 7) 1]).Undisturbed ['u'] 7 (2 ^ 32 + 7) 0 1 ∧
    ¬ (lonely.after [.subscribe ['u'] 7 0, .subscribe ['u'] (2 ^ 32 + 7) 1]).Serves ['u'] 1 ∧
    ¬ (lonely.after [.subscribe ['u'] 7 0, .subscribe ['u'] (2 ^ 32 + 7) 1,
      .unsubscribe ['u'] (2 ^ 32 + 7)]).Serves ['u'] 0 := by
  have silent : ¬ (lonely.after [.subscribe ['u'] 7 0,
      .subscribe ['u'] (2 ^ 32 + 7) 1]).Serves ['u'] 1 := by
    intro serves
    exact absurd (serves ⟨-1, 5, ['u'], 1, ['x']⟩ [['u']] (by decide) (by decide) (by decide))
      (by decide)
  refine ⟨fun undisturbed => silent undisturbed.servesSecond, silent, ?_⟩
  intro serves
  exact absurd (serves ⟨-1, 5, ['u'], 1, ['x']⟩ [['u']] (by decide) (by decide) (by decide))
    (by decide)

end NotificationManager

end TwitterClone
