import TwitterClone.Replication.OneLeader

/-! The wait of an elector for an answer. It has no predicate and begins after the
question was sent, so an answer can come too early, and a lost peer never answers. -/
namespace TwitterClone

open Foundation

namespace ReplicaNetwork

variable (network : ReplicaNetwork)

/-- The main thread waits for a peer that is lost, with its connection closed, or of
which neither the question nor the answer is on the way any more. -/
def Stuck : Prop :=
  ∃ replica peer rest, network.crashed replica = false ∧
    (network.replicas replica).main = .waiting peer rest ∧
      (network.crashed peer = true ∧ (network.ends replica peer).handler = .closed ∨
        (network.ends peer replica).questions + (network.ends replica peer).answers = 0)

/-- The loss of the peer has been noticed. -/
def noticed (replica peer : ReplicaInfo) : Bool :=
  match (network.ends replica peer).handler with
  | .closing | .closed => true
  | _ => false

/-- The steps after which a waiting thread can be helped: nobody is asked over a
connection whose loss was noticed, no loss is noticed of a peer whose answer is awaited,
and a notification finds the main thread waiting. -/
def helpful : NetworkAction → Bool
  | .main replica =>
    match (network.replicas replica).main with
    | .electing (peer :: _) =>
      !(decide (peer.NotEqual replica ∧ peer.GreaterThan replica) && network.noticed replica peer)
    | _ => true
  | .handler replica peer =>
    match (network.ends replica peer).handler, (network.ends replica peer).incoming with
    | .notifying, _ =>
      match (network.replicas replica).main with
      | .waiting _ _ => true
      | _ => false
    | .receiving, [] => (network.replicas replica).main.outstanding peer == 0
    | _, _ => true
  | .crash _ => true

/-- Every answer that is waited for is on its way, over a connection that is open. -/
structure Awaited : Prop where
  turns : ∀ replica peer,
    (network.ends peer replica).questions + (network.ends replica peer).answers =
      (network.replicas replica).main.outstanding peer
  unnoticed : ∀ replica peer, (network.replicas replica).main.outstanding peer ≠ 0 →
    network.noticed replica peer = false

end ReplicaNetwork

section Steps

variable {group : Membership} {network next : ReplicaNetwork} {replica peer : ReplicaInfo}

/-- Only an electing main thread asks, and it asks the peer at the head of its list. -/
theorem electing_of_question {info : ReplicaInfo} {isClosed : ReplicaInfo → Bool}
    {state changed : ReplicaState} {target : ReplicaInfo} {payload : Text}
    (taken : state.runMain info isClosed = some (changed, some (target, .election payload))) :
    ∃ rest, state.main = .electing (target :: rest) ∧ target.NotEqual info ∧
      target.GreaterThan info := by
  cases mainMove_of_taken taken with
  | asks _ rest main precedes => exact ⟨rest, main, precedes⟩

/-- The main thread begins to wait for a peer only by asking it. -/
theorem electing_of_outstanding {info : ReplicaInfo} {isClosed : ReplicaInfo → Bool}
    {state changed : ReplicaState} {sent : Option (ReplicaInfo × ReplicaMessage)}
    (taken : state.runMain info isClosed = some (changed, sent)) {peer : ReplicaInfo}
    (before : state.main.outstanding peer = 0) (after : changed.main.outstanding peer ≠ 0) :
    ∃ rest, state.main = .electing (peer :: rest) ∧ peer.NotEqual info ∧
      peer.GreaterThan info := by
  have posted := outstanding_runMain taken peer
  rw [before, Nat.zero_add] at posted
  rw [posted] at after
  obtain ⟨message, asked, isElection⟩ := List.countP_pos_iff.mp (Nat.pos_of_ne_zero after)
  rw [ReplicaNetwork.mem_postedTo.mp asked] at taken
  cases message with
  | election payload => exact electing_of_question taken
  | answer payload => cases isElection
  | coordinator payload => cases isElection

theorem awaited_start (group : Membership) : group.start.Awaited where
  turns replica peer := by
    have turns := (sound_start group).turns replica peer
    simp only [Membership.start, MainPoint.outstanding] at turns ⊢
    omega
  unnoticed replica peer asked := absurd rfl asked

theorem awaited_main (awaited : network.Awaited)
    (helpful : network.helpful (.main replica) = true)
    (taken : network.step (.main replica) = some next) : next.Awaited := by
  obtain ⟨alive, changed, sent, moved, same⟩ := step_main taken
  have replicas := replicas_main same
  have ends := ends_main same
  have noticed : ∀ other its, next.noticed other its = network.noticed other its := by
    intro other its
    rw [ReplicaNetwork.noticed, ends]
    rfl
  constructor
  · intro other target
    have before := awaited.turns other target
    have counts := counts_main taken other target
    omega
  · intro other target asked
    rw [noticed]
    rw [replicas] at asked
    split at asked
    next here =>
      subst here
      by_cases before : (network.replicas other).main.outstanding target = 0
      · obtain ⟨rest, electing, precedes⟩ := electing_of_outstanding moved before asked
        simpa [ReplicaNetwork.helpful, electing, precedes] using helpful
      · exact awaited.unnoticed other target before
    next => exact awaited.unnoticed other target asked

/-- What a handler does to the main thread, and when it comes to its end. -/
theorem notice_runHandler {state changed : ReplicaState} {before after : ReplicaEnd}
    {sent : Option ReplicaMessage} {peerCrashed : Bool}
    (taken : before.runHandler replica peerCrashed state = some (changed, after, sent)) :
    changed.main = (if before.handler = .notifying then state.notifyOne.main else state.main) ∧
      (after.handler = .closing ∨ after.handler = .closed →
        before.handler = .closing ∨ before.handler = .receiving ∧ before.incoming = []) := by
  cases handlerMove_of_taken taken with
  | isAsked payload rest receiving =>
    refine ⟨by simp [receiving], ?_⟩
    cases state.startElection <;> simp
  | isTold payload rest receiving => exact ⟨by simp [receiving], by simp [receiving]⟩
  | isAnswered payload rest receiving => exact ⟨by simp [receiving], by simp⟩
  | notices receiving incoming =>
    exact ⟨by simp [receiving], fun _ => Or.inr ⟨receiving, incoming⟩⟩
  | marks payload marking => exact ⟨by simp [marking], by simp⟩
  | answers payload answering => exact ⟨by simp [answering], by simp⟩
  | notifies notifying => exact ⟨by simp [notifying], by simp⟩
  | closes closing => exact ⟨by simp [closing], fun _ => Or.inl closing⟩

theorem noticed_eq_true {replica peer : ReplicaInfo} :
    network.noticed replica peer = true ↔
      (network.ends replica peer).handler = .closing ∨
        (network.ends replica peer).handler = .closed := by
  unfold ReplicaNetwork.noticed
  split
  next closing => simp [closing]
  next closed => simp [closed]
  next other notClosing notClosed =>
    simp only [Bool.false_eq_true, false_iff, not_or]
    exact ⟨notClosing, notClosed⟩

theorem awaited_handler (sound : group.Sound network) (awaited : network.Awaited)
    (helpful : network.helpful (.handler replica peer) = true)
    (taken : network.step (.handler replica peer) = some next) : next.Awaited := by
  obtain ⟨alive, changed, side, sent, moved, same⟩ := step_handler taken
  have effect := effect_runHandler (sound.proper replica peer) moved
  obtain ⟨main, notice⟩ := notice_runHandler moved
  have different := other_of_handler sound moved
  obtain ⟨own, far, elsewhere⟩ := ends_handler changed side sent different same
  have replicas := replicas_handler same
  have quieter : ∀ target, changed.main.outstanding target ≤
      (network.replicas replica).main.outstanding target := by
    intro target
    rw [main]
    split
    next =>
      unfold ReplicaState.notifyOne
      split
      next => simp
      next => exact le_rfl
    next => exact le_rfl
  constructor
  · intro other target
    have before := awaited.turns other target
    have counts := counts_handler effect different own far elsewhere other target
    rw [replicas]
    split
    next here =>
      subst here
      by_cases notifying : (network.ends other peer).handler = .notifying
      · -- the notification finds the main thread waiting, and for this peer
        obtain ⟨waited, rest, waiting⟩ : ∃ waited rest,
            (network.replicas other).main = .waiting waited rest := by
          simp only [ReplicaNetwork.helpful, notifying] at helpful
          split at helpful
          next waited rest waiting => exact ⟨waited, rest, waiting⟩
          next => cases helpful
        have telling : 1 ≤ (network.ends other peer).answers := by
          simp [ReplicaEnd.answers, notifying]
        have asked := awaited.turns other peer
        have woken : changed.main = .woken rest := by
          rw [main, if_pos notifying, ReplicaState.notifyOne, waiting]
        rw [waiting, MainPoint.outstanding] at asked before
        have waitedPeer : waited = peer := by
          by_contra away
          rw [if_neg away] at asked
          omega
        subst waitedPeer
        have quiet : changed.main.outstanding target = 0 := by
          rw [woken]
          rfl
        rw [quiet]
        by_cases there : target = waited
        · rw [if_pos ⟨⟨rfl, there⟩, notifying⟩] at counts
          rw [if_pos there.symm] at before
          omega
        · rw [if_neg fun both => there both.1.2] at counts
          rw [if_neg fun same => there same.symm] at before
          omega
      · rw [if_neg fun both => notifying both.2] at counts
        rw [main, if_neg notifying]
        omega
    next here =>
      rw [if_neg fun both => here both.1.1] at counts
      omega
  · intro other target asked
    have before : (network.replicas other).main.outstanding target ≠ 0 := by
      rw [replicas] at asked
      split at asked
      next here =>
        have limit := quieter target
        rw [here]
        omega
      next => exact asked
    have unnoticed := awaited.unnoticed other target before
    by_contra noticed
    rw [Bool.not_eq_false, noticed_eq_true] at noticed
    by_cases here : other = replica ∧ target = peer
    · obtain ⟨rfl, rfl⟩ := here
      rw [own] at noticed
      rcases notice noticed with closing | ⟨receiving, empty⟩
      · rw [noticed_eq_true.mpr (Or.inl closing)] at unnoticed
        cases unnoticed
      · simp only [ReplicaNetwork.helpful, receiving, empty, beq_iff_eq] at helpful
        exact before helpful
    · have sameHandler : (next.ends other target).handler = (network.ends other target).handler := by
        by_cases there : other = peer ∧ target = replica
        · rw [there.1, there.2, far]
          rfl
        · rw [elsewhere other target here there]
      rw [sameHandler, ← noticed_eq_true, unnoticed] at noticed
      cases noticed

theorem awaited_crash (awaited : network.Awaited)
    (taken : network.step (.crash replica) = some next) : next.Awaited := by
  have replicas := replicas_crash taken
  have ends := ends_crash taken
  constructor
  · intro other target
    rw [replicas, ends]
    exact awaited.turns other target
  · intro other target asked
    rw [replicas] at asked
    rw [ReplicaNetwork.noticed, ends]
    exact awaited.unnoticed other target asked

theorem awaited_run {actions : List NetworkAction}
    (meets : AllMeet ReplicaNetwork.step (fun network action => network.helpful action = true)
      group.start actions)
    (reached : run ReplicaNetwork.step group.start actions = some network) : network.Awaited := by
  have kept : ∀ state action next, group.Sound state ∧ state.Awaited →
      state.helpful action = true → state.step action = some next →
        group.Sound next ∧ next.Awaited := by
    rintro state action next ⟨sound, awaited⟩ helpful taken
    refine ⟨sound_step sound taken, ?_⟩
    cases action with
    | main replica => exact awaited_main awaited helpful taken
    | handler replica peer => exact awaited_handler sound awaited helpful taken
    | crash replica => exact awaited_crash awaited taken
  exact (run_preserves kept ⟨sound_start group, awaited_start group⟩ meets reached).2

end Steps

/-- In a run of helpful steps no main thread waits for an answer that cannot come. -/
theorem notStuck_of_run (group : Membership) (actions : List NetworkAction)
    (network : ReplicaNetwork)
    (meets : AllMeet ReplicaNetwork.step (fun network action => network.helpful action = true)
      group.start actions)
    (reached : run ReplicaNetwork.step group.start actions = some network) : ¬ network.Stuck := by
  have awaited := awaited_run meets reached
  rintro ⟨replica, peer, rest, -, waiting, lost | handled⟩
  · have unnoticed := awaited.unnoticed replica peer (by simp [waiting])
    rw [noticed_eq_true.mpr (Or.inr lost.2)] at unnoticed
    cases unnoticed
  · have turns := awaited.turns replica peer
    rw [handled, waiting] at turns
    simp at turns

/-- The leader crashes, and the second backup asks the first one. -/
def firstAsked : List NetworkAction :=
  List.flatten [[.crash (onHost (-1) 1)],
    List.replicate 2 (.handler (onHost 1 3) (onHost (-1) 1)), List.replicate 4 (.main (onHost 1 3))]

/-- The answer comes while the main thread has not yet begun to wait. -/
def answeredEarly : List NetworkAction :=
  List.flatten [firstAsked, List.replicate 3 (.handler (onHost 0 2) (onHost 1 3)),
    List.replicate 2 (.handler (onHost 1 3) (onHost 0 2)), [.main (onHost 1 3)]]

/-- The first backup crashes before it answers, and the second one notices. -/
def neverAnswered : List NetworkAction :=
  List.flatten [firstAsked, [.main (onHost 1 3), .crash (onHost 0 2)],
    List.replicate 2 (.handler (onHost 1 3) (onHost 0 2))]

/-- In the first run the answer has been handled already, and in the second the peer
that was asked is lost and its connection closed. -/
theorem stuck_of_answeredEarly_of_neverAnswered :
    (∃ network, run ReplicaNetwork.step threeReplicas.start answeredEarly = some network ∧
      network.Stuck) ∧
    ∃ network, run ReplicaNetwork.step threeReplicas.start neverAnswered = some network ∧
      network.Stuck := by
  constructor
  · have outcome : (run ReplicaNetwork.step threeReplicas.start answeredEarly).map
        (fun network => (network.crashed (onHost 1 3), (network.replicas (onHost 1 3)).main,
          (network.ends (onHost 0 2) (onHost 1 3)).questions +
            (network.ends (onHost 1 3) (onHost 0 2)).answers)) =
          some (false, .waiting (onHost 0 2) [], 0) := by
      decide +kernel
    obtain ⟨network, reached, shape⟩ := Option.map_eq_some_iff.mp outcome
    obtain ⟨alive, rest⟩ := Prod.mk.inj shape
    obtain ⟨waiting, handled⟩ := Prod.mk.inj rest
    exact ⟨network, reached, onHost 1 3, onHost 0 2, [], alive, waiting, Or.inr handled⟩
  · have outcome : (run ReplicaNetwork.step threeReplicas.start neverAnswered).map
        (fun network => (network.crashed (onHost 1 3), (network.replicas (onHost 1 3)).main,
          network.crashed (onHost 0 2),
          decide ((network.ends (onHost 1 3) (onHost 0 2)).handler = .closed))) =
          some (false, .waiting (onHost 0 2) [], true, true) := by
      decide +kernel
    obtain ⟨network, reached, shape⟩ := Option.map_eq_some_iff.mp outcome
    obtain ⟨alive, rest⟩ := Prod.mk.inj shape
    obtain ⟨waiting, lost⟩ := Prod.mk.inj rest
    obtain ⟨crashed, closed⟩ := Prod.mk.inj lost
    exact ⟨network, reached, onHost 1 3, onHost 0 2, [], alive, waiting,
      Or.inl ⟨crashed, of_decide_eq_true closed⟩⟩

/-- Every step of the election that succeeds is helpful. -/
theorem notStuck_of_takenOver :
    ∃ network, run ReplicaNetwork.step threeReplicas.start takenOver = some network ∧
      ¬ network.Stuck := by
  have meets : AllMeet ReplicaNetwork.step (fun network action => network.helpful action = true)
      threeReplicas.start takenOver := by
    decide +kernel
  have outcome : (run ReplicaNetwork.step threeReplicas.start takenOver).isSome = true := by
    decide +kernel
  obtain ⟨network, reached⟩ := Option.isSome_iff_exists.mp outcome
  exact ⟨network, reached, notStuck_of_run threeReplicas takenOver network meets reached⟩

end TwitterClone
