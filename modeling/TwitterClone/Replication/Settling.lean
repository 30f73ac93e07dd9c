import TwitterClone.Replication.Announcement
import TwitterClone.Replication.Waiting

/-! Whether a group comes to rest without a leader. As long as some replica has a reason
to go on it does not. A reason is lost when the last replica that has one crashes, or
when its handler takes the reason up during a round that resets the flag. -/
namespace TwitterClone

open Foundation

/-- The main thread leads, is about to start a round, or has not lost the one it is in. -/
def ReplicaState.stands (state : ReplicaState) : Bool :=
  state.isLeader ||
    match state.main with
    | .accepting | .clearing => state.startElection
    | .pruning _ _ | .electing _ | .sleeping => !state.lostElection
    | .announcing _ | .leading => true
    | .asked _ _ | .waiting _ _ | .woken _ | .resetting => false

namespace ReplicaEnd

/-- The handler will set `startElection`, now or when the peer is lost. -/
def hears (side : ReplicaEnd) : Bool :=
  match side.handler with
  | .closing | .closed => false
  | .marking _ => true
  | _ => side.told || side.incoming.any ReplicaMessage.isElection

/-- The handler's next step makes the flag all that is left of what it heard. -/
def takesUp (side : ReplicaEnd) (state : ReplicaState) : Bool :=
  match side.handler, side.incoming with
  | .receiving, .election _ :: _ => state.startElection && !side.told
  | .receiving, [] => side.isConnectedToLeader
  | .marking _, _ => !side.told
  | _, _ => false

end ReplicaEnd

/-- The main thread asked a peer whose answer cannot come. -/
def ReplicaNetwork.blocked (network : ReplicaNetwork) (replica : ReplicaInfo) : Bool :=
  match (network.replicas replica).main with
  | .asked peer _ | .waiting peer _ =>
    (network.ends replica peer).answers == 0 &&
      (network.crashed peer || (network.ends peer replica).questions == 0)
  | _ => false

namespace Membership

variable (group : Membership) (network : ReplicaNetwork)

/-- Some live replica has a reason to go on, besides what one end has heard. -/
def Hopeful (beside : Option (ReplicaInfo × ReplicaInfo)) : Prop :=
  ∃ replica ∈ group.members, network.crashed replica = false ∧
    ((network.replicas replica).stands = true ∨ network.blocked replica = true ∨
      ∃ peer ∈ group.members, (network.ends replica peer).hears = true ∧
        some (replica, peer) ≠ beside)

instance decidableHopeful (beside : Option (ReplicaInfo × ReplicaInfo)) :
    Decidable (group.Hopeful network beside) :=
  inferInstanceAs (Decidable (∃ replica ∈ group.members, _))

/-- Whoever lives, somebody has a reason to go on. -/
def Kept : Prop := (∃ replica ∈ group.members, network.crashed replica = false) →
  group.Hopeful network none

instance decidableKept : Decidable (group.Kept network) :=
  inferInstanceAs (Decidable ((∃ replica ∈ group.members, _) → _))

/-- The steps that do not take the last reason away. A handler takes up what it heard
when the main thread accepts, or there is another reason. Whoever crashes leads, or
leaves a reason behind. -/
def Spares : NetworkAction → Prop
  | .main _ => True
  | .handler replica peer =>
    (network.ends replica peer).takesUp (network.replicas replica) = true →
      (network.replicas replica).main = .accepting ∨ (network.replicas replica).main = .clearing ∨
        group.Hopeful network (some (replica, peer))
  | .crash replica => (network.replicas replica).isLeader = true ∨
    group.Kept (network.setReplica replica { network.replicas replica with crashed := true })

instance decidableSpares : (action : NetworkAction) →
    Decidable (group.Spares network action)
  | .main _ => isTrue trivial
  | .handler _ _ => inferInstanceAs (Decidable (_ → _ ∨ _ ∨ _))
  | .crash _ => inferInstanceAs (Decidable (_ ∨ _))

/-- No message is on its way or being handled, every loss has been noticed, and whoever
lives is idle. -/
def Settled : Prop :=
  ∀ replica ∈ group.members, network.crashed replica = false →
    (network.replicas replica).main = .accepting ∧
      (network.replicas replica).startElection = false ∧
      ∀ peer ∈ group.members,
        (network.ends replica peer).incoming = [] ∧
          ((network.ends replica peer).handler = .receiving ∨
            network.noticed replica peer = true) ∧
          (network.crashed peer = true → network.noticed replica peer = true)

instance decidableSettled : Decidable (group.Settled network) :=
  inferInstanceAs (Decidable (∀ replica ∈ group.members, _ → _))

/-- If some replica lives, one leads. -/
def Led : Prop := (∃ replica ∈ group.members, network.crashed replica = false) →
  ∃ replica ∈ group.members, network.Leads replica

instance decidableLed : Decidable (group.Led network) :=
  inferInstanceAs (Decidable ((∃ replica ∈ group.members, _) →
    ∃ replica ∈ group.members, _ = false ∧ _ = true))

end Membership

section Steps

variable {group : Membership} {network next : ReplicaNetwork} {replica peer : ReplicaInfo}

/-- A main thread gives its reason up only to the peer that it asks. -/
theorem stands_runMain {isClosed : ReplicaInfo → Bool} {state changed : ReplicaState}
    {sent : Option (ReplicaInfo × ReplicaMessage)}
    (fresh : state.main = .accepting → state.lostElection = false) (stands : state.stands = true)
    (taken : state.runMain replica isClosed = some (changed, sent)) :
    changed.stands = true ∨ ∃ target rest payload, changed.main = .asked target rest ∧
      sent = some (target, .election payload) := by
  simp only [ReplicaState.stands, Bool.or_eq_true] at stands
  cases mainMove_of_taken taken with
  | stirs main => simp [ReplicaState.stands, fresh main]
  | asks => exact Or.inr ⟨_, _, _, rfl, rfl⟩
  | goesOn rest main =>
    left
    simp only [main, Bool.false_eq_true, or_false] at stands
    simp [ReplicaState.stands, stands]
  | rises main =>
    left
    cases lost : state.lostElection with
    | false => simp [ReplicaState.stands]
    | true => simpa [ReplicaState.stands, main, lost] using stands
  | announced | announces | leads => simp [ReplicaState.stands]
  | elected main | resets main | clears main => simpa [ReplicaState.stands, main] using stands
  | pruned kept main => simpa [ReplicaState.stands, main] using stands
  | prunes kept peer rest main => simpa [ReplicaState.stands, main] using stands
  | skips peer rest main => simpa [ReplicaState.stands, main] using stands
  | waits peer rest main => simpa [ReplicaState.stands, main] using stands

/-- The election is not lost yet when a round begins. -/
theorem fresh_runMain {isClosed : ReplicaInfo → Bool} {state changed : ReplicaState}
    {sent : Option (ReplicaInfo × ReplicaMessage)}
    (taken : state.runMain replica isClosed = some (changed, sent))
    (accepting : changed.main = .accepting) : changed.lostElection = false := by
  cases mainMove_of_taken taken with
  | clears => rfl
  | goesOn => cases lost : state.lostElection <;> simp [lost] at accepting
  | rises => cases lost : state.lostElection <;> simp [lost] at accepting
  | stirs | pruned | prunes | elected | asks | skips | waits | announced | announces | leads
  | resets => cases accepting

/-- A handler sets flags, and `lostElection` only for an answer. -/
theorem flags_runHandler {state changed : ReplicaState} {before after : ReplicaEnd}
    {sent : Option ReplicaMessage} {peerCrashed : Bool}
    (taken : before.runHandler replica peerCrashed state = some (changed, after, sent)) :
    (changed.lostElection = state.lostElection ∨ before.answers ≠ 0) ∧
      (state.startElection = true → changed.startElection = true) := by
  cases handlerMove_of_taken taken with
  | isAnswered payload rest receiving incoming =>
    refine ⟨Or.inr ?_, id⟩
    simp [ReplicaEnd.answers, incoming]
  | notices => exact ⟨Or.inl rfl, fun set => by simp [set]⟩
  | marks => exact ⟨Or.inl rfl, fun _ => rfl⟩
  | notifies =>
    unfold ReplicaState.notifyOne
    split <;> exact ⟨Or.inl rfl, id⟩
  | isAsked | isTold | answers | closes => exact ⟨Or.inl rfl, id⟩

/-- What an end has heard stays until the handler takes it up. -/
theorem hears_runHandler {state changed : ReplicaState} {before after : ReplicaEnd}
    {sent : Option ReplicaMessage} {peerCrashed : Bool}
    (payloads : .coordinator [] ∉ before.incoming) (hears : before.hears = true)
    (taken : before.runHandler replica peerCrashed state = some (changed, after, sent)) :
    after.hears = true ∨ before.takesUp state = true ∧ changed.startElection = true ∧
      changed.main = state.main := by
  have told := (told_runHandler payloads taken).1
  cases handlerMove_of_taken taken with
  | isAsked payload rest receiving incoming =>
    cases set : state.startElection with
    | false => simp [ReplicaEnd.hears]
    | true =>
      cases already : before.told with
      | true =>
        rw [already] at told
        simp only [ReplicaEnd.told] at told
        simp [ReplicaEnd.hears, ReplicaEnd.told, told]
      | false =>
        exact Or.inr ⟨by simp [ReplicaEnd.takesUp, receiving, incoming, set, already], rfl, rfl⟩
  | isTold payload rest receiving incoming =>
    left
    have already : before.told = true := by
      simp [ReplicaEnd.told, incoming]
    rw [already] at told
    simp only [ReplicaEnd.hears, receiving] at told ⊢
    rw [told, Bool.true_or]
  | isAnswered payload rest receiving incoming =>
    simp only [ReplicaEnd.hears, receiving, Bool.or_eq_true] at hears
    left
    rcases hears with already | asked
    · rw [already] at told
      simp only [ReplicaEnd.hears]
      rw [told, Bool.true_or]
    · simp only [incoming, List.any_cons, ReplicaMessage.isElection, Bool.false_or] at asked
      simp [ReplicaEnd.hears, asked]
  | notices receiving incoming gone =>
    simp only [ReplicaEnd.hears, receiving, ReplicaEnd.told, incoming, List.any_nil,
      Bool.or_false] at hears
    exact Or.inr ⟨by simp [ReplicaEnd.takesUp, receiving, incoming, hears], by simp [hears], rfl⟩
  | marks payload marking =>
    cases already : before.told with
    | true =>
      rw [already] at told
      left
      simp only [ReplicaEnd.hears]
      rw [told, Bool.true_or]
    | false => exact Or.inr ⟨by simp [ReplicaEnd.takesUp, marking, already], rfl, rfl⟩
  | answers payload answering =>
    simp only [ReplicaEnd.hears, answering] at hears ⊢
    exact Or.inl hears
  | notifies notifying =>
    simp only [ReplicaEnd.hears, notifying] at hears ⊢
    exact Or.inl hears
  | closes closing => simp [ReplicaEnd.hears, closing] at hears

theorem ReplicaEnd.hears_push {side : ReplicaEnd} (hears : side.hears = true)
    (messages : List ReplicaMessage) : (side.push messages).hears = true := by
  have told := side.told_push messages
  unfold ReplicaEnd.hears at hears ⊢
  simp only [ReplicaEnd.push] at told ⊢
  split at hears
  next => cases hears
  next => cases hears
  next => rfl
  next =>
    rw [Bool.or_eq_true] at hears
    rw [told, List.any_append]
    rcases hears with already | asked
    · rw [already]
      simp
    · rw [asked]
      simp

/-- Every round begins with the election not lost. -/
def ReplicaNetwork.Fresh (network : ReplicaNetwork) : Prop :=
  ∀ replica, (network.replicas replica).main = .accepting →
    (network.replicas replica).lostElection = false

theorem outstanding_of_blocked {main : MainPoint}
    (waits : ∃ rest, main = .asked peer rest ∨ main = .waiting peer rest) (target : ReplicaInfo) :
    main.outstanding target = if peer = target then 1 else 0 := by
  obtain ⟨rest, rfl | rfl⟩ := waits <;> rfl

theorem blocked_eq_true : network.blocked replica = true ↔
    ∃ peer, (∃ rest, (network.replicas replica).main = .asked peer rest ∨
        (network.replicas replica).main = .waiting peer rest) ∧
      (network.ends replica peer).answers = 0 ∧
        (network.crashed peer = true ∨ (network.ends peer replica).questions = 0) := by
  unfold ReplicaNetwork.blocked
  split
  next peer rest main => simp [main]
  next peer rest main => simp [main]
  next apart waiting =>
    simp only [Bool.false_eq_true, false_iff]
    rintro ⟨peer, ⟨rest, main | main⟩, -⟩
    · exact apart _ _ main
    · exact waiting _ _ main

/-- The main threads lose no reason. -/
theorem hopeful_main (sound : group.Sound network) (fresh : network.Fresh)
    (hopeful : group.Hopeful network none) (taken : network.step (.main replica) = some next) :
    group.Hopeful next none := by
  obtain ⟨alive, changed, sent, moved, same⟩ := step_main taken
  have frame := frame_runMain moved
  have replicas := replicas_main same
  have ends := ends_main same
  have crashed := crashed_of_replicas replicas frame.crashed
  have answers : ∀ other its, (next.ends other its).answers = (network.ends other its).answers := by
    intro other its
    rw [ends, ReplicaEnd.answers_push]
    split
    next => rw [postedTo_main frame other, Nat.add_zero]
    next => rfl
  obtain ⟨other, member, living, stands | blocked | ⟨its, inside, hears, -⟩⟩ := hopeful
  · by_cases here : other = replica
    · subst here
      rcases stands_runMain (fresh other) stands moved with
        stands | ⟨target, rest, payload, asked, posted⟩
      · refine ⟨other, member, by rw [crashed, living], Or.inl ?_⟩
        rw [replicas, if_pos rfl, stands]
      · subst posted
        obtain ⟨before, electing, apart, -⟩ := electing_of_question moved
        have waited := sound.turns other target
        rw [electing] at waited
        by_cases lost : network.crashed target = true
        · -- The question was asked of a lost peer, and nobody answers it.
          refine ⟨other, member, by rw [crashed, living], Or.inr (Or.inl ?_)⟩
          refine blocked_eq_true.mpr ⟨target, ⟨rest, Or.inl ?_⟩, ?_, Or.inl ?_⟩
          · rw [replicas, if_pos rfl, asked]
          · rw [answers]
            simp only [MainPoint.outstanding] at waited
            omega
          · rw [crashed, lost]
        · have lives : network.crashed target = false := eq_false_of_ne_true lost
          have listed := sound.members target lives
          have different : other ≠ target := by
            rintro rfl
            simp [ReplicaInfo.NotEqual] at apart
          refine ⟨target, listed, by rw [crashed, lives],
            Or.inr (Or.inr ⟨other, member, ?_, by simp⟩)⟩
          have heeded : ¬ ((network.ends target other).handler = .closing ∨
              (network.ends target other).handler = .closed) := by
            intro ended
            rw [sound.ended target listed other member different ended] at living
            cases living
          rw [ends, if_pos rfl]
          unfold ReplicaEnd.hears
          simp only [ReplicaEnd.push]
          split
          next closing => exact absurd (Or.inl closing) heeded
          next closed => exact absurd (Or.inr closed) heeded
          next => rfl
          next => simp
    · refine ⟨other, member, by rw [crashed, living], Or.inl ?_⟩
      rw [replicas, if_neg here, stands]
  · refine ⟨other, member, by rw [crashed, living], Or.inr (Or.inl ?_)⟩
    obtain ⟨peer, waits, silent, cut⟩ := blocked_eq_true.mp blocked
    have still : ∃ rest, (next.replicas other).main = .asked peer rest ∨
        (next.replicas other).main = .waiting peer rest := by
      obtain ⟨rest, asked | waiting⟩ := waits
      · by_cases here : other = replica
        · subst here
          rw [ReplicaState.runMain, asked] at moved
          cases moved
          exact ⟨rest, Or.inr (by rw [replicas, if_pos rfl])⟩
        · exact ⟨rest, Or.inl (by rw [replicas, if_neg here, asked])⟩
      · by_cases here : other = replica
        · subst here
          simp [ReplicaState.runMain, waiting] at moved
        · exact ⟨rest, Or.inr (by rw [replicas, if_neg here, waiting])⟩
    refine blocked_eq_true.mpr ⟨peer, still, by rw [answers, silent], ?_⟩
    rw [crashed]
    refine cut.imp_right fun unasked => ?_
    rw [ends, ReplicaEnd.questions_push, unasked]
    split
    next here =>
      subst here
      have before := outstanding_of_blocked waits peer
      have after := outstanding_of_blocked still peer
      have posted := outstanding_runMain moved peer
      rw [replicas, if_pos rfl] at after
      omega
    next => rfl
  · refine ⟨other, member, by rw [crashed, living], Or.inr (Or.inr ⟨its, inside, ?_, by simp⟩)⟩
    rw [ends]
    exact ReplicaEnd.hears_push hears _

/-- A handler's step takes no reason away, unless it is the one that its end has heard. -/
theorem hopeful_handler_beside (sound : group.Sound network)
    (hopeful : group.Hopeful network (some (replica, peer)))
    (taken : network.step (.handler replica peer) = some next) : group.Hopeful next none := by
  obtain ⟨alive, changed, side, sent, moved, same⟩ := step_handler taken
  have effect := effect_runHandler (sound.proper replica peer) moved
  obtain ⟨lost, flag⟩ := flags_runHandler moved
  have different := other_of_handler sound moved
  obtain ⟨own, far, elsewhere⟩ := ends_handler changed side sent different same
  have replicas := replicas_handler same
  have crashed := crashed_of_replicas replicas effect.crashed
  have waited := sound.turns replica peer
  obtain ⟨other, member, living, stands | blocked | ⟨its, inside, hears, beside⟩⟩ := hopeful
  · refine ⟨other, member, by rw [crashed, living], Or.inl ?_⟩
    rw [replicas]
    split
    next here =>
      subst here
      simp only [ReplicaState.stands, Bool.or_eq_true] at stands ⊢
      rw [effect.isLeader]
      refine stands.imp_right fun stands => ?_
      -- A main thread that stands does not wait, so its handlers have no answer for it.
      rcases effect.main with still | ⟨-, target, rest, waiting, -⟩
      · rw [still]
        rcases lost with lost | answered
        · rw [lost]
          revert stands
          cases (network.replicas other).main with
          | accepting | clearing => exact flag
          | _ => exact id
        · have quiet : (network.replicas other).main.outstanding peer = 0 := by
            revert stands
            cases (network.replicas other).main <;> simp
          omega
      · rw [waiting] at stands
        cases stands
    next => exact stands
  · refine ⟨other, member, by rw [crashed, living], Or.inr (Or.inl ?_)⟩
    obtain ⟨target, waits, silent, cut⟩ := blocked_eq_true.mp blocked
    have counts := counts_handler effect different own far elsewhere other target
    have asked := outstanding_of_blocked waits
    have still : (next.replicas other).main = (network.replicas other).main := by
      rw [replicas]
      split
      next here =>
        subst here
        rcases effect.main with still | ⟨notifying, -⟩
        · exact still
        · -- Only the awaited peer could be notifying, and it has no answer.
          have pending : 1 ≤ (network.ends other peer).answers := by
            simp [ReplicaEnd.answers, notifying]
          rw [asked peer] at waited
          split at waited
          next same => rw [← same, silent] at pending; omega
          next => omega
      next => rfl
    refine blocked_eq_true.mpr ⟨target, by rw [still]; exact waits, ?_, ?_⟩
    · rcases cut with gone | unasked
      · have away : target ≠ replica := by
          rintro rfl
          rw [alive] at gone
          cases gone
        by_cases here : other = replica ∧ target = peer
        · obtain ⟨rfl, rfl⟩ := here
          have answers := effect.answers
          rw [own]
          omega
        · rw [elsewhere other target here fun there => away there.2, silent]
      · omega
    · rw [crashed]
      refine cut.imp_right fun unasked => ?_
      omega
  · refine ⟨other, member, by rw [crashed, living], Or.inr (Or.inr ⟨its, inside, ?_, by simp⟩)⟩
    have away : ¬ (other = replica ∧ its = peer) := fun both => beside (by rw [both.1, both.2])
    by_cases there : other = peer ∧ its = replica
    · rw [there.1, there.2, far]
      exact ReplicaEnd.hears_push (there.1 ▸ there.2 ▸ hears) _
    · rw [elsewhere other its away there, hears]

theorem hopeful_handler (sound : group.Sound network) (announced : group.Announced network)
    (spares : group.Spares network (.handler replica peer))
    (hopeful : group.Hopeful network none)
    (taken : network.step (.handler replica peer) = some next) : group.Hopeful next none := by
  have elsewhere := fun beside => hopeful_handler_beside sound beside taken
  obtain ⟨other, member, living, reason⟩ := hopeful
  by_cases here : ∃ its ∈ group.members, (network.ends other its).hears = true ∧
      other = replica ∧ its = peer
  · obtain ⟨its, inside, hears, rfl, rfl⟩ := here
    obtain ⟨alive, changed, side, sent, moved, same⟩ := step_handler taken
    have effect := effect_runHandler (sound.proper other its) moved
    have different := other_of_handler sound moved
    obtain ⟨own, -, -⟩ := ends_handler changed side sent different same
    have replicas := replicas_handler same
    have crashed := crashed_of_replicas replicas effect.crashed
    rcases hears_runHandler (announced.payloads other its) hears moved with
      hears | ⟨takesUp, flag, main⟩
    · refine ⟨other, member, by rw [crashed, living], Or.inr (Or.inr ⟨its, inside, ?_, by simp⟩)⟩
      rw [own, hears]
    · rcases spares takesUp with accepting | clearing | beside
      · refine ⟨other, member, by rw [crashed, living], Or.inl ?_⟩
        rw [replicas, if_pos rfl, ReplicaState.stands, main, accepting]
        simp [flag]
      · refine ⟨other, member, by rw [crashed, living], Or.inl ?_⟩
        rw [replicas, if_pos rfl, ReplicaState.stands, main, clearing]
        simp [flag]
      · exact elsewhere beside
  · refine elsewhere ⟨other, member, living, reason.imp_right (Or.imp_right ?_)⟩
    rintro ⟨its, inside, hears, -⟩
    refine ⟨its, inside, hears, fun same => here ⟨its, inside, hears, ?_⟩⟩
    obtain ⟨rfl, rfl⟩ := Prod.mk.inj (Option.some.inj same)
    exact ⟨rfl, rfl⟩

/-- Whoever leads has announced itself, so its crash is noticed. -/
theorem kept_crash (sound : group.Sound network) (announced : group.Announced network)
    (spares : group.Spares network (.crash replica))
    (taken : network.step (.crash replica) = some next) : group.Kept next := by
  rcases spares with leads | kept
  · rintro ⟨other, member, live⟩
    have living := living_crash taken live
    have different : other ≠ replica := by
      rintro rfl
      rw [crashed_crash taken] at live
      simp at live
    have alive : network.crashed replica = false := by
      simp only [ReplicaNetwork.step] at taken
      split at taken
      next => cases taken
      next alive => exact eq_false_of_ne_true alive
    have listed := sound.members replica alive
    have told := announced.leads other member replica different living (Or.inl leads)
    have heeded : ¬ ((network.ends other replica).handler = .closing ∨
        (network.ends other replica).handler = .closed) := by
      intro ended
      rw [sound.ended other member replica listed (Ne.symm different) ended] at alive
      cases alive
    refine ⟨other, member, live, Or.inr (Or.inr ⟨replica, listed, ?_, by simp⟩)⟩
    rw [ends_crash taken]
    unfold ReplicaEnd.hears
    split
    next closing => exact absurd (Or.inl closing) heeded
    next closed => exact absurd (Or.inr closed) heeded
    next => rfl
    next => rw [told, Bool.true_or]
  · simp only [ReplicaNetwork.step] at taken
    split at taken
    next => cases taken
    next => cases taken; exact kept

theorem fresh_step {action : NetworkAction} (sound : group.Sound network) (fresh : network.Fresh)
    (taken : network.step action = some next) : next.Fresh := by
  intro other accepting
  cases action with
  | main replica =>
    obtain ⟨alive, changed, sent, moved, same⟩ := step_main taken
    rw [replicas_main same] at accepting ⊢
    split at accepting
    next here => rw [if_pos here]; exact fresh_runMain moved accepting
    next here => rw [if_neg here]; exact fresh other accepting
  | handler replica peer =>
    obtain ⟨alive, changed, side, sent, moved, same⟩ := step_handler taken
    have effect := effect_runHandler (sound.proper replica peer) moved
    rw [replicas_handler same] at accepting ⊢
    split at accepting
    next here =>
      subst here
      rw [if_pos rfl]
      have still : changed.main = (network.replicas other).main := by
        rcases effect.main with still | ⟨-, target, rest, -, woken⟩
        · exact still
        · rw [woken] at accepting
          cases accepting
      rcases (flags_runHandler moved).1 with lost | answered
      · rw [lost]
        exact fresh other (still ▸ accepting)
      · have waited := sound.turns other peer
        have quiet : (network.replicas other).main.outstanding peer = 0 := by
          simp [← still, accepting]
        omega
    next here => rw [if_neg here]; exact fresh other accepting
  | crash replica =>
    rw [replicas_crash taken] at accepting ⊢
    exact fresh other accepting

/-- As long as a replica lives, somebody has a reason to go on. -/
theorem kept_step {action : NetworkAction} (sound : group.Sound network)
    (announced : group.Announced network) (fresh : network.Fresh)
    (spares : group.Spares network action) (kept : group.Kept network)
    (taken : network.step action = some next) : group.Kept next := by
  cases action with
  | main replica =>
    have alive := (step_main taken).1
    exact fun _ =>
      hopeful_main sound fresh (kept ⟨replica, sound.members replica alive, alive⟩) taken
  | handler replica peer =>
    have alive := (step_handler taken).1
    exact fun _ => hopeful_handler sound announced spares
      (kept ⟨replica, sound.members replica alive, alive⟩) taken
  | crash replica => exact kept_crash sound announced spares taken

theorem kept_start (group : Membership) : group.Kept group.start := fun _ =>
  ⟨group.leader, List.mem_cons_self, by simp [ReplicaNetwork.crashed, Membership.start,
    Membership.members], Or.inl (by simp [ReplicaState.stands, Membership.start])⟩

theorem kept_run {actions : List NetworkAction}
    (meets : AllMeet ReplicaNetwork.step group.Spares group.start actions)
    (reached : run ReplicaNetwork.step group.start actions = some network) :
    group.Announced network ∧ group.Kept network := by
  have step : ∀ state action next,
      group.Sound state ∧ group.Announced state ∧ state.Fresh ∧ group.Kept state →
        group.Spares state action → state.step action = some next →
          group.Sound next ∧ group.Announced next ∧ next.Fresh ∧ group.Kept next := by
    rintro state action next ⟨sound, announced, fresh, kept⟩ spares taken
    exact ⟨sound_step sound taken, announced_step sound announced taken,
      fresh_step sound fresh taken, kept_step sound announced fresh spares kept taken⟩
  have start : group.start.Fresh := fun _ _ => rfl
  obtain ⟨-, announced, -, kept⟩ := run_preserves step
    ⟨sound_start group, announced_start group, start, kept_start group⟩ meets reached
  exact ⟨announced, kept⟩

end Steps

end TwitterClone
