import TwitterClone.Replication.ElectionSteps

/-! At most one live replica leads, however the threads, the messages, the crashes and
the rounds of an election interleave. -/
namespace TwitterClone

open Foundation

namespace ReplicaNetwork

variable (network : ReplicaNetwork)

def crashed (replica : ReplicaInfo) : Bool := (network.replicas replica).crashed

def Leads (replica : ReplicaInfo) : Prop :=
  network.crashed replica = false ∧ (network.replicas replica).isLeader = true

def AtMostOneLeader : Prop :=
  ∀ first second, network.Leads first → network.Leads second → first = second

end ReplicaNetwork

namespace Membership

variable (group : Membership) (network : ReplicaNetwork)

/-- While the first leader lives nobody has a reason to start an election. -/
structure Calm : Prop where
  main : ∀ replica, (network.replicas replica).main = .accepting
  startElection : ∀ replica, (network.replicas replica).startElection = false
  incoming : ∀ replica peer, (network.ends replica peer).incoming = []
  marked : ∀ replica peer, (network.ends replica peer).isConnectedToLeader = true →
    peer = group.leader
  handler : ∀ replica peer, (network.ends replica peer).handler = .receiving ∨
    (network.ends replica peer).handler = .closing ∨
    (network.ends replica peer).handler = .closed

structure Sound : Prop where
  members : ∀ replica, network.crashed replica = false → replica ∈ group.members
  own : ∀ replica, (network.ends replica replica).handler = .closed
  ended : ∀ replica ∈ group.members, ∀ peer ∈ group.members, peer ≠ replica →
    (network.ends replica peer).handler = .closing ∨
      (network.ends replica peer).handler = .closed → network.crashed peer = true
  progress : ∀ replica ∈ group.members,
    group.Progress network.crashed replica (network.replicas replica)
  proper : ∀ replica peer, (network.ends replica peer).Proper replica peer
    (network.replicas replica).lostElection
  turns : ∀ replica peer,
    (network.ends peer replica).questions + (network.ends replica peer).answers ≤
      (network.replicas replica).main.outstanding peer
  calm : network.crashed group.leader = false → group.Calm network
  leads : ∀ replica ∈ group.backups, (network.replicas replica).isLeader = true →
    network.crashed group.leader = true ∧ group.Covers network.crashed replica []

end Membership

section Invariant

variable {group : Membership} {network next : ReplicaNetwork} {replica peer : ReplicaInfo}

theorem handler_start (group : Membership) (replica peer : ReplicaInfo) :
    (group.start.ends replica peer).handler = .receiving ∨
      (group.start.ends replica peer).handler = .closed := by
  simp only [Membership.start]
  split
  · exact Or.inl rfl
  · exact Or.inr rfl

theorem sound_start (group : Membership) : group.Sound group.start where
  members replica alive := by
    simpa [ReplicaNetwork.crashed, Membership.start] using alive
  own replica := by simp [Membership.start]
  ended replica member peer other different ended := by
    have connected : replica ≠ peer := fun same => different same.symm
    simp [Membership.start, member, other, connected] at ended
  progress replica member := by
    refine ⟨?_, trivial⟩
    intro backup inside precedes
    have different : backup ≠ replica := fun same => by simp [same] at precedes
    exact Or.inl ((group.mem_vector replica member backup).mpr ⟨inside, different⟩)
  proper replica peer := by
    refine ⟨by simp [Membership.start], ?_⟩
    rcases handler_start group replica peer with idle | idle <;> rw [idle] <;> exact trivial
  turns replica peer := by
    have questions : (group.start.ends peer replica).questions = 0 := by
      rcases handler_start group peer replica with idle | idle <;>
        simp only [ReplicaEnd.questions, idle] <;> rfl
    have answers : (group.start.ends replica peer).answers = 0 := by
      rcases handler_start group replica peer with idle | idle <;>
        simp only [ReplicaEnd.answers, idle] <;> rfl
    omega
  calm _ := by
    refine ⟨fun _ => rfl, fun _ => rfl, fun _ _ => rfl, ?_, ?_⟩
    · intro replica peer marked
      simpa [Membership.start] using marked
    · intro replica peer
      exact (handler_start group replica peer).imp_right Or.inr
  leads replica member leads := by
    have same : replica = group.leader := by simpa [Membership.start] using leads
    have apart := List.rel_of_pairwise_cons group.distinctAddresses (same ▸ member)
    simp [ReplicaInfo.NotEqual] at apart

theorem Membership.Covers.mono {before after : ReplicaInfo → Bool} {listed : List ReplicaInfo}
    (covers : group.Covers before replica listed)
    (lasting : ∀ other, before other = true → after other = true) :
    group.Covers after replica listed := fun backup inside precedes =>
  (covers backup inside precedes).imp_right (lasting backup)

theorem Membership.Progress.mono {before after : ReplicaInfo → Bool} {state : ReplicaState}
    (progress : group.Progress before replica state)
    (lasting : ∀ other, before other = true → after other = true) :
    group.Progress after replica state := by
  obtain ⟨vector, stage⟩ := progress
  refine ⟨vector.mono lasting, ?_⟩
  revert stage
  cases state.main with
  | pruning kept rest | announcing rest => exact fun covers => covers.mono lasting
  | leading => exact fun covers => covers.mono lasting
  | electing rest => exact fun covers standing => (covers standing).mono lasting
  | sleeping => exact fun covers standing => (covers standing).mono lasting
  | woken rest => exact id
  | accepting | asked | waiting | resetting | clearing => exact id

section Crash

/-- A crash only adds to the lost. -/
theorem replicas_crash (taken : network.step (.crash replica) = some next) (other : ReplicaInfo) :
    next.replicas other = { network.replicas other with
      crashed := network.crashed other || decide (other = replica) } := by
  simp only [ReplicaNetwork.step] at taken
  split at taken
  next => cases taken
  next alive =>
    cases taken
    rw [ReplicaNetwork.replicas_setReplica]
    by_cases here : other = replica
    · simp [here]
    · simp [here, ReplicaNetwork.crashed]

theorem ends_crash (taken : network.step (.crash replica) = some next) :
    next.ends = network.ends := by
  simp only [ReplicaNetwork.step] at taken
  split at taken
  next => cases taken
  next => cases taken; rfl

theorem crashed_crash (taken : network.step (.crash replica) = some next) (other : ReplicaInfo) :
    next.crashed other = (network.crashed other || decide (other = replica)) := by
  rw [ReplicaNetwork.crashed, replicas_crash taken]

theorem lasting_crash (taken : network.step (.crash replica) = some next) (other : ReplicaInfo)
    (before : network.crashed other = true) : next.crashed other = true := by
  rw [crashed_crash taken, before, Bool.true_or]

theorem living_crash (taken : network.step (.crash replica) = some next) {other : ReplicaInfo}
    (live : next.crashed other = false) : network.crashed other = false := by
  rw [crashed_crash taken, Bool.or_eq_false_iff] at live
  exact live.1

theorem sound_crash (sound : group.Sound network)
    (taken : network.step (.crash replica) = some next) : group.Sound next := by
  have replicas := replicas_crash taken
  have ends := ends_crash taken
  have lasting := lasting_crash taken
  refine ⟨?_, ?_, ?_, ?_, ?_, ?_, ?_, ?_⟩
  · intro other live
    exact sound.members other (living_crash taken live)
  · rw [ends]
    exact sound.own
  · intro other member peer inside different ended
    rw [ends] at ended
    exact lasting peer (sound.ended other member peer inside different ended)
  · intro other member
    rw [replicas]
    exact (sound.progress other member).mono lasting
  · intro other peer
    rw [replicas, ends]
    exact sound.proper other peer
  · intro other peer
    rw [replicas, ends]
    exact sound.turns other peer
  · intro live
    have calm := sound.calm (living_crash taken live)
    refine ⟨?_, ?_, ?_, ?_, ?_⟩
    · intro other
      rw [replicas]
      exact calm.main other
    · intro other
      rw [replicas]
      exact calm.startElection other
    · rw [ends]
      exact calm.incoming
    · rw [ends]
      exact calm.marked
    · rw [ends]
      exact calm.handler
  · intro other member leads
    rw [replicas] at leads
    obtain ⟨gone, covers⟩ := sound.leads other member leads
    exact ⟨lasting group.leader gone, covers.mono lasting⟩

end Crash

section Main

theorem step_main (taken : network.step (.main replica) = some next) :
    network.crashed replica = false ∧ ∃ changed sent,
      (network.replicas replica).runMain replica
        (fun peer => decide ((network.ends replica peer).handler = .closed)) =
          some (changed, sent) ∧
      next = (network.setReplica replica changed).post replica sent := by
  simp only [ReplicaNetwork.step] at taken
  split at taken
  next => cases taken
  next alive =>
    obtain ⟨⟨changed, sent⟩, moved, same⟩ := Option.map_eq_some_iff.mp taken
    exact ⟨eq_false_of_ne_true alive, changed, sent, moved, same.symm⟩

theorem replicas_main {changed : ReplicaState} {sent : Option (ReplicaInfo × ReplicaMessage)}
    (same : next = (network.setReplica replica changed).post replica sent) (other : ReplicaInfo) :
    next.replicas other = if other = replica then changed else network.replicas other := by
  rw [same, ReplicaNetwork.replicas_post, ReplicaNetwork.replicas_setReplica]

theorem ends_main {changed : ReplicaState} {sent : Option (ReplicaInfo × ReplicaMessage)}
    (same : next = (network.setReplica replica changed).post replica sent)
    (other its : ReplicaInfo) :
    next.ends other its = (network.ends other its).push
      (if its = replica then ReplicaNetwork.postedTo other sent else []) := by
  rw [same, ReplicaNetwork.ends_post, ReplicaNetwork.ends_setReplica]

/-- A thread that does not crash its replica leaves the lost ones as they are. -/
theorem crashed_of_replicas {changed : ReplicaState}
    (replicas : ∀ other, next.replicas other =
      if other = replica then changed else network.replicas other)
    (kept : changed.crashed = (network.replicas replica).crashed) :
    next.crashed = network.crashed := by
  funext other
  rw [ReplicaNetwork.crashed, replicas]
  split
  next here => rw [here, kept]; rfl
  next => rfl

/-- The main thread sends no answers. -/
theorem postedTo_main {state changed : ReplicaState}
    {sent : Option (ReplicaInfo × ReplicaMessage)} (frame : MainFrame replica state changed sent)
    (peer : ReplicaInfo) :
    (ReplicaNetwork.postedTo peer sent).countP ReplicaMessage.isAnswer = 0 := by
  rw [List.countP_eq_zero]
  intro message posted
  rcases frame.sends peer message (ReplicaNetwork.mem_postedTo.mp posted) with
    coordinator | ⟨election, -⟩
  · rw [coordinator]
    exact Bool.false_ne_true
  · rw [election]
    exact Bool.false_ne_true

theorem proper_main {state changed : ReplicaState}
    {sent : Option (ReplicaInfo × ReplicaMessage)} (frame : MainFrame replica state changed sent)
    (member : replica ∈ group.members) (peer : ReplicaInfo) :
    ∀ message ∈ ReplicaNetwork.postedTo peer sent, message.Proper peer replica := by
  intro message posted
  rcases frame.sends peer message (ReplicaNetwork.mem_postedTo.mp posted) with
    coordinator | ⟨election, -, precedes⟩
  · rw [coordinator]
    exact trivial
  · rw [election]
    exact ⟨rfl, group.sendable replica member, precedes⟩

theorem lost_of_closed (sound : group.Sound network) (member : replica ∈ group.members)
    (other : ReplicaInfo) (inside : other ∈ group.backups) (different : other ≠ replica)
    (gone : decide ((network.ends replica other).handler = .closed) = true) :
    network.crashed other = true :=
  sound.ended replica member other (List.mem_cons_of_mem _ inside) different
    (Or.inr (of_decide_eq_true gone))

/-- An idle main thread with no election to start does not move. -/
theorem stirred_of_runMain (sound : group.Sound network) {isClosed : ReplicaInfo → Bool}
    {changed : ReplicaState} {sent : Option (ReplicaInfo × ReplicaMessage)}
    (moved : (network.replicas replica).runMain replica isClosed = some (changed, sent)) :
    network.crashed group.leader = true := by
  by_contra living
  have calm := sound.calm (by simpa using living)
  simp [ReplicaState.runMain, calm.main, calm.startElection] at moved

/-- The main thread waits for one more answer with each question that it asks. -/
theorem counts_main (taken : network.step (.main replica) = some next)
    (other target : ReplicaInfo) :
    (next.ends target other).questions + (next.ends other target).answers +
        (network.replicas other).main.outstanding target =
      (network.ends target other).questions + (network.ends other target).answers +
        (next.replicas other).main.outstanding target := by
  obtain ⟨-, changed, sent, moved, same⟩ := step_main taken
  have ends := ends_main same
  have silent : List.countP ReplicaMessage.isAnswer
      (if target = replica then ReplicaNetwork.postedTo other sent else []) = 0 := by
    split
    · exact postedTo_main (frame_runMain moved) other
    · rfl
  rw [ends, ends, ReplicaEnd.questions_push, ReplicaEnd.answers_push, silent, replicas_main same]
  split
  next here =>
    have waits := outstanding_runMain moved target
    rw [here]
    omega
  next => simp

theorem sound_main (sound : group.Sound network)
    (taken : network.step (.main replica) = some next) : group.Sound next := by
  obtain ⟨alive, changed, sent, moved, same⟩ := step_main taken
  have member := sound.members replica alive
  have frame := frame_runMain moved
  have replicas := replicas_main same
  have ends := ends_main same
  have handler : ∀ other its, (next.ends other its).handler = (network.ends other its).handler := by
    intro other its
    rw [ends]
    rfl
  have crashed := crashed_of_replicas replicas frame.crashed
  have progress := progress_runMain (sound.progress replica member) member
    (lost_of_closed sound member) moved
  have stirred := stirred_of_runMain sound moved
  refine ⟨?_, ?_, ?_, ?_, ?_, ?_, ?_, ?_⟩
  · rw [crashed]
    exact sound.members
  · intro other
    rw [handler]
    exact sound.own other
  · intro other inside peer also different ended
    rw [handler] at ended
    rw [crashed]
    exact sound.ended other inside peer also different ended
  · intro other inside
    rw [crashed, replicas]
    split
    next here => exact here ▸ progress
    next => exact sound.progress other inside
  · intro other its
    have before := sound.proper other its
    rw [ends, replicas]
    refine ReplicaEnd.Proper.push ⟨before.incoming, ?_⟩ ?_
    · split
      next here =>
        subst here
        by_cases telling : (network.ends other its).handler = .notifying
        · -- Nobody is told anything by the time the flag is reset.
          have told := sound.turns other its
          have pending : 1 ≤ (network.ends other its).answers := by
            simp [ReplicaEnd.answers, telling]
          refine before.handler.mono fun lost => (frame.lost lost).resolve_right ?_
          intro clearing
          simp [clearing] at told
          omega
        · exact before.handler.quiet telling
      next => exact before.handler
    · intro message posted
      split at posted
      next own => exact own ▸ proper_main frame member other message posted
      next => cases posted
  · intro other peer
    have before := sound.turns other peer
    have counts := counts_main taken other peer
    omega
  · intro living
    rw [crashed, stirred] at living
    cases living
  · intro other inside leads
    rw [crashed]
    rw [replicas] at leads
    split at leads
    next here =>
      subst here
      rcases frame.leads leads with before | leading
      · exact sound.leads other inside before
      · have stage := (sound.progress other member).2
        rw [leading] at stage
        exact ⟨stirred, stage⟩
    next => exact sound.leads other inside leads

end Main

section Handler

theorem step_handler (taken : network.step (.handler replica peer) = some next) :
    network.crashed replica = false ∧ ∃ changed side sent,
      (network.ends replica peer).runHandler replica (network.crashed peer)
        (network.replicas replica) = some (changed, side, sent) ∧
      next = ((network.setReplica replica changed).setEnd replica peer side).post replica
        (sent.map fun message => (peer, message)) := by
  simp only [ReplicaNetwork.step] at taken
  split at taken
  next => cases taken
  next alive =>
    obtain ⟨⟨changed, side, sent⟩, moved, same⟩ := Option.map_eq_some_iff.mp taken
    exact ⟨eq_false_of_ne_true alive, changed, side, sent, moved, same.symm⟩

theorem other_of_handler (sound : group.Sound network) {changed : ReplicaState} {side : ReplicaEnd}
    {sent : Option ReplicaMessage} {peerCrashed : Bool}
    (moved : (network.ends replica peer).runHandler replica peerCrashed
      (network.replicas replica) = some (changed, side, sent)) : peer ≠ replica := by
  intro here
  rw [here] at moved
  simp [ReplicaEnd.runHandler, sound.own] at moved

/-- In a calm group a handler at most ends. -/
theorem calm_runHandler (calm : group.Calm network) (living : network.crashed group.leader = false)
    {changed : ReplicaState} {side : ReplicaEnd} {sent : Option ReplicaMessage}
    (moved : (network.ends replica peer).runHandler replica (network.crashed peer)
      (network.replicas replica) = some (changed, side, sent)) :
    changed = network.replicas replica ∧ sent = none ∧ side.incoming = [] ∧
      side.isConnectedToLeader = (network.ends replica peer).isConnectedToLeader ∧
      (side.handler = .closing ∨ side.handler = .closed) := by
  have empty := calm.incoming replica peer
  rcases calm.handler replica peer with receiving | closing | closed
  · simp only [ReplicaEnd.runHandler, receiving, empty] at moved
    split at moved
    next gone =>
      have unmarked : (network.ends replica peer).isConnectedToLeader = false := by
        by_contra marked
        have same := calm.marked replica peer (by simpa using marked)
        rw [same, living] at gone
        cases gone
      cases moved
      rw [unmarked, Bool.or_false]
      exact ⟨rfl, rfl, rfl, rfl, Or.inl rfl⟩
    next => cases moved
  · simp only [ReplicaEnd.runHandler, closing] at moved
    cases moved
    exact ⟨rfl, rfl, empty, rfl, Or.inr rfl⟩
  · simp only [ReplicaEnd.runHandler, closed] at moved
    cases moved

/-- A handler marks an election as lost, or wakes the main thread when it is. -/
theorem Membership.Progress.handle {crashed : ReplicaInfo → Bool} {state changed : ReplicaState}
    {before after : ReplicaEnd} {sent : Option ReplicaMessage} {peerCrashed : Bool}
    (progress : group.Progress crashed replica state)
    (proper : before.Proper replica peer state.lostElection)
    (effect : HandlerEffect replica peer peerCrashed state changed before after sent) :
    group.Progress crashed replica changed := by
  obtain ⟨vector, stage⟩ := progress
  refine ⟨effect.vector ▸ vector, ?_⟩
  rcases effect.main with same | ⟨notifying, target, rest, waiting, woken⟩
  · rw [same]
    have standing : changed.lostElection = false → state.lostElection = false := by
      intro unlost
      by_contra lost
      rw [effect.lost (by simpa using lost)] at unlost
      cases unlost
    revert stage
    cases state.main with
    | electing rest => exact fun covers unlost => covers (standing unlost)
    | sleeping => exact fun covers unlost => covers (standing unlost)
    | woken rest => exact effect.lost
    | pruning | announcing | leading | accepting | asked | waiting | resetting | clearing =>
      exact id
  · have told := proper.handler
    rw [notifying] at told
    rw [woken]
    exact effect.lost told

theorem replicas_handler {changed : ReplicaState} {side : ReplicaEnd}
    {sent : Option ReplicaMessage}
    (same : next = ((network.setReplica replica changed).setEnd replica peer side).post replica
      (sent.map fun message => (peer, message))) (other : ReplicaInfo) :
    next.replicas other = if other = replica then changed else network.replicas other := by
  rw [same, ReplicaNetwork.replicas_post, ReplicaNetwork.replicas_setEnd,
    ReplicaNetwork.replicas_setReplica]

/-- A handler's step touches the two ends of its connection. -/
theorem ends_handler (state : ReplicaState) (side : ReplicaEnd) (sent : Option ReplicaMessage)
    (different : peer ≠ replica)
    (same : next = ((network.setReplica replica state).setEnd replica peer side).post replica
      (sent.map fun message => (peer, message))) :
    next.ends replica peer = side ∧
      next.ends peer replica = (network.ends peer replica).push sent.toList ∧
      ∀ other its, ¬ (other = replica ∧ its = peer) → ¬ (other = peer ∧ its = replica) →
        next.ends other its = network.ends other its := by
  have ends : ∀ other its, next.ends other its =
      (if other = replica ∧ its = peer then side else network.ends other its).push
        (if its = replica then
          ReplicaNetwork.postedTo other (sent.map fun message => (peer, message)) else []) := by
    intro other its
    rw [same, ReplicaNetwork.ends_post, ReplicaNetwork.ends_setEnd, ReplicaNetwork.ends_setReplica]
  refine ⟨?_, ?_, ?_⟩
  · rw [ends, if_pos ⟨rfl, rfl⟩, if_neg different]
    simp [ReplicaEnd.push]
  · rw [ends, if_neg (fun both => different both.1), if_pos rfl]
    cases sent <;> simp
  · intro other its first second
    rw [ends, if_neg first]
    split
    next own =>
      have away : ¬ peer = other := fun here => second ⟨here.symm, own⟩
      cases sent <;> simp [away, ReplicaEnd.push]
    next => simp [ReplicaEnd.push]

/-- One question is answered, or one answer is passed on. -/
theorem counts_handler {state changed : ReplicaState} {side : ReplicaEnd}
    {sent : Option ReplicaMessage} {peerCrashed : Bool}
    (effect : HandlerEffect replica peer peerCrashed state changed (network.ends replica peer) side
      sent)
    (different : peer ≠ replica) (own : next.ends replica peer = side)
    (far : next.ends peer replica = (network.ends peer replica).push sent.toList)
    (elsewhere : ∀ other its, ¬ (other = replica ∧ its = peer) → ¬ (other = peer ∧ its = replica) →
      next.ends other its = network.ends other its) (other target : ReplicaInfo) :
    (next.ends target other).questions + (next.ends other target).answers +
        (if (other = replica ∧ target = peer) ∧ (network.ends replica peer).handler = .notifying
          then 1 else 0) =
      (network.ends target other).questions + (network.ends other target).answers := by
  by_cases here : other = replica ∧ target = peer
  · obtain ⟨rfl, rfl⟩ := here
    have noQuestion : sent.toList.countP ReplicaMessage.isElection = 0 := by
      cases sent with
      | none => rfl
      | some message => simp [effect.sends message rfl]
    have answers := effect.answers
    rw [far, own, ReplicaEnd.questions_push, noQuestion]
    simp only [and_self, true_and]
    omega
  · rw [if_neg fun both => here both.1, Nat.add_zero]
    by_cases there : other = peer ∧ target = replica
    · obtain ⟨rfl, rfl⟩ := there
      have questions := effect.questions
      rw [own, far, ReplicaEnd.answers_push]
      omega
    · rw [elsewhere target other (fun both => there ⟨both.2, both.1⟩)
          (fun both => here ⟨both.2, both.1⟩), elsewhere other target here there]

/-- A replica stops waiting only when the peer that it waits for has answered. -/
theorem turns_handler (sound : group.Sound network) {changed : ReplicaState} {side : ReplicaEnd}
    {sent : Option ReplicaMessage}
    (effect : HandlerEffect replica peer (network.crashed peer) (network.replicas replica) changed
      (network.ends replica peer) side sent)
    (different : peer ≠ replica) (own : next.ends replica peer = side)
    (far : next.ends peer replica = (network.ends peer replica).push sent.toList)
    (elsewhere : ∀ other its, ¬ (other = replica ∧ its = peer) → ¬ (other = peer ∧ its = replica) →
      next.ends other its = network.ends other its)
    (replicas : ∀ other, next.replicas other =
      if other = replica then changed else network.replicas other) (other target : ReplicaInfo) :
    (next.ends target other).questions + (next.ends other target).answers ≤
      (next.replicas other).main.outstanding target := by
  have before := sound.turns other target
  have counts := counts_handler effect different own far elsewhere other target
  rw [replicas]
  split
  next here =>
    subst here
    rcases effect.main with same | ⟨notifying, waited, rest, waiting, woken⟩
    · rw [same]
      omega
    · -- Whoever is woken was waiting for this peer, and for nobody else.
      have asking := sound.turns other peer
      have answers := effect.answers
      rw [if_pos notifying] at answers
      rw [waiting, MainPoint.outstanding] at asking before
      have waitedPeer : waited = peer := by
        by_contra away
        rw [if_neg away] at asking
        omega
      subst waitedPeer
      by_cases there : target = waited
      · rw [if_pos ⟨⟨rfl, there⟩, notifying⟩] at counts
        rw [if_pos there.symm] at before
        omega
      · rw [if_neg fun same => there same.symm] at before
        omega
  next => omega

theorem sound_handler (sound : group.Sound network)
    (taken : network.step (.handler replica peer) = some next) : group.Sound next := by
  obtain ⟨alive, changed, side, sent, moved, same⟩ := step_handler taken
  have member := sound.members replica alive
  have effect := effect_runHandler (sound.proper replica peer) moved
  have different := other_of_handler sound moved
  obtain ⟨own, far, elsewhere⟩ := ends_handler changed side sent different same
  have replicas := replicas_handler same
  have crashed := crashed_of_replicas replicas effect.crashed
  refine ⟨?_, ?_, ?_, ?_, ?_, ?_, ?_, ?_⟩
  · rw [crashed]
    exact sound.members
  · intro other
    rw [elsewhere other other (fun both => different (both.2.symm.trans both.1))
      (fun both => different (both.1.symm.trans both.2))]
    exact sound.own other
  · intro other inside target also apart ended
    rw [crashed]
    by_cases here : other = replica ∧ target = peer
    · obtain ⟨rfl, rfl⟩ := here
      rw [own] at ended
      rcases effect.ended ended with before | gone
      · exact sound.ended other inside target also apart (Or.inl before)
      · exact gone
    · by_cases there : other = peer ∧ target = replica
      · obtain ⟨rfl, rfl⟩ := there
        rw [far] at ended
        exact sound.ended other inside target also apart ended
      · rw [elsewhere other target here there] at ended
        exact sound.ended other inside target also apart ended
  · intro other inside
    rw [crashed, replicas]
    split
    next here =>
      exact here ▸ (sound.progress replica member).handle (sound.proper replica peer) effect
    next => exact sound.progress other inside
  · intro other its
    by_cases here : other = replica ∧ its = peer
    · obtain ⟨rfl, rfl⟩ := here
      rw [own, replicas, if_pos rfl]
      exact effect.proper
    · by_cases there : other = peer ∧ its = replica
      · obtain ⟨rfl, rfl⟩ := there
        rw [far, replicas, if_neg different]
        refine (sound.proper other its).push ?_
        intro message answer
        rw [effect.sends message (Option.mem_toList.mp answer)]
        rfl
      · have before := sound.proper other its
        rw [elsewhere other its here there, replicas]
        split
        next here =>
          subst here
          exact ⟨before.incoming, before.handler.mono effect.lost⟩
        next => exact before
  · exact turns_handler sound effect different own far elsewhere replicas
  · intro living
    rw [crashed] at living
    have calm := sound.calm living
    obtain ⟨still, silent, empty, marked, ended⟩ := calm_runHandler calm living moved
    have unchanged : ∀ other, next.replicas other = network.replicas other := by
      intro other
      rw [replicas, still]
      split
      next here => rw [here]
      next => rfl
    have beside : ∀ other its, ¬ (other = replica ∧ its = peer) →
        next.ends other its = network.ends other its := by
      intro other its here
      by_cases there : other = peer ∧ its = replica
      · rw [there.1, there.2, far, silent]
        simp [ReplicaEnd.push]
      · exact elsewhere other its here there
    refine ⟨?_, ?_, ?_, ?_, ?_⟩
    · intro other
      rw [unchanged]
      exact calm.main other
    · intro other
      rw [unchanged]
      exact calm.startElection other
    all_goals
      intro other its
      by_cases here : other = replica ∧ its = peer
    · rw [here.1, here.2, own]
      exact empty
    · rw [beside other its here]
      exact calm.incoming other its
    · rw [here.1, here.2, own, marked]
      exact calm.marked replica peer
    · rw [beside other its here]
      exact calm.marked other its
    · rw [here.1, here.2, own]
      exact Or.inr ended
    · rw [beside other its here]
      exact calm.handler other its
  · intro other inside leads
    rw [crashed]
    rw [replicas] at leads
    split at leads
    next here =>
      subst here
      rw [effect.isLeader] at leads
      exact sound.leads other inside leads
    next => exact sound.leads other inside leads

end Handler

theorem sound_step {action : NetworkAction} (sound : group.Sound network)
    (taken : network.step action = some next) : group.Sound next := by
  cases action with
  | main replica => exact sound_main sound taken
  | handler replica peer => exact sound_handler sound taken
  | crash replica => exact sound_crash sound taken

theorem sound_run {actions : List NetworkAction}
    (reached : run ReplicaNetwork.step group.start actions = some network) :
    group.Sound network :=
  run_invariant (fun _ _ _ sound taken => sound_step sound taken) (sound_start group) reached

/-- Two backups that lead have the same id. -/
theorem atMostOneLeader_of_sound (sound : group.Sound network) : network.AtMostOneLeader := by
  have precedes : ∀ first second, network.Leads first → network.Leads second →
      first ∈ group.backups → second ∈ group.backups → ¬ first.id < second.id := by
    intro first second firstLeads secondLeads firstBackup secondBackup before
    rcases (sound.leads second secondBackup secondLeads.2).2 first firstBackup before with
      listed | gone
    · cases listed
    · rw [firstLeads.1] at gone
      cases gone
  have leader : ∀ first second, network.Leads first → network.Leads second →
      first = group.leader → second = group.leader := by
    intro first second firstLeads secondLeads isFirst
    rcases List.mem_cons.mp (sound.members second secondLeads.1) with same | backup
    · exact same
    · have gone := (sound.leads second backup secondLeads.2).1
      rw [← isFirst, firstLeads.1] at gone
      cases gone
  intro first second firstLeads secondLeads
  rcases List.mem_cons.mp (sound.members first firstLeads.1) with isLeader | firstBackup
  · rw [isLeader, leader first second firstLeads secondLeads isLeader]
  · rcases List.mem_cons.mp (sound.members second secondLeads.1) with isLeader | secondBackup
    · rw [isLeader, leader second first secondLeads firstLeads isLeader]
    · have sameId : first.id = second.id := by
        have before := precedes first second firstLeads secondLeads firstBackup secondBackup
        have after := precedes second first secondLeads firstLeads secondBackup firstBackup
        omega
      exact List.inj_on_of_nodup_map group.distinctIds firstBackup secondBackup sameId

end Invariant

/-- In every state of every run at most one live replica leads, and a replica that is
about to set `isLeader`, or that was no leader at first and has set it, is preceded by no live
backup. -/
theorem oneLeader_of_run (group : Membership) (actions : List NetworkAction)
    (network : ReplicaNetwork)
    (reached : run ReplicaNetwork.step group.start actions = some network) :
    network.AtMostOneLeader ∧
      (∀ replica, network.crashed replica = false →
        (network.replicas replica).main = .leading →
          ∀ backup ∈ group.backups, backup.id < replica.id → network.crashed backup = true) ∧
      ∀ replica ∈ group.backups, (network.replicas replica).isLeader = true →
        ∀ backup ∈ group.backups, backup.id < replica.id → network.crashed backup = true := by
  have sound := sound_run reached
  refine ⟨atMostOneLeader_of_sound sound, ?_, ?_⟩
  · intro replica alive leading backup inside precedes
    have stage := (sound.progress replica (sound.members replica alive)).2
    rw [leading] at stage
    exact (stage backup inside precedes).resolve_left List.not_mem_nil
  · intro replica member leads backup inside precedes
    exact ((sound.leads replica member leads).2 backup inside precedes).resolve_left
      List.not_mem_nil

/-- The replica with an id that listens on a port of one host. -/
def onHost (id port : Int) : ReplicaInfo := { id, ip := ['h'], port }

def threeReplicas : Membership where
  leader := onHost (-1) 1
  backups := [onHost 0 2, onHost 1 3]
  vector replica := [onHost 0 2, onHost 1 3].filter (· ≠ replica)
  mem_vector replica _ info := by simp
  distinctIds := by decide
  distinctAddresses := by decide
  sendable := by
    simp only [List.forall_mem_cons]
    exact ⟨⟨by decide, by decide, by decide, by decide⟩,
      ⟨by decide, by decide, by decide, by decide⟩,
      ⟨by decide, by decide, by decide, by decide⟩, by simp⟩

/-- The second backup is the first to miss the leader. It asks the first backup, is
told that it lost, and the first backup takes over. -/
def takenOver : List NetworkAction :=
  List.flatten [[.crash (onHost (-1) 1)],
    List.replicate 2 (.handler (onHost 1 3) (onHost (-1) 1)), List.replicate 5 (.main (onHost 1 3)),
    List.replicate 3 (.handler (onHost 0 2) (onHost 1 3)),
    List.replicate 2 (.handler (onHost 1 3) (onHost 0 2)), List.replicate 4 (.main (onHost 1 3)),
    List.replicate 9 (.main (onHost 0 2))]

theorem oneLeader_of_takenOver :
    ∃ network, run ReplicaNetwork.step threeReplicas.start takenOver = some network ∧
      network.Leads (onHost 0 2) ∧ network.AtMostOneLeader := by
  have outcome : (run ReplicaNetwork.step threeReplicas.start takenOver).map
      (fun network => (network.crashed (onHost 0 2),
        (network.replicas (onHost 0 2)).isLeader)) = some (false, true) := by
    decide +kernel
  obtain ⟨network, reached, shape⟩ := Option.map_eq_some_iff.mp outcome
  obtain ⟨alive, leads⟩ := Prod.mk.inj shape
  exact ⟨network, reached, ⟨alive, leads⟩,
    (oneLeader_of_run threeReplicas takenOver network reached).1⟩

end TwitterClone
