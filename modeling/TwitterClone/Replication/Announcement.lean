import TwitterClone.Replication.OneLeader

/-! Who knows of a leader. A replica that has won announces itself to all that it lists
before it leads, and it lists every backup that lives. -/
namespace TwitterClone

open Foundation

@[simp] def ReplicaMessage.isCoordinator : ReplicaMessage → Bool
  | .coordinator _ => true
  | .election _ | .answer _ => false

/-- The connection is marked as the leader's, or the announcement waits in it. -/
def ReplicaEnd.told (side : ReplicaEnd) : Bool :=
  side.isConnectedToLeader || side.incoming.any ReplicaMessage.isCoordinator

def MainPoint.announces : MainPoint → Bool
  | .announcing _ | .leading => true
  | _ => false

namespace Membership

variable (group : Membership)

/-- Every other backup is listed or lost. -/
def Lists (crashed : ReplicaInfo → Bool) (replica : ReplicaInfo) (listed : List ReplicaInfo) :
    Prop :=
  ∀ backup ∈ group.backups, backup ≠ replica → backup ∈ listed ∨ crashed backup = true

structure Announced (network : ReplicaNetwork) : Prop where
  vector : ∀ replica ∈ group.members,
    group.Lists network.crashed replica (network.replicas replica).replicasVector
  pruning : ∀ replica ∈ group.members, ∀ kept rest,
    (network.replicas replica).main = .pruning kept rest →
      group.Lists network.crashed replica (kept ++ rest)
  payloads : ∀ replica peer, .coordinator [] ∉ (network.ends replica peer).incoming
  told : ∀ replica peer, (network.ends replica peer).told = true →
    (network.replicas peer).isLeader = true ∨ (network.replicas peer).main.announces = true
  leads : ∀ replica ∈ group.members, ∀ peer, replica ≠ peer → network.crashed replica = false →
    (network.replicas peer).isLeader = true ∨ (network.replicas peer).main = .leading →
      (network.ends replica peer).told = true
  announcing : ∀ replica ∈ group.members, ∀ peer rest, replica ≠ peer →
    network.crashed replica = false → (network.replicas peer).main = .announcing rest →
      replica ∈ rest ∨ (network.ends replica peer).told = true

end Membership

section Steps

variable {group : Membership} {network next : ReplicaNetwork} {replica peer : ReplicaInfo}

theorem ReplicaEnd.told_push (side : ReplicaEnd) (messages : List ReplicaMessage) :
    (side.push messages).told = (side.told || messages.any ReplicaMessage.isCoordinator) := by
  simp only [told, push, List.any_append, Bool.or_assoc]

theorem Membership.Lists.mono {before after : ReplicaInfo → Bool} {listed : List ReplicaInfo}
    (lists : group.Lists before replica listed)
    (lasting : ∀ other, before other = true → after other = true) :
    group.Lists after replica listed := fun backup inside different =>
  (lists backup inside different).imp_right (lasting backup)

theorem Membership.Lists.prune {crashed isClosed : ReplicaInfo → Bool} {kept rest : List ReplicaInfo}
    (lists : group.Lists crashed replica (kept ++ peer :: rest))
    (closed : ∀ other ∈ group.backups, other ≠ replica → isClosed other = true →
      crashed other = true) :
    group.Lists crashed replica ((if isClosed peer then kept else kept ++ [peer]) ++ rest) := by
  intro backup inside different
  rcases lists backup inside different with listed | lost
  · exact (mem_pruned listed).imp_right (closed backup inside different)
  · exact Or.inr lost

/-- What a replica lists after a step. -/
theorem lists_runMain {crashed isClosed : ReplicaInfo → Bool} {state changed : ReplicaState}
    {sent : Option (ReplicaInfo × ReplicaMessage)}
    (vector : group.Lists crashed replica state.replicasVector)
    (pruning : ∀ kept rest, state.main = .pruning kept rest →
      group.Lists crashed replica (kept ++ rest))
    (closed : ∀ other ∈ group.backups, other ≠ replica → isClosed other = true →
      crashed other = true)
    (taken : state.runMain replica isClosed = some (changed, sent)) :
    group.Lists crashed replica changed.replicasVector ∧
      ∀ kept rest, changed.main = .pruning kept rest →
        group.Lists crashed replica (kept ++ rest) := by
  cases mainMove_of_taken taken with
  | stirs main =>
    refine ⟨vector, ?_⟩
    rintro kept rest ⟨⟩
    exact vector
  | pruned kept main =>
    have whole := pruning kept [] main
    rw [List.append_nil] at whole
    exact ⟨whole, by simp⟩
  | prunes kept peer rest main =>
    refine ⟨vector, ?_⟩
    rintro left remaining ⟨⟩
    exact (pruning kept (peer :: rest) main).prune closed
  | goesOn rest main =>
    refine ⟨vector, ?_⟩
    cases state.lostElection <;> simp
  | rises main =>
    refine ⟨vector, ?_⟩
    cases state.lostElection <;> simp
  | elected | asks | skips | waits | announced | announces | leads | resets | clears =>
    exact ⟨vector, by simp⟩

/-- How a replica comes to announce and to lead. -/
structure HeraldFrame (info : ReplicaInfo) (state next : ReplicaState)
    (sent : Option (ReplicaInfo × ReplicaMessage)) : Prop where
  heads : state.isLeader = true ∨ state.main.announces = true →
    next.isLeader = true ∨ next.main.announces = true
  leads : next.isLeader = true ∨ next.main = .leading →
    (state.isLeader = true ∨ state.main = .leading) ∨ state.main = .announcing []
  announcing : ∀ rest, next.main = .announcing rest →
    state.main = .sleeping ∧ rest = state.replicasVector ∨
      ∃ peer, state.main = .announcing (peer :: rest) ∧
        sent = some (peer, .coordinator info.serialize)
  coordinator : ∀ target payload, sent = some (target, .coordinator payload) →
    payload = info.serialize ∧ state.main.announces = true

theorem herald_runMain {isClosed : ReplicaInfo → Bool} {state changed : ReplicaState}
    {sent : Option (ReplicaInfo × ReplicaMessage)}
    (taken : state.runMain replica isClosed = some (changed, sent)) :
    HeraldFrame replica state changed sent := by
  cases mainMove_of_taken taken with
  | goesOn rest main =>
    cases state.lostElection <;> constructor <;> simp [main, MainPoint.announces]
  | rises main => cases state.lostElection <;> constructor <;> simp [main, MainPoint.announces]
  | stirs main | elected main | announced main | leads main | resets main | clears main =>
    constructor <;> simp [main, MainPoint.announces]
  | pruned kept main => constructor <;> simp [main, MainPoint.announces]
  | prunes kept peer rest main => constructor <;> simp [main, MainPoint.announces]
  | asks peer rest main => constructor <;> simp [main, MainPoint.announces]
  | skips peer rest main => constructor <;> simp [main, MainPoint.announces]
  | waits peer rest main => constructor <;> simp [main, MainPoint.announces]
  | announces peer rest main => constructor <;> simp [main, MainPoint.announces]

theorem announced_start (group : Membership) : group.Announced group.start where
  vector replica member backup inside different :=
    Or.inl ((group.mem_vector replica member backup).mpr ⟨inside, different⟩)
  pruning replica member kept rest pruning := by cases pruning
  payloads replica peer listed := by cases listed
  told replica peer told := by
    simp only [Membership.start, ReplicaEnd.told, List.any_nil, Bool.or_false] at told ⊢
    exact Or.inl told
  leads replica member peer different alive leads := by
    rcases leads with leads | leading
    · simp only [Membership.start, ReplicaEnd.told, List.any_nil, Bool.or_false] at leads ⊢
      exact leads
    · cases leading
  announcing replica member peer rest different alive announcing := by cases announcing

theorem announced_main (sound : group.Sound network) (announced : group.Announced network)
    (taken : network.step (.main replica) = some next) : group.Announced next := by
  obtain ⟨alive, changed, sent, moved, same⟩ := step_main taken
  have member := sound.members replica alive
  have frame := frame_runMain moved
  have herald := herald_runMain moved
  have replicas := replicas_main same
  have ends := ends_main same
  have crashed := crashed_of_replicas replicas frame.crashed
  have lists := lists_runMain (announced.vector replica member) (announced.pruning replica member)
    (lost_of_closed sound member) moved
  have kept : ∀ other peer, (network.ends other peer).told = true →
      (next.ends other peer).told = true := by
    intro other peer told
    rw [ends, ReplicaEnd.told_push, told, Bool.true_or]
  refine ⟨?_, ?_, ?_, ?_, ?_, ?_⟩
  · intro other inside
    rw [crashed, replicas]
    split
    next here => exact here ▸ lists.1
    next => exact announced.vector other inside
  · intro other inside kept rest pruning
    rw [crashed]
    rw [replicas] at pruning
    split at pruning
    next here => exact here ▸ lists.2 kept rest pruning
    next => exact announced.pruning other inside kept rest pruning
  · intro other peer empty
    rw [ends, ReplicaEnd.push, List.mem_append] at empty
    rcases empty with before | posted
    · exact announced.payloads other peer before
    · split at posted
      next =>
        have payload := (herald.coordinator other [] (ReplicaNetwork.mem_postedTo.mp posted)).1
        simp [ReplicaInfo.serialize] at payload
      next => cases posted
  · intro other peer told
    rw [ends, ReplicaEnd.told_push, Bool.or_eq_true] at told
    rw [replicas]
    split
    next here =>
      subst here
      refine herald.heads ?_
      rcases told with before | posted
      · exact announced.told other peer before
      · rw [if_pos rfl] at posted
        obtain ⟨message, mail, coordinator⟩ := List.any_eq_true.mp posted
        cases message with
        | election payload => cases coordinator
        | answer payload => cases coordinator
        | coordinator payload =>
          exact Or.inr (herald.coordinator other payload (ReplicaNetwork.mem_postedTo.mp mail)).2
    next away =>
      rw [if_neg away] at told
      exact announced.told other peer (told.resolve_right (by simp))
  · intro other inside peer different live leads
    rw [crashed] at live
    rw [replicas] at leads
    refine kept other peer ?_
    split at leads
    next here =>
      subst here
      rcases herald.leads leads with before | announced'
      · exact announced.leads other inside peer different live before
      · have listed := announced.announcing other inside peer [] different live announced'
        exact listed.resolve_left List.not_mem_nil
    next => exact announced.leads other inside peer different live leads
  · intro other inside peer rest different live announcing
    rw [crashed] at live
    rw [replicas] at announcing
    split at announcing
    next here =>
      subst here
      rcases herald.announcing rest announcing with ⟨sleeping, whole⟩ | ⟨target, before, posted⟩
      · -- Whoever lives is a backup, since the leader was lost before anything moved.
        have backup : other ∈ group.backups := by
          rcases List.mem_cons.mp inside with leader | backup
          · rw [leader, stirred_of_runMain sound moved] at live
            cases live
          · exact backup
        rcases announced.vector peer member other backup different with listed | gone
        · exact Or.inl (whole ▸ listed)
        · rw [live] at gone
          cases gone
      · have listed := announced.announcing other inside peer (target :: rest) different live before
        rcases listed with listed | told
        · rcases List.mem_cons.mp listed with isTarget | later
          · refine Or.inr ?_
            rw [ends, ReplicaEnd.told_push, posted, if_pos rfl, isTarget]
            simp
          · exact Or.inl later
        · exact Or.inr (kept other peer told)
    next =>
      have listed := announced.announcing other inside peer rest different live announcing
      exact listed.imp_right (kept other peer)

/-- A handler remembers what it was told, and it is told nothing by what handlers send. -/
theorem told_runHandler {state changed : ReplicaState} {before after : ReplicaEnd}
    {sent : Option ReplicaMessage} {peerCrashed : Bool}
    (payloads : .coordinator [] ∉ before.incoming)
    (taken : before.runHandler replica peerCrashed state = some (changed, after, sent)) :
    after.told = before.told ∧ (∀ message ∈ after.incoming, message ∈ before.incoming) := by
  cases handlerMove_of_taken taken with
  | isAsked payload rest receiving incoming =>
    exact ⟨by simp [ReplicaEnd.told, incoming], by simp +contextual [incoming]⟩
  | isTold payload rest receiving incoming =>
    have written : payload ≠ [] := by
      rintro rfl
      exact payloads (incoming ▸ List.mem_cons_self)
    exact ⟨by simp [ReplicaEnd.told, incoming, written], by simp +contextual [incoming]⟩
  | isAnswered payload rest receiving incoming =>
    exact ⟨by simp [ReplicaEnd.told, incoming], by simp +contextual [incoming]⟩
  | notices | marks | answers | notifies | closes => exact ⟨rfl, fun _ listed => listed⟩

theorem announced_handler (sound : group.Sound network) (announced : group.Announced network)
    (taken : network.step (.handler replica peer) = some next) : group.Announced next := by
  obtain ⟨alive, changed, side, sent, moved, same⟩ := step_handler taken
  have effect := effect_runHandler (sound.proper replica peer) moved
  obtain ⟨toldSide, incomingSide⟩ := told_runHandler (announced.payloads replica peer) moved
  have different := other_of_handler sound moved
  obtain ⟨own, far, elsewhere⟩ := ends_handler changed side sent different same
  have replicas := replicas_handler same
  have crashed := crashed_of_replicas replicas effect.crashed
  have answers : sent.toList.any ReplicaMessage.isCoordinator = false := by
    rw [List.any_eq_false]
    intro message answer
    simp [effect.sends message (Option.mem_toList.mp answer)]
  have told : ∀ other its, (next.ends other its).told = (network.ends other its).told := by
    intro other its
    by_cases here : other = replica ∧ its = peer
    · rw [here.1, here.2, own, toldSide]
    · by_cases there : other = peer ∧ its = replica
      · rw [there.1, there.2, far, ReplicaEnd.told_push, answers, Bool.or_false]
      · rw [elsewhere other its here there]
  -- A handler takes the main thread out of its wait at most.
  have main : ∀ other, (next.replicas other).isLeader = (network.replicas other).isLeader ∧
      ((next.replicas other).main = (network.replicas other).main ∨
        ∃ rest target waited, (next.replicas other).main = .woken rest ∧
          (network.replicas other).main = .waiting target waited) := by
    intro other
    rw [replicas]
    split
    next here =>
      subst here
      refine ⟨effect.isLeader, effect.main.imp_right ?_⟩
      rintro ⟨-, target, rest, waiting, woken⟩
      exact ⟨rest, target, rest, woken, waiting⟩
    next => exact ⟨rfl, Or.inl rfl⟩
  refine ⟨?_, ?_, ?_, ?_, ?_, ?_⟩
  · intro other inside
    rw [crashed, replicas]
    split
    next here =>
      rw [effect.vector]
      exact here ▸ announced.vector replica (here ▸ inside)
    next => exact announced.vector other inside
  · intro other inside kept rest pruning
    rw [crashed]
    rcases (main other).2 with still | ⟨_, _, _, woken, -⟩
    · rw [still] at pruning
      exact announced.pruning other inside kept rest pruning
    · rw [woken] at pruning
      cases pruning
  · intro other its empty
    by_cases here : other = replica ∧ its = peer
    · rw [here.1, here.2, own] at empty
      exact announced.payloads replica peer (incomingSide _ empty)
    · by_cases there : other = peer ∧ its = replica
      · rw [there.1, there.2, far, ReplicaEnd.push, List.mem_append] at empty
        rcases empty with before | answer
        · exact announced.payloads peer replica before
        · cases effect.sends _ (Option.mem_toList.mp answer)
      · rw [elsewhere other its here there] at empty
        exact announced.payloads other its empty
  · intro other its knows
    rw [told] at knows
    rw [(main its).1]
    refine (announced.told other its knows).imp_right fun announces => ?_
    rcases (main its).2 with still | ⟨_, _, _, -, waiting⟩
    · rw [still, announces]
    · rw [waiting] at announces
      cases announces
  · intro other inside its apart live leads
    rw [crashed] at live
    rw [told]
    refine announced.leads other inside its apart live ?_
    rw [(main its).1] at leads
    refine leads.imp_right fun leading => ?_
    rcases (main its).2 with still | ⟨_, _, _, woken, -⟩
    · rw [← still, leading]
    · rw [woken] at leading
      cases leading
  · intro other inside its rest apart live announcing
    rw [crashed] at live
    rw [told]
    rcases (main its).2 with still | ⟨_, _, _, woken, -⟩
    · rw [still] at announcing
      exact announced.announcing other inside its rest apart live announcing
    · rw [woken] at announcing
      cases announcing

theorem announced_crash (announced : group.Announced network)
    (taken : network.step (.crash replica) = some next) : group.Announced next := by
  have replicas := replicas_crash taken
  have ends := ends_crash taken
  have lasting := lasting_crash taken
  refine ⟨?_, ?_, ?_, ?_, ?_, ?_⟩
  · intro other member
    rw [replicas]
    exact (announced.vector other member).mono lasting
  · intro other member kept rest pruning
    rw [replicas] at pruning
    exact (announced.pruning other member kept rest pruning).mono lasting
  · rw [ends]
    exact announced.payloads
  · intro other peer told
    rw [ends] at told
    rw [replicas]
    exact announced.told other peer told
  · intro other member peer different live leads
    rw [replicas] at leads
    rw [ends]
    exact announced.leads other member peer different (living_crash taken live) leads
  · intro other member peer rest different live announcing
    rw [replicas] at announcing
    rw [ends]
    exact announced.announcing other member peer rest different (living_crash taken live) announcing

theorem announced_step {action : NetworkAction} (sound : group.Sound network)
    (announced : group.Announced network) (taken : network.step action = some next) :
    group.Announced next := by
  cases action with
  | main replica => exact announced_main sound announced taken
  | handler replica peer => exact announced_handler sound announced taken
  | crash replica => exact announced_crash announced taken

end Steps

end TwitterClone
