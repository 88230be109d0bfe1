import NamadaIndexer.Governance.Results

/-! Which tally stays in the database. Votes are accepted to the end of the last epoch of the
vote, so the tally of that epoch is not final, but a cycle of that epoch records it. -/
namespace NamadaIndexer.Governance
open NamadaIndexer.Foundation NamadaIndexer.Foundation.Runs NamadaIndexer.Shared

/-- The tally that an ended result stands for. -/
def GovernanceProposalResult.tally? : GovernanceProposalResult → Option TallyResult
  | .passed | .executedPassed => some .passed
  | .rejected | .executedRejected => some .rejected
  | .votingPeriod | .pending | .unknown => none

theorem tally?_of_executedResult {result executed : GovernanceProposalResult}
    (h : executedResult result = .returns executed) : executed.tally? = result.tally? := by
  obtain ⟨rfl,rfl⟩ | ⟨rfl,rfl⟩ := executedResult_eq_returns.mp h <;> rfl

/-- A tally is recorded from the last epoch of the vote on. -/
theorem resultAt_of_ended {currentEpoch : UInt64} {proposal : GovernanceProposalShort}
    {tally : TallyResult} (h : (resultAt currentEpoch proposal tally).ended = true) :
    proposal.votingEndEpoch ≤ currentEpoch ∧
      (resultAt currentEpoch proposal tally).tally? = some tally := by
  unfold resultAt at h ⊢
  split at h
  · rename_i hend
    rw [if_pos hend]
    exact ⟨hend,by cases tally <;> rfl⟩
  · split at h <;> contradiction

def ProposalResult.votes (sdk : Sdk) (answer : ProposalResult) : String × String × String :=
  (sdk.toStringNative answer.totalYayPower,sdk.toStringNative answer.totalNayPower,
    sdk.toStringNative answer.totalAbstainPower)

/-- The row stores the result and the votes of the tally. -/
def Stores (sdk : Sdk) (row : GovernanceProposalDb) (answer : ProposalResult) : Prop :=
  row.result.tally? = some answer.result ∧ row.votes = answer.votes sdk

def Phase.running : Phase → List GovernanceProposalShort
  | .tallying _ running => running
  | .idle | .collecting .. | .writing .. => []

def Phase.statuses : Phase → List GovernanceProposalStatus
  | .collecting _ statuses _ | .writing _ statuses _ _ => statuses
  | .idle | .tallying .. => []

def Phase.executed : Phase → List (UInt64 × GovernanceProposalResult)
  | .collecting _ _ executed | .writing _ _ executed _ => executed
  | .idle | .tallying .. => []

namespace Indexer
variable {sdk : Sdk} {final : UInt64 → ProposalResult} {s t : Indexer} {a : Label}

/-- What the node answers after the last epoch of a vote is the final tally. -/
def FinalAnswers (final : UInt64 → ProposalResult) (s : Indexer) : Label → Prop
  | .readExecuted answers => ∀ epoch ∈ s.phase.epoch?, ∀ proposal ∈ s.phase.running,
    proposal.votingEndEpoch < epoch.toUInt64 →
      ∀ answer ∈ answers proposal.id, answer = final proposal.id
  | _ => True

/-- No cycle writes a tally of the last epoch of a vote, and no proposal is inserted again
between the read that finds it to be executed and the transaction. -/
def TalliesLate (s : Indexer) : Label → Prop
  | .commit => ∀ epoch ∈ s.phase.epoch?, ∀ status ∈ s.phase.statuses, ∀ row ∈ s.proposals.rows,
    row.id = asI32 status.id → (short row).votingEndEpoch ≠ epoch.toUInt64
  | .insert proposals => ∀ inserted ∈ proposals, ∀ entry ∈ s.phase.executed,
    asI32 inserted.1.id ≠ asI32 entry.1
  | _ => True

instance (final : UInt64 → ProposalResult) (s : Indexer) :
    (a : Label) → Decidable (FinalAnswers final s a)
  | .readExecuted _ => Option.decidableForallMem s.phase.epoch?
  | .insert _ | .readRunning _ | .readPayments | .commit | .abort => .isTrue trivial

instance (s : Indexer) : (a : Label) → Decidable (TalliesLate s a)
  | .commit => Option.decidableForallMem s.phase.epoch?
  | .insert proposals => inferInstanceAs (Decidable (∀ inserted ∈ proposals,
      ∀ entry ∈ s.phase.executed, asI32 inserted.1.id ≠ asI32 entry.1))
  | .readRunning _ | .readExecuted _ | .readPayments | .abort => .isTrue trivial

/-- What a step does to the recorded results: one appears only after the last epoch of its
vote, it is the final one, and it stays and is not tallied again, unless its proposal is
inserted again. -/
structure RecordsFinal (sdk : Sdk) (final : UInt64 → ProposalResult) (s : Indexer) (a : Label)
    (t : Indexer) : Prop where
  late : ∀ row ∈ t.proposals.rows, row.result.ended = true →
    (∃ old ∈ s.proposals.rows, old.id = row.id ∧ old.result.ended = true) ∨
    ∃ epoch, s.phase.epoch? = some epoch ∧ (short row).votingEndEpoch < epoch.toUInt64
  final : ∀ row ∈ t.proposals.rows, row.result.ended = true →
    Stores sdk row (final (asU64 row.id))
  stays : ∀ row ∈ s.proposals.rows, row.result.ended = true →
    (∃ row' ∈ t.proposals.rows, row'.id = row.id ∧ row'.result.tally? = row.result.tally? ∧
      row'.votes = row.votes) ∨
    ∃ proposals, a = .insert proposals ∧ ∃ inserted ∈ proposals, asI32 inserted.1.id = row.id
  leaves : ∀ row ∈ t.proposals.rows, row.result.ended = true →
    ∀ proposal ∈ getAllRunningProposals t.proposals, proposal.id ≠ asU64 row.id

/-- What a run keeps: every recorded tally is final, and a cycle that has read its answers
holds tallies of running proposals, which are final where the vote is over. -/
structure Tallied (sdk : Sdk) (final : UInt64 → ProposalResult) (s : Indexer) : Prop where
  running : ∀ proposal ∈ s.phase.running, ∃ row ∈ s.proposals.rows,
    row.result.ended = false ∧ short row = proposal
  statuses : ∀ epoch ∈ s.phase.epoch?, ∀ status ∈ s.phase.statuses, ∃ row ∈ s.proposals.rows,
    row.result.ended = false ∧ ∃ answer, status = statusOf sdk epoch (short row) answer ∧
      ((short row).votingEndEpoch < epoch.toUInt64 → answer = final (asU64 row.id))
  executed : ∀ entry ∈ s.phase.executed, ∃ row ∈ s.proposals.rows,
    executedResult row.result = .returns entry.2 ∧ asU64 row.id = entry.1
  final : ∀ row ∈ s.proposals.rows, row.result.ended = true →
    Stores sdk row (final (asU64 row.id))

theorem tallied_start : Tallied sdk final start :=
  ⟨by simp [start,Phase.running],by simp [start,Phase.epoch?],by simp [start,Phase.executed],
    by simp [start]⟩

/-- What a commit makes of a stored proposal. -/
theorem Tallied.finalRow_cases (hs : Tallied sdk final s) {epoch : Epoch}
    (hepoch : s.phase.epoch? = some epoch) {row : GovernanceProposalDb}
    (hrow : row ∈ s.proposals.rows) :
    finalRow s.phase.statuses s.phase.executed row = row ∨
    (∃ status ∈ s.phase.statuses, row.id = asI32 status.id ∧ row.result.ended = false ∧
      ∃ answer, status = statusOf sdk epoch (short row) answer ∧
        ((short row).votingEndEpoch < epoch.toUInt64 → answer = final (asU64 row.id)) ∧
        finalRow s.phase.statuses s.phase.executed row = setStatus status row) ∨
    (∃ result, executedResult row.result = .returns result ∧
      finalRow s.phase.statuses s.phase.executed row = { row with result }) := by
  have hstatus : ∀ status ∈ s.phase.statuses, row.id = asI32 status.id →
      row.result.ended = false ∧ ∃ answer, status = statusOf sdk epoch (short row) answer ∧
        ((short row).votingEndEpoch < epoch.toUInt64 → answer = final (asU64 row.id)) := by
    intro status hstatus hid
    obtain ⟨read,hread,hrunning,answer,rfl,hfinal⟩ := hs.statuses epoch hepoch status hstatus
    obtain rfl : row = read := Table.eq_of_key_eq hrow hread (hid.trans (asI32_asU64 read.id))
    exact ⟨hrunning,answer,rfl,hfinal⟩
  have hentry : ∀ entry ∈ s.phase.executed, row.id = asI32 entry.1 →
      executedResult row.result = .returns entry.2 := by
    intro entry hentry hid
    obtain ⟨read,hread,hresult,hkey⟩ := hs.executed entry hentry
    obtain rfl : row = read := by
      apply Table.eq_of_key_eq hrow hread
      rw [hid,←hkey,asI32_asU64]
    exact hresult
  have hdisjoint : ∀ status ∈ s.phase.statuses, row.id = asI32 status.id →
      ∀ entry ∈ s.phase.executed, row.id ≠ asI32 entry.1 := by
    intro status hin hid entry hin' hid'
    have hended := ended_of_executedResult (hentry entry hin' hid')
    rw [(hstatus status hin hid).1] at hended
    contradiction
  obtain ⟨hkept,-⟩ | ⟨status,hin,hid,hset⟩ | ⟨entry,hin,hid,hset⟩ :=
    Governance.finalRow_cases hdisjoint
  · exact .inl hkept
  · obtain ⟨hrunning,answer,hanswer,hfinal⟩ := hstatus status hin hid
    exact .inr (.inl ⟨status,hin,hid,hrunning,answer,hanswer,hfinal,hset⟩)
  · exact .inr (.inr ⟨entry.2,hentry entry hin hid,hset⟩)

/-- A running proposal is not the one of an ended row. -/
lemma ne_of_mem_running {table : GovernanceProposals} {row : GovernanceProposalDb}
    (hrow : row ∈ table.rows) (hended : row.result.ended = true) :
    ∀ proposal ∈ getAllRunningProposals table, proposal.id ≠ asU64 row.id := by
  intro proposal hproposal hid
  obtain ⟨read,hread,rfl⟩ := List.mem_map.mp hproposal
  obtain ⟨hread,hrunning⟩ := List.mem_filter.mp hread
  obtain rfl : read = row := Table.eq_of_key_eq hread hrow (asU64_injective hid)
  simp [hended] at hrunning

/-- A commit of a cycle that is not dated at the last epoch of a vote that it tallies. -/
theorem Tallied.commit (hs : Tallied sdk final s) (hlate : TalliesLate s .commit)
    {epoch : Epoch} (hepoch : s.phase.epoch? = some epoch) {row : GovernanceProposalDb}
    (hrow : row ∈ s.proposals.rows) :
    let row' := finalRow s.phase.statuses s.phase.executed row
    (row'.result.ended = true → Stores sdk row' (final (asU64 row'.id)) ∧
      (row.result.ended = true ∨ (short row').votingEndEpoch < epoch.toUInt64)) ∧
    row'.id = row.id ∧
    (row.result.ended = true → row'.result.tally? = row.result.tally? ∧ row'.votes = row.votes) := by
  intro row'
  obtain hkept | ⟨status,hin,hid,hrunning,answer,rfl,hanswer,hset⟩ | ⟨result,hresult,hset⟩ :=
    hs.finalRow_cases hepoch hrow
  · rw [show row' = row from hkept]
    exact ⟨fun hended => ⟨hs.final row hrow hended,.inl hended⟩,rfl,fun _ => ⟨rfl,rfl⟩⟩
  · have hset' := hset.trans (setStatus_of_id hid)
    rw [show row' = _ from hset']
    refine ⟨?_,rfl,fun hended => by rw [hrunning] at hended; contradiction⟩
    intro hended
    obtain ⟨hend,htally⟩ := resultAt_of_ended hended
    have hover : (short row).votingEndEpoch < epoch.toUInt64 :=
      UInt64.lt_of_le_of_ne hend (hlate epoch hepoch _ hin row hrow hid)
    obtain rfl := hanswer hover
    exact ⟨⟨htally,rfl⟩,.inr hover⟩
  · have hended := ended_of_executedResult hresult
    have htally := tally?_of_executedResult hresult
    rw [show row' = _ from hset]
    obtain ⟨hstored,hvotes⟩ := hs.final row hrow hended
    exact ⟨fun _ => ⟨⟨htally.trans hstored,hvotes⟩,.inl hended⟩,rfl,fun _ => ⟨htally,rfl⟩⟩

/-- An insertion that spares the proposals a cycle is about to mark as executed. -/
theorem Tallied.insert (hs : Tallied sdk final s)
    {proposals : List (GovernanceProposal × TallyType)}
    (hspares : TalliesLate s (.insert proposals)) {table : GovernanceProposals}
    (h : insertProposals sdk s.proposals proposals = some table) :
    Tallied sdk final { s with proposals := table } := by
  have hshort : ∀ row ∈ s.proposals.rows, row.result.ended = false →
      ∃ row' ∈ table.rows, row'.result.ended = false ∧ short row' = short row := by
    intro row hrow hrunning
    obtain ⟨row',hrow',hshort,rfl | hpending⟩ := insertProposals_row h hrow
    · exact ⟨row',hrow',hrunning,rfl⟩
    · exact ⟨row',hrow',by rw [hpending]; rfl,hshort⟩
  constructor
  · intro proposal hproposal
    obtain ⟨row,hrow,hrunning,rfl⟩ := hs.running proposal hproposal
    exact hshort row hrow hrunning
  · intro epoch hepoch status hstatus
    obtain ⟨row,hrow,hrunning,answer,rfl,hfinal⟩ := hs.statuses epoch hepoch status hstatus
    obtain ⟨row',hrow',hrunning',heq⟩ := hshort row hrow hrunning
    have hid : asU64 row'.id = asU64 row.id := congrArg (·.id) heq
    exact ⟨row',hrow',hrunning',answer,by rw [heq],by rw [heq,hid]; exact hfinal⟩
  · intro entry hentry
    obtain ⟨row,hrow,hresult,hid⟩ := hs.executed entry hentry
    refine ⟨row,mem_insertProposals_of_ne h hrow ?_,hresult,hid⟩
    intro inserted hinserted heq
    apply hspares inserted hinserted entry hentry
    rw [heq,←hid,asI32_asU64]
  · intro row hrow hended
    obtain hold | hpending := mem_insertProposals h hrow
    · exact hs.final row hold hended
    · rw [hpending] at hended
      contradiction

lemma recordsFinal_of_eq (hs : Tallied sdk final s) (h : t.proposals = s.proposals) :
    RecordsFinal sdk final s a t where
  late := fun row hrow hended => .inl ⟨row,h ▸ hrow,rfl,hended⟩
  final := fun row hrow => hs.final row (h ▸ hrow)
  stays := fun row hrow _ => .inl ⟨row,h ▸ hrow,rfl,rfl,rfl⟩
  leaves := fun _ hrow hended => ne_of_mem_running hrow hended

theorem recordsFinal_insert (ht : Tallied sdk final t)
    {proposals : List (GovernanceProposal × TallyType)}
    (h : insertProposals sdk s.proposals proposals = some t.proposals) :
    RecordsFinal sdk final s (.insert proposals) t where
  late := by
    intro row hrow hended
    obtain hold | hpending := mem_insertProposals h hrow
    · exact .inl ⟨row,hold,rfl,hended⟩
    · rw [hpending] at hended
      contradiction
  final := ht.final
  stays := by
    intro row hrow _
    by_cases hagain : ∃ inserted ∈ proposals, asI32 inserted.1.id = row.id
    · exact .inr ⟨proposals,rfl,hagain⟩
    · push Not at hagain
      exact .inl ⟨row,mem_insertProposals_of_ne h hrow hagain,rfl,rfl,rfl⟩
  leaves := fun _ hrow hended => ne_of_mem_running hrow hended

theorem recordsFinal_commit (hs : Tallied sdk final s) (hlate : TalliesLate s .commit)
    {epoch : Epoch} (hepoch : s.phase.epoch? = some epoch)
    (h : t.proposals = afterCommit s.proposals s.phase.statuses s.phase.executed) :
    RecordsFinal sdk final s .commit t := by
  have hrows : t.proposals.rows =
      s.proposals.rows.map (finalRow s.phase.statuses s.phase.executed) := by
    rw [h,afterCommit_rows]
  constructor
  · intro row hrow hended
    rw [hrows] at hrow
    obtain ⟨old,hold,rfl⟩ := List.mem_map.mp hrow
    obtain ⟨hstores,hid,-⟩ := hs.commit hlate hepoch hold
    obtain hended | hover := (hstores hended).2
    · exact .inl ⟨old,hold,hid.symm,hended⟩
    · exact .inr ⟨epoch,hepoch,hover⟩
  · intro row hrow hended
    rw [hrows] at hrow
    obtain ⟨old,hold,rfl⟩ := List.mem_map.mp hrow
    exact ((hs.commit hlate hepoch hold).1 hended).1
  · intro row hrow hended
    obtain ⟨-,hid,hstays⟩ := hs.commit hlate hepoch hrow
    obtain ⟨htally,hvotes⟩ := hstays hended
    exact .inl ⟨_,by rw [hrows]; exact List.mem_map_of_mem hrow,hid,htally,hvotes⟩
  · exact fun _ hrow hended => ne_of_mem_running hrow hended

/-- One step on the invariant. -/
theorem tallied_step (hs : Tallied sdk final s) (hanswers : FinalAnswers final s a)
    (hlate : TalliesLate s a) (h : step sdk s a = some t) :
    Tallied sdk final t ∧ RecordsFinal sdk final s a t := by
  obtain ⟨proposals,table,rfl,htable,rfl⟩ | ⟨proposals,rfl,rfl⟩ | ⟨nodeEpoch,rfl,hphase,rfl⟩ |
    ⟨answers,epoch,running,executed,rfl,hphase,hexecuted,rfl⟩ |
    ⟨epoch,statuses,executed,rfl,hphase,rfl⟩ | ⟨epoch,statuses,executed,payments,rfl,hphase,rfl⟩ |
    ⟨rfl,rfl⟩ := step_cases h
  · have ht := hs.insert hlate htable
    exact ⟨ht,recordsFinal_insert ht htable⟩
  · exact ⟨hs,recordsFinal_of_eq hs rfl⟩
  · refine ⟨⟨?_,by simp [Phase.statuses],by simp [Phase.executed],hs.final⟩,
      recordsFinal_of_eq hs rfl⟩
    intro proposal hproposal
    obtain ⟨row,hrow,rfl⟩ := List.mem_map.mp hproposal
    obtain ⟨hrow,hrunning⟩ := List.mem_filter.mp hrow
    exact ⟨row,hrow,by simpa using hrunning,rfl⟩
  · have hread : s.phase.running = running ∧ s.phase.epoch? = some epoch := by
      rw [hphase]
      exact ⟨rfl,rfl⟩
    obtain ⟨list,hlist,hmem⟩ := executedProposals_returns s.proposals epoch
    obtain rfl : list = executed := by simpa [hexecuted] using hlist.symm
    refine ⟨⟨by simp [Phase.running],?_,?_,hs.final⟩,recordsFinal_of_eq hs rfl⟩
    · rintro _ ⟨⟩ status hstatus
      obtain ⟨proposal,hproposal,hstatus⟩ := List.mem_filterMap.mp hstatus
      obtain ⟨answer,hanswer,rfl⟩ := Option.map_eq_some_iff.mp hstatus
      obtain ⟨row,hrow,hrunning,rfl⟩ := hs.running proposal (hread.1 ▸ hproposal)
      refine ⟨row,hrow,hrunning,answer,rfl,?_⟩
      intro hover
      exact hanswers epoch hread.2 _ (hread.1 ▸ hproposal) hover answer hanswer
    · intro entry hentry
      obtain ⟨row,hrow,-,hresult,hid⟩ := (hmem entry).mp hentry
      exact ⟨row,hrow,hresult,hid⟩
  · have hread : s.phase.statuses = statuses ∧ s.phase.executed = executed ∧
        s.phase.epoch? = some epoch := by
      rw [hphase]
      exact ⟨rfl,rfl,rfl⟩
    refine ⟨⟨by simp [Phase.running],?_,?_,hs.final⟩,recordsFinal_of_eq hs rfl⟩
    · rintro _ ⟨⟩ status hstatus
      exact hs.statuses epoch hread.2.2 status (hread.1 ▸ hstatus)
    · intro entry hentry
      exact hs.executed entry (hread.2.1 ▸ hentry)
  · have hepoch : s.phase.epoch? = some epoch := by rw [hphase]; rfl
    have hrecords := recordsFinal_commit (t := { s with
        proposals := afterCommit s.proposals statuses executed
        publicGoodFunding := updatePgf sdk s.publicGoodFunding payments
        phase := .idle }) hs hlate hepoch (by rw [hphase]; rfl)
    exact ⟨⟨by simp [Phase.running],by simp [Phase.epoch?],by simp [Phase.executed],
      hrecords.final⟩,hrecords⟩
  · exact ⟨⟨by simp [Phase.running],by simp [Phase.epoch?],by simp [Phase.executed],hs.final⟩,
      recordsFinal_of_eq hs rfl⟩

/-- Over any interleaving of insertions and cycles at any epochs, the results and votes that are
recorded are the final ones, if no cycle writes a tally of the last epoch of its vote. -/
theorem recorded_tallies_final {labels : List Label}
    (hanswers : Along (step sdk) (FinalAnswers final) start labels)
    (hlate : Along (step sdk) TalliesLate start labels) :
    Along (step sdk) (fun s a => ∀ t, step sdk s a = some t → RecordsFinal sdk final s a t)
      start labels := by
  apply along_of_invariant (Tallied sdk final) ?_ ?_ tallied_start (along_and hanswers hlate)
  · rintro s a t hs ⟨hanswers,hlate⟩ h
    exact (tallied_step hs hanswers hlate h).1
  · rintro s a hs ⟨hanswers,hlate⟩ t h
    exact (tallied_step hs hanswers hlate h).2

/-- The tally of the sampled proposal after votes of the last epoch. -/
def sampleFinal : ProposalResult := ⟨.rejected,10,20,0⟩

/-- Cycles before and after the last epoch of the vote record its final tally. -/
theorem recorded_tallies_final_sample :
    Along (step Sdk.sample) (fun s a => ∀ t, step Sdk.sample s a = some t →
      RecordsFinal Sdk.sample (fun _ => sampleFinal) s a t) start
      (sampleInsert :: cycle 3 (some sampleAnswer) ++ cycle 5 (some sampleFinal) ++ cycle 6 none) ∧
    ∃ t, execute (step Sdk.sample) start (sampleInsert :: cycle 3 (some sampleAnswer) ++
        cycle 5 (some sampleFinal) ++ cycle 6 none) = some t ∧
      t.proposals.rows.map (fun row => (row.result,row.votes)) =
        [(.executedRejected,"10","20","0")] := by
  refine ⟨?_,_,rfl,by decide⟩
  exact recorded_tallies_final (by decide) (by decide)

/-- A cycle in the last epoch of a vote records the tally of that moment for good. -/
theorem last_epoch_tally_recorded : ∃ s t u,
    execute (step Sdk.sample) start
      [sampleInsert,.readRunning 4,.readExecuted fun _ => some sampleAnswer,.readPayments] = some s ∧
    step Sdk.sample s .commit = some t ∧
    execute (step Sdk.sample) t (cycle 5 (some sampleFinal)) = some u ∧
    Along (step Sdk.sample) (FinalAnswers fun _ => sampleFinal) start
      (sampleInsert :: cycle 4 (some sampleAnswer) ++ cycle 5 (some sampleFinal)) ∧
    t.proposals.rows.map (fun row => (row.result,row.votes)) = [(.passed,"10","0","0")] ∧
    u.proposals.rows.map (fun row => (row.result,row.votes)) = [(.executedPassed,"10","0","0")] ∧
    ¬ RecordsFinal Sdk.sample (fun _ => sampleFinal) s .commit t := by
  refine ⟨_,_,_,rfl,rfl,rfl,by decide,by decide,by decide,?_⟩
  intro hrecords
  obtain ⟨hresult,-⟩ := hrecords.final _ List.mem_cons_self rfl
  contradiction

end Indexer
end NamadaIndexer.Governance
