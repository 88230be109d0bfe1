import Mathlib.Logic.Relation
import NamadaIndexer.Governance.CycleSteps

/-! The stored result of a proposal moves forward over every run that inserts a proposal
only while it is pending. -/
namespace NamadaIndexer.Governance
open NamadaIndexer.Foundation NamadaIndexer.Foundation.Runs NamadaIndexer.Shared

namespace GovernanceProposalResult

/-- The arrows of a proposal's life. -/
inductive Next : GovernanceProposalResult → GovernanceProposalResult → Prop
  | starts : Next .pending .votingPeriod
  | passes : Next .votingPeriod .passed
  | fails : Next .votingPeriod .rejected
  | executesPassed : Next .passed .executedPassed
  | executesRejected : Next .rejected .executedRejected

/-- Moves along the arrows, over any number of them. -/
def Forward : GovernanceProposalResult → GovernanceProposalResult → Prop :=
  Relation.ReflTransGen Next

theorem Forward.refl (a : GovernanceProposalResult) : Forward a a := Relation.ReflTransGen.refl

/-- How many arrows lead to a result. -/
def rank : GovernanceProposalResult → ℕ
  | .pending | .unknown => 0
  | .votingPeriod => 1
  | .passed | .rejected => 2
  | .executedPassed | .executedRejected => 3

theorem Forward.rank_le {a b : GovernanceProposalResult} (h : Forward a b) : a.rank ≤ b.rank := by
  induction h with
  | refl => exact le_refl _
  | tail _ hnext ih =>
    cases hnext <;> simp only [rank] at ih ⊢ <;> omega

def executed : GovernanceProposalResult → Bool
  | .executedPassed | .executedRejected => true
  | _ => false

theorem ended_of_executed {result : GovernanceProposalResult} (h : result.executed = true) :
    result.ended = true := by
  cases result <;> simp_all [executed,ended]

theorem forward_of_executedResult {result executed : GovernanceProposalResult}
    (h : executedResult result = .returns executed) : Forward result executed := by
  obtain ⟨rfl,rfl⟩ | ⟨rfl,rfl⟩ := executedResult_eq_returns.mp h
  · exact .single .executesPassed
  · exact .single .executesRejected

end GovernanceProposalResult

open GovernanceProposalResult

/-- A tally moves a proposal forward unless it is dated before a vote that has begun. -/
theorem forward_resultAt {result : GovernanceProposalResult} {currentEpoch : UInt64}
    {proposal : GovernanceProposalShort} (tally : TallyResult)
    (h : result = .pending ∨
      result = .votingPeriod ∧ proposal.votingStartEpoch ≤ currentEpoch) :
    Forward result (resultAt currentEpoch proposal tally) := by
  have hvoting : Forward result .votingPeriod := by
    obtain rfl | ⟨rfl,-⟩ := h
    · exact .single .starts
    · exact .refl _
  unfold resultAt
  split
  · cases tally with
    | passed => exact hvoting.tail .passes
    | rejected => exact hvoting.tail .fails
  · rename_i hopen
    split
    · exact hvoting
    · rename_i hclosed
      obtain rfl | ⟨-,hstarted⟩ := h
      · exact .refl _
      · exact absurd ⟨hstarted,UInt64.le_of_lt (UInt64.not_le.mp hopen)⟩ hclosed

theorem resultAt_ne_unknown (currentEpoch : UInt64) (proposal : GovernanceProposalShort)
    (tally : TallyResult) : resultAt currentEpoch proposal tally ≠ .unknown := by
  unfold resultAt
  split
  · cases tally <;> simp
  · split <;> simp

def GovernanceProposalDb.votes (row : GovernanceProposalDb) : String × String × String :=
  (row.yayVotes,row.nayVotes,row.abstainVotes)

/-- The later state of a row. -/
structure RowAdvances (row row' : GovernanceProposalDb) : Prop where
  id_eq : row'.id = row.id
  forward : Forward row.result row'.result
  frozen : row.result.executed = true → row'.result = row.result ∧ row'.votes = row.votes

theorem RowAdvances.refl (row : GovernanceProposalDb) : RowAdvances row row :=
  ⟨rfl,.refl _,fun _ => ⟨rfl,rfl⟩⟩

theorem RowAdvances.trans {row row' row'' : GovernanceProposalDb} (h : RowAdvances row row')
    (h' : RowAdvances row' row'') : RowAdvances row row'' where
  id_eq := h'.id_eq.trans h.id_eq
  forward := Relation.ReflTransGen.trans h.forward h'.forward
  frozen := by
    intro hexecuted
    obtain ⟨hresult,hvotes⟩ := h.frozen hexecuted
    obtain ⟨hresult',hvotes'⟩ := h'.frozen (by rwa [hresult])
    exact ⟨hresult'.trans hresult,hvotes'.trans hvotes⟩

/-- Every stored proposal stays stored and moves forward only. -/
def Advances (table table' : GovernanceProposals) : Prop :=
  ∀ row ∈ table.rows, ∃ row' ∈ table'.rows, RowAdvances row row'

theorem Advances.refl (table : GovernanceProposals) : Advances table table :=
  fun row hrow => ⟨row,hrow,.refl row⟩

theorem Advances.trans {table table' table'' : GovernanceProposals} (h : Advances table table')
    (h' : Advances table' table'') : Advances table table'' := by
  intro row hrow
  obtain ⟨row',hrow',hadvances⟩ := h row hrow
  obtain ⟨row'',hrow'',hadvances'⟩ := h' row' hrow'
  exact ⟨row'',hrow'',hadvances.trans hadvances'⟩

theorem Committed.advances {sdk : Sdk} {epoch : Epoch} {row row' : GovernanceProposalDb}
    (h : Committed sdk epoch row row') (hknown : row.result ≠ .unknown)
    (hstarted : row.result = .votingPeriod → asU64 row.startEpoch ≤ epoch.toUInt64) :
    RowAdvances row row' := by
  cases h with
  | tallied answer hrunning =>
    have hresult : row.result = .pending ∨
        row.result = .votingPeriod ∧ asU64 row.startEpoch ≤ epoch.toUInt64 := by
      cases hr : row.result <;> simp_all [GovernanceProposalResult.ended]
    have hset : setStatus (statusOf sdk epoch (short row) answer) row = _ :=
      setStatus_of_id (asI32_asU64 row.id).symm
    rw [hset]
    refine ⟨rfl,forward_resultAt answer.result hresult,?_⟩
    intro hexecuted
    rw [ended_of_executed hexecuted] at hrunning
    contradiction
  | executed result hactive hended =>
    refine ⟨rfl,forward_of_executedResult hended,?_⟩
    intro hexecuted
    obtain ⟨h,-⟩ | ⟨h,-⟩ := executedResult_eq_returns.mp hended <;> rw [h] at hexecuted <;>
      contradiction
  | kept => exact .refl row

theorem Committed.ne_unknown {sdk : Sdk} {epoch : Epoch} {row row' : GovernanceProposalDb}
    (h : Committed sdk epoch row row') (hknown : row.result ≠ .unknown) :
    row'.result ≠ .unknown := by
  cases h with
  | tallied answer hrunning =>
    have hset : setStatus (statusOf sdk epoch (short row) answer) row = _ :=
      setStatus_of_id (asI32_asU64 row.id).symm
    rw [hset]
    exact resultAt_ne_unknown _ _ _
  | executed result hactive hended =>
    obtain ⟨-,rfl⟩ | ⟨-,rfl⟩ := executedResult_eq_returns.mp hended <;> simp
  | kept => exact hknown

theorem votingStart_le_of_resultAt {currentEpoch : UInt64} {proposal : GovernanceProposalShort}
    {tally : TallyResult} (h : resultAt currentEpoch proposal tally = .votingPeriod) :
    proposal.votingStartEpoch ≤ currentEpoch := by
  unfold resultAt at h
  split at h
  · cases tally <;> contradiction
  · split at h
    · rename_i hopen
      exact hopen.1
    · contradiction

/-- A vote is opened by a cycle that is not dated before its start. -/
theorem Committed.started {sdk : Sdk} {epoch : Epoch} {row row' : GovernanceProposalDb}
    (h : Committed sdk epoch row row') (hvoting : row'.result = .votingPeriod)
    (hstarted : row.result = .votingPeriod → asU64 row.startEpoch ≤ epoch.toUInt64) :
    asU64 row'.startEpoch ≤ epoch.toUInt64 := by
  cases h with
  | tallied answer hrunning =>
    have hset : setStatus (statusOf sdk epoch (short row) answer) row = _ :=
      setStatus_of_id (asI32_asU64 row.id).symm
    rw [hset] at hvoting ⊢
    exact votingStart_le_of_resultAt hvoting
  | executed result hactive hended =>
    obtain ⟨-,rfl⟩ | ⟨-,rfl⟩ := executedResult_eq_returns.mp hended <;> contradiction
  | kept => exact hstarted hvoting

/-- The epoch of a cycle in the middle of its work. -/
def Phase.epoch? : Phase → Option Epoch
  | .idle => none
  | .tallying epoch _ | .collecting epoch _ _ | .writing epoch _ _ _ => some epoch

namespace Indexer
variable {sdk : Sdk} {s t : Indexer} {a : Label}

/-- An inserted proposal is new or still pending, and a cycle is not dated before the start
of a vote that is stored as open. -/
def InOrder (s : Indexer) : Label → Prop
  | .insert proposals => LeavesAlone (· != .pending) s.proposals proposals
  | .commit => ∀ epoch ∈ s.phase.epoch?, ∀ row ∈ s.proposals.rows,
    row.result = .votingPeriod → asU64 row.startEpoch ≤ epoch.toUInt64
  | _ => True

instance (s : Indexer) : (a : Label) → Decidable (InOrder s a)
  | .insert proposals => inferInstanceAs (Decidable (LeavesAlone (· != .pending) s.proposals proposals))
  | .commit => Option.decidableForallMem s.phase.epoch?
  | .readRunning _ | .readExecuted _ | .readPayments | .abort => .isTrue trivial

theorem InOrder.leavesAlone (h : InOrder s a) {proposals : List (GovernanceProposal × TallyType)}
    (ha : a = .insert proposals) :
    LeavesAlone GovernanceProposalResult.ended s.proposals proposals := by
  subst ha
  intro inserted hinserted row hrow hid
  have hpending : row.result = .pending := by simpa using h inserted hinserted row hrow hid
  rw [hpending]
  rfl

/-- What a run keeps: a cycle in the middle of its work fits, and every result is known. -/
structure Sound (sdk : Sdk) (s : Indexer) : Prop where
  fits : s.phase.Fits sdk s.proposals s.epoch
  known : ∀ row ∈ s.proposals.rows, row.result ≠ .unknown

theorem sound_start (sdk : Sdk) : Sound sdk start := ⟨trivial,by simp [start]⟩

/-- The proposals after a step, for a step that changes them. -/
theorem step_proposals (h : step sdk s a = some t) :
    t.proposals = s.proposals ∨
    (∃ proposals, a = .insert proposals ∧
      insertProposals sdk s.proposals proposals = some t.proposals) ∨
    (∃ epoch statuses executed payments, a = .commit ∧
      s.phase = .writing epoch statuses executed payments ∧
      t.proposals = afterCommit s.proposals statuses executed) := by
  obtain ⟨proposals,table,ha,htable,rfl⟩ | ⟨proposals,ha,rfl⟩ | ⟨nodeEpoch,ha,hphase,rfl⟩ |
    ⟨answers,epoch,running,executed,ha,hphase,hexecuted,rfl⟩ |
    ⟨epoch,statuses,executed,ha,hphase,rfl⟩ | ⟨epoch,statuses,executed,payments,ha,hphase,rfl⟩ |
    ⟨ha,rfl⟩ := step_cases h
  · exact .inr (.inl ⟨proposals,ha,htable⟩)
  · exact .inl rfl
  · exact .inl rfl
  · exact .inl rfl
  · exact .inl rfl
  · exact .inr (.inr ⟨epoch,statuses,executed,payments,ha,hphase,rfl⟩)
  · exact .inl rfl

theorem mem_filter_ne_pending {table : GovernanceProposals} {row : GovernanceProposalDb} :
    row ∈ table.rows.filter (fun row => row.result != .pending) ↔
      row ∈ table.rows ∧ row.result ≠ .pending := by
  simp

theorem step_in_order (hs : Sound sdk s) (horder : InOrder s a) (h : step sdk s a = some t) :
    Sound sdk t ∧ Advances s.proposals t.proposals := by
  have hfits := fits_step hs.fits (fun _ => horder.leavesAlone) h
  obtain hsame | ⟨proposals,rfl,hinsert⟩ | ⟨epoch,statuses,executed,payments,rfl,hphase,hcommit⟩ :=
    step_proposals h
  · refine ⟨⟨hfits,by rw [hsame]; exact hs.known⟩,?_⟩
    rw [hsame]
    exact .refl _
  · have hleaves : LeavesAlone (· != .pending) s.proposals proposals := horder
    have hfilter := insertProposals_filter rfl hleaves hinsert
    refine ⟨⟨hfits,?_⟩,?_⟩
    · intro row hrow hunknown
      have hold := mem_filter_ne_pending.mpr ⟨hrow,by rw [hunknown]; decide⟩
      rw [hfilter] at hold
      exact hs.known row (mem_filter_ne_pending.mp hold).1 hunknown
    · intro row hrow
      by_cases hpending : row.result = .pending
      · obtain ⟨row',hrow',hshort,hresult⟩ := insertProposals_row hinsert hrow
        have hid : row'.id = row.id := asU64_injective (congrArg (·.id) hshort)
        have hsame : row'.result = row.result := by
          obtain rfl | h := hresult
          · rfl
          · rw [h,hpending]
        refine ⟨row',hrow',hid,hsame ▸ .refl _,?_⟩
        intro hexecuted
        rw [hpending] at hexecuted
        contradiction
      · have hnew := mem_filter_ne_pending.mpr ⟨hrow,hpending⟩
        rw [←hfilter] at hnew
        exact ⟨row,(mem_filter_ne_pending.mp hnew).1,.refl row⟩
  · have hcollected : Collected sdk s.proposals epoch statuses executed := by
      have := hs.fits
      rw [hphase] at this
      exact this.1 ▸ this.2.1
    have hcommitted : ∀ row ∈ s.proposals.rows,
        Committed sdk epoch row (finalRow statuses executed row) :=
      fun row hrow => hcollected.finalRow hrow
    have hrows : t.proposals.rows = s.proposals.rows.map (finalRow statuses executed) := by
      rw [hcommit,afterCommit_rows]
    refine ⟨⟨hfits,?_⟩,?_⟩
    · intro row hrow
      rw [hrows] at hrow
      obtain ⟨old,hold,rfl⟩ := List.mem_map.mp hrow
      exact (hcommitted old hold).ne_unknown (hs.known old hold)
    · intro row hrow
      refine ⟨finalRow statuses executed row,by rw [hrows]; exact List.mem_map_of_mem hrow,?_⟩
      apply (hcommitted row hrow).advances (hs.known row hrow)
      exact horder epoch (by rw [hphase]; rfl) row hrow

theorem run_in_order {labels : List Label} (hs : Sound sdk s)
    (horder : Along (step sdk) InOrder s labels) (h : execute (step sdk) s labels = some t) :
    Sound sdk t ∧ Advances s.proposals t.proposals := by
  induction labels generalizing s with
  | nil => cases h; exact ⟨hs,.refl _⟩
  | cons a labels ih =>
    obtain ⟨m,hm,hrest⟩ := execute_cons_eq_some.mp h
    obtain ⟨hsound,hadvances⟩ := step_in_order hs horder.1 hm
    obtain ⟨hsound',hadvances'⟩ := ih hsound (horder.2 m hm) hrest
    exact ⟨hsound',hadvances.trans hadvances'⟩

/-- Over any interleaving of insertions and cycles, the stored results move forward only,
if no insertion finds its proposal past pending and no cycle is dated before an open vote. -/
theorem results_move_forward {earlier later : List Label}
    (horder : Along (step sdk) InOrder start (earlier ++ later))
    (hs : execute (step sdk) start earlier = some s) (ht : execute (step sdk) s later = some t) :
    Advances s.proposals t.proposals := by
  obtain ⟨horder,horder'⟩ := along_append.mp horder
  have hsound := (run_in_order (sound_start sdk) horder hs).1
  exact (run_in_order hsound (horder' s hs) ht).2

/-- Insertions in order, and a node whose epoch does not fall. -/
def InOrderOfEpochs (s : Indexer) : Label → Prop
  | .insert proposals => LeavesAlone (· != .pending) s.proposals proposals
  | .readRunning nodeEpoch => s.epoch ≤ nodeEpoch.toUInt32
  | _ => True

/-- Every open vote has started by the last epoch that the node answered. -/
def Started (s : Indexer) : Prop :=
  ∀ row ∈ s.proposals.rows, row.result = .votingPeriod → asU64 row.startEpoch ≤ s.epoch.toUInt64

theorem InOrderOfEpochs.inOrder (h : InOrderOfEpochs s a) (hs : Sound sdk s) (hstarted : Started s) :
    InOrder s a := by
  cases a with
  | insert proposals => exact h
  | commit =>
    intro epoch hepoch row hrow hvoting
    have hcurrent : epoch = s.epoch := by
      have hfits := hs.fits
      cases hphase : s.phase <;> rw [hphase] at hfits hepoch <;> cases hepoch <;> exact hfits.1
    rw [hcurrent]
    exact hstarted row hrow hvoting
  | readRunning nodeEpoch => trivial
  | readExecuted answers => trivial
  | readPayments => trivial
  | abort => trivial

theorem started_step (horder : InOrderOfEpochs s a) (hs : Sound sdk s) (hstarted : Started s)
    (h : step sdk s a = some t) : Started t := by
  have hepoch : s.epoch ≤ t.epoch := by
    obtain ⟨proposals,table,ha,htable,rfl⟩ | ⟨proposals,ha,rfl⟩ | ⟨nodeEpoch,rfl,hphase,rfl⟩ |
      ⟨answers,epoch,running,executed,ha,hphase,hexecuted,rfl⟩ |
      ⟨epoch,statuses,executed,ha,hphase,rfl⟩ |
      ⟨epoch,statuses,executed,payments,ha,hphase,rfl⟩ | ⟨ha,rfl⟩ := step_cases h
    case inr.inr.inl => exact horder
    all_goals exact UInt32.le_refl _
  have hlater : Started { t with proposals := s.proposals } := fun row hrow hvoting =>
    UInt64.le_trans (hstarted row hrow hvoting) (UInt32.toUInt64_le.mpr hepoch)
  intro row hrow hvoting
  obtain hsame | ⟨proposals,rfl,hinsert⟩ | ⟨epoch,statuses,executed,payments,rfl,hphase,hcommit⟩ :=
    step_proposals h
  · exact hlater row (hsame ▸ hrow) hvoting
  · have hleaves : LeavesAlone (· != .pending) s.proposals proposals := horder
    have hold := mem_filter_ne_pending.mpr ⟨hrow,by rw [hvoting]; decide⟩
    rw [insertProposals_filter rfl hleaves hinsert] at hold
    exact hlater row (mem_filter_ne_pending.mp hold).1 hvoting
  · have hfits := hs.fits
    rw [hphase] at hfits
    obtain ⟨rfl,hcollected,-⟩ := hfits
    rw [hcommit,afterCommit_rows] at hrow
    obtain ⟨old,hold,rfl⟩ := List.mem_map.mp hrow
    have hbefore := (hcollected.finalRow hold).started hvoting (hstarted old hold)
    exact UInt64.le_trans hbefore (UInt32.toUInt64_le.mpr hepoch)

/-- Where the epoch of the node does not fall, only insertions can be out of order. -/
theorem along_inOrder {labels : List Label} (hs : Sound sdk s) (hstarted : Started s)
    (horder : Along (step sdk) InOrderOfEpochs s labels) : Along (step sdk) InOrder s labels := by
  refine along_of_invariant (fun s => Sound sdk s ∧ Started s) ?_ ?_ ⟨hs,hstarted⟩ horder
  · rintro s a t ⟨hs,hstarted⟩ horder h
    exact ⟨(step_in_order hs (horder.inOrder hs hstarted) h).1,started_step horder hs hstarted h⟩
  · rintro s a ⟨hs,hstarted⟩ horder
    exact horder.inOrder hs hstarted

/-- A cycle from its first read to its commit. -/
def cycle (nodeEpoch : UInt64) (answer : Option ProposalResult) : List Label :=
  [.readRunning nodeEpoch,.readExecuted fun _ => answer,.readPayments,.commit]

/-- Proposal 1, which is voted on from epoch 2 to epoch 4 and activated at epoch 5. -/
def sampleProposal : GovernanceProposal where
  id := 1
  content := ""
  type := .pgfFunding
  data := some "fundings"
  author := .account "alice"
  votingStartEpoch := 2
  votingEndEpoch := 4
  activationEpoch := 5

def sampleInsert : Label := .insert [(sampleProposal,.oneHalfOverOneThird)]

def sampleAnswer : ProposalResult := ⟨.passed,10,0,0⟩

/-- A sampled run in order: the vote opens, passes and is executed. -/
theorem results_move_forward_sample :
    ∃ s t, execute (step Sdk.sample) start (sampleInsert :: cycle 3 (some sampleAnswer)) = some s ∧
      execute (step Sdk.sample) s
        (cycle 4 (some sampleAnswer) ++ cycle 5 (some sampleAnswer)) = some t ∧
      s.proposals.rows.map (·.result) = [.votingPeriod] ∧
      t.proposals.rows.map (·.result) = [.executedPassed] ∧
      Advances s.proposals t.proposals := by
  refine ⟨_,_,rfl,rfl,by decide,by decide,?_⟩
  have horder : Along (step Sdk.sample) InOrder start
      ((sampleInsert :: cycle 3 (some sampleAnswer)) ++
        (cycle 4 (some sampleAnswer) ++ cycle 5 (some sampleAnswer))) := by
    decide
  exact results_move_forward horder rfl rfl

/-- Replaying a block, or the initial query, sets an executed proposal back to pending. -/
theorem reinsertion_sets_result_back : ∃ s t,
    execute (step Sdk.sample) start
      (sampleInsert :: cycle 4 (some sampleAnswer) ++ cycle 5 none) = some s ∧
    execute (step Sdk.sample) s [sampleInsert] = some t ∧
    ¬ Advances s.proposals t.proposals := by
  refine ⟨_,_,rfl,rfl,?_⟩
  intro hadvances
  obtain ⟨row,hrow,hforward⟩ := hadvances _ List.mem_cons_self
  obtain rfl := List.mem_singleton.mp hrow
  exact absurd hforward.forward.rank_le (by decide)

end Indexer
end NamadaIndexer.Governance
