import NamadaIndexer.Governance.Cycle

/-! What one step of the cycle does to the stored proposals, and what the memory of a cycle
says about them. -/
namespace NamadaIndexer.Governance
open NamadaIndexer.Foundation NamadaIndexer.Foundation.Runs NamadaIndexer.Shared

section
variable {sdk : Sdk} {table table' : GovernanceProposals} {epoch : Epoch}

/-- No inserted proposal is stored with a result the selection looks at. -/
def LeavesAlone (select : GovernanceProposalResult → Bool) (table : GovernanceProposals)
    (proposals : List (GovernanceProposal × TallyType)) : Prop :=
  ∀ inserted ∈ proposals, ∀ row ∈ table.rows, row.id = asI32 inserted.1.id →
    select row.result = false

instance (select : GovernanceProposalResult → Bool) (table : GovernanceProposals)
    (proposals : List (GovernanceProposal × TallyType)) :
    Decidable (LeavesAlone select table proposals) :=
  inferInstanceAs (Decidable (∀ inserted ∈ proposals, ∀ row ∈ table.rows,
    row.id = asI32 inserted.1.id → select row.result = false))

theorem insertProposals_filter {select : GovernanceProposalResult → Bool}
    {proposals : List (GovernanceProposal × TallyType)} (hpending : select .pending = false)
    (hleaves : LeavesAlone select table proposals)
    (h : insertProposals sdk table proposals = some table') :
    (table'.rows.filter fun row => select row.result) =
      table.rows.filter fun row => select row.result := by
  refine Table.filter_rows_foldlM_put (Table.upsert_eq_some.mp h).2 ?_ ?_ ?_
  · intro new hnew
    obtain ⟨inserted,-,rfl⟩ := List.mem_map.mp hnew
    exact hpending
  · intro new hnew row hrow hid
    obtain ⟨inserted,hinserted,rfl⟩ := List.mem_map.mp hnew
    exact hleaves inserted hinserted row hrow hid
  · intro old new row hrun hnew
    cases hrun
    exact hnew

/-- Inserting keeps a row as it is or makes it pending again. -/
theorem insertProposals_row {proposals : List (GovernanceProposal × TallyType)}
    (h : insertProposals sdk table proposals = some table') {row : GovernanceProposalDb}
    (hrow : row ∈ table.rows) :
    ∃ row' ∈ table'.rows, short row' = short row ∧ (row' = row ∨ row'.result = .pending) := by
  apply Table.exists_related_foldlM_put
    (fun _ => ⟨rfl,.inl rfl⟩) ?_ ?_ (Table.upsert_eq_some.mp h).2 hrow
  · intro a b c hab hbc
    refine ⟨hbc.1.trans hab.1,?_⟩
    obtain hc | hc := hbc.2
    · rw [hc]
      exact hab.2
    · exact .inr hc
  · intro new hnew old row hrun
    obtain ⟨inserted,-,rfl⟩ := List.mem_map.mp hnew
    cases hrun
    exact ⟨rfl,.inr rfl⟩

/-- A row of the table after an insertion was there before, or is pending. -/
theorem mem_insertProposals {proposals : List (GovernanceProposal × TallyType)}
    (h : insertProposals sdk table proposals = some table') {row : GovernanceProposalDb}
    (hrow : row ∈ table'.rows) : row ∈ table.rows ∨ row.result = .pending := by
  obtain ⟨hnodup,hput⟩ := Table.upsert_eq_some.mp h
  have hfind := Table.find?_of_mem hrow
  rw [Table.find?_foldlM_put hnodup hput] at hfind
  split at hfind
  · rename_i new hnew
    obtain ⟨inserted,-,rfl⟩ := List.mem_map.mp (List.mem_of_find?_eq_some hnew)
    split at hfind <;> cases hfind <;> exact .inr rfl
  · exact .inl (Table.find?_eq_some.mp hfind).1

/-- A row that is not inserted again stays as it is. -/
theorem mem_insertProposals_of_ne {proposals : List (GovernanceProposal × TallyType)}
    (h : insertProposals sdk table proposals = some table') {row : GovernanceProposalDb}
    (hrow : row ∈ table.rows) (hne : ∀ inserted ∈ proposals, asI32 inserted.1.id ≠ row.id) :
    row ∈ table'.rows := by
  obtain ⟨hnodup,hput⟩ := Table.upsert_eq_some.mp h
  have hfind := Table.find?_foldlM_put hnodup hput row.id
  split at hfind
  · rename_i new hnew
    obtain ⟨inserted,hinserted,rfl⟩ := List.mem_map.mp (List.mem_of_find?_eq_some hnew)
    have hid : (fromGovernanceProposal sdk inserted.1 inserted.2).id = row.id := by
      simpa using List.find?_some hnew
    exact absurd hid (hne inserted hinserted)
  · rw [Table.find?_of_mem hrow] at hfind
    exact (Table.find?_eq_some.mp hfind).1

theorem executedResult_eq_returns {result executed : GovernanceProposalResult} :
    executedResult result = .returns executed ↔
      result = .passed ∧ executed = .executedPassed ∨
      result = .rejected ∧ executed = .executedRejected := by
  cases result <;> simp [executedResult,eq_comm]

/-- The cycle never meets the panic of its match, and marks what has come to activation. -/
theorem executedProposals_returns (table : GovernanceProposals) (epoch : Epoch) :
    ∃ executed, executedProposals table epoch = .returns executed ∧
      ∀ entry, entry ∈ executed ↔ ∃ row ∈ table.rows, row.activationEpoch ≤ epoch.toInt32 ∧
        executedResult row.result = .returns entry.2 ∧ asU64 row.id = entry.1 := by
  have hreturns : (executedProposals table epoch).Returns := by
    apply Panicking.returns_mapM_iff.mpr
    intro entry hentry
    obtain ⟨row,hrow,rfl⟩ := List.mem_map.mp hentry
    have hended := (List.mem_filter.mp hrow).2
    rw [Panicking.returns_map_iff]
    cases hresult : row.result <;> simp_all [executedResult]
  obtain ⟨executed,hexecuted⟩ := hreturns
  refine ⟨executed,hexecuted,?_⟩
  intro entry
  rw [Panicking.mem_of_mapM_returns hexecuted]
  constructor
  · rintro ⟨read,hread,heq⟩
    obtain ⟨row,hrow,rfl⟩ := List.mem_map.mp hread
    have hselected := List.mem_filter.mp hrow
    have hactive : row.activationEpoch ≤ epoch.toInt32 := by
      simpa using (Bool.and_eq_true_iff.mp hselected.2).2
    cases hresult : executedResult row.result with
    | panics message => simp [hresult] at heq
    | returns result =>
      obtain rfl : (asU64 row.id,result) = entry := by simpa [hresult] using heq
      exact ⟨row,hselected.1,hactive,hresult,rfl⟩
  · rintro ⟨row,hrow,hactive,hresult,hid⟩
    have hended := executedResult_eq_returns.mp hresult
    refine ⟨(asU64 row.id,row.result),?_,?_⟩
    · apply List.mem_map_of_mem
      apply List.mem_filter.mpr
      refine ⟨hrow,?_⟩
      obtain ⟨h,-⟩ | ⟨h,-⟩ := hended <;> simp [h,hactive]
    · simp [hresult,hid]

/-- A query that selects only ended proposals sees nothing of the others. -/
lemma filter_congr_of_ended {p : GovernanceProposalDb → Bool}
    (hp : ∀ row, p row = true → row.result.ended = true)
    (h : (table'.rows.filter fun row => row.result.ended) =
      table.rows.filter fun row => row.result.ended) :
    table'.rows.filter p = table.rows.filter p := by
  have hfilter : ∀ t : GovernanceProposals,
      t.rows.filter p = (t.rows.filter fun row => row.result.ended).filter p := by
    intro t
    rw [List.filter_filter]
    apply List.filter_congr
    intro row _
    cases hrow : p row with
    | true => rw [hp row hrow,Bool.and_self]
    | false => rw [Bool.false_and]
  rw [hfilter,hfilter,h]

theorem getAllExecutedProposals_congr
    (h : (table'.rows.filter fun row => row.result.ended) =
      table.rows.filter fun row => row.result.ended) :
    getAllExecutedProposals table' epoch = getAllExecutedProposals table epoch := by
  rw [getAllExecutedProposals,getAllExecutedProposals,filter_congr_of_ended ?_ h]
  intro row hrow
  cases hresult : row.result <;> simp_all [GovernanceProposalResult.ended]

theorem getAllPgfExecutedProposalsData_congr
    (h : (table'.rows.filter fun row => row.result.ended) =
      table.rows.filter fun row => row.result.ended) :
    getAllPgfExecutedProposalsData table' epoch = getAllPgfExecutedProposalsData table epoch := by
  rw [getAllPgfExecutedProposalsData,getAllPgfExecutedProposalsData,filter_congr_of_ended ?_ h]
  intro row hrow
  cases hresult : row.result <;> simp_all [GovernanceProposalResult.ended]

/-- What the updates of a transaction make of one row. -/
def finalRow (statuses : List GovernanceProposalStatus)
    (executed : List (UInt64 × GovernanceProposalResult)) (row : GovernanceProposalDb) :
    GovernanceProposalDb :=
  executed.foldl (fun row entry => setResult entry row)
    (statuses.foldl (fun row status => setStatus status row) row)

theorem afterCommit_rows (table : GovernanceProposals) (statuses : List GovernanceProposalStatus)
    (executed : List (UInt64 × GovernanceProposalResult)) :
    (Indexer.afterCommit table statuses executed).rows =
      table.rows.map (finalRow statuses executed) := by
  have hstatuses := Table.foldl_mapRows_rows setStatus setStatus_id statuses table
  have hexecuted := Table.foldl_mapRows_rows setResult setResult_id executed
    (statuses.foldl updateProposalStatus table)
  rw [Indexer.afterCommit]
  refine hexecuted.trans ?_
  rw [show (statuses.foldl updateProposalStatus table).rows = _ from hstatuses,List.map_map]
  rfl

/-- Either no status is for the row, or the row is set to one of the statuses. -/
theorem foldl_setStatus (statuses : List GovernanceProposalStatus) (row : GovernanceProposalDb) :
    (statuses.foldl (fun row status => setStatus status row) row = row ∧
      ∀ status ∈ statuses, row.id ≠ asI32 status.id) ∨
    ∃ status ∈ statuses, row.id = asI32 status.id ∧
      statuses.foldl (fun row status => setStatus status row) row = setStatus status row := by
  apply foldl_overriding setStatus fun status row => row.id = asI32 status.id
  · intro status row hmiss
    exact if_neg hmiss
  · intro status other row
    rw [setStatus_id]
  · intro status other row hhit
    have hhit' : (setStatus other row).id = asI32 status.id := by rwa [setStatus_id]
    rw [setStatus_of_id hhit',setStatus_of_id hhit]
    unfold setStatus
    split <;> rfl

theorem foldl_setResult (executed : List (UInt64 × GovernanceProposalResult))
    (row : GovernanceProposalDb) :
    (executed.foldl (fun row entry => setResult entry row) row = row ∧
      ∀ entry ∈ executed, row.id ≠ asI32 entry.1) ∨
    ∃ entry ∈ executed, row.id = asI32 entry.1 ∧
      executed.foldl (fun row entry => setResult entry row) row = setResult entry row := by
  apply foldl_overriding setResult fun entry row => row.id = asI32 entry.1
  · intro entry row hmiss
    exact if_neg hmiss
  · intro entry other row
    rw [setResult_id]
  · intro entry other row hhit
    have hhit' : (setResult other row).id = asI32 entry.1 := by rwa [setResult_id]
    rw [setResult_of_id hhit',setResult_of_id hhit]
    unfold setResult
    split <;> rfl

/-- What the updates make of a row that is not both tallied and executed. -/
theorem finalRow_cases {statuses : List GovernanceProposalStatus}
    {executed : List (UInt64 × GovernanceProposalResult)} {row : GovernanceProposalDb}
    (hdisjoint : ∀ status ∈ statuses, row.id = asI32 status.id →
      ∀ entry ∈ executed, row.id ≠ asI32 entry.1) :
    (finalRow statuses executed row = row ∧ ∀ entry ∈ executed, row.id ≠ asI32 entry.1) ∨
    (∃ status ∈ statuses, row.id = asI32 status.id ∧
      finalRow statuses executed row = setStatus status row) ∨
    (∃ entry ∈ executed, row.id = asI32 entry.1 ∧
      finalRow statuses executed row = { row with result := entry.2 }) := by
  unfold finalRow
  obtain ⟨hkept,-⟩ | ⟨status,hstatus,hid,hset⟩ := foldl_setStatus statuses row
  · rw [hkept]
    obtain ⟨hkept',hmiss⟩ | ⟨entry,hentry,hid,hset⟩ := foldl_setResult executed row
    · exact .inl ⟨hkept',hmiss⟩
    · exact .inr (.inr ⟨entry,hentry,hid,by rw [hset,setResult_of_id hid]⟩)
  · rw [hset]
    obtain ⟨hkept',-⟩ | ⟨entry,hentry,hid',-⟩ := foldl_setResult executed (setStatus status row)
    · exact .inr (.inl ⟨status,hstatus,hid,hkept'⟩)
    · rw [setStatus_id] at hid'
      exact absurd hid' (hdisjoint status hstatus hid entry hentry)

/-- The statuses of a cycle are tallies of rows that have not ended, and its executed
proposals are those of the stored table. -/
structure Collected (sdk : Sdk) (table : GovernanceProposals) (epoch : Epoch)
    (statuses : List GovernanceProposalStatus)
    (executed : List (UInt64 × GovernanceProposalResult)) : Prop where
  tallied : ∀ status ∈ statuses, ∃ row ∈ table.rows, row.result.ended = false ∧
    ∃ answer, status = statusOf sdk epoch (short row) answer
  executed_eq : executedProposals table epoch = .returns executed

/-- What the transaction of a cycle may make of a row. -/
inductive Committed (sdk : Sdk) (epoch : Epoch) (row : GovernanceProposalDb) :
    GovernanceProposalDb → Prop
  | tallied (answer : ProposalResult) (running : row.result.ended = false) :
    Committed sdk epoch row (setStatus (statusOf sdk epoch (short row) answer) row)
  | executed (result : GovernanceProposalResult) (active : row.activationEpoch ≤ epoch.toInt32)
    (ended : executedResult row.result = .returns result) :
    Committed sdk epoch row { row with result }
  | kept (waits : row.activationEpoch ≤ epoch.toInt32 →
      ∀ result, executedResult row.result ≠ .returns result) :
    Committed sdk epoch row row

theorem ended_of_executedResult {result executed : GovernanceProposalResult}
    (h : executedResult result = .returns executed) : result.ended = true := by
  obtain ⟨h,-⟩ | ⟨h,-⟩ := executedResult_eq_returns.mp h <;> rw [h] <;> rfl

theorem Collected.finalRow {statuses : List GovernanceProposalStatus}
    {executed : List (UInt64 × GovernanceProposalResult)}
    (h : Collected sdk table epoch statuses executed) {row : GovernanceProposalDb}
    (hrow : row ∈ table.rows) : Committed sdk epoch row (finalRow statuses executed row) := by
  obtain ⟨list,hlist,hmem⟩ := executedProposals_returns table epoch
  obtain rfl : list = executed := by simpa [h.executed_eq] using hlist.symm
  -- an entry that hits a row was read from that row
  have hentry : ∀ entry ∈ list, row.id = asI32 entry.1 →
      row.activationEpoch ≤ epoch.toInt32 ∧ executedResult row.result = .returns entry.2 := by
    intro entry hin hid
    obtain ⟨read,hread,hactive,hresult,hkey⟩ := (hmem entry).mp hin
    have hsame : row = read := by
      apply Table.eq_of_key_eq hrow hread
      rw [hid,←hkey,asI32_asU64]
    rw [hsame]
    exact ⟨hactive,hresult⟩
  have hstatus : ∀ status ∈ statuses, row.id = asI32 status.id → row.result.ended = false ∧
      ∃ answer, status = statusOf sdk epoch (short row) answer := by
    intro status hin hid
    obtain ⟨read,hread,hrunning,answer,rfl⟩ := h.tallied status hin
    have hsame : row = read := by
      apply Table.eq_of_key_eq hrow hread
      rw [hid]
      exact asI32_asU64 read.id
    rw [hsame]
    exact ⟨hrunning,answer,rfl⟩
  have hdisjoint : ∀ status ∈ statuses, row.id = asI32 status.id →
      ∀ entry ∈ list, row.id ≠ asI32 entry.1 := by
    intro status hin hid entry hin' hid'
    have hended := ended_of_executedResult (hentry entry hin' hid').2
    rw [(hstatus status hin hid).1] at hended
    contradiction
  obtain ⟨hkept,hmiss⟩ | ⟨status,hin,hid,hset⟩ | ⟨entry,hin,hid,hset⟩ := finalRow_cases hdisjoint
  · rw [hkept]
    apply Committed.kept
    intro hactive result hresult
    have hin : (asU64 row.id,result) ∈ list := (hmem _).mpr ⟨row,hrow,hactive,hresult,rfl⟩
    exact hmiss _ hin (asI32_asU64 row.id).symm
  · obtain ⟨hrunning,answer,rfl⟩ := hstatus status hin hid
    rw [hset]
    exact .tallied answer hrunning
  · obtain ⟨hactive,hresult⟩ := hentry entry hin hid
    rw [hset]
    exact .executed entry.2 hactive hresult

/-- The memory of a cycle in the middle of its work fits the stored proposals. -/
def Phase.Fits (sdk : Sdk) (table : GovernanceProposals) (epoch : Epoch) : Phase → Prop
  | .idle => True
  | .tallying e running => e = epoch ∧
    ∀ proposal ∈ running, ∃ row ∈ table.rows, row.result.ended = false ∧ short row = proposal
  | .collecting e statuses executed => e = epoch ∧ Collected sdk table epoch statuses executed
  | .writing e statuses executed payments => e = epoch ∧
    Collected sdk table epoch statuses executed ∧ payments = pgfPayments sdk table epoch

/-- Inserting proposals that have not ended does not disturb a cycle. -/
theorem Phase.Fits.insert {phase : Phase} (h : phase.Fits sdk table epoch)
    {proposals : List (GovernanceProposal × TallyType)}
    (hleaves : LeavesAlone GovernanceProposalResult.ended table proposals)
    (hinsert : insertProposals sdk table proposals = some table') :
    phase.Fits sdk table' epoch := by
  have hended := insertProposals_filter rfl hleaves hinsert
  have hrow : ∀ row ∈ table.rows, row.result.ended = false →
      ∃ row' ∈ table'.rows, row'.result.ended = false ∧ short row' = short row := by
    intro row hrow hrunning
    obtain ⟨row',hrow',hshort,hsame | hpending⟩ := insertProposals_row hinsert hrow
    · exact ⟨row',hrow',hsame ▸ hrunning,hshort⟩
    · exact ⟨row',hrow',hpending ▸ rfl,hshort⟩
  have hcollected : ∀ {statuses executed}, Collected sdk table epoch statuses executed →
      Collected sdk table' epoch statuses executed := by
    intro statuses executed hc
    constructor
    · intro status hstatus
      obtain ⟨row,hmem,hrunning,answer,rfl⟩ := hc.tallied status hstatus
      obtain ⟨row',hrow',hrunning',hshort⟩ := hrow row hmem hrunning
      exact ⟨row',hrow',hrunning',answer,by rw [hshort]⟩
    · rw [←hc.executed_eq,executedProposals,executedProposals,getAllExecutedProposals_congr hended]
  cases phase with
  | idle => trivial
  | tallying e running =>
    refine ⟨h.1,?_⟩
    intro proposal hproposal
    obtain ⟨row,hmem,hrunning,rfl⟩ := h.2 proposal hproposal
    exact hrow row hmem hrunning
  | collecting e statuses executed => exact ⟨h.1,hcollected h.2⟩
  | writing e statuses executed payments =>
    refine ⟨h.1,hcollected h.2.1,?_⟩
    rw [h.2.2,pgfPayments,pgfPayments,getAllPgfExecutedProposalsData_congr hended]

end

namespace Indexer
variable {sdk : Sdk} {s t : Indexer} {a : Label}

/-- Everything one step can do. -/
theorem step_cases (h : step sdk s a = some t) :
    (∃ proposals table, a = .insert proposals ∧
      insertProposals sdk s.proposals proposals = some table ∧ t = { s with proposals := table }) ∨
    (∃ proposals, a = .insert proposals ∧ t = s) ∨
    (∃ nodeEpoch, a = .readRunning nodeEpoch ∧ s.phase = .idle ∧
      t = { s with
        epoch := nodeEpoch.toUInt32
        phase := .tallying nodeEpoch.toUInt32 (getAllRunningProposals s.proposals) }) ∨
    (∃ answers epoch running executed, a = .readExecuted answers ∧
      s.phase = .tallying epoch running ∧ executedProposals s.proposals epoch = .returns executed ∧
      t = { s with
        phase := .collecting epoch (getGovernanceProposalsUpdates sdk answers running epoch)
          executed }) ∨
    (∃ epoch statuses executed, a = .readPayments ∧ s.phase = .collecting epoch statuses executed ∧
      t = { s with phase := .writing epoch statuses executed (pgfPayments sdk s.proposals epoch) }) ∨
    (∃ epoch statuses executed payments, a = .commit ∧
      s.phase = .writing epoch statuses executed payments ∧
      t = { s with
        proposals := afterCommit s.proposals statuses executed
        publicGoodFunding := updatePgf sdk s.publicGoodFunding payments
        phase := .idle }) ∨
    (a = .abort ∧ t = { s with phase := .idle }) := by
  cases a with
  | insert proposals =>
    simp only [step] at h
    split at h
    · rename_i table htable
      cases h
      exact .inl ⟨proposals,table,rfl,htable,rfl⟩
    · cases h
      exact .inr (.inl ⟨proposals,rfl,rfl⟩)
  | readRunning nodeEpoch =>
    cases hphase : s.phase <;> simp only [step,hphase] at h
    case idle =>
      cases h
      exact .inr (.inr (.inl ⟨nodeEpoch,rfl,rfl,rfl⟩))
    all_goals contradiction
  | readExecuted answers =>
    cases hphase : s.phase <;> simp only [step,hphase] at h
    case tallying epoch running =>
      obtain ⟨executed,hexecuted,-⟩ := executedProposals_returns s.proposals epoch
      rw [hexecuted] at h
      cases h
      exact .inr (.inr (.inr (.inl ⟨answers,epoch,running,executed,rfl,rfl,hexecuted,rfl⟩)))
    all_goals contradiction
  | readPayments =>
    cases hphase : s.phase <;> simp only [step,hphase] at h
    case collecting epoch statuses executed =>
      cases h
      exact .inr (.inr (.inr (.inr (.inl ⟨epoch,statuses,executed,rfl,rfl,rfl⟩))))
    all_goals contradiction
  | commit =>
    cases hphase : s.phase <;> simp only [step,hphase] at h
    case writing epoch statuses executed payments =>
      cases h
      exact .inr (.inr (.inr (.inr (.inr (.inl ⟨epoch,statuses,executed,payments,rfl,rfl,rfl⟩)))))
    all_goals contradiction
  | abort =>
    cases h
    exact .inr (.inr (.inr (.inr (.inr (.inr ⟨rfl,rfl⟩)))))

/-- The phase and the stored proposals fit after every step that re-inserts no ended one. -/
theorem fits_step (hfits : s.phase.Fits sdk s.proposals s.epoch)
    (hleaves : ∀ proposals, a = .insert proposals →
      LeavesAlone GovernanceProposalResult.ended s.proposals proposals)
    (h : step sdk s a = some t) : t.phase.Fits sdk t.proposals t.epoch := by
  obtain ⟨proposals,table,ha,htable,rfl⟩ | ⟨proposals,ha,rfl⟩ | ⟨nodeEpoch,ha,hphase,rfl⟩ |
    ⟨answers,epoch,running,executed,ha,hphase,hexecuted,rfl⟩ |
    ⟨epoch,statuses,executed,ha,hphase,rfl⟩ | ⟨epoch,statuses,executed,payments,ha,hphase,rfl⟩ |
    ⟨ha,rfl⟩ := step_cases h
  · exact hfits.insert (hleaves proposals ha) htable
  · exact hfits
  · refine ⟨rfl,?_⟩
    intro proposal hproposal
    obtain ⟨row,hrow,hshort⟩ := List.mem_map.mp hproposal
    have hselected := List.mem_filter.mp hrow
    exact ⟨row,hselected.1,by simpa using hselected.2,hshort⟩
  · rw [hphase] at hfits
    obtain ⟨rfl,hrunning⟩ := hfits
    refine ⟨rfl,?_,hexecuted⟩
    intro status hstatus
    obtain ⟨proposal,hproposal,hanswer⟩ := List.mem_filterMap.mp hstatus
    obtain ⟨answer,-,rfl⟩ := Option.map_eq_some_iff.mp hanswer
    obtain ⟨row,hrow,hended,rfl⟩ := hrunning proposal hproposal
    exact ⟨row,hrow,hended,answer,rfl⟩
  · rw [hphase] at hfits
    obtain ⟨rfl,hcollected⟩ := hfits
    exact ⟨rfl,hcollected,rfl⟩
  · trivial
  · trivial

end Indexer
end NamadaIndexer.Governance
