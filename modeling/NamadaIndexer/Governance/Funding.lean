import NamadaIndexer.Governance.FundingOrder
import NamadaIndexer.Governance.Results

/-! A funding proposal is paid by the transaction that marks it as executed, if no cycle comes to it
after its activation epoch and the actions of a transaction can be regrouped safely. -/
namespace NamadaIndexer.Governance
open NamadaIndexer.Foundation NamadaIndexer.Foundation.Runs NamadaIndexer.Shared

section
variable {sdk : Sdk}

theorem paymentOf_proposalId (sdk : Sdk) (id : UInt64) (action : PGFAction) :
    (paymentOf sdk id action).proposalId = id := by
  rcases action with (target | target) | target <;> cases target <;> rfl

theorem proposalId_of_mem_paymentsOf {entry : UInt64 × Option String} {payment : PgfPayment}
    (h : payment ∈ paymentsOf sdk entry) : payment.proposalId = entry.1 := by
  unfold paymentsOf at h
  split at h
  · obtain ⟨action,-,rfl⟩ := List.mem_map.mp h
    exact paymentOf_proposalId sdk entry.1 action
  · contradiction

/-- Updates only delete rows and insert those of their payments. -/
lemma mem_updatePgf {table : PublicGoodFunding} {payments : List PgfPayment}
    {paid : PublicGoodFundingPaymentDb} (h : paid ∈ (updatePgf sdk table payments).rows) :
    paid ∈ table.rows ∨ ∃ payment ∈ payments, fromPgfPayment sdk payment = paid := by
  have hdeleted : ∀ (removals : List PgfPayment) (table : PublicGoodFunding),
      paid ∈ (removals.foldl (fun table payment =>
        deleteContinuous table (payment.receipient.toString sdk)) table).rows → paid ∈ table.rows := by
    intro removals
    induction removals with
    | nil => exact fun _ h => h
    | cons removal removals ih => exact fun _ h => (List.mem_filter.mp (ih _ h)).1
  have hmem := hdeleted _ _ h
  rw [Table.insertOrIgnore_rows,List.mem_append] at hmem
  refine hmem.imp_right fun hfresh => ?_
  obtain ⟨payment,hpayment,hpaid⟩ := List.mem_map.mp (Table.mem_of_mem_fresh hfresh)
  exact ⟨payment,(List.mem_filter.mp hpayment).1,hpaid⟩

/-- Proposals without actions change nothing. -/
lemma applyProposals_filterMap {ρ : Type*} {f g : ρ → Option (UInt64 × List PGFAction)}
    {stored : List ρ} (h : ∀ row ∈ stored, f row = g row ∨ f row = none ∧ ∃ id, g row = some (id,[]))
    (rows : List PublicGoodFundingPaymentDb) :
    applyProposals sdk rows (stored.filterMap f) = applyProposals sdk rows (stored.filterMap g) := by
  induction stored generalizing rows with
  | nil => rfl
  | cons row stored ih =>
    have hrest := ih fun other hother => h other (List.mem_cons_of_mem _ hother)
    obtain hsame | ⟨hnone,id,hempty⟩ := h row List.mem_cons_self
    · rw [List.filterMap_cons,List.filterMap_cons,hsame]
      cases g row with
      | none => exact hrest rows
      | some entry => exact hrest _
    · rw [List.filterMap_cons,List.filterMap_cons,hnone,hempty]
      exact hrest rows

lemma applyProposals_append (rows : List PublicGoodFundingPaymentDb)
    (earlier later : List (UInt64 × List PGFAction)) :
    applyProposals sdk rows (earlier ++ later) =
      applyProposals sdk (applyProposals sdk rows earlier) later :=
  List.foldl_append

end

section
variable {sdk : Sdk} {table : GovernanceProposals} {epoch : Epoch} {row row' : GovernanceProposalDb}

theorem Committed.eq_of_executedPassed (h : Committed sdk epoch row row')
    (hexecuted : row.result = .executedPassed) : row' = row := by
  cases h with
  | tallied answer hrunning =>
    rw [hexecuted] at hrunning
    contradiction
  | executed result hactive hended =>
    rw [hexecuted] at hended
    contradiction
  | kept => rfl

/-- The columns of a proposal that no cycle writes. -/
theorem Committed.columns_eq (h : Committed sdk epoch row row') :
    row'.id = row.id ∧ row'.kind = row.kind ∧ row'.data = row.data := by
  cases h with
  | tallied answer hrunning =>
    unfold setStatus
    split <;> exact ⟨rfl,rfl,rfl⟩
  | executed result hactive hended => exact ⟨rfl,rfl,rfl⟩
  | kept => exact ⟨rfl,rfl,rfl⟩

/-- A proposal is marked exactly when it has passed and has come to activation. -/
theorem Committed.marks_iff (h : Committed sdk epoch row row') :
    row'.result = .executedPassed ∧ row.result ≠ .executedPassed ↔
      row.result = .passed ∧ row.activationEpoch ≤ epoch.toInt32 := by
  cases h with
  | tallied answer hrunning =>
    have hresult : (setStatus (statusOf sdk epoch (short row) answer) row).result =
        resultAt epoch.toUInt64 (short row) answer.result :=
      congrArg (·.result) (setStatus_of_id (asI32_asU64 row.id).symm)
    rw [hresult]
    refine iff_of_false (fun h => ?_) fun h => ?_
    · have hmarked := h.1
      unfold resultAt at hmarked
      split at hmarked
      · cases htally : answer.result <;> rw [htally] at hmarked <;> contradiction
      · split at hmarked <;> contradiction
    · rw [h.1] at hrunning
      contradiction
  | executed result hactive hended =>
    obtain ⟨hpassed,rfl⟩ | ⟨hrejected,rfl⟩ := executedResult_eq_returns.mp hended
    · simp [hpassed,hactive]
    · simp [hrejected]
  | kept hwaits =>
    refine iff_of_false (fun h => h.2 h.1) fun h => ?_
    exact hwaits h.2 .executedPassed (by rw [h.1]; rfl)

/-- The actions of a funding proposal. -/
def fundingOf (sdk : Sdk) (row : GovernanceProposalDb) : Option (UInt64 × List PGFAction) :=
  if row.kind = .pgfFunding then
    (row.data.bind sdk.pgfFundings).map fun fundings => (asU64 row.id,fundings)
  else none

lemma fundingOf_eq_some {entry : UInt64 × List PGFAction} :
    fundingOf sdk row = some entry ↔ row.kind = .pgfFunding ∧ asU64 row.id = entry.1 ∧
      row.data.bind sdk.pgfFundings = some entry.2 := by
  obtain ⟨id,fundings⟩ := entry
  unfold fundingOf
  split
  · rename_i hkind
    cases row.data.bind sdk.pgfFundings <;> simp [hkind]
  · rename_i hkind
    simp [hkind]

lemma Committed.fundingOf_eq (h : Committed sdk epoch row row') :
    fundingOf sdk row' = fundingOf sdk row := by
  obtain ⟨hid,hkind,hdata⟩ := h.columns_eq
  rw [fundingOf,fundingOf,hid,hkind,hdata]

/-- The funding proposals that a cycle of the epoch marks. -/
def markedFundings (sdk : Sdk) (table : GovernanceProposals) (epoch : Epoch) :
    List (UInt64 × List PGFAction) :=
  table.rows.filterMap fun row =>
    if row.result = .passed ∧ row.activationEpoch ≤ epoch.toInt32 then fundingOf sdk row else none

lemma mem_markedFundings {entry : UInt64 × List PGFAction} :
    entry ∈ markedFundings sdk table epoch ↔ ∃ row ∈ table.rows,
      (row.result = .passed ∧ row.activationEpoch ≤ epoch.toInt32) ∧
        fundingOf sdk row = some entry := by
  rw [markedFundings,List.mem_filterMap]
  refine exists_congr fun row => and_congr_right fun _ => ?_
  split <;> simp_all

lemma nodup_markedFundings : ((markedFundings sdk table epoch).map Prod.fst).Nodup := by
  have hunique := List.pairwise_map.mp table.unique
  rw [markedFundings,List.Nodup,List.pairwise_map,List.pairwise_filterMap]
  refine hunique.imp fun {row other} hne entry hentry entry' hentry' hsame => hne ?_
  split at hentry
  · split at hentry'
    · obtain ⟨-,hid,-⟩ := fundingOf_eq_some.mp hentry
      obtain ⟨-,hid',-⟩ := fundingOf_eq_some.mp hentry'
      exact asU64_injective ((hid.trans hsame).trans hid'.symm)
    · contradiction
  · contradiction

/-- The proposals that a cycle pays, in the terms of the stored rows. -/
lemma executedFundings_eq (sdk : Sdk) (table : GovernanceProposals) (epoch : Epoch) :
    executedFundings sdk table epoch = table.rows.filterMap fun row =>
      if row.result = .passed ∧ row.activationEpoch = epoch.toInt32 then fundingOf sdk row
      else none := by
  unfold executedFundings getAllPgfExecutedProposalsData
  rw [List.filterMap_map,List.filterMap_filter]
  refine List.filterMap_congr fun row _ => ?_
  unfold fundingOf
  by_cases hpassed : row.result = .passed <;>
    by_cases hactive : row.activationEpoch = epoch.toInt32 <;>
      by_cases hkind : row.kind = .pgfFunding <;> simp [hpassed,hactive,hkind]

end

namespace Indexer
variable {sdk : Sdk} {s t u : Indexer} {a : Label}

/-- No cycle commits after the activation epoch of a funding proposal with actions that it finds
passed, the actions that it pays can be regrouped safely, and no ended proposal is inserted again. -/
def Timely (sdk : Sdk) (s : Indexer) : Label → Prop
  | .insert proposals => LeavesAlone GovernanceProposalResult.ended s.proposals proposals
  | .commit => ∀ epoch ∈ s.phase.epoch?,
    (∀ row ∈ s.proposals.rows, row.result = .passed → ∀ entry ∈ fundingOf sdk row, entry.2 ≠ [] →
      epoch.toInt32 ≤ row.activationEpoch) ∧
    RegroupsSafely sdk s.publicGoodFunding (executedFundings sdk s.proposals epoch)
  | _ => True

instance (sdk : Sdk) (s : Indexer) : (a : Label) → Decidable (Timely sdk s a)
  | .insert proposals =>
    inferInstanceAs (Decidable (LeavesAlone GovernanceProposalResult.ended s.proposals proposals))
  | .commit => Option.decidableForallMem s.phase.epoch?
  | .readRunning _ | .readExecuted _ | .readPayments | .abort => .isTrue trivial

theorem Timely.leavesAlone (h : Timely sdk s a) {proposals : List (GovernanceProposal × TallyType)}
    (ha : a = .insert proposals) :
    LeavesAlone GovernanceProposalResult.ended s.proposals proposals := by
  subst ha
  exact h

/-- A step leaves the table of fundings alone, or is the commit of a cycle whose memory fits. -/
theorem step_funding (hfits : s.phase.Fits sdk s.proposals s.epoch) (h : step sdk s a = some t) :
    (a ≠ .commit ∧ t.publicGoodFunding = s.publicGoodFunding) ∨
    ∃ epoch, a = .commit ∧ s.phase.epoch? = some epoch ∧
      t.publicGoodFunding = updatePgf sdk s.publicGoodFunding (pgfPayments sdk s.proposals epoch) ∧
      ∃ final : GovernanceProposalDb → GovernanceProposalDb,
        t.proposals.rows = s.proposals.rows.map final ∧
        ∀ row ∈ s.proposals.rows, Committed sdk epoch row (final row) := by
  obtain ⟨proposals,table,ha,htable,rfl⟩ | ⟨proposals,ha,rfl⟩ | ⟨nodeEpoch,ha,hphase,rfl⟩ |
    ⟨answers,epoch,running,executed,ha,hphase,hexecuted,rfl⟩ |
    ⟨epoch,statuses,executed,ha,hphase,rfl⟩ | ⟨epoch,statuses,executed,payments,ha,hphase,rfl⟩ |
    ⟨ha,rfl⟩ := step_cases h
  case inr.inr.inr.inr.inr.inl =>
    rw [hphase] at hfits
    obtain ⟨rfl,hcollected,rfl⟩ := hfits
    refine .inr ⟨s.epoch,ha,by rw [hphase]; rfl,rfl,finalRow statuses executed,
      afterCommit_rows _ _ _,?_⟩
    intro row hrow
    exact hcollected.finalRow hrow
  all_goals exact .inl ⟨by rw [ha]; simp,rfl⟩

/-- Executed proposals stay as they are. -/
def Keeps (s t : Indexer) : Prop :=
  ∀ row ∈ s.proposals.rows, row.result = .executedPassed → row ∈ t.proposals.rows

theorem keeps_step (hfits : s.phase.Fits sdk s.proposals s.epoch)
    (htimely : Timely sdk s a) (h : step sdk s a = some t) : Keeps s t := by
  intro row hrow hexecuted
  obtain hsame | ⟨proposals,rfl,hinsert⟩ | ⟨epoch,statuses,executed,payments,rfl,hphase,hcommit⟩ :=
    step_proposals h
  · rwa [hsame]
  · have hmem : row ∈ s.proposals.rows.filter fun row => row.result.ended :=
      List.mem_filter.mpr ⟨hrow,by rw [hexecuted]; rfl⟩
    have hleaves : LeavesAlone GovernanceProposalResult.ended s.proposals proposals := htimely
    rw [←insertProposals_filter rfl hleaves hinsert] at hmem
    exact (List.mem_filter.mp hmem).1
  · rw [hphase] at hfits
    obtain ⟨-,hcollected,-⟩ := hfits
    have hfinal := (hcollected.finalRow hrow).eq_of_executedPassed hexecuted
    rw [hcommit,afterCommit_rows]
    exact List.mem_map.mpr ⟨row,hrow,hfinal⟩

/-- The funding proposal is executed in `t` and was not in `s`. -/
def Moves (sdk : Sdk) (s t : Indexer) (entry : UInt64 × List PGFAction) : Prop :=
  ∃ row ∈ t.proposals.rows, row.result = .executedPassed ∧ fundingOf sdk row = some entry ∧
    ∀ old ∈ s.proposals.rows, old.id = row.id → old.result ≠ .executedPassed

/-- The listed proposals are those that have moved from `s` to `t`, each listed once, and the table of
fundings in `t` is what their actions make of the table in `s`. -/
structure Paid (sdk : Sdk) (s t : Indexer) (moved : List (UInt64 × List PGFAction)) : Prop where
  once : (moved.map Prod.fst).Nodup
  mem_iff : ∀ entry, entry ∈ moved ↔ Moves sdk s t entry
  rows : t.publicGoodFunding.rows = applyProposals sdk s.publicGoodFunding.rows moved

theorem paid_nothing (hfunding : t.publicGoodFunding = s.publicGoodFunding)
    (hexecuted : ∀ row ∈ t.proposals.rows, row.result = .executedPassed → row ∈ s.proposals.rows) :
    Paid sdk s t [] := by
  refine ⟨List.nodup_nil,fun entry => iff_of_false List.not_mem_nil ?_,by rw [hfunding]; rfl⟩
  rintro ⟨row,hrow,hmarked,-,hnew⟩
  exact hnew row (hexecuted row hrow hmarked) rfl hmarked

/-- The transaction of a timely cycle pays the proposals that it marks. -/
theorem paid_commit {epoch : Epoch} {final : GovernanceProposalDb → GovernanceProposalDb}
    (htimely : ∀ row ∈ s.proposals.rows, row.result = .passed →
      ∀ entry ∈ fundingOf sdk row, entry.2 ≠ [] → epoch.toInt32 ≤ row.activationEpoch)
    (hsafe : RegroupsSafely sdk s.publicGoodFunding (executedFundings sdk s.proposals epoch))
    (hfunding : t.publicGoodFunding =
      updatePgf sdk s.publicGoodFunding (pgfPayments sdk s.proposals epoch))
    (hrows : t.proposals.rows = s.proposals.rows.map final)
    (hcommitted : ∀ row ∈ s.proposals.rows, Committed sdk epoch row (final row)) :
    Paid sdk s t (markedFundings sdk s.proposals epoch) := by
  refine ⟨nodup_markedFundings,fun entry => ?_,?_⟩
  · rw [mem_markedFundings]
    constructor
    · rintro ⟨row,hrow,hpassed,hentry⟩
      have hc := hcommitted row hrow
      refine ⟨final row,by rw [hrows]; exact List.mem_map_of_mem hrow,(hc.marks_iff.mpr hpassed).1,
        hc.fundingOf_eq.trans hentry,fun old hold hid => ?_⟩
      rw [Table.eq_of_key_eq hold hrow (hid.trans hc.columns_eq.1)]
      exact (hc.marks_iff.mpr hpassed).2
    · rintro ⟨row',hrow',hmarked,hentry,hnew⟩
      rw [hrows] at hrow'
      obtain ⟨row,hrow,rfl⟩ := List.mem_map.mp hrow'
      have hc := hcommitted row hrow
      exact ⟨row,hrow,hc.marks_iff.mp ⟨hmarked,hnew row hrow hc.columns_eq.1.symm⟩,
        hc.fundingOf_eq.symm.trans hentry⟩
  · rw [hfunding,pgfPayments_eq_fundingPayments,updatePgf_rows_eq_iff.mpr hsafe,executedFundings_eq,
      markedFundings]
    refine applyProposals_filterMap (fun row hrow => ?_) _
    by_cases hpassed : row.result = .passed
    · by_cases hlate : row.activationEpoch < epoch.toInt32
      · -- what comes late has nothing to pay
        have hne : row.activationEpoch ≠ epoch.toInt32 := Int32.ne_of_lt hlate
        rw [if_neg fun h => hne h.2,if_pos ⟨hpassed,Int32.le_of_lt hlate⟩]
        cases hentry : fundingOf sdk row with
        | none => exact .inl rfl
        | some entry =>
          refine .inr ⟨rfl,entry.1,?_⟩
          have hempty : entry.2 = [] := by
            by_contra hnot
            exact Int32.not_le.mpr hlate (htimely row hrow hpassed entry hentry hnot)
          rw [←hempty]
      · have hsame : row.activationEpoch = epoch.toInt32 ↔ row.activationEpoch ≤ epoch.toInt32 :=
          ⟨Int32.le_of_eq,fun hle => Int32.le_antisymm hle (Int32.not_lt.mp hlate)⟩
        exact .inl (by simp only [hsame])
    · rw [if_neg fun h => hpassed h.1,if_neg fun h => hpassed h.1]
      exact .inl rfl

/-- What a step marks is paid by the step. -/
theorem paid_step (hfits : s.phase.Fits sdk s.proposals s.epoch) (htimely : Timely sdk s a)
    (h : step sdk s a = some t) : ∃ moved, Paid sdk s t moved := by
  obtain ⟨hnot,hfunding⟩ | ⟨epoch,rfl,hepoch,hfunding,final,hrows,hcommitted⟩ :=
    step_funding hfits h
  · refine ⟨[],paid_nothing hfunding fun row hrow hexecuted => ?_⟩
    obtain hsame | ⟨proposals,rfl,hinsert⟩ | ⟨-,-,-,-,ha,-⟩ := step_proposals h
    · exact hsame ▸ hrow
    · refine (mem_insertProposals hinsert hrow).resolve_right fun hpending => ?_
      rw [hpending] at hexecuted
      contradiction
    · exact absurd ha hnot
  · obtain ⟨hlate,hsafe⟩ := htimely epoch hepoch
    exact ⟨_,paid_commit hlate hsafe hfunding hrows hcommitted⟩

/-- What is paid from `s` to `t` and from `t` to `u` is paid from `s` to `u`. -/
theorem Paid.trans {earlier later : List (UInt64 × List PGFAction)} (hst : Paid sdk s t earlier)
    (htu : Paid sdk t u later) (hkeeps : Keeps s t) (hkeeps' : Keeps t u) :
    Paid sdk s u (earlier ++ later) := by
  refine ⟨?_,fun entry => ?_,?_⟩
  · rw [List.map_append]
    refine List.Nodup.append hst.once htu.once fun id hearlier hlater => ?_
    obtain ⟨entry,hentry,rfl⟩ := List.mem_map.mp hearlier
    obtain ⟨entry',hentry',hsame⟩ := List.mem_map.mp hlater
    obtain ⟨row,hrow,hmarked,hfunding,-⟩ := (hst.mem_iff entry).mp hentry
    obtain ⟨row',-,-,hfunding',hnew⟩ := (htu.mem_iff entry').mp hentry'
    obtain ⟨-,hid,-⟩ := fundingOf_eq_some.mp hfunding
    obtain ⟨-,hid',-⟩ := fundingOf_eq_some.mp hfunding'
    exact hnew row hrow (asU64_injective (hid.trans (hsame.symm.trans hid'.symm))) hmarked
  · rw [List.mem_append,hst.mem_iff,htu.mem_iff]
    constructor
    · rintro (⟨row,hrow,hmarked,hentry,hnew⟩ | ⟨row,hrow,hmarked,hentry,hnew⟩)
      · exact ⟨row,hkeeps' row hrow hmarked,hmarked,hentry,hnew⟩
      · exact ⟨row,hrow,hmarked,hentry,
          fun old hold hid hbefore => hnew old (hkeeps old hold hbefore) hid hbefore⟩
    · rintro ⟨row,hrow,hmarked,hentry,hnew⟩
      by_cases hmiddle : ∃ old ∈ t.proposals.rows, old.id = row.id ∧ old.result = .executedPassed
      · obtain ⟨old,hold,hid,hexecuted⟩ := hmiddle
        obtain rfl := Table.eq_of_key_eq (hkeeps' old hold hexecuted) hrow hid
        exact .inl ⟨old,hold,hmarked,hentry,hnew⟩
      · exact .inr ⟨row,hrow,hmarked,hentry,
          fun old hold hid hexecuted => hmiddle ⟨old,hold,hid,hexecuted⟩⟩
  · rw [htu.rows,hst.rows,applyProposals_append]

/-- Over a timely run, what has moved is paid, and nothing else. -/
theorem paid_run {labels : List Label} (hfits : s.phase.Fits sdk s.proposals s.epoch)
    (htimely : Along (step sdk) (Timely sdk) s labels) (h : execute (step sdk) s labels = some t) :
    t.phase.Fits sdk t.proposals t.epoch ∧ Keeps s t ∧ ∃ moved, Paid sdk s t moved := by
  refine execute_invariant
    (fun t => t.phase.Fits sdk t.proposals t.epoch ∧ Keeps s t ∧ ∃ moved, Paid sdk s t moved)
    ?_ ⟨hfits,fun _ hrow _ => hrow,[],paid_nothing rfl fun _ hrow _ => hrow⟩ htimely h
  rintro m a m' ⟨hfits,hkeeps,earlier,hpaid⟩ htimely hstep
  have hkeeps' := keeps_step hfits htimely hstep
  obtain ⟨later,hpaid'⟩ := paid_step hfits htimely hstep
  exact ⟨fits_step hfits (fun _ => htimely.leavesAlone) hstep,
    fun row hrow hmarked => hkeeps' row (hkeeps row hrow hmarked) hmarked,_,
    hpaid.trans hpaid' hkeeps hkeeps'⟩

/-- From `start` over `s` and `t` to `u`, the table of fundings is what the actions of the proposals
that have moved make of it, and the actions of the proposal are applied from `s` to `t` alone. -/
structure PaidOnce (sdk : Sdk) (id : UInt64) (fundings : List PGFAction) (start s t u : Indexer) :
    Prop where
  before : ∃ moved, Paid sdk start s moved ∧ ∀ entry ∈ moved, entry.1 ≠ id
  together : ∃ moved, Paid sdk s t moved ∧ (id,fundings) ∈ moved
  after : ∃ moved, Paid sdk t u moved ∧ ∀ entry ∈ moved, entry.1 ≠ id

/-- Over every run from an idle cycle, on any stored tables: a funding proposal whose result
moves from passed to executed is paid by the transaction of that move, and only by it. -/
theorem passed_funding_paid_once {start : Indexer} {earlier later : List Label}
    (hidle : start.phase = .idle)
    (htimely : Along (step sdk) (Timely sdk) start (earlier ++ a :: later))
    (hs : execute (step sdk) start earlier = some s) (ht : step sdk s a = some t)
    (hu : execute (step sdk) t later = some u) {row row' : GovernanceProposalDb}
    (hrow : row ∈ s.proposals.rows) (hrow' : row' ∈ t.proposals.rows) (hid : row'.id = row.id)
    (hpassed : row.result = .passed) (hexecuted : row'.result = .executedPassed)
    (hkind : row.kind = .pgfFunding) {fundings : List PGFAction}
    (hdata : row.data.bind sdk.pgfFundings = some fundings) :
    PaidOnce sdk (asU64 row.id) fundings start s t u := by
  obtain ⟨hearlier,hrest⟩ := along_append.mp htimely
  obtain ⟨hmove,hlater⟩ := hrest s hs
  have hidling : start.phase.Fits sdk start.proposals start.epoch := by
    rw [hidle]
    trivial
  obtain ⟨hfits,-,before,hbefore⟩ := paid_run hidling hearlier hs
  obtain ⟨together,htogether⟩ := paid_step hfits hmove ht
  have hfits' := fits_step hfits (fun _ => hmove.leavesAlone) ht
  obtain ⟨-,-,after,hafter⟩ := paid_run hfits' (hlater t ht) hu
  refine ⟨⟨before,hbefore,fun entry hentry hsame => ?_⟩,⟨together,htogether,?_⟩,
    ⟨after,hafter,fun entry hentry hsame => ?_⟩⟩
  · obtain ⟨other,hother,hmarked,hfunding,-⟩ := (hbefore.mem_iff entry).mp hentry
    obtain ⟨-,hkey,-⟩ := fundingOf_eq_some.mp hfunding
    rw [Table.eq_of_key_eq hother hrow (asU64_injective (hkey.trans hsame)),hpassed] at hmarked
    contradiction
  · have hfunding : fundingOf sdk row = some (asU64 row.id,fundings) :=
      fundingOf_eq_some.mpr ⟨hkind,rfl,hdata⟩
    have hcolumns : fundingOf sdk row' = fundingOf sdk row := by
      obtain hsame | ⟨proposals,-,hinsert⟩ | ⟨epoch,statuses,executed,payments,ha,hphase,hcommit⟩ :=
        step_proposals ht
      · rw [hsame] at hrow'
        rw [Table.eq_of_key_eq hrow' hrow hid]
      · obtain hold | hpending := mem_insertProposals hinsert hrow'
        · rw [Table.eq_of_key_eq hold hrow hid]
        · rw [hpending] at hexecuted
          contradiction
      · rw [hphase] at hfits
        obtain ⟨-,hcollected,-⟩ := hfits
        rw [hcommit,afterCommit_rows] at hrow'
        obtain ⟨old,hold,rfl⟩ := List.mem_map.mp hrow'
        have hc := hcollected.finalRow hold
        rw [hc.fundingOf_eq,Table.eq_of_key_eq hold hrow (hc.columns_eq.1.symm.trans hid)]
    refine (htogether.mem_iff _).mpr ⟨row',hrow',hexecuted,hcolumns.trans hfunding,?_⟩
    intro old hold hkey
    rw [Table.eq_of_key_eq hold hrow (hkey.trans hid),hpassed]
    simp
  · obtain ⟨other,-,-,hfunding,hnew⟩ := (hafter.mem_iff entry).mp hentry
    obtain ⟨-,hkey,-⟩ := fundingOf_eq_some.mp hfunding
    exact hnew row' hrow' (hid.trans (asU64_injective (hkey.trans hsame)).symm) hexecuted

/-- A cycle that comes to a passed proposal late marks it, and stores no payment of it. -/
theorem late_funding_unpaid (hfits : s.phase.Fits sdk s.proposals s.epoch)
    (h : step sdk s .commit = some t) {epoch : Epoch} (hepoch : s.phase.epoch? = some epoch)
    {row : GovernanceProposalDb} (hrow : row ∈ s.proposals.rows) (hpassed : row.result = .passed)
    (hlate : row.activationEpoch < epoch.toInt32) :
    (∃ row' ∈ t.proposals.rows, row'.id = row.id ∧ row'.result = .executedPassed) ∧
    ∀ paid ∈ t.publicGoodFunding.rows, paid.proposalId = row.id → paid ∈ s.publicGoodFunding.rows := by
  obtain ⟨hnot,-⟩ | ⟨current,-,hcurrent,hfunding,final,hrows,hcommitted⟩ := step_funding hfits h
  · contradiction
  obtain rfl : current = epoch := Option.some.inj (hcurrent.symm.trans hepoch)
  have hc := hcommitted row hrow
  refine ⟨⟨final row,by rw [hrows]; exact List.mem_map_of_mem hrow,hc.columns_eq.1,
    (hc.marks_iff.mpr ⟨hpassed,Int32.le_of_lt hlate⟩).1⟩,fun paid hpaid hid => ?_⟩
  rw [hfunding] at hpaid
  obtain hold | ⟨payment,hpayment,rfl⟩ := mem_updatePgf hpaid
  · exact hold
  · -- the payments of the cycle are those of proposals that come to activation at its epoch
    rw [pgfPayments,getAllPgfExecutedProposalsData,List.mem_flatMap] at hpayment
    obtain ⟨entry,hentry,hmem⟩ := hpayment
    obtain ⟨other,hother,rfl⟩ := List.mem_map.mp hentry
    have hselected := List.mem_filter.mp hother
    have hsame : other = row := by
      refine Table.eq_of_key_eq hselected.1 hrow ?_
      rw [←hid,fromPgfPayment,proposalId_of_mem_paymentsOf hmem,asI32_asU64]
    have hactive : row.activationEpoch = current.toInt32 := by
      have hread := hselected.2
      simp only [hsame,Bool.and_eq_true,beq_iff_eq] at hread
      exact hread.1.2
    exact absurd hactive (Int32.ne_of_lt hlate)

/-- Every proposal with data pays 7 to one address. -/
def payingSdk : Sdk :=
  { Sdk.sample with pgfFundings := fun _ => some [.retro (.internal (.implicit "bob") 7)] }

/-- The proposal passes at epoch 4, and the cycle of epoch 5 marks and pays it. -/
theorem passed_funding_paid_once_sample : ∃ s t u,
    execute (step payingSdk) start
      (sampleInsert :: cycle 4 (some sampleAnswer) ++ (cycle 5 none).take 3) = some s ∧
    step payingSdk s .commit = some t ∧ execute (step payingSdk) t (cycle 6 none) = some u ∧
    u.publicGoodFunding.rows = [⟨.retro,1,.native,"tnam1zbob",numericOfAmount 7⟩] ∧
    PaidOnce payingSdk 1 [.retro (.internal (.implicit "bob") 7)] start s t u := by
  refine ⟨_,_,_,rfl,rfl,rfl,rfl,?_⟩
  have htimely : Along (step payingSdk) (Timely payingSdk) start
      ((sampleInsert :: cycle 4 (some sampleAnswer) ++ (cycle 5 none).take 3) ++
        .commit :: cycle 6 none) := by
    decide
  exact passed_funding_paid_once rfl htimely rfl rfl rfl List.mem_cons_self List.mem_cons_self
    rfl rfl rfl rfl rfl

/-- Where no cycle sees the activation epoch, the proposal is marked and never paid. -/
theorem skipped_activation_is_not_paid : ∃ s t,
    execute (step payingSdk) start
      (sampleInsert :: cycle 4 (some sampleAnswer) ++ (cycle 6 none).take 3) = some s ∧
    step payingSdk s .commit = some t ∧
    (s.proposals.rows.map fun row =>
      (row.id,row.result,row.kind,row.data.bind payingSdk.pgfFundings)) =
      [(1,.passed,.pgfFunding,some [.retro (.internal (.implicit "bob") 7)])] ∧
    t.proposals.rows.map (fun row => (row.id,row.result)) = [(1,.executedPassed)] ∧
    t.publicGoodFunding.rows = [] ∧
    ¬ PaidOnce payingSdk 1 [.retro (.internal (.implicit "bob") 7)] start s t t := by
  obtain ⟨s,t,hs,ht,hbefore,hafter,hempty,hfundings⟩ : ∃ s t,
      execute (step payingSdk) start
        (sampleInsert :: cycle 4 (some sampleAnswer) ++ (cycle 6 none).take 3) = some s ∧
      step payingSdk s .commit = some t ∧
      (s.proposals.rows.map fun row =>
        (row.id,row.result,row.kind,row.data.bind payingSdk.pgfFundings)) =
        [(1,.passed,.pgfFunding,some [.retro (.internal (.implicit "bob") 7)])] ∧
      t.proposals.rows.map (fun row => (row.id,row.result)) = [(1,.executedPassed)] ∧
      t.publicGoodFunding.rows = [] ∧
      t.proposals.rows.map (fundingOf payingSdk) =
        [some (1,[.retro (.internal (.implicit "bob") 7)])] :=
    ⟨_,_,rfl,rfl,by decide,by decide,by decide,by decide⟩
  refine ⟨s,t,hs,ht,hbefore,hafter,hempty,?_⟩
  rintro ⟨-,⟨moved,hpaid,hmem⟩,-⟩
  have hall : ∀ entry ∈ moved, entry = (1,[.retro (.internal (.implicit "bob") 7)]) := by
    intro entry hentry
    obtain ⟨row,hrow,-,hfunding,-⟩ := (hpaid.mem_iff entry).mp hentry
    have hlisted : some entry ∈ t.proposals.rows.map (fundingOf payingSdk) :=
      hfunding ▸ List.mem_map_of_mem hrow
    rw [hfundings] at hlisted
    exact Option.some.inj (List.mem_singleton.mp hlisted)
  have hmoved : moved = [(1,[.retro (.internal (.implicit "bob") 7)])] := by
    refine List.perm_singleton.mp ((List.perm_ext_iff_of_nodup hpaid.once.of_map
      (List.nodup_singleton _)).mpr fun entry => ?_)
    rw [List.mem_singleton]
    exact ⟨hall entry,fun h => h ▸ hmem⟩
  have hrows := hpaid.rows
  rw [hempty,hmoved,applyProposals] at hrows
  exact absurd hrows.symm (List.append_ne_nil_of_right_ne_nil _ (List.cons_ne_nil _ _))

end Indexer
end NamadaIndexer.Governance
