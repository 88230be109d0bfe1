import NamadaIndexer.Foundation.Regrouping
import NamadaIndexer.Governance.Cycle

/-! The table of fundings after a batch of funding proposals, against their actions one after
another. -/
namespace NamadaIndexer.Governance
open NamadaIndexer.Foundation NamadaIndexer.Shared

/-- A funding of the receipient that is paid again and again. -/
def continuousFor (receipient : String) (row : PublicGoodFundingPaymentDb) : Bool :=
  row.receipient == receipient && row.paymentRecurrence == .continuous

section
variable (sdk : Sdk)

def PGFTarget.receipient : PGFTarget → Id
  | .internal target _ => .ofAddress sdk target
  | .ibc target _ _ _ => .account target

/-- What an action does on its own: a retroactive payment and an added funding are recorded, and
a removal deletes the continuous fundings of its receipient. -/
def applyAction (id : UInt64) (rows : List PublicGoodFundingPaymentDb) :
    PGFAction → List PublicGoodFundingPaymentDb
  | .retro target => rows ++ [fromPgfPayment sdk (paymentOf sdk id (.retro target))]
  | .continuous (.add target) =>
    rows ++ [fromPgfPayment sdk (paymentOf sdk id (.continuous (.add target)))]
  | .continuous (.remove target) =>
    rows.filter fun row => !continuousFor ((PGFTarget.receipient sdk target).toString sdk) row

/-- The actions of the proposals, one after another. -/
def applyProposals (rows : List PublicGoodFundingPaymentDb)
    (proposals : List (UInt64 × List PGFAction)) : List PublicGoodFundingPaymentDb :=
  proposals.foldl (fun rows proposal => proposal.2.foldl (applyAction sdk proposal.1) rows) rows

/-- The payments of the proposals, as the cycle lists them. -/
def fundingPayments (proposals : List (UInt64 × List PGFAction)) : List PgfPayment :=
  proposals.flatMap fun proposal => proposal.2.map (paymentOf sdk proposal.1)

/-- The actions of the proposals with their ids, in one list. -/
def actionsOf (proposals : List (UInt64 × List PGFAction)) : List (UInt64 × PGFAction) :=
  proposals.flatMap fun proposal => proposal.2.map fun action => (proposal.1,action)

/-- The row that an action records. -/
def recordedRow (entry : UInt64 × PGFAction) : Option PublicGoodFundingPaymentDb :=
  match entry.2 with
  | .continuous (.remove _) => none
  | action => some (fromPgfPayment sdk (paymentOf sdk entry.1 action))

/-- The receipient whose continuous fundings an action removes. -/
def removedReceipient (entry : UInt64 × PGFAction) : Option String :=
  match entry.2 with
  | .continuous (.remove target) => some ((PGFTarget.receipient sdk target).toString sdk)
  | _ => none

/-- The action removes the row. -/
def Removes (entry : UInt64 × PGFAction) (row : PublicGoodFundingPaymentDb) : Prop :=
  removedReceipient sdk entry = some row.receipient ∧ row.paymentRecurrence = .continuous

/-- A recorded payment that no later action removes is the first for its receipient and its
proposal, stored or recorded, and no earlier action of the batch removes it either. -/
def RegroupsSafely (table : PublicGoodFunding) (proposals : List (UInt64 × List PGFAction)) : Prop :=
  ∀ before entry after row, actionsOf proposals = before ++ entry :: after →
    recordedRow sdk entry = some row → (∀ later ∈ after, ¬ Removes sdk later row) →
      row.key ∉ table.keys ∧
        (∀ other ∈ before, ∀ old ∈ recordedRow sdk other, old.key ≠ row.key) ∧
        ∀ earlier ∈ before, ¬ Removes sdk earlier row

/-- An action as the table sees it. -/
def rowAction (entry : UInt64 × PGFAction) : RowAction PublicGoodFundingPaymentDb String :=
  match entry.2 with
  | .continuous (.remove target) => .delete ((PGFTarget.receipient sdk target).toString sdk)
  | action => .record (fromPgfPayment sdk (paymentOf sdk entry.1 action))

end

section
variable {sdk : Sdk}

lemma applyAction_eq (id : UInt64) (rows : List PublicGoodFundingPaymentDb) (action : PGFAction) :
    applyAction sdk id rows action =
      (rowAction sdk (id,action)).apply continuousFor rows := by
  rcases action with (target | target) | target <;> rfl

/-- The actions one after another, in the terms of the table. -/
lemma applyProposals_eq (rows : List PublicGoodFundingPaymentDb)
    (proposals : List (UInt64 × List PGFAction)) :
    applyProposals sdk rows proposals =
      ((actionsOf proposals).map (rowAction sdk)).foldl (RowAction.apply continuousFor) rows := by
  unfold applyProposals actionsOf
  induction proposals generalizing rows with
  | nil => rfl
  | cons proposal proposals ih =>
    have hstep : applyAction sdk proposal.1 = fun rows action =>
        (rowAction sdk (proposal.1,action)).apply continuousFor rows := by
      funext rows action
      exact applyAction_eq proposal.1 rows action
    rw [List.foldl_cons,ih,List.flatMap_cons,List.map_append,List.foldl_append]
    congr 1
    rw [List.map_map,List.foldl_map,hstep]
    rfl

lemma records_rowAction (entries : List (UInt64 × PGFAction)) :
    RowAction.records (entries.map (rowAction sdk)) = entries.filterMap (recordedRow sdk) := by
  induction entries with
  | nil => rfl
  | cons entry entries ih =>
    obtain ⟨id,(target | target) | target⟩ := entry
    · exact congrArg (_ :: ·) ih
    · exact ih
    · exact congrArg (_ :: ·) ih

lemma deletions_rowAction (entries : List (UInt64 × PGFAction)) :
    RowAction.deletions (entries.map (rowAction sdk)) =
      entries.filterMap (removedReceipient sdk) := by
  induction entries with
  | nil => rfl
  | cons entry entries ih =>
    obtain ⟨id,(target | target) | target⟩ := entry
    · exact ih
    · exact congrArg (_ :: ·) ih
    · exact ih

lemma rowAction_eq_record {entry : UInt64 × PGFAction} {row : PublicGoodFundingPaymentDb} :
    rowAction sdk entry = .record row ↔ recordedRow sdk entry = some row := by
  obtain ⟨id,(target | target) | target⟩ := entry <;> simp [rowAction,recordedRow]

lemma kept_rowAction {entries : List (UInt64 × PGFAction)} {row : PublicGoodFundingPaymentDb} :
    RowAction.kept continuousFor (RowAction.deletions (entries.map (rowAction sdk))) row = true ↔
      ∀ entry ∈ entries, ¬ Removes sdk entry row := by
  rw [deletions_rowAction,RowAction.kept,List.all_eq_true]
  simp only [List.mem_filterMap,continuousFor,Removes]
  constructor
  · rintro h entry hentry ⟨hremoved,hcontinuous⟩
    have hkept := h row.receipient ⟨entry,hentry,hremoved⟩
    simp [hcontinuous] at hkept
  · rintro h receipient ⟨entry,hentry,hremoved⟩
    have hkept := h entry hentry
    by_contra hnot
    simp only [Bool.not_eq_true',Bool.not_eq_false,Bool.and_eq_true,
      beq_iff_eq] at hnot
    exact hkept ⟨hnot.1 ▸ hremoved,hnot.2⟩

/-- The condition, in the terms of the table. -/
lemma regroupsSafely_iff {table : PublicGoodFunding} {proposals : List (UInt64 × List PGFAction)} :
    RegroupsSafely sdk table proposals ↔
      RowAction.Harmless continuousFor PublicGoodFundingPaymentDb.key table.keys []
        ((actionsOf proposals).map (rowAction sdk)) := by
  have hbefore : ∀ (before : List (UInt64 × PGFAction)) (row : PublicGoodFundingPaymentDb),
      row.key ∉ (RowAction.records (before.map (rowAction sdk))).map PublicGoodFundingPaymentDb.key ↔
        ∀ other ∈ before, ∀ old ∈ recordedRow sdk other, old.key ≠ row.key := by
    intro before row
    rw [records_rowAction]
    simp only [List.mem_map,List.mem_filterMap,not_exists,not_and,and_imp,forall_exists_index]
    exact ⟨fun h other hother old hold => h old other hother hold,
      fun h old other hother hold => h other hother old hold⟩
  constructor
  · intro h before row after hsplit hkept
    obtain ⟨earlier,rest,hactions,rfl,hrest⟩ := List.map_eq_append_iff.mp hsplit
    obtain ⟨entry,later,rfl,hentry,rfl⟩ := List.map_eq_cons_iff.mp hrest
    obtain ⟨hnew,hfirst,hremoves⟩ :=
      h earlier entry later row hactions (rowAction_eq_record.mp hentry) (kept_rowAction.mp hkept)
    exact ⟨hnew,(hbefore earlier row).mpr hfirst,kept_rowAction.mpr hremoves⟩
  · intro h before entry after row hactions hrow hlater
    have hsplit : (actionsOf proposals).map (rowAction sdk) =
        before.map (rowAction sdk) ++ .record row :: after.map (rowAction sdk) := by
      rw [hactions,List.map_append,List.map_cons,rowAction_eq_record.mpr hrow]
    obtain ⟨hnew,hfirst,hremoves⟩ := h _ row _ hsplit (kept_rowAction.mpr hlater)
    exact ⟨hnew,(hbefore before row).mp hfirst,kept_rowAction.mp hremoves⟩

/-- The executed proposals that a cycle reads, with the actions that their data decodes to. -/
def executedFundings (sdk : Sdk) (table : GovernanceProposals) (currentEpoch : Epoch) :
    List (UInt64 × List PGFAction) :=
  (getAllPgfExecutedProposalsData table currentEpoch).filterMap fun entry =>
    (entry.2.bind sdk.pgfFundings).map fun fundings => (entry.1,fundings)

/-- A cycle lists the payments of the executed proposals that it reads. -/
theorem pgfPayments_eq_fundingPayments (table : GovernanceProposals) (currentEpoch : Epoch) :
    pgfPayments sdk table currentEpoch =
      fundingPayments sdk (executedFundings sdk table currentEpoch) := by
  unfold pgfPayments fundingPayments executedFundings
  induction getAllPgfExecutedProposalsData table currentEpoch with
  | nil => rfl
  | cons entry entries ih =>
    rw [List.flatMap_cons,ih,List.filterMap_cons,paymentsOf]
    cases entry.2.bind sdk.pgfFundings with
    | none => rfl
    | some fundings => rfl

lemma fundingPayments_eq (proposals : List (UInt64 × List PGFAction)) :
    fundingPayments sdk proposals =
      (actionsOf proposals).map fun entry => paymentOf sdk entry.1 entry.2 := by
  unfold fundingPayments actionsOf
  rw [List.map_flatMap]
  simp only [List.map_map,Function.comp_def]

/-- The statement inserts the rows that the actions record. -/
lemma insertedRows_eq (entries : List (UInt64 × PGFAction)) :
    (((entries.map fun entry => paymentOf sdk entry.1 entry.2).filter
      PgfPayment.isRecorded).map (fromPgfPayment sdk)) =
        RowAction.records (entries.map (rowAction sdk)) := by
  induction entries with
  | nil => rfl
  | cons entry entries ih =>
    obtain ⟨id,(target | target) | target⟩ := entry
    · cases target <;> exact congrArg (_ :: ·) ih
    · cases target <;> exact ih
    · cases target <;> exact congrArg (_ :: ·) ih

/-- The removals name the receipients that the actions remove. -/
lemma removals_eq (entries : List (UInt64 × PGFAction)) :
    (((entries.map fun entry => paymentOf sdk entry.1 entry.2).filter
      PgfPayment.isRemoval).map fun payment => payment.receipient.toString sdk) =
        RowAction.deletions (entries.map (rowAction sdk)) := by
  induction entries with
  | nil => rfl
  | cons entry entries ih =>
    obtain ⟨id,(target | target) | target⟩ := entry
    · cases target <;> exact ih
    · cases target <;> exact congrArg (_ :: ·) ih
    · cases target <;> exact ih

lemma foldl_deleteContinuous (receipients : List String) (table : PublicGoodFunding) :
    (receipients.foldl deleteContinuous table).rows =
      table.rows.filter (RowAction.kept continuousFor receipients) := by
  rw [←RowAction.foldl_filter]
  induction receipients generalizing table with
  | nil => rfl
  | cons receipient receipients ih =>
    rw [List.foldl_cons,ih]
    rfl

/-- What `update_pgf` leaves: all records in one statement, and then every deletion. -/
lemma updatePgf_rows (table : PublicGoodFunding) (proposals : List (UInt64 × List PGFAction)) :
    (updatePgf sdk table (fundingPayments sdk proposals)).rows =
      (table.insertOrIgnore (RowAction.records ((actionsOf proposals).map (rowAction sdk)))).rows.filter
        (RowAction.kept continuousFor
          (RowAction.deletions ((actionsOf proposals).map (rowAction sdk)))) := by
  rw [updatePgf,fundingPayments_eq,insertedRows_eq,←foldl_deleteContinuous,←removals_eq,
    List.foldl_map]

/-- Where the batch can be regrouped safely, and only there, the update leaves the rows of the
actions one after another. -/
lemma updatePgf_rows_eq_iff {table : PublicGoodFunding} {proposals : List (UInt64 × List PGFAction)} :
    (updatePgf sdk table (fundingPayments sdk proposals)).rows =
        applyProposals sdk table.rows proposals ↔ RegroupsSafely sdk table proposals := by
  rw [updatePgf_rows,applyProposals_eq,regroupsSafely_iff]
  exact RowAction.insertOrIgnore_filter_eq_iff table _

instance (sdk : Sdk) (table : PublicGoodFunding) (proposals : List (UInt64 × List PGFAction)) :
    Decidable (RegroupsSafely sdk table proposals) :=
  decidable_of_iff _ updatePgf_rows_eq_iff

end

/-- For every table and all proposals, the update comes to the same as the actions one after
another exactly when the batch can be regrouped safely. -/
theorem updatePgf_sequential_iff (sdk : Sdk) (table : PublicGoodFunding)
    (proposals : List (UInt64 × List PGFAction)) :
    (updatePgf sdk table (fundingPayments sdk proposals)).rows.Perm
        (applyProposals sdk table.rows proposals) ↔
      RegroupsSafely sdk table proposals := by
  rw [updatePgf_rows,applyProposals_eq,regroupsSafely_iff]
  exact RowAction.insertOrIgnore_filter_perm_iff table _

/-- Of two payments to one receipient in one proposal only the first is recorded, and a removal
deletes what a later proposal of the batch adds. -/
theorem regrouping_loses_payments :
    ¬ (updatePgf .sample .empty (fundingPayments .sample
        [(1,[.retro (.internal (.implicit "bob") 5),.retro (.internal (.implicit "bob") 7)])])).rows.Perm
      (applyProposals .sample []
        [(1,[.retro (.internal (.implicit "bob") 5),.retro (.internal (.implicit "bob") 7)])]) ∧
    ¬ (updatePgf .sample .empty (fundingPayments .sample
        [(1,[.continuous (.remove (.internal (.implicit "bob") 5))]),
          (2,[.continuous (.add (.internal (.implicit "bob") 7))])])).rows.Perm
      (applyProposals .sample []
        [(1,[.continuous (.remove (.internal (.implicit "bob") 5))]),
          (2,[.continuous (.add (.internal (.implicit "bob") 7))])]) := by
  constructor <;> decide +kernel

end NamadaIndexer.Governance
