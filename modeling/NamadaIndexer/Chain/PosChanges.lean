import NamadaIndexer.Chain.Crawling
import NamadaIndexer.Chain.Balances

/-! What a block changes in the tables of proof of stake at once: the unbonds that are withdrawn
are deleted, and validators get new states. Both statements are handed a set. -/
namespace NamadaIndexer.Chain
open NamadaIndexer.Foundation NamadaIndexer.Shared

section
variable (ctx : Context) (currentEpoch : Epoch) (withdrawals : Finset UnbondAddresses)

/-- The row's own pair is among the withdrawals. -/
def OwnPair (row : UnbondDb) : Prop :=
  ∃ pair ∈ withdrawals, row.address = pair.source.toString ctx.sdk ∧
    row.validator = pair.validator.toString ctx.sdk

instance (row : UnbondDb) : Decidable (OwnPair ctx withdrawals row) :=
  inferInstanceAs (Decidable (∃ pair ∈ withdrawals, _))

/-- The rows that are withdrawn: their own pair is, and their epoch has come. -/
def ownWithdrawn (row : UnbondDb) : Bool :=
  decide (OwnPair ctx withdrawals row) && decide (row.withdrawEpoch.toInt ≤ currentEpoch.toNat)

/-- No row is taken for a withdrawn one. The address and the validator of a row that is due may be
withdrawn by two pairs only if they are by one as well, and the epoch as it is cut to the column
must not move the limit below a row that is withdrawn. -/
structure OnlyOwnRows (unbonds : Table UnbondDb.key) : Prop where
  notCrossed : ∀ row ∈ unbonds.rows, row.withdrawEpoch ≤ currentEpoch.toInt32 →
    (∃ pair ∈ withdrawals, row.address = pair.source.toString ctx.sdk) →
    (∃ pair ∈ withdrawals, row.validator = pair.validator.toString ctx.sdk) →
    OwnPair ctx withdrawals row
  notCut : 2^31 ≤ currentEpoch.toNat → ∀ row ∈ unbonds.rows, OwnPair ctx withdrawals row →
    row.withdrawEpoch.toInt ≤ currentEpoch.toNat - 2^32

end

section
variable {ctx : Context} {currentEpoch : Epoch} {withdrawals : Finset UnbondAddresses}
  {order : List UnbondAddresses} {row : UnbondDb}

/-- The limit of the statement, as a number. -/
lemma le_toInt32_iff {epoch : Int32} :
    epoch ≤ currentEpoch.toInt32 ↔
      epoch.toInt ≤ if currentEpoch.toNat < 2147483648 then (currentEpoch.toNat : ℤ)
        else currentEpoch.toNat - 4294967296 := by
  rw [Int32.le_iff_toInt_le,toInt_toInt32]

lemma withdrawn_eq_true (horder : Enumerates order withdrawals) :
    withdrawn ctx currentEpoch order row = true ↔
      (∃ pair ∈ withdrawals, row.address = pair.source.toString ctx.sdk) ∧
      (∃ pair ∈ withdrawals, row.validator = pair.validator.toString ctx.sdk) ∧
      row.withdrawEpoch ≤ currentEpoch.toInt32 := by
  have haddress : row.address ∈ (order.map fun unbond => unbond.source.toString ctx.sdk) ↔
      ∃ pair ∈ withdrawals, row.address = pair.source.toString ctx.sdk := by
    simp only [List.mem_map,horder.mem_iff,eq_comm]
  have hvalidator : row.validator ∈ (order.map fun unbond => unbond.validator.toString ctx.sdk) ↔
      ∃ pair ∈ withdrawals, row.validator = pair.validator.toString ctx.sdk := by
    simp only [List.mem_map,horder.mem_iff,eq_comm]
  simp only [withdrawn,Bool.and_eq_true,decide_eq_true_iff,and_assoc,haddress,hvalidator]

lemma ownWithdrawn_eq_true :
    ownWithdrawn ctx currentEpoch withdrawals row = true ↔
      OwnPair ctx withdrawals row ∧ row.withdrawEpoch.toInt ≤ currentEpoch.toNat := by
  rw [ownWithdrawn,Bool.and_eq_true,decide_eq_true_iff,decide_eq_true_iff]

lemma OwnPair.sides (h : OwnPair ctx withdrawals row) :
    (∃ pair ∈ withdrawals, row.address = pair.source.toString ctx.sdk) ∧
      ∃ pair ∈ withdrawals, row.validator = pair.validator.toString ctx.sdk := by
  obtain ⟨pair,hpair,haddress,hvalidator⟩ := h
  exact ⟨⟨pair,hpair,haddress⟩,pair,hpair,hvalidator⟩

/-- One row is treated right exactly if it is neither crossed nor cut off. -/
lemma withdrawn_eq_ownWithdrawn_iff (horder : Enumerates order withdrawals) :
    withdrawn ctx currentEpoch order row = ownWithdrawn ctx currentEpoch withdrawals row ↔
      (row.withdrawEpoch ≤ currentEpoch.toInt32 →
        (∃ pair ∈ withdrawals, row.address = pair.source.toString ctx.sdk) →
        (∃ pair ∈ withdrawals, row.validator = pair.validator.toString ctx.sdk) →
        OwnPair ctx withdrawals row) ∧
      (2^31 ≤ currentEpoch.toNat → OwnPair ctx withdrawals row →
        row.withdrawEpoch.toInt ≤ currentEpoch.toNat - 2^32) := by
  have hbelow : row.withdrawEpoch.toInt < 2^31 := row.withdrawEpoch.toInt_lt
  have hepoch := currentEpoch.toNat_lt
  rw [Bool.eq_iff_iff,withdrawn_eq_true horder,ownWithdrawn_eq_true,le_toInt32_iff]
  constructor
  · intro h
    refine ⟨fun hdue haddress hvalidator => (h.mp ⟨haddress,hvalidator,hdue⟩).1,?_⟩
    intro hlarge hown
    have hdue := (h.mpr ⟨hown,by omega⟩).2.2
    rwa [if_neg (by omega)] at hdue
  · rintro ⟨hcross,hcut⟩
    constructor
    · rintro ⟨haddress,hvalidator,hdue⟩
      refine ⟨hcross hdue haddress hvalidator,?_⟩
      split at hdue <;> omega
    · rintro ⟨hown,hdue⟩
      refine ⟨hown.sides.1,hown.sides.2,?_⟩
      split
      · exact hdue
      · exact hcut (by omega) hown

/-- Two deletions that leave the same rows select the same ones. -/
lemma deleteRows_eq_iff {ρ κ : Type*} {key : ρ → κ} {table : Table key} {gone gone' : ρ → Bool} :
    deleteRows table gone = deleteRows table gone' ↔ ∀ row ∈ table.rows, gone row = gone' row := by
  constructor
  · intro h row hrow
    have hrows : (table.rows.filter fun row => !gone row) =
        table.rows.filter fun row => !gone' row := congrArg Table.rows h
    have hmem : row ∈ (table.rows.filter fun row => !gone row) ↔
        row ∈ table.rows.filter fun row => !gone' row := by rw [hrows]
    rw [List.mem_filter,List.mem_filter,and_iff_right hrow,and_iff_right hrow] at hmem
    rw [Bool.eq_iff_iff]
    simpa [not_iff_not] using hmem
  · intro h
    apply Table.ext_rows
    exact List.filter_congr fun row hrow => by rw [h row hrow]

end

/-- The withdrawals of a block delete the unbonds that are withdrawn and no other row, in any
order of the extracted set, if and only if no row of the table is taken for a withdrawn one. -/
theorem withdrawals_delete_own_iff (ctx : Context) (block : Block) (currentEpoch : Epoch)
    (db : ChainDb) :
    (∀ order, Enumerates order (block.withdrawAddresses ctx.sdk) →
      removeWithdraws ctx currentEpoch order db =
        { db with
          unbonds := deleteRows db.unbonds
            (ownWithdrawn ctx currentEpoch (block.withdrawAddresses ctx.sdk)) }) ↔
    OnlyOwnRows ctx currentEpoch (block.withdrawAddresses ctx.sdk) db.unbonds := by
  have hone : ∀ order, Enumerates order (block.withdrawAddresses ctx.sdk) →
      (removeWithdraws ctx currentEpoch order db =
        { db with
          unbonds := deleteRows db.unbonds
            (ownWithdrawn ctx currentEpoch (block.withdrawAddresses ctx.sdk)) } ↔
      OnlyOwnRows ctx currentEpoch (block.withdrawAddresses ctx.sdk) db.unbonds) := by
    intro order horder
    have hunbonds : removeWithdraws ctx currentEpoch order db =
        { db with
          unbonds := deleteRows db.unbonds
            (ownWithdrawn ctx currentEpoch (block.withdrawAddresses ctx.sdk)) } ↔
        deleteRows db.unbonds (withdrawn ctx currentEpoch order) =
          deleteRows db.unbonds
            (ownWithdrawn ctx currentEpoch (block.withdrawAddresses ctx.sdk)) :=
      ⟨congrArg ChainDb.unbonds,fun h => by rw [removeWithdraws,h]⟩
    rw [hunbonds,deleteRows_eq_iff]
    constructor
    · intro h
      have hrow := fun row hrow => (withdrawn_eq_ownWithdrawn_iff horder).mp (h row hrow)
      exact ⟨fun row hmem => (hrow row hmem).1,fun hlarge row hmem => (hrow row hmem).2 hlarge⟩
    · rintro ⟨hcross,hcut⟩ row hmem
      exact (withdrawn_eq_ownWithdrawn_iff horder).mpr
        ⟨hcross row hmem,fun hlarge => hcut hlarge row hmem⟩
  constructor
  · intro h
    have horder := enumerates_dedup (block.successfulInnerTxs.filterMap
      (Block.withdrawAddressesOf ctx.sdk))
    exact (hone _ horder).mp (h _ horder)
  · exact fun h order horder => (hone order horder).mpr h

/-- A block of two withdrawals, by alice from v1 and by bob from v2. -/
def withdrawalBlock : Block :=
  let withdraw (source validator : String) : InnerTransaction :=
    { Votes.voteTx source source .yay with
      kind := .withdraw (some ⟨.established validator,some (.implicit source)⟩) }
  Votes.voteBlock [withdraw "alice" "v1",withdraw "bob" "v2"]

/-- Alice has an unbond from v2 too, which she does not withdraw. -/
def crossedDb : ChainDb :=
  { ChainDb.empty with
    unbonds := ⟨[⟨"tnam1zalice","tnam1qv2",7,3⟩],by decide⟩ }

theorem crossed_unbond_is_deleted :
    ¬ ∀ order, Enumerates order (withdrawalBlock.withdrawAddresses (sampleContext bondTx).sdk) →
      removeWithdraws (sampleContext bondTx) 5 order crossedDb =
        { crossedDb with
          unbonds := deleteRows crossedDb.unbonds
            (ownWithdrawn (sampleContext bondTx) 5
              (withdrawalBlock.withdrawAddresses (sampleContext bondTx).sdk)) } := by
  intro h
  have hrows := congrArg (fun db => db.unbonds.rows)
    (h _ (enumerates_dedup (withdrawalBlock.successfulInnerTxs.filterMap
      (Block.withdrawAddressesOf (sampleContext bondTx).sdk))))
  revert hrows
  decide +kernel

/-- The changes of the block in block order, before they are collected into a set. -/
def statesInOrder (sdk : Sdk) (block : Block) : List ValidatorStateChange :=
  block.successfulInnerTxs.filterMap (Block.validatorStateOf sdk)

section
variable (ctx : Context)

/-- The change is one of the validator in the row. -/
def Changes (change : ValidatorStateChange) (row : ValidatorDb) : Prop :=
  row.namadaAddress = change.address.toString ctx.sdk

instance (change : ValidatorStateChange) (row : ValidatorDb) : Decidable (Changes ctx change row) :=
  inferInstanceAs (Decidable (_ = _))

/-- The row with the state that the last change of its validator sets. -/
def withLastState (changes : List ValidatorStateChange) (row : ValidatorDb) : ValidatorDb :=
  match changes.reverse.find? fun change => Changes ctx change row with
  | some change => { row with state := change.state }
  | none => row

/-- The changes to each stored validator agree on the state. -/
def StatesAgree (changes : List ValidatorStateChange) (validators : Table ValidatorDb.namadaAddress) :
    Prop :=
  ∀ row ∈ validators.rows, ∀ a ∈ changes, ∀ b ∈ changes, Changes ctx a row → Changes ctx b row →
    a.state = b.state

end

section
variable {ctx : Context} {changes order : List ValidatorStateChange} {row : ValidatorDb}

lemma namadaAddress_withLastState (changes : List ValidatorStateChange) (row : ValidatorDb) :
    (withLastState ctx changes row).namadaAddress = row.namadaAddress := by
  unfold withLastState
  split <;> rfl

lemma withLastState_setState (changes : List ValidatorStateChange) (row : ValidatorDb)
    (state : ValidatorState) :
    { withLastState ctx changes row with state } = { row with state } := by
  unfold withLastState
  split <;> rfl

lemma withLastState_append (change : ValidatorStateChange) :
    withLastState ctx (changes ++ [change]) row =
      if Changes ctx change row then { row with state := change.state }
      else withLastState ctx changes row := by
  unfold withLastState
  rw [List.reverse_append,List.reverse_singleton,List.singleton_append,List.find?_cons]
  by_cases hchange : Changes ctx change row
  · simp [hchange]
  · simp [hchange]

lemma withLastState_of_none (h : ∀ change ∈ changes, ¬ Changes ctx change row) :
    withLastState ctx changes row = row := by
  have hnone : (changes.reverse.find? fun change => Changes ctx change row) = none := by
    rw [List.find?_eq_none]
    intro change hchange
    simpa using h change (List.mem_reverse.mp hchange)
  rw [withLastState,hnone]

lemma withLastState_of_mem {change : ValidatorStateChange} (hchange : change ∈ changes)
    (hrow : Changes ctx change row)
    (hsame : ∀ other ∈ changes, Changes ctx other row → other.state = change.state) :
    withLastState ctx changes row = { row with state := change.state } := by
  cases hfind : changes.reverse.find? fun change => Changes ctx change row with
  | none =>
    have hother := List.find?_eq_none.mp hfind change (List.mem_reverse.mpr hchange)
    exact absurd hrow (by simpa using hother)
  | some other =>
    have hmem := List.mem_reverse.mp (List.mem_of_find?_eq_some hfind)
    have hhit : Changes ctx other row := by simpa using List.find?_some hfind
    rw [withLastState,hfind,←hsame other hmem hhit]

/-- Updating a row for one change after the other leaves the state of the last one. -/
lemma foldl_changeState (changes : List ValidatorStateChange) (row : ValidatorDb) :
    changes.foldl (fun row change => changeState ctx change row) row =
      withLastState ctx changes row := by
  induction changes using List.reverseRecOn with
  | nil => rfl
  | append_singleton changes change ih =>
    rw [List.foldl_append,ih,withLastState_append,List.foldl_cons,List.foldl_nil]
    by_cases hchange : Changes ctx change row
    · have hhit : (withLastState ctx changes row).namadaAddress = change.address.toString ctx.sdk :=
        (namadaAddress_withLastState changes row).trans hchange
      rw [if_pos hchange,changeState,if_pos hhit]
      exact withLastState_setState changes row change.state
    · have hmiss : (withLastState ctx changes row).namadaAddress ≠
          change.address.toString ctx.sdk := fun h =>
        hchange ((namadaAddress_withLastState changes row).symm.trans h)
      rw [if_neg hchange,changeState,if_neg hmiss]

lemma upsertValidatorState_eq (changes : List ValidatorStateChange) (db : ChainDb) :
    upsertValidatorState ctx changes db =
      { db with validators :=
          db.validators.mapRows (withLastState ctx changes) (namadaAddress_withLastState changes) } := by
  have hvalidators : changes.foldl (fun (validators : Table ValidatorDb.namadaAddress) change =>
      validators.mapRows (changeState ctx change) (namadaAddress_changeState ctx change))
        db.validators =
      db.validators.mapRows (withLastState ctx changes) (namadaAddress_withLastState changes) := by
    apply Table.ext_rows
    rw [Table.foldl_mapRows_rows (changeState ctx) (namadaAddress_changeState ctx)]
    exact List.map_congr_left fun row _ => foldl_changeState changes row
  rw [upsertValidatorState,hvalidators]

/-- Where the changes agree, any list of the same ones has the same effect. -/
lemma withLastState_congr (hmem : ∀ change, change ∈ order ↔ change ∈ changes)
    (hagree : ∀ a ∈ changes, ∀ b ∈ changes, Changes ctx a row → Changes ctx b row →
      a.state = b.state) :
    withLastState ctx order row = withLastState ctx changes row := by
  by_cases h : ∃ change ∈ changes, Changes ctx change row
  · obtain ⟨change,hchange,hrow⟩ := h
    rw [withLastState_of_mem hchange hrow fun other hother hhit =>
        hagree other hother change hchange hhit hrow,
      withLastState_of_mem ((hmem change).mpr hchange) hrow fun other hother hhit =>
        hagree other ((hmem other).mp hother) change hchange hhit hrow]
  · have hnone : ∀ change ∈ changes, ¬ Changes ctx change row :=
      fun change hchange hrow => h ⟨change,hchange,hrow⟩
    rw [withLastState_of_none hnone,
      withLastState_of_none fun change hchange => hnone change ((hmem change).mp hchange)]

end

/-- The state of a validator after a block is the one that its last change in the block sets, in
any order of the extracted set, if and only if the changes to each stored validator agree. -/
theorem validator_state_last_iff (ctx : Context) (block : Block) (db : ChainDb) :
    (∀ order, Enumerates order (block.updateValidatorsState ctx.sdk) →
      upsertValidatorState ctx order db =
        { db with
          validators := db.validators.mapRows (withLastState ctx (statesInOrder ctx.sdk block))
            (namadaAddress_withLastState _) }) ↔
    StatesAgree ctx (statesInOrder ctx.sdk block) db.validators := by
  have hset : block.updateValidatorsState ctx.sdk = (statesInOrder ctx.sdk block).toFinset := rfl
  have horder := enumerates_dedup (statesInOrder ctx.sdk block)
  rw [←hset] at horder
  constructor
  · intro h row hrow
    have hlast : ∀ change ∈ statesInOrder ctx.sdk block, Changes ctx change row →
        change.state = (withLastState ctx (statesInOrder ctx.sdk block) row).state := by
      intro change hchange hhit
      obtain ⟨rest,hrest⟩ := exists_enumerates_last horder (List.mem_toFinset.mpr hchange)
      have hrows := congrArg (fun db => db.validators.rows) (h _ hrest)
      rw [upsertValidatorState_eq] at hrows
      have heq := List.map_inj_left.mp hrows row hrow
      rw [withLastState_append,if_pos hhit] at heq
      rw [←heq]
    intro a ha b hb hahit hbhit
    rw [hlast a ha hahit,hlast b hb hbhit]
  · intro h order horder
    have hmem : ∀ change, change ∈ order ↔ change ∈ statesInOrder ctx.sdk block := fun change =>
      (horder.mem_iff change).trans List.mem_toFinset
    have hvalidators : db.validators.mapRows (withLastState ctx order)
          (namadaAddress_withLastState _) =
        db.validators.mapRows (withLastState ctx (statesInOrder ctx.sdk block))
          (namadaAddress_withLastState _) := by
      apply Table.ext_rows
      exact List.map_congr_left fun row hrow => withLastState_congr hmem (h row hrow)
    rw [upsertValidatorState_eq,hvalidators]

/-- A validator is deactivated and, later in the block, reactivated. -/
def reactivationBlock : Block :=
  let change (kind : TransactionKind) : InnerTransaction :=
    { Votes.voteTx "1" "" .yay with kind }
  Votes.voteBlock [change (.deactivateValidator (some (.established "validator"))),
    change (.reactivateValidator (some (.established "validator")))]

/-- The set may be visited with the deactivation last. -/
theorem reactivation_is_lost :
    ¬ ∀ order, Enumerates order
        (reactivationBlock.updateValidatorsState (sampleContext bondTx).sdk) →
      upsertValidatorState (sampleContext bondTx) order sampleDb =
        { sampleDb with
          validators := sampleDb.validators.mapRows (withLastState (sampleContext bondTx)
              (statesInOrder (sampleContext bondTx).sdk reactivationBlock))
            (namadaAddress_withLastState _) } := by
  intro h
  have hrows := congrArg (fun db => db.validators.rows)
    (h [⟨.account "tnam1qvalidator",.reactivating⟩,⟨.account "tnam1qvalidator",.deactivating⟩]
      ⟨by decide,fun change => by
        rw [show reactivationBlock.updateValidatorsState (sampleContext bondTx).sdk =
          {⟨.account "tnam1qvalidator",.deactivating⟩,⟨.account "tnam1qvalidator",.reactivating⟩} by
            decide +kernel]
        simp [or_comm]⟩)
  revert hrows
  decide +kernel

end NamadaIndexer.Chain
