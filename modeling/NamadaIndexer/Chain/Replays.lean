import NamadaIndexer.Chain.Bonds
import NamadaIndexer.Foundation.Repeating

/-! A block that the chain crawler processes again, right after it was stored: at start-up the last
block is, and the block of the initial query. -/
namespace NamadaIndexer.Chain
open NamadaIndexer.Foundation NamadaIndexer.Shared NamadaIndexer.Governance
open NamadaIndexer.Transactions (BlockDb replaceBlock References)

/-- The same rows in every table, in whatever order, and the same state of the crawler. -/
structure SameRows (db db' : ChainDb) : Prop where
  tokens : db.tokens.rows.Perm db'.tokens.rows
  ibcTokens : db.ibcTokens.rows.Perm db'.ibcTokens.rows
  tokenSupplies : db.tokenSupplies.rows.Perm db'.tokenSupplies.rows
  ibcRateLimits : db.ibcRateLimits.rows.Perm db'.ibcRateLimits.rows
  blocks : db.blocks.rows.Perm db'.blocks.rows
  balanceChanges : db.balanceChanges.rows.Perm db'.balanceChanges.rows
  governanceProposals : db.governanceProposals.rows.Perm db'.governanceProposals.rows
  governanceVotes : db.governanceVotes.rows.Perm db'.governanceVotes.rows
  validators : db.validators.rows.Perm db'.validators.rows
  bonds : db.bonds.rows.Perm db'.bonds.rows
  unbonds : db.unbonds.rows.Perm db'.unbonds.rows
  redelegations : db.redelegations.rows.Perm db'.redelegations.rows
  posRewards : db.posRewards.rows.Perm db'.posRewards.rows
  revealedPks : db.revealedPks.rows.Perm db'.revealedPks.rows
  maspRates : db.maspRates.rows.Perm db'.maspRates.rows
  publicGoodFunding : db.publicGoodFunding.rows.Perm db'.publicGoodFunding.rows
  crawlerState : db.crawlerState = db'.crawlerState

/-- For the block, the one and the other come to the same checksums. -/
def SameChecksums (ctx : Context) (client : Client) (blockHeight : BlockHeight)
    (checksums held : Checksums) : Prop :=
  refreshChecksums ctx.sdk held blockHeight client.node.head =
    refreshChecksums ctx.sdk checksums blockHeight client.node.head

/-- The changes of validators by a block: those of states first. -/
def Gathered.validatorChanges (ctx : Context) (gathered : Gathered) :
    List (ValidatorStateChange ⊕ ValidatorMetadataChange) :=
  (gathered.validatorsStateChange ctx).map .inl ++ gathered.metadataChange.map .inr

def addressOfChange : ValidatorStateChange ⊕ ValidatorMetadataChange → Id
  | .inl change => change.address
  | .inr change => change.address

/-- The columns that a change sets. -/
def setColumns : ValidatorStateChange ⊕ ValidatorMetadataChange → ValidatorDb → ValidatorDb
  | .inl change,row => { row with state := change.state }
  | .inr change,row => { row with
      commission := change.commission.getD row.commission
      name := change.name.or row.name
      email := change.email.or row.email
      website := change.website.or row.website
      description := change.description.or row.description
      discordHandle := change.discordHandler.or row.discordHandle
      avatar := change.avatar.or row.avatar }

/-- A validator after the changes of a block. -/
def Gathered.changed (ctx : Context) (gathered : Gathered) (row : ValidatorDb) : ValidatorDb :=
  (gathered.validatorChanges ctx).foldl (fun row change =>
    if row.namadaAddress = (addressOfChange change).toString ctx.sdk then setColumns change row
    else row) row

section
variable {ctx : Context} {client : Client} {checksums held : Checksums} {blockHeight : BlockHeight}
  {shouldUpdateCrawlerState : Bool} {gathered : Gathered} {db db' db'' : ChainDb}

lemma SameRows.refl (db : ChainDb) : SameRows db db := by
  constructor <;> rfl

lemma SameRows.trans (h : SameRows db db') (h' : SameRows db' db'') : SameRows db db'' where
  tokens := h.tokens.trans h'.tokens
  ibcTokens := h.ibcTokens.trans h'.ibcTokens
  tokenSupplies := h.tokenSupplies.trans h'.tokenSupplies
  ibcRateLimits := h.ibcRateLimits.trans h'.ibcRateLimits
  blocks := h.blocks.trans h'.blocks
  balanceChanges := h.balanceChanges.trans h'.balanceChanges
  governanceProposals := h.governanceProposals.trans h'.governanceProposals
  governanceVotes := h.governanceVotes.trans h'.governanceVotes
  validators := h.validators.trans h'.validators
  bonds := h.bonds.trans h'.bonds
  unbonds := h.unbonds.trans h'.unbonds
  redelegations := h.redelegations.trans h'.redelegations
  posRewards := h.posRewards.trans h'.posRewards
  revealedPks := h.revealedPks.trans h'.revealedPks
  maspRates := h.maspRates.trans h'.maspRates
  publicGoodFunding := h.publicGoodFunding.trans h'.publicGoodFunding
  crawlerState := h.crawlerState.trans h'.crawlerState

lemma overwrite_idempotent {ρ κ : Type*} {key : ρ → κ} {set : ρ → ρ → ρ}
    {hset : ∀ old new, key (set old new) = key old} (hself : ∀ row, set row row = row)
    (hagain : ∀ old new, set (set old new) new = set old new) :
    (overwrite set hset).Idempotent where
  again := by
    rintro old new row ⟨⟩
    exact congrArg some (hagain old new)
  self row := congrArg some (hself row)

lemma setEndEpoch_idempotent : setEndEpoch.Idempotent :=
  overwrite_idempotent (fun _ => rfl) fun _ _ => rfl

lemma setMaspRate_idempotent : setMaspRate.Idempotent :=
  overwrite_idempotent (fun _ => rfl) fun _ _ => rfl

lemma resetTally_idempotent : resetTally.Idempotent where
  again := by
    rintro old new row ⟨⟩
    rfl
  self _ := rfl

lemma replaceBlock_idempotent : replaceBlock.Idempotent where
  again := by
    rintro old new row ⟨⟩
    rfl
  self _ := rfl

lemma setValidator_replaces : setValidator.Replaces := by
  intro old new h
  exact congrArg some (congrArg (fun address => { new with namadaAddress := address }) h)

lemma setValidator_total : setValidator.Total := fun _ _ => ⟨_,rfl⟩

lemma references_again {ρ κ ι : Type*} {key : ρ → κ} [DecidableEq κ] (table : Table key)
    (rows : List ρ) (reference : ρ → ι) (targets : List ι) :
    References (table.insertOrIgnore rows) rows reference targets :=
  fun _ hrow => .inl (Table.mem_keys_insertOrIgnore.mpr (.inr (List.mem_map_of_mem hrow)))

lemma getD_absorbs {α : Type*} (a c : Option α) (x : α) :
    a.getD (c.getD (a.getD x)) = a.getD (c.getD x) := by
  cases a <;> rfl

lemma or_absorbs {α : Type*} (a c x : Option α) : a.or (c.or (a.or x)) = a.or (c.or x) := by
  cases a <;> rfl

lemma getD_again {α : Type*} (a : Option α) (x : α) : a.getD (a.getD x) = a.getD x := by
  cases a <;> rfl

lemma or_again {α : Type*} (a x : Option α) : a.or (a.or x) = a.or x := by
  cases a <;> rfl

lemma namadaAddress_setColumns (change : ValidatorStateChange ⊕ ValidatorMetadataChange)
    (row : ValidatorDb) : (setColumns change row).namadaAddress = row.namadaAddress := by
  cases change <;> rfl

lemma setColumns_again (change : ValidatorStateChange ⊕ ValidatorMetadataChange)
    (row : ValidatorDb) :
    setColumns change (setColumns change row) = setColumns change row := by
  cases change with
  | inl change => rfl
  | inr change => simp only [setColumns,getD_again,or_again]

lemma setColumns_absorbs (change other : ValidatorStateChange ⊕ ValidatorMetadataChange)
    (row : ValidatorDb) :
    setColumns change (setColumns other (setColumns change row)) =
      setColumns change (setColumns other row) := by
  cases change with
  | inl change => cases other <;> rfl
  | inr change =>
    cases other with
    -- a state and the metadata are different columns
    | inl other => exact setColumns_again (.inr change) (setColumns (.inl other) row)
    | inr other => simp only [setColumns,getD_absorbs,or_absorbs]

/-- The two loops over the changes are one. -/
lemma changed_eq (gathered : Gathered) :
    gathered.changed ctx = fun row =>
      gathered.metadataChange.foldl (fun row change => changeMetadata ctx change row)
        ((gathered.validatorsStateChange ctx).foldl (fun row change => changeState ctx change row)
          row) := by
  funext row
  rw [Gathered.changed,Gathered.validatorChanges,List.foldl_append,List.foldl_map,List.foldl_map]
  rfl

lemma changed_again (gathered : Gathered) (row : ValidatorDb) :
    gathered.changed ctx (gathered.changed ctx row) = gathered.changed ctx row := by
  apply foldl_where_again fun change (row : ValidatorDb) =>
    row.namadaAddress = (addressOfChange change).toString ctx.sdk
  · intro change other row
    rw [namadaAddress_setColumns]
  · exact setColumns_again
  · exact setColumns_absorbs

lemma namadaAddress_changed (gathered : Gathered) (row : ValidatorDb) :
    (gathered.changed ctx row).namadaAddress = row.namadaAddress := by
  unfold Gathered.changed
  induction gathered.validatorChanges ctx generalizing row with
  | nil => rfl
  | cons change changes ih =>
    rw [List.foldl_cons,ih]
    split
    · exact namadaAddress_setColumns change row
    · rfl

lemma claimed_again (posRewards : Table PosRewardDb.key) (rewardClaimers : List (Id × Id)) :
    claimed ctx (claimed ctx posRewards rewardClaimers) rewardClaimers =
      claimed ctx posRewards rewardClaimers := by
  apply Table.ext_rows
  unfold claimed
  rw [Table.foldl_mapRows_rows (claim ctx) (key_claim ctx),
    Table.foldl_mapRows_rows (claim ctx) (key_claim ctx),List.map_map]
  apply List.map_congr_left
  intro row _
  exact foldl_where_again
    (fun claimer (row : PosRewardDb) =>
      row.owner = claimer.1.toString ctx.sdk ∧ row.validator = claimer.2.toString ctx.sdk)
    (fun _ row => { row with claimed := true }) (fun _ _ _ => Iff.rfl) (fun _ _ => rfl)
    (fun _ _ _ => rfl) rewardClaimers row

/-- Votes that were inserted can be inserted again. -/
lemma insertVotes_again {sdk : Sdk} {proposalIds : Finset Int32} {votes : List GovernanceVote}
    {table after : Votes.GovernanceVotes}
    (h : Votes.insertVotes sdk proposalIds table votes = some after) :
    ∃ again, Votes.insertVotes sdk proposalIds after votes = some again ∧
      after.rows.Perm again.rows := by
  obtain ⟨hchunks,hput⟩ := Votes.foldlM_insertVotesChunk h
  rw [flatten_chunks] at hput
  obtain ⟨again,hagain⟩ := Table.foldlM_put_total (m := Votes.setKind) (fun _ _ => ⟨_,rfl⟩)
    (votes.map (Votes.fromGovernanceVote sdk)) after
  refine ⟨again,Votes.foldlM_insertVotesChunk_of_put hchunks (by rwa [flatten_chunks]),?_⟩
  exact Table.perm_put_again Votes.setKind_run (fun _ _ _ => rfl) (Table.rewrites_some _) hput
    (Table.rewrites_some _) (Table.rewrites_some _) hagain (Table.rewrites_some _)

lemma upsertValidators_again {rows : List ValidatorDb}
    {table stored after : Table ValidatorDb.namadaAddress}
    (hstored : Table.upsert setValidator table rows = some stored)
    (hafter : after.rows = stored.rows.map (gathered.changed ctx)) :
    ∃ stored' again : Table ValidatorDb.namadaAddress,
      Table.upsert setValidator after rows = some stored' ∧
      again.rows = stored'.rows.map (gathered.changed ctx) ∧ after.rows.Perm again.rows := by
  obtain ⟨hnodup,hput⟩ := Table.upsert_eq_some.mp hstored
  obtain ⟨stored',hput'⟩ := Table.foldlM_put_total setValidator_total rows after
  refine ⟨stored',stored'.mapRows (gathered.changed ctx) (namadaAddress_changed gathered),
    Table.upsert_eq_some.mpr ⟨hnodup,hput'⟩,rfl,?_⟩
  refine Table.perm_put_again setValidator_replaces (fun r s h => ?_) (Table.rewrites_some _) hput
    (Table.rewrites_map (namadaAddress_changed gathered) hafter) (Table.rewrites_some _) hput'
    (Table.rewrites_map (namadaAddress_changed gathered) rfl)
  obtain rfl : gathered.changed ctx r = s := Option.some.inj h
  exact congrArg some (changed_again gathered r)

/-- Bonds that were cleared and inserted. -/
lemma clearBonds_again {gone : BondDb → Bool} {rows : List BondDb} {table after : Table BondDb.key}
    (h : rows.foldlM (Table.put setBondAmount) (deleteRows table gone) = some after) :
    ∃ again, rows.foldlM (Table.put setBondAmount) (deleteRows after gone) = some again ∧
      after.rows.Perm again.rows := by
  obtain ⟨again,hagain⟩ := Table.foldlM_put_total setBondAmount_total rows (deleteRows after gone)
  refine ⟨again,hagain,?_⟩
  refine Table.perm_put_again @setBondAmount_replaces (fun r s h => ?_) (Table.rewrites_filter rfl) h
    (Table.rewrites_some _) (Table.rewrites_filter rfl) hagain (Table.rewrites_some _)
  rw [Option.bind_fun_some] at h ⊢
  obtain ⟨rfl,-⟩ := Option.guard_eq_some_iff.mp h
  exact h

/-- Unbonds that were inserted, of which some were removed. -/
lemma removeWithdraws_again (gone : UnbondDb → Bool) {rows : List UnbondDb}
    {table stored : Table UnbondDb.key}
    (h : rows.foldlM (Table.put setUnbondAmount) table = some stored) :
    ∃ stored', rows.foldlM (Table.put setUnbondAmount) (deleteRows stored gone) = some stored' ∧
      (deleteRows stored gone).rows.Perm (deleteRows stored' gone).rows := by
  obtain ⟨stored',hstored'⟩ := Table.foldlM_put_total setUnbondAmount_total rows
    (deleteRows stored gone)
  refine ⟨stored',hstored',?_⟩
  refine Table.perm_put_again @setUnbondAmount_replaces (fun r s h => ?_) (Table.rewrites_some _) h
    (Table.rewrites_filter rfl) (Table.rewrites_some _) hstored' (Table.rewrites_filter rfl)
  rw [Option.bind_some] at h ⊢
  obtain ⟨rfl,-⟩ := Option.guard_eq_some_iff.mp h
  exact h

lemma hash_unique_again (hc : Committed ctx shouldUpdateCrawlerState gathered db db') :
    ∀ other ∈ db'.blocks.rows,
      other.hash = (BlockDb.ofBlock ctx.sdk gathered.current.block).hash →
        other.height = (BlockDb.ofBlock ctx.sdk gathered.current.block).height := by
  intro other hother hhash
  have hfind := Table.find?_put hc.blocks other.height
  rw [Table.find?_of_mem hother] at hfind
  by_cases hheight : other.height = (BlockDb.ofBlock ctx.sdk gathered.current.block).height
  · exact hheight
  · rw [if_neg hheight] at hfind
    exact hc.hash_unique other (Table.find?_eq_some.mp hfind.symm).1 hhash

/-- The commit of a block again, right after it: it succeeds, and every row is as it was. -/
theorem commit_again (h : commit ctx shouldUpdateCrawlerState gathered db = some db') :
    ∃ db'', commit ctx shouldUpdateCrawlerState gathered db' = some db'' ∧ SameRows db' db'' := by
  obtain ⟨hc,hchecked⟩ := commit_eq_some.mp h
  obtain ⟨votes,hvotes,hvotesPerm⟩ := insertVotes_again hc.votes
  obtain ⟨rows,stored,hrows,hstored,hupdated⟩ := hc.validators
  rw [←changed_eq] at hupdated
  obtain ⟨stored',validators,hstored',hupdated',hvalidatorsPerm⟩ :=
    upsertValidators_again hstored hupdated
  obtain ⟨bonds,hbonds,hbondsPerm⟩ := clearBonds_again hc.bonds
  obtain ⟨unbonds,hunbonds,hleft⟩ := hc.unbonds
  obtain ⟨unbonds',hunbonds',hunbondsPerm⟩ := removeWithdraws_again
    (withdrawn ctx gathered.current.epoch (gathered.withdrawAddresses ctx)) hunbonds
  rw [←hleft] at hunbonds' hunbondsPerm
  have hknown : ∀ address ∈ db'.validators.keys, address ∈ validators.keys := fun address hmem =>
    (hvalidatorsPerm.map ValidatorDb.namadaAddress).mem_iff.mp hmem
  refine ⟨{ db' with
    governanceVotes := votes
    validators
    bonds
    unbonds := deleteRows unbonds' (withdrawn ctx gathered.current.epoch
      (gathered.withdrawAddresses ctx)) },commit_eq_some.mpr ⟨?_,?_⟩,?_⟩
  · exact
      { tokens := by rw [hc.tokens,Table.insertOrIgnore_again]
        native_unique := hc.native_unique
        ibcTokens := by rw [hc.ibcTokens,Table.insertOrIgnore_again]
        supplies_checked := hc.supplies_checked
        supplies_references := by rw [hc.tokenSupplies]; exact references_again _ _ _ _
        tokenSupplies := by rw [hc.tokenSupplies,Table.insertOrIgnore_again]
        limits_references := by rw [hc.ibcRateLimits]; exact references_again _ _ _ _
        ibcRateLimits := by rw [hc.ibcRateLimits,Table.insertOrIgnore_again]
        hash_unique := hash_unique_again hc
        blocks := Table.put_again replaceBlock_idempotent hc.blocks
        token_references := by rw [hc.balanceChanges]; exact references_again _ _ _ _
        height_references := by rw [hc.balanceChanges]; exact references_again _ _ _ _
        balanceChanges := by rw [hc.balanceChanges,Table.insertOrIgnore_again]
        proposals := Table.upsert_again resetTally_idempotent hc.proposals
        votes := hvotes
        validators := ⟨rows,stored',hrows,hstored',by rw [hupdated',changed_eq]⟩
        bonds_known := fun bond hbond => hknown _ (hc.bonds_known bond hbond)
        bonds := hbonds
        unbonds_known := fun unbond hunbond => hknown _ (hc.unbonds_known unbond hunbond)
        unbonds := ⟨unbonds',hunbonds',rfl⟩
        redelegations := Table.upsert_again setEndEpoch_idempotent hc.redelegations
        posRewards := by rw [hc.posRewards,claimed_again]
        revealedPks := by rw [hc.revealedPks,Table.insertOrIgnore_again]
        maspRates := Table.upsert_again setMaspRate_idempotent hc.maspRates
        publicGoodFunding := rfl
        crawlerState := by rw [hc.crawlerState]; cases shouldUpdateCrawlerState <;> rfl }
  · exact
      { ibcTokens_references := by rw [hc.ibcTokens]; exact references_again _ _ _ _
        bond_chunks := hchecked.bond_chunks
        unbond_chunks := hchecked.unbond_chunks
        redelegations_known := fun redelegation hmem =>
          hknown _ (hchecked.redelegations_known redelegation hmem) }
  · exact { SameRows.refl db' with
      governanceVotes := hvotesPerm
      validators := hvalidatorsPerm
      bonds := hbondsPerm
      unbonds := hunbondsPerm }

/-- The queries for a block read nothing that the block writes. -/
lemma gather_congr {current : Current} (h : db'.publicGoodFunding = db.publicGoodFunding) :
    gather ctx client current db' = gather ctx client current db := by
  simp only [gather,allBalanceChanges,pgfChanges,getPgfReceipientsBalanceChanges,h]

lemma readBlock_congr (h : SameChecksums ctx client blockHeight checksums held) :
    readBlock ctx client held blockHeight = readBlock ctx client checksums blockHeight := by
  unfold readBlock
  cases hfails : client.fails .firstBlockInEpoch with
  | true => simp only [Client.ask,hfails,if_true]; rfl
  | false =>
    have hask : client.ask .firstBlockInEpoch client.node.head.firstBlockInEpoch =
        some client.node.head.firstBlockInEpoch := ask_eq_some.mpr ⟨hfails,rfl⟩
    have hrefresh : refreshChecksums ctx.sdk held blockHeight client.node.head =
      refreshChecksums ctx.sdk checksums blockHeight client.node.head := h
    simp only [hask,orError,pure_bind,hrefresh]

/-- The checksums that the crawler holds after a block are as good for it as those before. -/
lemma sameChecksums_of_refreshed
    (h : refreshChecksums ctx.sdk checksums blockHeight client.node.head = .returns held) :
    SameChecksums ctx client blockHeight checksums held := by
  unfold SameChecksums
  unfold refreshChecksums at h ⊢
  split
  · rfl
  · rename_i hfirst
    rw [if_neg hfirst] at h
    rw [Panicking.returns.inj h]

lemma crawlingFn_again
    (hcommit : (crawlingFn ctx client checksums blockHeight shouldUpdateCrawlerState db).run =
      .returns (.ok db')) (hheld : SameChecksums ctx client blockHeight checksums held) :
    ∃ db'', (crawlingFn ctx client held blockHeight shouldUpdateCrawlerState db').run =
        .returns (.ok db'') ∧ SameRows db' db'' := by
  unfold crawlingFn at hcommit ⊢
  obtain ⟨current,hread,hrest⟩ := Panicking.run_bind_eq_ok.mp hcommit
  obtain ⟨gathered,hgather,hdb'⟩ := Panicking.run_bind_eq_ok.mp hrest
  have hdb' := run_orError_eq_ok.mp hdb'
  obtain ⟨db'',hagain,hsame⟩ := commit_again hdb'
  rw [←readBlock_congr hheld] at hread
  rw [←gather_congr (committed_of_commit hdb').publicGoodFunding] at hgather
  exact ⟨db'',Panicking.run_bind_eq_ok.mpr ⟨current,hread,Panicking.run_bind_eq_ok.mpr
    ⟨gathered,hgather,run_orError_eq_ok.mpr hagain⟩⟩,hsame⟩

/-- However often the crawler starts again at a block, the rows stay as after the first time. -/
theorem rows_kept_by_restarts
    (hcommit : (crawlingFn ctx client checksums blockHeight shouldUpdateCrawlerState db).run =
      .returns (.ok db')) (hheld : SameChecksums ctx client blockHeight checksums held) (n : ℕ) :
    ∃ db'', Runs.execute (Pass.step ctx) db'
        (List.replicate n (.block client held blockHeight shouldUpdateCrawlerState)) = some db'' ∧
      SameRows db' db'' := by
  induction n generalizing checksums db db' with
  | zero => exact ⟨db',rfl,.refl db'⟩
  | succ n ih =>
    obtain ⟨mid,hmid,hsame⟩ := crawlingFn_again hcommit hheld
    obtain ⟨db'',hrun,hrest⟩ := ih hmid rfl
    exact ⟨db'',Runs.execute_cons_eq_some.mpr ⟨mid,resultOf_eq_some.mpr hmid,hrun⟩,
      hsame.trans hrest⟩

end

/-- A block that was stored can be processed again, right after, with the same answers of the
node: that succeeds as well, and every table has the same rows. -/
theorem replay_is_harmless {ctx : Context} {client : Client} {checksums held : Checksums}
    {blockHeight : BlockHeight} {shouldUpdateCrawlerState : Bool} {db db' : ChainDb}
    (hcommit : (crawlingFn ctx client checksums blockHeight shouldUpdateCrawlerState db).run =
      .returns (.ok db')) (hheld : SameChecksums ctx client blockHeight checksums held) :
    ∃ db'', (crawlingFn ctx client held blockHeight shouldUpdateCrawlerState db').run =
        .returns (.ok db'') ∧ SameRows db' db'' :=
  crawlingFn_again hcommit hheld

/-- The block with a bond, processed again. -/
theorem replay_of_bond :
    ∃ db' db'', (crawlingFn (sampleContext bondTx) ⟨sampleNode 8 5 fun _ => 1,fun _ => false⟩
        bondChecksums 7 true sampleDb).run = .returns (.ok db') ∧
      (crawlingFn (sampleContext bondTx) ⟨sampleNode 8 5 fun _ => 1,fun _ => false⟩
        bondChecksums 7 true db').run = .returns (.ok db'') ∧ SameRows db' db'' := by
  have hrun : (resultOf (crawlingFn (sampleContext bondTx)
      ⟨sampleNode 8 5 fun _ => 1,fun _ => false⟩ bondChecksums 7 true sampleDb)).isSome := by
    decide +kernel
  obtain ⟨db',hresult⟩ := Option.isSome_iff_exists.mp hrun
  have hdb := resultOf_eq_some.mp hresult
  have hheld : refreshChecksums (sampleContext bondTx).sdk bondChecksums 7
      (sampleNode 8 5 fun _ => 1).head = .returns bondChecksums := rfl
  obtain ⟨db'',hagain,hsame⟩ := replay_is_harmless hdb (sameChecksums_of_refreshed hheld)
  exact ⟨db',db'',hdb,hagain,hsame⟩

end NamadaIndexer.Chain
