import NamadaIndexer.Chain.Namada
import NamadaIndexer.Chain.Votes
import NamadaIndexer.Transactions.Repository

/-! The tables of the chain crawler and the statements that write to them. A statement fails
as a whole, and a panic inside the transaction is reported as a failure of it. The surrogate
id of a validator stands for its address, which is unique. -/
namespace NamadaIndexer.Chain
open NamadaIndexer.Foundation NamadaIndexer.Shared NamadaIndexer.Governance
open NamadaIndexer.Transactions (BlockDb replaceBlock References)

inductive TokenTypeDb
  | native
  | ibc
  deriving DecidableEq, Repr

structure TokenDb where
  address : String
  tokenType : TokenTypeDb
  deriving DecidableEq, Repr

structure IbcTokenDb where
  address : String
  ibcTrace : String
  deriving DecidableEq, Repr

structure TokenSuppliesDb where
  address : String
  epoch : Int32
  total : Amount
  effective : Option Amount
  deriving DecidableEq, Repr

structure IbcRateLimitsDb where
  address : String
  epoch : Int32
  throughputLimit : Amount
  deriving DecidableEq, Repr

structure BalanceChangesDb where
  owner : String
  token : String
  rawAmount : Amount
  height : Int32
  deriving DecidableEq, Repr

structure ValidatorDb where
  namadaAddress : String
  votingPower : Int32
  maxCommission : String
  commission : String
  name : Option String
  email : Option String
  website : Option String
  description : Option String
  discordHandle : Option String
  avatar : Option String
  state : ValidatorState
  deriving DecidableEq, Repr

structure BondDb where
  address : String
  validator : String
  rawAmount : Amount
  start : Int32
  deriving DecidableEq, Repr

structure UnbondDb where
  address : String
  validator : String
  rawAmount : Amount
  withdrawEpoch : Int32
  deriving DecidableEq, Repr

structure RedelegationDb where
  delegator : String
  validator : String
  endEpoch : Int32
  deriving DecidableEq, Repr

structure PosRewardDb where
  owner : String
  validator : String
  rawAmount : Amount
  claimed : Bool
  epoch : Int32
  deriving DecidableEq, Repr

structure RevealedPkDb where
  pk : String
  address : String
  deriving DecidableEq, Repr

structure MaspRewardDataDb where
  token : String
  maxRewardRate : String
  kpGain : String
  kdGain : String
  lockedAmountTarget : Amount
  deriving DecidableEq, Repr

structure ChainCrawlerState where
  lastProcessedBlock : BlockHeight
  lastProcessedEpoch : Epoch
  firstBlockInEpoch : BlockHeight
  deriving DecidableEq, Repr

/-- The row of the chain crawler in `crawler_state`, without its timestamp. -/
structure ChainCrawlerStateDb where
  lastProcessedBlock : Int32
  lastProcessedEpoch : Int32
  firstBlockInEpoch : Int32
  deriving DecidableEq, Repr

/-- `UNIQUE (address, epoch)` -/
def TokenSuppliesDb.key (row : TokenSuppliesDb) : String × Int32 := (row.address,row.epoch)

/-- `UNIQUE (address, epoch)` -/
def IbcRateLimitsDb.key (row : IbcRateLimitsDb) : String × Int32 := (row.address,row.epoch)

/-- `UNIQUE (owner, token, height)` -/
def BalanceChangesDb.key (row : BalanceChangesDb) : String × String × Int32 :=
  (row.owner,row.token,row.height)

/-- `UNIQUE (address, validator_id, start)` -/
def BondDb.key (row : BondDb) : String × String × Int32 := (row.address,row.validator,row.start)

/-- `UNIQUE (address, validator_id, withdraw_epoch)` -/
def UnbondDb.key (row : UnbondDb) : String × String × Int32 :=
  (row.address,row.validator,row.withdrawEpoch)

/-- `UNIQUE (delegator, validator_id)` -/
def RedelegationDb.key (row : RedelegationDb) : String × String := (row.delegator,row.validator)

/-- `UNIQUE (owner, validator_id, epoch)` -/
def PosRewardDb.key (row : PosRewardDb) : String × String × Int32 :=
  (row.owner,row.validator,row.epoch)

/-- `UNIQUE (address, pk)` -/
def RevealedPkDb.key (row : RevealedPkDb) : String × String := (row.address,row.pk)

/-- The tables that the chain crawler reads and writes. -/
structure ChainDb where
  tokens : Table TokenDb.address
  ibcTokens : Table IbcTokenDb.address
  tokenSupplies : Table TokenSuppliesDb.key
  ibcRateLimits : Table IbcRateLimitsDb.key
  blocks : Table BlockDb.height
  balanceChanges : Table BalanceChangesDb.key
  governanceProposals : GovernanceProposals
  governanceVotes : Votes.GovernanceVotes
  validators : Table ValidatorDb.namadaAddress
  bonds : Table BondDb.key
  unbonds : Table UnbondDb.key
  redelegations : Table RedelegationDb.key
  posRewards : Table PosRewardDb.key
  revealedPks : Table RevealedPkDb.key
  maspRates : Table MaspRewardDataDb.token
  publicGoodFunding : PublicGoodFunding
  crawlerState : Option ChainCrawlerStateDb

def ChainDb.empty : ChainDb :=
  ⟨.empty,.empty,.empty,.empty,.empty,.empty,.empty,.empty,.empty,.empty,.empty,.empty,.empty,
    .empty,.empty,.empty,none⟩

/-- Overwrite the columns of a row that the statement sets. -/
def overwrite {ρ κ : Type*} {key : ρ → κ} (set : ρ → ρ → ρ)
    (hset : ∀ old new, key (set old new) = key old) : Table.Merge key where
  run old new := some (set old new)
  key_run := by
    rintro old new row ⟨⟩
    exact hset old new

/-- `SET raw_amount = excluded.raw_amount` -/
def setBondAmount : Table.Merge BondDb.key :=
  overwrite (fun old new => { old with rawAmount := new.rawAmount }) fun _ _ => rfl

/-- `SET` the amount; the epoch that is set too is part of the key -/
def setUnbondAmount : Table.Merge UnbondDb.key :=
  overwrite (fun old new => { old with rawAmount := new.rawAmount }) fun _ _ => rfl

lemma setBondAmount_replaces {old new : BondDb} (h : old.key = new.key) :
    setBondAmount.run old new = some new := by
  obtain ⟨address,validator,amount,start⟩ := old
  obtain ⟨haddress,hrest⟩ := Prod.mk.inj h
  obtain ⟨hvalidator,hstart⟩ := Prod.mk.inj hrest
  dsimp only at haddress hvalidator hstart
  subst haddress hvalidator hstart
  rfl

lemma setUnbondAmount_replaces {old new : UnbondDb} (h : old.key = new.key) :
    setUnbondAmount.run old new = some new := by
  obtain ⟨address,validator,amount,withdrawEpoch⟩ := old
  obtain ⟨haddress,hrest⟩ := Prod.mk.inj h
  obtain ⟨hvalidator,hepoch⟩ := Prod.mk.inj hrest
  dsimp only at haddress hvalidator hepoch
  subst haddress hvalidator hepoch
  rfl

lemma setBondAmount_total : setBondAmount.Total := fun _ _ => ⟨_,rfl⟩

lemma setUnbondAmount_total : setUnbondAmount.Total := fun _ _ => ⟨_,rfl⟩

/-- `SET end_epoch = excluded.end_epoch` -/
def setEndEpoch : Table.Merge RedelegationDb.key :=
  overwrite (fun old new => { old with endEpoch := new.endEpoch }) fun _ _ => rfl

/-- `SET` every column but the address -/
def setValidator : Table.Merge ValidatorDb.namadaAddress :=
  overwrite (fun old new => { new with namadaAddress := old.namadaAddress }) fun _ _ => rfl

/-- `SET` every column but the token -/
def setMaspRate : Table.Merge MaspRewardDataDb.token :=
  overwrite (fun old new => { new with token := old.token }) fun _ _ => rfl

/-- `DELETE`: the rows that are left keep their distinct keys. -/
def deleteRows {ρ κ : Type*} {key : ρ → κ} (table : Table key) (gone : ρ → Bool) : Table key :=
  ⟨table.rows.filter fun row => !gone row,
    (List.filter_sublist.map key).nodup table.unique⟩

section
variable (ctx : Context)

/-- `From<&Token> for TokenDb` -/
def TokenDb.ofToken : Token → TokenDb
  | .native token => ⟨token.toString ctx.sdk,.native⟩
  | .ibc token => ⟨token.address.toString ctx.sdk,.ibc⟩

/-- `IbcTokenDb::from_token` -/
def IbcTokenDb.fromToken : Token → Option IbcTokenDb
  | .ibc token => some ⟨token.address.toString ctx.sdk,
      (token.trace.map (Id.toString ctx.sdk)).getD (ctx.sdk.toLowercase "")⟩
  | .native _ => none

/-- `insert_tokens`. At most one token may be native. -/
def insertTokens (tokens : List Token) (db : ChainDb) : Option ChainDb :=
  let stored := db.tokens.insertOrIgnore (tokens.map (TokenDb.ofToken ctx))
  let ibcRows := tokens.filterMap (IbcTokenDb.fromToken ctx)
  if stored.rows.countP (fun row => row.tokenType = .native) ≤ 1 ∧
      References db.ibcTokens ibcRows IbcTokenDb.address stored.keys then
    some { db with tokens := stored, ibcTokens := db.ibcTokens.insertOrIgnore ibcRows }
  else none

/-- `From<TokenSupply> for TokenSuppliesInsertDb` -/
def TokenSuppliesDb.ofSupply (supply : TokenSupply) : TokenSuppliesDb where
  address := supply.address
  epoch := supply.epoch
  total := supply.total
  effective := supply.effective

/-- The trigger `check_effective_for_token_type`. -/
def checkEffectiveForTokenType (tokens : Table TokenDb.address) (row : TokenSuppliesDb) : Prop :=
  (∃ token ∈ tokens.rows, token.address = row.address ∧ token.tokenType = .native) →
    row.effective.isSome = true

instance (tokens : Table TokenDb.address) (row : TokenSuppliesDb) :
    Decidable (checkEffectiveForTokenType tokens row) :=
  inferInstanceAs (Decidable (_ → _))

/-- `insert_token_supplies` -/
def insertTokenSupplies (supplies : List TokenSupply) (db : ChainDb) : Option ChainDb :=
  let rows := supplies.map TokenSuppliesDb.ofSupply
  if rows = [] then some db
  else if (∀ row ∈ rows, checkEffectiveForTokenType db.tokens row) ∧
      References db.tokenSupplies rows TokenSuppliesDb.address db.tokens.keys then
    some { db with tokenSupplies := db.tokenSupplies.insertOrIgnore rows }
  else none

/-- `From<IbcRateLimit> for IbcRateLimitsInsertDb` -/
def IbcRateLimitsDb.ofLimit (limit : IbcRateLimit) : IbcRateLimitsDb where
  address := limit.address
  epoch := limit.epoch.toInt32
  throughputLimit := limit.throughputLimit

/-- `insert_ibc_rate_limits` -/
def insertIbcRateLimits (limits : List IbcRateLimit) (db : ChainDb) : Option ChainDb :=
  let rows := limits.map IbcRateLimitsDb.ofLimit
  if rows = [] then some db
  else if References db.ibcRateLimits rows IbcRateLimitsDb.address db.tokens.keys then
    some { db with ibcRateLimits := db.ibcRateLimits.insertOrIgnore rows }
  else none

/-- `upsert_block`. Another block must not have the same hash. -/
def upsertBlock (block : Block) (db : ChainDb) : Option ChainDb := do
  let row := BlockDb.ofBlock ctx.sdk block
  if ∀ other ∈ db.blocks.rows, other.hash = row.hash → other.height = row.height then
    let blocks ← Table.put replaceBlock db.blocks row
    return { db with blocks }
  else none

/-- `BalanceChangesInsertDb::from_balance` -/
def BalanceChangesDb.fromBalance (balance : Balance) : BalanceChangesDb where
  owner := balance.owner.toString ctx.sdk
  token := balance.token.address.toString ctx.sdk
  rawAmount := balance.amount
  height := balance.height.toInt32

/-- `balance_changes::all_columns.len()` -/
def balancesColCount : ℕ := 5

/-- One chunk of `insert_balances`. -/
def insertBalancesChunk (db : ChainDb) (balances : List Balance) : Option ChainDb :=
  let rows := balances.map (BalanceChangesDb.fromBalance ctx)
  if References db.balanceChanges rows BalanceChangesDb.token db.tokens.keys ∧
      References db.balanceChanges rows BalanceChangesDb.height db.blocks.keys then
    some { db with balanceChanges := db.balanceChanges.insertOrIgnore rows }
  else none

/-- `insert_balances` -/
def insertBalances (balances : List Balance) (db : ChainDb) : Option ChainDb :=
  (chunks (Votes.MAX_PARAM_SIZE / balancesColCount) balances).foldlM (insertBalancesChunk ctx) db

/-- `insert_proposals` -/
def insertProposals (proposals : List (GovernanceProposal × TallyType)) (db : ChainDb) :
    Option ChainDb := do
  let governanceProposals ← Governance.insertProposals ctx.sdk db.governanceProposals proposals
  return { db with governanceProposals }

/-- `insert_votes` -/
def insertVotes (votes : List GovernanceVote) (db : ChainDb) : Option ChainDb := do
  let governanceVotes ← Votes.insertVotes ctx.sdk db.governanceProposals.keys.toFinset
    db.governanceVotes votes
  return { db with governanceVotes }

/-- `ValidatorWithMetaInsertDb::from_validator` -/
def ValidatorDb.fromValidator (validator : Validator) : Option ValidatorDb := do
  let votingPower ← ctx.votingPower validator.votingPower
  return {
    namadaAddress := validator.address.toString ctx.sdk
    votingPower
    maxCommission := validator.maxCommission
    commission := validator.commission
    name := validator.name
    email := validator.email
    website := validator.website
    description := validator.description
    discordHandle := validator.discordHandler
    avatar := validator.avatar
    state := validator.state }

/-- `upsert_validators` -/
def upsertValidators (validators : List Validator) (db : ChainDb) : Option ChainDb := do
  let rows ← validators.mapM (ValidatorDb.fromValidator ctx)
  let validators ← Table.upsert setValidator db.validators rows
  return { db with validators }

/-- The update of one row for one change. -/
def changeState (change : ValidatorStateChange) (row : ValidatorDb) : ValidatorDb :=
  if row.namadaAddress = change.address.toString ctx.sdk then { row with state := change.state }
  else row

lemma namadaAddress_changeState (change : ValidatorStateChange) (row : ValidatorDb) :
    (changeState ctx change row).namadaAddress = row.namadaAddress := by
  unfold changeState
  split <;> rfl

/-- `upsert_validator_state` -/
def upsertValidatorState (changes : List ValidatorStateChange) (db : ChainDb) : ChainDb :=
  let update (validators : Table ValidatorDb.namadaAddress) (change : ValidatorStateChange) :=
    validators.mapRows (changeState ctx change) (namadaAddress_changeState ctx change)
  { db with validators := changes.foldl update db.validators }

/-- `clear_bonds`. No addresses clear nothing. -/
def clearBonds (addresses : List (Id × Id)) (db : ChainDb) : ChainDb :=
  if addresses = [] then db
  else { db with bonds := deleteRows db.bonds fun row => decide (∃ pair ∈ addresses,
    row.address = pair.1.toString ctx.sdk ∧ row.validator = pair.2.toString ctx.sdk) }

/-- `BondInsertDb::from_bond`, with the validator looked up by its address. -/
def BondDb.fromBond (bond : Pos.Bond) : BondDb where
  address := bond.source.toString ctx.sdk
  validator := bond.target.toString ctx.sdk
  rawAmount := bond.amount
  start := bond.start.toInt32

/-- `bonds::all_columns.len()` -/
def bondsColCount : ℕ := 5

/-- `insert_bonds_chunk`. An unknown validator is a panic. -/
def insertBondsChunk (db : ChainDb) (bonds : List Pos.Bond) : Option ChainDb := do
  let rows := bonds.map (BondDb.fromBond ctx)
  if ∀ row ∈ rows, row.validator ∈ db.validators.keys then
    let bonds ← Table.upsert setBondAmount db.bonds rows
    return { db with bonds }
  else none

/-- `insert_bonds` -/
def insertBonds (bonds : List Pos.Bond) (db : ChainDb) : Option ChainDb :=
  (chunks (Votes.MAX_PARAM_SIZE / bondsColCount) bonds).foldlM (insertBondsChunk ctx) db

/-- `UnbondInsertDb::from_unbond`, with the validator looked up by its address. -/
def UnbondDb.fromUnbond (unbond : Pos.Unbond) : UnbondDb where
  address := unbond.source.toString ctx.sdk
  validator := unbond.target.toString ctx.sdk
  rawAmount := unbond.amount
  withdrawEpoch := unbond.withdrawAt.toInt32

/-- `unbonds::all_columns.len()` -/
def unbondsColCount : ℕ := 5

/-- `insert_unbonds_chunk`. An unknown validator is a panic. -/
def insertUnbondsChunk (db : ChainDb) (unbonds : List Pos.Unbond) : Option ChainDb := do
  let rows := unbonds.map (UnbondDb.fromUnbond ctx)
  if ∀ row ∈ rows, row.validator ∈ db.validators.keys then
    let unbonds ← Table.upsert setUnbondAmount db.unbonds rows
    return { db with unbonds }
  else none

/-- `insert_unbonds` -/
def insertUnbonds (unbonds : List Pos.Unbond) (db : ChainDb) : Option ChainDb :=
  (chunks (Votes.MAX_PARAM_SIZE / unbondsColCount) unbonds).foldlM (insertUnbondsChunk ctx) db

/-- `RedelegationInsertDb::from_redelegation`, with the validator looked up by its address. -/
def RedelegationDb.fromRedelegation (redelegation : Pos.Redelegation) : RedelegationDb where
  delegator := redelegation.delegator.toString ctx.sdk
  validator := redelegation.validator.toString ctx.sdk
  endEpoch := redelegation.endEpoch.toInt32

/-- `insert_redelegations`. An unknown validator is an error. -/
def insertRedelegations (redelegations : List Pos.Redelegation) (db : ChainDb) :
    Option ChainDb := do
  let rows := redelegations.map (RedelegationDb.fromRedelegation ctx)
  if ∀ row ∈ rows, row.validator ∈ db.validators.keys then
    let redelegations ← Table.upsert setEndEpoch db.redelegations rows
    return { db with redelegations }
  else none

/-- The rows that `remove_withdraws` selects: the address of one withdrawal with the validator
of any. -/
def withdrawn (currentEpoch : Epoch) (addresses : List UnbondAddresses) (row : UnbondDb) : Bool :=
  decide (row.address ∈ addresses.map fun unbond => unbond.source.toString ctx.sdk) &&
    decide (row.validator ∈ addresses.map fun unbond => unbond.validator.toString ctx.sdk) &&
    decide (row.withdrawEpoch ≤ currentEpoch.toInt32)

/-- `remove_withdraws` -/
def removeWithdraws (currentEpoch : Epoch) (addresses : List UnbondAddresses) (db : ChainDb) :
    ChainDb :=
  { db with unbonds := deleteRows db.unbonds (withdrawn ctx currentEpoch addresses) }

/-- The update of one row for one claim. -/
def claim (claimer : Id × Id) (row : PosRewardDb) : PosRewardDb :=
  if row.owner = claimer.1.toString ctx.sdk ∧ row.validator = claimer.2.toString ctx.sdk then
    { row with claimed := true }
  else row

lemma key_claim (claimer : Id × Id) (row : PosRewardDb) :
    (claim ctx claimer row).key = row.key := by
  unfold claim
  split <;> rfl

/-- `delete_claimed_rewards` -/
def deleteClaimedRewards (rewardClaimers : List (Id × Id)) (db : ChainDb) : ChainDb :=
  let update (posRewards : Table PosRewardDb.key) (claimer : Id × Id) :=
    posRewards.mapRows (claim ctx claimer) (key_claim ctx claimer)
  if rewardClaimers = [] then db
  else { db with posRewards := rewardClaimers.foldl update db.posRewards }

/-- The update of one row for one change; a column without a new value is kept. -/
def changeMetadata (change : ValidatorMetadataChange) (row : ValidatorDb) : ValidatorDb :=
  if row.namadaAddress = change.address.toString ctx.sdk then
    { row with
      commission := change.commission.getD row.commission
      name := change.name.or row.name
      email := change.email.or row.email
      website := change.website.or row.website
      description := change.description.or row.description
      discordHandle := change.discordHandler.or row.discordHandle
      avatar := change.avatar.or row.avatar }
  else row

lemma namadaAddress_changeMetadata (change : ValidatorMetadataChange) (row : ValidatorDb) :
    (changeMetadata ctx change row).namadaAddress = row.namadaAddress := by
  unfold changeMetadata
  split <;> rfl

/-- `update_validator_metadata` -/
def updateValidatorMetadata (metadataChange : List ValidatorMetadataChange) (db : ChainDb) :
    ChainDb :=
  let update (validators : Table ValidatorDb.namadaAddress) (change : ValidatorMetadataChange) :=
    validators.mapRows (changeMetadata ctx change) (namadaAddress_changeMetadata ctx change)
  { db with validators := metadataChange.foldl update db.validators }

/-- `RevealedPkInsertDb::from` -/
def RevealedPkDb.ofEntry (entry : PublicKey × Id) : RevealedPkDb where
  pk := entry.1.text
  address := entry.2.toString ctx.sdk

/-- `insert_revealed_pks` -/
def insertRevealedPks (revealedPks : List (PublicKey × Id)) (db : ChainDb) : ChainDb :=
  { db with
    revealedPks := db.revealedPks.insertOrIgnore (revealedPks.map (RevealedPkDb.ofEntry ctx)) }

/-- `From<MaspRewardData> for MaspRewardDataInsertDb` -/
def MaspRewardDataDb.ofData (data : MaspRewardData) : MaspRewardDataDb where
  token := data.address.toString ctx.sdk
  maxRewardRate := data.maxRewardRate
  kpGain := data.kpGain
  kdGain := data.kdGain
  lockedAmountTarget := data.lockedAmountTarget

/-- `insert_masp_rates` -/
def insertMaspRates (maspRewardData : List MaspRewardData) (db : ChainDb) : Option ChainDb := do
  let maspRates ← Table.upsert setMaspRate db.maspRates
    (maspRewardData.map (MaspRewardDataDb.ofData ctx))
  return { db with maspRates }

/-- `From<(CrawlerName, ChainCrawlerState)> for ChainStateInsertDb` -/
def ChainCrawlerStateDb.ofState (state : ChainCrawlerState) : ChainCrawlerStateDb where
  lastProcessedBlock := state.lastProcessedBlock.toInt32
  lastProcessedEpoch := state.lastProcessedEpoch.toInt32
  firstBlockInEpoch := state.firstBlockInEpoch.toInt32

/-- `upsert_crawler_state` -/
def upsertCrawlerState (state : ChainCrawlerState) (db : ChainDb) : ChainDb :=
  { db with crawlerState := some (.ofState state) }

/-- `get_pgf_receipients_balance_changes` -/
def getPgfReceipientsBalanceChanges (nativeToken : Id) (db : ChainDb) : List BalanceChange :=
  db.publicGoodFunding.rows.map fun row => ⟨.account row.receipient,.native nativeToken⟩

end

section
variable {ctx : Context} {db db' : ChainDb}

/-- Where a reference is part of the key, rows may be inserted in several statements. -/
lemma references_append {ρ κ ι : Type*} {key : ρ → κ} [DecidableEq κ] {table : Table key}
    {rs ss : List ρ} {reference : ρ → ι} {targets : List ι}
    (hkey : ∀ r s, key r = key s → reference r = reference s) :
    References table (rs ++ ss) reference targets ↔
      References table rs reference targets ∧
        References (table.insertOrIgnore rs) ss reference targets := by
  unfold References
  rw [List.forall_mem_append]
  refine and_congr_right fun hrs => forall₂_congr fun s hs => ?_
  rw [Table.mem_keys_insertOrIgnore]
  constructor
  · exact fun h => h.imp Or.inl id
  · rintro ((h | h) | h)
    · exact .inl h
    · obtain ⟨r,hr,hrs'⟩ := List.mem_map.mp h
      obtain h | h := hrs r hr
      · exact .inl (hrs' ▸ h)
      · exact .inr (hkey r s hrs' ▸ h)
    · exact .inr h

theorem insertTokens_eq_some {tokens : List Token} :
    insertTokens ctx tokens db = some db' ↔
      (db.tokens.insertOrIgnore (tokens.map (TokenDb.ofToken ctx))).rows.countP
          (fun row => row.tokenType = .native) ≤ 1 ∧
      References db.ibcTokens (tokens.filterMap (IbcTokenDb.fromToken ctx)) IbcTokenDb.address
        (db.tokens.insertOrIgnore (tokens.map (TokenDb.ofToken ctx))).keys ∧
      { db with
        tokens := db.tokens.insertOrIgnore (tokens.map (TokenDb.ofToken ctx))
        ibcTokens := db.ibcTokens.insertOrIgnore
          (tokens.filterMap (IbcTokenDb.fromToken ctx)) } = db' := by
  simp [insertTokens,and_assoc]

theorem insertTokenSupplies_eq_some {supplies : List TokenSupply} :
    insertTokenSupplies supplies db = some db' ↔
      (∀ row ∈ supplies.map TokenSuppliesDb.ofSupply, checkEffectiveForTokenType db.tokens row) ∧
      References db.tokenSupplies (supplies.map TokenSuppliesDb.ofSupply) TokenSuppliesDb.address
        db.tokens.keys ∧
      { db with
        tokenSupplies := db.tokenSupplies.insertOrIgnore
          (supplies.map TokenSuppliesDb.ofSupply) } = db' := by
  unfold insertTokenSupplies
  generalize supplies.map TokenSuppliesDb.ofSupply = rows
  by_cases hrows : rows = []
  · subst hrows
    simp [References]
  · simp [hrows,and_assoc]

theorem insertIbcRateLimits_eq_some {limits : List IbcRateLimit} :
    insertIbcRateLimits limits db = some db' ↔
      References db.ibcRateLimits (limits.map IbcRateLimitsDb.ofLimit) IbcRateLimitsDb.address
        db.tokens.keys ∧
      { db with
        ibcRateLimits := db.ibcRateLimits.insertOrIgnore
          (limits.map IbcRateLimitsDb.ofLimit) } = db' := by
  unfold insertIbcRateLimits
  generalize limits.map IbcRateLimitsDb.ofLimit = rows
  by_cases hrows : rows = []
  · subst hrows
    simp [References]
  · simp [hrows]

theorem upsertBlock_eq_some {block : Block} :
    upsertBlock ctx block db = some db' ↔
      (∀ other ∈ db.blocks.rows, other.hash = (BlockDb.ofBlock ctx.sdk block).hash →
        other.height = (BlockDb.ofBlock ctx.sdk block).height) ∧
      ∃ blocks, Table.put replaceBlock db.blocks (BlockDb.ofBlock ctx.sdk block) = some blocks ∧
        { db with blocks } = db' := by
  simp [upsertBlock,Option.bind_eq_some_iff]

lemma foldlM_insertBalancesChunk {lists : List (List Balance)} :
    lists.foldlM (insertBalancesChunk ctx) db = some db' ↔
      References db.balanceChanges (lists.flatten.map (BalanceChangesDb.fromBalance ctx))
        BalanceChangesDb.token db.tokens.keys ∧
      References db.balanceChanges (lists.flatten.map (BalanceChangesDb.fromBalance ctx))
        BalanceChangesDb.height db.blocks.keys ∧
      { db with
        balanceChanges := db.balanceChanges.insertOrIgnore
          (lists.flatten.map (BalanceChangesDb.fromBalance ctx)) } = db' := by
  induction lists generalizing db with
  | nil => simp [References]
  | cons list lists ih =>
    have htoken : ∀ r s : BalanceChangesDb, r.key = s.key → r.token = s.token :=
      fun r s h => congrArg (fun key => key.2.1) h
    have hheight : ∀ r s : BalanceChangesDb, r.key = s.key → r.height = s.height :=
      fun r s h => congrArg (fun key => key.2.2) h
    rw [List.foldlM_cons,List.flatten_cons,List.map_append,references_append htoken,
      references_append hheight,Table.insertOrIgnore_append]
    constructor
    · intro h
      obtain ⟨mid,hmid,hrest⟩ := Option.bind_eq_some_iff.mp h
      unfold insertBalancesChunk at hmid
      dsimp only at hmid
      split at hmid
      · rename_i hrefs
        cases hmid
        obtain ⟨ht,hh,hdb⟩ := ih.mp hrest
        exact ⟨⟨hrefs.1,ht⟩,⟨hrefs.2,hh⟩,hdb⟩
      · contradiction
    · rintro ⟨⟨htfirst,ht⟩,⟨hhfirst,hh⟩,hdb⟩
      refine Option.bind_eq_some_iff.mpr ⟨_,if_pos ⟨htfirst,hhfirst⟩,ih.mpr ?_⟩
      exact ⟨ht,hh,hdb⟩

theorem insertBalances_eq_some {balances : List Balance} :
    insertBalances ctx balances db = some db' ↔
      References db.balanceChanges (balances.map (BalanceChangesDb.fromBalance ctx))
        BalanceChangesDb.token db.tokens.keys ∧
      References db.balanceChanges (balances.map (BalanceChangesDb.fromBalance ctx))
        BalanceChangesDb.height db.blocks.keys ∧
      { db with
        balanceChanges := db.balanceChanges.insertOrIgnore
          (balances.map (BalanceChangesDb.fromBalance ctx)) } = db' := by
  rw [insertBalances,foldlM_insertBalancesChunk,flatten_chunks]

theorem insertProposals_eq_some {proposals : List (GovernanceProposal × TallyType)} :
    insertProposals ctx proposals db = some db' ↔
      ∃ governanceProposals, Governance.insertProposals ctx.sdk db.governanceProposals proposals =
        some governanceProposals ∧ { db with governanceProposals } = db' := by
  simp [insertProposals,Option.bind_eq_some_iff]

theorem insertVotes_eq_some {votes : List GovernanceVote} :
    insertVotes ctx votes db = some db' ↔
      ∃ governanceVotes, Votes.insertVotes ctx.sdk db.governanceProposals.keys.toFinset
        db.governanceVotes votes = some governanceVotes ∧ { db with governanceVotes } = db' := by
  simp [insertVotes,Option.bind_eq_some_iff]

theorem upsertValidators_eq_some {validators : List Validator} :
    upsertValidators ctx validators db = some db' ↔
      ∃ rows, validators.mapM (ValidatorDb.fromValidator ctx) = some rows ∧
      ∃ validators, Table.upsert setValidator db.validators rows = some validators ∧
        { db with validators } = db' := by
  simp [upsertValidators,Option.bind_eq_some_iff]

/-- The chunks of `insert_bonds` together: every validator is known, no chunk has a key twice,
and one row is put after the other. -/
theorem insertBonds_eq_some {bonds : List Pos.Bond} :
    insertBonds ctx bonds db = some db' ↔
      (∀ bond ∈ bonds, (BondDb.fromBond ctx bond).validator ∈ db.validators.keys) ∧
      (∀ chunk ∈ chunks (Votes.MAX_PARAM_SIZE / bondsColCount) bonds,
        (chunk.map fun bond => (BondDb.fromBond ctx bond).key).Nodup) ∧
      ∃ rows, (bonds.map (BondDb.fromBond ctx)).foldlM (Table.put setBondAmount) db.bonds =
        some rows ∧ { db with bonds := rows } = db' := by
  have hstep : ∀ db list db', insertBondsChunk ctx db list = some db' ↔
      (∀ bond ∈ list, (BondDb.fromBond ctx bond).validator ∈ db.validators.keys) ∧
        ∃ rows, Table.upsert setBondAmount db.bonds (list.map (BondDb.fromBond ctx)) = some rows ∧
          { db with bonds := rows } = db' := by
    intro db list db'
    simp [insertBondsChunk,Option.bind_eq_some_iff]
  rw [insertBonds,@foldlM_part _ _ _ (insertBondsChunk ctx) ChainDb.bonds
    (fun db rows => { db with bonds := rows })
    (fun db list => ∀ bond ∈ list, (BondDb.fromBond ctx bond).validator ∈ db.validators.keys)
    (fun rows list => Table.upsert setBondAmount rows (list.map (BondDb.fromBond ctx))) hstep
    (fun _ _ => rfl) (fun _ _ _ => rfl) (fun _ => rfl) (fun _ _ _ => Iff.rfl)]
  simp only [Table.foldlM_upsert_eq_some,flatten_chunks,and_assoc,exists_and_left]
  exact and_congr forall_mem_chunks Iff.rfl

/-- The chunks of `insert_unbonds` together. -/
theorem insertUnbonds_eq_some {unbonds : List Pos.Unbond} :
    insertUnbonds ctx unbonds db = some db' ↔
      (∀ unbond ∈ unbonds, (UnbondDb.fromUnbond ctx unbond).validator ∈ db.validators.keys) ∧
      (∀ chunk ∈ chunks (Votes.MAX_PARAM_SIZE / unbondsColCount) unbonds,
        (chunk.map fun unbond => (UnbondDb.fromUnbond ctx unbond).key).Nodup) ∧
      ∃ rows, (unbonds.map (UnbondDb.fromUnbond ctx)).foldlM (Table.put setUnbondAmount)
        db.unbonds = some rows ∧ { db with unbonds := rows } = db' := by
  have hstep : ∀ db list db', insertUnbondsChunk ctx db list = some db' ↔
      (∀ unbond ∈ list, (UnbondDb.fromUnbond ctx unbond).validator ∈ db.validators.keys) ∧
        ∃ rows, Table.upsert setUnbondAmount db.unbonds (list.map (UnbondDb.fromUnbond ctx)) =
          some rows ∧ { db with unbonds := rows } = db' := by
    intro db list db'
    simp [insertUnbondsChunk,Option.bind_eq_some_iff]
  rw [insertUnbonds,@foldlM_part _ _ _ (insertUnbondsChunk ctx) ChainDb.unbonds
    (fun db rows => { db with unbonds := rows })
    (fun db list => ∀ unbond ∈ list,
      (UnbondDb.fromUnbond ctx unbond).validator ∈ db.validators.keys)
    (fun rows list => Table.upsert setUnbondAmount rows (list.map (UnbondDb.fromUnbond ctx))) hstep
    (fun _ _ => rfl) (fun _ _ _ => rfl) (fun _ => rfl) (fun _ _ _ => Iff.rfl)]
  simp only [Table.foldlM_upsert_eq_some,flatten_chunks,and_assoc,exists_and_left]
  exact and_congr forall_mem_chunks Iff.rfl

theorem insertRedelegations_eq_some {redelegations : List Pos.Redelegation} :
    insertRedelegations ctx redelegations db = some db' ↔
      (∀ redelegation ∈ redelegations,
        (RedelegationDb.fromRedelegation ctx redelegation).validator ∈ db.validators.keys) ∧
      ∃ rows, Table.upsert setEndEpoch db.redelegations
        (redelegations.map (RedelegationDb.fromRedelegation ctx)) = some rows ∧
          { db with redelegations := rows } = db' := by
  simp [insertRedelegations,Option.bind_eq_some_iff]

theorem insertMaspRates_eq_some {maspRewardData : List MaspRewardData} :
    insertMaspRates ctx maspRewardData db = some db' ↔
      ∃ maspRates, Table.upsert setMaspRate db.maspRates
        (maspRewardData.map (MaspRewardDataDb.ofData ctx)) = some maspRates ∧
          { db with maspRates } = db' := by
  simp [insertMaspRates,Option.bind_eq_some_iff]

/-- The pairs that `clear_bonds` names. -/
def Cleared (ctx : Context) (addresses : List (Id × Id)) (row : BondDb) : Prop :=
  ∃ pair ∈ addresses, row.address = pair.1.toString ctx.sdk ∧
    row.validator = pair.2.toString ctx.sdk

instance (addresses : List (Id × Id)) (row : BondDb) : Decidable (Cleared ctx addresses row) :=
  inferInstanceAs (Decidable (∃ pair ∈ addresses, _))

theorem clearBonds_eq (addresses : List (Id × Id)) (db : ChainDb) :
    clearBonds ctx addresses db =
      { db with bonds := deleteRows db.bonds fun row => decide (Cleared ctx addresses row) } := by
  unfold clearBonds
  split
  · rename_i hnil
    have hsame : (deleteRows db.bonds fun row => decide (Cleared ctx addresses row)) = db.bonds := by
      apply Table.ext_rows
      apply List.filter_eq_self.mpr
      intro row hrow
      simp [Cleared,hnil]
    rw [hsame]
  · rfl

/-- The rewards after a list of claims. -/
def claimed (ctx : Context) (posRewards : Table PosRewardDb.key) (rewardClaimers : List (Id × Id)) :
    Table PosRewardDb.key :=
  rewardClaimers.foldl (fun posRewards claimer =>
    posRewards.mapRows (claim ctx claimer) (key_claim ctx claimer)) posRewards

theorem deleteClaimedRewards_eq (rewardClaimers : List (Id × Id)) (db : ChainDb) :
    deleteClaimedRewards ctx rewardClaimers db =
      { db with posRewards := claimed ctx db.posRewards rewardClaimers } := by
  unfold deleteClaimedRewards
  dsimp only
  split
  · rename_i hnil
    subst hnil
    rfl
  · rfl

end
end NamadaIndexer.Chain
