import NamadaIndexer.Foundation.Runs
import NamadaIndexer.Chain.Repository

/-! The processing of one block by the chain crawler: everything is queried first, and one
transaction stores it. The initial query fills the tables from the state of the node. -/
namespace NamadaIndexer.Chain
open NamadaIndexer.Foundation NamadaIndexer.Shared NamadaIndexer.Governance
open NamadaIndexer.Shared.Crawler (MainError)
open NamadaIndexer.Transactions (BlockDb replaceBlock References)

/-- The balance changes of a block in the order of its transactions. -/
def changesInOrder (sdk : Sdk) (block : Block) (nativeToken : Id) (ibcTokens : List Token) :
    Panicking (List BalanceChange) :=
  List.flatten <$> block.transactions.mapM (block.changesOf sdk nativeToken ibcTokens)

lemma addressesWithBalanceChange_eq (sdk : Sdk) (block : Block) (nativeToken : Id)
    (ibcTokens : List Token) :
    block.addressesWithBalanceChange sdk nativeToken ibcTokens =
      List.toFinset <$> changesInOrder sdk block nativeToken ibcTokens := by
  rw [changesInOrder,Block.addressesWithBalanceChange]
  cases block.transactions.mapM (block.changesOf sdk nativeToken ibcTokens) <;> rfl

/-- A block, with what the crawler knows about it and about the node. -/
structure Current where
  blockHeight : BlockHeight
  firstBlockInEpoch : BlockHeight
  checksums : Checksums
  nativeToken : Address
  epoch : Epoch
  block : Block

/-- `new_epoch`: the block is the first one of the epoch that the node is in. -/
def Current.newEpoch (current : Current) : Bool := current.firstBlockInEpoch == current.blockHeight

def Current.nativeId (ctx : Context) (current : Current) : Id :=
  .ofAddress ctx.sdk current.nativeToken

/-- What is queried for a block. -/
structure Gathered where
  current : Current
  changes : List BalanceChange
  tokenSupplies : List TokenSupply
  rateLimits : List IbcRateLimit
  maspRates : List MaspRewardData
  balances : List Balance
  proposals : List (GovernanceProposal × TallyType)
  bonds : List (Id × Id × Option Pos.Bond)
  redelegations : List Pos.Redelegation
  unbonds : List Pos.Unbond
  metadataChange : List ValidatorMetadataChange

section
variable (ctx : Context) (client : Client)

/-- `get_block` -/
def getBlock (checksums : Checksums) (nativeToken : Address) (cometbftBlock : CometbftBlock) :
    Attempt Block := do
  let blockResults ← mayPanic (BlockResult.ofResponse ctx.sdk cometbftBlock.events)
  let response := cometbftBlock.block
  let proposerAddressNamada ← orError .rpcError
    (client.ask (.validatorByTmAddr response.proposerAddress)
      (client.node.validatorByTmAddr response.proposerAddress))
  mayPanic (Block.ofResponse ctx.sdk ⟨ctx.toJson,checksums,blockResults,nativeToken⟩ response
    (proposerAddressNamada.map (Id.ofAddress ctx.sdk)) cometbftBlock.epoch
    cometbftBlock.blockHeight)

/-- The beginning of `crawling_fn`: the block exists, and is read with the checksums that the
crawler holds or queries at a new epoch. -/
def readBlock (checksums : Checksums) (blockHeight : BlockHeight) : Attempt Current := do
  let lastBlockHeight ← orError .rpcError (client.ask .lastBlock client.node.lastBlock)
  if lastBlockHeight < blockHeight then throw .noAction
  let firstBlockInEpoch ← orError .rpcError
    (client.ask .firstBlockInEpoch client.node.head.firstBlockInEpoch)
  let checksums ← mayPanic (refreshChecksums ctx.sdk checksums blockHeight
    ⟨firstBlockInEpoch,client.node.head.txCodeHash⟩)
  let nativeToken ← orError .rpcError (client.ask .nativeToken client.node.nativeToken)
  let cometbftBlock ← orError .database
    (client.ask (.cometbftBlock blockHeight) (client.node.cometbftBlock blockHeight))
  let block ← getBlock ctx client checksums nativeToken cometbftBlock
  return ⟨blockHeight,firstBlockInEpoch,checksums,nativeToken,cometbftBlock.epoch,block⟩

def Current.ibcTokens (current : Current) : List Token :=
  (ctx.order.visit (current.block.successfulInnerTxs.filterMap Block.ibcTokenOf)).map Token.ibc

/-- The balance changes at the start of an epoch: the validators of the epoch before. -/
def validatorChanges (current : Current) : Option (List BalanceChange) :=
  if current.newEpoch then
    getAllConsensusValidatorsAddressesAt ctx client
      (if current.epoch = 0 then 0 else current.epoch - 1) (current.nativeId ctx)
  else some []

/-- The balance changes at the start of an epoch: the recipients of public good funding. -/
def pgfChanges (current : Current) (db : ChainDb) : Option (List BalanceChange) :=
  if current.newEpoch then
    client.ask .pgfRecipients (getPgfReceipientsBalanceChanges (current.nativeId ctx) db)
  else some []

/-- The change of the proposer of the block. -/
def proposerChanges (current : Current) : List BalanceChange :=
  (current.block.header.proposerAddressNamada.map fun address =>
    (⟨.account address,.native (current.nativeId ctx)⟩ : BalanceChange)).toList

/-- The limits at the start of an epoch. -/
def rateLimitsOf (current : Current) : Option (List IbcRateLimit) :=
  if current.newEpoch then do
    let tokens ← queryTokens ctx client
    getRateLimitsForTokens ctx client tokens current.epoch
  else some []

/-- The reward rates at the start of an epoch. -/
def maspRatesOf (current : Current) : Option (List MaspRewardData) :=
  if current.newEpoch then client.ask .maspRates client.node.maspRates else some []

/-- The balances that are queried for a block, `all_balance_changed_addresses`. -/
def allBalanceChanges (current : Current) (db : ChainDb) (addresses : List BalanceChange) :
    Attempt (List BalanceChange) := do
  let validatorsAddresses ← orError .rpcError (validatorChanges ctx client current)
  let pgfReceipientAddresses ← orError .database (pgfChanges ctx client current db)
  return addresses ++ proposerChanges ctx current ++ pgfReceipientAddresses ++
    validatorsAddresses ++ queryNativeAddressesBalanceChange ctx (.native (current.nativeId ctx))

/-- The middle of `crawling_fn`: every query for a block. -/
def gather (current : Current) (db : ChainDb) : Attempt Gathered := do
  let block := current.block
  let maspRates ← orError .rpcError (maspRatesOf client current)
  let addresses ← mayPanic (changesInOrder ctx.sdk block (current.nativeId ctx)
    (current.ibcTokens ctx))
  let tokenSupplies ← orError .rpcError
    (queryTokenSupplies ctx client (addresses.map BalanceChange.token) current.epoch)
  let changes ← allBalanceChanges ctx client current db addresses
  let balances ← mayPanic (queryBalance ctx client changes current.blockHeight)
  let nextProposalId ← queryNextGovernanceId client current.blockHeight
  let proposals ← mayPanic (queryTallies ctx client
    (block.governanceProposal ctx.sdk ctx.format nextProposalId))
  let bondAddresses := block.successfulInnerTxs.flatMap (Block.bondAddressesOf ctx.sdk)
  let bonds ← mayPanic (queryBonds ctx client bondAddresses)
  let redelegations ← queryRedelegations ctx client bondAddresses
  let unbonds ← mayPanic (queryUnbonds ctx client
    (block.successfulInnerTxs.filterMap (Block.unbondAddressesOf ctx.sdk)))
  let metadataChange ← mayPanic (block.validatorMetadata ctx.sdk)
  let rateLimits ← orError .rpcError (rateLimitsOf ctx client current)
  return ⟨current,changes,tokenSupplies,rateLimits,maspRates,balances,proposals,bonds,
    redelegations,unbonds,metadataChange⟩

def Gathered.votes (gathered : Gathered) : List GovernanceVote :=
  ctx.order.visit (gathered.current.block.votesInOrder ctx.sdk)

def Gathered.validators (gathered : Gathered) : List Validator :=
  ctx.order.visit
    (gathered.current.block.successfulInnerTxs.filterMap (Block.newValidatorOf ctx.sdk))

def Gathered.validatorsStateChange (gathered : Gathered) : List ValidatorStateChange :=
  ctx.order.visit
    (gathered.current.block.successfulInnerTxs.filterMap (Block.validatorStateOf ctx.sdk))

def Gathered.removedBondsAddresses (gathered : Gathered) : List (Id × Id) :=
  gathered.bonds.map fun entry => (entry.1,entry.2.1)

def Gathered.bondsUpdates (gathered : Gathered) : List Pos.Bond :=
  gathered.bonds.filterMap fun entry => entry.2.2

def Gathered.withdrawAddresses (gathered : Gathered) : List UnbondAddresses :=
  ctx.order.visit
    (gathered.current.block.successfulInnerTxs.filterMap (Block.withdrawAddressesOf ctx.sdk))

def Gathered.rewardClaimers (gathered : Gathered) : List (Id × Id) :=
  ctx.order.visit
    (gathered.current.block.successfulInnerTxs.filterMap (Block.posRewardOf ctx.sdk))

def Gathered.crawlerState (gathered : Gathered) : ChainCrawlerState where
  lastProcessedBlock := gathered.current.blockHeight
  lastProcessedEpoch := gathered.current.epoch
  firstBlockInEpoch := gathered.current.firstBlockInEpoch

/-- The end of `crawling_fn`: the transaction. -/
def commit (shouldUpdateCrawlerState : Bool) (gathered : Gathered) (db : ChainDb) :
    Option ChainDb := do
  let current := gathered.current
  let db ← insertTokens ctx (current.ibcTokens ctx) db
  let db ← insertTokenSupplies gathered.tokenSupplies db
  let db ← insertIbcRateLimits gathered.rateLimits db
  let db ← upsertBlock ctx current.block db
  let db ← insertBalances ctx gathered.balances db
  let db ← insertProposals ctx gathered.proposals db
  let db ← insertVotes ctx (gathered.votes ctx) db
  let db ← upsertValidators ctx (gathered.validators ctx) db
  let db := upsertValidatorState ctx (gathered.validatorsStateChange ctx) db
  -- all the bonds are removed first and the new ones inserted then
  let db := clearBonds ctx gathered.removedBondsAddresses db
  let db ← insertBonds ctx gathered.bondsUpdates db
  let db ← insertUnbonds ctx gathered.unbonds db
  let db ← insertRedelegations ctx gathered.redelegations db
  let db := removeWithdraws ctx current.epoch (gathered.withdrawAddresses ctx) db
  let db := deleteClaimedRewards ctx (gathered.rewardClaimers ctx) db
  let db := updateValidatorMetadata ctx gathered.metadataChange db
  let db := insertRevealedPks ctx current.block.revealedPks db
  let db ← insertMaspRates ctx gathered.maspRates db
  return if shouldUpdateCrawlerState then upsertCrawlerState gathered.crawlerState db else db

/-- `crawling_fn`. Where it ends with an error or a panic, the database is as it was, up to
the timestamp of the crawler. -/
def crawlingFn (checksums : Checksums) (blockHeight : BlockHeight)
    (shouldUpdateCrawlerState : Bool) (db : ChainDb) : Attempt ChainDb := do
  let current ← readBlock ctx client checksums blockHeight
  let gathered ← gather ctx client current db
  orError .database (commit ctx shouldUpdateCrawlerState gathered db)

/-- What the initial query asks the node for. -/
structure InitialData where
  current : Current
  tokens : List Token
  rateLimits : List IbcRateLimit
  tokenSupplies : List TokenSupply
  balances : List Balance
  validatorSet : List Validator
  redelegations : List Pos.Redelegation
  bonds : List Pos.Bond
  unbonds : List Pos.Unbond
  proposals : List (GovernanceProposal × TallyType)
  votes : List GovernanceVote
  maspRates : List MaspRewardData

/-- The block at the head of the node, read with the checksums that the crawler holds. -/
def readLastBlock (checksums : Checksums) : Attempt Current := do
  let blockHeight ← orError .rpcError (client.ask .lastBlock client.node.lastBlock)
  let firstBlockInEpoch ← orError .rpcError
    (client.ask .firstBlockInEpoch client.node.head.firstBlockInEpoch)
  let nativeToken ← orError .rpcError (client.ask .nativeToken client.node.nativeToken)
  let cometbftBlock ← orError .database
    (client.ask (.cometbftBlock blockHeight) (client.node.cometbftBlock blockHeight))
  let block ← getBlock ctx client checksums nativeToken cometbftBlock
  return ⟨blockHeight,firstBlockInEpoch,checksums,nativeToken,cometbftBlock.epoch,block⟩

/-- The queries of `try_initial_query`. -/
def gatherInitial (checksums : Checksums) : Attempt InitialData := do
  let current ← readLastBlock ctx client checksums
  let epoch := current.epoch
  let tokens ← orError .rpcError (queryTokens ctx client)
  let rateLimits ← orError .rpcError (getRateLimitsForTokens ctx client tokens epoch)
  let tokenSupplies ← orError .rpcError (queryTokenSupplies ctx client tokens epoch)
  let balances ← queryAllBalances ctx client current.blockHeight
  let pipelineLength ← orError .rpcError (client.ask .pipelineLength client.node.pipelineLength)
  -- it is possible to bond in advance
  let lastEpoch := epoch + pipelineLength.toUInt32
  let validatorSet ← orError .rpcError
    (client.ask (.validatorSet lastEpoch) (client.node.validatorSet lastEpoch))
  let validators ← orError .rpcError
    (client.ask (.allValidators epoch) (client.node.allValidators epoch))
  let redelegations ← queryAllRedelegations ctx client (validators.map (Id.ofAddress ctx.sdk))
  let bondsAndUnbonds ← mayPanic (queryAllBondsAndUnbonds ctx client none none)
  let (bonds,unbonds) ← orError .rpcError bondsAndUnbonds
  let proposals ← orError .rpcError (client.ask .proposals client.node.proposals)
  let proposalsWithTally ← mayPanic (queryTallies ctx client proposals)
  let votes := queryAllVotes ctx client (proposals.map GovernanceProposal.id)
  let maspRates ← orError .rpcError (client.ask .maspRates client.node.maspRates)
  return ⟨current,tokens,rateLimits,tokenSupplies,balances,ctx.order.visit validatorSet,
    redelegations,bonds,unbonds,proposalsWithTally,votes,maspRates⟩

def InitialData.crawlerState (data : InitialData) : ChainCrawlerState where
  lastProcessedBlock := data.current.blockHeight
  lastProcessedEpoch := data.current.epoch
  firstBlockInEpoch := data.current.firstBlockInEpoch

/-- The transaction of `try_initial_query`. -/
def commitInitial (data : InitialData) (db : ChainDb) : Option ChainDb := do
  let db ← insertTokens ctx data.tokens db
  let db ← upsertBlock ctx data.current.block db
  let db ← insertTokenSupplies data.tokenSupplies db
  let db ← insertIbcRateLimits data.rateLimits db
  let db ← insertBalances ctx data.balances db
  let db ← insertProposals ctx data.proposals db
  let db ← insertVotes ctx data.votes db
  let db ← upsertValidators ctx data.validatorSet db
  let db ← insertBonds ctx data.bonds db
  let db ← insertUnbonds ctx data.unbonds db
  let db ← insertRedelegations ctx data.redelegations db
  let db ← insertMaspRates ctx data.maspRates db
  return upsertCrawlerState data.crawlerState db

/-- `try_initial_query` -/
def tryInitialQuery (checksums : Checksums) (db : ChainDb) : Attempt ChainDb := do
  let data ← gatherInitial ctx client checksums
  orError .database (commitInitial ctx data db)

end

section
variable {ctx : Context} {client : Client} {checksums : Checksums} {blockHeight : BlockHeight}
  {shouldUpdateCrawlerState : Bool} {db db' : ChainDb}

theorem ask_eq_some {α : Type} {query : Query} {answer a : α} :
    client.ask query answer = some a ↔ client.fails query = false ∧ answer = a := by
  unfold Client.ask
  cases client.fails query <;> simp

theorem run_orError_eq_ok {α : Type} {error : MainError} {x : Option α} {a : α} :
    (orError error x).run = .returns (.ok a) ↔ x = some a := by
  cases x with
  | none =>
    refine ⟨fun h => ?_,fun h => by contradiction⟩
    cases h
  | some b =>
    change Panicking.returns (Except.ok b) = .returns (.ok a) ↔ _
    simp

theorem run_mayPanic_eq_ok {α : Type} {x : Panicking α} {a : α} :
    (mayPanic x).run = .returns (.ok a) ↔ x = .returns a :=
  Panicking.run_lift_eq_ok

/-- What is known about a block that was read. -/
structure Reads (ctx : Context) (client : Client) (checksums : Checksums)
    (blockHeight : BlockHeight) (current : Current) : Prop where
  known : ¬ client.node.lastBlock < blockHeight
  height : current.blockHeight = blockHeight
  firstBlockInEpoch : current.firstBlockInEpoch = client.node.head.firstBlockInEpoch
  refreshed : refreshChecksums ctx.sdk checksums blockHeight client.node.head =
    .returns current.checksums
  nativeToken : current.nativeToken = client.node.nativeToken
  epoch : current.epoch = (client.node.cometbftBlock blockHeight).epoch
  block : (getBlock ctx client current.checksums client.node.nativeToken
    (client.node.cometbftBlock blockHeight)).run = .returns (.ok current.block)

theorem reads_of_readBlock {current : Current}
    (h : (readBlock ctx client checksums blockHeight).run = .returns (.ok current)) :
    Reads ctx client checksums blockHeight current := by
  unfold readBlock at h
  obtain ⟨last,hlast,h⟩ := Panicking.run_bind_eq_ok.mp h
  obtain ⟨-,rfl⟩ := ask_eq_some.mp (run_orError_eq_ok.mp hlast)
  split at h
  · obtain ⟨_,hthrow,-⟩ := Panicking.run_bind_eq_ok.mp h
    cases hthrow
  · rename_i hexists
    obtain ⟨first,hfirst,h⟩ := Panicking.run_bind_eq_ok.mp h
    obtain ⟨-,rfl⟩ := ask_eq_some.mp (run_orError_eq_ok.mp hfirst)
    obtain ⟨refreshed,hrefreshed,h⟩ := Panicking.run_bind_eq_ok.mp h
    obtain ⟨native,hnative,h⟩ := Panicking.run_bind_eq_ok.mp h
    obtain ⟨-,rfl⟩ := ask_eq_some.mp (run_orError_eq_ok.mp hnative)
    obtain ⟨cometbft,hcometbft,h⟩ := Panicking.run_bind_eq_ok.mp h
    obtain ⟨-,rfl⟩ := ask_eq_some.mp (run_orError_eq_ok.mp hcometbft)
    obtain ⟨block,hblock,h⟩ := Panicking.run_bind_eq_ok.mp h
    obtain rfl := Panicking.run_pure_eq_ok.mp h
    exact ⟨hexists,rfl,rfl,run_mayPanic_eq_ok.mp hrefreshed,rfl,rfl,hblock⟩

/-- What is known about the answers that were gathered for a block. -/
structure Gathers (ctx : Context) (client : Client) (db : ChainDb) (gathered : Gathered) :
    Prop where
  maspRates : maspRatesOf client gathered.current = some gathered.maspRates
  changes : ∃ addresses,
    changesInOrder ctx.sdk gathered.current.block (gathered.current.nativeId ctx)
      (gathered.current.ibcTokens ctx) = .returns addresses ∧
    queryTokenSupplies ctx client (addresses.map BalanceChange.token) gathered.current.epoch =
      some gathered.tokenSupplies ∧
    (allBalanceChanges ctx client gathered.current db addresses).run =
      .returns (.ok gathered.changes)
  balances : queryBalance ctx client gathered.changes gathered.current.blockHeight =
    .returns gathered.balances
  proposals : ∃ nextProposalId,
    (queryNextGovernanceId client gathered.current.blockHeight).run =
      .returns (.ok nextProposalId) ∧
    queryTallies ctx client
      (gathered.current.block.governanceProposal ctx.sdk ctx.format nextProposalId) =
        .returns gathered.proposals
  bonds : queryBonds ctx client
    (gathered.current.block.successfulInnerTxs.flatMap (Block.bondAddressesOf ctx.sdk)) =
      .returns gathered.bonds
  redelegations : (queryRedelegations ctx client
    (gathered.current.block.successfulInnerTxs.flatMap (Block.bondAddressesOf ctx.sdk))).run =
      .returns (.ok gathered.redelegations)
  unbonds : queryUnbonds ctx client
    (gathered.current.block.successfulInnerTxs.filterMap (Block.unbondAddressesOf ctx.sdk)) =
      .returns gathered.unbonds
  metadataChange : gathered.current.block.validatorMetadata ctx.sdk =
    .returns gathered.metadataChange
  rateLimits : rateLimitsOf ctx client gathered.current = some gathered.rateLimits

theorem gathers_of_gather {current : Current} {gathered : Gathered}
    (h : (gather ctx client current db).run = .returns (.ok gathered)) :
    gathered.current = current ∧ Gathers ctx client db gathered := by
  unfold gather at h
  dsimp only at h
  obtain ⟨maspRates,hmaspRates,h⟩ := Panicking.run_bind_eq_ok.mp h
  obtain ⟨addresses,haddresses,h⟩ := Panicking.run_bind_eq_ok.mp h
  obtain ⟨tokenSupplies,hsupplies,h⟩ := Panicking.run_bind_eq_ok.mp h
  obtain ⟨changes,hchanges,h⟩ := Panicking.run_bind_eq_ok.mp h
  obtain ⟨balances,hbalances,h⟩ := Panicking.run_bind_eq_ok.mp h
  obtain ⟨nextProposalId,hnext,h⟩ := Panicking.run_bind_eq_ok.mp h
  obtain ⟨proposals,hproposals,h⟩ := Panicking.run_bind_eq_ok.mp h
  obtain ⟨bonds,hbonds,h⟩ := Panicking.run_bind_eq_ok.mp h
  obtain ⟨redelegations,hredelegations,h⟩ := Panicking.run_bind_eq_ok.mp h
  obtain ⟨unbonds,hunbonds,h⟩ := Panicking.run_bind_eq_ok.mp h
  obtain ⟨metadataChange,hmetadata,h⟩ := Panicking.run_bind_eq_ok.mp h
  obtain ⟨rateLimits,hlimits,h⟩ := Panicking.run_bind_eq_ok.mp h
  obtain rfl := Panicking.run_pure_eq_ok.mp h
  refine ⟨rfl,?_⟩
  exact
    { maspRates := run_orError_eq_ok.mp hmaspRates
      changes := ⟨addresses,run_mayPanic_eq_ok.mp haddresses,run_orError_eq_ok.mp hsupplies,
        hchanges⟩
      balances := run_mayPanic_eq_ok.mp hbalances
      proposals := ⟨nextProposalId,hnext,run_mayPanic_eq_ok.mp hproposals⟩
      bonds := run_mayPanic_eq_ok.mp hbonds
      redelegations := hredelegations
      unbonds := run_mayPanic_eq_ok.mp hunbonds
      metadataChange := run_mayPanic_eq_ok.mp hmetadata
      rateLimits := run_orError_eq_ok.mp hlimits }

/-- A call that succeeds has read the block, gathered every answer and committed them. -/
theorem crawlingFn_eq_ok
    (h : (crawlingFn ctx client checksums blockHeight shouldUpdateCrawlerState db).run =
      .returns (.ok db')) :
    ∃ gathered, (readBlock ctx client checksums blockHeight).run =
        .returns (.ok gathered.current) ∧
      Gathers ctx client db gathered ∧
      commit ctx shouldUpdateCrawlerState gathered db = some db' := by
  unfold crawlingFn at h
  obtain ⟨current,hcurrent,hrest⟩ := Panicking.run_bind_eq_ok.mp h
  obtain ⟨gathered,hgathered,hcommit⟩ := Panicking.run_bind_eq_ok.mp hrest
  obtain ⟨rfl,hgathers⟩ := gathers_of_gather hgathered
  exact ⟨gathered,hcurrent,hgathers,run_orError_eq_ok.mp hcommit⟩

/-- The same, about the block that is known to have been read. -/
theorem crawlingFn_eq_ok_of_read {current : Current}
    (hread : (readBlock ctx client checksums blockHeight).run = .returns (.ok current))
    (h : (crawlingFn ctx client checksums blockHeight shouldUpdateCrawlerState db).run =
      .returns (.ok db')) :
    ∃ gathered, gathered.current = current ∧ Gathers ctx client db gathered ∧
      commit ctx shouldUpdateCrawlerState gathered db = some db' := by
  obtain ⟨gathered,hread',hgathers,hcommit⟩ := crawlingFn_eq_ok h
  have hsame := Panicking.returns.inj (hread'.symm.trans hread)
  exact ⟨gathered,Except.ok.inj hsame,hgathers,hcommit⟩

/-- What the statements of a committed block check and do, table by table. -/
structure Committed (ctx : Context) (shouldUpdateCrawlerState : Bool) (gathered : Gathered)
    (db db' : ChainDb) : Prop where
  tokens : db'.tokens = db.tokens.insertOrIgnore
    ((gathered.current.ibcTokens ctx).map (TokenDb.ofToken ctx))
  native_unique : db'.tokens.rows.countP (fun row => row.tokenType = .native) ≤ 1
  ibcTokens : db'.ibcTokens = db.ibcTokens.insertOrIgnore
    ((gathered.current.ibcTokens ctx).filterMap (IbcTokenDb.fromToken ctx))
  supplies_checked : ∀ row ∈ gathered.tokenSupplies.map TokenSuppliesDb.ofSupply,
    checkEffectiveForTokenType db'.tokens row
  supplies_references : References db.tokenSupplies
    (gathered.tokenSupplies.map TokenSuppliesDb.ofSupply) TokenSuppliesDb.address db'.tokens.keys
  tokenSupplies : db'.tokenSupplies = db.tokenSupplies.insertOrIgnore
    (gathered.tokenSupplies.map TokenSuppliesDb.ofSupply)
  limits_references : References db.ibcRateLimits
    (gathered.rateLimits.map IbcRateLimitsDb.ofLimit) IbcRateLimitsDb.address db'.tokens.keys
  ibcRateLimits : db'.ibcRateLimits = db.ibcRateLimits.insertOrIgnore
    (gathered.rateLimits.map IbcRateLimitsDb.ofLimit)
  hash_unique : ∀ other ∈ db.blocks.rows,
    other.hash = (BlockDb.ofBlock ctx.sdk gathered.current.block).hash →
      other.height = (BlockDb.ofBlock ctx.sdk gathered.current.block).height
  blocks : Table.put replaceBlock db.blocks (BlockDb.ofBlock ctx.sdk gathered.current.block) =
    some db'.blocks
  token_references : References db.balanceChanges
    (gathered.balances.map (BalanceChangesDb.fromBalance ctx)) BalanceChangesDb.token
    db'.tokens.keys
  height_references : References db.balanceChanges
    (gathered.balances.map (BalanceChangesDb.fromBalance ctx)) BalanceChangesDb.height
    db'.blocks.keys
  balanceChanges : db'.balanceChanges = db.balanceChanges.insertOrIgnore
    (gathered.balances.map (BalanceChangesDb.fromBalance ctx))
  proposals : Governance.insertProposals ctx.sdk db.governanceProposals gathered.proposals =
    some db'.governanceProposals
  votes : Votes.insertVotes ctx.sdk db'.governanceProposals.keys.toFinset db.governanceVotes
    (gathered.votes ctx) = some db'.governanceVotes
  validators : ∃ rows stored, (gathered.validators ctx).mapM (ValidatorDb.fromValidator ctx) =
      some rows ∧
    Table.upsert setValidator db.validators rows = some stored ∧
    db'.validators.rows = stored.rows.map fun row =>
      gathered.metadataChange.foldl (fun row change => changeMetadata ctx change row)
        ((gathered.validatorsStateChange ctx).foldl (fun row change => changeState ctx change row)
          row)
  bonds_known : ∀ bond ∈ gathered.bondsUpdates,
    (BondDb.fromBond ctx bond).validator ∈ db'.validators.keys
  bonds : (gathered.bondsUpdates.map (BondDb.fromBond ctx)).foldlM (Table.put setBondAmount)
    (deleteRows db.bonds fun row => decide (Cleared ctx gathered.removedBondsAddresses row)) =
      some db'.bonds
  unbonds_known : ∀ unbond ∈ gathered.unbonds,
    (UnbondDb.fromUnbond ctx unbond).validator ∈ db'.validators.keys
  unbonds : ∃ rows, (gathered.unbonds.map (UnbondDb.fromUnbond ctx)).foldlM
      (Table.put setUnbondAmount) db.unbonds = some rows ∧
    db'.unbonds = deleteRows rows (withdrawn ctx gathered.current.epoch
      (gathered.withdrawAddresses ctx))
  redelegations : Table.upsert setEndEpoch db.redelegations
    (gathered.redelegations.map (RedelegationDb.fromRedelegation ctx)) = some db'.redelegations
  posRewards : db'.posRewards = claimed ctx db.posRewards (gathered.rewardClaimers ctx)
  revealedPks : db'.revealedPks = db.revealedPks.insertOrIgnore
    (gathered.current.block.revealedPks.map (RevealedPkDb.ofEntry ctx))
  maspRates : Table.upsert setMaspRate db.maspRates
    (gathered.maspRates.map (MaspRewardDataDb.ofData ctx)) = some db'.maspRates
  publicGoodFunding : db'.publicGoodFunding = db.publicGoodFunding
  crawlerState : db'.crawlerState =
    if shouldUpdateCrawlerState then some (.ofState gathered.crawlerState) else db.crawlerState

/-- The conditions of the statements of a committed block that its tables do not show. -/
structure Checked (ctx : Context) (gathered : Gathered) (db db' : ChainDb) : Prop where
  ibcTokens_references : References db.ibcTokens
    ((gathered.current.ibcTokens ctx).filterMap (IbcTokenDb.fromToken ctx)) IbcTokenDb.address
    db'.tokens.keys
  bond_chunks : ∀ chunk ∈ chunks (Votes.MAX_PARAM_SIZE / bondsColCount) gathered.bondsUpdates,
    (chunk.map fun bond => (BondDb.fromBond ctx bond).key).Nodup
  unbond_chunks : ∀ chunk ∈ chunks (Votes.MAX_PARAM_SIZE / unbondsColCount) gathered.unbonds,
    (chunk.map fun unbond => (UnbondDb.fromUnbond ctx unbond).key).Nodup
  redelegations_known : ∀ redelegation ∈ gathered.redelegations,
    (RedelegationDb.fromRedelegation ctx redelegation).validator ∈ db'.validators.keys

lemma updatedState_eq (state : ChainCrawlerState) (db : ChainDb) :
    (if shouldUpdateCrawlerState then upsertCrawlerState state db else db) =
      { db with
        crawlerState :=
          if shouldUpdateCrawlerState then some (.ofState state) else db.crawlerState } := by
  split <;> rfl

lemma committed_and_checked {gathered : Gathered}
    (h : commit ctx shouldUpdateCrawlerState gathered db = some db') :
    Committed ctx shouldUpdateCrawlerState gathered db db' ∧ Checked ctx gathered db db' := by
  unfold commit at h
  simp only [Option.bind_eq_bind,Option.bind_eq_some_iff,insertTokens_eq_some,
    insertTokenSupplies_eq_some,insertIbcRateLimits_eq_some,upsertBlock_eq_some,
    insertBalances_eq_some,insertProposals_eq_some,insertVotes_eq_some,upsertValidators_eq_some,
    insertBonds_eq_some,insertUnbonds_eq_some,insertRedelegations_eq_some,
    insertMaspRates_eq_some,clearBonds_eq,deleteClaimedRewards_eq,upsertValidatorState,
    removeWithdraws,updateValidatorMetadata,insertRevealedPks] at h
  obtain ⟨_,⟨hnative,hibc,rfl⟩,_,⟨hchecked,hsupplies,rfl⟩,_,⟨hlimits,rfl⟩,_,
    ⟨hhash,blocks,hblocks,rfl⟩,_,⟨htoken,hheight,rfl⟩,_,⟨proposals,hproposals,rfl⟩,_,
    ⟨votes,hvotes,rfl⟩,_,⟨rows,hrows,stored,hstored,rfl⟩,_,
    ⟨hbondsKnown,hbondChunks,bonds,hbonds,rfl⟩,_,
    ⟨hunbondsKnown,hunbondChunks,unbonds,hunbonds,rfl⟩,_,
    ⟨hdelegated,redelegations,hredelegations,rfl⟩,_,⟨maspRates,hmaspRates,rfl⟩,hdb⟩ := h
  rw [updatedState_eq] at hdb
  obtain rfl := Option.some.inj hdb
  -- the changes of validators keep their addresses
  have hkeys := Table.foldl_mapRows_keys (changeMetadata ctx) (namadaAddress_changeMetadata ctx)
    gathered.metadataChange
  refine ⟨?_,hibc,hbondChunks,hunbondChunks,fun redelegation hredelegation => ?_⟩
  refine
    { tokens := rfl
      native_unique := hnative
      ibcTokens := rfl
      supplies_checked := hchecked
      supplies_references := hsupplies
      tokenSupplies := rfl
      limits_references := hlimits
      ibcRateLimits := rfl
      hash_unique := hhash
      blocks := hblocks
      token_references := htoken
      height_references := hheight
      balanceChanges := rfl
      proposals := hproposals
      votes := hvotes
      validators := ⟨rows,stored,hrows,hstored,?_⟩
      bonds_known := ?_
      bonds := hbonds
      unbonds_known := ?_
      unbonds := ⟨unbonds,hunbonds,rfl⟩
      redelegations := hredelegations
      posRewards := rfl
      revealedPks := rfl
      maspRates := hmaspRates
      publicGoodFunding := rfl
      crawlerState := rfl }
  · dsimp only
    rw [Table.foldl_mapRows_rows (changeMetadata ctx) (namadaAddress_changeMetadata ctx),
      Table.foldl_mapRows_rows (changeState ctx) (namadaAddress_changeState ctx),List.map_map]
    rfl
  · intro bond hbond
    dsimp only
    rw [hkeys]
    exact hbondsKnown bond hbond
  · intro unbond hunbond
    dsimp only
    rw [hkeys]
    exact hunbondsKnown unbond hunbond
  · dsimp only
    rw [hkeys]
    exact hdelegated redelegation hredelegation

theorem committed_of_commit {gathered : Gathered}
    (h : commit ctx shouldUpdateCrawlerState gathered db = some db') :
    Committed ctx shouldUpdateCrawlerState gathered db db' :=
  (committed_and_checked h).1

/-- A block is committed exactly when every check holds and every table is as it says. -/
theorem commit_eq_some {gathered : Gathered} :
    commit ctx shouldUpdateCrawlerState gathered db = some db' ↔
      Committed ctx shouldUpdateCrawlerState gathered db db' ∧ Checked ctx gathered db db' := by
  refine ⟨committed_and_checked,fun ⟨hc,hchecked⟩ => ?_⟩
  obtain ⟨rows,stored,hrows,hstored,hupdated⟩ := hc.validators
  obtain ⟨unbonds,hunbonds,hleft⟩ := hc.unbonds
  have hvalidators : gathered.metadataChange.foldl (fun validators change =>
      validators.mapRows (changeMetadata ctx change) (namadaAddress_changeMetadata ctx change))
        ((gathered.validatorsStateChange ctx).foldl (fun validators change =>
          validators.mapRows (changeState ctx change) (namadaAddress_changeState ctx change))
            stored) = db'.validators := by
    apply Table.ext_rows
    rw [Table.foldl_mapRows_rows (changeMetadata ctx) (namadaAddress_changeMetadata ctx),
      Table.foldl_mapRows_rows (changeState ctx) (namadaAddress_changeState ctx),List.map_map,
      hupdated]
    rfl
  have hkeys : db'.validators.keys = ((gathered.validatorsStateChange ctx).foldl
      (fun validators change =>
        validators.mapRows (changeState ctx change) (namadaAddress_changeState ctx change))
          stored).keys := by
    rw [←hvalidators,Table.foldl_mapRows_keys (changeMetadata ctx)]
  have hbondsKnown := hc.bonds_known
  have hunbondsKnown := hc.unbonds_known
  have hredelegationsKnown := hchecked.redelegations_known
  rw [hkeys] at hbondsKnown hunbondsKnown hredelegationsKnown
  have hnative := hc.native_unique
  have hibc := hchecked.ibcTokens_references
  have heffective := hc.supplies_checked
  have hsupplies := hc.supplies_references
  have hlimits := hc.limits_references
  have htoken := hc.token_references
  rw [hc.tokens] at hnative hibc heffective hsupplies hlimits htoken
  unfold commit
  simp only [Option.bind_eq_bind,Option.bind_eq_some_iff,insertTokens_eq_some,
    insertTokenSupplies_eq_some,insertIbcRateLimits_eq_some,upsertBlock_eq_some,
    insertBalances_eq_some,insertProposals_eq_some,insertVotes_eq_some,upsertValidators_eq_some,
    insertBonds_eq_some,insertUnbonds_eq_some,insertRedelegations_eq_some,
    insertMaspRates_eq_some,clearBonds_eq,deleteClaimedRewards_eq,upsertValidatorState,
    removeWithdraws,updateValidatorMetadata,insertRevealedPks]
  refine ⟨_,⟨hnative,hibc,rfl⟩,_,⟨heffective,hsupplies,rfl⟩,_,⟨hlimits,rfl⟩,_,
    ⟨hc.hash_unique,_,hc.blocks,rfl⟩,_,⟨htoken,hc.height_references,rfl⟩,_,
    ⟨_,hc.proposals,rfl⟩,_,⟨_,hc.votes,rfl⟩,_,⟨rows,hrows,stored,hstored,rfl⟩,_,
    ⟨hbondsKnown,hchecked.bond_chunks,_,hc.bonds,rfl⟩,_,
    ⟨hunbondsKnown,hchecked.unbond_chunks,_,hunbonds,rfl⟩,_,
    ⟨hredelegationsKnown,_,hc.redelegations,rfl⟩,_,⟨_,hc.maspRates,rfl⟩,?_⟩
  dsimp only
  rw [hvalidators,←hleft,←hc.tokens,←hc.ibcTokens,←hc.tokenSupplies,←hc.ibcRateLimits,
    ←hc.balanceChanges,←hc.posRewards,←hc.revealedPks,←hc.publicGoodFunding,updatedState_eq,
    ←hc.crawlerState]
  rfl

/-- An initial query that succeeds has read the last block and the tokens of the node, with their
supplies. -/
theorem tryInitialQuery_eq_ok
    (h : (tryInitialQuery ctx client checksums db).run = .returns (.ok db')) :
    ∃ data, (readLastBlock ctx client checksums).run = .returns (.ok data.current) ∧
      queryTokens ctx client = some data.tokens ∧
      queryTokenSupplies ctx client data.tokens data.current.epoch = some data.tokenSupplies ∧
      commitInitial ctx data db = some db' := by
  unfold tryInitialQuery at h
  obtain ⟨data,hdata,hcommit⟩ := Panicking.run_bind_eq_ok.mp h
  unfold gatherInitial at hdata
  simp only [Panicking.run_bind_eq_ok,run_orError_eq_ok,Panicking.run_pure_eq_ok] at hdata
  obtain ⟨current,hcurrent,tokens,htokens,_,-,supplies,hsupplies,_,-,_,-,_,-,_,-,_,-,_,-,_,-,_,-,_,-,
    _,-,rfl⟩ := hdata
  exact ⟨_,hcurrent,htokens,hsupplies,run_orError_eq_ok.mp hcommit⟩

/-- What a committed initial query did to the tables. -/
structure CommittedInitial (ctx : Context) (data : InitialData) (db db' : ChainDb) : Prop where
  tokens : db'.tokens = db.tokens.insertOrIgnore (data.tokens.map (TokenDb.ofToken ctx))
  native_unique : db'.tokens.rows.countP (fun row => row.tokenType = .native) ≤ 1
  ibcTokens : db'.ibcTokens =
    db.ibcTokens.insertOrIgnore (data.tokens.filterMap (IbcTokenDb.fromToken ctx))
  hash_unique : ∀ other ∈ db.blocks.rows,
    other.hash = (BlockDb.ofBlock ctx.sdk data.current.block).hash →
      other.height = (BlockDb.ofBlock ctx.sdk data.current.block).height
  blocks : Table.put replaceBlock db.blocks (BlockDb.ofBlock ctx.sdk data.current.block) =
    some db'.blocks
  supplies_checked : ∀ row ∈ data.tokenSupplies.map TokenSuppliesDb.ofSupply,
    checkEffectiveForTokenType db'.tokens row
  supplies_references : References db.tokenSupplies
    (data.tokenSupplies.map TokenSuppliesDb.ofSupply) TokenSuppliesDb.address db'.tokens.keys
  tokenSupplies : db'.tokenSupplies =
    db.tokenSupplies.insertOrIgnore (data.tokenSupplies.map TokenSuppliesDb.ofSupply)
  limits_references : References db.ibcRateLimits
    (data.rateLimits.map IbcRateLimitsDb.ofLimit) IbcRateLimitsDb.address db'.tokens.keys
  ibcRateLimits : db'.ibcRateLimits =
    db.ibcRateLimits.insertOrIgnore (data.rateLimits.map IbcRateLimitsDb.ofLimit)
  token_references : References db.balanceChanges
    (data.balances.map (BalanceChangesDb.fromBalance ctx)) BalanceChangesDb.token db'.tokens.keys
  height_references : References db.balanceChanges
    (data.balances.map (BalanceChangesDb.fromBalance ctx)) BalanceChangesDb.height db'.blocks.keys
  balanceChanges : db'.balanceChanges =
    db.balanceChanges.insertOrIgnore (data.balances.map (BalanceChangesDb.fromBalance ctx))
  proposals : Governance.insertProposals ctx.sdk db.governanceProposals data.proposals =
    some db'.governanceProposals
  votes : Votes.insertVotes ctx.sdk db'.governanceProposals.keys.toFinset db.governanceVotes
    data.votes = some db'.governanceVotes
  validators : ∃ rows, data.validatorSet.mapM (ValidatorDb.fromValidator ctx) = some rows ∧
    Table.upsert setValidator db.validators rows = some db'.validators
  bonds_known : ∀ bond ∈ data.bonds, (BondDb.fromBond ctx bond).validator ∈ db'.validators.keys
  bonds : (data.bonds.map (BondDb.fromBond ctx)).foldlM (Table.put setBondAmount) db.bonds =
    some db'.bonds
  unbonds_known : ∀ unbond ∈ data.unbonds,
    (UnbondDb.fromUnbond ctx unbond).validator ∈ db'.validators.keys
  unbonds : (data.unbonds.map (UnbondDb.fromUnbond ctx)).foldlM (Table.put setUnbondAmount)
    db.unbonds = some db'.unbonds
  redelegations_known : ∀ redelegation ∈ data.redelegations,
    (RedelegationDb.fromRedelegation ctx redelegation).validator ∈ db'.validators.keys
  redelegations : Table.upsert setEndEpoch db.redelegations
    (data.redelegations.map (RedelegationDb.fromRedelegation ctx)) = some db'.redelegations
  posRewards : db'.posRewards = db.posRewards
  revealedPks : db'.revealedPks = db.revealedPks
  maspRates : Table.upsert setMaspRate db.maspRates
    (data.maspRates.map (MaspRewardDataDb.ofData ctx)) = some db'.maspRates
  publicGoodFunding : db'.publicGoodFunding = db.publicGoodFunding
  crawlerState : db'.crawlerState = some (.ofState data.crawlerState)

theorem committed_of_commitInitial {data : InitialData}
    (h : commitInitial ctx data db = some db') : CommittedInitial ctx data db db' := by
  unfold commitInitial at h
  simp only [Option.bind_eq_bind,Option.bind_eq_some_iff,insertTokens_eq_some,
    insertTokenSupplies_eq_some,insertIbcRateLimits_eq_some,upsertBlock_eq_some,
    insertBalances_eq_some,insertProposals_eq_some,insertVotes_eq_some,upsertValidators_eq_some,
    insertBonds_eq_some,insertUnbonds_eq_some,insertRedelegations_eq_some,
    insertMaspRates_eq_some] at h
  obtain ⟨_,⟨hnative,-,rfl⟩,_,⟨hhash,_,hblocks,rfl⟩,_,⟨hchecked,hsupplies,rfl⟩,_,⟨hlimits,rfl⟩,_,
    ⟨htoken,hheight,rfl⟩,_,⟨_,hproposals,rfl⟩,_,⟨_,hvotes,rfl⟩,_,⟨rows,hrows,_,hstored,rfl⟩,_,
    ⟨hbondsKnown,-,_,hbonds,rfl⟩,_,⟨hunbondsKnown,-,_,hunbonds,rfl⟩,_,
    ⟨hdelegated,_,hredelegations,rfl⟩,_,⟨_,hrates,rfl⟩,hdb⟩ := h
  obtain rfl := Option.some.inj hdb
  exact {
    tokens := rfl
    native_unique := hnative
    ibcTokens := rfl
    hash_unique := hhash
    blocks := hblocks
    supplies_checked := hchecked
    supplies_references := hsupplies
    tokenSupplies := rfl
    limits_references := hlimits
    ibcRateLimits := rfl
    token_references := htoken
    height_references := hheight
    balanceChanges := rfl
    proposals := hproposals
    votes := hvotes
    validators := ⟨rows,hrows,hstored⟩
    bonds_known := hbondsKnown
    bonds := hbonds
    unbonds_known := hunbondsKnown
    unbonds := hunbonds
    redelegations_known := hdelegated
    redelegations := hredelegations
    posRewards := rfl
    revealedPks := rfl
    maspRates := hrates
    publicGoodFunding := rfl
    crawlerState := rfl }

end

/-- One successful call: the initial query, or the processing of a block. The checksums are
those that the crawler holds at the time. -/
inductive Pass
  | initialQuery (client : Client) (checksums : Checksums)
  | block (client : Client) (checksums : Checksums) (blockHeight : BlockHeight)
      (shouldUpdateCrawlerState : Bool)

/-- The value of a call that succeeds. -/
def resultOf {α : Type} (x : Attempt α) : Option α :=
  match x.run with
  | .returns (.ok a) => some a
  | _ => none

theorem resultOf_eq_some {α : Type} {x : Attempt α} {a : α} :
    resultOf x = some a ↔ x.run = .returns (.ok a) := by
  unfold resultOf
  split
  · rename_i b hb
    rw [hb]
    simp
  · rename_i hnot
    constructor
    · exact fun h => by contradiction
    · exact fun h => (hnot a h).elim

/-- The database after a call. A call that fails or panics leaves the database alone and is no
step. -/
def Pass.step (ctx : Context) (db : ChainDb) : Pass → Option ChainDb
  | .initialQuery client checksums => resultOf (tryInitialQuery ctx client checksums db)
  | .block client checksums blockHeight shouldUpdateCrawlerState =>
    resultOf (crawlingFn ctx client checksums blockHeight shouldUpdateCrawlerState db)

/-- The functions of other packages on blocks with one transaction that is accepted. -/
def sampleContext (tx : Tx) : Context where
  sdk := { bondSdk with
    txTryFrom := fun _ => .ok tx
    txResult := fun _ => some [(⟨"code"⟩,.ok true)] }
  format := .sample
  toJson _ := none
  votingPower _ := some 0
  tallyType _ _ := .twoFifths
  order := .insertion

/-- A node at a block of an epoch, with one validator that has bonded with itself. Every block
has one transaction. -/
def sampleNode (lastBlock firstBlockInEpoch : BlockHeight) (epochAt : BlockHeight → Epoch) :
    Node where
  lastBlock := lastBlock
  head := ⟨firstBlockInEpoch,fun codePath => some (if codePath = "tx_bond.wasm" then "a" else codePath)⟩
  nativeToken := .established "nam"
  cometbftBlock height := ⟨height,⟨⟨toString height.toNat⟩,height.toUInt64,"proposer",0,⟨"app"⟩,[[0]]⟩,
    [⟨"tx/applied",[("code","0"),("gas_used","0"),("hash","0"),("height","0"),("batch","0"),
      ("info","")]⟩],epochAt height⟩
  validatorByTmAddr _ := some (.established "validator")
  ibcTraces := []
  rateLimit _ := 0
  maspRates := []
  totalSupply _ := 1000
  effectiveSupply := 1000
  consensusValidators _ := [.established "validator"]
  balance _ _ _ := 100
  proposalCounter _ := some 0
  isSteward _ := false
  bondsAndUnbonds source validator :=
    match source,validator with
    | some source,some validator => [⟨source,validator,[⟨5,10⟩],[]⟩]
    | _,_ => []
  incomingRedelegations _ _ := none
  unbondWithSlashing _ _ := []
  storedBalances _ := []
  pipelineLength := 2
  validatorSet _ := [⟨.ofAddress Sdk.sample (.established "validator"),"0","0","0",none,none,none,none,
    none,none,.consensus⟩]
  allValidators _ := []
  storedRedelegations _ := []
  proposals := []
  proposalVotes _ := []

/-- A database that knows the native token and the validator. -/
def sampleDb : ChainDb :=
  { ChainDb.empty with
    tokens := ⟨[⟨"tnam1qnam",.native⟩],by decide⟩
    validators := ⟨[⟨"tnam1qvalidator",0,"0","0",none,none,none,none,none,none,.consensus⟩],
      by decide⟩ }

end NamadaIndexer.Chain
