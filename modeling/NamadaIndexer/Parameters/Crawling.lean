import NamadaIndexer.Foundation.Cells
import NamadaIndexer.Pos.Crawling
import NamadaIndexer.Shared.Decimals

/-! The crawler of parameters. At every epoch it stores the parameters of the chain and the prices
of gas. Of a row of parameters that is there, only some columns are written again. -/
namespace NamadaIndexer.Parameters
open NamadaIndexer.Foundation NamadaIndexer.Foundation.Runs NamadaIndexer.Shared
open NamadaIndexer.Chain (Attempt mayPanic orError overwrite)
open NamadaIndexer.Pos (run_mayPanic_ne)
open NamadaIndexer.Shared.EpochCrawler (run_bind_ne run_orError_ne)

/-- `Parameters`. The rates are texts. -/
structure ChainParameters where
  unbondingLength : UInt64
  pipelineLength : UInt64
  epochsPerYear : UInt64
  minNumOfBlocks : UInt64
  maxBlockTime : UInt64
  minDuration : UInt64
  apr : String
  nativeTokenAddress : String
  cubicSlashingWindowLength : UInt64
  duplicateVoteMinSlashRate : String
  lightClientAttackMinSlashRate : String
  deriving DecidableEq, Repr

structure Genesis where
  genesisTime : Int64
  chainId : String
  deriving DecidableEq, Repr

structure GasPrice where
  token : String
  amount : Amount
  deriving DecidableEq, Repr

/-- What the crawler reads of the parameters of proof of stake. -/
structure PosParameters where
  unbondingLen : UInt64
  pipelineLen : UInt64
  cubicSlashingWindowLength : UInt64
  duplicateVoteMinSlashRate : String
  lightClientAttackMinSlashRate : String
  deriving DecidableEq, Repr

structure EpochDuration where
  minNumOfBlocks : UInt64
  minDuration : UInt64
  deriving DecidableEq, Repr

/-- What the node answers for an epoch, as far as its queries succeed. -/
structure Answers where
  posParams : Option PosParameters
  epochsPerYear : Option UInt64
  epochDuration : Option EpochDuration
  nativeToken : Option Address
  maxBlockTime : Option UInt64
  stakingRewardsRate : Option String
  epoch : Option UInt64
  genesis : Option Genesis
  /-- `query_tx_code_hash` -/
  txCodeHash : String → Option String
  gasCost : Option (List (Address × Amount))

structure ParametersDb where
  unbondingLength : Int32
  pipelineLength : Int32
  epochsPerYear : Int32
  minNumOfBlocks : Int32
  minDuration : Int32
  maxBlockTime : Int32
  apr : String
  nativeTokenAddress : String
  chainId : String
  genesisTime : Int64
  checksums : Checksums
  epochSwitchBlocksDelay : Int32
  cubicSlashingWindowLength : Int32
  duplicateVoteMinSlashRate : BigDecimal
  lightClientAttackMinSlashRate : BigDecimal
  deriving DecidableEq, Repr

structure GasPriceDb where
  token : String
  amount : Amount
  deriving DecidableEq, Repr

/-- The tables of this crawler. `chain_id` is unique, and the token is the key of a price. -/
structure Db where
  chainParameters : Table ParametersDb.chainId
  gasPrice : Table GasPriceDb.token

def Db.empty : Db := ⟨.empty,.empty⟩

/-- The six columns that are written again. -/
def ParametersDb.refresh (old new : ParametersDb) : ParametersDb :=
  { old with
    apr := new.apr
    maxBlockTime := new.maxBlockTime
    cubicSlashingWindowLength := new.cubicSlashingWindowLength
    checksums := new.checksums
    duplicateVoteMinSlashRate := new.duplicateVoteMinSlashRate
    lightClientAttackMinSlashRate := new.lightClientAttackMinSlashRate }

def setParameters : Table.Merge ParametersDb.chainId :=
  overwrite ParametersDb.refresh fun _ _ => rfl

/-- `SET amount = excluded.amount` -/
def setGasPrice : Table.Merge GasPriceDb.token :=
  overwrite (fun old new => { old with amount := new.amount }) fun _ _ => rfl

/-- What the crawler is built with: the functions of other packages and a constant of the SDK. -/
structure Context where
  sdk : Sdk
  /-- `BigDecimal::from_str` -/
  parseDecimal : String → Option BigDecimal
  /-- `EPOCH_SWITCH_BLOCKS_DELAY` -/
  epochSwitchBlocksDelay : UInt32

section
variable (ctx : Context)

/-- The rate of rewards, which the node does not know in its first epoch. -/
def getApr (answers : Answers) : Option String :=
  match answers.stakingRewardsRate with
  | some apr => some apr
  | none => do
    let epoch ← answers.epoch
    if epoch = 0 then some "0" else none

/-- `get_parameters` -/
def getParameters (answers : Answers) : Option ChainParameters := do
  let posParameters ← answers.posParams
  let epochsPerYear ← answers.epochsPerYear
  let epochDuration ← answers.epochDuration
  let nativeTokenAddress ← answers.nativeToken
  let maxBlockTime ← answers.maxBlockTime
  let apr ← getApr answers
  return {
    unbondingLength := posParameters.unbondingLen
    pipelineLength := posParameters.pipelineLen
    epochsPerYear
    minNumOfBlocks := epochDuration.minNumOfBlocks
    minDuration := epochDuration.minDuration
    maxBlockTime
    apr
    nativeTokenAddress := ctx.sdk.encode nativeTokenAddress
    cubicSlashingWindowLength := posParameters.cubicSlashingWindowLength
    duplicateVoteMinSlashRate := posParameters.duplicateVoteMinSlashRate
    lightClientAttackMinSlashRate := posParameters.lightClientAttackMinSlashRate }

/-- `get_gas_price` -/
def getGasPrice (answers : Answers) : Panicking (List GasPrice) := do
  let gasCostTable ← .expect "Gas cost table should be defined." answers.gasCost
  return gasCostTable.map fun (token,gasCost) => ⟨ctx.sdk.encode token,gasCost⟩

/-- `From<(Parameters, Genesis, Checksums, EpochSwitchBlocksDelay)> for ParametersInsertDb`. A rate
that is no number is a panic. -/
def ParametersDb.ofParameters (parameters : ChainParameters) (genesis : Genesis)
    (checksums : Checksums) : Option ParametersDb := do
  let duplicateVoteMinSlashRate ← ctx.parseDecimal parameters.duplicateVoteMinSlashRate
  let lightClientAttackMinSlashRate ← ctx.parseDecimal parameters.lightClientAttackMinSlashRate
  return {
    unbondingLength := asI32 parameters.unbondingLength
    pipelineLength := asI32 parameters.pipelineLength
    epochsPerYear := asI32 parameters.epochsPerYear
    minNumOfBlocks := asI32 parameters.minNumOfBlocks
    minDuration := asI32 parameters.minDuration
    maxBlockTime := asI32 parameters.maxBlockTime
    apr := parameters.apr
    nativeTokenAddress := parameters.nativeTokenAddress
    chainId := genesis.chainId
    genesisTime := genesis.genesisTime
    checksums
    epochSwitchBlocksDelay := ctx.epochSwitchBlocksDelay.toInt32
    cubicSlashingWindowLength := asI32 parameters.cubicSlashingWindowLength
    duplicateVoteMinSlashRate
    lightClientAttackMinSlashRate }

/-- `From<GasPrice> for GasPriceDb` -/
def GasPriceDb.ofGasPrice (value : GasPrice) : GasPriceDb := ⟨value.token,value.amount⟩

/-- `upsert_chain_parameters` -/
def upsertChainParameters (parameters : ParametersDb) (db : Db) : Option Db := do
  let chainParameters ← Table.put setParameters db.chainParameters parameters
  return { db with chainParameters }

/-- `upsert_gas_price` -/
def upsertGasPrice (gasPrice : List GasPriceDb) (db : Db) : Option Db := do
  let gasPrice ← Table.upsert setGasPrice db.gasPrice gasPrice
  return { db with gasPrice }

/-- What is queried for an epoch. -/
structure Queried where
  parameters : ChainParameters
  genesis : Genesis
  checksums : Checksums
  gasPrice : List GasPrice
  deriving DecidableEq, Repr

/-- The queries of `crawling_fn` -/
def query (answers : Answers) : Attempt Queried := do
  let parameters ← orError .rpcError (getParameters ctx answers)
  let genesis ← orError .rpcError answers.genesis
  let checksums ← mayPanic (queryChecksums ctx.sdk ⟨0,answers.txCodeHash⟩)
  let gasPrice ← mayPanic (getGasPrice ctx answers)
  return ⟨parameters,genesis,checksums,gasPrice⟩

/-- The transaction of `crawling_fn` -/
def commit (queried : Queried) (db : Db) : Option Db := do
  let parameters ← ParametersDb.ofParameters ctx queried.parameters queried.genesis
    queried.checksums
  let db ← upsertChainParameters parameters db
  upsertGasPrice (queried.gasPrice.map GasPriceDb.ofGasPrice) db

/-- `crawling_fn`, once the node has reached the epoch. The epoch itself is not used. -/
def processEpoch (answers : Answers) (_epochToProcess : Epoch) (db : Db) : Attempt Db := do
  let queried ← query ctx answers
  orError .database (commit ctx queried db)

end

section
variable {ctx : Context} {db db' : Db}

theorem commit_eq_some {queried : Queried} :
    commit ctx queried db = some db' ↔
      ∃ row, ParametersDb.ofParameters ctx queried.parameters queried.genesis queried.checksums =
        some row ∧ Table.put setParameters db.chainParameters row = some db'.chainParameters ∧
        Table.upsert setGasPrice db.gasPrice (queried.gasPrice.map GasPriceDb.ofGasPrice) =
          some db'.gasPrice := by
  obtain ⟨chainParameters,gasPrice⟩ := db'
  simp only [commit,upsertChainParameters,upsertGasPrice,Option.bind_eq_bind,
    Option.bind_eq_some_iff,Option.pure_def,Option.some.injEq,Db.mk.injEq]
  constructor
  · rintro ⟨row,hrow,_,⟨stored,hstored,rfl⟩,prices,hprices,rfl,rfl⟩
    exact ⟨row,hrow,hstored,hprices⟩
  · rintro ⟨row,hrow,hstored,hprices⟩
    exact ⟨row,hrow,_,⟨_,hstored,rfl⟩,_,hprices,rfl,rfl⟩

theorem processEpoch_eq_ok {answers : Answers} {epoch : Epoch} :
    (processEpoch ctx answers epoch db).run = .returns (.ok db') ↔
      ∃ queried, (query ctx answers).run = .returns (.ok queried) ∧
        commit ctx queried db = some db' := by
  unfold processEpoch
  rw [Panicking.run_bind_eq_ok]
  simp only [Chain.run_orError_eq_ok]

theorem processEpoch_ne_taskJoinError (answers : Answers) (epoch : Epoch) (db : Db) :
    (processEpoch ctx answers epoch db).run ≠ .returns (.error .taskJoinError) := by
  refine run_bind_ne ?_ fun _ => run_orError_ne (by decide)
  refine run_bind_ne (run_orError_ne (by decide)) fun parameters => ?_
  refine run_bind_ne (run_orError_ne (by decide)) fun genesis => ?_
  refine run_bind_ne run_mayPanic_ne fun checksums => ?_
  exact run_bind_ne run_mayPanic_ne fun gasPrice h => by cases h

end

/-- The crawler of parameters. No other process writes to its tables. -/
def crawler (ctx : Context) : EpochCrawler Db Answers Empty :=
  ⟨processEpoch ctx,fun transaction _ => transaction.elim,processEpoch_ne_taskJoinError⟩

/-- What was queried for the entries of the log. -/
def queriedFor (ctx : Context) : EpochCrawler.Commit Answers Empty → List Queried
  | .epoch _ answers => (Chain.resultOf (query ctx answers)).toList
  | .other transaction => transaction.elim

section
variable (ctx : Context)

def offeredParameters (queried : Queried) : List ParametersDb :=
  (ParametersDb.ofParameters ctx queried.parameters queried.genesis queried.checksums).toList

def offeredPrices (queried : Queried) : List GasPriceDb :=
  queried.gasPrice.map GasPriceDb.ofGasPrice

/-- The row of a chain: the first one that was offered, with six columns of the last one. -/
def recordedParameters (chainId : String) (all : List Queried) : Option ParametersDb := do
  let rows := all.flatMap (offeredParameters ctx)
  let first ← rows.find? fun row => row.chainId = chainId
  let last ← rows.reverse.find? fun row => row.chainId = chainId
  return first.refresh last

/-- The price of gas in a token is the last one, no matter whether the node still has one. -/
def recordedPrice (token : String) (all : List Queried) : Option GasPriceDb :=
  (all.flatMap offeredPrices).reverse.find? fun price => price.token = token

end

section
variable {ctx : Context} {db db' : Db}

/-- What a commit makes of the row of a chain. -/
lemma find?_parameters_commit {queried : Queried} {chainId : String}
    (h : commit ctx queried db = some db') :
    db'.chainParameters.find? chainId = (offeredParameters ctx queried).foldl (fun cell row =>
      if row.chainId = chainId then Table.putRow setParameters cell row else cell)
        (db.chainParameters.find? chainId) := by
  obtain ⟨row,hrow,hstored,-⟩ := commit_eq_some.mp h
  rw [offeredParameters,hrow]
  have hput : [row].foldlM (Table.put setParameters) db.chainParameters =
      some db'.chainParameters := by
    rw [List.foldlM_cons,hstored]
    rfl
  exact Table.find?_foldlM_put_eq_foldl hput chainId

lemma find?_gasPrice_commit {queried : Queried} {token : String}
    (h : commit ctx queried db = some db') :
    db'.gasPrice.find? token = (offeredPrices queried).foldl (fun cell row =>
      if row.token = token then Table.putRow setGasPrice cell row else cell)
        (db.gasPrice.find? token) := by
  obtain ⟨_,-,-,hprices⟩ := commit_eq_some.mp h
  exact Table.find?_upsert hprices token

lemma foldl_putGasPrice (token : String) (all : List Queried) :
    (all.flatMap offeredPrices).foldl (fun cell row =>
      if row.token = token then Table.putRow setGasPrice cell row else cell) none =
        recordedPrice token all := by
  rw [Table.foldl_putRow (fun old new => { old with amount := new.amount }) (fun _ _ => rfl)
    (fun _ _ _ => rfl) (fun _ => rfl),recordedPrice]
  generalize all.flatMap offeredPrices = prices
  cases hfirst : prices.find? fun row => row.token = token with
  | none =>
    have hnone : (prices.reverse.find? fun row => row.token = token) = none := by
      rw [List.find?_eq_none] at hfirst ⊢
      exact fun row hrow => hfirst row (List.mem_reverse.mp hrow)
    rw [hnone]
    rfl
  | some first =>
    cases hlast : prices.reverse.find? fun row => row.token = token with
    | none => rfl
    | some last =>
      have htoken : first.token = token := by simpa using List.find?_some hfirst
      have htoken' : last.token = token := by simpa using List.find?_some hlast
      subst htoken'
      simp [htoken]

/-- An entry of the log is one commit. -/
lemma exists_commit_of_replay {entry : EpochCrawler.Commit Answers Empty}
    (h : (crawler ctx).replay db entry = some db') :
    ∃ queried, queriedFor ctx entry = [queried] ∧ commit ctx queried db = some db' := by
  cases entry with
  | other transaction => exact transaction.elim
  | epoch epoch answers =>
    have hprocess : (processEpoch ctx answers epoch db).run = .returns (.ok db') :=
      Chain.resultOf_eq_some.mp h
    obtain ⟨queried,hquery,hcommit⟩ := processEpoch_eq_ok.mp hprocess
    exact ⟨queried,by rw [queriedFor,Chain.resultOf_eq_some.mpr hquery]; rfl,hcommit⟩

lemma foldl_putParameters (chainId : String) (all : List Queried) :
    (all.flatMap (offeredParameters ctx)).foldl (fun cell row =>
      if row.chainId = chainId then Table.putRow setParameters cell row else cell) none =
        recordedParameters ctx chainId all := by
  rw [Table.foldl_putRow ParametersDb.refresh (fun _ _ => rfl) (fun _ _ _ => rfl) (fun _ => rfl),
    recordedParameters]
  cases (all.flatMap (offeredParameters ctx)).find? fun row => row.chainId = chainId with
  | none => rfl
  | some first =>
    cases (all.flatMap (offeredParameters ctx)).reverse.find? fun row => row.chainId = chainId <;>
      rfl

end

def sampleContext : Context where
  sdk := Sdk.sample
  parseDecimal text := if text = "0.1" then some ⟨1,1⟩ else none
  epochSwitchBlocksDelay := 2

/-- A node with a price in one token and a rate of rewards that it knows from its second epoch on. -/
def sampleAnswers (epoch unbondingLen : UInt64) (token : String) : Answers where
  posParams := some ⟨unbondingLen,2,1,"0.1","0.1"⟩
  epochsPerYear := some 365
  epochDuration := some ⟨10,60⟩
  nativeToken := some (.established "nam")
  maxBlockTime := some 6
  stakingRewardsRate := if epoch = 0 then none else some "0.1"
  epoch := some epoch
  genesis := some ⟨0,"chain"⟩
  txCodeHash codePath := some codePath
  gasCost := some [(.established token,1)]

/-- The length of unbonding and the token of gas change in the second epoch. -/
def twoEpochs : List (EpochCrawler.Label Answers Empty) :=
  [.start 0,.poll,.call ⟨some 0,some (),sampleAnswers 0 21 "nam",.committed⟩,
    .poll,.call ⟨some 1,some (),sampleAnswers 1 14 "osmo",.committed⟩]

end NamadaIndexer.Parameters
