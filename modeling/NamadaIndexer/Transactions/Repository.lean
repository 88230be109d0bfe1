import NamadaIndexer.Transactions.Tx

/-! The tables of the transactions crawler and the statements of one block, in the order of
their transaction. Surrogate ids are left out. -/
namespace NamadaIndexer.Transactions
open NamadaIndexer.Foundation NamadaIndexer.Shared

structure BlockDb where
  height : Int32
  hash : Option String
  appHash : Option String
  timestamp : Option ℤ
  proposer : Option String
  epoch : Option Int32
  deriving DecidableEq, Repr

inductive TransactionKindDb
  | transparentTransfer
  | shieldedTransfer
  | shieldingTransfer
  | unshieldingTransfer
  | mixedTransfer
  | ibcMsgTransfer
  | ibcTransparentTransfer
  | ibcShieldingTransfer
  | ibcUnshieldingTransfer
  | bond
  | redelegation
  | unbond
  | withdraw
  | claimRewards
  | voteProposal
  | initProposal
  | changeMetadata
  | changeCommission
  | revealPk
  | becomeValidator
  | reactivateValidator
  | deactivateValidator
  | unjailValidator
  | changeConsensusKey
  | initAccount
  | unknown
  deriving DecidableEq, Repr

/-- `From<TransactionKind> for TransactionKindDb` -/
def TransactionKindDb.ofKind : TransactionKind → TransactionKindDb
  | .transparentTransfer _ => .transparentTransfer
  | .shieldedTransfer _ => .shieldedTransfer
  | .unshieldingTransfer _ => .unshieldingTransfer
  | .initAccount _ => .initAccount
  | .changeConsensusKey _ => .changeConsensusKey
  | .shieldingTransfer _ => .shieldingTransfer
  | .mixedTransfer _ => .mixedTransfer
  | .ibcMsg _ => .ibcMsgTransfer
  | .ibcSendTrasparentTransfer _ _ | .ibcRecvTrasparentTransfer _ _ => .ibcTransparentTransfer
  | .ibcShieldingTransfer _ _ => .ibcShieldingTransfer
  | .ibcUnshieldingTransfer _ _ => .ibcUnshieldingTransfer
  | .bond _ => .bond
  | .redelegation _ => .redelegation
  | .unbond _ => .unbond
  | .withdraw _ => .withdraw
  | .claimRewards _ => .claimRewards
  | .proposalVote _ => .voteProposal
  | .initProposal _ => .initProposal
  | .metadataChange _ => .changeMetadata
  | .commissionChange _ => .changeCommission
  | .deactivateValidator _ => .deactivateValidator
  | .reactivateValidator _ => .reactivateValidator
  | .revealPk _ => .revealPk
  | .becomeValidator _ => .becomeValidator
  | .unjailValidator _ => .unjailValidator
  | .unknown _ => .unknown

structure WrapperTransactionDb where
  id : String
  feePayer : String
  feeToken : String
  gasLimit : String
  gasUsed : Option Int32
  amountPerGasUnit : Option String
  maspFeePayment : Option String
  blockHeight : Int32
  exitCode : TransactionExitStatus
  atomic : Bool
  deriving DecidableEq, Repr

structure InnerTransactionDb where
  id : String
  wrapperId : String
  kind : TransactionKindDb
  data : Option String
  memo : Option String
  exitCode : TransactionExitStatus
  deriving DecidableEq, Repr

structure IbcAckDb where
  id : String
  txHash : String
  timeout : Int64
  status : IbcAckStatus
  deriving DecidableEq, Repr

structure IbcTokenFlowsDb where
  address : String
  epoch : Int32
  deposit : Numeric
  withdraw : Numeric
  deriving DecidableEq

/-- `UNIQUE (address, epoch)` -/
def IbcTokenFlowsDb.key (row : IbcTokenFlowsDb) : String × Int32 := (row.address,row.epoch)

structure TransactionHistoryDb where
  innerTxId : String
  target : String
  kind : TransactionHistoryKind
  deriving DecidableEq, Repr

structure GasEstimationDb where
  wrapperId : String
  transparentTransfer : Int32
  shieldedTransfer : Int32
  shieldingTransfer : Int32
  unshieldingTransfer : Int32
  ibcUnshieldingTransfer : Int32
  ibcShieldingTransfer : Int32
  ibcMsgTransfer : Int32
  bond : Int32
  redelegation : Int32
  unbond : Int32
  withdraw : Int32
  claimRewards : Int32
  voteProposal : Int32
  revealPk : Int32
  signatures : Int32
  txSize : Int32
  deriving DecidableEq, Repr

structure MaspDb where
  tokenAddress : String
  timestamp : ℤ
  rawAmount : Numeric
  direction : MaspEntryDirection
  innerTxId : String
  deriving DecidableEq

inductive MaspPoolAggregateWindow
  | oneDay
  | sevenDays
  | thirtyDays
  | allTime
  deriving DecidableEq, Repr

structure MaspPoolAggregateDb where
  tokenAddress : String
  timeWindow : MaspPoolAggregateWindow
  kind : MaspEntryDirection
  totalAmount : Numeric
  deriving DecidableEq

/-- `UNIQUE (token_address, time_window, kind)`; inflows are the entries that go in. -/
def MaspPoolAggregateDb.key (row : MaspPoolAggregateDb) :
    String × MaspPoolAggregateWindow × MaspEntryDirection :=
  (row.tokenAddress,row.timeWindow,row.kind)

/-- The row of this crawler in `crawler_state`. -/
structure BlockCrawlerStateDb where
  lastProcessedBlock : Int32
  timestamp : ℤ
  deriving DecidableEq, Repr

/-- The tables. `tokens` are the addresses that the chain crawler has registered. -/
structure Db where
  blocks : Table BlockDb.height
  wrapperTransactions : Table WrapperTransactionDb.id
  innerTransactions : Table InnerTransactionDb.id
  ibcAck : Table IbcAckDb.id
  ibcTokenFlows : Table IbcTokenFlowsDb.key
  transactionHistory : Table (id : TransactionHistoryDb → TransactionHistoryDb)
  gasEstimations : List GasEstimationDb
  maspPool : Table MaspDb.innerTxId
  maspPoolAggregate : Table MaspPoolAggregateDb.key
  crawlerState : Option BlockCrawlerStateDb
  tokens : List String

def Db.empty (tokens : List String) : Db :=
  ⟨.empty,.empty,.empty,.empty,.empty,.empty,[],.empty,.empty,none,tokens⟩

section
variable (sdk : Sdk)

/-- `From<(Block, TendermintBlockResponse)> for BlockInsertDb` -/
def BlockDb.ofBlock (block : Block) : BlockDb where
  height := block.header.height.toInt32
  hash := some (block.hash.toString sdk)
  appHash := some (block.header.appHash.toString sdk)
  timestamp := some block.header.timestamp
  proposer := block.header.proposerAddressNamada
  epoch := some block.epoch.toInt32

/-- `WrapperTransactionInsertDb::from` -/
def WrapperTransactionDb.ofTx (tx : WrapperTransaction) : WrapperTransactionDb where
  id := tx.txId.toString sdk
  feePayer := tx.fee.gasPayer.toString sdk
  feeToken := tx.fee.gasToken.toString sdk
  gasLimit := tx.fee.gas
  gasUsed := tx.fee.gasUsed.map asI32
  amountPerGasUnit := some tx.fee.amountPerGasUnit
  maspFeePayment := tx.fee.maspFeePayment.map (Id.toString sdk)
  blockHeight := tx.blockHeight.toInt32
  exitCode := tx.exitCode
  atomic := tx.atomic

/-- `InnerTransactionInsertDb::from` -/
def InnerTransactionDb.ofTx (tx : InnerTransaction) : InnerTransactionDb where
  id := tx.txId.toString sdk
  wrapperId := tx.wrapperId.toString sdk
  kind := .ofKind tx.kind
  data := tx.data
  memo := tx.memo
  exitCode := tx.exitCode

/-- `From<IbcSequence> for IbcAckInsertDb` -/
def IbcAckDb.ofSequence (sequence : IbcSequence) : IbcAckDb where
  id := sequence.id
  txHash := sequence.txId.toString sdk
  timeout := sequence.timeout.toInt64
  status := .unknown

/-- The row of a flow, unless a column rejects its value. -/
def IbcTokenFlowsDb.ofFlow (flow : IbcTokenFlow) : Option IbcTokenFlowsDb := do
  let deposit ← Numeric.ofRat? flow.deposit
  let withdraw ← Numeric.ofRat? flow.withdraw
  return ⟨flow.address,flow.epoch.toInt32,deposit,withdraw⟩

/-- `TransactionHistoryInsertDb::from` -/
def TransactionHistoryDb.ofTarget (target : TransactionTarget) : TransactionHistoryDb where
  innerTxId := target.innerTx.toString sdk
  target := target.address
  kind := target.kind

/-- `From<GasEstimation> for GasEstimationInsertDb` -/
def GasEstimationDb.ofEstimation (value : GasEstimation) : GasEstimationDb where
  wrapperId := value.wrapperId.toString sdk
  transparentTransfer := .ofNat value.transparentTransfer
  shieldedTransfer := .ofNat value.shieldedTransfer
  shieldingTransfer := .ofNat value.shieldingTransfer
  unshieldingTransfer := .ofNat value.unshieldingTransfer
  ibcMsgTransfer := .ofNat value.transparentTransfer
  ibcUnshieldingTransfer := .ofNat value.ibcUnshieldingTransfer
  ibcShieldingTransfer := .ofNat value.ibcShieldingTransfer
  bond := .ofNat value.bond
  redelegation := .ofNat value.redelegation
  unbond := .ofNat value.unbond
  withdraw := .ofNat value.withdraw
  claimRewards := .ofNat value.claimRewards
  voteProposal := .ofNat value.voteProposal
  revealPk := .ofNat value.revealPk
  signatures := .ofNat value.signatures
  txSize := .ofNat value.size

/-- `From<MaspEntry> for MaspInsertDb` -/
def MaspDb.ofEntry (entry : MaspEntry) : MaspDb where
  tokenAddress := entry.tokenAddress
  timestamp := entry.timestamp
  rawAmount := numericOfAmount entry.rawAmount
  direction := entry.direction
  innerTxId := entry.innerTxId.toString sdk

/-- `SET` every column but the height -/
def replaceBlock : Table.Merge BlockDb.height where
  run old new := some { new with height := old.height }
  key_run := by
    rintro old new row ⟨⟩
    rfl

/-- `upsert_block`. Another block must not have the same hash. -/
def upsertBlock (block : Block) (db : Db) : Option Db := do
  let row := BlockDb.ofBlock sdk block
  if ∀ other ∈ db.blocks.rows, other.hash = row.hash → other.height = row.height then
    let blocks ← Table.put replaceBlock db.blocks row
    return { db with blocks }
  else none

/-- Rows that are new to a table must refer to existing rows of another one. -/
def References {ρ κ ι : Type*} {key : ρ → κ} [DecidableEq κ] (table : Table key) (rows : List ρ)
    (reference : ρ → ι) (targets : List ι) : Prop :=
  ∀ row ∈ rows, key row ∈ table.keys ∨ reference row ∈ targets

instance {ρ κ ι : Type*} {key : ρ → κ} [DecidableEq κ] [DecidableEq ι] (table : Table key)
    (rows : List ρ) (reference : ρ → ι) (targets : List ι) :
    Decidable (References table rows reference targets) :=
  inferInstanceAs (Decidable (∀ row ∈ rows, key row ∈ table.keys ∨ reference row ∈ targets))

/-- `insert_wrapper_transactions` -/
def insertWrapperTransactions (txs : List WrapperTransaction) (db : Db) : Option Db :=
  let rows := txs.map (WrapperTransactionDb.ofTx sdk)
  if References db.wrapperTransactions rows WrapperTransactionDb.blockHeight db.blocks.keys then
    some { db with wrapperTransactions := db.wrapperTransactions.insertOrIgnore rows }
  else none

/-- `SET` kind and data -/
def refreshKind : Table.Merge InnerTransactionDb.id where
  run old new := some { old with kind := new.kind, data := new.data }
  key_run := by
    rintro old new row ⟨⟩
    rfl

/-- `insert_inner_transactions` -/
def insertInnerTransactions (txs : List InnerTransaction) (db : Db) : Option Db := do
  let rows := txs.map (InnerTransactionDb.ofTx sdk)
  if References db.innerTransactions rows InnerTransactionDb.wrapperId
      db.wrapperTransactions.keys then
    let innerTransactions ← Table.upsert refreshKind db.innerTransactions rows
    return { db with innerTransactions }
  else none

/-- `From<(CrawlerName, BlockCrawlerState)> for BlockStateInsertDb`, of the state of a block. Its
header has the height that was asked for. -/
def BlockCrawlerStateDb.ofBlock (block : Block) : BlockCrawlerStateDb where
  lastProcessedBlock := block.header.height.toInt32
  timestamp := block.header.timestamp

/-- `insert_crawler_state` -/
def insertCrawlerState (block : Block) (db : Db) : Db :=
  { db with crawlerState := some (.ofBlock block) }

/-- `insert_ibc_sequence` -/
def insertIbcSequence (ibcSequences : List IbcSequence) (db : Db) : Option Db := do
  let ibcAck ← db.ibcAck.insert (ibcSequences.map (IbcAckDb.ofSequence sdk))
  return { db with ibcAck }

def setAckStatus (ack : IbcAck) (row : IbcAckDb) : IbcAckDb :=
  if row.id = ack.id then { row with status := ack.status } else row

@[simp] theorem setAckStatus_id (ack : IbcAck) (row : IbcAckDb) :
    (setAckStatus ack row).id = row.id := by
  unfold setAckStatus
  split <;> rfl

/-- One `UPDATE` of `update_ibc_sequence` -/
def updateAck (table : Table IbcAckDb.id) (ack : IbcAck) : Table IbcAckDb.id :=
  table.mapRows (setAckStatus ack) (setAckStatus_id ack)

/-- `update_ibc_sequence` -/
def updateIbcSequence (ibcAcks : List IbcAck) (db : Db) : Db :=
  { db with ibcAck := ibcAcks.foldl updateAck db.ibcAck }

/-- `SET` deposit and withdraw to the stored value plus the excluded one -/
def addToFlow : Table.Merge IbcTokenFlowsDb.key where
  run old new := do
    let deposit ← Numeric.add? old.deposit new.deposit
    let withdraw ← Numeric.add? old.withdraw new.withdraw
    return { old with deposit, withdraw }
  key_run := by
    intro old new row h
    obtain ⟨deposit,-,h⟩ := Option.bind_eq_some_iff.mp h
    obtain ⟨withdraw,-,h⟩ := Option.bind_eq_some_iff.mp h
    cases h
    rfl

/-- `upsert_ibc_token_flows` -/
def upsertIbcTokenFlows (flows : List IbcTokenFlow) (db : Db) : Option Db := do
  let rows ← flows.mapM IbcTokenFlowsDb.ofFlow
  if References db.ibcTokenFlows rows IbcTokenFlowsDb.address db.tokens then
    let ibcTokenFlows ← Table.upsert addToFlow db.ibcTokenFlows rows
    return { db with ibcTokenFlows }
  else none

/-- `insert_transactions_history` -/
def insertTransactionsHistory (targets : List TransactionTarget) (db : Db) : Option Db :=
  let rows := targets.map (TransactionHistoryDb.ofTarget sdk)
  if References db.transactionHistory rows TransactionHistoryDb.innerTxId
      db.innerTransactions.keys then
    some { db with transactionHistory := db.transactionHistory.insertOrIgnore rows }
  else none

/-- `insert_gas_estimates`. The table has no unique key that could conflict. -/
def insertGasEstimates (gasEstimates : List GasEstimation) (db : Db) : Option Db :=
  let rows := gasEstimates.map (GasEstimationDb.ofEstimation sdk)
  if ∀ row ∈ rows, row.wrapperId ∈ db.wrapperTransactions.keys then
    some { db with gasEstimations := db.gasEstimations ++ rows }
  else none

end

/-- The stored amounts of a token and a direction, from a time on. -/
def maspSum (pool : List MaspDb) (token : String) (direction : MaspEntryDirection)
    (cutoff : Option ℤ) : ℤ :=
  ((pool.filter fun row => row.tokenAddress == token && row.direction == direction &&
    decide (∀ time ∈ cutoff, time ≤ row.timestamp)).map fun row => row.rawAmount.value).sum

/-- `INSERT` an aggregate with one total, or `SET` the stored one to another. -/
def setAggregate (aggregate : Table MaspPoolAggregateDb.key) (token : String)
    (direction : MaspEntryDirection) (window : MaspPoolAggregateWindow) (inserted : ℤ)
    (updated : ℤ → ℤ) : Option (Table MaspPoolAggregateDb.key) := do
  let total ← Numeric.ofInt? inserted
  let merge : Table.Merge MaspPoolAggregateDb.key := {
    run := fun old _ => (Numeric.ofInt? (updated old.totalAmount.value)).map
      fun total => { old with totalAmount := total }
    key_run := by
      intro old new row h
      obtain ⟨total,-,rfl⟩ := Option.map_eq_some_iff.mp h
      rfl }
  Table.put merge aggregate ⟨token,window,direction,total⟩

/-- `update_masp_pool_aggregate_sum`, for one new row. The first total of every window of
days is that of one day. -/
def updateMaspPoolAggregateSum (now : ℤ) (pool : List MaspDb)
    (aggregate : Table MaspPoolAggregateDb.key) (row : MaspDb) :
    Option (Table MaspPoolAggregateDb.key) := do
  let sum := maspSum pool row.tokenAddress row.direction
  let days (n : ℤ) : Option ℤ := some (now-n*86400)
  let set (aggregate : Table MaspPoolAggregateDb.key) :=
    setAggregate aggregate row.tokenAddress row.direction
  let aggregate ← set aggregate .oneDay (sum (days 1)) fun _ => sum (days 1)
  let aggregate ← set aggregate .sevenDays (sum (days 1)) fun _ => sum (days 7)
  let aggregate ← set aggregate .thirtyDays (sum (days 1)) fun _ => sum (days 30)
  set aggregate .allTime (sum none) fun total => total+row.rawAmount.value

/-- `insert_masp_entries`. The trigger runs for every row that is new. -/
def insertMaspEntries (sdk : Sdk) (now : ℤ) (maspEntries : List MaspEntry) (db : Db) :
    Option Db := do
  let rows := maspEntries.map (MaspDb.ofEntry sdk)
  if References db.maspPool rows MaspDb.innerTxId db.innerTransactions.keys then
    let maspPool := db.maspPool.insertOrIgnore rows
    let maspPoolAggregate ← (Table.fresh MaspDb.innerTxId db.maspPool.keys rows).foldlM
      (updateMaspPoolAggregateSum now maspPool.rows) db.maspPoolAggregate
    return { db with maspPool, maspPoolAggregate }
  else none

section
variable {sdk : Sdk} {db db' : Db}

theorem upsertBlock_eq_some {block : Block} :
    upsertBlock sdk block db = some db' ↔
      (∀ other ∈ db.blocks.rows, other.hash = (BlockDb.ofBlock sdk block).hash →
        other.height = (BlockDb.ofBlock sdk block).height) ∧
      ∃ blocks, Table.put replaceBlock db.blocks (BlockDb.ofBlock sdk block) = some blocks ∧
        { db with blocks } = db' := by
  simp [upsertBlock,Option.bind_eq_some_iff]

theorem insertWrapperTransactions_eq_some {txs : List WrapperTransaction} :
    insertWrapperTransactions sdk txs db = some db' ↔
      References db.wrapperTransactions (txs.map (WrapperTransactionDb.ofTx sdk))
        WrapperTransactionDb.blockHeight db.blocks.keys ∧
      { db with
        wrapperTransactions := db.wrapperTransactions.insertOrIgnore
          (txs.map (WrapperTransactionDb.ofTx sdk)) } = db' := by
  simp [insertWrapperTransactions]

theorem insertInnerTransactions_eq_some {txs : List InnerTransaction} :
    insertInnerTransactions sdk txs db = some db' ↔
      References db.innerTransactions (txs.map (InnerTransactionDb.ofTx sdk))
        InnerTransactionDb.wrapperId db.wrapperTransactions.keys ∧
      ∃ innerTransactions, Table.upsert refreshKind db.innerTransactions
        (txs.map (InnerTransactionDb.ofTx sdk)) = some innerTransactions ∧
        { db with innerTransactions } = db' := by
  simp [insertInnerTransactions,Option.bind_eq_some_iff]

theorem insertIbcSequence_eq_some {ibcSequences : List IbcSequence} :
    insertIbcSequence sdk ibcSequences db = some db' ↔
      ∃ ibcAck, db.ibcAck.insert (ibcSequences.map (IbcAckDb.ofSequence sdk)) = some ibcAck ∧
        { db with ibcAck } = db' := by
  simp [insertIbcSequence,Option.bind_eq_some_iff]

theorem upsertIbcTokenFlows_eq_some {flows : List IbcTokenFlow} :
    upsertIbcTokenFlows flows db = some db' ↔
      ∃ rows, flows.mapM IbcTokenFlowsDb.ofFlow = some rows ∧
        References db.ibcTokenFlows rows IbcTokenFlowsDb.address db.tokens ∧
        ∃ ibcTokenFlows, Table.upsert addToFlow db.ibcTokenFlows rows = some ibcTokenFlows ∧
          { db with ibcTokenFlows } = db' := by
  simp [upsertIbcTokenFlows,Option.bind_eq_some_iff]

theorem insertTransactionsHistory_eq_some {targets : List TransactionTarget} :
    insertTransactionsHistory sdk targets db = some db' ↔
      References db.transactionHistory (targets.map (TransactionHistoryDb.ofTarget sdk))
        TransactionHistoryDb.innerTxId db.innerTransactions.keys ∧
      { db with
        transactionHistory := db.transactionHistory.insertOrIgnore
          (targets.map (TransactionHistoryDb.ofTarget sdk)) } = db' := by
  simp [insertTransactionsHistory]

theorem insertGasEstimates_eq_some {gasEstimates : List GasEstimation} :
    insertGasEstimates sdk gasEstimates db = some db' ↔
      (∀ row ∈ gasEstimates.map (GasEstimationDb.ofEstimation sdk),
        row.wrapperId ∈ db.wrapperTransactions.keys) ∧
      { db with
        gasEstimations :=
          db.gasEstimations ++ gasEstimates.map (GasEstimationDb.ofEstimation sdk) } = db' := by
  simp [insertGasEstimates]

theorem insertMaspEntries_eq_some {now : ℤ} {maspEntries : List MaspEntry} :
    insertMaspEntries sdk now maspEntries db = some db' ↔
      References db.maspPool (maspEntries.map (MaspDb.ofEntry sdk)) MaspDb.innerTxId
        db.innerTransactions.keys ∧
      ∃ maspPoolAggregate, (Table.fresh MaspDb.innerTxId db.maspPool.keys
        (maspEntries.map (MaspDb.ofEntry sdk))).foldlM (updateMaspPoolAggregateSum now
          (db.maspPool.insertOrIgnore (maspEntries.map (MaspDb.ofEntry sdk))).rows)
          db.maspPoolAggregate = some maspPoolAggregate ∧
        { db with
          maspPool := db.maspPool.insertOrIgnore (maspEntries.map (MaspDb.ofEntry sdk))
          maspPoolAggregate } = db' := by
  simp [insertMaspEntries,Option.bind_eq_some_iff]

end
end NamadaIndexer.Transactions
