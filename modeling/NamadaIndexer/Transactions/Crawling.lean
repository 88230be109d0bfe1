import NamadaIndexer.Foundation.Iteration
import NamadaIndexer.Foundation.Runs
import NamadaIndexer.Transactions.Repository

/-! The processing of one block: what is read off it, and the transaction that stores it. -/
namespace NamadaIndexer.Transactions
open NamadaIndexer.Foundation NamadaIndexer.Shared

/-- A block with its results, and the orders in which its sets are visited. -/
structure Crawled (sdk : Sdk) where
  block : Block
  blockResults : BlockResult
  ibcTokenFlows : List IbcTokenFlow
  transactionSources : List TransactionTarget
  flows_perm :
    ibcTokenFlows.Perm (flowsMap block.epoch (getIbcTokenFlows sdk blockResults)).rows
  sources_enumerates : Enumerates transactionSources (block.sources sdk)

section
variable {sdk : Sdk}

/-- The visit of the sets in the order of their extraction. -/
def Crawled.ofBlock (sdk : Sdk) (block : Block) (blockResults : BlockResult) : Crawled sdk where
  block
  blockResults
  ibcTokenFlows := (flowsMap block.epoch (getIbcTokenFlows sdk blockResults)).rows
  transactionSources := (block.innerTxs.flatMap (Block.targetsOf sdk)).dedup
  flows_perm := .refl _
  sources_enumerates := enumerates_dedup _

def Crawled.ibcSequencePacket (c : Crawled sdk) : Panicking (List IbcSequence) :=
  getIbcPackets sdk c.blockResults c.block.transactions

def Crawled.ibcAckPacket (c : Crawled sdk) : List IbcAck := getIbcAckPacket sdk c.block.innerTxs

def Crawled.gasEstimates (c : Crawled sdk) : List GasEstimation :=
  getGasEstimates c.block.transactions

/-- The transaction of one block. `now` is the time of the database. -/
def commitWith (now : ℤ) (shouldUpdateCrawlerState : Bool) (c : Crawled sdk)
    (ibcSequencePacket : List IbcSequence) (db : Db) : Option Db := do
  let db ← upsertBlock sdk c.block db
  let db ← insertWrapperTransactions sdk c.block.wrapperTxs db
  let db ← insertInnerTransactions sdk c.block.innerTxs db
  let db := if shouldUpdateCrawlerState then insertCrawlerState c.block db else db
  let db ← insertIbcSequence sdk ibcSequencePacket db
  let db := updateIbcSequence c.ibcAckPacket db
  let db ← upsertIbcTokenFlows c.ibcTokenFlows db
  let db ← insertTransactionsHistory sdk c.transactionSources db
  let db ← insertGasEstimates sdk c.gasEstimates db
  insertMaspEntries sdk now (c.block.maspEntries sdk) db

/-- `crawling_fn` from the answers of the node on: it panics, or its transaction succeeds or
fails as a whole. -/
def crawlingFn (now : ℤ) (shouldUpdateCrawlerState : Bool) (c : Crawled sdk) (db : Db) :
    Panicking (Option Db) :=
  c.ibcSequencePacket.bind fun sequences =>
    .returns (commitWith now shouldUpdateCrawlerState c sequences db)

/-- One successful call for a block: when it ran, and whether it was no backfill. -/
structure Pass (sdk : Sdk) where
  now : ℤ
  shouldUpdateCrawlerState : Bool
  crawled : Crawled sdk

/-- The database after a call. A call that panics or whose transaction fails leaves the
database alone and is no step. -/
def commit (db : Db) (pass : Pass sdk) : Option Db :=
  match crawlingFn pass.now pass.shouldUpdateCrawlerState pass.crawled db with
  | .returns result => result
  | .panics _ => none

/-- What the statements of a stored block check and do, table by table. -/
structure Stored (now : ℤ) (shouldUpdateCrawlerState : Bool) (c : Crawled sdk) (db db' : Db) :
    Prop where
  hash_unique : ∀ other ∈ db.blocks.rows, other.hash = (BlockDb.ofBlock sdk c.block).hash →
    other.height = (BlockDb.ofBlock sdk c.block).height
  blocks : Table.put replaceBlock db.blocks (BlockDb.ofBlock sdk c.block) = some db'.blocks
  wrapper_references : References db.wrapperTransactions
    (c.block.wrapperTxs.map (WrapperTransactionDb.ofTx sdk)) WrapperTransactionDb.blockHeight
    db'.blocks.keys
  wrapperTransactions : db'.wrapperTransactions = db.wrapperTransactions.insertOrIgnore
    (c.block.wrapperTxs.map (WrapperTransactionDb.ofTx sdk))
  inner_references : References db.innerTransactions
    (c.block.innerTxs.map (InnerTransactionDb.ofTx sdk)) InnerTransactionDb.wrapperId
    db'.wrapperTransactions.keys
  innerTransactions : Table.upsert refreshKind db.innerTransactions
    (c.block.innerTxs.map (InnerTransactionDb.ofTx sdk)) = some db'.innerTransactions
  crawlerState : db'.crawlerState =
    if shouldUpdateCrawlerState then some (.ofBlock c.block) else db.crawlerState
  ibcAck : ∃ sequences inserted, c.ibcSequencePacket = .returns sequences ∧
    db.ibcAck.insert (sequences.map (IbcAckDb.ofSequence sdk)) = some inserted ∧
    db'.ibcAck = c.ibcAckPacket.foldl updateAck inserted
  ibcTokenFlows : ∃ rows, c.ibcTokenFlows.mapM IbcTokenFlowsDb.ofFlow = some rows ∧
    References db.ibcTokenFlows rows IbcTokenFlowsDb.address db.tokens ∧
    Table.upsert addToFlow db.ibcTokenFlows rows = some db'.ibcTokenFlows
  history_references : References db.transactionHistory
    (c.transactionSources.map (TransactionHistoryDb.ofTarget sdk)) TransactionHistoryDb.innerTxId
    db'.innerTransactions.keys
  transactionHistory : db'.transactionHistory = db.transactionHistory.insertOrIgnore
    (c.transactionSources.map (TransactionHistoryDb.ofTarget sdk))
  gas_references : ∀ row ∈ c.gasEstimates.map (GasEstimationDb.ofEstimation sdk),
    row.wrapperId ∈ db'.wrapperTransactions.keys
  gasEstimations : db'.gasEstimations =
    db.gasEstimations ++ c.gasEstimates.map (GasEstimationDb.ofEstimation sdk)
  masp_references : References db.maspPool
    ((c.block.maspEntries sdk).map (MaspDb.ofEntry sdk)) MaspDb.innerTxId db'.innerTransactions.keys
  maspPool : db'.maspPool = db.maspPool.insertOrIgnore
    ((c.block.maspEntries sdk).map (MaspDb.ofEntry sdk))
  maspPoolAggregate : (Table.fresh MaspDb.innerTxId db.maspPool.keys
    ((c.block.maspEntries sdk).map (MaspDb.ofEntry sdk))).foldlM
      (updateMaspPoolAggregateSum now db'.maspPool.rows) db.maspPoolAggregate =
        some db'.maspPoolAggregate
  tokens : db'.tokens = db.tokens

variable {now : ℤ} {shouldUpdateCrawlerState : Bool} {c : Crawled sdk} {db db' : Db}

theorem commitWith_eq_some {sequences : List IbcSequence}
    (hsequences : c.ibcSequencePacket = .returns sequences) :
    commitWith now shouldUpdateCrawlerState c sequences db = some db' ↔
      Stored now shouldUpdateCrawlerState c db db' := by
  have hstate : ∀ d : Db,
      (if shouldUpdateCrawlerState then insertCrawlerState c.block d else d) =
        { d with
          crawlerState :=
            if shouldUpdateCrawlerState then some (.ofBlock c.block) else d.crawlerState } := by
    intro d
    split <;> rfl
  simp only [commitWith,hstate,Option.bind_eq_bind,Option.bind_eq_some_iff,upsertBlock_eq_some,
    insertWrapperTransactions_eq_some,insertInnerTransactions_eq_some,insertIbcSequence_eq_some,
    upsertIbcTokenFlows_eq_some,insertTransactionsHistory_eq_some,insertGasEstimates_eq_some,
    insertMaspEntries_eq_some,updateIbcSequence]
  constructor
  · rintro ⟨_,⟨hhash,blocks,hblocks,rfl⟩,_,⟨hwrapper,rfl⟩,_,⟨hinner,inners,hinners,rfl⟩,_,
      ⟨inserted,hinserted,rfl⟩,_,⟨rows,hrows,hflow,flows,hflows,rfl⟩,_,⟨hhistory,rfl⟩,_,
      ⟨hgas,rfl⟩,hmasp,aggregate,haggregate,rfl⟩
    exact ⟨hhash,hblocks,hwrapper,rfl,hinner,hinners,rfl,⟨sequences,inserted,hsequences,hinserted,
      rfl⟩,⟨rows,hrows,hflow,hflows⟩,hhistory,rfl,hgas,rfl,hmasp,rfl,haggregate,rfl⟩
  · intro h
    obtain ⟨sequences',inserted,hsequences',hinserted,hack⟩ := h.ibcAck
    obtain rfl : sequences' = sequences := by simpa [hsequences] using hsequences'.symm
    obtain ⟨rows,hrows,hflow,hflows⟩ := h.ibcTokenFlows
    have hwrapper := h.wrapper_references
    have hinner := h.inner_references
    have hhistory := h.history_references
    have hgas := h.gas_references
    have hmasp := h.masp_references
    have haggregate := h.maspPoolAggregate
    refine ⟨_,⟨h.hash_unique,db'.blocks,h.blocks,rfl⟩,_,⟨hwrapper,rfl⟩,_,
      ⟨?_,db'.innerTransactions,h.innerTransactions,rfl⟩,_,⟨inserted,hinserted,rfl⟩,_,
      ⟨rows,hrows,hflow,db'.ibcTokenFlows,hflows,rfl⟩,_,⟨hhistory,rfl⟩,_,⟨?_,rfl⟩,hmasp,
      db'.maspPoolAggregate,?_,?_⟩
    · rw [h.wrapperTransactions] at hinner
      exact hinner
    · rw [h.wrapperTransactions] at hgas
      exact hgas
    · rw [h.maspPool] at haggregate
      exact haggregate
    · simp only [←hack,←h.wrapperTransactions,←h.transactionHistory,←h.gasEstimations,←h.maspPool,
        ←h.crawlerState,←h.tokens]

/-- The call for a block stores it exactly as its statements say. -/
theorem commit_eq_some {pass : Pass sdk} :
    commit db pass = some db' ↔
      Stored pass.now pass.shouldUpdateCrawlerState pass.crawled db db' := by
  unfold commit crawlingFn
  cases hsequences : pass.crawled.ibcSequencePacket with
  | returns sequences => exact commitWith_eq_some hsequences
  | panics message =>
    constructor
    · intro h
      contradiction
    · intro h
      obtain ⟨sequences,-,hreturns,-⟩ := h.ibcAck
      rw [hsequences] at hreturns
      contradiction

end
end NamadaIndexer.Transactions
