import NamadaIndexer.Foundation.Iteration
import NamadaIndexer.Foundation.KeyedTable
import NamadaIndexer.Foundation.Overflow
import NamadaIndexer.Transactions.Restarts

/-! The CometBFT crawler: an initial query that fetches the missing heights in batches, and the
crawl loop after it. -/
namespace NamadaIndexer.Cometbft
open NamadaIndexer.Foundation NamadaIndexer.Shared
open NamadaIndexer.Shared.Crawler (Crawl MainError)

/-- What the node answers for a height, with the block and its events as they are serialized. -/
structure Fetched where
  block : String
  events : String
  epoch : Epoch
  deriving DecidableEq, Repr

structure CometbftBlock where
  blockHeight : BlockHeight
  fetched : Fetched
  deriving DecidableEq, Repr

structure CometbftBlockDb where
  id : Int32
  encodedBlock : String
  encodedBlockResult : String
  epoch : Int32
  deriving DecidableEq, Repr

/-- The row of this crawler in `crawler_state`. -/
structure CometbftCrawlerStateDb where
  lastProcessedBlock : Int32
  timestamp : ℤ
  deriving DecidableEq, Repr

structure CometbftDb where
  blocks : Table CometbftBlockDb.id
  crawlerState : Option CometbftCrawlerStateDb

/-- `From<CometbftBlock>` for the row of a block -/
def CometbftBlockDb.ofBlock (block : CometbftBlock) : CometbftBlockDb where
  id := block.blockHeight.toInt32
  encodedBlock := block.fetched.block
  encodedBlockResult := block.fetched.events
  epoch := block.fetched.epoch.toInt32

/-- `upsert_blocks` -/
def upsertBlocks (blocks : List CometbftBlock) (db : CometbftDb) : CometbftDb :=
  { db with blocks := db.blocks.insertOrIgnore (blocks.map .ofBlock) }

/-- `insert_crawler_state` -/
def insertCrawlerState (lastProcessedBlock : BlockHeight) (timestamp : ℤ) (db : CometbftDb) :
    CometbftDb :=
  { db with crawlerState := some ⟨lastProcessedBlock.toInt32,timestamp⟩ }

/-- `update_timestamp` -/
def updateTimestamp (timestamp : ℤ) (db : CometbftDb) : CometbftDb :=
  { db with crawlerState := db.crawlerState.map fun row => { row with timestamp } }

/-- The transaction for some blocks and the last height of them. -/
def commit (blocks : List CometbftBlock) (lastProcessedBlock : BlockHeight) (timestamp : ℤ)
    (db : CometbftDb) : CometbftDb :=
  insertCrawlerState lastProcessedBlock timestamp (upsertBlocks blocks db)

/-- `get_cometbft_crawler` -/
def getCometbftCrawler (db : CometbftDb) : Option BlockHeight :=
  db.crawlerState.map fun row => row.lastProcessedBlock.toUInt32

/-- The height in the state, zero where there is none. -/
def stateHeight (db : CometbftDb) : BlockHeight := (getCometbftCrawler db).getD 0

def CATCH_UP_THRESHOLD : UInt64 := 1000

/-- The options, and how the crawler was compiled. `chunks` panics on a size of zero. -/
structure AppConfig where
  batchSize : ℕ
  batchSize_pos : 0 < batchSize
  overflowChecks : Bool

/-- The choice in `main`: the first height of the initial query, if there is one. -/
def catchUp (overflowChecks : Bool) (stateHeight : BlockHeight) (toHeight : UInt64) :
    Panicking (Option UInt64) := do
  let fromHeight := stateHeight.toUInt64 + 1
  let behind ← subU64 overflowChecks toHeight CATCH_UP_THRESHOLD
  return if fromHeight < behind then some fromHeight else none

/-- The batches of the initial query: the chunks of `from_height..=to_height`. -/
def batches (config : AppConfig) (fromHeight toHeight : UInt64) : List (List ℕ) :=
  chunks config.batchSize (List.range' fromHeight.toNat (toHeight.toNat + 1 - fromHeight.toNat))

/-- The loop over the results of a batch. It breaks off at the first height that failed. -/
def successfulBlocks : List ℕ → List (Option Fetched) → List CometbftBlock
  | height::heights,some fetched::results =>
    ⟨UInt32.ofNat height,fetched⟩ :: successfulBlocks heights results
  | _,_ => []

/-- `chunk.last()`, as a height -/
def chunkMaxBlockHeight (chunk : List ℕ) : BlockHeight := UInt32.ofNat (chunk.getLast?.getD 0)

inductive Stage
  | initialQuery (batches : List (List ℕ))
  | crawling (crawl : Crawl)

/-- A process, with the height that it started at. -/
structure Process where
  start : ℕ
  stage : Stage

/-- The database, the process if one is running, and the height at which the first process
started that stored something. -/
structure System where
  db : CometbftDb
  process : Option Process
  origin : Option ℕ

def System.fresh (db : CometbftDb) : System := ⟨db,none,none⟩

/-- How a transaction ends. It may take effect and lose its answer. -/
inductive TransactionEnd
  | committed
  | failed
  | unanswered
  deriving DecidableEq, Repr

/-- How a call of `crawling_fn` goes. -/
inductive Attempt
  | rpcError
  | notYet (timestamp : ℤ)
  | fetched (fetched : Fetched) (transaction : TransactionEnd) (timestamp : ℤ)

inductive Label
  | start (latestBlock : UInt64)
  | batch (results : List (Option Fetched)) (transaction : TransactionEnd) (timestamp : ℤ)
  | finish
  | crash
  | raiseExit
  | poll
  | checkRetry
  | attempt (a : Attempt)

namespace System

/-- A step of the crawl loop. -/
def advance (s : System) (label : Crawler.Label) : Option System := do
  let process ← s.process
  match process.stage with
  | .crawling crawl =>
    let crawl ← crawl.step label
    return { s with process := some { process with stage := .crawling crawl } }
  | .initialQuery _ => none

/-- A transaction that takes effect. -/
def store (s : System) (start : ℕ) (blocks : List CometbftBlock) (lastProcessedBlock : BlockHeight)
    (timestamp : ℤ) : System :=
  { s with
    db := commit blocks lastProcessedBlock timestamp s.db
    origin := s.origin.or (some start) }

/-- One pass of the loop over a batch. Unless every height was fetched, the batch is fetched
again; an error of the database ends the process. -/
def queryBatch (s : System) (process : Process) (chunk : List ℕ) (rest : List (List ℕ))
    (results : List (Option Fetched)) (transaction : TransactionEnd) (timestamp : ℤ) : System :=
  let blocks := successfulBlocks chunk results
  if blocks.length ≠ chunk.length then s
  else
    let stored := s.store process.start blocks (chunkMaxBlockHeight chunk) timestamp
    match transaction with
    | .committed => { stored with process := some { process with stage := .initialQuery rest } }
    | .failed => { s with process := none }
    | .unanswered => { stored with process := none }

/-- A call of `crawling_fn` that has come to its end. -/
def attempt (s : System) (start index : ℕ) : Attempt → Option System
  | .rpcError => s.advance (.returns (.error .rpcError))
  | .notYet timestamp =>
    { s with db := updateTimestamp timestamp s.db }.advance (.returns (.error .noAction))
  | .fetched fetched transaction timestamp =>
    let blockHeight := UInt32.ofNat index
    let stored := s.store start [⟨blockHeight,fetched⟩] blockHeight timestamp
    match transaction with
    | .committed => stored.advance (.returns (.ok ()))
    | .failed => s.advance (.returns (.error .database))
    | .unanswered => stored.advance (.returns (.error .database))

/-- `main`, up to the initial query or the crawl loop -/
def startUp (config : AppConfig) (s : System) (latestBlock : UInt64) : System :=
  match catchUp config.overflowChecks (stateHeight s.db) latestBlock with
  | .panics _ => s
  | .returns (some fromHeight) =>
    { s with
      process := some ⟨fromHeight.toNat,.initialQuery (batches config fromHeight latestBlock)⟩ }
  | .returns none =>
    let height := (stateHeight s.db).toNat
    { s with process := some ⟨height,.crawling (Crawl.start height)⟩ }

/-- A process starts where none is running, and may crash at any time. A read that fails ends
the process as a crash does. -/
def step (config : AppConfig) (s : System) : Label → Option System
  | .start latestBlock =>
    match s.process with
    | some _ => none
    | none => some (s.startUp config latestBlock)
  | .batch results transaction timestamp => do
    let process ← s.process
    match process.stage with
    | .initialQuery (chunk::rest) =>
      some (s.queryBatch process chunk rest results transaction timestamp)
    | _ => none
  | .finish => do
    let process ← s.process
    match process.stage with
    | .initialQuery [] =>
      let crawl := Crawl.start (stateHeight s.db).toNat
      some { s with process := some { process with stage := .crawling crawl } }
    | _ => none
  | .crash => some { s with process := none }
  | .raiseExit => s.advance .raiseExit
  | .poll => s.advance .poll
  | .checkRetry => s.advance .checkRetry
  | .attempt a => do
    let process ← s.process
    match process.stage with
    | .crawling crawl =>
      match crawl.control with
      | .calling index => s.attempt process.start index a
      | _ => none
    | .initialQuery _ => none

end System
end NamadaIndexer.Cometbft
