import Mathlib.Data.Int.ConditionallyCompleteOrder
import NamadaIndexer.Foundation.Queries
import NamadaIndexer.Pos.Stakes
import NamadaIndexer.Transactions.Ledger
import NamadaIndexer.Webserver.EpochTimes

/-! Blocks and transactions as they are shown after any run of the crawlers. Both the chain crawler
and the transactions crawler store the blocks that they process. A block is found by its height, by
one of its hashes, and by a time shortly after it. -/
namespace NamadaIndexer.Webserver
open NamadaIndexer.Foundation NamadaIndexer.Foundation.Runs NamadaIndexer.Shared
open NamadaIndexer.Chain (Context IbcTokenDb TokenDb)
open NamadaIndexer.Pos (StakingDb)
open NamadaIndexer.Transactions (BlockDb Db Pass WrapperTransactionDb)

/-- The entity `Block` -/
structure BlockEntity where
  height : UInt64
  hash : Option Id
  appHash : Option Id
  timestamp : Option ℤ
  proposer : Option Id
  epoch : Option UInt64
  deriving DecidableEq, Repr

/-- The entity `WrapperTransaction` -/
structure WrapperEntity where
  id : Id
  feePayer : Id
  feeToken : Token
  gasLimit : UInt64
  gasUsed : Option UInt64
  amountPerGasUnit : Option F64
  maspFeePayment : Option String
  blockHeight : UInt64
  exitCode : TransactionExitStatus
  atomic : Bool
  deriving DecidableEq

inductive BlockError
  | notFound (column value : String)
  deriving DecidableEq, Repr

/-- `Block::from_db` -/
def BlockEntity.fromDb (block : BlockDb) : BlockEntity where
  height := asU64 block.height
  hash := block.hash.map .hash
  appHash := block.appHash.map .hash
  timestamp := block.timestamp
  proposer := block.proposer.map .account
  epoch := block.epoch.map asU64

/-- `parse` of the texts of numbers -/
structure NumberParser where
  parseU64 : String → Option UInt64
  parseF64 : String → Option F64

section
variable (parser : NumberParser) (tokens : List (TokenDb × Option IbcTokenDb))

/-- The token of a fee, if it is known. -/
def feeTokenOf (address : String) : Option Token :=
  tokens.findSome? fun row =>
    if address = row.1.address then
      match row.2 with
      | some ibcToken => some (.ibc ⟨.account ibcToken.address,some (.ibcTrace ibcToken.ibcTrace)⟩)
      | none => some (.native (.account row.1.address))
    else none

/-- `WrapperTransaction::from_db` -/
def WrapperEntity.fromDb (transaction : WrapperTransactionDb) : Panicking WrapperEntity := do
  let feeToken ← Panicking.expect "Fee token should be known."
    (feeTokenOf tokens transaction.feeToken)
  let gasLimit ← Panicking.expect "Should be a number" (parser.parseU64 transaction.gasLimit)
  let amountPerGasUnit ← match transaction.amountPerGasUnit with
    | some amount => some <$> Panicking.expect "Should be a number" (parser.parseF64 amount)
    | none => pure none
  return {
    id := .hash transaction.id
    feePayer := .account transaction.feePayer
    feeToken
    gasLimit
    gasUsed := transaction.gasUsed.map asU64
    amountPerGasUnit
    maspFeePayment := transaction.maspFeePayment
    blockHeight := asU64 transaction.blockHeight
    exitCode := transaction.exitCode
    atomic := transaction.atomic }

end

/-- `i32::checked_sub(1)` -/
def checkedPred (n : Int32) : Option Int32 := if n = Int32.minValue then none else some (n - 1)

/-- `u64::checked_sub(1)` -/
def checkedPredU64 (n : UInt64) : Option UInt64 := if n = 0 then none else some (n - 1)

section
variable (db : Db)

def findBlockByHeight (height : Int32) : Option BlockDb := db.blocks.find? height

/-- The query of `find_block_by_timestamp`, without its order -/
def blocksByTimestamp (timestamp : ℤ) : List BlockDb :=
  db.blocks.rows.filter fun block => block.timestamp.any fun at_ =>
    decide (timestamp - 60 ≤ at_) && decide (at_ ≤ timestamp)

/-- The query of `find_block_by_hash`, without its order -/
def blocksByHash (hash : String) : List BlockDb :=
  db.blocks.rows.filter fun block => block.hash = some hash || block.appHash = some hash

def findTxsByBlockHeight (height : Int32) : List WrapperTransactionDb :=
  db.wrapperTransactions.rows.filter fun row => row.blockHeight = height

end

/-- Blocks without a time come first where times descend. -/
def timestampOrder (block : BlockDb) : WithTop ℤ := block.timestamp.elim ⊤ fun time => time

section
variable (parser : NumberParser) (tokens : List (TokenDb × Option IbcTokenDb)) (db : Db)

/-- A block with the one before it and its transactions. -/
abbrev BlockShown := BlockEntity × Option BlockEntity × List WrapperEntity

/-- What the three requests have in common. -/
def showBlock (block : BlockEntity) (previous : Option Int32) (height : Int32) :
    Panicking BlockShown := do
  let prevBlock := (previous.bind (findBlockByHeight db)).map BlockEntity.fromDb
  let transactions ← (findTxsByBlockHeight db height).mapM (WrapperEntity.fromDb parser tokens)
  return (block,prevBlock,transactions)

/-- `get_block_by_hash`, for one order of the rows -/
def getBlockByHash (listed : List BlockDb) (hash : String) :
    Panicking (Except BlockError BlockShown) :=
  match listed.head?.map BlockEntity.fromDb with
  | none => return .error (.notFound "hash" hash)
  | some block =>
    .ok <$> showBlock parser tokens db block ((checkedPredU64 block.height).map asI32)
      (asI32 block.height)

/-- `get_block_by_height` -/
def getBlockByHeight (height : Int32) : Panicking (Except BlockError BlockShown) :=
  match (findBlockByHeight db height).map BlockEntity.fromDb with
  | none => return .error (.notFound "height" (toString height.toInt))
  | some block => .ok <$> showBlock parser tokens db block (checkedPred height) height

/-- `get_block_by_timestamp`, for one order of the rows -/
def getBlockByTimestamp (listed : List BlockDb) (timestamp : ℤ) :
    Panicking (Except BlockError BlockShown) :=
  match listed.head?.map BlockEntity.fromDb with
  | none => return .error (.notFound "timestamp" (toString timestamp))
  | some block =>
    .ok <$> showBlock parser tokens db block (checkedPred (asI32 block.height)) (asI32 block.height)

end

/-- The tables of the crawlers. That of the blocks is the same for all of them. -/
structure CrawledDb where
  staking : StakingDb
  transactions : Db

def CrawledDb.empty : CrawledDb := ⟨.empty,.empty []⟩

/-- The tables that the transactions crawler reads and writes. -/
def CrawledDb.shared (db : CrawledDb) : Db :=
  { db.transactions with
    blocks := db.staking.chain.blocks
    tokens := db.staking.chain.tokens.keys }

/-- A transaction that took effect: one on the tables of proof of stake, or the one of a block of the
transactions crawler. -/
inductive Crawled (ctx : Context)
  | staking (transaction : Pos.Transaction)
  | transactions (pass : Pass ctx.sdk)

def Crawled.step (ctx : Context) (db : CrawledDb) : Crawled ctx → Option CrawledDb
  | .staking transaction => (transaction.step ctx db.staking).map fun staking =>
    { db with staking }
  | .transactions pass => (Transactions.commit db.shared pass).map fun transactions =>
    ⟨{ db.staking with chain := { db.staking.chain with blocks := transactions.blocks } },
      transactions⟩

section
variable (ctx : Context)

/-- The blocks that a transaction stores. -/
def stakingBlocks : Pos.Transaction → List BlockDb
  | .initialQuery data => [.ofBlock ctx.sdk data.current.block]
  | .block gathered _ => [.ofBlock ctx.sdk gathered.current.block]
  | .reindexBonds _ _ | .validatorSet _ _ | .rewards _ _ => []

def Crawled.blocks : Crawled ctx → List BlockDb
  | .staking transaction => stakingBlocks ctx transaction
  | .transactions pass => [.ofBlock ctx.sdk pass.crawled.block]

def Crawled.wrappers : Crawled ctx → List WrapperTransactionDb
  | .staking _ => []
  | .transactions pass => Transactions.wrapperRows pass

variable (run : List (Crawled ctx))

/-- The block of a height that was processed last, by either crawler. -/
def lastBlock (height : Int32) : Option BlockDb :=
  (run.flatMap (Crawled.blocks ctx)).reverse.find? fun row => row.height = height

/-- The wrapper transaction as it was first stored. -/
def firstCrawled (id : String) : Option WrapperTransactionDb :=
  (run.flatMap (Crawled.wrappers ctx)).find? fun row => row.id = id

end

section
variable {ctx : Context}

/-- The blocks of a transaction are put into the table. -/
lemma blocks_of_stakingStep {transaction : Pos.Transaction} {db db' : StakingDb}
    (h : transaction.step ctx db = some db') :
    (stakingBlocks ctx transaction).foldlM (Table.put Transactions.replaceBlock) db.chain.blocks =
      some db'.chain.blocks := by
  cases transaction with
  | initialQuery data =>
    obtain ⟨chain,hchain,rfl⟩ := Option.map_eq_some_iff.mp h
    rw [stakingBlocks,List.foldlM_cons,(Chain.committed_of_commitInitial hchain).blocks]
    rfl
  | block gathered shouldUpdateCrawlerState =>
    obtain ⟨chain,hchain,rfl⟩ := Option.map_eq_some_iff.mp h
    rw [stakingBlocks,List.foldlM_cons,(Chain.committed_of_commit hchain).blocks]
    rfl
  | reindexBonds client done =>
    obtain rfl := Option.some.inj h
    obtain ⟨bonds,unbonds,hsame⟩ := Pos.reindexBonds_frame client done db.chain
    dsimp only
    rw [hsame]
    rfl
  | validatorSet validatorsSet epochToProcess =>
    obtain ⟨chain,hchain,rfl⟩ := Pos.commit_eq_some.mp h
    obtain ⟨_,-,_,-,rfl⟩ := Pos.upsertValidators_eq_some.mp hchain
    rfl
  | rewards nonZeroRewards epochToProcess =>
    obtain ⟨chain,hchain,rfl⟩ := Rewards.commit_eq_some.mp h
    obtain ⟨-,-,_,-,rfl⟩ := Rewards.upsertRewards_eq_some.mp hchain
    rfl

variable {run : List (Crawled ctx)} {db : CrawledDb}

lemma replaceBlock_run {old new : BlockDb} (h : old.height = new.height) :
    Transactions.replaceBlock.run old new = some new := by
  change some { new with height := old.height } = some new
  rw [h]

lemma map_checkedPredU64 {height : Int32} (hzero : height ≠ 0) (hmin : height ≠ Int32.minValue) :
    (checkedPredU64 (asU64 height)).map asI32 = checkedPred height := by
  have hpos : asU64 height ≠ 0 := fun h => hzero (asU64_injective h)
  have hpred : asI32 (asU64 height - 1) = asI32 (asU64 height) - 1 := by
    apply Int32.toBitVec_inj.mp
    simp [asI32]
  rw [checkedPredU64,checkedPred,if_neg hpos,if_neg hmin,Option.map_some,hpred,asI32_asU64]

section
variable (hrun : execute (Crawled.step ctx) .empty run = some db)
include hrun

lemma findBlockByHeight_eq (height : Int32) :
    findBlockByHeight db.shared height = lastBlock ctx run height := by
  have hstep : ∀ (db : CrawledDb) (crawled : Crawled ctx) db', crawled.step ctx db = some db' →
      db'.shared.blocks.find? height = (crawled.blocks ctx).foldl
        (fun cell row => if row.height = height then
          Table.putRow (m := Transactions.replaceBlock) cell row else cell)
        (db.shared.blocks.find? height) := by
    intro db crawled db' h
    refine Table.find?_foldlM_put_eq_foldl ?_ height
    cases crawled with
    | staking transaction =>
      obtain ⟨staking,hstaking,rfl⟩ := Option.map_eq_some_iff.mp h
      exact blocks_of_stakingStep hstaking
    | transactions pass =>
      obtain ⟨transactions,htransactions,rfl⟩ := Option.map_eq_some_iff.mp h
      rw [Crawled.blocks,List.foldlM_cons,(Transactions.commit_eq_some.mp htransactions).blocks]
      rfl
  have hfold := observe_execute (fun db : CrawledDb => db.shared.blocks.find? height) hstep hrun
  refine hfold.trans ((Table.foldl_putRow_replaces (fun _ _ => replaceBlock_run) _
    (by rintro row ⟨⟩)).trans ?_)
  exact Option.or_none

lemma find?_crawled (id : String) :
    db.transactions.wrapperTransactions.find? id = firstCrawled ctx run id := by
  have hstep : ∀ (db : CrawledDb) (crawled : Crawled ctx) db', crawled.step ctx db = some db' →
      db'.transactions.wrapperTransactions =
        db.transactions.wrapperTransactions.insertOrIgnore (crawled.wrappers ctx) := by
    intro db crawled db' h
    cases crawled with
    | staking transaction =>
      obtain ⟨staking,-,rfl⟩ := Option.map_eq_some_iff.mp h
      exact (Table.insertOrIgnore_nil _).symm
    | transactions pass =>
      obtain ⟨transactions,htransactions,rfl⟩ := Option.map_eq_some_iff.mp h
      exact (Transactions.commit_eq_some.mp htransactions).wrapperTransactions
  rw [Table.insertOrIgnore_execute (fun db : CrawledDb => db.transactions.wrapperTransactions) hrun
    hstep]
  exact Table.find?_insertOrIgnore_empty _ id

lemma mem_blocks {row : BlockDb} : row ∈ db.shared.blocks.rows ↔
    lastBlock ctx run row.height = some row := by
  rw [←findBlockByHeight_eq hrun,findBlockByHeight,Table.find?_eq_some]
  exact (and_iff_left rfl).symm

lemma mem_findTxsByBlockHeight {height : Int32} {row : WrapperTransactionDb} :
    row ∈ findTxsByBlockHeight db.shared height ↔
      firstCrawled ctx run row.id = some row ∧ row.blockHeight = height := by
  rw [findTxsByBlockHeight,List.mem_filter,←find?_crawled hrun,Table.find?_eq_some]
  simp [CrawledDb.shared]

/-- Blocks that are found by their time are shown as for their height. -/
lemma getBlockByTimestamp_eq {parser : NumberParser} {known : List (TokenDb × Option IbcTokenDb)}
    {listed : List BlockDb} {timestamp : ℤ} {row : BlockDb} (hrow : listed.head? = some row)
    (hstored : lastBlock ctx run row.height = some row) :
    getBlockByTimestamp parser known db.shared listed timestamp =
      getBlockByHeight parser known db.shared row.height := by
  rw [getBlockByTimestamp,getBlockByHeight,findBlockByHeight_eq hrun,hstored,hrow]
  simp [BlockEntity.fromDb]

end

/-- The time is that of the block or up to a minute after it. -/
def WithinMinute (timestamp : ℤ) (block : BlockDb) : Prop :=
  ∃ time ∈ block.timestamp, timestamp - 60 ≤ time ∧ time ≤ timestamp

/-- The text is one of the hashes of the block. -/
def HasHash (hash : String) (block : BlockDb) : Prop :=
  block.hash = some hash ∨ block.appHash = some hash

/-- A block is stored as either crawler processed it last, with the transactions that were stored
first. Of the blocks with a hash, or within a minute before a time, the latest one is shown, and it
is shown as for its height; but for a hash nothing is before the block at zero. -/
theorem blocks_shown (ctx : Context) (run : List (Crawled ctx)) (db : CrawledDb)
    (hrun : execute (Crawled.step ctx) .empty run = some db)
    (parser : NumberParser) (known : List (TokenDb × Option IbcTokenDb)) :
    (∀ height, findBlockByHeight db.shared height = lastBlock ctx run height) ∧
    (∀ height row, row ∈ findTxsByBlockHeight db.shared height ↔
      firstCrawled ctx run row.id = some row ∧ row.blockHeight = height) ∧
    (∀ timestamp listed, Descending timestampOrder (blocksByTimestamp db.shared timestamp) listed →
      (∀ row, listed.head? = some row →
        (lastBlock ctx run row.height = some row ∧ WithinMinute timestamp row) ∧
        (∀ other, lastBlock ctx run other.height = some other → WithinMinute timestamp other →
          timestampOrder other ≤ timestampOrder row) ∧
        getBlockByTimestamp parser known db.shared listed timestamp =
          getBlockByHeight parser known db.shared row.height) ∧
      (listed.head? = none → ∀ other, lastBlock ctx run other.height = some other →
        ¬ WithinMinute timestamp other)) ∧
    (∀ hash listed, Descending timestampOrder (blocksByHash db.shared hash) listed →
      (∀ row, listed.head? = some row →
        (lastBlock ctx run row.height = some row ∧ HasHash hash row) ∧
        (∀ other, lastBlock ctx run other.height = some other → HasHash hash other →
          timestampOrder other ≤ timestampOrder row) ∧
        (row.height ≠ 0 → row.height ≠ Int32.minValue →
          getBlockByHash parser known db.shared listed hash =
            getBlockByHeight parser known db.shared row.height) ∧
        (row.height = 0 → getBlockByHash parser known db.shared listed hash =
          .ok <$> showBlock parser known db.shared (.fromDb row) none 0)) ∧
      (listed.head? = none → ∀ other, lastBlock ctx run other.height = some other →
        ¬ HasHash hash other)) := by
  have hminute : ∀ timestamp row, row ∈ blocksByTimestamp db.shared timestamp ↔
      lastBlock ctx run row.height = some row ∧ WithinMinute timestamp row := by
    intro timestamp row
    rw [blocksByTimestamp,List.mem_filter,mem_blocks hrun,WithinMinute]
    simp [Option.any_eq_true]
  have hhash : ∀ hash row, row ∈ blocksByHash db.shared hash ↔
      lastBlock ctx run row.height = some row ∧ HasHash hash row := by
    intro hash row
    rw [blocksByHash,List.mem_filter,mem_blocks hrun,HasHash]
    simp
  refine ⟨findBlockByHeight_eq hrun,fun height row => mem_findTxsByBlockHeight hrun,
    fun timestamp listed hlisted => ⟨fun row hrow => ?_,fun hnone other hother hwithin => ?_⟩,
    fun hash listed hlisted => ⟨fun row hrow => ?_,fun hnone other hother hhas => ?_⟩⟩
  · obtain ⟨hmem,hlatest⟩ := hlisted.head hrow
    have hstored := (hminute timestamp row).mp hmem
    exact ⟨hstored,fun other hother hwithin => hlatest other ((hminute _ _).mpr ⟨hother,hwithin⟩),
      getBlockByTimestamp_eq hrun hrow hstored.1⟩
  · have hmem := (hminute timestamp other).mpr ⟨hother,hwithin⟩
    rw [hlisted.head_none hnone] at hmem
    exact List.not_mem_nil hmem
  · obtain ⟨hmem,hlatest⟩ := hlisted.head hrow
    have hstored := (hhash hash row).mp hmem
    refine ⟨hstored,fun other hother hhas => hlatest other ((hhash _ _).mpr ⟨hother,hhas⟩),?_,?_⟩
    · intro hzero hmin
      rw [getBlockByHash,getBlockByHeight,findBlockByHeight_eq hrun,hstored.1,hrow]
      simp [BlockEntity.fromDb,map_checkedPredU64 hzero hmin]
    · intro hzero
      rw [getBlockByHash,hrow]
      simp only [Option.map_some,BlockEntity.fromDb,hzero]
      rfl
  · have hmem := (hhash hash other).mpr ⟨hother,hhas⟩
    rw [hlisted.head_none hnone] at hmem
    exact List.not_mem_nil hmem

end

/-- Only the text without characters is a number. -/
def emptyNumber : NumberParser where
  parseU64 text := if text = "" then some 0 else none
  parseF64 text := if text = "" then some (.finite 0) else none

def secondBlock : BlockDb := ⟨2,some "b2",some "",some 0,none,some 1⟩

def secondBlockShown : BlockShown :=
  (.fromDb secondBlock,some ⟨1,some (.hash "b1"),some (.hash ""),some 0,none,some 1⟩,
    [⟨.hash "w2",.account "",.native (.account ""),0,none,some (.finite 0),none,2,.applied,false⟩])

def blocksContext : Context := { Chain.sampleContext bondTx with sdk := Sdk.sample }

/-- The second block is stored by both crawlers, by the chain crawler last. -/
def crawledRun : List (Crawled blocksContext) :=
  [.transactions Transactions.sendBlock,.transactions (Transactions.timeoutBlock .applied),
    .staking (.block { Pos.bondedGathered [] with
      current := ⟨2,2,⟨[],[]⟩,.established "nam",1,⟨.hash "b2",⟨2,"",none,0,.hash ""⟩,[],1⟩⟩ } true)]

theorem blocks_shown_of_crawledRun : ∃ db,
    execute (Crawled.step blocksContext) .empty crawledRun = some db ∧
      getBlockByHash emptyNumber [(⟨"",.native⟩,none)] db.shared [secondBlock] "b2" =
        .returns (.ok secondBlockShown) := by
  have hfound : (execute (Crawled.step blocksContext) .empty crawledRun).map (fun db =>
      blocksByHash db.shared "b2") = some [secondBlock] := by
    decide +kernel
  have hheight : (execute (Crawled.step blocksContext) .empty crawledRun).map (fun db =>
      getBlockByHeight emptyNumber [(⟨"",.native⟩,none)] db.shared 2) =
      some (.returns (.ok secondBlockShown)) := by
    decide +kernel
  obtain ⟨db,hrun,hrows⟩ := Option.map_eq_some_iff.mp hfound
  rw [hrun] at hheight
  have hlisted : Descending timestampOrder (blocksByHash db.shared "b2") [secondBlock] := by
    rw [hrows]
    exact ⟨.refl _,List.pairwise_singleton _ _⟩
  obtain ⟨-,-,-,hhash⟩ :=
    blocks_shown blocksContext crawledRun db hrun emptyNumber [(⟨"",.native⟩,none)]
  obtain ⟨-,-,hshown,-⟩ := (hhash "b2" [secondBlock] hlisted).1 secondBlock rfl
  refine ⟨db,hrun,?_⟩
  rw [hshown (by decide) (by decide)]
  exact Option.some.inj hheight

end NamadaIndexer.Webserver
