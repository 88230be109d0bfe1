import NamadaIndexer.Foundation.Queries
import NamadaIndexer.Transactions.Ledger
import NamadaIndexer.Webserver.Pagination

/-! The history of addresses, page by page, and the status of the packet that a transaction sent,
after any run of the transactions crawler. -/
namespace NamadaIndexer.Webserver
open NamadaIndexer.Foundation NamadaIndexer.Foundation.Runs NamadaIndexer.Shared
open NamadaIndexer.Transactions (Db IbcAckDb InnerTransactionDb Pass TransactionHistoryDb
  TransactionKindDb WrapperTransactionDb ackEvents firstWrapper recordedAck refreshedInner Touches)

structure InnerTransaction where
  id : Id
  wrapperId : Id
  kind : TransactionKindDb
  data : Option String
  memo : Option String
  exitCode : TransactionExitStatus
  deriving DecidableEq, Repr

structure TransactionHistory where
  tx : InnerTransaction
  target : Id
  kind : TransactionHistoryKind
  blockHeight : UInt64
  deriving DecidableEq, Repr

structure IbcAck where
  status : IbcAckStatus
  timeout : Option Int64
  deriving DecidableEq, Repr

/-- `From<InnerTransactionDb> for InnerTransaction` -/
def InnerTransaction.fromDb (value : InnerTransactionDb) : InnerTransaction where
  id := .hash value.id
  wrapperId := .hash value.wrapperId
  kind := value.kind
  data := value.data
  memo := value.memo
  exitCode := value.exitCode

/-- A row of the history, its inner transaction and the height of the wrapper -/
abbrev HistoryRow := TransactionHistoryDb × InnerTransactionDb × Int32

def TransactionHistory.fromDb (row : HistoryRow) : TransactionHistory where
  tx := .fromDb row.2.1
  target := .account row.1.target
  kind := row.1.kind
  blockHeight := asU64 row.2.2

/-- The query of `find_addresses_history`, without its order -/
def addressesHistory (db : Db) (addresses : List String) : List HistoryRow :=
  let entries := db.transactionHistory.rows.filter fun entry => addresses.contains entry.target
  let inners := innerJoin (fun entry inner => decide (entry.innerTxId = inner.id)) entries
    db.innerTransactions.rows
  (innerJoin (fun row wrapper => decide (row.2.wrapperId = wrapper.id)) inners
    db.wrapperTransactions.rows).map fun row => (row.1.1,row.1.2,row.2.blockHeight)

/-- `get_transaction_history`, for one order of the rows -/
def getTransactionHistory (overflowChecks : Bool) (listed : List HistoryRow) :
    Option UInt64 → Panicking (Option (PaginatedResponse TransactionHistory)) :=
  showPage overflowChecks listed .fromDb

/-- `find_ibc_ack`, for one order of the rows -/
def findIbcAck (listed : List IbcAckDb) (txId : String) : Option IbcAckDb :=
  listed.find? fun ack => ack.txHash = txId

/-- `get_ack_by_tx_id` -/
def getAckByTxId (listed : List IbcAckDb) (txId : String) : IbcAck :=
  match findIbcAck listed txId with
  | some ack => ⟨ack.status,some ack.timeout⟩
  | none => ⟨.unknown,none⟩

section
variable {sdk : Sdk} {tokens : List String} {passes : List (Pass sdk)} {db : Db}
  (hrun : execute Transactions.commit (Db.empty tokens) passes = some db)

/-- A join on references to the keys of a table neither drops nor doubles a row. -/
lemma map_fst_joinKeys {α ρ κ : Type} [DecidableEq κ] {key : ρ → κ} {t : Table key}
    {reference : α → κ} {rows : List α} (h : ∀ row ∈ rows, reference row ∈ t.keys) :
    (innerJoin (fun row r => decide (reference row = key r)) rows t.rows).map Prod.fst = rows := by
  have hone : ∀ row ∈ rows, (t.rows.filter fun r => decide (reference row = key r)).length = 1 := by
    intro row hrow
    simpa only [eq_comm] using Table.length_filter_key (h row hrow)
  simpa only [List.filter_true] using map_fst_filter_innerJoin hone fun _ => true

/-- Every entry for the addresses is shown once. -/
lemma map_fst_addressesHistory (h : Transactions.Referential db) (addresses : List String) :
    (addressesHistory db addresses).map Prod.fst =
      db.transactionHistory.rows.filter fun entry => addresses.contains entry.target := by
  unfold addressesHistory
  dsimp only
  rw [List.map_map]
  calc _ = ((innerJoin _ _ _).map Prod.fst).map Prod.fst := (List.map_map ..).symm
    _ = (innerJoin _ _ _).map Prod.fst := congrArg _ (map_fst_joinKeys fun row hrow =>
      h.inners row.2 (mem_innerJoin.mp hrow).2.1)
    _ = _ := map_fst_joinKeys fun entry hentry =>
      h.history entry (List.mem_of_mem_filter hentry)

include hrun

lemma mem_addressesHistory {addresses : List String} {entry : TransactionHistoryDb}
    {inner : InnerTransactionDb} {height : Int32} :
    (entry,inner,height) ∈ addressesHistory db addresses ↔ entry.target ∈ addresses ∧
      (∃ pass ∈ passes, Touches pass entry) ∧ refreshedInner passes entry.innerTxId = some inner ∧
      ∃ wrapper, firstWrapper passes inner.wrapperId = some wrapper ∧ wrapper.blockHeight = height := by
  rw [addressesHistory,List.mem_map,←Transactions.mem_history hrun,
    ←Transactions.find?_inner hrun,Table.find?_eq_some]
  simp only [←Transactions.find?_wrapper hrun,Table.find?_eq_some,mem_innerJoin,List.mem_filter,
    List.contains_iff_mem,decide_eq_true_eq]
  constructor
  · rintro ⟨⟨⟨entry,inner⟩,wrapper⟩,⟨⟨⟨hentry,htarget⟩,hinner,hid⟩,hwrapper,hwid⟩,hsame⟩
    obtain ⟨rfl,rfl,rfl⟩ : _ ∧ _ ∧ _ := by simpa using hsame
    exact ⟨htarget,hentry,⟨hinner,hid.symm⟩,wrapper,⟨hwrapper,hwid.symm⟩,rfl⟩
  · rintro ⟨htarget,hentry,⟨hinner,hid⟩,wrapper,⟨hwrapper,hwid⟩,rfl⟩
    exact ⟨((entry,inner),wrapper),⟨⟨⟨hentry,htarget⟩,hinner,hid.symm⟩,hwrapper,hwid.symm⟩,rfl⟩

end

/-- The status for a transaction is that of a packet that it sent, as it was reported last; a
transaction without a packet has none. -/
theorem ack_shown {sdk : Sdk} (tokens : List String) (passes : List (Pass sdk)) (db : Db)
    (hrun : execute Transactions.commit (Db.empty tokens) passes = some db)
    (listed : List IbcAckDb) (hlisted : listed.Perm db.ibcAck.rows) (txId : String) :
    (∃ id ack, recordedAck id (passes.flatMap ackEvents) = some ack ∧ ack.txHash = txId ∧
      getAckByTxId listed txId = ⟨ack.status,some ack.timeout⟩) ∨
    (∀ id ack, recordedAck id (passes.flatMap ackEvents) = some ack → ack.txHash ≠ txId) ∧
      getAckByTxId listed txId = ⟨.unknown,none⟩ := by
  simp only [←Transactions.find?_ibcAck hrun,getAckByTxId]
  cases hfind : findIbcAck listed txId with
  | some ack =>
    refine .inl ⟨ack.id,ack,Table.find?_eq_some.mpr ⟨?_,rfl⟩,?_,rfl⟩
    · exact hlisted.mem_iff.mp (List.mem_of_find?_eq_some hfind)
    · simpa using List.find?_some hfind
  | none =>
    refine .inr ⟨fun id ack hack hsent => ?_,rfl⟩
    have hrow := hlisted.mem_iff.mpr (Table.find?_eq_some.mp hack).1
    exact List.find?_eq_none.mp hfind ack hrow (decide_eq_true hsent)

/-- A validator is reactivated in the first block, and deactivated in the second. -/
def statusBlocks : List (Pass Sdk.sample) :=
  [Transactions.sampleBlock 1 "b1" [(Transactions.sampleWrapper "w1" 1,
      [Transactions.sampleInner "i1" "w1" (.reactivateValidator (some (.implicit "v"))) .applied])] [],
    Transactions.sampleBlock 2 "b2" [(Transactions.sampleWrapper "w2" 2,
      [Transactions.sampleInner "i2" "w2" (.deactivateValidator (some (.implicit "v"))) .applied])] []]

def statusHistory : List HistoryRow :=
  [(⟨"i2",sampleEncode (.implicit "v"),.sent⟩,⟨"i2","w2",.deactivateValidator,none,none,.applied⟩,2),
    (⟨"i1",sampleEncode (.implicit "v"),.sent⟩,⟨"i1","w1",.reactivateValidator,none,none,.applied⟩,1)]

theorem ack_shown_of_timeoutBlock :
    ∃ db, execute Transactions.commit (Db.empty [])
        [Transactions.sendBlock,Transactions.timeoutBlock .applied] = some db ∧
      ∃ ack : IbcAckDb, ack.txHash = "i1" ∧
        getAckByTxId db.ibcAck.rows "i1" = ⟨ack.status,some ack.timeout⟩ := by
  obtain ⟨db,hrun⟩ : ∃ db, execute Transactions.commit (Db.empty [])
      [Transactions.sendBlock,Transactions.timeoutBlock .applied] = some db :=
    Option.isSome_iff_exists.mp (by decide +kernel)
  refine ⟨db,hrun,?_⟩
  obtain ⟨-,ack,-,hsent,hshown⟩ | ⟨hnone,-⟩ := ack_shown []
    [Transactions.sendBlock,Transactions.timeoutBlock .applied] db hrun _ (.refl _) "i1"
  · exact ⟨ack,hsent,hshown⟩
  · exact absurd rfl (hnone "transfer/channel-1/transfer/channel-0/7"
      ⟨"transfer/channel-1/transfer/channel-0/7","i1",0,.timeout⟩ (by decide +kernel))

end NamadaIndexer.Webserver
