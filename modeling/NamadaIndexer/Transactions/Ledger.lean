import NamadaIndexer.Foundation.Cells
import NamadaIndexer.Transactions.Acks

/-! What the transactions crawler has stored after any run of its blocks: wrappers and histories as
they came first, inner transactions with their last kind and data, and the packets with their last
status. -/
namespace NamadaIndexer.Transactions
open NamadaIndexer.Foundation NamadaIndexer.Foundation.Runs NamadaIndexer.Shared

/-- What happens to the packets that were sent. -/
inductive AckEvent
  | sent (row : IbcAckDb)
  | acknowledged (ack : IbcAck)

section
variable {sdk : Sdk}

def wrapperRows (pass : Pass sdk) : List WrapperTransactionDb :=
  pass.crawled.block.wrapperTxs.map (WrapperTransactionDb.ofTx sdk)

def innerRows (pass : Pass sdk) : List InnerTransactionDb :=
  pass.crawled.block.innerTxs.map (InnerTransactionDb.ofTx sdk)

/-- An inner transaction of the block names the target. -/
def Touches (pass : Pass sdk) (row : TransactionHistoryDb) : Prop :=
  ∃ tx ∈ pass.crawled.block.innerTxs, ∃ target ∈ Block.targetsOf sdk tx,
    TransactionHistoryDb.ofTarget sdk target = row

/-- The packets that a block sends, and the acknowledgements that it brings. -/
def ackEvents (pass : Pass sdk) : List AckEvent :=
  match pass.crawled.ibcSequencePacket with
  | .returns sequences =>
    sequences.map (fun sequence => .sent (.ofSequence sdk sequence)) ++
      pass.crawled.ibcAckPacket.map .acknowledged
  | .panics _ => []

variable (passes : List (Pass sdk)) (id : String)

/-- The wrapper transaction as it was first stored. -/
def firstWrapper : Option WrapperTransactionDb :=
  (passes.flatMap wrapperRows).find? fun row => row.id = id

/-- The inner transaction as it was first stored, with its last kind and data. -/
def refreshedInner : Option InnerTransactionDb :=
  ((passes.flatMap innerRows).find? fun row => row.id = id).bind fun first =>
    ((passes.flatMap innerRows).reverse.find? fun row => row.id = id).map fun last =>
      { first with kind := last.kind, data := last.data }

end

section
variable (id : String)

/-- The packet that the event sends under the identifier. -/
def sentAs : AckEvent → Option IbcAckDb
  | .sent row => if row.id = id then some row else none
  | .acknowledged _ => none

/-- The status that the event brings for the identifier. -/
def statusFor : AckEvent → Option IbcAckStatus
  | .sent _ => none
  | .acknowledged ack => if id = ack.id then some ack.status else none

/-- The cell of the identifier after one more event. -/
def applyAck (cell : Option IbcAckDb) : AckEvent → Option IbcAckDb
  | .sent row => cell.or (if row.id = id then some row else none)
  | .acknowledged ack =>
    cell.map fun row => if id = ack.id then { row with status := ack.status } else row

/-- The columns that stay as they were sent. -/
def sentRegister : Register AckEvent (String × Int64) where
  made event := (sentAs id event).map fun row => (row.txHash,row.timeout)
  written _ := none

/-- The status is the one that was acknowledged last since the packet was sent. -/
def statusRegister : Register AckEvent IbcAckStatus where
  made event := (sentAs id event).map (·.status)
  written := statusFor id

/-- The packet with its last status. -/
def recordedAck (events : List AckEvent) : Option IbcAckDb := do
  let (txHash,timeout) ← (sentRegister id).read events
  let status ← (statusRegister id).read events
  return ⟨id,txHash,timeout,status⟩

end

/-- Every inner transaction belongs to a stored wrapper, and every entry of the history is about a
stored inner transaction. -/
structure Referential (db : Db) : Prop where
  inners : ∀ row ∈ db.innerTransactions.rows, row.wrapperId ∈ db.wrapperTransactions.keys
  history : ∀ row ∈ db.transactionHistory.rows, row.innerTxId ∈ db.innerTransactions.keys

section
variable {sdk : Sdk} {db db' : Db} {pass : Pass sdk}

/-- An inner transaction that is stored has the wrapper of the first time. -/
lemma referential_commit (h : Referential db) (hstep : commit db pass = some db') :
    Referential db' := by
  have hstored := commit_eq_some.mp hstep
  have hwrappers : ∀ {id}, id ∈ db.wrapperTransactions.keys →
      id ∈ db'.wrapperTransactions.keys := by
    intro id hid
    rw [hstored.wrapperTransactions]
    exact Table.mem_keys_insertOrIgnore.mpr (.inl hid)
  have hinners : ∀ {id}, id ∈ db.innerTransactions.keys → id ∈ db'.innerTransactions.keys :=
    fun hid => (Table.mem_keys_upsert hstored.innerTransactions).mpr (.inl hid)
  obtain ⟨hnodup,hput⟩ := Table.upsert_eq_some.mp hstored.innerTransactions
  constructor
  · intro row hrow
    have hfind := Table.find?_of_mem hrow
    rw [Table.find?_foldlM_put hnodup hput] at hfind
    split at hfind
    · rename_i new hnew
      split at hfind
      · rename_i old hold
        obtain rfl := Option.some.inj hfind
        exact hwrappers (h.inners old (Table.find?_eq_some.mp hold).1)
      · rename_i hnone
        obtain rfl := Option.some.inj hfind
        have hmem := List.mem_of_find?_eq_some hnew
        exact (hstored.inner_references new hmem).resolve_left (Table.find?_eq_none.mp hnone)
    · exact hwrappers (h.inners row (Table.find?_eq_some.mp hfind).1)
  · intro row hrow
    rw [hstored.transactionHistory,Table.insertOrIgnore_rows] at hrow
    rcases List.mem_append.mp hrow with hold | hnew
    · exact hinners (h.history row hold)
    · have hfresh := Table.fresh_key_not_mem hnew
      exact (hstored.history_references row (Table.mem_of_mem_fresh hnew)).resolve_left hfresh

/-- What the insertion of new packets makes of a cell. -/
lemma foldl_sent (rows : List IbcAckDb) (id : String) (cell : Option IbcAckDb) :
    (rows.map AckEvent.sent).foldl (applyAck id) cell =
      cell.or (rows.find? fun row => row.id = id) := by
  induction rows generalizing cell with
  | nil => simp
  | cons row rows ih =>
    rw [List.map_cons,List.foldl_cons,ih,applyAck,List.find?_cons,Option.or_assoc]
    by_cases hid : row.id = id <;> simp [hid]

/-- What a block makes of the cell of a packet. -/
lemma find?_ack_commit {id : String} (hstep : commit db pass = some db') :
    db'.ibcAck.find? id = (ackEvents pass).foldl (applyAck id) (db.ibcAck.find? id) := by
  obtain ⟨sequences,inserted,hsequences,hinserted,hacks⟩ := (commit_eq_some.mp hstep).ibcAck
  have hsent : inserted.find? id = ((sequences.map fun sequence =>
      AckEvent.sent (.ofSequence sdk sequence)).foldl (applyAck id) (db.ibcAck.find? id)) := by
    have hmap : (sequences.map fun sequence => AckEvent.sent (.ofSequence sdk sequence)) =
        (sequences.map (IbcAckDb.ofSequence sdk)).map AckEvent.sent := by
      rw [List.map_map]
      rfl
    rw [hmap,foldl_sent,Table.find?,Table.insert_eq_some hinserted,List.find?_append]
    rfl
  have hupdates : (pass.crawled.ibcAckPacket.foldl updateAck inserted).find? id =
      (pass.crawled.ibcAckPacket.map AckEvent.acknowledged).foldl (applyAck id)
        (inserted.find? id) := by
    rw [List.foldl_map]
    refine Table.find?_foldl_mapRows_at setAckStatus_id (fun ack row hrow => ?_) _ inserted
    rw [setAckStatus,hrow]
  rw [hacks,hupdates,hsent,ackEvents,hsequences,List.foldl_append]

lemma map_sent (id : String) (events : List AckEvent) :
    (events.foldl (applyAck id) none).map (fun row => (row.txHash,row.timeout)) =
      (sentRegister id).read events := by
  apply Register.map_foldl
  · intro event
    cases event with
    | sent row => rfl
    | acknowledged ack => rfl
  · intro event old
    cases event with
    | sent row => rfl
    | acknowledged ack =>
      simp only [applyAck,sentRegister,Option.map_some]
      split <;> rfl

lemma map_status (id : String) (events : List AckEvent) :
    (events.foldl (applyAck id) none).map (·.status) = (statusRegister id).read events := by
  apply Register.map_foldl
  · intro event
    cases event with
    | sent row => rfl
    | acknowledged ack => rfl
  · intro event old
    cases event with
    | sent row => rfl
    | acknowledged ack =>
      simp only [applyAck,statusRegister,statusFor,Option.map_some]
      split <;> rfl

section
variable {passes : List (Pass sdk)} {tokens : List String} {db : Db}
  (hrun : execute commit (Db.empty tokens) passes = some db)
include hrun

lemma find?_wrapper (id : String) :
    db.wrapperTransactions.find? id = firstWrapper passes id := by
  rw [Table.insertOrIgnore_execute Db.wrapperTransactions hrun fun _ _ _ h =>
    (commit_eq_some.mp h).wrapperTransactions]
  exact Table.find?_insertOrIgnore_empty _ id

lemma find?_inner (id : String) :
    db.innerTransactions.find? id = refreshedInner passes id := by
  have hstep : ∀ (db : Db) (pass : Pass sdk) db', commit db pass = some db' →
      db'.innerTransactions.find? id = (innerRows pass).foldl
        (fun cell row => if row.id = id then Table.putRow (m := refreshKind) cell row else cell)
        (db.innerTransactions.find? id) :=
    fun _ _ _ h => Table.find?_upsert (commit_eq_some.mp h).innerTransactions id
  have hfold := observe_execute (fun db : Db => db.innerTransactions.find? id) hstep hrun
  exact hfold.trans (Table.foldl_putRow
    (fun old new : InnerTransactionDb => { old with kind := new.kind, data := new.data })
    (fun _ _ => rfl) (fun _ _ _ => rfl) (fun _ => rfl) id _)

lemma mem_history {row : TransactionHistoryDb} :
    row ∈ db.transactionHistory.rows ↔ ∃ pass ∈ passes, Touches pass row := by
  have hkeys : row ∈ db.transactionHistory.rows ↔ row ∈ db.transactionHistory.keys := by
    rw [Table.keys,List.map_id]
  have hsources : ∀ (pass : Pass sdk) (target : TransactionTarget),
      target ∈ pass.crawled.transactionSources ↔
        ∃ tx ∈ pass.crawled.block.innerTxs, target ∈ Block.targetsOf sdk tx := by
    intro pass target
    rw [pass.crawled.sources_enumerates.mem_iff,Block.sources,List.mem_toFinset,List.mem_flatMap]
  rw [hkeys,Table.insertOrIgnore_execute Db.transactionHistory hrun fun _ _ _ h =>
    (commit_eq_some.mp h).transactionHistory,Table.mem_keys_insertOrIgnore]
  simp only [Db.empty,Table.empty_keys,List.not_mem_nil,false_or,List.map_id,List.mem_flatMap,
    List.mem_map,hsources,Touches]
  refine exists_congr fun pass => and_congr_right fun _ => ?_
  constructor
  · rintro ⟨target,⟨tx,htx,htarget⟩,rfl⟩
    exact ⟨tx,htx,target,htarget,rfl⟩
  · rintro ⟨tx,htx,target,htarget,rfl⟩
    exact ⟨target,⟨tx,htx,htarget⟩,rfl⟩

lemma find?_ibcAck (id : String) :
    db.ibcAck.find? id = recordedAck id (passes.flatMap ackEvents) := by
  have hfold : db.ibcAck.find? id = (passes.flatMap ackEvents).foldl (applyAck id) none :=
    observe_execute (fun db : Db => db.ibcAck.find? id) (fun _ _ _ h => find?_ack_commit h) hrun
  simp only [recordedAck,←map_sent,←map_status,←hfold]
  cases hfind : db.ibcAck.find? id with
  | none => rfl
  | some row =>
    obtain rfl := (Table.find?_eq_some.mp hfind).2
    rfl

lemma referential_of_execute : Referential db :=
  execute_preserves Referential (fun _ _ _ => referential_commit)
    ⟨fun _ hrow => absurd hrow List.not_mem_nil,fun _ hrow => absurd hrow List.not_mem_nil⟩ hrun

end

end
end NamadaIndexer.Transactions
