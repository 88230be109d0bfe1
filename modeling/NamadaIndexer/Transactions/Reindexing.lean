import NamadaIndexer.Transactions.Flows

/-! Indexing a block once more after it has been stored: when the second pass changes
nothing. -/
namespace NamadaIndexer.Transactions
open NamadaIndexer.Foundation NamadaIndexer.Shared

section
variable {sdk : Sdk}

/-- The states of the database since a block has been stored: other blocks are stored, or
the same one again, and other crawlers register tokens. A height has one block. -/
inductive Since (first : Pass sdk) : Db → Prop
  | stored {db db' : Db} (h : commit db first = some db') : Since first db'
  | later {db db' : Db} (hsince : Since first db) {pass : Pass sdk}
    (hchain : pass.crawled.block.header.height = first.crawled.block.header.height →
      BlockDb.ofBlock sdk pass.crawled.block = BlockDb.ofBlock sdk first.crawled.block)
    (h : commit db pass = some db') : Since first db'
  | registered {db : Db} (hsince : Since first db) (tokens : List String) :
    Since first { db with tokens }

/-- The tables of two states agree up to the order of their rows, and the inner transactions
up to kind and data. -/
structure Unchanged (db db' : Db) : Prop where
  blocks : db'.blocks.rows.Perm db.blocks.rows
  wrapperTransactions : db'.wrapperTransactions.rows.Perm db.wrapperTransactions.rows
  innerTransactions :
    (db'.innerTransactions.rows.map fun row => (row.id,row.wrapperId,row.memo,row.exitCode)).Perm
      (db.innerTransactions.rows.map fun row => (row.id,row.wrapperId,row.memo,row.exitCode))
  ibcAck : db'.ibcAck.rows.Perm db.ibcAck.rows
  ibcTokenFlows : db'.ibcTokenFlows.rows.Perm db.ibcTokenFlows.rows
  transactionHistory : db'.transactionHistory.rows.Perm db.transactionHistory.rows
  gasEstimations : db'.gasEstimations.Perm db.gasEstimations
  maspPool : db'.maspPool.rows.Perm db.maspPool.rows
  maspPoolAggregate : db'.maspPoolAggregate.rows.Perm db.maspPoolAggregate.rows
  crawlerState : db'.crawlerState = db.crawlerState

/-- What a block must not do to be indexed twice: send a packet, count a flow, give a gas
estimate, or acknowledge a packet otherwise than is stored. -/
structure Repeatable (c : Crawled sdk) (db : Db) : Prop where
  sends_nothing : ∀ event ∈ c.blockResults.endEvents, ∀ packet,
    event.attributes = some (.sendPacket packet) →
      ∃ id, event.innerTxHash = some id ∧ isSuccessfulTx c.block.transactions id = false
  counts_nothing : ∀ action token,
    roundHalfAway (counted action token (getIbcTokenFlows sdk c.blockResults)) = 0
  estimates_nothing : ∀ batch ∈ c.block.transactions,
    ∃ innerTx ∈ batch.2, innerTx.wasSuccessful batch.1 = false
  same_status : ∀ row ∈ db.ibcAck.rows, ∀ ack,
    (getIbcAckPacket sdk c.block.innerTxs).reverse.find? (fun ack => row.id = ack.id) = some ack →
      ack.status = row.status

/-- What stays true of the database once a block is stored: its rows are there. -/
structure Indexed (c : Crawled sdk) (db : Db) : Prop where
  block : BlockDb.ofBlock sdk c.block ∈ db.blocks.rows
  hash_unique : ∀ other ∈ db.blocks.rows, other.hash = (BlockDb.ofBlock sdk c.block).hash →
    other.height = (BlockDb.ofBlock sdk c.block).height
  wrapperTransactions : ∀ row ∈ c.block.wrapperTxs.map (WrapperTransactionDb.ofTx sdk),
    row.id ∈ db.wrapperTransactions.keys
  innerTransactions : ∀ row ∈ c.block.innerTxs.map (InnerTransactionDb.ofTx sdk),
    row.id ∈ db.innerTransactions.keys
  inner_nodup : ((c.block.innerTxs.map (InnerTransactionDb.ofTx sdk)).map (·.id)).Nodup
  ibcAck : ∃ sequences, c.ibcSequencePacket = .returns sequences ∧
    ∀ row ∈ sequences.map (IbcAckDb.ofSequence sdk), row.id ∈ db.ibcAck.keys
  ibcTokenFlows : ∀ flow ∈ c.ibcTokenFlows,
    (flow.address,flow.epoch.toInt32) ∈ db.ibcTokenFlows.keys
  transactionHistory : ∀ row ∈ c.transactionSources.map (TransactionHistoryDb.ofTarget sdk),
    row ∈ db.transactionHistory.keys
  gasEstimations : ∀ row ∈ c.gasEstimates.map (GasEstimationDb.ofEstimation sdk),
    row.wrapperId ∈ db.wrapperTransactions.keys
  maspPool : ∀ row ∈ (c.block.maspEntries sdk).map (MaspDb.ofEntry sdk),
    row.innerTxId ∈ db.maspPool.keys

/-- The keys of the tables are kept. -/
structure Grows (db db' : Db) : Prop where
  wrapperTransactions : db.wrapperTransactions.keys ⊆ db'.wrapperTransactions.keys
  innerTransactions : db.innerTransactions.keys ⊆ db'.innerTransactions.keys
  ibcAck : db.ibcAck.keys ⊆ db'.ibcAck.keys
  ibcTokenFlows : db.ibcTokenFlows.keys ⊆ db'.ibcTokenFlows.keys
  transactionHistory : db.transactionHistory.keys ⊆ db'.transactionHistory.keys
  maspPool : db.maspPool.keys ⊆ db'.maspPool.keys

variable {c : Crawled sdk} {db db' : Db}

theorem foldl_updateAck_rows (acks : List IbcAck) (table : Table IbcAckDb.id) :
    (acks.foldl updateAck table).rows =
      table.rows.map fun row => acks.foldl (fun row ack => setAckStatus ack row) row :=
  Table.foldl_mapRows_rows setAckStatus setAckStatus_id acks table

theorem foldl_setAckStatus_id (acks : List IbcAck) (row : IbcAckDb) :
    (acks.foldl (fun row ack => setAckStatus ack row) row).id = row.id := by
  induction acks generalizing row with
  | nil => rfl
  | cons ack acks ih => rw [List.foldl_cons,ih,setAckStatus_id]

theorem foldl_updateAck_keys (acks : List IbcAck) (table : Table IbcAckDb.id) :
    (acks.foldl updateAck table).keys = table.keys := by
  rw [Table.keys,foldl_updateAck_rows,List.map_map,Table.keys]
  exact List.map_congr_left fun row _ => foldl_setAckStatus_id acks row

/-- Of several acknowledgements of a packet, the last one counts. -/
theorem foldl_setAckStatus (acks : List IbcAck) (row : IbcAckDb) :
    acks.foldl (fun row ack => setAckStatus ack row) row =
      match acks.reverse.find? (fun ack => row.id = ack.id) with
      | some ack => { row with status := ack.status }
      | none => row := by
  induction acks using List.reverseRecOn with
  | nil => rfl
  | append_singleton acks ack ih =>
    have hid := foldl_setAckStatus_id acks row
    rw [List.foldl_append,List.foldl_cons,List.foldl_nil,List.reverse_append,List.reverse_singleton,
      List.singleton_append,List.find?_cons,setAckStatus,hid]
    by_cases hack : row.id = ack.id
    · rw [if_pos hack,decide_eq_true hack,ih]
      cases acks.reverse.find? fun ack => row.id = ack.id <;> rfl
    · rw [if_neg hack,decide_eq_false hack]
      exact ih

/-- A row keeps its status exactly if the last acknowledgement of its packet agrees. -/
theorem foldl_setAckStatus_eq_self_iff {acks : List IbcAck} {row : IbcAckDb} :
    acks.foldl (fun row ack => setAckStatus ack row) row = row ↔
      ∀ ack, acks.reverse.find? (fun ack => row.id = ack.id) = some ack →
        ack.status = row.status := by
  rw [foldl_setAckStatus]
  cases acks.reverse.find? fun ack => row.id = ack.id with
  | none => simp
  | some ack =>
    constructor
    · intro h last hlast
      cases hlast
      exact congrArg IbcAckDb.status h
    · intro h
      simp only [h ack rfl]

theorem mem_rows_replaceBlock {table table' : Table BlockDb.height} {row other : BlockDb}
    (h : Table.put replaceBlock table row = some table') (hother : other ∈ table'.rows) :
    other ∈ table.rows ∨ other = row := by
  obtain ⟨old,new,hfind,hrun,rfl⟩ | ⟨-,hrows⟩ := Table.put_cases h
  · obtain ⟨r,hr,rfl⟩ := List.mem_map.mp hother
    have hheight := (Table.find?_eq_some.mp hfind).2
    cases hrun
    split
    · right
      rw [hheight]
    · exact .inl hr
  · rw [hrows,List.mem_append,List.mem_singleton] at hother
    exact hother

theorem self_mem_replaceBlock {table table' : Table BlockDb.height} {row : BlockDb}
    (h : Table.put replaceBlock table row = some table') : row ∈ table'.rows := by
  have hfind := Table.find?_put h row.height
  rw [if_pos rfl] at hfind
  cases hold : table.find? row.height with
  | none =>
    rw [hold] at hfind
    exact (Table.find?_eq_some.mp hfind).1
  | some old =>
    have hheight := (Table.find?_eq_some.mp hold).2
    rw [hold] at hfind
    have hrow : table'.find? row.height = some row := by
      rw [hfind]
      simp only [replaceBlock,hheight]
    exact (Table.find?_eq_some.mp hrow).1

theorem stored_grows {now : ℤ} {shouldUpdateCrawlerState : Bool}
    (h : Stored now shouldUpdateCrawlerState c db db') : Grows db db' where
  wrapperTransactions := by
    intro key hkey
    rw [h.wrapperTransactions]
    exact Table.mem_keys_insertOrIgnore.mpr (.inl hkey)
  innerTransactions := fun key hkey => (Table.mem_keys_upsert h.innerTransactions).mpr (.inl hkey)
  ibcAck := by
    obtain ⟨sequences,inserted,-,hinserted,hack⟩ := h.ibcAck
    intro key hkey
    rw [hack,foldl_updateAck_keys,Table.keys,Table.insert_eq_some hinserted,List.map_append]
    exact List.mem_append_left _ hkey
  ibcTokenFlows := by
    obtain ⟨rows,-,-,hupsert⟩ := h.ibcTokenFlows
    exact fun key hkey => (Table.mem_keys_upsert hupsert).mpr (.inl hkey)
  transactionHistory := by
    intro key hkey
    rw [h.transactionHistory]
    exact Table.mem_keys_insertOrIgnore.mpr (.inl hkey)
  maspPool := by
    intro key hkey
    rw [h.maspPool]
    exact Table.mem_keys_insertOrIgnore.mpr (.inl hkey)

/-- The keys of the rows of flows. -/
theorem ofFlow_keys {flows : List IbcTokenFlow} {rows : List IbcTokenFlowsDb}
    (h : flows.mapM IbcTokenFlowsDb.ofFlow = some rows) :
    rows.map IbcTokenFlowsDb.key = flows.map fun flow => (flow.address,flow.epoch.toInt32) := by
  apply map_of_mapM h
  intro flow _ row hrow
  obtain ⟨deposit,-,hrow⟩ := Option.bind_eq_some_iff.mp hrow
  obtain ⟨withdraw,-,hrow⟩ := Option.bind_eq_some_iff.mp hrow
  cases hrow
  rfl

/-- A stored block is indexed. -/
theorem stored_indexed {now : ℤ} {shouldUpdateCrawlerState : Bool}
    (h : Stored now shouldUpdateCrawlerState c db db') : Indexed c db' where
  block := self_mem_replaceBlock h.blocks
  hash_unique := by
    intro other hother hhash
    obtain hold | rfl := mem_rows_replaceBlock h.blocks hother
    · exact h.hash_unique other hold hhash
    · rfl
  wrapperTransactions := by
    intro row hrow
    rw [h.wrapperTransactions]
    exact Table.mem_keys_insertOrIgnore.mpr (.inr (List.mem_map_of_mem hrow))
  innerTransactions := fun row hrow =>
    (Table.mem_keys_upsert h.innerTransactions).mpr (.inr (List.mem_map_of_mem hrow))
  inner_nodup := (Table.upsert_eq_some.mp h.innerTransactions).1
  ibcAck := by
    obtain ⟨sequences,inserted,hsequences,hinserted,hack⟩ := h.ibcAck
    refine ⟨sequences,hsequences,?_⟩
    intro row hrow
    rw [hack,foldl_updateAck_keys,Table.keys,Table.insert_eq_some hinserted,List.map_append]
    exact List.mem_append_right _ (List.mem_map_of_mem hrow)
  ibcTokenFlows := by
    obtain ⟨rows,hrows,-,hupsert⟩ := h.ibcTokenFlows
    intro flow hflow
    apply (Table.mem_keys_upsert hupsert).mpr
    right
    rw [ofFlow_keys hrows]
    exact List.mem_map.mpr ⟨flow,hflow,rfl⟩
  transactionHistory := by
    intro row hrow
    rw [h.transactionHistory]
    exact Table.mem_keys_insertOrIgnore.mpr (.inr (List.mem_map_of_mem hrow))
  gasEstimations := h.gas_references
  maspPool := by
    intro row hrow
    rw [h.maspPool]
    exact Table.mem_keys_insertOrIgnore.mpr (.inr (List.mem_map_of_mem hrow))

/-- A block stays indexed when another one is stored. -/
theorem Indexed.later (hindexed : Indexed c db) {now : ℤ} {shouldUpdateCrawlerState : Bool}
    {other : Crawled sdk} (hchain : other.block.header.height = c.block.header.height →
      BlockDb.ofBlock sdk other.block = BlockDb.ofBlock sdk c.block)
    (h : Stored now shouldUpdateCrawlerState other db db') : Indexed c db' where
  block := by
    have hself := Table.find?_of_mem hindexed.block
    by_cases hheight : other.block.header.height = c.block.header.height
    · have hmem := self_mem_replaceBlock h.blocks
      rwa [hchain hheight] at hmem
    · have hne : (BlockDb.ofBlock sdk c.block).height ≠ (BlockDb.ofBlock sdk other.block).height := by
        intro heq
        apply hheight
        have htoInt : c.block.header.height.toInt32 = other.block.header.height.toInt32 := heq
        simpa using (congrArg Int32.toUInt32 htoInt).symm
      have hfind := Table.find?_put h.blocks (BlockDb.ofBlock sdk c.block).height
      rw [if_neg hne,hself] at hfind
      exact (Table.find?_eq_some.mp hfind).1
  hash_unique := by
    intro row hrow hhash
    obtain hold | rfl := mem_rows_replaceBlock h.blocks hrow
    · exact hindexed.hash_unique row hold hhash
    · exact (h.hash_unique _ hindexed.block hhash.symm).symm
  wrapperTransactions := fun row hrow =>
    (stored_grows h).wrapperTransactions (hindexed.wrapperTransactions row hrow)
  innerTransactions := fun row hrow =>
    (stored_grows h).innerTransactions (hindexed.innerTransactions row hrow)
  inner_nodup := hindexed.inner_nodup
  ibcAck := by
    obtain ⟨sequences,hsequences,hkeys⟩ := hindexed.ibcAck
    exact ⟨sequences,hsequences,fun row hrow => (stored_grows h).ibcAck (hkeys row hrow)⟩
  ibcTokenFlows := fun flow hflow =>
    (stored_grows h).ibcTokenFlows (hindexed.ibcTokenFlows flow hflow)
  transactionHistory := fun row hrow =>
    (stored_grows h).transactionHistory (hindexed.transactionHistory row hrow)
  gasEstimations := fun row hrow =>
    (stored_grows h).wrapperTransactions (hindexed.gasEstimations row hrow)
  maspPool := fun row hrow => (stored_grows h).maspPool (hindexed.maspPool row hrow)

theorem since_indexed {first : Pass sdk} (h : Since first db) : Indexed first.crawled db := by
  induction h with
  | stored h => exact stored_indexed (commit_eq_some.mp h)
  | later hsince hchain h ih => exact ih.later hchain (commit_eq_some.mp h)
  | registered hsince tokens ih => exact { ih with }

/-- The order in which its sets are visited does not matter to what a block leaves behind. -/
theorem Indexed.reorder {again : Crawled sdk} (hindexed : Indexed c db)
    (hblock : again.block = c.block) (hresults : again.blockResults = c.blockResults) :
    Indexed again db where
  block := hblock ▸ hindexed.block
  hash_unique := hblock ▸ hindexed.hash_unique
  wrapperTransactions := hblock ▸ hindexed.wrapperTransactions
  innerTransactions := hblock ▸ hindexed.innerTransactions
  inner_nodup := hblock ▸ hindexed.inner_nodup
  ibcAck := by
    have hpackets : again.ibcSequencePacket = c.ibcSequencePacket := by
      rw [Crawled.ibcSequencePacket,hblock,hresults,Crawled.ibcSequencePacket]
    rw [hpackets]
    exact hindexed.ibcAck
  ibcTokenFlows := by
    have hperm := again.flows_perm
    rw [hblock,hresults] at hperm
    exact fun flow hflow => hindexed.ibcTokenFlows flow
      ((hperm.trans c.flows_perm.symm).mem_iff.mp hflow)
  transactionHistory := by
    have henumerates := again.sources_enumerates
    rw [hblock] at henumerates
    intro row hrow
    obtain ⟨target,htarget,rfl⟩ := List.mem_map.mp hrow
    exact hindexed.transactionHistory _
      (List.mem_map_of_mem ((henumerates.perm c.sources_enumerates).mem_iff.mp htarget))
  gasEstimations := by
    have hestimates : again.gasEstimates = c.gasEstimates := by
      rw [Crawled.gasEstimates,hblock,Crawled.gasEstimates]
    rw [hestimates]
    exact hindexed.gasEstimations
  maspPool := hblock ▸ hindexed.maspPool

/-- No sequence is read off events that send no packet of a successful transaction. -/
theorem ibcPacketsFrom_eq_nil {txs : List (WrapperTransaction × List InnerTransaction)}
    {legacy : List Id} {events : List Event} :
    ibcPacketsFrom sdk txs legacy events = .returns [] ↔ ∀ event ∈ events, ∀ packet,
      event.attributes = some (.sendPacket packet) →
        ∃ id, event.innerTxHash = some id ∧ isSuccessfulTx txs id = false := by
  have hcons : ∀ (sequence : IbcSequence) (rest : Panicking (List IbcSequence)),
      ¬ (sequence :: ·) <$> rest = .returns [] := by
    intro sequence rest h
    obtain ⟨sequences,-,hnil⟩ := Panicking.map_eq_returns.mp h
    contradiction
  fun_induction ibcPacketsFrom sdk txs legacy events with
  | case1 => simp
  | case2 legacy event events packet hattributes id hid hsuccess ih =>
    simp [hcons,hattributes,hid,hsuccess]
  | case3 legacy event events packet hattributes id hid hfail ih =>
    simp [ih,hattributes,hid,hfail]
  | case4 legacy event events packet hattributes hid hinternal id ih =>
    simp [hcons,hattributes,hid]
  | case5 event events packet hattributes hid hinternal id legacy ih =>
    simp [hcons,hattributes,hid]
  | case6 event events packet hattributes hid hinternal => simp [hattributes,hid]
  | case7 legacy event events hother ih =>
    rw [List.forall_mem_cons]
    exact ih.trans
      ⟨fun h => ⟨fun packet hpacket => (hother packet hpacket).elim,h⟩,fun h => h.2⟩

theorem getGasEstimates_eq_nil {txs : List (WrapperTransaction × List InnerTransaction)} :
    getGasEstimates txs = [] ↔
      ∀ batch ∈ txs, ∃ innerTx ∈ batch.2, innerTx.wasSuccessful batch.1 = false := by
  simp [getGasEstimates,List.filter_eq_nil_iff]

/-- The flow of a token holds what the events count for it. -/
theorem flowAmount_flowsMap {epoch : Epoch} {flows : List (IbcTokenAction × String × ℚ)}
    (action : IbcTokenAction) {flow : IbcTokenFlow} (h : flow ∈ (flowsMap epoch flows).rows) :
    flowAmount action flow = counted action flow.address flows := by
  rw [←sum_flowsMap epoch]
  exact (Table.sum_of_key (flowsMap epoch flows).unique (flowAmount action) h).symm

/-- The rows of a block's flows sum up to what its events count, rounded. -/
theorem sum_ofFlow_crawled {rows : List IbcTokenFlowsDb} (action : IbcTokenAction) (token : String)
    (h : c.ibcTokenFlows.mapM IbcTokenFlowsDb.ofFlow = some rows) :
    (rows.map fun row => if row.address = token then rowAmount action row else 0).sum =
      (roundHalfAway (counted action token (getIbcTokenFlows sdk c.blockResults)) : ℚ) := by
  rw [sum_ofFlow h,(c.flows_perm.map _).sum_eq]
  by_cases htoken : ∃ flow ∈ (flowsMap c.block.epoch (getIbcTokenFlows sdk c.blockResults)).rows,
      flow.address = token
  · obtain ⟨flow,hflow,rfl⟩ := htoken
    rw [←flowAmount_flowsMap action hflow]
    exact Table.sum_of_key (flowsMap _ _).unique
      (fun flow => (roundHalfAway (flowAmount action flow) : ℚ)) hflow
  · have hnone : ∀ flow ∈ (flowsMap c.block.epoch (getIbcTokenFlows sdk c.blockResults)).rows,
        ¬ flow.address = token := fun flow hflow haddress => htoken ⟨flow,hflow,haddress⟩
    have hcounted : counted action token (getIbcTokenFlows sdk c.blockResults) = 0 := by
      rw [←sum_flowsMap c.block.epoch]
      apply List.sum_eq_zero
      intro amount hamount
      obtain ⟨flow,hflow,rfl⟩ := List.mem_map.mp hamount
      exact if_neg (hnone flow hflow)
    rw [hcounted,roundHalfAway_zero,Int.cast_zero]
    apply List.sum_eq_zero
    intro amount hamount
    obtain ⟨flow,hflow,rfl⟩ := List.mem_map.mp hamount
    exact if_neg (hnone flow hflow)

/-- A second pass that changes nothing repeats nothing. -/
theorem repeatable_of_unchanged {now : ℤ} {shouldUpdateCrawlerState : Bool}
    (hindexed : Indexed c db) (h : Stored now shouldUpdateCrawlerState c db db')
    (hunchanged : Unchanged db db') : Repeatable c db := by
  obtain ⟨sequences,inserted,hsequences,hinserted,hack⟩ := h.ibcAck
  have hnone : sequences = [] := by
    obtain ⟨sequences',hsequences',hkeys⟩ := hindexed.ibcAck
    obtain rfl : sequences = sequences' := by simpa [hsequences] using hsequences'
    by_contra hsome
    obtain ⟨sequence,hsequence⟩ := List.exists_mem_of_ne_nil sequences hsome
    have hmem : IbcAckDb.ofSequence sdk sequence ∈ sequences.map (IbcAckDb.ofSequence sdk) :=
      List.mem_map_of_mem hsequence
    rw [Table.insert_eq_none hmem (hkeys _ hmem)] at hinserted
    contradiction
  have hrows : inserted.rows = db.ibcAck.rows := by
    rw [Table.insert_eq_some hinserted,hnone,List.map_nil,List.append_nil]
  constructor
  · rw [hnone] at hsequences
    exact ibcPacketsFrom_eq_nil.mp hsequences
  · intro action token
    obtain ⟨rows,hflows,-,hupsert⟩ := h.ibcTokenFlows
    have htotal : total action token db' = total action token db :=
      (hunchanged.ibcTokenFlows.map _).sum_eq
    rw [total_upsert hupsert,sum_ofFlow_crawled action token hflows] at htotal
    exact_mod_cast add_eq_left.mp htotal
  · have hlength := hunchanged.gasEstimations.length_eq
    rw [h.gasEstimations,List.length_append,List.length_map] at hlength
    have hnone : c.gasEstimates.length = 0 := by omega
    exact getGasEstimates_eq_nil.mp (List.length_eq_zero_iff.mp hnone)
  · intro row hrow ack hlast
    have hperm := hunchanged.ibcAck
    rw [hack,foldl_updateAck_rows,hrows] at hperm
    have hsame : c.ibcAckPacket.foldl (fun row ack => setAckStatus ack row) row = row :=
      Table.map_eq_self_of_perm (fun row _ => foldl_setAckStatus_id c.ibcAckPacket row) hperm hrow
    exact foldl_setAckStatus_eq_self_iff.mp hsame ack hlast

/-- Flows whose amounts round to zero are added to their rows without a change. -/
theorem upsert_nothing
    (hkeys : ∀ flow ∈ c.ibcTokenFlows, (flow.address,flow.epoch.toInt32) ∈ db.ibcTokenFlows.keys)
    (hzero : ∀ action token,
      roundHalfAway (counted action token (getIbcTokenFlows sdk c.blockResults)) = 0) :
    ∃ rows, c.ibcTokenFlows.mapM IbcTokenFlowsDb.ofFlow = some rows ∧
      References db.ibcTokenFlows rows IbcTokenFlowsDb.address db.tokens ∧
      Table.upsert addToFlow db.ibcTokenFlows rows = some db.ibcTokenFlows := by
  let zero : Numeric := ⟨0,by norm_num⟩
  let row (flow : IbcTokenFlow) : IbcTokenFlowsDb := ⟨flow.address,flow.epoch.toInt32,zero,zero⟩
  have hround : ∀ flow ∈ c.ibcTokenFlows, ∀ action, roundHalfAway (flowAmount action flow) = 0 := by
    intro flow hflow action
    rw [flowAmount_flowsMap action (c.flows_perm.mem_iff.mp hflow)]
    exact hzero action flow.address
  have hrow : ∀ flow ∈ c.ibcTokenFlows, IbcTokenFlowsDb.ofFlow flow = some (row flow) := by
    intro flow hflow
    have hdeposit : Numeric.ofRat? flow.deposit = some zero :=
      Numeric.ofRat?_eq_some.mpr (hround flow hflow .deposit).symm
    have hwithdraw : Numeric.ofRat? flow.withdraw = some zero :=
      Numeric.ofRat?_eq_some.mpr (hround flow hflow .withdraw).symm
    simp [IbcTokenFlowsDb.ofFlow,hdeposit,hwithdraw,row]
  have hadd : ∀ x : Numeric, Numeric.add? x zero = some x :=
    fun x => Numeric.add?_eq_some.mpr (add_zero _).symm
  refine ⟨c.ibcTokenFlows.map row,mapM_eq_some_map hrow,?_,Table.upsert_eq_some.mpr ⟨?_,?_⟩⟩
  · intro r hr
    obtain ⟨flow,hflow,rfl⟩ := List.mem_map.mp hr
    exact .inl (hkeys flow hflow)
  · have haddress : (c.ibcTokenFlows.map IbcTokenFlow.address).Nodup :=
      (c.flows_perm.map _).nodup_iff.mpr (flowsMap _ _).unique
    apply List.Nodup.of_map Prod.fst
    rw [List.map_map,List.map_map]
    exact haddress
  · apply Table.foldlM_put_eq_self
    intro new hnew
    obtain ⟨flow,hflow,rfl⟩ := List.mem_map.mp hnew
    obtain ⟨old,hold,hkey⟩ := Table.mem_keys.mp (hkeys flow hflow)
    refine ⟨old,hold,hkey,?_⟩
    simp [addToFlow,row,hadd]

/-- A block that repeats nothing can be stored again, and changes no table. -/
theorem unchanged_of_repeatable (now : ℤ) (hindexed : Indexed c db) (h : Repeatable c db) :
    ∃ db', Stored now false c db db' ∧ Unchanged db db' := by
  obtain ⟨innerTransactions,hinner⟩ : ∃ innerTransactions,
      (c.block.innerTxs.map (InnerTransactionDb.ofTx sdk)).foldlM (Table.put refreshKind)
        db.innerTransactions = some innerTransactions :=
    Table.foldlM_put_total (fun _ _ => ⟨_,rfl⟩) _ _
  have hsequences : c.ibcSequencePacket = .returns [] :=
    ibcPacketsFrom_eq_nil.mpr h.sends_nothing
  have hestimates : c.gasEstimates = [] := getGasEstimates_eq_nil.mpr h.estimates_nothing
  have hack : c.ibcAckPacket.foldl updateAck db.ibcAck = db.ibcAck := by
    apply Table.ext_rows
    have hkept : ∀ row ∈ db.ibcAck.rows,
        c.ibcAckPacket.foldl (fun row ack => setAckStatus ack row) row = id row :=
      fun row hrow => foldl_setAckStatus_eq_self_iff.mpr (h.same_status row hrow)
    rw [foldl_updateAck_rows,List.map_congr_left hkept,List.map_id]
  have hfresh : Table.fresh MaspDb.innerTxId db.maspPool.keys
      ((c.block.maspEntries sdk).map (MaspDb.ofEntry sdk)) = [] :=
    Table.fresh_eq_nil hindexed.maspPool
  refine ⟨{ db with innerTransactions },?_,?_⟩
  · exact {
      hash_unique := hindexed.hash_unique
      blocks := Table.put_eq_self hindexed.block rfl rfl
      wrapper_references := fun row hrow => .inl (hindexed.wrapperTransactions row hrow)
      wrapperTransactions := (Table.insertOrIgnore_eq_self hindexed.wrapperTransactions).symm
      inner_references := fun row hrow => .inl (hindexed.innerTransactions row hrow)
      innerTransactions := Table.upsert_eq_some.mpr ⟨hindexed.inner_nodup,hinner⟩
      crawlerState := rfl
      ibcAck := ⟨[],db.ibcAck,hsequences,Table.insert_nil _,hack.symm⟩
      ibcTokenFlows := upsert_nothing hindexed.ibcTokenFlows h.counts_nothing
      history_references := fun row hrow => .inl (hindexed.transactionHistory row hrow)
      transactionHistory := (Table.insertOrIgnore_eq_self hindexed.transactionHistory).symm
      gas_references := by simp [hestimates]
      gasEstimations := by simp [hestimates]
      masp_references := fun row hrow => .inl (hindexed.maspPool row hrow)
      maspPool := (Table.insertOrIgnore_eq_self hindexed.maspPool).symm
      maspPoolAggregate := by rw [hfresh]; rfl
      tokens := rfl }
  · have hkept : (innerTransactions.rows.map fun row => (row.id,row.wrapperId,row.memo,row.exitCode)) =
        db.innerTransactions.rows.map fun row => (row.id,row.wrapperId,row.memo,row.exitCode) := by
      refine Table.map_rows_foldlM_put ?_ hindexed.innerTransactions hinner
      intro old new row hrun
      cases hrun
      rfl
    exact ⟨.refl _,.refl _,.of_eq hkept,.refl _,.refl _,.refl _,.refl _,.refl _,.refl _,rfl⟩

/-- A block that has been indexed is indexed again without a change exactly if it sends
nothing, counts nothing, gives no estimate and acknowledges only what is stored. -/
theorem reindexing_changes_nothing_iff {first again : Pass sdk} (hsince : Since first db)
    (hblock : again.crawled.block = first.crawled.block)
    (hresults : again.crawled.blockResults = first.crawled.blockResults)
    (hbackfill : again.shouldUpdateCrawlerState = false) :
    (∃ db', commit db again = some db' ∧ Unchanged db db') ↔ Repeatable again.crawled db := by
  have hindexed := (since_indexed hsince).reorder hblock hresults
  constructor
  · rintro ⟨db',hcommit,hunchanged⟩
    exact repeatable_of_unchanged hindexed (commit_eq_some.mp hcommit) hunchanged
  · intro hrepeatable
    obtain ⟨db',hstored,hunchanged⟩ := unchanged_of_repeatable again.now hindexed hrepeatable
    rw [←hbackfill] at hstored
    exact ⟨db',commit_eq_some.mpr hstored,hunchanged⟩

/-- The second pass over a block, a minute later. -/
def backfill (pass : Pass sdk) : Pass sdk where
  now := pass.now+60
  shouldUpdateCrawlerState := false
  crawled := pass.crawled

/-- A block whose one transaction was rejected. -/
def rejectedBlock : Pass Sdk.sample :=
  sampleBlock 1 "b1" [(sampleWrapper "w1" 1,[sampleInner "i1" "w1" (.bond none) .rejected])] []

theorem reindexing_changes_nothing_sample : ∃ db db',
    commit (Db.empty []) rejectedBlock = some db ∧ commit db (backfill rejectedBlock) = some db' ∧
    Unchanged db db' := by
  obtain ⟨db,hfirst,hacks⟩ : ∃ db, commit (Db.empty []) rejectedBlock = some db ∧
      db.ibcAck.rows = [] := ⟨_,rfl,rfl⟩
  have hrepeatable : Repeatable (backfill rejectedBlock).crawled db := by
    refine ⟨by intro event hevent; contradiction,?_,by decide,?_⟩
    · intro action token
      exact roundHalfAway_zero
    · intro row hrow
      rw [hacks] at hrow
      contradiction
  have hiff : (∃ db', commit db (backfill rejectedBlock) = some db' ∧ Unchanged db db') ↔
      Repeatable (backfill rejectedBlock).crawled db :=
    reindexing_changes_nothing_iff (.stored hfirst) rfl rfl rfl
  obtain ⟨db',hagain,hunchanged⟩ := hiff.mpr hrepeatable
  exact ⟨db,db',hfirst,hagain,hunchanged⟩

/-- A block that sends a packet cannot be stored again. -/
theorem sent_packet_is_not_reindexed : ∃ db, commit (Db.empty []) sendBlock = some db ∧
    Since sendBlock db ∧ commit db (backfill sendBlock) = none ∧
    ¬ ∃ db', commit db (backfill sendBlock) = some db' ∧ Unchanged db db' := by
  obtain ⟨db,hfirst,hnone⟩ : ∃ db, commit (Db.empty []) sendBlock = some db ∧
      commit db (backfill sendBlock) = none := ⟨_,rfl,rfl⟩
  refine ⟨db,hfirst,.stored hfirst,hnone,?_⟩
  rintro ⟨db',hagain,-⟩
  rw [hnone] at hagain
  contradiction

end
end NamadaIndexer.Transactions
