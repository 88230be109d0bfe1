import NamadaIndexer.Foundation.Separated
import NamadaIndexer.Transactions.Crawling

/-! Which transaction changes the status of which packet. The statements of a block on
`ibc_ack` are taken one by one, with the transaction that each of them comes from. -/
namespace NamadaIndexer.Transactions
open NamadaIndexer.Foundation NamadaIndexer.Foundation.Runs NamadaIndexer.Shared

/-- What identifies a packet. -/
structure PacketKey where
  sourcePort : String
  sourceChannel : String
  destPort : String
  destChannel : String
  sequenceNumber : String
  deriving DecidableEq, Repr

namespace PacketKey

def id (k : PacketKey) : String :=
  k.destPort ++ "/" ++ k.destChannel ++ "/" ++ k.sourcePort ++ "/" ++ k.sourceChannel ++ "/" ++
    k.sequenceNumber

/-- The identifiers of ports and channels contain no slash. -/
structure SlashFree (k : PacketKey) : Prop where
  sourcePort : '/' ∉ k.sourcePort.toList
  sourceChannel : '/' ∉ k.sourceChannel.toList
  destPort : '/' ∉ k.destPort.toList
  destChannel : '/' ∉ k.destChannel.toList

/-- The joined text identifies the packet. -/
theorem id_injective {k l : PacketKey} (hk : k.SlashFree) (hl : l.SlashFree) (h : k.id = l.id) :
    k = l := by
  simp only [id,String.append_assoc] at h
  obtain ⟨hdestPort,h⟩ := append_slash_inj hk.destPort hl.destPort h
  obtain ⟨hdestChannel,h⟩ := append_slash_inj hk.destChannel hl.destChannel h
  obtain ⟨hsourcePort,h⟩ := append_slash_inj hk.sourcePort hl.sourcePort h
  obtain ⟨hsourceChannel,hnumber⟩ := append_slash_inj hk.sourceChannel hl.sourceChannel h
  cases k
  cases l
  simp_all

def ofPacket (packet : Packet) : PacketKey where
  sourcePort := packet.portIdOnA
  sourceChannel := packet.chanIdOnA
  destPort := packet.portIdOnB
  destChannel := packet.chanIdOnB
  sequenceNumber := toString packet.seqOnA.toNat

end PacketKey

/-- The status that an acknowledgement stands for. -/
def acknowledged (sdk : Sdk) (acknowledgement : Bytes) : IbcAckStatus :=
  match sdk.acknowledgementStatus acknowledgement with
  | some .success => .success
  | some .error => .fail
  | none => .unknown

/-- The transaction carries an acknowledgement or a timeout of the packet. -/
inductive Reports (sdk : Sdk) (tx : InnerTransaction) (packet : Packet) : IbcAckStatus → Prop
  | ack (acknowledgement rest : Bytes)
    (kind : tx.kind = .ibcMsg (some (.envelope (.packet (.ack packet acknowledgement rest))))) :
    Reports sdk tx packet (acknowledged sdk acknowledgement)
  | timeout (rest : Bytes)
    (kind : tx.kind = .ibcMsg (some (.envelope (.packet (.timeout packet rest))))) :
    Reports sdk tx packet .timeout
  | timeoutOnClose (rest : Bytes)
    (kind : tx.kind = .ibcMsg (some (.envelope (.packet (.timeoutOnClose packet rest))))) :
    Reports sdk tx packet .timeout

theorem some_ibcAckOf_acknowledged (sdk : Sdk) (packet : Packet) (acknowledgement : Bytes) :
    some (ibcAckOf packet (acknowledged sdk acknowledgement)) =
      match sdk.acknowledgementStatus acknowledgement with
      | some .success => some (ibcAckOf packet .success)
      | some .error => some (ibcAckOf packet .fail)
      | none => some (ibcAckOf packet .unknown) := by
  unfold acknowledged
  cases sdk.acknowledgementStatus acknowledgement with
  | none => rfl
  | some status => cases status <;> rfl

theorem ackOf_eq_some {sdk : Sdk} {tx : InnerTransaction} {ack : IbcAck} :
    ackOf sdk tx = some ack ↔
      ∃ packet status, Reports sdk tx packet status ∧ ibcAckOf packet status = ack := by
  constructor
  · intro h
    unfold ackOf at h
    split at h
    · rename_i msg hkind
      split at h
      · contradiction
      · rename_i packet acknowledgement rest
        refine ⟨packet,_,.ack acknowledgement rest hkind,?_⟩
        apply Option.some.inj
        exact (some_ibcAckOf_acknowledged sdk packet acknowledgement).trans h
      · rename_i packet rest
        cases h
        exact ⟨packet,_,.timeout rest hkind,rfl⟩
      · rename_i packet rest
        cases h
        exact ⟨packet,_,.timeoutOnClose rest hkind,rfl⟩
    · contradiction
  · rintro ⟨packet,status,hreports,rfl⟩
    cases hreports with
    | ack acknowledgement rest hkind =>
      simp only [ackOf,hkind]
      exact (some_ibcAckOf_acknowledged sdk packet acknowledgement).symm
    | timeout rest hkind => simp only [ackOf,hkind]
    | timeoutOnClose rest hkind => simp only [ackOf,hkind]

/-- A statement on `ibc_ack`: the insertion of a block, or the update of one transaction. -/
inductive AckLabel
  | insert (ibcSequences : List IbcSequence)
  | process (wrapperTx : WrapperTransaction) (innerTx : InnerTransaction)

section
variable (sdk : Sdk)

def ackStep (table : Table IbcAckDb.id) : AckLabel → Option (Table IbcAckDb.id)
  | .insert ibcSequences => table.insert (ibcSequences.map (IbcAckDb.ofSequence sdk))
  | .process _ innerTx => some ((ackOf sdk innerTx).elim table (updateAck table))

/-- The updates of a block, by transaction. -/
def processLabels (block : Block) : List AckLabel :=
  block.transactions.flatMap fun (wrapperTx,innerTxs) => innerTxs.map (.process wrapperTx)

/-- The statements of one call for a block. -/
def ackLabels (pass : Pass sdk) : List AckLabel :=
  match pass.crawled.ibcSequencePacket with
  | .returns ibcSequences => .insert ibcSequences :: processLabels pass.crawled.block
  | .panics _ => []

/-- Only a successful transaction changes a status, and only that of its packet. -/
def Lawful (table : Table IbcAckDb.id) (label : AckLabel) : Prop :=
  ∀ after, ackStep sdk table label = some after → ∀ row ∈ table.rows, ∃ row' ∈ after.rows,
    row'.id = row.id ∧ (row'.status ≠ row.status → ∃ wrapperTx innerTx packet,
      label = .process wrapperTx innerTx ∧ innerTx.wasSuccessful wrapperTx = true ∧
      Reports sdk innerTx packet row'.status ∧
      ∀ key : PacketKey, key.SlashFree → (PacketKey.ofPacket packet).SlashFree →
        key.id = row.id → key = .ofPacket packet)

/-- What a failed transaction reports of a stored packet is its stored status already. -/
def Harmless (table : Table IbcAckDb.id) : AckLabel → Prop
  | .insert _ => True
  | .process wrapperTx innerTx => innerTx.wasSuccessful wrapperTx = true ∨
    ∀ packet status, Reports sdk innerTx packet status → ∀ row ∈ table.rows,
      row.id = (PacketKey.ofPacket packet).id → row.status = status

end

section
variable {sdk : Sdk}

theorem execute_processLabels (block : Block) (table : Table IbcAckDb.id) :
    execute (ackStep sdk) table (processLabels block) =
      some ((getIbcAckPacket sdk block.innerTxs).foldl updateAck table) := by
  have hone : ∀ (wrapperTx : WrapperTransaction) (innerTxs : List InnerTransaction)
      (table : Table IbcAckDb.id),
      execute (ackStep sdk) table (innerTxs.map (.process wrapperTx)) =
        some ((getIbcAckPacket sdk innerTxs).foldl updateAck table) := by
    intro wrapperTx innerTxs
    induction innerTxs with
    | nil => intro table; rfl
    | cons tx innerTxs ih =>
      intro table
      rw [List.map_cons,execute_cons,ackStep,Option.bind_some,ih,getIbcAckPacket,getIbcAckPacket,
        List.filterMap_cons]
      cases ackOf sdk tx <;> rfl
  unfold processLabels Block.innerTxs
  induction block.transactions generalizing table with
  | nil => rfl
  | cons entry transactions ih =>
    rw [List.flatMap_cons,List.flatMap_cons,execute_append,hone,Option.bind_some,ih,
      getIbcAckPacket,getIbcAckPacket,getIbcAckPacket,List.filterMap_append,List.foldl_append]

/-- The calls of a run change `ibc_ack` by exactly their statements. -/
theorem execute_ackLabels {passes : List (Pass sdk)} {db db' : Db}
    (h : execute commit db passes = some db') :
    execute (ackStep sdk) db.ibcAck (passes.flatMap (ackLabels sdk)) = some db'.ibcAck := by
  induction passes generalizing db with
  | nil => cases h; rfl
  | cons pass passes ih =>
    obtain ⟨mid,hmid,hrest⟩ := execute_cons_eq_some.mp h
    obtain ⟨sequences,inserted,hsequences,hinserted,hack⟩ := (commit_eq_some.mp hmid).ibcAck
    rw [List.flatMap_cons,execute_append_eq_some]
    refine ⟨mid.ibcAck,?_,ih hrest⟩
    rw [ackLabels,hsequences]
    apply execute_cons_eq_some.mpr
    exact ⟨inserted,hinserted,by rw [execute_processLabels,hack]; rfl⟩

theorem setAckStatus_status {ack : IbcAck} {row : IbcAckDb} :
    (setAckStatus ack row).status = if row.id = ack.id then ack.status else row.status := by
  unfold setAckStatus
  split <;> rfl

/-- A statement is lawful exactly if it is harmless. -/
theorem lawful_iff_harmless (table : Table IbcAckDb.id) (label : AckLabel) :
    Lawful sdk table label ↔ Harmless sdk table label := by
  cases label with
  | insert ibcSequences =>
    refine ⟨fun _ => trivial,fun _ => ?_⟩
    intro after hafter row hrow
    refine ⟨row,?_,rfl,fun hne => absurd rfl hne⟩
    rw [Table.insert_eq_some hafter]
    exact List.mem_append_left _ hrow
  | process wrapperTx innerTx =>
    constructor
    · intro hlawful
      by_cases hsuccess : innerTx.wasSuccessful wrapperTx = true
      · exact .inl hsuccess
      refine .inr ?_
      intro packet status hreports row hrow hkey
      have hack := ackOf_eq_some.mpr ⟨packet,status,hreports,rfl⟩
      have hid : row.id = (ibcAckOf packet status).id := hkey
      obtain ⟨row',hrow',hid',hchange⟩ := hlawful _ rfl row hrow
      rw [hack] at hrow'
      obtain ⟨old,hold,rfl⟩ := List.mem_map.mp hrow'
      rw [setAckStatus_id] at hid'
      have hsame : old = row := Table.eq_of_key_eq hold hrow hid'
      rw [hsame,setAckStatus_status,if_pos hid] at hchange
      by_contra hne
      obtain ⟨wrapperTx',innerTx',-,hlabel,hsuccess',-⟩ := hchange (Ne.symm hne)
      cases hlabel
      exact hsuccess hsuccess'
    · intro hharmless after hafter row hrow
      cases hafter
      cases hack : ackOf sdk innerTx with
      | none => exact ⟨row,hrow,rfl,fun hne => absurd rfl hne⟩
      | some ack =>
        refine ⟨setAckStatus ack row,List.mem_map_of_mem hrow,setAckStatus_id ack row,?_⟩
        intro hne
        rw [setAckStatus_status] at hne
        by_cases hid : row.id = ack.id
        · rw [if_pos hid] at hne
          obtain ⟨packet,status,hreports,rfl⟩ := ackOf_eq_some.mp hack
          have hsuccess : innerTx.wasSuccessful wrapperTx = true := by
            obtain hsuccess | hsame := hharmless
            · exact hsuccess
            · exact absurd (hsame packet status hreports row hrow hid).symm hne
          rw [setAckStatus_status,if_pos hid]
          refine ⟨wrapperTx,innerTx,packet,rfl,hsuccess,hreports,?_⟩
          intro key hkey hfree hrowid
          exact PacketKey.id_injective hkey hfree (hrowid.trans hid)
        · rw [if_neg hid] at hne
          contradiction

/-- Over any run of blocks, statuses change by successful transactions for exactly their
packet if and only if no failed one overwrites the status of a stored packet. -/
theorem statuses_change_by_success_iff {passes : List (Pass sdk)} {db db' : Db}
    (hrun : execute commit db passes = some db') :
    execute (ackStep sdk) db.ibcAck (passes.flatMap (ackLabels sdk)) = some db'.ibcAck ∧
    (Along (ackStep sdk) (Lawful sdk) db.ibcAck (passes.flatMap (ackLabels sdk)) ↔
      Along (ackStep sdk) (Harmless sdk) db.ibcAck (passes.flatMap (ackLabels sdk))) :=
  ⟨execute_ackLabels hrun,along_congr lawful_iff_harmless⟩

/-- A wrapper of one transaction at a height. -/
def sampleWrapper (id : String) (height : BlockHeight) : WrapperTransaction where
  txId := .hash id
  index := 0
  fee := ⟨"",none,"",.hash "",.hash "",none⟩
  atomic := false
  blockHeight := height
  exitCode := .applied
  totalSignatures := 0
  size := 0

def sampleInner (id wrapperId : String) (kind : TransactionKind)
    (exitCode : TransactionExitStatus) : InnerTransaction where
  txId := .hash id
  index := 0
  wrapperId := .hash wrapperId
  kind
  memo := none
  data := none
  extraSections := []
  notes := 0
  exitCode

/-- The block of a height, with the transactions and the events that are given. -/
def sampleBlock (height : BlockHeight) (hash : String)
    (transactions : List (WrapperTransaction × List InnerTransaction)) (events : List Event) :
    Pass Sdk.sample where
  now := 0
  shouldUpdateCrawlerState := true
  crawled := .ofBlock Sdk.sample ⟨.hash hash,⟨height,"",none,0,.hash ""⟩,transactions,1⟩ ⟨events⟩

/-- A packet with sequence number 7 is sent in the first block. -/
def sendBlock : Pass Sdk.sample :=
  sampleBlock 1 "b1" [(sampleWrapper "w1" 1,[sampleInner "i1" "w1" (.ibcMsg none) .applied])]
    [{ kind := .ibcCore .send
       innerTxHash := some (.hash "i1")
       attributes := some (.sendPacket
        ⟨"transfer","transfer","channel-0","channel-1",0,"","7",""⟩) }]

/-- A transaction of the second block reports its timeout. -/
def timeoutBlock (exitCode : TransactionExitStatus) : Pass Sdk.sample :=
  sampleBlock 2 "b2" [(sampleWrapper "w2" 2,[sampleInner "i2" "w2" (.ibcMsg (some (.envelope
    (.packet (.timeout ⟨7,"transfer","channel-0","transfer","channel-1",[],"",""⟩ [])))))
    exitCode])] []

theorem statuses_change_by_success_sample : ∃ db,
    execute commit (Db.empty []) [sendBlock,timeoutBlock .applied] = some db ∧
    db.ibcAck.rows.map (·.status) = [.timeout] ∧
    (Along (ackStep Sdk.sample) (Lawful Sdk.sample) (Db.empty []).ibcAck
        ([sendBlock,timeoutBlock .applied].flatMap (ackLabels Sdk.sample)) ↔
      Along (ackStep Sdk.sample) (Harmless Sdk.sample) (Db.empty []).ibcAck
        ([sendBlock,timeoutBlock .applied].flatMap (ackLabels Sdk.sample))) := by
  refine ⟨_,rfl,by decide,?_⟩
  have hrun : execute commit (Db.empty []) [sendBlock,timeoutBlock .applied] = some _ := rfl
  exact (statuses_change_by_success_iff hrun).2

/-- A timeout that failed sets the status of its packet all the same. -/
theorem failed_timeout_changes_status : ∃ db,
    execute commit (Db.empty []) [sendBlock,timeoutBlock .rejected] = some db ∧
    db.ibcAck.rows.map (fun row => (row.id,row.status)) =
      [("transfer/channel-1/transfer/channel-0/7",.timeout)] ∧
    ¬ Along (ackStep Sdk.sample) (Lawful Sdk.sample) (Db.empty []).ibcAck
      ([sendBlock,timeoutBlock .rejected].flatMap (ackLabels Sdk.sample)) := by
  refine ⟨_,rfl,by decide,?_⟩
  intro h
  have hlast := (((h.2 _ rfl).2 _ rfl).2 _ rfl).1
  obtain ⟨row,hrow,-,hchange⟩ := hlast _ rfl _ List.mem_cons_self
  obtain rfl := List.mem_singleton.mp hrow
  obtain ⟨wrapperTx,innerTx,packet,hlabel,hsuccess,-⟩ := hchange (by decide)
  cases hlabel
  exact absurd hsuccess (by decide)

end
end NamadaIndexer.Transactions
