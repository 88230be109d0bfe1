import NamadaIndexer.Shared.Deserialize

/-! When the decoding of a block comes back: the exact condition on the transactions of
the block under which no `todo!`, `expect` or `unwrap` is reached. -/
namespace NamadaIndexer.Shared
open NamadaIndexer.Foundation

section
variable (sdk : Sdk) (nativeToken : Address)

/-- A trace can be turned into the address of its token. -/
def TraceConverts (maybeIbcTrace : Option String) : Prop :=
  ∀ trace, maybeIbcTrace = some trace → ∃ address, sdk.convertToAddress trace = some address

/-- The token of a denomination is found, so the decoding goes on to the amount. -/
def TokenFound (maybeIbcTrace : Option String) (denom : PrefixedDenom) : Prop :=
  maybeIbcTrace = none → mentionsNative sdk nativeToken denom = false →
    ∃ address, sdk.decode denom.baseDenom = some address

/-- The sender or receiver of a packet is forwarded, foreign, or a Namada address. -/
def AccountConverts (packetData : FtPacketData) (isSender : Bool) : Prop :=
  let address := if isSender then packetData.sender else packetData.receiver
  sdk.isPfmMemo packetData.memo = false → startsWithTnam1 address = true →
    ∃ owner, sdk.decode address = some owner

/-- The token, the amount and the one converted account of a transfer. -/
def TransferConverts (maybeIbcTrace : Option String) (packetData : FtPacketData)
    (isSender : Bool) : Prop :=
  TraceConverts sdk maybeIbcTrace ∧
    (TokenFound sdk nativeToken maybeIbcTrace packetData.denom →
      (∃ amount, sdk.amountTryFrom packetData.amount = some amount) ∧
      AccountConverts sdk packetData isSender)

/-- The IBC messages that the indexer can classify. -/
def Classifiable : IbcMessage → Prop
  | .envelope (.packet (.recv packet _)) =>
    (packet.portIdOnB = FT_PORT_ID_STR → ∃ packetData,
      sdk.ftPacketData packet.data = some packetData ∧
      TransferConverts sdk nativeToken (getNamadaIbcTraceWhenReceiving packetData.denom
        packet.portIdOnA packet.chanIdOnA packet.portIdOnB packet.chanIdOnB) packetData false) ∧
    packet.portIdOnB ≠ NFT_PORT_ID_STR
  | .envelope _ => True
  | .transfer message _ => TransferConverts sdk nativeToken
      (getNamadaIbcTraceWhenSending message.packetData.denom) message.packetData true
  | .nftTransfer _ _ => False

end

section
variable {sdk : Sdk} {nativeToken : Address}

lemma returns_getIbcToken_iff {maybeIbcTrace : Option String} {denom : PrefixedDenom} :
    Fallible.Returns (getIbcToken sdk maybeIbcTrace nativeToken denom) ↔
      TraceConverts sdk maybeIbcTrace := by
  cases maybeIbcTrace with
  | some trace =>
    simp only [getIbcToken,Fallible.returns_orPanic_bind_iff,TraceConverts,Option.some.injEq,
      forall_eq']
    cases sdk.convertToAddress trace with
    | none => simp
    | some address => cases mentionsNative sdk nativeToken denom <;> simp
  | none =>
    cases hn : mentionsNative sdk nativeToken denom with
    | true => simp [getIbcToken,TraceConverts,hn]
    | false =>
      simp only [getIbcToken,hn,Bool.not_false,if_true,TraceConverts]
      rw [Fallible.returns_except_bind_iff]
      simp

lemma succeeds_getIbcToken_iff {maybeIbcTrace : Option String} {denom : PrefixedDenom} :
    Fallible.Succeeds (getIbcToken sdk maybeIbcTrace nativeToken denom) ↔
      TraceConverts sdk maybeIbcTrace ∧ TokenFound sdk nativeToken maybeIbcTrace denom := by
  cases maybeIbcTrace with
  | some trace =>
    simp only [getIbcToken,Fallible.succeeds_orPanic_bind_iff,TraceConverts,TokenFound,
      Option.some.injEq,forall_eq',reduceCtorEq,false_implies,and_true]
    cases sdk.convertToAddress trace with
    | none => simp
    | some address => cases mentionsNative sdk nativeToken denom <;> simp
  | none =>
    cases hn : mentionsNative sdk nativeToken denom with
    | true => simp [getIbcToken,TraceConverts,TokenFound,hn]
    | false =>
      simp only [getIbcToken,hn,Bool.not_false,if_true,TraceConverts,TokenFound]
      rw [Fallible.succeeds_except_bind_iff]
      simp [context_eq_ok_iff]

lemma returns_getIbcAmount_iff {amount : IbcAmount} {isIbcToken : Bool} :
    (getIbcAmount sdk amount isIbcToken).Returns ↔ ∃ a, sdk.amountTryFrom amount = some a := by
  rw [getIbcAmount,Panicking.returns_bind_iff]
  cases sdk.amountTryFrom amount with
  | none => simp
  | some a => simp

lemma returns_convertAccount_iff {message : String} {packetData : FtPacketData} {token : Address}
    {isSender : Bool} :
    (Panicking.expectOk message (convertAccount sdk packetData token isSender)).Returns ↔
      AccountConverts sdk packetData isSender := by
  rw [Panicking.returns_expectOk_iff,AccountConverts]
  unfold convertAccount
  generalize (if isSender then packetData.sender else packetData.receiver) = address
  dsimp only
  cases sdk.isPfmMemo packetData.memo with
  | true => simp [pure,Except.pure]
  | false =>
    cases startsWithTnam1 address with
    | false => simp [pure,Except.pure]
    | true =>
      cases sdk.decode address with
      | none => simp [context,bind,Except.bind]
      | some owner => simp [context,bind,Except.bind,pure,Except.pure]

/-- The common part of both directions: token, amount, account. -/
lemma returns_transfer_iff {maybeIbcTrace : Option String} {packetData : FtPacketData}
    {isSender : Bool} {message : String} {α : Type}
    {f : Address × Token × DenominatedAmount → ChainAddress → Fallible α}
    (hf : ∀ t a, Fallible.Returns (f t a)) :
    Fallible.Returns (do
      let t ← getTokenAndAmount sdk maybeIbcTrace packetData.amount nativeToken packetData.denom
      let a ← orPanic (.expectOk message (convertAccount sdk packetData t.1 isSender))
      f t a) ↔ TransferConverts sdk nativeToken maybeIbcTrace packetData isSender := by
  have hrest : ∀ p : Address × Token, Fallible.Returns (do
      let amount ← orPanic (getIbcAmount sdk packetData.amount maybeIbcTrace.isSome)
      let a ← orPanic (.expectOk message (convertAccount sdk packetData p.1 isSender))
      f (p.1,p.2,amount) a) ↔
      (∃ amount, sdk.amountTryFrom packetData.amount = some amount) ∧
        AccountConverts sdk packetData isSender := by
    intro p
    rw [←returns_getIbcAmount_iff,←returns_convertAccount_iff,Fallible.returns_orPanic_bind_iff]
    constructor
    · rintro ⟨amount,hamount,hrest⟩
      obtain ⟨a,ha,-⟩ := Fallible.returns_orPanic_bind_iff.mp hrest
      exact ⟨⟨amount,hamount⟩,⟨a,ha⟩⟩
    · rintro ⟨⟨amount,hamount⟩,⟨a,ha⟩⟩
      exact ⟨amount,hamount,Fallible.returns_orPanic_bind_iff.mpr ⟨a,ha,hf _ _⟩⟩
  simp only [getTokenAndAmount,bind_assoc,pure_bind]
  rw [Fallible.returns_bind_iff_of_const hrest,returns_getIbcToken_iff,succeeds_getIbcToken_iff,
    TransferConverts]
  constructor
  · rintro ⟨htrace,h⟩
    exact ⟨htrace,fun hfound => h ⟨htrace,hfound⟩⟩
  · rintro ⟨htrace,h⟩
    exact ⟨htrace,fun hfound => h hfound.2⟩

lemma returns_receivedTransfer_iff {packet : Packet} :
    Fallible.Returns (receivedTransfer sdk nativeToken packet) ↔ ∃ packetData,
      sdk.ftPacketData packet.data = some packetData ∧
      TransferConverts sdk nativeToken (getNamadaIbcTraceWhenReceiving packetData.denom
        packet.portIdOnA packet.chanIdOnA packet.portIdOnB packet.chanIdOnB) packetData false := by
  rw [receivedTransfer,Fallible.returns_orPanic_bind_iff]
  cases sdk.ftPacketData packet.data with
  | none => simp
  | some packetData =>
    simp only [Panicking.expect_some,Panicking.returns.injEq,exists_eq_left',Option.some.injEq]
    exact returns_transfer_iff fun _ _ => Fallible.returns_pure _

lemma returns_sentTransfer_iff {message : IbcMsgTransfer} {transfer : Option Transfer} :
    Fallible.Returns (sentTransfer sdk nativeToken message transfer) ↔
      TransferConverts sdk nativeToken (getNamadaIbcTraceWhenSending message.packetData.denom)
        message.packetData true :=
  returns_transfer_iff fun _ _ => Fallible.returns_pure _

lemma returns_transferToIbcTxKind_iff {ibcData : IbcMessage} :
    Fallible.Returns (transferToIbcTxKind sdk ibcData nativeToken) ↔
      Classifiable sdk nativeToken ibcData := by
  cases ibcData with
  | envelope msg =>
    cases msg with
    | other bytes => simp [transferToIbcTxKind,Classifiable]
    | packet packetMsg =>
      cases packetMsg with
      | recv packet rest =>
        by_cases hft : packet.portIdOnB = FT_PORT_ID_STR
        · have hnft : FT_PORT_ID_STR ≠ NFT_PORT_ID_STR := by decide
          simp only [transferToIbcTxKind,if_pos hft,Classifiable]
          rw [Fallible.returns_bind_iff,←returns_receivedTransfer_iff]
          simp [hft,hnft]
        · by_cases hnft : packet.portIdOnB = NFT_PORT_ID_STR
          · simp only [transferToIbcTxKind,if_neg hft,if_pos hnft,Classifiable]
            simp [hnft]
          · simp only [transferToIbcTxKind,if_neg hft,if_neg hnft,Classifiable]
            simp [hft,hnft]
      | ack packet acknowledgement rest => simp [transferToIbcTxKind,Classifiable]
      | timeout packet rest => simp [transferToIbcTxKind,Classifiable]
      | timeoutOnClose packet rest => simp [transferToIbcTxKind,Classifiable]
  | transfer message transfer =>
    simp only [transferToIbcTxKind,Classifiable]
    rw [Fallible.returns_bind_iff,returns_sentTransfer_iff]
    simp
  | nftTransfer message transfer => simp [transferToIbcTxKind,Classifiable]

end

/-- The name under which the code of IBC transactions is known. -/
def TX_IBC : String := "tx_ibc"

section
variable (sdk : Sdk) (decoding : Decoding)

/-- If the code of an inner transaction is the IBC code, its message can be classified. -/
def KindDecodes (tx : Tx) (commitment : TxCommitments) : Prop :=
  ∀ id, txCodeId sdk tx commitment = some id →
    decoding.checksums.getNameById id = some TX_IBC →
    ∀ ibcData, sdk.decodeMessage ((sdk.data tx commitment).getD []) = some ibcData →
      Classifiable sdk decoding.nativeToken ibcData

/-- The MASP data that the events of the block announce for an inner transaction is there. -/
def MaspDataFound (tx : Tx) (indexedTx : IndexedTx) : Prop :=
  ∀ maspRef isMaspFeePayment,
    decoding.blockResults.maspRef indexedTx = some (maspRef,isMaspFeePayment) →
    match maspRef with
    | .maspSection maspId => ∃ bundle, sdk.getMaspSection tx maspId = some bundle
    | .ibcData eventHash => ∃ bundle, maspTransactionOfIbcData sdk tx eventHash = some bundle

/-- What the decoding asks of one inner transaction of a block. -/
structure Decodes (tx : Tx) (index : ℕ) (blockHeight : BlockHeight)
    (entry : TxCommitments × ℕ) : Prop where
  indexFits : index < 2^32
  kindDecodes : KindDecodes sdk decoding tx entry.1
  maspDataFound : MaspDataFound sdk decoding tx
    ⟨blockHeight.toUInt64,UInt32.ofNat index,some (UInt32.ofNat entry.2)⟩

variable {sdk decoding}

lemma returns_ofData_iff {id txKindName : String} {data : Bytes} {nativeToken : Address} :
    (TransactionKind.ofData sdk id txKindName data nativeToken).Returns ↔
      (txKindName = TX_IBC → ∀ ibcData, sdk.decodeMessage data = some ibcData →
        Classifiable sdk nativeToken ibcData) := by
  by_cases hname : txKindName = TX_IBC
  · subst hname
    simp only [TransactionKind.ofData,TX_IBC]
    cases hdata : sdk.decodeMessage data with
    | none => simp
    | some ibcData =>
      simp only [Option.some.injEq,true_implies,forall_eq']
      rw [Panicking.returns_bind_iff,←returns_transferToIbcTxKind_iff,Fallible.Returns]
      constructor
      · rintro ⟨r,hr,-⟩
        exact ⟨r,hr⟩
      · rintro ⟨r,hr⟩
        refine ⟨r,hr,?_⟩
        cases r with
        | ok kind => simp
        | error e => simp
  · refine ⟨fun _ h => absurd h hname,fun _ => ?_⟩
    unfold TransactionKind.ofData
    split <;> first | exact Panicking.returns_returns _ | exact absurd rfl hname

lemma returns_txKind_iff {tx : Tx} {commitment : TxCommitments} :
    (txKind sdk decoding tx commitment).Returns ↔ KindDecodes sdk decoding tx commitment := by
  unfold txKind KindDecodes
  cases txCodeId sdk tx commitment with
  | none => simp
  | some id =>
    simp only [Option.some.injEq,forall_eq']
    cases decoding.checksums.getNameById id with
    | none => simp
    | some name => simpa using returns_ofData_iff

lemma returns_extractMaspTransaction_iff {tx : Tx} {maspRef : MaspRef} :
    (extractMaspTransaction sdk tx maspRef).Returns ↔
      match maspRef with
      | .maspSection maspId => ∃ bundle, sdk.getMaspSection tx maspId = some bundle
      | .ibcData eventHash => ∃ bundle, maspTransactionOfIbcData sdk tx eventHash = some bundle := by
  cases maspRef with
  | maspSection maspId => exact Panicking.returns_expect_iff
  | ibcData eventHash => exact Panicking.returns_expect_iff

lemma returns_maspBundle_iff {tx : Tx} {indexedTx : IndexedTx} :
    (maspBundle sdk decoding tx indexedTx).Returns ↔ MaspDataFound sdk decoding tx indexedTx := by
  unfold maspBundle MaspDataFound
  cases decoding.blockResults.maspRef indexedTx with
  | none => simp
  | some found =>
    obtain ⟨maspRef,isMaspFeePayment⟩ := found
    dsimp only
    rw [Panicking.returns_map_iff,returns_extractMaspTransaction_iff]
    simp

/-- The gas that a `tx/applied` event reports is always printed as a number that parses. -/
lemma returns_gasUsed (decoding : Decoding) (wrapperTxId : Id) : (gasUsed decoding wrapperTxId).Returns := by
  unfold gasUsed BlockResult.gasUsed
  cases decoding.blockResults.txApplied wrapperTxId with
  | none => simp
  | some data => simp only [Option.map_some,parseU64_toString,Panicking.expect_some,
      Panicking.returns_map_iff,Panicking.returns_returns]

lemma returns_innerTransaction_iff {tx : Tx} {index : ℕ} {blockHeight : BlockHeight}
    {entry : TxCommitments × ℕ} :
    (innerTransaction sdk decoding tx index blockHeight entry).Returns ↔
      Decodes sdk decoding tx index blockHeight entry := by
  obtain ⟨commitment,batchIndex⟩ := entry
  simp only [innerTransaction]
  rw [Panicking.returns_bind_iff]
  constructor
  · rintro ⟨kind,hkind,h⟩
    obtain ⟨blockIndex,hindex,h⟩ := Panicking.returns_bind_iff.mp h
    obtain ⟨notes,hbundle,-⟩ := Panicking.returns_bind_iff.mp h
    unfold txIndexMustFromUsize at hindex
    split at hindex
    · rename_i hfits
      cases hindex
      exact ⟨hfits,returns_txKind_iff.mp ⟨kind,hkind⟩,returns_maspBundle_iff.mp ⟨notes,hbundle⟩⟩
    · contradiction
  · rintro ⟨hfits,hdecodes,hfound⟩
    obtain ⟨kind,hkind⟩ := returns_txKind_iff.mpr hdecodes
    obtain ⟨notes,hbundle⟩ := returns_maspBundle_iff.mpr hfound
    refine ⟨kind,hkind,Panicking.returns_bind_iff.mpr ⟨UInt32.ofNat index,if_pos hfits,?_⟩⟩
    exact Panicking.returns_bind_iff.mpr ⟨notes,hbundle,Panicking.returns_returns _⟩

/-- The transaction at one position of the block can be decoded. -/
def TransactionDecodes (sdk : Sdk) (decoding : Decoding) (blockHeight : BlockHeight)
    (entry : Bytes × ℕ) : Prop :=
  ∀ tx, sdk.txTryFrom entry.1 = .ok tx → ∀ wrapper, tx.header.txType = .wrapper wrapper →
    ∀ inner ∈ tx.header.batch.zipIdx, Decodes sdk decoding tx entry.2 blockHeight inner

lemma returns_deserialize_iff {blockHeight : BlockHeight} {entry : Bytes × ℕ} :
    Fallible.Returns (Transaction.deserialize sdk decoding entry.1 entry.2 blockHeight) ↔
      TransactionDecodes sdk decoding blockHeight entry := by
  obtain ⟨rawTxBytes,index⟩ := entry
  rw [Transaction.deserialize,Fallible.returns_except_bind_iff,TransactionDecodes]
  refine forall_congr' fun tx => ?_
  cases htype : tx.header.txType with
  | raw => simp
  | protocol => simp
  | wrapper wrapper =>
    refine forall_congr' fun htx => ?_
    dsimp only
    rw [Fallible.returns_orPanic_bind_iff]
    constructor
    · rintro ⟨innerTxs,hinner,-⟩ w _ inner hmem
      exact returns_innerTransaction_iff.mp
        (Panicking.returns_mapM_iff.mp ⟨innerTxs,hinner⟩ inner hmem)
    · intro h
      obtain ⟨innerTxs,hinner⟩ := Panicking.returns_mapM_iff.mpr fun inner hmem =>
        returns_innerTransaction_iff.mpr (h wrapper rfl inner hmem)
      refine ⟨innerTxs,hinner,Fallible.returns_orPanic_bind_iff.mpr ?_⟩
      obtain ⟨gas,hgas⟩ := returns_gasUsed decoding (Id.ofHash sdk (sdk.headerHash tx))
      exact ⟨gas,hgas,Fallible.returns_pure _⟩

/-- Decoding comes back exactly when no transaction reaches a panic: one that is no wrapper
or no transaction at all is an error, and a wrapper comes back when each inner transaction
has a position below 2^32, a message the indexer can classify if its code is the IBC code,
and the MASP data that the events announce for it. -/
theorem decoding_returns_iff (sdk : Sdk) (decoding : Decoding) (blockHeight : BlockHeight) :
    (∀ entry, Fallible.Returns (Transaction.deserialize sdk decoding entry.1 entry.2 blockHeight) ↔
      TransactionDecodes sdk decoding blockHeight entry) ∧
    ∀ response proposerAddressNamada epoch,
      (Block.ofResponse sdk decoding response proposerAddressNamada epoch blockHeight).Returns ↔
        ∀ entry ∈ response.data.zipIdx, TransactionDecodes sdk decoding blockHeight entry := by
  refine ⟨fun entry => returns_deserialize_iff,fun response proposerAddressNamada epoch => ?_⟩
  rw [Block.ofResponse,Panicking.returns_bind_iff]
  constructor
  · rintro ⟨results,hresults,-⟩ entry hentry
    exact returns_deserialize_iff.mp (Panicking.returns_mapM_iff.mp ⟨results,hresults⟩ entry hentry)
  · intro h
    obtain ⟨results,hresults⟩ := Panicking.returns_mapM_iff.mpr fun entry hentry =>
      returns_deserialize_iff.mpr (h entry hentry)
    exact ⟨results,hresults,Panicking.returns_returns _⟩

end

/-- One wrapper with one inner transaction, whose code has the hash `code`. -/
def nftTx : Tx where
  header := ⟨.wrapper ⟨⟨1,6⟩,.established "nam",.implicit "payer",100⟩,[⟨⟨"code"⟩,⟨"data"⟩,⟨"memo"⟩⟩],
    false⟩
  sections := [.code ⟨"code"⟩ (.id [0]),.data ⟨"data"⟩ [1]]

/-- The functions of other packages on the block with that transaction: its data is an NFT
transfer message. -/
def nftSdk : Sdk :=
  { Sdk.sample with
    txTryFrom := fun _ => .ok nftTx
    getSection := fun tx hash => tx.sections.find? fun s => s == .code hash (.id [0])
    data := fun _ _ => some [1]
    decodeMessage := fun _ => some (.nftTransfer [2] none) }

/-- A block with an NFT transfer over IBC cannot be decoded. -/
theorem decoding_panics_on_nft_transfer :
    ¬ (Block.ofResponse nftSdk ⟨fun _ => none,⟨[("tx_ibc","")],[]⟩,⟨[]⟩,.established "nam"⟩
      ⟨⟨"hash"⟩,7,"proposer",0,⟨"app"⟩,[[0]]⟩ none 1 7).Returns := by
  have h : Block.ofResponse nftSdk
      ⟨fun _ => none,⟨[("tx_ibc","")],[]⟩,⟨[]⟩,.established "nam"⟩
      ⟨⟨"hash"⟩,7,"proposer",0,⟨"app"⟩,[[0]]⟩ none 1 7 =
      .panics "not yet implemented: IBC NFTs are not yet supported for indexing purposes" := by
    rfl
  rw [h]
  exact Panicking.not_returns_panics _

end NamadaIndexer.Shared
