import NamadaIndexer.Shared.Checksums
import NamadaIndexer.Shared.IbcTokens

/-! The token of an IBC transfer, from the packet to the decoded block: a token that is tagged
as native is the native token that the block was decoded with. -/
namespace NamadaIndexer.Shared
open NamadaIndexer.Foundation

/-- If the token is tagged as native, it is this one. -/
def Token.NativeIs (nativeToken : Id) (token : Token) : Prop :=
  ∀ address, token = .native address → address = nativeToken

/-- The same for the token that a kind carries for all of its accounts. -/
def TransactionKind.NativeIs (nativeToken : Id) (kind : TransactionKind) : Prop :=
  ∀ transfer token, kind.transfer = some transfer → transfer.headline = some token →
    token.NativeIs nativeToken

section
variable {sdk : Sdk} {nativeToken : Address} {nativeId : Id}

lemma nativeIs_native (nativeId : Id) : (Token.native nativeId).NativeIs nativeId := by
  rintro address ⟨⟩
  rfl

lemma nativeIs_ibc (token : IbcToken) : (Token.ibc token).NativeIs nativeId := by
  rintro address ⟨⟩

lemma nativeIs_getIbcToken {maybeIbcTrace : Option String} {originalDenom : PrefixedDenom}
    {found : Address × Token}
    (h : (getIbcToken sdk maybeIbcTrace nativeToken originalDenom).run = .returns (.ok found)) :
    found.2.NativeIs (.ofAddress sdk nativeToken) := by
  cases maybeIbcTrace with
  | some ibcTrace =>
    obtain ⟨address,-,rfl⟩ := getIbcToken_some_eq_ok.mp h
    split
    · exact nativeIs_native _
    · exact nativeIs_ibc _
  | none =>
    obtain ⟨-,rfl⟩ | ⟨-,address,-,rfl⟩ := getIbcToken_none_eq_ok.mp h
    · exact nativeIs_native _
    · exact nativeIs_ibc _

lemma nativeIs_getTokenAndAmount {maybeIbcTrace : Option String} {amount : IbcAmount}
    {originalDenom : PrefixedDenom} {found : Address × Token × DenominatedAmount}
    (h : (getTokenAndAmount sdk maybeIbcTrace amount nativeToken originalDenom).run =
      .returns (.ok found)) : found.2.1.NativeIs (.ofAddress sdk nativeToken) := by
  obtain ⟨address,token,denominatedAmount⟩ := found
  exact nativeIs_getIbcToken (getTokenAndAmount_eq_ok.mp h).1

lemma nativeIs_receivedTransfer {packet : Packet} {found : TransferData × Token}
    (h : (receivedTransfer sdk nativeToken packet).run = .returns (.ok found)) :
    found.2.NativeIs (.ofAddress sdk nativeToken) := by
  unfold receivedTransfer at h
  obtain ⟨packetData,-,h⟩ := Panicking.run_bind_eq_ok.mp h
  obtain ⟨⟨token,tokenId,amount⟩,htoken,h⟩ := Panicking.run_bind_eq_ok.mp h
  obtain ⟨receiver,-,h⟩ := Panicking.run_bind_eq_ok.mp h
  obtain rfl := Panicking.run_pure_eq_ok.mp h
  exact nativeIs_getTokenAndAmount htoken

lemma nativeIs_sentTransfer {message : IbcMsgTransfer} {transfer : Option Transfer}
    {found : TransferData × Token}
    (h : (sentTransfer sdk nativeToken message transfer).run = .returns (.ok found)) :
    found.2.NativeIs (.ofAddress sdk nativeToken) := by
  obtain ⟨address,htoken⟩ := getIbcToken_of_sent h
  exact nativeIs_getIbcToken htoken

/-- A kind that carries no token. -/
lemma nativeIs_of_headline_none {kind : TransactionKind}
    (h : ∀ transfer, kind.transfer = some transfer → transfer.headline = none) :
    kind.NativeIs nativeId := by
  intro transfer token htransfer htoken
  rw [h transfer htransfer] at htoken
  contradiction

/-- A kind that carries a token. -/
lemma nativeIs_of_transfer {kind : TransactionKind} {token : Token} {movesMasp : Bool}
    {data : TransferData} (hkind : kind.transfer = some ⟨some token,movesMasp,data⟩)
    (htoken : token.NativeIs nativeId) : kind.NativeIs nativeId := by
  intro transfer other htransfer hother
  obtain rfl := Option.some.inj (hkind.symm.trans htransfer)
  obtain rfl := Option.some.inj hother
  exact htoken

/-- Only IBC transfers carry a token for all of their accounts. -/
lemma codeName_of_headline {kind : TransactionKind} {transfer : TransferView} {token : Token}
    (htransfer : kind.transfer = some transfer) (htoken : transfer.headline = some token) :
    kind.codeName = some "tx_ibc" := by
  cases kind with
  | transparentTransfer data | shieldingTransfer data | unshieldingTransfer data
  | mixedTransfer data =>
    obtain ⟨data,-,rfl⟩ := Option.map_eq_some_iff.mp htransfer
    contradiction
  | ibcSendTrasparentTransfer | ibcRecvTrasparentTransfer | ibcShieldingTransfer
  | ibcUnshieldingTransfer => rfl
  | _ => contradiction

lemma nativeIs_transferToIbcTxKind {ibcData : IbcMessage} {kind : TransactionKind}
    (h : (transferToIbcTxKind sdk ibcData nativeToken).run = .returns (.ok kind)) :
    kind.NativeIs (.ofAddress sdk nativeToken) := by
  unfold transferToIbcTxKind at h
  split at h
  · split at h
    · obtain ⟨⟨transferData,tokenId⟩,hreceived,h⟩ := Panicking.run_bind_eq_ok.mp h
      have htoken := nativeIs_receivedTransfer hreceived
      obtain rfl := Panicking.run_pure_eq_ok.mp h
      split
      · exact nativeIs_of_transfer rfl htoken
      · exact nativeIs_of_transfer rfl htoken
    · split at h
      · contradiction
      · obtain rfl := Panicking.run_pure_eq_ok.mp h
        exact nativeIs_of_headline_none fun _ h => nomatch h
  · obtain rfl := Panicking.run_pure_eq_ok.mp h
    exact nativeIs_of_headline_none fun _ h => nomatch h
  · obtain ⟨⟨transferData,tokenId⟩,hsent,h⟩ := Panicking.run_bind_eq_ok.mp h
    have htoken := nativeIs_sentTransfer hsent
    obtain rfl := Panicking.run_pure_eq_ok.mp h
    split
    · exact nativeIs_of_transfer rfl htoken
    · exact nativeIs_of_transfer rfl htoken
  · contradiction

lemma nativeIs_ofData {id txKindName : String} {data : Bytes} {kind : TransactionKind}
    (h : TransactionKind.ofData sdk id txKindName data nativeToken = .returns kind) :
    kind.NativeIs (.ofAddress sdk nativeToken) := by
  intro transfer token htransfer htoken
  have hname : some txKindName = some "tx_ibc" := by
    rw [←codeName_of_headline htransfer htoken,←codeNameOfReading_ofData id txKindName data
      nativeToken,h]
    rfl
  obtain rfl := Option.some.inj hname
  simp only [TransactionKind.ofData] at h
  cases hdata : sdk.decodeMessage data with
  | none =>
    rw [hdata] at h
    obtain rfl := Panicking.returns.inj h
    contradiction
  | some ibcData =>
    rw [hdata] at h
    obtain ⟨result,hresult,h⟩ := Panicking.bind_eq_returns.mp h
    cases result with
    | ok read =>
      obtain rfl := Panicking.returns.inj h
      exact nativeIs_transferToIbcTxKind hresult transfer token htransfer htoken
    | error e =>
      obtain rfl := Panicking.returns.inj h
      contradiction

variable {decoding : Decoding}

lemma nativeIs_txKind {tx : Tx} {commitment : TxCommitments} {kind : TransactionKind}
    (h : txKind sdk decoding tx commitment = .returns kind) :
    kind.NativeIs (.ofAddress sdk decoding.nativeToken) := by
  unfold txKind at h
  dsimp only at h
  split at h
  · split at h
    · exact nativeIs_ofData h
    · obtain rfl := Panicking.returns.inj h
      exact nativeIs_of_headline_none fun _ h => nomatch h
  · obtain rfl := Panicking.returns.inj h
    exact nativeIs_of_headline_none fun _ h => nomatch h

/-- The kind of every inner transaction of a decoded wrapper was read from its code. -/
lemma exists_txKind_of_deserialize {rawTxBytes : Bytes} {index : ℕ} {blockHeight : BlockHeight}
    {entry : WrapperTransaction × List InnerTransaction}
    (h : (Transaction.deserialize sdk decoding rawTxBytes index blockHeight).run =
      .returns (.ok entry)) {inner : InnerTransaction} (hinner : inner ∈ entry.2) :
    ∃ tx commitment, txKind sdk decoding tx commitment = .returns inner.kind := by
  unfold Transaction.deserialize at h
  obtain ⟨tx,-,h⟩ := Panicking.run_bind_eq_ok.mp h
  split at h
  · obtain ⟨innerTxs,hinnerTxs,h⟩ := Panicking.run_bind_eq_ok.mp h
    obtain ⟨gas,-,h⟩ := Panicking.run_bind_eq_ok.mp h
    obtain rfl := Panicking.run_pure_eq_ok.mp h
    obtain ⟨⟨_,paid⟩,hmem,rfl⟩ := List.mem_map.mp hinner
    have hall := Panicking.run_lift_eq_ok.mp hinnerTxs
    obtain ⟨⟨commitment,batchIndex⟩,-,hof⟩ := (Panicking.mem_of_mapM_returns hall).mp hmem
    unfold innerTransaction at hof
    obtain ⟨kind,hkind,hof⟩ := Panicking.bind_eq_returns.mp hof
    obtain ⟨blockIndex,-,hof⟩ := Panicking.bind_eq_returns.mp hof
    obtain ⟨notes,-,hof⟩ := Panicking.bind_eq_returns.mp hof
    obtain ⟨rfl,-⟩ := Prod.mk.inj (Panicking.returns.inj hof)
    exact ⟨tx,commitment,hkind⟩
  · cases h
  · cases h

/-- In a decoded block every transfer carries the native token itself where it carries a token
that is tagged as native. -/
theorem nativeIs_of_ofResponse {response : BlockResponse} {proposerAddressNamada : Option Id}
    {epoch : Epoch} {blockHeight : BlockHeight} {block : Block}
    (h : Block.ofResponse sdk decoding response proposerAddressNamada epoch blockHeight =
      .returns block) : ∀ inner ∈ block.innerTxs,
        inner.kind.NativeIs (.ofAddress sdk decoding.nativeToken) := by
  unfold Block.ofResponse at h
  obtain ⟨results,hresults,h⟩ := Panicking.bind_eq_returns.mp h
  obtain rfl := Panicking.returns.inj h
  intro inner hinner
  obtain ⟨entry,hentry,hmem⟩ := List.mem_flatMap.mp hinner
  obtain ⟨result,hresult,hok⟩ := List.mem_filterMap.mp hentry
  obtain ⟨⟨rawTxBytes,index⟩,-,hrun⟩ := (Panicking.mem_of_mapM_returns hresults).mp hresult
  cases result with
  | error e => contradiction
  | ok other =>
    obtain rfl := Option.some.inj hok
    obtain ⟨tx,commitment,hkind⟩ := exists_txKind_of_deserialize hrun hmem
    exact nativeIs_txKind hkind

end
end NamadaIndexer.Shared
