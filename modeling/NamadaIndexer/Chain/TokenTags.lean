import NamadaIndexer.Chain.Tokens

/-! Which tokens are tagged as native, and what this makes of the supplies that are stored: only
a token with that tag gets an effective supply. -/
namespace NamadaIndexer.Shared
open NamadaIndexer.Foundation

section
variable (sdk : Sdk) (nativeToken : Id)

/-- The token is tagged as native exactly if it shows the address of the native token. -/
def Token.Tagged (token : Token) : Prop :=
  (∃ address, token = .native address) ↔ token.address.toString sdk = nativeToken.toString sdk

/-- Every token of the set is tagged right. -/
def TagsRight (changes : Finset BalanceChange) : Prop :=
  ∀ change ∈ changes, change.token.Tagged sdk nativeToken

/-- The wrapper pays for gas in the native token; another spelling of its address is no harm as
long as the proposer of the block is unknown. -/
def GasFits (block : Block) (wrapperTx : WrapperTransaction) : Prop :=
  wrapperTx.fee.gasToken.toString sdk = nativeToken.toString sdk ∧
    (wrapperTx.fee.gasToken = nativeToken ∨ block.header.proposerAddressNamada = none)

end

section
variable (sdk : Sdk) (nativeToken : Address)

/-- What a transaction names its tokens by: the token that it carries for all of its accounts,
the tokens of the block, and the denomination of a refund. -/
structure TagsFitOf (ibcTokens : List Token) (tx : InnerTransaction) : Prop where
  carried : ∀ transfer, tx.kind.transfer = some transfer → transfer.data.accounts ≠ [] →
    ∀ token, transfer.headline = some token → token.Tagged sdk (.ofAddress sdk nativeToken)
  shielded : ∀ data, tx.kind = .shieldedTransfer data → ∀ token ∈ ibcTokens,
    token.Tagged sdk (.ofAddress sdk nativeToken)
  refunded : ∀ msg, tx.kind = .ibcMsg (some msg) → ∀ packet, refundedPacket sdk msg = some packet →
    ∀ packetData, sdk.ftPacketData packet.data = some packetData →
      mentionsNative sdk nativeToken packetData.denom = false →
        sdk.convertToAddress packetData.denom.toString ≠ some nativeToken

/-- All gas is paid in the native token, and the tokens of the successful transactions are named
right. -/
structure TagsFit (ibcTokens : List Token) (block : Block) : Prop where
  gas : ∀ wrapperTx ∈ block.wrapperTxs, GasFits sdk (.ofAddress sdk nativeToken) block wrapperTx
  transactions : ∀ tx ∈ block.successfulInnerTxs, TagsFitOf sdk nativeToken ibcTokens tx

end

section
variable {sdk : Sdk} {nativeToken : Address} {ibcTokens : List Token} {tx : InnerTransaction}

lemma tagged_native (nativeId : Id) : (Token.native nativeId).Tagged sdk nativeId :=
  iff_of_true ⟨nativeId,rfl⟩ rfl

lemma tagged_ibc_iff {nativeId : Id} {token : IbcToken} :
    (Token.ibc token).Tagged sdk nativeId ↔
      token.address.toString sdk ≠ nativeId.toString sdk := by
  constructor
  · intro h hsame
    obtain ⟨address,haddress⟩ := h.mpr hsame
    contradiction
  · intro h
    refine iff_of_false ?_ h
    rintro ⟨address,haddress⟩
    contradiction

/-- `Token::new` compares the address. -/
lemma tagged_new {nativeId : Id} {text : String} (htext : sdk.toLowercase text = text)
    (ibcTrace : Option String) :
    (Token.new text ibcTrace (nativeId.toString sdk)).Tagged sdk nativeId := by
  unfold Token.Tagged
  rw [Token.address_new,Id.toString,htext]
  unfold Token.new
  by_cases hsame : text = nativeId.toString sdk
  · simp [hsame]
  · simp [hsame]

lemma tagged_gasChanges_iff {nativeId : Id} {block : Block} {wrapperTx : WrapperTransaction} :
    (∀ change ∈ Block.gasChanges block nativeId wrapperTx, change.token.Tagged sdk nativeId) ↔
      GasFits sdk nativeId block wrapperTx := by
  have hpayer : (Token.native wrapperTx.fee.gasToken).Tagged sdk nativeId ↔
      wrapperTx.fee.gasToken.toString sdk = nativeId.toString sdk :=
    ⟨fun h => h.mp ⟨_,rfl⟩,fun h => iff_of_true ⟨_,rfl⟩ h⟩
  unfold Block.gasChanges GasFits
  rw [List.forall_mem_cons,hpayer]
  refine and_congr_right fun hshows => ?_
  by_cases hnative : wrapperTx.fee.gasToken = nativeId
  · simp [hnative]
  · rw [if_pos hnative]
    cases hproposer : block.header.proposerAddressNamada with
    | none => simp
    | some proposer =>
      simp only [List.mem_singleton,forall_eq,tagged_ibc_iff,hnative,reduceCtorEq,or_self,
        iff_false,not_not]
      exact hshows

/-- The pair of the MASP is tagged right whatever it is taken from. -/
lemma tagged_withMasp_iff (hsdk : sdk.Lawful) {nativeId : Id} {change : BalanceChange} :
    (∀ other ∈ Block.withMasp sdk nativeId change, other.token.Tagged sdk nativeId) ↔
      change.token.Tagged sdk nativeId := by
  have hlower : sdk.toLowercase (change.token.address.toString sdk) =
      change.token.address.toString sdk := by
    cases change.token.address <;> exact hsdk.lowercase_lowercase _
  simp only [Block.withMasp,List.forall_mem_cons,List.not_mem_nil,false_implies,implies_true,
    and_true]
  exact and_iff_left (tagged_new hlower none)

lemma tagged_changes_iff (hsdk : sdk.Lawful) {nativeId : Id} {transfer : TransferView} :
    (∀ change ∈ transfer.changes sdk nativeId, change.token.Tagged sdk nativeId) ↔
      (transfer.data.accounts ≠ [] → ∀ token, transfer.headline = some token →
        token.Tagged sdk nativeId) := by
  have hbase : (∀ change ∈ transfer.data.accounts.map (transfer.change sdk nativeId),
      change.token.Tagged sdk nativeId) ↔
        (transfer.data.accounts ≠ [] → ∀ token, transfer.headline = some token →
          token.Tagged sdk nativeId) := by
    simp only [List.forall_mem_map,TransferView.change]
    cases hheadline : transfer.headline with
    | none =>
      refine iff_of_true (fun account _ => ?_) fun _ token htoken => by contradiction
      exact tagged_new (hsdk.lowercase_encode _) none
    | some token =>
      constructor
      · rintro h hne other htoken
        obtain rfl := Option.some.inj htoken
        obtain ⟨account,haccount⟩ := List.exists_mem_of_ne_nil _ hne
        exact h account haccount
      · intro h account haccount
        exact h (List.ne_nil_of_mem haccount) token rfl
  unfold TransferView.changes
  dsimp only
  split
  · rw [←hbase]
    simp only [List.mem_flatMap,forall_exists_index,and_imp]
    constructor
    · intro h change hchange
      exact (tagged_withMasp_iff hsdk).mp fun other hother => h other change hchange hother
    · intro h other change hchange hother
      exact (tagged_withMasp_iff hsdk).mpr (h change hchange) other hother
  · exact hbase

/-- The token of a refund whose denomination can be looked up. -/
lemma run_refundOf (hsdk : sdk.Lawful) (hdecodes : sdk.DecodesEncoded) {packet : Packet}
    {packetData : FtPacketData} (hdata : sdk.ftPacketData packet.data = some packetData)
    {address : Address} (haddress : sdk.convertToAddress packetData.denom.toString = some address) :
    (refundOf sdk (.ofAddress sdk nativeToken) packet).run = .returns (.ok
      ⟨.account packetData.sender,
        if mentionsNative sdk nativeToken packetData.denom then
          .native (.ofAddress sdk nativeToken)
        else .ibc ⟨.ofAddress sdk address,some (.ibcTrace packetData.denom.toString)⟩⟩) := by
  have hlookup : (getIbcToken sdk (some packetData.denom.toString) nativeToken
      packetData.denom).run = .returns (.ok
        (if mentionsNative sdk nativeToken packetData.denom then
          (nativeToken,.native (.ofAddress sdk nativeToken))
        else (address,.ibc ⟨.ofAddress sdk address,
          some (.ibcTrace packetData.denom.toString)⟩))) := by
    exact getIbcToken_some_eq_ok.mpr ⟨address,haddress,rfl⟩
  unfold refundOf
  refine Panicking.run_bind_eq_ok.mpr ⟨packetData,?_,?_⟩
  · rw [hdata]
    rfl
  · refine Panicking.run_bind_eq_ok.mpr ⟨nativeToken,Panicking.run_lift_eq_ok.mpr ?_,?_⟩
    · exact Id.toAddress_ofAddress hsdk hdecodes nativeToken
    · refine Panicking.run_bind_eq_ok.mpr ⟨_,hlookup,?_⟩
      cases mentionsNative sdk nativeToken packetData.denom <;> rfl

/-- A refund that succeeds is one of a packet whose denomination can be looked up. -/
lemma data_of_refundOf {nativeId : Id} {packet : Packet} {change : BalanceChange}
    (h : (refundOf sdk nativeId packet).run = .returns (.ok change)) :
    ∃ packetData address, sdk.ftPacketData packet.data = some packetData ∧
      sdk.convertToAddress packetData.denom.toString = some address := by
  unfold refundOf at h
  obtain ⟨packetData,hdata,h⟩ := Panicking.run_bind_eq_ok.mp h
  obtain ⟨native,-,h⟩ := Panicking.run_bind_eq_ok.mp h
  obtain ⟨token,htoken,-⟩ := Panicking.run_bind_eq_ok.mp h
  obtain ⟨address,haddress,-⟩ := getIbcToken_some_eq_ok.mp htoken
  exact ⟨packetData,address,context_eq_ok_iff.mp (Panicking.returns.inj hdata),haddress⟩

lemma ibcAckToBalanceInfo_of_refunded {nativeId : Id} {msg : IbcMessage} {packet : Packet}
    (h : refundedPacket sdk msg = some packet) :
    ibcAckToBalanceInfo sdk msg nativeId = some <$> refundOf sdk nativeId packet := by
  unfold refundedPacket at h
  split at h
  · rename_i acknowledged acknowledgement rest
    split at h
    · rename_i hstatus
      obtain rfl := Option.some.inj h
      simp only [ibcAckToBalanceInfo,packetMsgToBalanceInfo,hstatus]
      rfl
    · contradiction
  · obtain rfl := Option.some.inj h
    rfl
  · obtain rfl := Option.some.inj h
    rfl
  · contradiction

lemma refunded_of_ibcAckToBalanceInfo {nativeId : Id} {msg : IbcMessage} {change : BalanceChange}
    (h : (ibcAckToBalanceInfo sdk msg nativeId).run = .returns (.ok (some change))) :
    ∃ packet, refundedPacket sdk msg = some packet := by
  unfold ibcAckToBalanceInfo at h
  split at h
  · rename_i packetMsg
    cases packetMsg with
    | recv packet rest =>
      obtain h := Panicking.run_pure_eq_ok.mp h
      contradiction
    | ack packet acknowledgement rest =>
      obtain ⟨ack,hack,h⟩ := Panicking.run_bind_eq_ok.mp h
      have hstatus := context_eq_ok_iff.mp (Panicking.returns.inj hack)
      cases ack with
      | success =>
        obtain h := Panicking.run_pure_eq_ok.mp h
        contradiction
      | error => exact ⟨packet,if_pos hstatus⟩
    | timeout packet rest => exact ⟨packet,rfl⟩
    | timeoutOnClose packet rest => exact ⟨packet,rfl⟩
  · obtain h := Panicking.run_pure_eq_ok.mp h
    contradiction

/-- The token of a refund is tagged right unless its denomination stands for the native token
without naming it. -/
lemma tagged_refund_iff (hsdk : sdk.Lawful) (hdecodes : sdk.DecodesEncoded)
    {packetData : FtPacketData} {address : Address} :
    (if mentionsNative sdk nativeToken packetData.denom then
        Token.native (.ofAddress sdk nativeToken)
      else .ibc ⟨.ofAddress sdk address,some (.ibcTrace packetData.denom.toString)⟩).Tagged sdk
        (.ofAddress sdk nativeToken) ↔
      (mentionsNative sdk nativeToken packetData.denom = false → address ≠ nativeToken) := by
  split
  · rename_i hmentions
    exact iff_of_true (tagged_native _) fun hnot => absurd (hmentions.symm.trans hnot) (by decide)
  · rename_i hmentions
    have hfalse := Bool.eq_false_iff.mpr hmentions
    rw [tagged_ibc_iff,Id.toString_ofAddress hsdk,Id.toString_ofAddress hsdk,
      forall_prop_of_true hfalse]
    exact not_congr ⟨hdecodes.encode_injective,fun h => h ▸ rfl⟩

/-- The change of a message is tagged right exactly if its refund is looked up right. -/
lemma tagged_ibcMsg_iff (hsdk : sdk.Lawful) (hdecodes : sdk.DecodesEncoded) {msg : IbcMessage}
    {own : List BalanceChange} (hkind : tx.kind = .ibcMsg (some msg))
    (h : Block.processInnerTxForBalance sdk (.ofAddress sdk nativeToken) ibcTokens tx =
      .returns own) :
    (∀ change ∈ own, change.token.Tagged sdk (.ofAddress sdk nativeToken)) ↔
      ∀ packet, refundedPacket sdk msg = some packet →
        ∀ packetData, sdk.ftPacketData packet.data = some packetData →
          mentionsNative sdk nativeToken packetData.denom = false →
            sdk.convertToAddress packetData.denom.toString ≠ some nativeToken := by
  unfold Block.processInnerTxForBalance at h
  rw [hkind] at h
  obtain ⟨result,hresult,rfl⟩ := Panicking.map_eq_returns.mp h
  constructor
  · intro htagged packet hpacket packetData hdata hmentions haddress
    have hrun : (refundOf sdk (.ofAddress sdk nativeToken) packet).run = _ :=
      run_refundOf hsdk hdecodes hdata haddress
    rw [ibcAckToBalanceInfo_of_refunded hpacket,ExceptT.run_map,hrun] at hresult
    obtain rfl := Panicking.returns.inj hresult
    exact (tagged_refund_iff hsdk hdecodes).mp (htagged _ (List.mem_singleton_self _)) hmentions rfl
  · intro hfits change hchange
    split at hchange
    · rename_i other
      obtain rfl := List.mem_singleton.mp hchange
      obtain ⟨packet,hpacket⟩ := refunded_of_ibcAckToBalanceInfo hresult
      rw [ibcAckToBalanceInfo_of_refunded hpacket,ExceptT.run_map] at hresult
      obtain ⟨refund,hrefund,hsome⟩ := Panicking.map_eq_returns.mp hresult
      cases refund with
      | error e => contradiction
      | ok found =>
        obtain ⟨packetData,address,hdata,haddress⟩ := data_of_refundOf hrefund
        rw [run_refundOf hsdk hdecodes hdata haddress] at hrefund
        obtain rfl := Except.ok.inj (Panicking.returns.inj hrefund)
        obtain rfl := Option.some.inj (Except.ok.inj hsome)
        refine (tagged_refund_iff hsdk hdecodes).mpr fun hmentions => ?_
        rintro rfl
        exact hfits packet hpacket packetData hdata hmentions haddress
    · contradiction

/-- Outside transfers and messages a change is in the native token. -/
lemma native_of_process {nativeId : Id} {own : List BalanceChange}
    (htransfer : tx.kind.transfer = none) (hshielded : ∀ data, tx.kind ≠ .shieldedTransfer data)
    (hmsg : ∀ msg, tx.kind ≠ .ibcMsg (some msg))
    (h : Block.processInnerTxForBalance sdk nativeId ibcTokens tx = .returns own)
    {change : BalanceChange} (hchange : change ∈ own) : change.token = .native nativeId := by
  unfold Block.processInnerTxForBalance at h
  generalize tx.kind = kind at htransfer hshielded hmsg h
  cases kind with
  | ibcMsg msg =>
    cases msg with
    | none =>
      obtain rfl := Panicking.returns.inj h
      contradiction
    | some msg => exact absurd rfl (hmsg msg)
  | shieldedTransfer data => exact absurd rfl (hshielded data)
  | bond data | withdraw data | claimRewards data | initProposal data =>
    cases data with
    | none =>
      obtain rfl := Panicking.returns.inj h
      contradiction
    | some data =>
      obtain rfl := Panicking.returns.inj h
      rw [List.mem_singleton.mp hchange]
  | transparentTransfer data | shieldingTransfer data | unshieldingTransfer data
  | mixedTransfer data =>
    cases data with
    | none =>
      obtain rfl := Panicking.returns.inj h
      contradiction
    | some data => contradiction
  | ibcSendTrasparentTransfer token data | ibcRecvTrasparentTransfer token data
  | ibcShieldingTransfer token data | ibcUnshieldingTransfer token data => contradiction
  | _ =>
    obtain rfl := Panicking.returns.inj h
    contradiction

/-- A transaction that names no token itself. -/
lemma tagsFitOf_of_kind (htransfer : tx.kind.transfer = none)
    (hshielded : ∀ data, tx.kind ≠ .shieldedTransfer data)
    (hmsg : ∀ msg, tx.kind ≠ .ibcMsg (some msg)) : TagsFitOf sdk nativeToken ibcTokens tx where
  carried transfer hsome := by
    rw [htransfer] at hsome
    contradiction
  shielded data hkind := absurd hkind (hshielded data)
  refunded msg hkind := absurd hkind (hmsg msg)

/-- The changes of a transaction are tagged right exactly if it names its tokens right. -/
lemma tagged_process_iff (hsdk : sdk.Lawful) (hdecodes : sdk.DecodesEncoded)
    {own : List BalanceChange}
    (h : Block.processInnerTxForBalance sdk (.ofAddress sdk nativeToken) ibcTokens tx =
      .returns own) :
    (∀ change ∈ own, change.token.Tagged sdk (.ofAddress sdk nativeToken)) ↔
      TagsFitOf sdk nativeToken ibcTokens tx := by
  cases htransfer : tx.kind.transfer with
  | some transfer =>
    rw [process_eq_of_transfer htransfer] at h
    obtain rfl := Panicking.returns.inj h
    rw [tagged_changes_iff hsdk]
    constructor
    · intro hcarried
      refine ⟨?_,?_,?_⟩
      · intro other hother
        obtain rfl := Option.some.inj (htransfer.symm.trans hother)
        exact hcarried
      · intro data hkind
        rw [hkind] at htransfer
        contradiction
      · intro msg hkind
        rw [hkind] at htransfer
        contradiction
    · exact fun hfits => hfits.carried transfer htransfer
  | none =>
    by_cases hmsg : ∃ msg, tx.kind = .ibcMsg (some msg)
    · obtain ⟨msg,hkind⟩ := hmsg
      rw [tagged_ibcMsg_iff hsdk hdecodes hkind h]
      constructor
      · intro hrefunded
        refine ⟨?_,?_,?_⟩
        · intro transfer hsome
          rw [htransfer] at hsome
          contradiction
        · intro data hother
          rw [hkind] at hother
          contradiction
        · intro other hother
          rw [hkind] at hother
          cases hother
          exact hrefunded
      · exact fun hfits => hfits.refunded msg hkind
    · by_cases hshielded : ∃ data, tx.kind = .shieldedTransfer data
      · obtain ⟨data,hkind⟩ := hshielded
        unfold Block.processInnerTxForBalance at h
        rw [hkind] at h
        obtain rfl := Panicking.returns.inj h
        rw [List.forall_mem_map]
        constructor
        · intro htokens
          refine ⟨?_,fun _ _ => htokens,fun msg hother => absurd ⟨msg,hother⟩ hmsg⟩
          intro transfer hsome
          rw [htransfer] at hsome
          contradiction
        · exact fun hfits => hfits.shielded data hkind
      · -- what is left pays and earns in the native token
        refine iff_of_true ?_ (tagsFitOf_of_kind htransfer (not_exists.mp hshielded)
          (not_exists.mp hmsg))
        intro change hchange
        rw [native_of_process htransfer (not_exists.mp hshielded) (not_exists.mp hmsg) h hchange]
        exact tagged_native _

end
end NamadaIndexer.Shared

namespace NamadaIndexer.Chain
open NamadaIndexer.Foundation NamadaIndexer.Shared

/-- Exactly the supplies of the native token are effective ones too. -/
def SuppliesRight (sdk : Sdk) (nativeToken : Address) (db : ChainDb) : Prop :=
  ∀ row ∈ db.tokenSupplies.rows,
    row.effective.isSome = true ↔ row.address = (Id.ofAddress sdk nativeToken).toString sdk

/-- A call about a block names the tokens of the block right; the native token is none of the
tokens that the initial query finds traces of. -/
def Pass.TagsFit (ctx : Context) (nativeToken : Address) : Pass → Prop
  | .initialQuery client _ => client.node.nativeToken = nativeToken ∧
    ∀ entry ∈ client.node.ibcTraces, .internal (.ibcToken entry.1) ≠ nativeToken
  | .block client checksums blockHeight _ => client.node.nativeToken = nativeToken ∧
    ∀ current, (readBlock ctx client checksums blockHeight).run = .returns (.ok current) →
      Shared.TagsFit ctx.sdk nativeToken (current.ibcTokens ctx) current.block

section
variable {sdk : Sdk} {nativeToken : Address} {ibcTokens : List Token} {block : Block}

lemma tagsRight_iff (hsdk : sdk.Lawful) (hdecodes : sdk.DecodesEncoded)
    {changes : Finset BalanceChange}
    (h : block.addressesWithBalanceChange sdk (.ofAddress sdk nativeToken) ibcTokens =
      .returns changes) :
    TagsRight sdk (.ofAddress sdk nativeToken) changes ↔
      Shared.TagsFit sdk nativeToken ibcTokens block := by
  constructor
  · intro hright
    refine ⟨?_,?_⟩
    · intro wrapperTx hwrapper
      obtain ⟨entry,hentry,rfl⟩ := List.mem_map.mp hwrapper
      apply tagged_gasChanges_iff.mp
      intro change hchange
      exact hright change ((mem_addresses h).mpr ⟨entry,hentry,.inl hchange⟩)
    · intro tx htx
      obtain ⟨wrapperTx,innerTxs,hentry,hmem,hsuccess⟩ :=
        (Block.mem_successfulInnerTxs block).mp htx
      rw [addressesWithBalanceChange_eq] at h
      obtain ⟨addresses,haddresses,rfl⟩ := Panicking.map_eq_returns.mp h
      obtain ⟨own,hown⟩ := returns_process_of_changesInOrder haddresses hentry hmem hsuccess
      apply (tagged_process_iff hsdk hdecodes hown).mp
      intro change hchange
      refine hright change (List.mem_toFinset.mpr ((mem_changesInOrder haddresses).mpr ?_))
      exact ⟨_,hentry,.inr ⟨tx,hmem,hsuccess,own,hown,hchange⟩⟩
  · intro hfits change hchange
    obtain ⟨entry,hentry,hgas | ⟨tx,htx,hsuccess,own,hown,hmem⟩⟩ := (mem_addresses h).mp hchange
    · exact tagged_gasChanges_iff.mpr (hfits.gas entry.1 (List.mem_map_of_mem hentry)) change hgas
    · have hsuccessful : tx ∈ block.successfulInnerTxs :=
        (Block.mem_successfulInnerTxs block).mpr ⟨entry.1,entry.2,hentry,htx,hsuccess⟩
      exact (tagged_process_iff hsdk hdecodes hown).mpr (hfits.transactions tx hsuccessful) change
        hmem

end

section
variable {ctx : Context} {client : Client} {checksums : Checksums} {nativeToken : Address}
  {db db' : ChainDb}

/-- The supply of a token that is tagged right is right. -/
lemma effective_of_queryTokenSupplies {tokens : List Token} {epoch : Epoch}
    {supplies : List TokenSupply} (h : queryTokenSupplies ctx client tokens epoch = some supplies)
    {nativeId : Id} (htagged : ∀ token ∈ tokens, token.Tagged ctx.sdk nativeId)
    {supply : TokenSupply} (hsupply : supply ∈ supplies) :
    supply.effective.isSome = true ↔ supply.address = nativeId.toString ctx.sdk := by
  obtain ⟨token,htoken,hof⟩ := exists_of_mem_mapM h hsupply
  have htag := htagged token (ctx.order.mem_visit.mp htoken)
  obtain ⟨address,-,hof⟩ := Option.bind_eq_some_iff.mp hof
  obtain ⟨total,-,hof⟩ := Option.bind_eq_some_iff.mp hof
  cases token with
  | ibc token =>
    obtain rfl := Option.some.inj hof
    exact iff_of_false (by simp) (tagged_ibc_iff.mp htag)
  | native token =>
    obtain ⟨effective,-,hof⟩ := Option.bind_eq_some_iff.mp hof
    obtain rfl := Option.some.inj hof
    exact iff_of_true rfl (htag.mp ⟨token,rfl⟩)

/-- Right supplies may be inserted. -/
lemma suppliesRight_insert {supplies : List TokenSupply}
    (hdb : SuppliesRight ctx.sdk nativeToken db)
    (hsupplies : ∀ supply ∈ supplies, supply.effective.isSome = true ↔
      supply.address = (Id.ofAddress ctx.sdk nativeToken).toString ctx.sdk)
    (h : db'.tokenSupplies = db.tokenSupplies.insertOrIgnore
      (supplies.map TokenSuppliesDb.ofSupply)) : SuppliesRight ctx.sdk nativeToken db' := by
  intro row hrow
  rw [h,Table.insertOrIgnore_rows,List.mem_append] at hrow
  rcases hrow with hrow | hrow
  · exact hdb row hrow
  · obtain ⟨supply,hmem,rfl⟩ := List.mem_map.mp (Table.mem_of_mem_fresh hrow)
    exact hsupplies supply hmem

lemma suppliesRight_block (hsdk : ctx.sdk.Lawful) (hdecodes : ctx.sdk.DecodesEncoded)
    {blockHeight : BlockHeight} {shouldUpdateCrawlerState : Bool}
    (hdb : SuppliesRight ctx.sdk nativeToken db)
    (hfits : (Pass.block client checksums blockHeight shouldUpdateCrawlerState).TagsFit ctx
      nativeToken)
    (h : (crawlingFn ctx client checksums blockHeight shouldUpdateCrawlerState db).run =
      .returns (.ok db')) : SuppliesRight ctx.sdk nativeToken db' := by
  obtain ⟨gathered,hread,hgathers,hcommit⟩ := crawlingFn_eq_ok h
  obtain ⟨rfl,htags⟩ := hfits
  have hnative : gathered.current.nativeId ctx = .ofAddress ctx.sdk client.node.nativeToken := by
    rw [Current.nativeId,(reads_of_readBlock hread).nativeToken]
  obtain ⟨addresses,haddresses,hsupplies,-⟩ := hgathers.changes
  rw [hnative] at haddresses
  have hset : gathered.current.block.addressesWithBalanceChange ctx.sdk
      (.ofAddress ctx.sdk client.node.nativeToken) (gathered.current.ibcTokens ctx) =
        .returns addresses.toFinset := by
    rw [addressesWithBalanceChange_eq,haddresses]
    rfl
  have hright := (tagsRight_iff hsdk hdecodes hset).mpr (htags _ hread)
  refine suppliesRight_insert hdb ?_ (committed_of_commit hcommit).tokenSupplies
  intro supply hsupply
  refine effective_of_queryTokenSupplies hsupplies ?_ hsupply
  intro token htoken
  obtain ⟨change,hchange,rfl⟩ := List.mem_map.mp htoken
  exact hright change (List.mem_toFinset.mpr hchange)

lemma suppliesRight_initialQuery (hsdk : ctx.sdk.Lawful) (hdecodes : ctx.sdk.DecodesEncoded)
    (hdb : SuppliesRight ctx.sdk nativeToken db)
    (hfits : (Pass.initialQuery client checksums).TagsFit ctx nativeToken)
    (h : (tryInitialQuery ctx client checksums db).run = .returns (.ok db')) :
    SuppliesRight ctx.sdk nativeToken db' := by
  obtain ⟨rfl,htraces⟩ := hfits
  obtain ⟨data,-,htokens,hsupplies,hcommit⟩ := tryInitialQuery_eq_ok h
  refine suppliesRight_insert hdb ?_ (committed_of_commitInitial hcommit).tokenSupplies
  intro supply hsupply
  refine effective_of_queryTokenSupplies hsupplies ?_ hsupply
  obtain ⟨ibcTokens,hibcTokens,htokens⟩ := Option.bind_eq_some_iff.mp htokens
  obtain ⟨native,hnative,htokens⟩ := Option.bind_eq_some_iff.mp htokens
  obtain ⟨-,rfl⟩ := ask_eq_some.mp hnative
  have hlist := Option.some.inj htokens
  obtain ⟨traces,htraces',rfl⟩ := Option.map_eq_some_iff.mp hibcTokens
  obtain ⟨-,rfl⟩ := ask_eq_some.mp htraces'
  intro token htoken
  rw [←hlist] at htoken
  rcases List.mem_append.mp htoken with htoken | htoken
  · obtain ⟨ibcToken,hvisit,rfl⟩ := List.mem_map.mp htoken
    obtain ⟨entry,hentry,rfl⟩ := List.mem_map.mp (ctx.order.mem_visit.mp hvisit)
    rw [tagged_ibc_iff,Id.toString_ofAddress hsdk,Id.toString_ofAddress hsdk]
    exact fun hsame => htraces entry hentry (hdecodes.encode_injective hsame)
  · obtain rfl := List.mem_singleton.mp htoken
    exact tagged_native _

lemma suppliesRight_step (hsdk : ctx.sdk.Lawful) (hdecodes : ctx.sdk.DecodesEncoded) {pass : Pass}
    (hdb : SuppliesRight ctx.sdk nativeToken db) (hfits : pass.TagsFit ctx nativeToken)
    (hstep : pass.step ctx db = some db') : SuppliesRight ctx.sdk nativeToken db' := by
  cases pass with
  | initialQuery client checksums =>
    exact suppliesRight_initialQuery hsdk hdecodes hdb hfits (resultOf_eq_some.mp hstep)
  | block client checksums blockHeight shouldUpdateCrawlerState =>
    exact suppliesRight_block hsdk hdecodes hdb hfits (resultOf_eq_some.mp hstep)

lemma suppliesRight_run (hsdk : ctx.sdk.Lawful) (hdecodes : ctx.sdk.DecodesEncoded)
    {passes : List Pass} (hdb : SuppliesRight ctx.sdk nativeToken db)
    (hfits : ∀ pass ∈ passes, pass.TagsFit ctx nativeToken)
    (hrun : Runs.execute (Pass.step ctx) db passes = some db') :
    SuppliesRight ctx.sdk nativeToken db' := by
  refine Runs.execute_invariant (SuppliesRight ctx.sdk nativeToken) ?_ hdb
    (Runs.along_of_forall hfits) hrun
  exact fun _ _ _ hdb hfits hstep => suppliesRight_step hsdk hdecodes hdb hfits hstep

end

/-- The tokens of a block are tagged right exactly if its gas is paid in the native token and its
transactions name their tokens right. In every run of such blocks the supplies stay right. -/
theorem token_tags_right_iff (ctx : Context) (hsdk : ctx.sdk.Lawful)
    (hdecodes : ctx.sdk.DecodesEncoded) (nativeToken : Address) :
    (∀ block ibcTokens changes,
      block.addressesWithBalanceChange ctx.sdk (.ofAddress ctx.sdk nativeToken) ibcTokens =
        .returns changes →
      (TagsRight ctx.sdk (.ofAddress ctx.sdk nativeToken) changes ↔
        Shared.TagsFit ctx.sdk nativeToken ibcTokens block)) ∧
    ∀ db passes db', SuppliesRight ctx.sdk nativeToken db →
      (∀ pass ∈ passes, pass.TagsFit ctx nativeToken) →
      Runs.execute (Pass.step ctx) db passes = some db' → SuppliesRight ctx.sdk nativeToken db' :=
  ⟨fun _ _ _ h => tagsRight_iff hsdk hdecodes h,
    fun _ _ _ hdb hfits hrun => suppliesRight_run hsdk hdecodes hdb hfits hrun⟩

/-- A node with a token from another chain, where every block is an epoch of its own. -/
def osmoNode (lastBlock : BlockHeight) : Node :=
  { sampleNode lastBlock lastBlock fun height => height with
    ibcTraces := [("osmo","transfer/channel-0/uosmo")] }

/-- A transfer of that token, with its gas paid in the native one. -/
def osmoTransferContext : Context :=
  { sampleContext bondTx with
    sdk := { (sampleContext bondTx).sdk with
      transferTryFromSlice := fun _ => some
        { sources := [(⟨.implicit "payer",.internal (.ibcToken "osmo")⟩,⟨5,0⟩)]
          targets := [(⟨.implicit "friend",.internal (.ibcToken "osmo")⟩,⟨5,0⟩)]
          shieldedSectionHash := none } } }

/-- The node again, with the code of transfers. -/
def transferClient (lastBlock : BlockHeight) : Client where
  node := { osmoNode lastBlock with
    head := ⟨lastBlock,fun codePath =>
      some (if codePath = "tx_transfer.wasm" then "a" else codePath)⟩ }
  fails _ := false

lemma read_osmoTransfer : ∃ current,
    (readBlock osmoTransferContext (transferClient 6) transferChecksums 6).run =
      .returns (.ok current) ∧
    (∀ wrapperTx ∈ current.block.wrapperTxs, wrapperTx.fee.gasToken = .account "tnam1qnam") ∧
    ∀ tx ∈ current.block.successfulInnerTxs, ∃ data, tx.kind = .transparentTransfer data := by
  refine ⟨_,rfl,?_,?_⟩
  · intro wrapperTx hwrapper
    obtain rfl := List.mem_singleton.mp hwrapper
    rfl
  · intro tx htx
    obtain rfl := List.mem_singleton.mp htx
    exact ⟨_,rfl⟩

theorem token_tags_right_transfer :
    ∃ current changes db,
      (readBlock osmoTransferContext (transferClient 6) transferChecksums 6).run =
        .returns (.ok current) ∧
      current.block.addressesWithBalanceChange osmoTransferContext.sdk (.account "tnam1qnam") [] =
        .returns changes ∧
      TagsRight osmoTransferContext.sdk (.account "tnam1qnam") changes ∧
      Runs.execute (Pass.step osmoTransferContext) .empty
        [.initialQuery (transferClient 5) transferChecksums,
          .block (transferClient 6) transferChecksums 6 true] = some db ∧
      SuppliesRight osmoTransferContext.sdk (.established "nam") db ∧
      ∃ row ∈ db.tokenSupplies.rows, row.address = "tnam1ptosmo" ∧ row.epoch = 6 := by
  have hruns : (Runs.execute (Pass.step osmoTransferContext) .empty
      [.initialQuery (transferClient 5) transferChecksums,
        .block (transferClient 6) transferChecksums 6 true]).map (fun db =>
          decide (∃ row ∈ db.tokenSupplies.rows, row.address = "tnam1ptosmo" ∧ row.epoch = 6)) =
            some true := by
    decide +kernel
  obtain ⟨db,hrun,hrow⟩ := Option.map_eq_some_iff.mp hruns
  obtain ⟨current,hread,hgas,hkinds⟩ := read_osmoTransfer
  have hlawful : osmoTransferContext.sdk.Lawful :=
    ⟨sample_lawful.lowercase_encode,sample_lawful.lowercase_lowercase⟩
  have hfits : ∀ ibcTokens, Shared.TagsFit osmoTransferContext.sdk (.established "nam") ibcTokens
      current.block := by
    intro ibcTokens
    refine ⟨fun wrapperTx hwrapper => ?_,fun tx htx => ?_⟩
    · rw [GasFits,hgas wrapperTx hwrapper]
      exact ⟨by decide,.inl (by decide)⟩
    · -- such a transfer carries no token for all of its accounts
      obtain ⟨data,hkind⟩ := hkinds tx htx
      constructor
      · intro transfer htransfer _ token htoken
        rw [hkind] at htransfer
        obtain ⟨data,-,rfl⟩ := Option.map_eq_some_iff.mp htransfer
        contradiction
      all_goals simp [hkind]
  have hresolve : RefundsResolve osmoTransferContext.sdk (.account "tnam1qnam") current.block := by
    intro tx htx msg hmsg
    obtain ⟨data,hkind⟩ := hkinds tx htx
    rw [hkind] at hmsg
    contradiction
  have hright := token_tags_right_iff osmoTransferContext hlawful sample_decodesEncoded
    (.established "nam")
  obtain ⟨changes,hchanges⟩ : ∃ changes, current.block.addressesWithBalanceChange
      osmoTransferContext.sdk (.account "tnam1qnam") [] = .returns changes :=
    returns_addresses_iff.mpr hresolve
  refine ⟨current,changes,db,hread,hchanges,(hright.1 _ _ _ hchanges).mpr (hfits _),hrun,
    hright.2 .empty _ db ?_ ?_ hrun,of_decide_eq_true hrow⟩
  · intro row hrow
    contradiction
  · intro pass hpass
    rcases List.mem_cons.mp hpass with rfl | hpass
    · refine ⟨rfl,fun entry hentry => ?_⟩
      obtain rfl := List.mem_singleton.mp hentry
      decide
    · obtain rfl := List.mem_singleton.mp hpass
      refine ⟨rfl,fun other hother => ?_⟩
      obtain rfl := Except.ok.inj (Panicking.returns.inj (hread.symm.trans hother))
      exact hfits _

/-- A bond, with its gas paid in a token from another chain. -/
def osmoGasTx : Tx :=
  { bondTx with
    header := ⟨.wrapper ⟨⟨1,6⟩,.internal (.ibcToken "osmo"),.implicit "payer",100⟩,
      [⟨⟨"code"⟩,⟨"data"⟩,⟨"memo"⟩⟩],false⟩ }

/-- The token that pays for gas is tagged as native, and an effective supply is stored for it. -/
theorem gas_token_tagged_native :
    ∃ current changes db,
      (readBlock (sampleContext osmoGasTx) ⟨osmoNode 6,fun _ => false⟩ bondChecksums 6).run =
        .returns (.ok current) ∧
      current.block.addressesWithBalanceChange (sampleContext osmoGasTx).sdk
        (.account "tnam1qnam") [] = .returns changes ∧
      ¬ TagsRight (sampleContext osmoGasTx).sdk (.account "tnam1qnam") changes ∧
      Runs.execute (Pass.step (sampleContext osmoGasTx)) .empty
        [.initialQuery ⟨osmoNode 5,fun _ => false⟩ bondChecksums,
          .block ⟨osmoNode 6,fun _ => false⟩ bondChecksums 6 true] = some db ∧
      ¬ SuppliesRight (sampleContext osmoGasTx).sdk (.established "nam") db := by
  have hruns : (Runs.execute (Pass.step (sampleContext osmoGasTx)) .empty
      [.initialQuery ⟨osmoNode 5,fun _ => false⟩ bondChecksums,
        .block ⟨osmoNode 6,fun _ => false⟩ bondChecksums 6 true]).map (fun db =>
          decide (∃ row ∈ db.tokenSupplies.rows,
            row.address = "tnam1ptosmo" ∧ row.effective.isSome = true)) = some true := by
    decide +kernel
  obtain ⟨db,hrun,hrow⟩ := Option.map_eq_some_iff.mp hruns
  refine ⟨_,_,db,rfl,rfl,?_,hrun,?_⟩
  · intro hright
    have htagged := hright ⟨.account "tnam1zpayer",.native (.account "tnam1ptosmo")⟩ (by decide)
    exact absurd (htagged.mp ⟨_,rfl⟩) (by decide)
  · intro hright
    obtain ⟨row,hmem,haddress,heffective⟩ := of_decide_eq_true hrow
    have hnative := (hright row hmem).mp heffective
    rw [haddress] at hnative
    exact absurd hnative (by decide)

end NamadaIndexer.Chain
