import NamadaIndexer.Shared.Block
import NamadaIndexer.Shared.DecodingPanics

/-! Completeness of the balance changes of a block: which transfers have the pair of every
account with its own token collected. -/
namespace NamadaIndexer.Shared
open NamadaIndexer.Foundation

/-- What the addresses and the lower-casing of strings satisfy. -/
structure Sdk.Lawful (sdk : Sdk) : Prop where
  lowercase_encode : ∀ address, sdk.toLowercase (sdk.encode address) = sdk.encode address
  lowercase_lowercase : ∀ text, sdk.toLowercase (sdk.toLowercase text) = sdk.toLowercase text

lemma Id.toString_ofAddress {sdk : Sdk} (h : sdk.Lawful) (address : Address) :
    (Id.ofAddress sdk address).toString sdk = sdk.encode address := by
  rw [Id.ofAddress,Id.toString,h.lowercase_encode,h.lowercase_encode]

lemma Id.toAddress_ofAddress {sdk : Sdk} (h : sdk.Lawful) (hdecodes : sdk.DecodesEncoded)
    (address : Address) : (Id.ofAddress sdk address).toAddress sdk = .returns address := by
  rw [Id.ofAddress,Id.toAddress,h.lowercase_encode,hdecodes]
  rfl

/-- A transaction of a transfer kind: its legs, the one token that an IBC kind carries for
all of them, and whether it moves value in or out of the MASP. -/
structure TransferView where
  headline : Option Token
  movesMasp : Bool
  data : TransferData

def TransactionKind.transfer : TransactionKind → Option TransferView
  | .transparentTransfer data => data.map fun data => ⟨none,false,data⟩
  | .shieldingTransfer data | .unshieldingTransfer data | .mixedTransfer data =>
    data.map fun data => ⟨none,true,data⟩
  | .ibcSendTrasparentTransfer token data | .ibcRecvTrasparentTransfer token data =>
    some ⟨some token,false,data⟩
  | .ibcShieldingTransfer token data | .ibcUnshieldingTransfer token data =>
    some ⟨some token,true,data⟩
  | _ => none

section
variable (sdk : Sdk) (nativeToken : Id)

/-- The set has the pair of this owner and the token with this address. -/
def HasPair (changes : Finset BalanceChange) (owner token : String) : Prop :=
  ∃ change ∈ changes, change.address = .account owner ∧ change.token.address.toString sdk = token

/-- Every account's pair is there, and the MASP's pair for its token where the kind asks. -/
def TransferView.Complete (transfer : TransferView) (changes : Finset BalanceChange) : Prop :=
  ∀ account ∈ transfer.data.accounts,
    HasPair sdk changes (account.owner sdk) (account.token sdk) ∧
    (transfer.movesMasp = true → HasPair sdk changes (sdk.encode MASP_ADDRESS) (account.token sdk))

/-- The token that an IBC kind carries is the token of each of its accounts. -/
def TransferView.TokensAgree (transfer : TransferView) : Prop :=
  ∀ token, transfer.headline = some token → ∀ account ∈ transfer.data.accounts,
    token.address.toString sdk = account.token sdk

/-- The gas payer of every wrapper has its pair. -/
def GasComplete (block : Block) (changes : Finset BalanceChange) : Prop :=
  ∀ wrapperTx ∈ block.wrapperTxs, ∃ change ∈ changes,
    change.address = wrapperTx.fee.gasPayer ∧ change.token.address = wrapperTx.fee.gasToken

/-- The packet whose sender gets a refund. -/
def refundedPacket : IbcMessage → Option Packet
  | .envelope (.packet (.ack packet acknowledgement _)) =>
    if sdk.acknowledgementStatus acknowledgement = some .error then some packet else none
  | .envelope (.packet (.timeout packet _)) => some packet
  | .envelope (.packet (.timeoutOnClose packet _)) => some packet
  | _ => none

/-- The token of the packet can be looked up, if it has one. -/
def TokenResolves (packet : Packet) : Prop :=
  ∀ packetData, sdk.ftPacketData packet.data = some packetData →
    (∃ address, nativeToken.toAddress sdk = .returns address) ∧
    ∃ address, sdk.convertToAddress packetData.denom.toString = some address

/-- The token of every refund in the block can be looked up. -/
def RefundsResolve (block : Block) : Prop :=
  ∀ tx ∈ block.successfulInnerTxs, ∀ msg, tx.kind = .ibcMsg (some msg) →
    ∀ packet, refundedPacket sdk msg = some packet → TokenResolves sdk nativeToken packet

/-- The change of one account of a transfer. -/
def TransferView.change (transfer : TransferView) (account : ChainAddress) : BalanceChange where
  address := .account (account.owner sdk)
  token := match transfer.headline with
    | some token => token
    | none => .new (account.token sdk) none (nativeToken.toString sdk)

/-- The changes that a transfer contributes. -/
def TransferView.changes (transfer : TransferView) : List BalanceChange :=
  let base := transfer.data.accounts.map (transfer.change sdk nativeToken)
  if transfer.movesMasp then base.flatMap (Block.withMasp sdk nativeToken) else base

end

section
variable {sdk : Sdk} {nativeToken : Id} {ibcTokens : List Token}

lemma returns_refundOf_iff {packet : Packet} :
    Fallible.Returns (refundOf sdk nativeToken packet) ↔ TokenResolves sdk nativeToken packet := by
  rw [refundOf,Fallible.returns_except_bind_iff]
  refine forall_congr' fun packetData => ?_
  rw [context_eq_ok_iff]
  refine imp_congr_right fun _ => ?_
  dsimp only
  rw [Fallible.returns_orPanic_bind_iff,←exists_and_right]
  refine exists_congr fun native => and_congr_right fun _ => ?_
  rw [Fallible.returns_bind_iff,returns_getIbcToken_iff]
  constructor
  · exact fun ⟨hconverts,_⟩ => hconverts _ rfl
  · intro hconverts
    refine ⟨?_,fun _ _ => Fallible.returns_pure _⟩
    intro trace htrace
    obtain rfl : packetData.denom.toString = trace := by
      simpa [getNamadaIbcTraceWhenSending] using htrace
    exact hconverts

lemma returns_ibcAckToBalanceInfo_iff {msg : IbcMessage} :
    Fallible.Returns (ibcAckToBalanceInfo sdk msg nativeToken) ↔
      ∀ packet, refundedPacket sdk msg = some packet → TokenResolves sdk nativeToken packet := by
  have hnone (hpure : Fallible.Returns (ibcAckToBalanceInfo sdk msg nativeToken))
      (hrefunded : refundedPacket sdk msg = none) :
      Fallible.Returns (ibcAckToBalanceInfo sdk msg nativeToken) ↔
        ∀ packet, refundedPacket sdk msg = some packet → TokenResolves sdk nativeToken packet := by
    refine iff_of_true hpure ?_
    rw [hrefunded]
    exact fun packet hpacket => absurd hpacket (Option.some_ne_none packet).symm
  have hrefund (packet : Packet) (hrefunded : refundedPacket sdk msg = some packet)
      (hreturns : Fallible.Returns (ibcAckToBalanceInfo sdk msg nativeToken) ↔
        Fallible.Returns (refundOf sdk nativeToken packet)) :
      Fallible.Returns (ibcAckToBalanceInfo sdk msg nativeToken) ↔
        ∀ packet, refundedPacket sdk msg = some packet → TokenResolves sdk nativeToken packet := by
    rw [hreturns,returns_refundOf_iff,hrefunded]
    simp only [Option.some.injEq,forall_eq']
  cases msg with
  | transfer _ _ => exact hnone (Fallible.returns_pure _) rfl
  | nftTransfer _ _ => exact hnone (Fallible.returns_pure _) rfl
  | envelope envelope =>
    cases envelope with
    | other _ => exact hnone (Fallible.returns_pure _) rfl
    | packet packetMsg =>
      cases packetMsg with
      | recv packet rest => exact hnone (Fallible.returns_pure _) rfl
      | timeout packet rest => exact hrefund packet rfl Fallible.returns_map_iff
      | timeoutOnClose packet rest => exact hrefund packet rfl Fallible.returns_map_iff
      | ack packet acknowledgement rest =>
        cases hack : sdk.acknowledgementStatus acknowledgement with
        | none =>
          refine hnone ?_ (if_neg (by simp [hack]))
          rw [ibcAckToBalanceInfo,packetMsgToBalanceInfo,Fallible.returns_except_bind_iff,hack]
          exact fun ack hok => absurd hok (by simp [context])
        | some ack =>
          cases ack with
          | success =>
            refine hnone ?_ (if_neg (by simp [hack]))
            rw [ibcAckToBalanceInfo,packetMsgToBalanceInfo,hack]
            exact Fallible.returns_pure _
          | error =>
            refine hrefund packet (if_pos hack) ?_
            rw [ibcAckToBalanceInfo,packetMsgToBalanceInfo,hack]
            exact Fallible.returns_map_iff

lemma process_eq_of_transfer {tx : InnerTransaction} {transfer : TransferView}
    (h : tx.kind.transfer = some transfer) :
    Block.processInnerTxForBalance sdk nativeToken ibcTokens tx =
      .returns (transfer.changes sdk nativeToken) := by
  unfold Block.processInnerTxForBalance
  generalize tx.kind = kind at h ⊢
  cases kind with
  | transparentTransfer data | shieldingTransfer data | unshieldingTransfer data
  | mixedTransfer data =>
    cases data with
    | none => contradiction
    | some data =>
      obtain rfl := Option.some.inj h
      rfl
  | ibcSendTrasparentTransfer token data | ibcRecvTrasparentTransfer token data
  | ibcShieldingTransfer token data | ibcUnshieldingTransfer token data =>
    obtain rfl := Option.some.inj h
    rfl
  | _ => contradiction

/-- A transaction that panics here is one whose refund cannot be looked up. -/
lemma returns_process_iff {tx : InnerTransaction} :
    (Block.processInnerTxForBalance sdk nativeToken ibcTokens tx).Returns ↔
      ∀ msg, tx.kind = .ibcMsg (some msg) →
        ∀ packet, refundedPacket sdk msg = some packet → TokenResolves sdk nativeToken packet := by
  by_cases hibc : ∃ msg, tx.kind = .ibcMsg (some msg)
  · obtain ⟨msg,hkind⟩ := hibc
    have hprocess : (Block.processInnerTxForBalance sdk nativeToken ibcTokens tx).Returns ↔
        Fallible.Returns (ibcAckToBalanceInfo sdk msg nativeToken) := by
      rw [Block.processInnerTxForBalance,hkind]
      exact Panicking.returns_map_iff
    rw [hprocess,returns_ibcAckToBalanceInfo_iff,hkind]
    simp only [TransactionKind.ibcMsg.injEq,Option.some.injEq,forall_eq']
  · refine iff_of_true ?_ fun msg hkind => absurd ⟨msg,hkind⟩ hibc
    unfold Block.processInnerTxForBalance
    dsimp only
    split
    · exact absurd ⟨_,‹_›⟩ hibc
    all_goals exact Panicking.returns_returns _

/-- The changes of a block are collected exactly if its refunds resolve. -/
lemma returns_addresses_iff {block : Block} :
    (block.addressesWithBalanceChange sdk nativeToken ibcTokens).Returns ↔
      RefundsResolve sdk nativeToken block := by
  have hentry (entry : WrapperTransaction × List InnerTransaction) :
      (Block.changesOf sdk block nativeToken ibcTokens entry).Returns ↔
        ∀ tx ∈ entry.2, tx.wasSuccessful entry.1 = true →
          (Block.processInnerTxForBalance sdk nativeToken ibcTokens tx).Returns := by
    obtain ⟨wrapperTx,innerTxs⟩ := entry
    rw [Block.changesOf]
    dsimp only
    rw [Panicking.returns_bind_iff]
    constructor
    · rintro ⟨changes,hchanges,-⟩ tx htx hsuccess
      exact Panicking.returns_mapM_iff.mp ⟨changes,hchanges⟩ tx
        (List.mem_filter.mpr ⟨htx,hsuccess⟩)
    · intro h
      obtain ⟨changes,hchanges⟩ := Panicking.returns_mapM_iff.mpr fun tx htx =>
        h tx (List.mem_filter.mp htx).1 (List.mem_filter.mp htx).2
      exact ⟨changes,hchanges,Panicking.returns_returns _⟩
  have hblock : (block.addressesWithBalanceChange sdk nativeToken ibcTokens).Returns ↔
      (block.transactions.mapM (Block.changesOf sdk block nativeToken ibcTokens)).Returns := by
    rw [Block.addressesWithBalanceChange,Panicking.returns_bind_iff]
    exact ⟨fun ⟨changes,hchanges,_⟩ => ⟨changes,hchanges⟩,
      fun ⟨changes,hchanges⟩ => ⟨changes,hchanges,Panicking.returns_returns _⟩⟩
  rw [hblock,Panicking.returns_mapM_iff]
  constructor
  · intro h tx htx
    obtain ⟨wrapperTx,innerTxs,hmem,htx,hsuccess⟩ := (Block.mem_successfulInnerTxs block).mp htx
    exact returns_process_iff.mp ((hentry _).mp (h _ hmem) tx htx hsuccess)
  · intro h entry hmem
    refine (hentry entry).mpr fun tx htx hsuccess => returns_process_iff.mpr (h tx ?_)
    exact (Block.mem_successfulInnerTxs block).mpr ⟨entry.1,entry.2,hmem,htx,hsuccess⟩

lemma mem_changesOf {block : Block} {entry : WrapperTransaction × List InnerTransaction}
    {list : List BalanceChange}
    (h : Block.changesOf sdk block nativeToken ibcTokens entry = .returns list)
    {change : BalanceChange} :
    change ∈ list ↔ change ∈ Block.gasChanges block nativeToken entry.1 ∨
      ∃ tx ∈ entry.2, tx.wasSuccessful entry.1 = true ∧ ∃ own,
        Block.processInnerTxForBalance sdk nativeToken ibcTokens tx = .returns own ∧
        change ∈ own := by
  obtain ⟨wrapperTx,innerTxs⟩ := entry
  simp only [Block.changesOf] at h
  cases hall : (innerTxs.filter fun tx => tx.wasSuccessful wrapperTx).mapM
      (Block.processInnerTxForBalance sdk nativeToken ibcTokens) with
  | panics message => simp [hall] at h
  | returns lists =>
    obtain rfl : lists.flatten ++ Block.gasChanges block nativeToken wrapperTx = list := by
      simpa [hall] using h
    have hmem : ∀ own, own ∈ lists ↔ ∃ tx ∈ innerTxs.filter fun tx => tx.wasSuccessful wrapperTx,
        Block.processInnerTxForBalance sdk nativeToken ibcTokens tx = .returns own :=
      fun own => Panicking.mem_of_mapM_returns hall
    rw [List.mem_append,List.mem_flatten,or_comm]
    refine or_congr_right ?_
    constructor
    · rintro ⟨own,hown,hchange⟩
      obtain ⟨tx,htx,hof⟩ := (hmem own).mp hown
      obtain ⟨htx,hsuccess⟩ := List.mem_filter.mp htx
      exact ⟨tx,htx,hsuccess,own,hof,hchange⟩
    · rintro ⟨tx,htx,hsuccess,own,hof,hchange⟩
      exact ⟨own,(hmem own).mpr ⟨tx,List.mem_filter.mpr ⟨htx,hsuccess⟩,hof⟩,hchange⟩

/-- The set holds what each wrapper and each successful inner transaction contributes. -/
lemma mem_addresses {block : Block} {changes : Finset BalanceChange}
    (h : block.addressesWithBalanceChange sdk nativeToken ibcTokens = .returns changes)
    {change : BalanceChange} :
    change ∈ changes ↔ ∃ entry ∈ block.transactions,
      change ∈ Block.gasChanges block nativeToken entry.1 ∨
      ∃ tx ∈ entry.2, tx.wasSuccessful entry.1 = true ∧ ∃ own,
        Block.processInnerTxForBalance sdk nativeToken ibcTokens tx = .returns own ∧
        change ∈ own := by
  unfold Block.addressesWithBalanceChange at h
  cases hall : block.transactions.mapM (Block.changesOf sdk block nativeToken ibcTokens) with
  | panics message => simp [hall] at h
  | returns lists =>
    obtain rfl : lists.flatten.toFinset = changes := by simpa [hall] using h
    rw [List.mem_toFinset,List.mem_flatten]
    constructor
    · rintro ⟨list,hlist,hchange⟩
      obtain ⟨entry,hentry,hof⟩ := (Panicking.mem_of_mapM_returns hall).mp hlist
      exact ⟨entry,hentry,(mem_changesOf hof).mp hchange⟩
    · rintro ⟨entry,hentry,hchange⟩
      obtain ⟨list,hof⟩ := Panicking.returns_mapM_iff.mp ⟨lists,hall⟩ entry hentry
      exact ⟨list,(Panicking.mem_of_mapM_returns hall).mpr ⟨entry,hentry,hof⟩,
        (mem_changesOf hof).mpr hchange⟩

/-- What a transfer contributes is in the set of every block in which it succeeds. -/
lemma transfer_changes_subset {block : Block} {changes : Finset BalanceChange}
    (h : block.addressesWithBalanceChange sdk nativeToken ibcTokens = .returns changes)
    {tx : InnerTransaction} {transfer : TransferView} (hkind : tx.kind.transfer = some transfer)
    (htx : tx ∈ block.successfulInnerTxs) :
    ∀ change ∈ transfer.changes sdk nativeToken,change ∈ changes := by
  intro change hchange
  obtain ⟨wrapperTx,innerTxs,hentry,hmem,hsuccess⟩ := (Block.mem_successfulInnerTxs block).mp htx
  exact (mem_addresses h).mpr ⟨(wrapperTx,innerTxs),hentry,
    .inr ⟨tx,hmem,hsuccess,_,process_eq_of_transfer hkind,hchange⟩⟩

lemma gasComplete {block : Block} {changes : Finset BalanceChange}
    (h : block.addressesWithBalanceChange sdk nativeToken ibcTokens = .returns changes) :
    GasComplete block changes := by
  intro wrapperTx hwrapper
  obtain ⟨entry,hentry,rfl⟩ := List.mem_map.mp hwrapper
  refine ⟨⟨entry.1.fee.gasPayer,.native entry.1.fee.gasToken⟩,?_,rfl,rfl⟩
  exact (mem_addresses h).mpr ⟨entry,hentry,.inl List.mem_cons_self⟩

lemma toString_withMasp (hsdk : sdk.Lawful) (change : BalanceChange) {other : BalanceChange}
    (h : other ∈ Block.withMasp sdk nativeToken change) :
    other.token.address.toString sdk = change.token.address.toString sdk := by
  obtain rfl | rfl : other = change ∨ other = _ := by simpa [Block.withMasp] using h
  · rfl
  · have hlower : sdk.toLowercase (change.token.address.toString sdk) =
        change.token.address.toString sdk := by
      cases change.token.address <;> exact hsdk.lowercase_lowercase _
    rw [Token.address_new]
    exact hlower

/-- An agreeing transfer shows the account's own token in the account's change. -/
lemma toString_change (hsdk : sdk.Lawful) {transfer : TransferView}
    (hagree : transfer.TokensAgree sdk) {account : ChainAddress}
    (haccount : account ∈ transfer.data.accounts) :
    (transfer.change sdk nativeToken account).token.address.toString sdk = account.token sdk := by
  unfold TransferView.change
  cases hheadline : transfer.headline with
  | some token => exact hagree token hheadline account haccount
  | none =>
    dsimp only
    rw [Token.address_new]
    exact hsdk.lowercase_encode _

lemma change_mem_changes {transfer : TransferView} {account : ChainAddress}
    (haccount : account ∈ transfer.data.accounts) :
    transfer.change sdk nativeToken account ∈ transfer.changes sdk nativeToken := by
  have hbase : transfer.change sdk nativeToken account ∈
      transfer.data.accounts.map (transfer.change sdk nativeToken) := List.mem_map_of_mem haccount
  unfold TransferView.changes
  dsimp only
  split
  · exact List.mem_flatMap.mpr ⟨_,hbase,List.mem_cons_self⟩
  · exact hbase

lemma complete_of_tokensAgree (hsdk : sdk.Lawful) {transfer : TransferView}
    (hagree : transfer.TokensAgree sdk) {changes : Finset BalanceChange}
    (hsub : ∀ change ∈ transfer.changes sdk nativeToken,change ∈ changes) :
    transfer.Complete sdk changes := by
  intro account haccount
  have hshows : (transfer.change sdk nativeToken account).token.address.toString sdk =
      account.token sdk := toString_change hsdk hagree haccount
  refine ⟨⟨_,hsub _ (change_mem_changes haccount),rfl,hshows⟩,?_⟩
  intro hmasp
  have hother : (⟨.account (sdk.encode MASP_ADDRESS),
      .new ((transfer.change sdk nativeToken account).token.address.toString sdk) none
        (nativeToken.toString sdk)⟩ : BalanceChange) ∈
      Block.withMasp sdk nativeToken (transfer.change sdk nativeToken account) := by
    simp [Block.withMasp]
  refine ⟨_,hsub _ ?_,rfl,(toString_withMasp hsdk _ hother).trans hshows⟩
  rw [TransferView.changes,if_pos hmasp]
  exact List.mem_flatMap.mpr ⟨_,List.mem_map_of_mem haccount,hother⟩

/-- Every change of a transfer with a headline token shows that token. -/
lemma toString_of_mem_changes (hsdk : sdk.Lawful) {transfer : TransferView} {token : Token}
    (hheadline : transfer.headline = some token) {change : BalanceChange}
    (h : change ∈ transfer.changes sdk nativeToken) :
    change.token.address.toString sdk = token.address.toString sdk := by
  have hbase : ∀ account, (transfer.change sdk nativeToken account).token = token := by
    intro account
    simp [TransferView.change,hheadline]
  unfold TransferView.changes at h
  dsimp only at h
  split at h
  · obtain ⟨own,hown,hwith⟩ := List.mem_flatMap.mp h
    obtain ⟨account,-,rfl⟩ := List.mem_map.mp hown
    rw [toString_withMasp hsdk _ hwith,hbase]
  · obtain ⟨account,-,rfl⟩ := List.mem_map.mp h
    rw [hbase]

/-- An applied wrapper whose gas payer is no account. -/
def lonelyWrapper : WrapperTransaction where
  txId := .hash ""
  index := 0
  fee := ⟨"",none,"",.hash "",.hash "",none⟩
  atomic := false
  blockHeight := 0
  exitCode := .applied
  totalSignatures := 0
  size := 0

/-- A block with nothing but one inner transaction. -/
def lonelyBlock (tx : InnerTransaction) : Block where
  hash := .hash ""
  header := ⟨0,"",none,0,.hash ""⟩
  transactions := [(lonelyWrapper,[tx])]
  epoch := 0

lemma successfulInnerTxs_lonelyBlock {tx : InnerTransaction} (h : tx.exitCode = .applied) :
    (lonelyBlock tx).successfulInnerTxs = [tx] := by
  simp [lonelyBlock,Block.successfulInnerTxs,InnerTransaction.wasSuccessful,lonelyWrapper,h]

lemma refundsResolve_lonelyBlock {tx : InnerTransaction} {transfer : TransferView}
    (hkind : tx.kind.transfer = some transfer) (h : tx.exitCode = .applied) :
    RefundsResolve sdk nativeToken (lonelyBlock tx) := by
  intro other hother msg hmsg
  rw [successfulInnerTxs_lonelyBlock h,List.mem_singleton] at hother
  subst hother
  rw [hmsg] at hkind
  contradiction

/-- In a block of its own a transfer has to contribute the pairs of its accounts itself. -/
lemma mem_changes_of_lonelyBlock {tx : InnerTransaction} {transfer : TransferView}
    (hkind : tx.kind.transfer = some transfer) {changes : Finset BalanceChange}
    (h : (lonelyBlock tx).addressesWithBalanceChange sdk nativeToken ibcTokens = .returns changes)
    {change : BalanceChange} (hchange : change ∈ changes) {owner : String}
    (howner : change.address = .account owner) : change ∈ transfer.changes sdk nativeToken := by
  obtain ⟨entry,hentry,hgas | ⟨other,hother,-,own,hown,hown'⟩⟩ := (mem_addresses h).mp hchange
  · obtain rfl := List.mem_singleton.mp hentry
    have haddress : change.address = .hash "" := by
      have hlist : Block.gasChanges (lonelyBlock tx) nativeToken lonelyWrapper =
          [⟨.hash "",.native (.hash "")⟩] := by
        unfold Block.gasChanges
        split <;> rfl
      rw [hlist,List.mem_singleton] at hgas
      rw [hgas]
    rw [haddress] at howner
    contradiction
  · obtain rfl := List.mem_singleton.mp hentry
    obtain rfl : other = tx := by simpa using hother
    rw [process_eq_of_transfer hkind] at hown
    obtain rfl : transfer.changes sdk nativeToken = own := by simpa using hown
    exact hown'

/-- The balance changes of a block are collected exactly if its refunds resolve, with those of the
gas payers; and then they are complete up to one point: a transfer has the pairs of its accounts in
every block in which it succeeds if and only if the token an IBC kind carries is the token of each of
its accounts. -/
theorem balance_changes_complete_iff {sdk : Sdk} (hsdk : sdk.Lawful) (nativeToken : Id)
    (ibcTokens : List Token) :
    (∀ block, RefundsResolve sdk nativeToken block ↔ ∃ changes,
      block.addressesWithBalanceChange sdk nativeToken ibcTokens = .returns changes ∧
      GasComplete block changes) ∧
    ∀ tx transfer, tx.kind.transfer = some transfer → tx.exitCode = .applied →
      ((∀ block, tx ∈ block.successfulInnerTxs → RefundsResolve sdk nativeToken block →
        ∃ changes,
          block.addressesWithBalanceChange sdk nativeToken ibcTokens = .returns changes ∧
          transfer.Complete sdk changes) ↔ transfer.TokensAgree sdk) := by
  constructor
  · intro block
    rw [←@returns_addresses_iff sdk nativeToken ibcTokens]
    constructor
    · rintro ⟨changes,hchanges⟩
      exact ⟨changes,hchanges,gasComplete hchanges⟩
    · rintro ⟨changes,hchanges,-⟩
      exact ⟨changes,hchanges⟩
  · intro tx transfer hkind happlied
    constructor
    · intro h token hheadline account haccount
      have hmem : tx ∈ (lonelyBlock tx).successfulInnerTxs := by
        rw [successfulInnerTxs_lonelyBlock happlied]
        exact List.mem_singleton_self tx
      obtain ⟨changes,hchanges,hcomplete⟩ := h _ hmem (refundsResolve_lonelyBlock hkind happlied)
      obtain ⟨change,hchange,howner,hshows⟩ := (hcomplete account haccount).1
      rw [←hshows,toString_of_mem_changes hsdk hheadline
        (mem_changes_of_lonelyBlock hkind hchanges hchange howner)]
    · intro hagree block htx hresolve
      obtain ⟨changes,hchanges⟩ := returns_addresses_iff.mpr hresolve
      exact ⟨changes,hchanges,
        complete_of_tokensAgree hsdk hagree (transfer_changes_subset hchanges hkind htx)⟩

end

lemma sample_lawful : Sdk.sample.Lawful where
  lowercase_encode _ := rfl
  lowercase_lowercase _ := rfl

/-- An outgoing transfer of an IBC token whose two legs carry that token. -/
def sentOsmo : InnerTransaction where
  txId := .hash "1"
  index := 0
  wrapperId := .hash ""
  kind := .ibcSendTrasparentTransfer (.ibc ⟨.account "tnam1ptosmo",none⟩)
    { sources := [(.chainAccount ⟨.implicit "alice",.internal (.ibcToken "osmo")⟩,⟨5,0⟩)]
      targets := [(.externalAccount "osmo1bob" (.internal (.ibcToken "osmo")),⟨5,0⟩)]
      shieldedSectionHash := none }
  memo := none
  data := none
  extraSections := []
  notes := 0
  exitCode := .applied

theorem balance_changes_complete_sentOsmo :
    ∃ changes, (lonelyBlock sentOsmo).addressesWithBalanceChange Sdk.sample
        (.account "tnam1qnam") [] = .returns changes ∧
      ∀ transfer, sentOsmo.kind.transfer = some transfer → transfer.Complete Sdk.sample changes := by
  have hagree : ∀ transfer, sentOsmo.kind.transfer = some transfer →
      transfer.TokensAgree Sdk.sample := by
    intro transfer htransfer token hheadline account haccount
    obtain rfl := Option.some.inj htransfer
    obtain rfl := Option.some.inj hheadline
    revert account
    decide
  obtain ⟨changes,hchanges,hcomplete⟩ :=
    ((balance_changes_complete_iff sample_lawful (.account "tnam1qnam") []).2 sentOsmo _ rfl
      rfl).mpr (hagree _ rfl) (lonelyBlock sentOsmo) (by decide)
      (refundsResolve_lonelyBlock rfl rfl)
  refine ⟨changes,hchanges,?_⟩
  intro transfer htransfer
  obtain rfl := Option.some.inj htransfer
  exact hcomplete

/-- The message of an unshielding transfer of the native token that also pays a relayer in
another token. -/
def unshieldingMessage : IbcMessage :=
  .transfer
    { portIdOnA := "transfer"
      chanIdOnA := "channel-0"
      packetData := ⟨⟨[],"tnam1qnam"⟩,100,"tnam1pmasp","osmo1bob",""⟩
      timeoutHeightOnB := "0-0"
      timeoutTimestampOnB := "0" }
    (some
      { sources := [(⟨MASP_ADDRESS,.established "nam"⟩,⟨100,6⟩),
          (⟨MASP_ADDRESS,.internal (.ibcToken "osmo")⟩,⟨5,0⟩)]
        targets := [(⟨IBC,.established "nam"⟩,⟨100,6⟩),
          (⟨.implicit "relayer",.internal (.ibcToken "osmo")⟩,⟨5,0⟩)]
        shieldedSectionHash := some ⟨"masp"⟩ })

/-- The relayer's leg of that transfer is missed. -/
theorem balance_changes_miss_fee_leg :
    ∃ token data, (transferToIbcTxKind Sdk.sample unshieldingMessage (.established "nam")).run =
        .returns (.ok (.ibcUnshieldingTransfer token data)) ∧
      ∃ changes, (lonelyBlock { sentOsmo with kind := .ibcUnshieldingTransfer token data
        }).addressesWithBalanceChange Sdk.sample (.account "tnam1qnam") [] = .returns changes ∧
      .chainAccount ⟨.implicit "relayer",.internal (.ibcToken "osmo")⟩ ∈ data.accounts ∧
      ¬ HasPair Sdk.sample changes "tnam1zrelayer" "tnam1ptosmo" := by
  refine ⟨_,_,rfl,_,rfl,by decide,?_⟩
  unfold HasPair
  decide

end NamadaIndexer.Shared
