import NamadaIndexer.Shared.BalanceChanges

/-! Which token an IBC packet moves. Native is told by a search in the text of the packet's
denomination, not by the denomination that the packet has on Namada. -/
namespace NamadaIndexer.Shared
open NamadaIndexer.Foundation

/-- The denomination that a received packet has on Namada: one hop of the sender is undone, or
the hop of the receiver is put in front. -/
def PrefixedDenom.received (denom : PrefixedDenom)
    (senderPort senderChannel receiverPort receiverChannel : String) : PrefixedDenom :=
  if denom.startsWith ⟨senderPort,senderChannel⟩ then
    denom.removePrefix ⟨senderPort,senderChannel⟩
  else { denom with tracePath := ⟨receiverPort,receiverChannel⟩ :: denom.tracePath }

namespace PrefixedDenom

theorem toString_cons (hop : TracePrefix) (hops : List TracePrefix) (baseDenom : String) :
    toString ⟨hop::hops,baseDenom⟩ =
      hop.portId ++ "/" ++ hop.channelId ++ "/" ++ toString ⟨hops,baseDenom⟩ := rfl

theorem startsWith_iff {denom : PrefixedDenom} {hop : TracePrefix} :
    denom.startsWith hop = true ↔ ∃ hops, denom.tracePath = hop::hops := by
  rw [startsWith,beq_iff_eq,List.head?_eq_some_iff]

theorem removePrefix_cons (hop : TracePrefix) (hops : List TracePrefix) (baseDenom : String) :
    removePrefix ⟨hop::hops,baseDenom⟩ hop = ⟨hops,baseDenom⟩ := by
  rw [removePrefix,if_pos (startsWith_iff.mpr ⟨hops,rfl⟩),List.tail_cons]

end PrefixedDenom

theorem getNamadaIbcTraceWhenReceiving_eq (denom : PrefixedDenom)
    (senderPort senderChannel receiverPort receiverChannel : String) :
    getNamadaIbcTraceWhenReceiving denom senderPort senderChannel receiverPort receiverChannel =
      let resolved := denom.received senderPort senderChannel receiverPort receiverChannel
      if resolved.tracePath = [] then none else some resolved.toString := by
  unfold getNamadaIbcTraceWhenReceiving PrefixedDenom.received
  cases hstarts : denom.startsWith ⟨senderPort,senderChannel⟩ with
  | false => simp [hstarts,PrefixedDenom.toString]
  | true => simp [hstarts,List.isEmpty_iff]

section
variable {sdk : Sdk} {nativeToken : Address}

theorem getIbcToken_some_eq_ok {trace : String} {denom : PrefixedDenom} {found : Address × Token} :
    (getIbcToken sdk (some trace) nativeToken denom).run = .returns (.ok found) ↔
      ∃ address, sdk.convertToAddress trace = some address ∧
        (if mentionsNative sdk nativeToken denom then
          (nativeToken,.native (.ofAddress sdk nativeToken))
        else (address,.ibc ⟨.ofAddress sdk address,some (.ibcTrace trace)⟩)) = found := by
  rw [getIbcToken,Panicking.run_bind_eq_ok]
  refine exists_congr fun address => and_congr ?_ ?_
  · exact Panicking.run_lift_eq_ok.trans Panicking.expect_eq_returns
  · cases mentionsNative sdk nativeToken denom <;> exact Panicking.run_pure_eq_ok

theorem getIbcToken_none_eq_ok {denom : PrefixedDenom} {found : Address × Token} :
    (getIbcToken sdk none nativeToken denom).run = .returns (.ok found) ↔
      mentionsNative sdk nativeToken denom = true ∧
        (nativeToken,.native (.ofAddress sdk nativeToken)) = found ∨
      mentionsNative sdk nativeToken denom = false ∧ ∃ address,
        sdk.decode denom.baseDenom = some address ∧
          (address,.ibc ⟨.ofAddress sdk address,none⟩) = found := by
  unfold getIbcToken
  cases hmentions : mentionsNative sdk nativeToken denom with
  | true =>
    simp only [Bool.not_true,Bool.false_eq_true,if_false]
    rw [Panicking.run_pure_eq_ok]
    simp
  | false =>
    simp only [Bool.not_false,if_true]
    rw [Panicking.run_bind_eq_ok]
    simp only [Bool.false_eq_true,false_and,true_and,false_or]
    refine exists_congr fun address => and_congr ?_ Panicking.run_pure_eq_ok
    constructor
    · exact fun h => context_eq_ok_iff.mp (Panicking.returns.inj h)
    · exact fun h => congrArg Panicking.returns (context_eq_ok_iff.mpr h)

/-- The token and the amount of a packet that both directions look up. -/
theorem getTokenAndAmount_eq_ok {maybeIbcTrace : Option String} {amount : IbcAmount}
    {denom : PrefixedDenom} {address : Address} {token : Token}
    {denominatedAmount : DenominatedAmount} :
    (getTokenAndAmount sdk maybeIbcTrace amount nativeToken denom).run =
        .returns (.ok (address,token,denominatedAmount)) ↔
      (getIbcToken sdk maybeIbcTrace nativeToken denom).run = .returns (.ok (address,token)) ∧
      ∃ converted, sdk.amountTryFrom amount = some converted ∧
        (if maybeIbcTrace.isSome then ⟨converted,0⟩ else .native converted) =
          denominatedAmount := by
  rw [getTokenAndAmount,Panicking.run_bind_eq_ok]
  constructor
  · rintro ⟨⟨address',token'⟩,htoken,h⟩
    obtain ⟨amount',hamount,h⟩ := Panicking.run_bind_eq_ok.mp h
    obtain ⟨rfl,rfl,rfl⟩ : address' = address ∧ token' = token ∧ amount' = denominatedAmount := by
      simpa using Panicking.run_pure_eq_ok.mp h
    obtain ⟨converted,hconverted,h⟩ :=
      Panicking.bind_eq_returns.mp (Panicking.run_lift_eq_ok.mp hamount)
    exact ⟨htoken,converted,Panicking.expect_eq_returns.mp hconverted,Panicking.returns.inj h⟩
  · rintro ⟨htoken,converted,hconverted,rfl⟩
    refine ⟨_,htoken,Panicking.run_bind_eq_ok.mpr ⟨_,?_,Panicking.run_pure_eq_ok.mpr rfl⟩⟩
    refine Panicking.run_lift_eq_ok.mpr (Panicking.bind_eq_returns.mpr ⟨converted,?_,rfl⟩)
    exact Panicking.expect_eq_returns.mpr hconverted

end

/-- The denomination of a fungible token packet, as the packet has it and as Namada has it. -/
def packetDenoms (sdk : Sdk) : IbcMessage → Option (PrefixedDenom × PrefixedDenom)
  | .envelope (.packet (.recv packet _)) =>
    if packet.portIdOnB = FT_PORT_ID_STR then
      (sdk.ftPacketData packet.data).map fun packetData => (packetData.denom,
        packetData.denom.received packet.portIdOnA packet.chanIdOnA packet.portIdOnB
          packet.chanIdOnB)
    else none
  | .transfer message _ => some (message.packetData.denom,message.packetData.denom)
  | _ => none

/-- `namada_ibc::received_ibc_token`, for a received packet -/
def receivedTokenAddress (sdk : Sdk) : IbcMessage → Option Address
  | .envelope (.packet (.recv packet _)) =>
    (sdk.ftPacketData packet.data).bind fun packetData =>
      sdk.receivedIbcToken packetData.denom.toString packet.portIdOnA packet.chanIdOnA
        packet.portIdOnB packet.chanIdOnB
  | _ => none

def IbcMessage.isReceived : IbcMessage → Bool
  | .envelope (.packet (.recv _ _)) => true
  | _ => false

/-- ICS-20: the address of a received token is the one of its denomination on Namada. -/
def Sdk.ResolvesReceived (sdk : Sdk) (ibcData : IbcMessage) : Prop :=
  ibcData.isReceived = true → ∀ denom resolved, packetDenoms sdk ibcData = some (denom,resolved) →
    receivedTokenAddress sdk ibcData =
      if resolved.tracePath = [] then sdk.decode resolved.baseDenom
      else sdk.convertToAddress resolved.toString

/-- The token is the one that a denomination on Namada stands for. -/
structure TokenNames (sdk : Sdk) (nativeToken : Address) (ibcData : IbcMessage)
    (resolved : PrefixedDenom) (token : Token) : Prop where
  native_iff : token = .native (.ofAddress sdk nativeToken) ↔
    resolved.tracePath = [] ∧ resolved.baseDenom = sdk.encode nativeToken
  trace : token = .native (.ofAddress sdk nativeToken) ∨ ∃ address trace,
    token = .ibc ⟨address,trace⟩ ∧ (trace = some (.ibcTrace resolved.toString) ∨
      resolved.tracePath = [] ∧ trace = none)
  address : ibcData.isReceived = true → ∀ ibcToken, token = .ibc ibcToken →
    ∃ address, receivedTokenAddress sdk ibcData = some address ∧
      ibcToken.address = .ofAddress sdk address

/-- The condition under which the search in the text finds what it looks for. -/
def MentionsOnlyItself (sdk : Sdk) (nativeToken : Address) (denom resolved : PrefixedDenom) :
    Prop :=
  mentionsNative sdk nativeToken denom = true →
    resolved.tracePath = [] ∧ resolved.baseDenom = sdk.encode nativeToken

section
variable {sdk : Sdk} {nativeToken : Address} {ibcData : IbcMessage}
  {denom resolved : PrefixedDenom}

namespace PrefixedDenom

theorem baseDenom_suffix (denom : PrefixedDenom) :
    denom.baseDenom.toList <:+ denom.toString.toList := by
  obtain ⟨hops,baseDenom⟩ := denom
  induction hops with
  | nil => exact List.suffix_refl _
  | cons hop hops ih =>
    rw [toString_cons,String.toList_append]
    exact ih.trans (List.suffix_append _ _)

@[simp] theorem received_baseDenom (denom : PrefixedDenom)
    (senderPort senderChannel receiverPort receiverChannel : String) :
    (denom.received senderPort senderChannel receiverPort receiverChannel).baseDenom =
      denom.baseDenom := by
  unfold received removePrefix
  split <;> rfl

end PrefixedDenom

lemma mentionsNative_of_baseDenom (h : denom.baseDenom = sdk.encode nativeToken) :
    mentionsNative sdk nativeToken denom = true := by
  unfold mentionsNative
  rw [decide_eq_true_eq,←h]
  exact (denom.baseDenom_suffix).isInfix

lemma baseDenom_of_packetDenoms (h : packetDenoms sdk ibcData = some (denom,resolved)) :
    resolved.baseDenom = denom.baseDenom := by
  unfold packetDenoms at h
  split at h
  · split at h
    · obtain ⟨packetData,-,heq⟩ := Option.map_eq_some_iff.mp h
      obtain ⟨rfl,rfl⟩ := Prod.mk.inj heq
      exact PrefixedDenom.received_baseDenom _ _ _ _ _
    · contradiction
  · obtain ⟨rfl,rfl⟩ := Prod.mk.inj (Option.some.inj h)
    rfl
  · contradiction

lemma getIbcToken_of_received {packet : Packet} {packetData : FtPacketData}
    {found : TransferData × Token} (hdata : sdk.ftPacketData packet.data = some packetData)
    (h : (receivedTransfer sdk nativeToken packet).run = .returns (.ok found)) :
    ∃ address, (getIbcToken sdk (getNamadaIbcTraceWhenReceiving packetData.denom
      packet.portIdOnA packet.chanIdOnA packet.portIdOnB packet.chanIdOnB) nativeToken
      packetData.denom).run = .returns (.ok (address,found.2)) := by
  unfold receivedTransfer at h
  rw [hdata] at h
  obtain ⟨packetData',hread,h⟩ := Panicking.run_bind_eq_ok.mp h
  obtain rfl : packetData = packetData' := Panicking.returns.inj (Panicking.run_lift_eq_ok.mp hread)
  obtain ⟨⟨address,token,amount⟩,htoken,h⟩ := Panicking.run_bind_eq_ok.mp h
  obtain ⟨receiver,-,h⟩ := Panicking.run_bind_eq_ok.mp h
  obtain rfl := Panicking.run_pure_eq_ok.mp h
  exact ⟨address,(getTokenAndAmount_eq_ok.mp htoken).1⟩

lemma getIbcToken_of_sent {message : IbcMsgTransfer} {transfer : Option Transfer}
    {found : TransferData × Token}
    (h : (sentTransfer sdk nativeToken message transfer).run = .returns (.ok found)) :
    ∃ address, (getIbcToken sdk (some message.packetData.denom.toString) nativeToken
      message.packetData.denom).run = .returns (.ok (address,found.2)) := by
  unfold sentTransfer at h
  obtain ⟨⟨address,token,amount⟩,htoken,h⟩ := Panicking.run_bind_eq_ok.mp h
  obtain ⟨sender,-,h⟩ := Panicking.run_bind_eq_ok.mp h
  obtain rfl := Panicking.run_pure_eq_ok.mp h
  exact ⟨address,(getTokenAndAmount_eq_ok.mp htoken).1⟩

/-- The token that a kind carries was looked up for the packet's denomination, with the text
of its denomination on Namada; the text is left out of a received token without a trace. -/
lemma getIbcToken_of_kind {kind : TransactionKind} {view : TransferView} {token : Token}
    (hdenoms : packetDenoms sdk ibcData = some (denom,resolved))
    (hkind : (transferToIbcTxKind sdk ibcData nativeToken).run = .returns (.ok kind))
    (hview : kind.transfer = some view) (htoken : view.headline = some token) :
    ∃ address trace, (getIbcToken sdk trace nativeToken denom).run =
        .returns (.ok (address,token)) ∧
      (trace = some resolved.toString ∧ (ibcData.isReceived = true → resolved.tracePath ≠ []) ∨
        trace = none ∧ resolved.tracePath = []) := by
  unfold packetDenoms at hdenoms
  split at hdenoms
  · rename_i packet rest
    split at hdenoms
    · rename_i hport
      obtain ⟨packetData,hdata,heq⟩ := Option.map_eq_some_iff.mp hdenoms
      obtain ⟨rfl,rfl⟩ := Prod.mk.inj heq
      simp only [transferToIbcTxKind,if_pos hport] at hkind
      obtain ⟨⟨transferData,tokenId⟩,hreceived,hkind⟩ := Panicking.run_bind_eq_ok.mp hkind
      have hheadline : token = tokenId := by
        obtain rfl := Panicking.run_pure_eq_ok.mp hkind
        split at hview <;> cases hview <;> exact (Option.some.inj htoken).symm
      obtain ⟨address,htoken⟩ := getIbcToken_of_received hdata hreceived
      refine ⟨address,_,hheadline ▸ htoken,?_⟩
      rw [getNamadaIbcTraceWhenReceiving_eq]
      dsimp only
      split
      · rename_i hempty
        exact .inr ⟨rfl,hempty⟩
      · rename_i hhops
        exact .inl ⟨rfl,fun _ => hhops⟩
    · contradiction
  · obtain ⟨rfl,rfl⟩ := Prod.mk.inj (Option.some.inj hdenoms)
    simp only [transferToIbcTxKind] at hkind
    obtain ⟨⟨transferData,tokenId⟩,hsent,hkind⟩ := Panicking.run_bind_eq_ok.mp hkind
    have hheadline : token = tokenId := by
      obtain rfl := Panicking.run_pure_eq_ok.mp hkind
      split at hview <;> cases hview <;> exact (Option.some.inj htoken).symm
    obtain ⟨address,htoken⟩ := getIbcToken_of_sent hsent
    exact ⟨address,_,hheadline ▸ htoken,.inl ⟨rfl,fun h => by contradiction⟩⟩
  · contradiction

/-- The token of a packet is the one of its denomination on Namada exactly if the text of the
packet's denomination does not mention the native token without being it. -/
theorem ibc_token_identity_iff {kind : TransactionKind} {view : TransferView} {token : Token}
    (hdenoms : packetDenoms sdk ibcData = some (denom,resolved))
    (hreceived : sdk.ResolvesReceived ibcData)
    (hkind : (transferToIbcTxKind sdk ibcData nativeToken).run = .returns (.ok kind))
    (hview : kind.transfer = some view) (htoken : view.headline = some token) :
    TokenNames sdk nativeToken ibcData resolved token ↔
      MentionsOnlyItself sdk nativeToken denom resolved := by
  obtain ⟨address,trace,hfound,htrace⟩ := getIbcToken_of_kind hdenoms hkind hview htoken
  have hbase := baseDenom_of_packetDenoms hdenoms
  cases hmentions : mentionsNative sdk nativeToken denom with
  | true =>
    have hnative : token = .native (.ofAddress sdk nativeToken) := by
      obtain ⟨rfl,-⟩ | ⟨rfl,-⟩ := htrace
      · obtain ⟨found,-,heq⟩ := getIbcToken_some_eq_ok.mp hfound
        rw [if_pos hmentions] at heq
        exact (Prod.mk.inj heq).2.symm
      · obtain ⟨-,heq⟩ | ⟨hnot,-⟩ := getIbcToken_none_eq_ok.mp hfound
        · exact (Prod.mk.inj heq).2.symm
        · rw [hmentions] at hnot
          contradiction
    constructor
    · exact fun hnames _ => hnames.native_iff.mp hnative
    · intro honly
      refine ⟨⟨fun _ => honly hmentions,fun _ => hnative⟩,.inl hnative,?_⟩
      rintro - ibcToken rfl
      contradiction
  | false =>
    have hforeign : ¬ (resolved.tracePath = [] ∧ resolved.baseDenom = sdk.encode nativeToken) := by
      rintro ⟨-,hself⟩
      rw [mentionsNative_of_baseDenom (hbase ▸ hself)] at hmentions
      contradiction
    refine ⟨fun _ h => by rw [hmentions] at h; contradiction,fun _ => ?_⟩
    obtain ⟨rfl,hhops⟩ | ⟨rfl,hempty⟩ := htrace
    · obtain ⟨found,haddress,heq⟩ := getIbcToken_some_eq_ok.mp hfound
      rw [if_neg (by simp [hmentions])] at heq
      obtain ⟨rfl,rfl⟩ := Prod.mk.inj heq
      refine ⟨⟨fun h => by contradiction,fun h => absurd h hforeign⟩,
        .inr ⟨_,_,rfl,.inl rfl⟩,?_⟩
      rintro his ibcToken ⟨⟩
      have hresolves := hreceived his _ _ hdenoms
      rw [if_neg (hhops his)] at hresolves
      exact ⟨found,hresolves.trans haddress,rfl⟩
    · obtain ⟨hyes,-⟩ | ⟨-,found,haddress,heq⟩ := getIbcToken_none_eq_ok.mp hfound
      · rw [hmentions] at hyes
        contradiction
      · obtain ⟨rfl,rfl⟩ := Prod.mk.inj heq
        refine ⟨⟨fun h => by contradiction,fun h => absurd h hforeign⟩,
          .inr ⟨_,_,rfl,.inr ⟨hempty,rfl⟩⟩,?_⟩
        rintro his ibcToken ⟨⟩
        have hresolves := hreceived his _ _ hdenoms
        rw [if_pos hempty,hbase] at hresolves
        exact ⟨found,hresolves.trans haddress,rfl⟩

/-- A packet of one unit that arrives over channel 0 from channel 1. -/
def samplePacket : Packet where
  seqOnA := 1
  portIdOnA := "transfer"
  chanIdOnA := "channel-1"
  portIdOnB := "transfer"
  chanIdOnB := "channel-0"
  data := []
  timeoutHeightOnB := ""
  timeoutTimestampOnB := ""

def samplePacketData (denom : PrefixedDenom) : FtPacketData where
  denom
  amount := 1
  sender := "cosmos1alice"
  receiver := "tnam1qbob"
  memo := ""

/-- The data of every packet is a transfer of this denomination. -/
def receivingSdk (denom : PrefixedDenom) : Sdk :=
  { Sdk.sample with ftPacketData := fun _ => some (samplePacketData denom) }

def sampleReceived : IbcMessage := .envelope (.packet (.recv samplePacket []))

/-- The legs of the packet, for the token that it is looked up as. -/
def sampleLegs (token : Address) : TransferData where
  sources := [(.externalAccount "cosmos1alice" token,⟨1,0⟩)]
  targets := [(.chainAccount ⟨.established "bob",token⟩,⟨1,0⟩)]
  shieldedSectionHash := none

/-- A token of the sender's chain becomes the voucher of one hop. -/
theorem received_voucher_named :
    TokenNames (receivingSdk ⟨[],"uatom"⟩) (.established "nam") sampleReceived
      ⟨[⟨"transfer","channel-0"⟩],"uatom"⟩
      (.ibc ⟨.account "tnam1pttransfer/channel-0/uatom",
        some (.ibcTrace "transfer/channel-0/uatom")⟩) := by
  have hdenoms : packetDenoms (receivingSdk ⟨[],"uatom"⟩) sampleReceived =
      some (⟨[],"uatom"⟩,⟨[⟨"transfer","channel-0"⟩],"uatom"⟩) := by decide
  have hresolves : (receivingSdk ⟨[],"uatom"⟩).ResolvesReceived sampleReceived := by
    rintro - denom resolved h
    obtain ⟨rfl,rfl⟩ := Prod.mk.inj (Option.some.inj (hdenoms.symm.trans h))
    decide
  have hkind : (transferToIbcTxKind (receivingSdk ⟨[],"uatom"⟩) sampleReceived
      (.established "nam")).run = .returns (.ok (.ibcRecvTrasparentTransfer
        (.ibc ⟨.account "tnam1pttransfer/channel-0/uatom",
          some (.ibcTrace "transfer/channel-0/uatom")⟩)
        (sampleLegs (.internal (.ibcToken "transfer/channel-0/uatom"))))) := by decide
  exact (ibc_token_identity_iff hdenoms hresolves hkind rfl rfl).mpr
    fun hmentions => absurd hmentions (by decide)

/-- A voucher of the native token that went through another chain is taken for the native token. -/
theorem travelled_voucher_taken_for_native :
    (transferToIbcTxKind (receivingSdk ⟨[⟨"transfer","channel-9"⟩],"tnam1qnam"⟩) sampleReceived
      (.established "nam")).run = .returns (.ok (.ibcRecvTrasparentTransfer
        (.native (.account "tnam1qnam")) (sampleLegs (.established "nam")))) ∧
    packetDenoms (receivingSdk ⟨[⟨"transfer","channel-9"⟩],"tnam1qnam"⟩) sampleReceived =
      some (⟨[⟨"transfer","channel-9"⟩],"tnam1qnam"⟩,
        ⟨[⟨"transfer","channel-0"⟩,⟨"transfer","channel-9"⟩],"tnam1qnam"⟩) ∧
    ¬ TokenNames (receivingSdk ⟨[⟨"transfer","channel-9"⟩],"tnam1qnam"⟩) (.established "nam")
      sampleReceived ⟨[⟨"transfer","channel-0"⟩,⟨"transfer","channel-9"⟩],"tnam1qnam"⟩
      (.native (.account "tnam1qnam")) := by
  refine ⟨by decide,by decide,?_⟩
  intro hnames
  have hempty := (hnames.native_iff.mp rfl).1
  contradiction

end
end NamadaIndexer.Shared
