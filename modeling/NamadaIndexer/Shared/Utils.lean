import Mathlib.Data.List.Infix
import NamadaIndexer.Shared.Transaction

/-! Classification of transfers: what kind a transfer has, which token it moves, and which
accounts stand on its two sides. -/
namespace NamadaIndexer.Shared
open NamadaIndexer.Foundation

structure BalanceChange where
  address : Id
  token : Token
  deriving DecidableEq, Repr

def FT_PORT_ID_STR : String := "transfer"
def NFT_PORT_ID_STR : String := "nft-transfer"

/-- The fold over one side of a transfer: are all its owners the MASP, is any. -/
def maspOwners (side : List (Account × DenominatedAmount)) : Bool × Bool :=
  side.foldl (fun (all,any) (account,_) =>
    let isMasp := account.owner == MASP_ADDRESS
    (all && isMasp,any || isMasp)) (true,false)

/-- `transfer_to_tx_kind` -/
def transferToTxKind (data : Transfer) : TransactionKind :=
  let hasShieldedSection := data.shieldedSectionHash.isSome
  if hasShieldedSection && data.sources.isEmpty && data.targets.isEmpty then
    .shieldedTransfer (some (.ofTransfer data))
  else
    let (allSourcesAreMasp,anySourcesAreMasp) := maspOwners data.sources
    let (allTargetsAreMasp,anyTargetsAreMasp) := maspOwners data.targets
    match allSourcesAreMasp,anySourcesAreMasp,allTargetsAreMasp,anyTargetsAreMasp,
      hasShieldedSection with
    | true,_,true,_,true => .shieldedTransfer (some (.ofTransfer data))
    | true,_,_,false,true => .unshieldingTransfer (some (.ofTransfer data))
    | _,false,true,_,true => .shieldingTransfer (some (.ofTransfer data))
    | _,false,_,false,false => .transparentTransfer (some (.ofTransfer data))
    | _,_,_,_,_ => .mixedTransfer (some (.ofTransfer data))

/-- `get_namada_ibc_trace_when_receiving` -/
def getNamadaIbcTraceWhenReceiving (senderDenom : PrefixedDenom)
    (senderPort senderChannel receiverPort receiverChannel : String) : Option String :=
  let pref : TracePrefix := ⟨senderPort,senderChannel⟩
  if !senderDenom.startsWith pref then
    some (receiverPort ++ "/" ++ receiverChannel ++ "/" ++ senderDenom.toString)
  else
    let denom := senderDenom.removePrefix pref
    if denom.tracePath.isEmpty then none
    else some (if senderDenom.startsWith pref then denom.toString
      else receiverPort ++ "/" ++ receiverChannel ++ "/" ++ senderDenom.toString)

/-- `get_namada_ibc_trace_when_sending` -/
def getNamadaIbcTraceWhenSending (senderDenom : PrefixedDenom) : Option String :=
  some senderDenom.toString

section
variable (sdk : Sdk)

/-- The denomination is taken for the native token when its text contains the native
token's address. -/
def mentionsNative (nativeToken : Address) (denom : PrefixedDenom) : Bool :=
  (sdk.encode nativeToken).toList <:+: denom.toString.toList

/-- `get_ibc_token` -/
def getIbcToken (maybeIbcTrace : Option String) (nativeToken : Address)
    (originalDenom : PrefixedDenom) : Fallible (Address × Token) := do
  match maybeIbcTrace with
  | some ibcTrace =>
    let isNative := mentionsNative sdk nativeToken originalDenom
    let tokenAddress ← orPanic (.expect "Failed to convert IBC trace to address"
      (sdk.convertToAddress ibcTrace))
    if isNative then
      return (nativeToken,.native (.ofAddress sdk nativeToken))
    else
      return (tokenAddress,.ibc
        { address := .ofAddress sdk tokenAddress, trace := some (.ibcTrace ibcTrace) })
  | none =>
    if !mentionsNative sdk nativeToken originalDenom then
      let namadaAddress ← context "Failed to decode base denom"
        (sdk.decode originalDenom.baseDenom)
      return (namadaAddress,.ibc { address := .ofAddress sdk namadaAddress, trace := none })
    else
      return (nativeToken,.native (.ofAddress sdk nativeToken))

/-- `get_ibc_amount` -/
def getIbcAmount (amount : IbcAmount) (isIbcToken : Bool) : Panicking DenominatedAmount := do
  let convertedAmount ← .expect "Failed conversion of IBC amount to Namada one"
    (sdk.amountTryFrom amount)
  return if isIbcToken then ⟨convertedAmount,0⟩ else .native convertedAmount

/-- `get_token_and_amount` -/
def getTokenAndAmount (maybeIbcTrace : Option String) (amount : IbcAmount)
    (nativeToken : Address) (originalDenom : PrefixedDenom) :
    Fallible (Address × Token × DenominatedAmount) := do
  let (address,token) ← getIbcToken sdk maybeIbcTrace nativeToken originalDenom
  let denominatedAmount ← orPanic (getIbcAmount sdk amount maybeIbcTrace.isSome)
  return (address,token,denominatedAmount)

def startsWithTnam1 (address : String) : Bool := "tnam1".toList.isPrefixOf address.toList

/-- `convert_account` -/
def convertAccount (packetData : FtPacketData) (token : Address) (isSender : Bool) :
    Except String ChainAddress := do
  let address := if isSender then packetData.sender else packetData.receiver
  if sdk.isPfmMemo packetData.memo then return .ibcPfmAccount address token
  else if !startsWithTnam1 address then return .externalAccount address token
  else
    let owner ← context ("Ibc " ++ (if isSender then "sender" else "receiver") ++
      " address is not valid") (sdk.decode address)
    return .chainAccount ⟨owner,token⟩

/-- The transfer of a received fungible token packet. -/
def receivedTransfer (nativeToken : Address) (packet : Packet) : Fallible (TransferData × Token) := do
  let packetData ← orPanic (.expect "Could not deserialize IBC fungible token packet"
    (sdk.ftPacketData packet.data))
  let maybeIbcTrace := getNamadaIbcTraceWhenReceiving packetData.denom packet.portIdOnA
    packet.chanIdOnA packet.portIdOnB packet.chanIdOnB
  let (token,tokenId,denominatedAmount) ← getTokenAndAmount sdk maybeIbcTrace packetData.amount
    nativeToken packetData.denom
  let receiver ← orPanic (.expectOk "Should be able to convert receiver"
    (convertAccount sdk packetData token false))
  return (
    { sources := [(.externalAccount packetData.sender token,denominatedAmount)]
      targets := [(receiver,denominatedAmount)]
      shieldedSectionHash := none },tokenId)

/-- The legs of an attached transfer that do not belong to the IBC address. -/
def withoutIbc (side : List (Account × DenominatedAmount)) : AccountsMap :=
  side.filterMap fun (account,amount) =>
    if account.owner ≠ IBC then some (.chainAccount account,amount) else none

/-- The transfer of an IBC transfer message. -/
def sentTransfer (nativeToken : Address) (message : IbcMsgTransfer) (transfer : Option Transfer) :
    Fallible (TransferData × Token) := do
  let packetData := message.packetData
  let maybeIbcTrace := getNamadaIbcTraceWhenSending packetData.denom
  let (token,tokenId,denominatedAmount) ← getTokenAndAmount sdk maybeIbcTrace packetData.amount
    nativeToken packetData.denom
  let sources := (transfer.map fun t => withoutIbc t.sources).getD []
  let targets := (transfer.map fun t => withoutIbc t.targets).getD []
  let shieldedSectionHash := transfer.bind fun t => t.shieldedSectionHash
  let sender ← orPanic (.expectOk "Should be able to convert sender"
    (convertAccount sdk packetData token true))
  return (
    { sources := sources.insert sdk sender denominatedAmount
      targets := targets.insert sdk (.externalAccount packetData.receiver token)
        denominatedAmount
      shieldedSectionHash },tokenId)

/-- `transfer_to_ibc_tx_kind` -/
def transferToIbcTxKind (ibcData : IbcMessage) (nativeToken : Address) :
    Fallible TransactionKind := do
  match ibcData with
  | .envelope (.packet (.recv packet rest)) =>
    if packet.portIdOnB = FT_PORT_ID_STR then
      let (transferData,tokenId) ← receivedTransfer sdk nativeToken packet
      let isShielding := (sdk.extractMaspTxFromEnvelope (.packet (.recv packet rest))).isSome
      return if isShielding then .ibcShieldingTransfer tokenId transferData
        else .ibcRecvTrasparentTransfer tokenId transferData
    else if packet.portIdOnB = NFT_PORT_ID_STR then
      orPanic (.panics "not yet implemented: IBC NFTs are not yet supported for indexing purposes")
    else return .ibcMsg (some ibcData)
  | .envelope _ => return .ibcMsg (some ibcData)
  | .transfer message transfer =>
    let (transferData,tokenId) ← sentTransfer sdk nativeToken message transfer
    return if transfer.isSome then .ibcUnshieldingTransfer tokenId transferData
      else .ibcSendTrasparentTransfer tokenId transferData
  | .nftTransfer _ _ =>
    orPanic (.panics "not yet implemented: IBC NFTs are not yet supported for indexing purposes")

/-- The account that gets its tokens back when a packet fails. -/
def refundOf (nativeToken : Id) (packet : Packet) : Fallible BalanceChange := do
  let packetData ← context "Could not deserialize IBC fungible token packet"
    (sdk.ftPacketData packet.data)
  let maybeIbcTrace := getNamadaIbcTraceWhenSending packetData.denom
  let nativeToken ← orPanic (nativeToken.toAddress sdk)
  let (_,token) ← getIbcToken sdk maybeIbcTrace nativeToken packetData.denom
  return ⟨.account packetData.sender,token⟩

/-- `packet_msg_to_balance_info` -/
def packetMsgToBalanceInfo (nativeToken : Id) (packetMsg : PacketMsg) :
    Fallible (Option BalanceChange) := do
  match packetMsg with
  | .ack packet acknowledgement _ =>
    let ack ← context "Could not deserialize IBC acknowledgement"
      (sdk.acknowledgementStatus acknowledgement)
    match ack with
    | .success => return none
    | .error => some <$> refundOf sdk nativeToken packet
  | .timeout packet _ => some <$> refundOf sdk nativeToken packet
  | .timeoutOnClose packet _ => some <$> refundOf sdk nativeToken packet
  | .recv _ _ => return none

/-- `ibc_ack_to_balance_info` -/
def ibcAckToBalanceInfo (ibcData : IbcMessage) (nativeToken : Id) :
    Fallible (Option BalanceChange) := do
  match ibcData with
  | .envelope (.packet packetMsg) => packetMsgToBalanceInfo sdk nativeToken packetMsg
  | _ => return none

end
end NamadaIndexer.Shared
