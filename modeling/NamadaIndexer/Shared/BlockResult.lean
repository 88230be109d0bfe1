import NamadaIndexer.Foundation.Numerals
import NamadaIndexer.Shared.Transaction

/-! The events of a block: how they are read from the node's attributes, and what the
crawlers look up in them. -/
namespace NamadaIndexer.Shared
open NamadaIndexer.Foundation

inductive IbcCorePacketKind
  | send
  | recv
  | ack
  | timeout
  deriving DecidableEq, Repr

inductive EventKind
  | applied
  | ibcCore (kind : IbcCorePacketKind)
  | fungibleTokenPacket
  | maspFeePayment
  | maspTransfer
  | unknown
  deriving DecidableEq, Repr

/-- `From<&String> for EventKind` -/
def EventKind.ofString (value : String) : EventKind :=
  match value with
  | "tx/applied" => .applied
  | "send_packet" => .ibcCore .send
  | "recv_packet" => .ibcCore .recv
  | "fungible_token_packet" => .fungibleTokenPacket
  | "masp/fee-payment" => .maspFeePayment
  | "masp/transfer" => .maspTransfer
  | _ => .unknown

inductive TxEventStatusCode
  | ok
  | fail
  deriving DecidableEq, Repr

def TxEventStatusCode.ofString (value : String) : TxEventStatusCode :=
  if value = "0" then .ok else .fail

def TransactionExitStatus.ofCode : TxEventStatusCode → TransactionExitStatus
  | .ok => .applied
  | .fail => .rejected

/-- The results of a batch, in the order of their insertion into the map. -/
structure BatchResults where
  batchResults : List (Id × Bool)
  deriving DecidableEq, Repr

namespace BatchResults

def ofTxResult (sdk : Sdk) (value : List (Hash × Except String Bool)) : BatchResults :=
  ⟨value.map fun (txHash,result) =>
    (Id.ofHash sdk txHash,match result with
      | .ok isAccepted => isAccepted
      | .error _ => false)⟩

def isSuccessful (results : BatchResults) (txId : Id) : Bool :=
  ((results.batchResults.reverse.find? fun entry => entry.1 == txId).map Prod.snd).getD false

end BatchResults

structure TxApplied where
  code : TxEventStatusCode
  gas : UInt64
  hash : Id
  height : UInt64
  batch : BatchResults
  info : String
  deriving DecidableEq, Repr

structure MaspTxData where
  indexedTx : IndexedTx
  data : MaspRef
  deriving DecidableEq, Repr

structure IbcPacket where
  sourcePort : String
  destPort : String
  sourceChannel : String
  destChannel : String
  timeoutTimestamp : UInt64
  timeoutHeight : String
  sequence : String
  data : String
  deriving DecidableEq, Repr

structure FungibleTokenPacket where
  sender : String
  receiver : String
  denom : String
  memo : String
  amount : ℚ
  deriving DecidableEq, Repr

namespace IbcPacket

def asFungibleTokenPacket (sdk : Sdk) (packet : IbcPacket) : Option FungibleTokenPacket := do
  let packetData ← sdk.ics20PacketData packet.data
  let ibcAmount ← sdk.amountTryFrom packetData.amount
  return {
    memo := packetData.memo
    sender := packetData.sender
    receiver := packetData.receiver
    denom := packetData.denom.toString
    amount := (ibcAmount.val : ℚ) }

def id (packet : IbcPacket) : String :=
  packet.destPort ++ "/" ++ packet.destChannel ++ "/" ++ packet.sourcePort ++ "/" ++
    packet.sourceChannel ++ "/" ++ packet.sequence

end IbcPacket

inductive TxAttributesType
  | txApplied (data : TxApplied)
  | sendPacket (packet : IbcPacket)
  | recvPacket (packet : IbcPacket)
  | fungibleTokenPacket (isAck success : Bool) (packet : FungibleTokenPacket)
  | maspFeePayment (data : MaspTxData)
  | maspTransfer (data : MaspTxData)
  deriving DecidableEq, Repr

namespace TxAttributesType

def unwrapped {α : Type} (x : Option α) : Panicking α :=
  .expect "called `Option::unwrap()` on a `None` value" x

def startsWithResult (ack : String) : Bool := "result:".toList.isPrefixOf ack.toList

/-- The flags of a `fungible_token_packet` event: whether it acknowledges a packet, and
whether it reports a success. -/
def ackStatus (attributes : Attributes) : Bool × Bool :=
  match attributes.get "success" with
  | some success => (false,success == "\u0001" || success == "true")
  | none => (true,((attributes.get "acknowledgement").map startsWithResult).getD false)

def fungibleTokenPacketOf (sdk : Sdk) (attributes : Attributes) : Option TxAttributesType := do
  let (isAck,success) := ackStatus attributes
  let sender ← attributes.get "sender"
  let receiver ← attributes.get "receiver"
  let denom ← attributes.get "denom"
  let memo ← attributes.get "memo"
  let amount ← sdk.bigDecimalFromStr (← attributes.get "amount")
  return .fungibleTokenPacket isAck success { sender, receiver, denom, memo, amount }

def ibcPacketOf (attributes : Attributes) : Panicking IbcPacket := do
  let sourcePort ← unwrapped (attributes.get "packet_src_port")
  let destPort ← unwrapped (attributes.get "packet_dst_port")
  let sourceChannel ← unwrapped (attributes.get "packet_src_channel")
  let destChannel ← unwrapped (attributes.get "packet_dst_channel")
  let sequence ← unwrapped (attributes.get "packet_sequence")
  let timeoutTimestamp :=
    (parseU64 ((attributes.get "packet_timeout_timestamp").getD "0")).getD 0
  let timeoutHeight ← unwrapped (attributes.get "packet_timeout_height")
  let data ← unwrapped (attributes.get "packet_data")
  return ⟨sourcePort,destPort,sourceChannel,destChannel,timeoutTimestamp,timeoutHeight,sequence,
    data⟩

def txAppliedOf (sdk : Sdk) (attributes : Attributes) : Panicking TxApplied := do
  let code ← unwrapped (attributes.get "code")
  let gas ← unwrapped ((attributes.get "gas_used").bind parseU64)
  let hash ← unwrapped (attributes.get "hash")
  let height ← unwrapped ((attributes.get "height").bind parseU64)
  let batch ← match attributes.get "batch" with
    | some batchResult => BatchResults.ofTxResult sdk <$> unwrapped (sdk.txResult batchResult)
    | none => .returns ⟨[]⟩
  let info ← unwrapped (attributes.get "info")
  return { code := .ofString code, gas, hash := .hash (sdk.toLowercase hash), height, batch, info }

def maspTxDataOf (sdk : Sdk) (attributes : Attributes) : Panicking MaspTxData := do
  let data ← unwrapped (sdk.readMaspTxRef attributes)
  let indexedTx ← unwrapped (sdk.readIndexedTx attributes)
  return { indexedTx, data }

/-- `TxAttributesType::deserialize` -/
def deserialize (sdk : Sdk) (eventKind : EventKind) (attributes : Attributes) :
    Panicking (Option TxAttributesType) :=
  match eventKind with
  | .unknown => .returns none
  | .fungibleTokenPacket => .returns (fungibleTokenPacketOf sdk attributes)
  | .ibcCore .ack | .ibcCore .timeout => .returns none
  | .ibcCore .send => (fun packet => some (.sendPacket packet)) <$> ibcPacketOf attributes
  | .ibcCore .recv => (fun packet => some (.recvPacket packet)) <$> ibcPacketOf attributes
  | .applied => (fun data => some (.txApplied data)) <$> txAppliedOf sdk attributes
  | .maspFeePayment => (fun data => some (.maspFeePayment data)) <$> maspTxDataOf sdk attributes
  | .maspTransfer => (fun data => some (.maspTransfer data)) <$> maspTxDataOf sdk attributes

/-- `TxAttributesType::as_fungible_token_packet`: the action, the packet it was read from
unless the event carries the transfer itself, and the transfer. -/
def asFungibleTokenPacket (sdk : Sdk) :
    TxAttributesType → Option (IbcTokenAction × Option IbcPacket × FungibleTokenPacket)
  | .sendPacket packet =>
    (packet.asFungibleTokenPacket sdk).map fun transfer => (.withdraw,some packet,transfer)
  | .recvPacket packet =>
    (packet.asFungibleTokenPacket sdk).map fun transfer => (.deposit,some packet,transfer)
  | .fungibleTokenPacket true true packet => some (.withdraw,none,packet)
  | .fungibleTokenPacket false true packet => some (.deposit,none,packet)
  | _ => none

end TxAttributesType

structure Event where
  kind : EventKind
  innerTxHash : Option Id
  attributes : Option TxAttributesType
  deriving DecidableEq, Repr

/-- An event as the node reports it. -/
structure RawEvent where
  kind : String
  attributes : Attributes
  deriving DecidableEq, Repr

/-- The reading of one event in `From<TendermintBlockResultResponse> for BlockResult`. -/
def Event.ofRaw (sdk : Sdk) (event : RawEvent) : Panicking Event := do
  let kind := EventKind.ofString event.kind
  let attributes ← TxAttributesType.deserialize sdk kind event.attributes
  let innerTxHash ← .expect "parsing the inner tx hash shouldn't fail"
    (sdk.readInnerTxHash event.attributes)
  return { kind, attributes, innerTxHash := innerTxHash.map fun h => .hash (sdk.toLowercase h.text) }

structure BlockResult where
  endEvents : List Event
  deriving DecidableEq, Repr

namespace BlockResult

/-- `From<TendermintBlockResultResponse> for BlockResult` -/
def ofResponse (sdk : Sdk) (events : List RawEvent) : Panicking BlockResult :=
  (fun endEvents => { endEvents }) <$> events.mapM (Event.ofRaw sdk)

/-- The first `tx/applied` event of a wrapper. -/
def txApplied (results : BlockResult) (txHash : Id) : Option TxApplied :=
  (results.endEvents.filterMap fun event =>
    match event.attributes with
    | some (.txApplied data) => some data
    | _ => none).find? fun data => data.hash == txHash

def isWrapperTxApplied (results : BlockResult) (txHash : Id) : TransactionExitStatus :=
  ((results.txApplied txHash).map fun data => TransactionExitStatus.ofCode data.code).getD .rejected

def gasUsed (results : BlockResult) (txHash : Id) : Option String :=
  (results.txApplied txHash).map fun data => toString data.gas.toNat

def isInnerTxAccepted (results : BlockResult) (wrapperHash innerHash : Id) :
    TransactionExitStatus :=
  ((results.txApplied wrapperHash).map fun data =>
    if data.batch.isSuccessful innerHash then .applied else .rejected).getD .rejected

/-- What one event answers to `masp_ref`. The outer option tells the search where to stop. -/
def maspRefOf (indexedTx : IndexedTx) (event : Event) : Option (Option (MaspRef × Bool)) :=
  match event.kind with
  | .maspFeePayment => event.attributes.map fun attributes =>
    match attributes with
    | .maspFeePayment data =>
      if data.indexedTx = indexedTx then some (data.data,true) else none
    | _ => none
  | .maspTransfer => event.attributes.map fun attributes =>
    match attributes with
    | .maspTransfer data => if data.indexedTx = indexedTx then some (data.data,false) else none
    | _ => none
  | _ => none

/-- `BlockResult::masp_ref` -/
def maspRef (results : BlockResult) (indexedTx : IndexedTx) : Option (MaspRef × Bool) :=
  (results.endEvents.findSome? (maspRefOf indexedTx)).join

end BlockResult
end NamadaIndexer.Shared
