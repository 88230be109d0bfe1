import NamadaIndexer.Foundation.KeyedTable
import NamadaIndexer.Shared.Block

/-! What the transactions crawler reads off the events and the transactions of a block. -/
namespace NamadaIndexer.Transactions
open NamadaIndexer.Foundation NamadaIndexer.Shared

section
variable (sdk : Sdk)

/-- The flow that the attributes of one event stand for. -/
def flowOf (attributes : TxAttributesType) : Option (IbcTokenAction × String × ℚ) := do
  let (action,originalPacket,transfer) ← attributes.asFungibleTokenPacket sdk
  let denom ← match action with
    | .withdraw => some (ibcDenomSent sdk transfer.denom)
    | .deposit => do
      let packet ← originalPacket
      ibcDenomReceived sdk transfer.denom packet.sourcePort packet.sourceChannel packet.destPort
        packet.destChannel
  return (action,denom,transfer.amount)

def getIbcTokenFlows (blockResults : BlockResult) : List (IbcTokenAction × String × ℚ) :=
  blockResults.endEvents.filterMap fun event => event.attributes.bind (flowOf sdk)

/-- `entry.0 += amount` and `entry.1 += amount`, of one entry with another -/
def addFlow : Table.Merge IbcTokenFlow.address where
  run old new := some { old with
    deposit := old.deposit + new.deposit
    withdraw := old.withdraw + new.withdraw }
  key_run := by
    rintro old new row ⟨⟩
    rfl

theorem addFlow_total : addFlow.Total := fun _ _ => ⟨_,rfl⟩

/-- The map of the flows of a block. Its iteration order is not determined. -/
def flowsMap (epoch : Epoch) (flows : List (IbcTokenAction × String × ℚ)) :
    Table IbcTokenFlow.address :=
  (flows.map fun (action,token,amount) => IbcTokenFlow.new action token amount epoch).foldl
    (Table.putTotal addFlow addFlow_total) .empty

/-- Whether a batch of the block contains the transaction and executed it. -/
def isSuccessfulTx (txs : List (WrapperTransaction × List InnerTransaction)) (id : Id) : Bool :=
  txs.any fun (wrapperTx,innerTxs) =>
    innerTxs.any fun innerTx => innerTx.wasSuccessful wrapperTx && innerTx.txId == id

/-- The successful transactions that sent a packet, for events that carry no transaction id. -/
def legacyTxIds (txs : List (WrapperTransaction × List InnerTransaction)) : List Id :=
  txs.flatMap fun (wrapperTx,innerTxs) =>
    (innerTxs.filter fun innerTx => innerTx.isSentIbc && innerTx.wasSuccessful wrapperTx).map
      InnerTransaction.txId

def sentByInternal (packet : IbcPacket) : Bool :=
  match (packet.asFungibleTokenPacket sdk).bind fun transfer => sdk.decode transfer.sender with
  | some (.internal _) => true
  | _ => false

def ibcSequenceOf (packet : IbcPacket) (txId : Id) : IbcSequence where
  sequenceNumber := packet.sequence
  sourcePort := packet.sourcePort
  destPort := packet.destPort
  sourceChannel := packet.sourceChannel
  destChannel := packet.destChannel
  timeout := packet.timeoutTimestamp
  txId

/-- The sequences of the events in order, with the legacy ids that are left. -/
def ibcPacketsFrom (txs : List (WrapperTransaction × List InnerTransaction)) :
    List Id → List Event → Panicking (List IbcSequence)
  | _,[] => .returns []
  | legacy,event::events =>
    match event.attributes with
    | some (.sendPacket packet) =>
      match event.innerTxHash with
      | some id =>
        if isSuccessfulTx txs id then
          (ibcSequenceOf packet id :: ·) <$> ibcPacketsFrom txs legacy events
        else ibcPacketsFrom txs legacy events
      | none =>
        if sentByInternal sdk packet then
          let id := Id.hash (sdk.toLowercase (sdk.sha256 packet.id).text)
          (ibcSequenceOf packet id :: ·) <$> ibcPacketsFrom txs legacy events
        else
          match legacy with
          | id::legacy => (ibcSequenceOf packet id :: ·) <$> ibcPacketsFrom txs legacy events
          | [] => .panics "Ibc sent packet should have a corresponding tx"
    | _ => ibcPacketsFrom txs legacy events

def getIbcPackets (blockResults : BlockResult)
    (txs : List (WrapperTransaction × List InnerTransaction)) : Panicking (List IbcSequence) :=
  ibcPacketsFrom sdk txs (legacyTxIds txs) blockResults.endEvents

def ibcAckOf (packet : Packet) (status : IbcAckStatus) : IbcAck where
  sequenceNumber := toString packet.seqOnA.toNat
  sourcePort := packet.portIdOnA
  destPort := packet.portIdOnB
  sourceChannel := packet.chanIdOnA
  destChannel := packet.chanIdOnB
  status

/-- The acknowledgement that one transaction carries. -/
def ackOf (tx : InnerTransaction) : Option IbcAck :=
  match tx.kind with
  | .ibcMsg (some (.envelope (.packet msg))) =>
    match msg with
    | .recv _ _ => none
    | .ack packet acknowledgement _ =>
      match sdk.acknowledgementStatus acknowledgement with
      | some .success => some (ibcAckOf packet .success)
      | some .error => some (ibcAckOf packet .fail)
      | none => some (ibcAckOf packet .unknown)
    | .timeout packet _ => some (ibcAckOf packet .timeout)
    | .timeoutOnClose packet _ => some (ibcAckOf packet .timeout)
  | _ => none

def getIbcAckPacket (innerTxs : List InnerTransaction) : List IbcAck := innerTxs.filterMap (ackOf sdk)

end

structure GasEstimation where
  wrapperId : Id
  transparentTransfer : ℕ
  shieldedTransfer : ℕ
  shieldingTransfer : ℕ
  ibcUnshieldingTransfer : ℕ
  ibcShieldingTransfer : ℕ
  unshieldingTransfer : ℕ
  ibcTransparentTransfer : ℕ
  mixedTransfer : ℕ
  bond : ℕ
  redelegation : ℕ
  unbond : ℕ
  withdraw : ℕ
  claimRewards : ℕ
  voteProposal : ℕ
  revealPk : ℕ
  size : ℕ
  signatures : ℕ
  deriving DecidableEq, Repr

namespace GasEstimation

def new (txId : Id) : GasEstimation := ⟨txId,0,0,0,0,0,0,0,0,0,0,0,0,0,0,0,0,0⟩

/-- The counter that one transaction of the batch increases. -/
def increase (estimate : GasEstimation) (tx : InnerTransaction) : GasEstimation :=
  match tx.kind with
  | .transparentTransfer _ =>
    { estimate with transparentTransfer := estimate.transparentTransfer + 1 }
  | .mixedTransfer _ => { estimate with mixedTransfer := estimate.mixedTransfer + tx.notes }
  | .ibcSendTrasparentTransfer _ _ | .ibcRecvTrasparentTransfer _ _ =>
    { estimate with ibcTransparentTransfer := estimate.ibcTransparentTransfer + 1 }
  | .bond _ => { estimate with bond := estimate.bond + 1 }
  | .redelegation _ => { estimate with redelegation := estimate.redelegation + 1 }
  | .unbond _ => { estimate with unbond := estimate.unbond + 1 }
  | .withdraw _ => { estimate with withdraw := estimate.withdraw + 1 }
  | .claimRewards _ => { estimate with claimRewards := estimate.claimRewards + 1 }
  | .proposalVote _ => { estimate with voteProposal := estimate.voteProposal + 1 }
  | .revealPk _ => { estimate with revealPk := estimate.revealPk + 1 }
  | .shieldedTransfer _ =>
    { estimate with shieldedTransfer := estimate.shieldedTransfer + tx.notes }
  | .shieldingTransfer _ =>
    { estimate with shieldingTransfer := estimate.shieldingTransfer + tx.notes }
  | .unshieldingTransfer _ =>
    { estimate with unshieldingTransfer := estimate.unshieldingTransfer + tx.notes }
  | .ibcShieldingTransfer _ _ =>
    { estimate with ibcShieldingTransfer := estimate.ibcShieldingTransfer + tx.notes }
  | .ibcUnshieldingTransfer _ _ =>
    { estimate with ibcUnshieldingTransfer := estimate.ibcUnshieldingTransfer + tx.notes }
  | .changeConsensusKey _ | .ibcMsg _ | .initAccount _ | .initProposal _ | .metadataChange _
  | .commissionChange _ | .becomeValidator _ | .reactivateValidator _ | .deactivateValidator _
  | .unjailValidator _ | .unknown _ => estimate

end GasEstimation

/-- One estimate for each batch whose transactions all were successful. -/
def getGasEstimates (txs : List (WrapperTransaction × List InnerTransaction)) :
    List GasEstimation :=
  (txs.filter fun (wrapperTx,innerTxs) =>
    innerTxs.all fun innerTx => innerTx.wasSuccessful wrapperTx).map fun (wrapperTx,innerTxs) =>
      innerTxs.foldl GasEstimation.increase
        { GasEstimation.new wrapperTx.txId with
          signatures := wrapperTx.totalSignatures
          size := wrapperTx.size }

end NamadaIndexer.Transactions
