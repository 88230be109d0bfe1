import NamadaIndexer.Shared.Id

/-! Wrapper and inner transactions as the crawlers see them, and the IBC records that are
derived from them. -/
namespace NamadaIndexer.Shared

structure UnknownTransaction where
  id : Option String
  name : Option String
  data : Option Bytes
  deriving DecidableEq, Repr

inductive TransactionKind
  | transparentTransfer (data : Option TransferData)
  | shieldedTransfer (data : Option TransferData)
  | shieldingTransfer (data : Option TransferData)
  | unshieldingTransfer (data : Option TransferData)
  | mixedTransfer (data : Option TransferData)
  | ibcMsg (msg : Option IbcMessage)
  | ibcRecvTrasparentTransfer (token : Token) (data : TransferData)
  | ibcSendTrasparentTransfer (token : Token) (data : TransferData)
  | ibcShieldingTransfer (token : Token) (data : TransferData)
  | ibcUnshieldingTransfer (token : Token) (data : TransferData)
  | bond (data : Option Bond)
  | redelegation (data : Option Redelegation)
  | unbond (data : Option Unbond)
  | withdraw (data : Option Withdraw)
  | claimRewards (data : Option ClaimRewards)
  | proposalVote (data : Option VoteProposalData)
  | initProposal (data : Option InitProposalData)
  | initAccount (data : Option InitAccount)
  | metadataChange (data : Option MetaDataChange)
  | commissionChange (data : Option CommissionChange)
  | revealPk (data : Option PublicKey)
  | becomeValidator (data : Option BecomeValidator)
  | reactivateValidator (data : Option Address)
  | deactivateValidator (data : Option Address)
  | unjailValidator (data : Option Address)
  | changeConsensusKey (data : Option ConsensusKeyChange)
  | unknown (data : Option UnknownTransaction)
  deriving DecidableEq, Repr

inductive TransactionExitStatus
  | applied
  | rejected
  deriving DecidableEq, Repr

structure Fee where
  gas : String
  gasUsed : Option UInt64
  amountPerGasUnit : String
  gasPayer : Id
  gasToken : Id
  maspFeePayment : Option Id
  deriving DecidableEq, Repr

structure WrapperTransaction where
  txId : Id
  index : ℕ
  fee : Fee
  atomic : Bool
  blockHeight : BlockHeight
  exitCode : TransactionExitStatus
  totalSignatures : ℕ
  size : ℕ
  deriving DecidableEq, Repr

structure InnerTransaction where
  txId : Id
  index : ℕ
  wrapperId : Id
  kind : TransactionKind
  memo : Option String
  data : Option String
  /-- the insertions into the map of extra sections, in order -/
  extraSections : List (Id × Bytes)
  notes : ℕ
  exitCode : TransactionExitStatus
  deriving DecidableEq, Repr

namespace InnerTransaction

/-- A later insertion replaces an earlier one under the same id. -/
def getSectionDataById (tx : InnerTransaction) (sectionId : Id) : Option Bytes :=
  (tx.extraSections.reverse.find? fun entry => entry.1 == sectionId).map Prod.snd

/-- Check if the inner transaction was a MASP fee payment. -/
def wasMaspFeePayment (tx : InnerTransaction) (wrapperTx : WrapperTransaction) : Bool :=
  wrapperTx.fee.maspFeePayment == some tx.txId

/-- An inner transaction is successful only if both the inner tx itself and the containing
wrapper are marked as applied or, in case of a failing atomic batch, if the inner tx was
applied and did masp fee payment -/
def wasSuccessful (tx : InnerTransaction) (wrapperTx : WrapperTransaction) : Bool :=
  let innerTxSucceeded := tx.exitCode == .applied
  let wrapperTxSucceeded := wrapperTx.exitCode == .applied
  let maspFeePayment := tx.wasMaspFeePayment wrapperTx
  let atomicBatch := wrapperTx.atomic
  innerTxSucceeded && (wrapperTxSucceeded || maspFeePayment || !atomicBatch)

def isSentIbc (tx : InnerTransaction) : Bool :=
  match tx.kind with
  | .ibcSendTrasparentTransfer _ _ | .ibcUnshieldingTransfer _ _ => true
  | _ => false

end InnerTransaction

structure IbcSequence where
  sequenceNumber : String
  sourcePort : String
  destPort : String
  sourceChannel : String
  destChannel : String
  timeout : UInt64
  txId : Id
  deriving DecidableEq, Repr

def IbcSequence.id (s : IbcSequence) : String :=
  s.destPort ++ "/" ++ s.destChannel ++ "/" ++ s.sourcePort ++ "/" ++ s.sourceChannel ++ "/" ++
    s.sequenceNumber

inductive IbcAckStatus
  | success
  | fail
  | timeout
  | unknown
  deriving DecidableEq, Repr

structure IbcAck where
  sequenceNumber : String
  sourcePort : String
  destPort : String
  sourceChannel : String
  destChannel : String
  status : IbcAckStatus
  deriving DecidableEq, Repr

def IbcAck.id (a : IbcAck) : String :=
  a.destPort ++ "/" ++ a.destChannel ++ "/" ++ a.sourcePort ++ "/" ++ a.sourceChannel ++ "/" ++
    a.sequenceNumber

inductive TransactionHistoryKind
  | received
  | sent
  deriving DecidableEq, Repr

structure TransactionTarget where
  innerTx : Id
  address : String
  kind : TransactionHistoryKind
  deriving DecidableEq, Repr

def TransactionTarget.sent (innerTx : Id) (address : String) : TransactionTarget :=
  ⟨innerTx,address,.sent⟩

def TransactionTarget.received (innerTx : Id) (address : String) : TransactionTarget :=
  ⟨innerTx,address,.received⟩

inductive IbcTokenAction
  | deposit
  | withdraw
  deriving DecidableEq, Repr

/-- `ibc_denom_sent` -/
def ibcDenomSent (sdk : Sdk) (trace : String) : String :=
  if trace.toList.contains '/' then sdk.encode (sdk.ibcToken trace) else trace

/-- `ibc_denom_received` -/
def ibcDenomReceived (sdk : Sdk) (ibcDenom srcPortId srcChannelId destPortId destChannelId : String) :
    Option String :=
  (sdk.receivedIbcToken ibcDenom srcPortId srcChannelId destPortId destChannelId).map sdk.encode

structure IbcTokenFlow where
  epoch : Epoch
  address : String
  deposit : ℚ
  withdraw : ℚ
  deriving DecidableEq, Repr

/-- `IbcTokenFlow::new` -/
def IbcTokenFlow.new (action : IbcTokenAction) (address : String) (amount : ℚ) (epoch : Epoch) :
    IbcTokenFlow :=
  match action with
  | .deposit => ⟨epoch,address,amount,0⟩
  | .withdraw => ⟨epoch,address,0,amount⟩

end NamadaIndexer.Shared
