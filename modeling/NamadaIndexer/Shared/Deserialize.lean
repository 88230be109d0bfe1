import NamadaIndexer.Shared.BlockResult
import NamadaIndexer.Shared.Utils

/-! From the raw bytes of a block to its wrapper and inner transactions. -/
namespace NamadaIndexer.Shared
open NamadaIndexer.Foundation

/-- Known transaction codes, as pairs of a name and a code hash. -/
structure Checksums where
  current : List (String × String)
  fallback : List (String × String)
  deriving DecidableEq, Repr

def Checksums.getNameById (checksums : Checksums) (hash : String) : Option String :=
  ((checksums.current.find? fun entry => entry.2 == hash).map Prod.fst).or
    ((checksums.fallback.find? fun entry => entry.2 == hash).map Prod.fst)

section
variable (sdk : Sdk)

/-- `TransactionKind::from` -/
def TransactionKind.ofData (id txKindName : String) (data : Bytes) (nativeToken : Address) :
    Panicking TransactionKind :=
  let unknown : TransactionKind := .unknown (some ⟨some id,some txKindName,some data⟩)
  match txKindName with
  | "tx_transfer" => .returns (match sdk.transferTryFromSlice data with
    | some transfer => transferToTxKind transfer
    | none => unknown)
  | "tx_bond" => .returns (.bond (sdk.bondTryFromSlice data))
  | "tx_redelegate" => .returns (.redelegation (sdk.redelegationTryFromSlice data))
  | "tx_unbond" => .returns (.unbond (sdk.unbondTryFromSlice data))
  | "tx_withdraw" => .returns (.withdraw (sdk.withdrawTryFromSlice data))
  | "tx_claim_rewards" => .returns (.claimRewards (sdk.claimRewardsTryFromSlice data))
  | "tx_init_proposal" => .returns (.initProposal (sdk.initProposalTryFromSlice data))
  | "tx_init_account" => .returns (.initAccount (sdk.initAccountTryFromSlice data))
  | "tx_vote_proposal" => .returns (.proposalVote (sdk.voteProposalTryFromSlice data))
  | "tx_change_validator_metadata" =>
    .returns (.metadataChange (sdk.metaDataChangeTryFromSlice data))
  | "tx_change_validator_commission" =>
    .returns (.commissionChange (sdk.commissionChangeTryFromSlice data))
  | "tx_reveal_pk" => .returns (.revealPk (sdk.publicKeyTryFromSlice data))
  | "tx_deactivate_validator" => .returns (.deactivateValidator (sdk.addressTryFromSlice data))
  | "tx_reactivate_validator" => .returns (.reactivateValidator (sdk.addressTryFromSlice data))
  | "tx_ibc" =>
    match sdk.decodeMessage data with
    | some ibcData => do
      match ← (transferToIbcTxKind sdk ibcData nativeToken).run with
      | .ok kind => return kind
      | .error _ => return unknown
    | none => .returns (.ibcMsg none)
  | "tx_unjail_validator" => .returns (.unjailValidator (sdk.addressTryFromSlice data))
  | "tx_become_validator" => .returns (.becomeValidator (sdk.becomeValidatorTryFromSlice data))
  | "tx_change_consensus_key" =>
    .returns (.changeConsensusKey (sdk.consensusKeyChangeTryFromSlice data))
  | _ => .returns unknown

/-- The MASP data that an IBC data section carries. -/
def maspTransactionOfIbcData (tx : Tx) (eventHash : Hash) : Option MaspTransaction := do
  match sdk.decodeMessage (← sdk.getDataSection tx eventHash) with
  | some (.envelope msgEnvelope) => sdk.extractMaspTxFromEnvelope msgEnvelope
  | _ => none

/-- `extract_masp_transaction`. Panics if the section is not found -/
def extractMaspTransaction (tx : Tx) : MaspRef → Panicking MaspTransaction
  | .maspSection maspId =>
    .expect "Missing expected masp section for reference" (sdk.getMaspSection tx maspId)
  | .ibcData eventHash =>
    .expect "Could not extract expected MASP data from IBC packet"
      (maspTransactionOfIbcData sdk tx eventHash)

def MaspTransaction.notes (tx : MaspTransaction) : ℕ :=
  (tx.saplingBundle.map fun bundle =>
    bundle.shieldedSpends + bundle.shieldedOutputs + bundle.shieldedConverts).getD 0

/-- `TxIndex::must_from_usize` -/
def txIndexMustFromUsize (index : ℕ) : Panicking UInt32 :=
  if index < 2^32 then .returns (UInt32.ofNat index) else .panics "tx index out of range"

def Section.codeSec : Section → Option Commitment
  | .code _ c => some c
  | _ => none

def Section.extraSection (sdk : Sdk) : Section → Option (Id × Bytes)
  | .extraData hash (.id bytes) => some (.ofHash sdk hash,bytes)
  | _ => none

def Section.isSignature : Section → Bool
  | .signature _ => true
  | _ => false

/-- What the bytes of a block are decoded with. `toJson` is `TransactionKind::to_json`. -/
structure Decoding where
  toJson : TransactionKind → Option String
  checksums : Checksums
  blockResults : BlockResult
  nativeToken : Address

variable (decoding : Decoding)

/-- The hex text of the hash of the code that a commitment points to. -/
def txCodeId (tx : Tx) (commitment : TxCommitments) : Option String :=
  ((sdk.getSection tx commitment.codeHash).bind Section.codeSec).map fun code =>
    sdk.hexEncode (sdk.codeHash code)

def txKind (tx : Tx) (commitment : TxCommitments) : Panicking TransactionKind :=
  let txData := (sdk.data tx commitment).getD []
  match txCodeId sdk tx commitment with
  | some id =>
    match decoding.checksums.getNameById id with
    | some txKindName => TransactionKind.ofData sdk id txKindName txData decoding.nativeToken
    | none => .returns (.unknown (some ⟨some id,none,some txData⟩))
  | none => .returns (.unknown (some ⟨none,none,some txData⟩))

/-- The number of notes of an inner transaction, and whether it paid the fee with the MASP. -/
def maspBundle (tx : Tx) (indexedTx : IndexedTx) : Panicking (ℕ × Bool) :=
  match decoding.blockResults.maspRef indexedTx with
  | some (maspRef,isMaspFeePayment) =>
    (fun bundle => (bundle.notes,isMaspFeePayment)) <$> extractMaspTransaction sdk tx maspRef
  | none => .returns (0,false)

/-- The gas a wrapper used, printed by the lookup and parsed again. -/
def gasUsed (wrapperTxId : Id) : Panicking (Option UInt64) :=
  match decoding.blockResults.gasUsed wrapperTxId with
  | some gas => some <$> Panicking.expect "called `Result::unwrap()` on an `Err` value"
      (parseU64 gas)
  | none => .returns none

/-- One pass of the loop over a batch: the inner transaction, and whether it paid the fee
with the MASP. -/
def innerTransaction (tx : Tx) (index : ℕ) (blockHeight : BlockHeight)
    (entry : TxCommitments × ℕ) : Panicking (InnerTransaction × Bool) := do
  let (commitment,batchIndex) := entry
  let wrapperTxId := Id.ofHash sdk (sdk.headerHash tx)
  let innerTxId := Id.ofHash sdk (sdk.computeInnerTxHash (sdk.headerHash tx) commitment)
  let kind ← txKind sdk decoding tx commitment
  let blockIndex ← txIndexMustFromUsize index
  let indexedTx : IndexedTx := ⟨blockHeight.toUInt64,blockIndex,some (UInt32.ofNat batchIndex)⟩
  let (notes,maspFeePaymentRef) ← maspBundle sdk decoding tx indexedTx
  return (
    { txId := innerTxId
      index := batchIndex
      wrapperId := wrapperTxId
      kind
      memo := (sdk.memo tx commitment).map sdk.hexEncode
      data := if (sdk.data tx commitment).getD [] = [] then none else decoding.toJson kind
      extraSections := tx.sections.filterMap (Section.extraSection sdk)
      notes
      exitCode := decoding.blockResults.isInnerTxAccepted wrapperTxId innerTxId },
    maspFeePaymentRef)

/-- The last inner transaction that paid the fee with the MASP. -/
def maspFeePayment (innerTxs : List (InnerTransaction × Bool)) : Option Id :=
  (innerTxs.reverse.find? Prod.snd).map fun entry => entry.1.txId

/-- `Transaction::deserialize` -/
def Transaction.deserialize (rawTxBytes : Bytes) (index : ℕ) (blockHeight : BlockHeight) :
    Fallible (WrapperTransaction × List InnerTransaction) := do
  let tx ← sdk.txTryFrom rawTxBytes
  match tx.header.txType with
  | .wrapper wrapper =>
    let wrapperTxId := Id.ofHash sdk (sdk.headerHash tx)
    let innerTxs ← orPanic
      (tx.header.batch.zipIdx.mapM (innerTransaction sdk decoding tx index blockHeight))
    let gasUsed ← orPanic (gasUsed decoding wrapperTxId)
    return (
      { txId := wrapperTxId
        index
        fee :=
          { gas := toString wrapper.gasLimit.toNat
            gasUsed
            amountPerGasUnit := sdk.toStringPrecise wrapper.amountPerGasUnit
            gasPayer := .ofAddress sdk wrapper.feePayer
            gasToken := .ofAddress sdk wrapper.token
            maspFeePayment := maspFeePayment innerTxs }
        atomic := tx.header.atomic
        blockHeight
        exitCode := decoding.blockResults.isWrapperTxApplied wrapperTxId
        totalSignatures := tx.sections.countP Section.isSignature
        size := rawTxBytes.length },
      innerTxs.map Prod.fst)
  | .raw => throw "Raw transaction are not supported."
  | .protocol => throw "Protocol transaction are not supported."

end

structure BlockHeader where
  height : BlockHeight
  proposerAddressTm : String
  proposerAddressNamada : Option String
  timestamp : ℤ
  appHash : Id
  deriving DecidableEq, Repr

structure Block where
  hash : Id
  header : BlockHeader
  transactions : List (WrapperTransaction × List InnerTransaction)
  epoch : Epoch
  deriving DecidableEq, Repr

/-- The block as the node returns it. -/
structure BlockResponse where
  hash : Hash
  height : UInt64
  proposerAddress : String
  time : ℤ
  appHash : Hash
  data : List Bytes
  deriving DecidableEq, Repr

/-- `Block::from`. A transaction that cannot be deserialized is left out. -/
def Block.ofResponse (sdk : Sdk) (decoding : Decoding) (response : BlockResponse)
    (proposerAddressNamada : Option Id) (epoch : Epoch) (blockHeight : BlockHeight) :
    Panicking Block := do
  let results ← response.data.zipIdx.mapM fun (rawTxBytes,index) =>
    (Transaction.deserialize sdk decoding rawTxBytes index blockHeight).run
  return {
    hash := .hash response.hash.text
    header :=
      { height := response.height.toUInt32
        proposerAddressTm := sdk.toLowercase response.proposerAddress
        proposerAddressNamada := proposerAddressNamada.map (Id.toString sdk)
        timestamp := response.time
        appHash := .hash response.appHash.text }
    transactions := results.filterMap Except.toOption
    epoch }

end NamadaIndexer.Shared
