import Mathlib.Algebra.Ring.Nat
import Mathlib.Data.List.Basic
import Mathlib.Data.Rat.Defs

/-! What the indexer takes from the Namada SDK, the IBC modules and the standard library:
the data it reads from them, and the functions it calls as a record. Decoders are total
and answer with an `Option`. -/
namespace NamadaIndexer.Shared

abbrev Bytes := List UInt8
abbrev Epoch := UInt32
abbrev BlockHeight := UInt32

instance neZeroAmount : NeZero (2^256 : ℕ) := ⟨Nat.ne_of_gt (Nat.two_pow_pos 256)⟩

/-- A raw token amount, 256 bits wide. -/
abbrev Amount := Fin (2^256)

/-- A hash, as it is displayed. -/
structure Hash where
  text : String
  deriving DecidableEq, Repr

/-- A public key, as it is displayed. -/
structure PublicKey where
  text : String
  deriving DecidableEq, Repr

inductive InternalAddress
  | masp
  | ibc
  | ibcToken (hash : String)
  | other (name : String)
  deriving DecidableEq, Repr

inductive Address
  | established (hash : String)
  | implicit (hash : String)
  | internal (address : InternalAddress)
  deriving DecidableEq, Repr

def MASP_ADDRESS : Address := .internal .masp
def IBC : Address := .internal .ibc

structure DenominatedAmount where
  amount : Amount
  denom : UInt8
  deriving DecidableEq, Repr

/-- `DenominatedAmount::native`: the native token has six decimals. -/
def DenominatedAmount.native (amount : Amount) : DenominatedAmount := ⟨amount,6⟩

structure Account where
  owner : Address
  token : Address
  deriving DecidableEq, Repr

/-- `Transfer`, its ordered maps given by their entries in order. -/
structure Transfer where
  sources : List (Account × DenominatedAmount)
  targets : List (Account × DenominatedAmount)
  shieldedSectionHash : Option Hash
  deriving DecidableEq, Repr

structure Bond where
  validator : Address
  amount : Amount
  source : Option Address
  deriving DecidableEq, Repr

abbrev Unbond := Bond

structure Withdraw where
  validator : Address
  source : Option Address
  deriving DecidableEq, Repr

abbrev ClaimRewards := Withdraw

structure Redelegation where
  srcValidator : Address
  destValidator : Address
  owner : Address
  amount : Amount
  deriving DecidableEq, Repr

inductive ProposalVote
  | yay
  | nay
  | abstain
  deriving DecidableEq, Repr

structure VoteProposalData where
  id : UInt64
  vote : ProposalVote
  voter : Address
  deriving DecidableEq, Repr

inductive AddRemove (α : Type)
  | add (a : α)
  | remove (a : α)
  deriving DecidableEq, Repr

inductive PGFTarget
  | internal (target : Address) (amount : Amount)
  | ibc (target : String) (amount : Amount) (portId channelId : String)
  deriving DecidableEq, Repr

inductive PGFAction
  | continuous (target : AddRemove PGFTarget)
  | retro (target : PGFTarget)
  deriving DecidableEq, Repr

inductive ProposalType
  | default
  | defaultWithWasm (code : Hash)
  | pgfSteward (stewards : List (AddRemove Address))
  | pgfPayment (payments : List PGFAction)
  deriving DecidableEq, Repr

structure InitProposalData where
  content : Hash
  author : Address
  type : ProposalType
  votingStartEpoch : UInt64
  votingEndEpoch : UInt64
  activationEpoch : UInt64
  deriving DecidableEq, Repr

structure InitAccount where
  publicKeys : List PublicKey
  vpCodeHash : Hash
  threshold : UInt8
  deriving DecidableEq, Repr

structure MetaDataChange where
  validator : Address
  email : Option String
  description : Option String
  website : Option String
  discordHandle : Option String
  avatar : Option String
  name : Option String
  commissionRate : Option String
  deriving DecidableEq, Repr

structure CommissionChange where
  validator : Address
  newRate : String
  deriving DecidableEq, Repr

structure BecomeValidator where
  address : Address
  consensusKey : PublicKey
  ethColdKey : PublicKey
  ethHotKey : PublicKey
  protocolKey : PublicKey
  commissionRate : String
  maxCommissionRateChange : String
  email : String
  description : Option String
  website : Option String
  discordHandle : Option String
  avatar : Option String
  name : Option String
  deriving DecidableEq, Repr

structure ConsensusKeyChange where
  validator : Address
  consensusKey : PublicKey
  deriving DecidableEq, Repr

/-- One hop of an IBC denomination. -/
structure TracePrefix where
  portId : String
  channelId : String
  deriving DecidableEq, Repr

/-- An ICS-20 denomination; the most recent hop comes first. -/
structure PrefixedDenom where
  tracePath : List TracePrefix
  baseDenom : String
  deriving DecidableEq, Repr

def PrefixedDenom.toString (denom : PrefixedDenom) : String :=
  denom.tracePath.foldr (fun hop rest => hop.portId ++ "/" ++ hop.channelId ++ "/" ++ rest)
    denom.baseDenom

/-- `TracePath::starts_with`. -/
def PrefixedDenom.startsWith (denom : PrefixedDenom) (hop : TracePrefix) : Bool :=
  denom.tracePath.head? == some hop

/-- `TracePath::remove_prefix`. -/
def PrefixedDenom.removePrefix (denom : PrefixedDenom) (hop : TracePrefix) : PrefixedDenom :=
  if denom.startsWith hop then { denom with tracePath := denom.tracePath.tail } else denom

/-- The amount of an ICS-20 packet, 256 bits wide. -/
abbrev IbcAmount := Fin (2^256)

structure FtPacketData where
  denom : PrefixedDenom
  amount : IbcAmount
  sender : String
  receiver : String
  memo : String
  deriving DecidableEq, Repr

structure Packet where
  seqOnA : UInt64
  portIdOnA : String
  chanIdOnA : String
  portIdOnB : String
  chanIdOnB : String
  data : Bytes
  timeoutHeightOnB : String
  timeoutTimestampOnB : String
  deriving DecidableEq, Repr

/-- The packet messages. What the indexer does not read of a message (proofs, heights,
the signer) is kept as bytes. -/
inductive PacketMsg
  | recv (packet : Packet) (rest : Bytes)
  | ack (packet : Packet) (acknowledgement : Bytes) (rest : Bytes)
  | timeout (packet : Packet) (rest : Bytes)
  | timeoutOnClose (packet : Packet) (rest : Bytes)
  deriving DecidableEq, Repr

/-- An IBC envelope. Client, connection and channel messages are kept as bytes. -/
inductive MsgEnvelope
  | packet (msg : PacketMsg)
  | other (bytes : Bytes)
  deriving DecidableEq, Repr

structure IbcMsgTransfer where
  portIdOnA : String
  chanIdOnA : String
  packetData : FtPacketData
  timeoutHeightOnB : String
  timeoutTimestampOnB : String
  deriving DecidableEq, Repr

inductive IbcMessage
  | envelope (msg : MsgEnvelope)
  | transfer (message : IbcMsgTransfer) (transfer : Option Transfer)
  | nftTransfer (message : Bytes) (transfer : Option Transfer)
  deriving DecidableEq, Repr

inductive AcknowledgementStatus
  | success
  | error
  deriving DecidableEq, Repr

structure WrapperTx where
  amountPerGasUnit : DenominatedAmount
  token : Address
  feePayer : Address
  gasLimit : UInt64
  deriving DecidableEq, Repr

inductive TxType
  | raw
  | wrapper (wrapper : WrapperTx)
  | protocol
  deriving DecidableEq, Repr

structure TxCommitments where
  codeHash : Hash
  dataHash : Hash
  memoHash : Hash
  deriving DecidableEq, Repr

structure Header where
  txType : TxType
  batch : List TxCommitments
  atomic : Bool
  deriving DecidableEq, Repr

/-- `Commitment`: code given by its hash or in full. -/
inductive Commitment
  | hash (hash : Hash)
  | id (code : Bytes)
  deriving DecidableEq, Repr

structure SaplingBundle where
  shieldedSpends : ℕ
  shieldedOutputs : ℕ
  shieldedConverts : ℕ
  deriving DecidableEq, Repr

structure MaspTransaction where
  saplingBundle : Option SaplingBundle
  deriving DecidableEq, Repr

inductive Section
  | data (hash : Hash) (bytes : Bytes)
  | extraData (hash : Hash) (code : Commitment)
  | code (hash : Hash) (code : Commitment)
  | signature (hash : Hash)
  | maspTx (hash : Hash) (tx : MaspTransaction)
  | other (hash : Hash)
  deriving DecidableEq, Repr

structure Tx where
  header : Header
  sections : List Section
  deriving DecidableEq, Repr

/-- `MaspTxRef` -/
inductive MaspRef
  | maspSection (id : Hash)
  | ibcData (hash : Hash)
  deriving DecidableEq, Repr

structure IndexedTx where
  blockHeight : UInt64
  blockIndex : UInt32
  batchIndex : Option UInt32
  deriving DecidableEq, Repr

/-- The attributes of an event, in the order in which the node lists them. -/
abbrev Attributes := List (String × String)

/-- The map that the attributes are collected into: a later key replaces an earlier one. -/
def Attributes.get (attributes : Attributes) (key : String) : Option String :=
  (attributes.reverse.find? fun entry => entry.1 == key).map Prod.snd

/-- The functions of other packages that the indexer calls. -/
structure Sdk where
  /-- `str::to_lowercase` -/
  toLowercase : String → String
  /-- `Display for Address` and `Address::encode` -/
  encode : Address → String
  /-- `Address::decode` -/
  decode : String → Option Address
  /-- `Address::from(&PublicKey)` -/
  addressOf : PublicKey → Address
  /-- the derived order of the keys of an ordered map of accounts -/
  addressLt : Address → Address → Bool
  /-- `Tx::try_from` -/
  txTryFrom : Bytes → Except String Tx
  headerHash : Tx → Hash
  computeInnerTxHash : Hash → TxCommitments → Hash
  memo : Tx → TxCommitments → Option Bytes
  getSection : Tx → Hash → Option Section
  data : Tx → TxCommitments → Option Bytes
  /-- `code.hash().0`, the bytes of the hash of a code commitment -/
  codeHash : Commitment → Bytes
  getMaspSection : Tx → Hash → Option MaspTransaction
  getDataSection : Tx → Hash → Option Bytes
  transferTryFromSlice : Bytes → Option Transfer
  bondTryFromSlice : Bytes → Option Bond
  redelegationTryFromSlice : Bytes → Option Redelegation
  unbondTryFromSlice : Bytes → Option Unbond
  withdrawTryFromSlice : Bytes → Option Withdraw
  claimRewardsTryFromSlice : Bytes → Option ClaimRewards
  initProposalTryFromSlice : Bytes → Option InitProposalData
  initAccountTryFromSlice : Bytes → Option InitAccount
  voteProposalTryFromSlice : Bytes → Option VoteProposalData
  metaDataChangeTryFromSlice : Bytes → Option MetaDataChange
  commissionChangeTryFromSlice : Bytes → Option CommissionChange
  publicKeyTryFromSlice : Bytes → Option PublicKey
  addressTryFromSlice : Bytes → Option Address
  becomeValidatorTryFromSlice : Bytes → Option BecomeValidator
  consensusKeyChangeTryFromSlice : Bytes → Option ConsensusKeyChange
  /-- `namada_ibc::decode_message::<Transfer>` -/
  decodeMessage : Bytes → Option IbcMessage
  /-- `serde_json::from_slice::<FtPacketData>` -/
  ftPacketData : Bytes → Option FtPacketData
  /-- `serde_json::from_str::<Ics20PacketData>` -/
  ics20PacketData : String → Option FtPacketData
  /-- `serde_json::from_slice::<AcknowledgementStatus>` -/
  acknowledgementStatus : Bytes → Option AcknowledgementStatus
  /-- `serde_json::from_str::<PfmMemo>(..).is_ok()` -/
  isPfmMemo : String → Bool
  /-- `namada_ibc::extract_masp_tx_from_envelope` -/
  extractMaspTxFromEnvelope : MsgEnvelope → Option MaspTransaction
  /-- `namada_ibc::trace::convert_to_address` -/
  convertToAddress : String → Option Address
  /-- `namada_ibc::trace::ibc_token` -/
  ibcToken : String → Address
  /-- `namada_ibc::received_ibc_token`, once the identifiers are parsed -/
  receivedIbcToken : (denom srcPort srcChannel destPort destChannel : String) → Option Address
  /-- `Hash::sha256` of a text -/
  sha256 : String → Hash
  /-- `TryFrom<IbcAmount> for Amount` -/
  amountTryFrom : IbcAmount → Option Amount
  /-- `DenominatedAmount::to_string_precise` -/
  toStringPrecise : DenominatedAmount → String
  /-- `Amount::to_string_native` -/
  toStringNative : Amount → String
  /-- `subtle_encoding::hex::encode`, always ASCII -/
  hexEncode : Bytes → String
  /-- `BigDecimal::from_str`, by value -/
  bigDecimalFromStr : String → Option ℚ
  /-- `serde_json::from_str::<TxResult<String>>`: per inner transaction, an error or
  whether it was accepted -/
  txResult : String → Option (List (Hash × Except String Bool))
  /-- `MaspTxRef::read_from_event_attributes` -/
  readMaspTxRef : Attributes → Option MaspRef
  /-- `IndexedTx::read_from_event_attributes` -/
  readIndexedTx : Attributes → Option IndexedTx
  /-- `InnerTxHash::read_opt_from_event_attributes` -/
  readInnerTxHash : Attributes → Option (Option Hash)
  /-- `serde_json::from_str::<BTreeSet<PGFAction>>`, in the order of the set -/
  pgfFundings : String → Option (List PGFAction)

/-- Addresses print as a tag in front of their hash. -/
def sampleEncode : Address → String
  | .established hash => "tnam1q" ++ hash
  | .implicit hash => "tnam1z" ++ hash
  | .internal .masp => "tnam1pmasp"
  | .internal .ibc => "tnam1pibc"
  | .internal (.ibcToken hash) => "tnam1pt" ++ hash
  | .internal (.other name) => "tnam1po" ++ name

def sampleDecode (text : String) : Option Address :=
  match text.toList with
  | 't' :: 'n' :: 'a' :: 'm' :: '1' :: 'q' :: hash => some (.established (String.ofList hash))
  | 't' :: 'n' :: 'a' :: 'm' :: '1' :: 'z' :: hash => some (.implicit (String.ofList hash))
  | 't' :: 'n' :: 'a' :: 'm' :: '1' :: 'p' :: 't' :: hash => some (.internal (.ibcToken (String.ofList hash)))
  | 't' :: 'n' :: 'a' :: 'm' :: '1' :: 'p' :: 'o' :: name => some (.internal (.other (String.ofList name)))
  | ['t','n','a','m','1','p','m','a','s','p'] => some MASP_ADDRESS
  | ['t','n','a','m','1','p','i','b','c'] => some IBC
  | _ => none

/-- The functions on small inputs without upper-case letters, where no bytes decode. -/
def Sdk.sample : Sdk where
  toLowercase text := text
  encode := sampleEncode
  decode := sampleDecode
  addressOf key := .implicit key.text
  addressLt a b := decide (sampleEncode a < sampleEncode b)
  txTryFrom _ := .error "unexpected end of input"
  headerHash _ := ⟨"0"⟩
  computeInnerTxHash _ commitment := commitment.codeHash
  memo _ _ := none
  getSection _ _ := none
  data _ _ := none
  codeHash _ := []
  getMaspSection _ _ := none
  getDataSection _ _ := none
  transferTryFromSlice _ := none
  bondTryFromSlice _ := none
  redelegationTryFromSlice _ := none
  unbondTryFromSlice _ := none
  withdrawTryFromSlice _ := none
  claimRewardsTryFromSlice _ := none
  initProposalTryFromSlice _ := none
  initAccountTryFromSlice _ := none
  voteProposalTryFromSlice _ := none
  metaDataChangeTryFromSlice _ := none
  commissionChangeTryFromSlice _ := none
  publicKeyTryFromSlice _ := none
  addressTryFromSlice _ := none
  becomeValidatorTryFromSlice _ := none
  consensusKeyChangeTryFromSlice _ := none
  decodeMessage _ := none
  ftPacketData _ := none
  ics20PacketData _ := none
  acknowledgementStatus _ := none
  isPfmMemo _ := false
  extractMaspTxFromEnvelope _ := none
  convertToAddress trace := some (.internal (.ibcToken trace))
  ibcToken trace := .internal (.ibcToken trace)
  receivedIbcToken denom _ _ destPort destChannel :=
    some (.internal (.ibcToken (destPort ++ "/" ++ destChannel ++ "/" ++ denom)))
  sha256 text := ⟨text⟩
  amountTryFrom amount := some amount
  toStringPrecise amount := toString amount.amount.val
  toStringNative amount := toString amount.val
  hexEncode bytes := String.ofList (bytes.map fun b => Char.ofNat (97 + b.toNat % 26))
  bigDecimalFromStr text :=
    if text.toList.all Char.isDigit then some (Nat.ofDigitChars 10 text.toList 0 : ℚ) else none
  txResult _ := none
  readMaspTxRef _ := none
  readIndexedTx _ := none
  readInnerTxHash _ := some none
  pgfFundings _ := none

end NamadaIndexer.Shared
