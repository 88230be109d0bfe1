import NamadaIndexer.Governance.Proposals
import NamadaIndexer.Shared.Block

/-! The rest of what the chain crawler extracts from a block: tokens, proposals, validators,
bonds, rewards and keys. Each extractor reads the successful inner transactions only. -/
namespace NamadaIndexer.Shared
open NamadaIndexer.Foundation NamadaIndexer.Governance

structure BondAddresses where
  source : Id
  target : Id
  deriving DecidableEq, Repr

structure UnbondAddresses where
  source : Id
  validator : Id
  deriving DecidableEq, Repr

inductive ValidatorState
  | consensus
  | belowCapacity
  | belowThreshold
  | inactive
  | jailed
  | deactivating
  | reactivating
  | unjailing
  | unknown
  deriving DecidableEq, Repr

structure Validator where
  address : Id
  votingPower : String
  maxCommission : String
  commission : String
  name : Option String
  email : Option String
  description : Option String
  website : Option String
  discordHandler : Option String
  avatar : Option String
  state : ValidatorState
  deriving DecidableEq, Repr

structure ValidatorMetadataChange where
  address : Id
  commission : Option String
  name : Option String
  email : Option String
  description : Option String
  website : Option String
  discordHandler : Option String
  avatar : Option String
  deriving DecidableEq, Repr

structure ValidatorStateChange where
  address : Id
  state : ValidatorState
  deriving DecidableEq, Repr

/-- `From<ProposalType> for GovernanceProposalKind` -/
def proposalKindOfType : ProposalType → GovernanceProposalKind
  | .default => .default
  | .defaultWithWasm _ => .defaultWithWasm
  | .pgfSteward _ => .pgfSteward
  | .pgfPayment _ => .pgfFunding

/-- The formats in which the parts of a proposal are read and stored. -/
structure ProposalFormat where
  /-- `BTreeMap::<String,String>::try_from_slice`, in the order of the keys -/
  contentTryFromSlice : Bytes → Option (List (String × String))
  /-- `serde_json::to_string_pretty` of the content -/
  contentToStringPretty : List (String × String) → Option String
  /-- `serde_json::to_string` of the stewards -/
  stewardsToString : List (AddRemove Address) → String
  /-- `serde_json::to_string` of the payments -/
  paymentsToString : List PGFAction → String

/-- The formats on the texts of small inputs, where no content decodes. -/
def ProposalFormat.sample : ProposalFormat where
  contentTryFromSlice _ := none
  contentToStringPretty entries :=
    some ("\x7b" ++ ",".intercalate (entries.map fun (key,value) => key ++ ":" ++ value) ++ "\x7d")
  stewardsToString stewards := toString stewards.length
  paymentsToString payments := toString payments.length

namespace Block
variable (sdk : Sdk) (format : ProposalFormat) (block : Block)

/-- The IBC token that one inner transaction moves over a channel. -/
def ibcTokenOf (tx : InnerTransaction) : Option IbcToken :=
  match tx.kind with
  | .ibcSendTrasparentTransfer (.ibc token) _ | .ibcRecvTrasparentTransfer (.ibc token) _
  | .ibcShieldingTransfer (.ibc token) _ | .ibcUnshieldingTransfer (.ibc token) _ => some token
  | _ => none

def ibcTokens : Finset IbcToken := (block.successfulInnerTxs.filterMap ibcTokenOf).toFinset

/-- The stored data of a proposal. -/
def proposalDataOf (tx : InnerTransaction) : ProposalType → Option String
  | .defaultWithWasm hash => (tx.getSectionDataById (.ofHash sdk hash)).map sdk.hexEncode
  | .pgfSteward stewards => some (format.stewardsToString stewards)
  | .pgfPayment payments => some (format.paymentsToString payments)
  | .default => none

/-- The stored content of a proposal. -/
def proposalContentOf (tx : InnerTransaction) (content : Hash) : String :=
  let proposalContentBytes := (tx.getSectionDataById (.ofHash sdk content)).getD []
  let proposalContent := (format.contentTryFromSlice proposalContentBytes).getD []
  (format.contentToStringPretty proposalContent).getD ""

/-- The proposal of one inner transaction, under an id. -/
def proposalOf (tx : InnerTransaction) (id : UInt64) : Option GovernanceProposal :=
  match tx.kind with
  | .initProposal (some data) => some
    { id
      content := proposalContentOf sdk format tx data.content
      type := proposalKindOfType data.type
      data := proposalDataOf sdk format tx data.type
      author := .ofAddress sdk data.author
      votingStartEpoch := data.votingStartEpoch.toUInt32
      votingEndEpoch := data.votingEndEpoch.toUInt32
      activationEpoch := data.activationEpoch.toUInt32 }
  | _ => none

/-- The closure over the counter: every proposal takes the next id. -/
def proposalsFrom : UInt64 → List InnerTransaction → List GovernanceProposal
  | _,[] => []
  | nextProposalId,tx::txs =>
    match proposalOf sdk format tx nextProposalId with
    | some proposal => proposal :: proposalsFrom (nextProposalId+1) txs
    | none => proposalsFrom nextProposalId txs

def governanceProposal (nextProposalId : UInt64) : List GovernanceProposal :=
  proposalsFrom sdk format nextProposalId block.successfulInnerTxs

/-- The pair of a claim; the source defaults to the validator. -/
def posRewardOf (tx : InnerTransaction) : Option (Id × Id) :=
  match tx.kind with
  | .claimRewards (some data) =>
    some (.ofAddress sdk (data.source.getD data.validator),.ofAddress sdk data.validator)
  | _ => none

def posRewards : Finset (Id × Id) := (block.successfulInnerTxs.filterMap (posRewardOf sdk)).toFinset

def newValidatorOf (tx : InnerTransaction) : Option Validator :=
  match tx.kind with
  | .becomeValidator (some data) => some
    { address := .ofAddress sdk data.address
      votingPower := "0"
      maxCommission := data.maxCommissionRateChange
      commission := data.commissionRate
      name := data.name
      email := some data.email
      description := data.description
      website := data.website
      discordHandler := data.discordHandle
      avatar := data.avatar
      state := .inactive }
  | _ => none

def newValidators : Finset Validator :=
  (block.successfulInnerTxs.filterMap (newValidatorOf sdk)).toFinset

def validatorStateOf (tx : InnerTransaction) : Option ValidatorStateChange :=
  match tx.kind with
  | .deactivateValidator (some address) => some ⟨.ofAddress sdk address,.deactivating⟩
  | .reactivateValidator (some address) => some ⟨.ofAddress sdk address,.reactivating⟩
  | _ => none

def updateValidatorsState : Finset ValidatorStateChange :=
  (block.successfulInnerTxs.filterMap (validatorStateOf sdk)).toFinset

/-- The pairs whose bonds one inner transaction touches: one for a bond or an unbond, two for
a redelegation. -/
def bondAddressesOf (tx : InnerTransaction) : List BondAddresses :=
  match tx.kind with
  | .bond (some data) | .unbond (some data) =>
    [⟨.ofAddress sdk (data.source.getD data.validator),.ofAddress sdk data.validator⟩]
  | .redelegation (some data) =>
    [⟨.ofAddress sdk data.owner,.ofAddress sdk data.srcValidator⟩,
      ⟨.ofAddress sdk data.owner,.ofAddress sdk data.destValidator⟩]
  | _ => []

def bondAddresses : Finset BondAddresses :=
  (block.successfulInnerTxs.flatMap (bondAddressesOf sdk)).toFinset

def unbondAddressesOf (tx : InnerTransaction) : Option UnbondAddresses :=
  match tx.kind with
  | .unbond (some data) =>
    some ⟨.ofAddress sdk (data.source.getD data.validator),.ofAddress sdk data.validator⟩
  | _ => none

def unbondAddresses : Finset UnbondAddresses :=
  (block.successfulInnerTxs.filterMap (unbondAddressesOf sdk)).toFinset

def withdrawAddressesOf (tx : InnerTransaction) : Option UnbondAddresses :=
  match tx.kind with
  | .withdraw (some data) =>
    some ⟨.ofAddress sdk (data.source.getD data.validator),.ofAddress sdk data.validator⟩
  | _ => none

def withdrawAddresses : Finset UnbondAddresses :=
  (block.successfulInnerTxs.filterMap (withdrawAddressesOf sdk)).toFinset

def validatorMetadataOf (tx : InnerTransaction) : Panicking (Option ValidatorMetadataChange) :=
  match tx.kind with
  | .metadataChange (some data) => .returns (some
    { address := .ofAddress sdk data.validator
      commission := data.commissionRate
      name := data.name
      email := data.email
      description := data.description
      website := data.website
      discordHandler := data.discordHandle
      avatar := data.avatar })
  | .commissionChange data => do
    let commissionChange ← Panicking.expect "called `Option::unwrap()` on a `None` value" data
    return some
      { address := .ofAddress sdk commissionChange.validator
        commission := some commissionChange.newRate
        name := none
        email := none
        description := none
        website := none
        discordHandler := none
        avatar := none }
  | _ => .returns none

def validatorMetadata : Panicking (List ValidatorMetadataChange) :=
  List.reduceOption <$> block.successfulInnerTxs.mapM (validatorMetadataOf sdk)

/-- A revealed key under the text of the key itself. -/
def revealedPkOf (tx : InnerTransaction) : Option (PublicKey × Id) :=
  match tx.kind with
  | .revealPk (some publicKey) => some (publicKey,.account publicKey.text)
  | _ => none

def revealedPks : List (PublicKey × Id) := block.successfulInnerTxs.filterMap revealedPkOf

/-- Everything that the chain crawler derives from a block. -/
structure Extraction where
  ibcTokens : Finset IbcToken
  addresses : Finset BalanceChange
  proposals : List GovernanceProposal
  proposalsVotes : Finset GovernanceVote
  validators : Finset Validator
  validatorsStateChange : Finset ValidatorStateChange
  bondAddresses : Finset BondAddresses
  unbondAddresses : Finset UnbondAddresses
  withdrawAddresses : Finset UnbondAddresses
  revealedPks : List (PublicKey × Id)
  metadataChange : List ValidatorMetadataChange
  rewardClaimers : Finset (Id × Id)

/-- The derivation, for one order of the extracted tokens. -/
def extract (nativeToken : Id) (tokens : List IbcToken) (nextProposalId : UInt64) :
    Panicking Extraction := do
  let addresses ← block.addressesWithBalanceChange sdk nativeToken (tokens.map Token.ibc)
  let metadataChange ← block.validatorMetadata sdk
  return {
    ibcTokens := block.ibcTokens
    addresses
    proposals := block.governanceProposal sdk format nextProposalId
    proposalsVotes := block.governanceVotes sdk
    validators := block.newValidators sdk
    validatorsStateChange := block.updateValidatorsState sdk
    bondAddresses := block.bondAddresses sdk
    unbondAddresses := block.unbondAddresses sdk
    withdrawAddresses := block.withdrawAddresses sdk
    revealedPks := block.revealedPks
    metadataChange
    rewardClaimers := block.posRewards sdk }

end Block
end NamadaIndexer.Shared
