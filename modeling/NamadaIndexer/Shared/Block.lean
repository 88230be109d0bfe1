import Mathlib.Data.Finset.Basic
import NamadaIndexer.Shared.Deserialize

/-! What the crawlers extract from a decoded block. A set is returned without an order; the
statements that store it choose one. -/
namespace NamadaIndexer.Shared
open NamadaIndexer.Foundation

inductive MaspEntryDirection
  | in
  | out
  deriving DecidableEq, Repr

structure MaspEntry where
  tokenAddress : String
  timestamp : ℤ
  rawAmount : Amount
  direction : MaspEntryDirection
  innerTxId : Id
  deriving DecidableEq, Repr

inductive ProposalVoteKind
  | nay
  | yay
  | abstain
  | unknown
  deriving DecidableEq, Repr

/-- `From<ProposalVote> for ProposalVoteKind` -/
def ProposalVoteKind.ofVote : ProposalVote → ProposalVoteKind
  | .nay => .nay
  | .yay => .yay
  | .abstain => .abstain

structure GovernanceVote where
  proposalId : UInt64
  vote : ProposalVoteKind
  address : Id
  deriving DecidableEq, Repr

namespace Block
variable (sdk : Sdk) (block : Block)

def innerTxs : List InnerTransaction := block.transactions.flatMap Prod.snd

def wrapperTxs : List WrapperTransaction := block.transactions.map Prod.fst

/-- The successful inner transactions, in block order. -/
def successfulInnerTxs : List InnerTransaction :=
  block.transactions.flatMap fun (wrapperTx,innerTxs) =>
    innerTxs.filter fun innerTx => innerTx.wasSuccessful wrapperTx

theorem mem_successfulInnerTxs {tx : InnerTransaction} :
    tx ∈ block.successfulInnerTxs ↔ ∃ wrapperTx innerTxs,
      (wrapperTx,innerTxs) ∈ block.transactions ∧ tx ∈ innerTxs ∧
        tx.wasSuccessful wrapperTx = true := by
  simp [successfulInnerTxs,List.mem_flatMap]

/-- The two sides of a transfer in the transaction history. -/
def transferTargets (txId : Id) (data : TransferData) : List TransactionTarget :=
  data.sources.map (fun entry => .sent txId (entry.1.owner sdk)) ++
    data.targets.map (fun entry => .received txId (entry.1.owner sdk))

/-- The history targets of one inner transaction. -/
def targetsOf (tx : InnerTransaction) : List TransactionTarget :=
  let sent (address : Address) : List TransactionTarget := [.sent tx.txId (sdk.encode address)]
  match tx.kind with
  | .transparentTransfer (some data) | .mixedTransfer (some data) | .shieldedTransfer (some data)
  | .unshieldingTransfer (some data) | .shieldingTransfer (some data) =>
    transferTargets sdk tx.txId data
  | .ibcSendTrasparentTransfer _ data | .ibcRecvTrasparentTransfer _ data
  | .ibcShieldingTransfer _ data | .ibcUnshieldingTransfer _ data =>
    transferTargets sdk tx.txId data
  | .bond (some data) => sent (data.source.getD data.validator)
  | .redelegation (some data) => sent data.owner
  | .unbond (some data) => sent (data.source.getD data.validator)
  | .withdraw (some data) => sent (data.source.getD data.validator)
  | .claimRewards (some data) => sent (data.source.getD data.validator)
  | .proposalVote (some data) => sent data.voter
  | .initProposal (some data) => sent data.author
  | .metadataChange (some data) => sent data.validator
  | .commissionChange (some data) => sent data.validator
  | .revealPk (some publicKey) => sent (sdk.addressOf publicKey)
  | .becomeValidator (some data) => sent data.address
  | .reactivateValidator (some address) => sent address
  | .deactivateValidator (some address) => sent address
  | .unjailValidator (some address) => sent address
  | .changeConsensusKey (some data) => sent data.validator
  | _ => []

def sources : Finset TransactionTarget := (block.innerTxs.flatMap (targetsOf sdk)).toFinset

def maspEntry (tx : InnerTransaction) (direction : MaspEntryDirection)
    (entry : ChainAddress × DenominatedAmount) : MaspEntry where
  tokenAddress := entry.1.token sdk
  timestamp := block.header.timestamp
  rawAmount := entry.2.amount
  direction
  innerTxId := tx.txId

/-- The MASP entries of one inner transaction. -/
def maspEntriesOf (tx : InnerTransaction) : List MaspEntry :=
  match tx.kind with
  | .shieldingTransfer (some data) => data.targets.map (maspEntry sdk block tx .in)
  | .unshieldingTransfer (some data) => data.sources.map (maspEntry sdk block tx .out)
  | .mixedTransfer (some data) =>
    let isMasp (entry : ChainAddress × DenominatedAmount) : Bool :=
      entry.1.owner sdk == sdk.encode MASP_ADDRESS
    (data.sources.filter isMasp).map (maspEntry sdk block tx .out) ++
      (data.targets.filter isMasp).map (maspEntry sdk block tx .in)
  | .ibcShieldingTransfer _ data => data.targets.map (maspEntry sdk block tx .in)
  | .ibcUnshieldingTransfer _ data => data.sources.map (maspEntry sdk block tx .out)
  | _ => []

def maspEntries : List MaspEntry := block.successfulInnerTxs.flatMap (maspEntriesOf sdk block)

/-- The vote of one inner transaction. -/
def governanceVoteOf (tx : InnerTransaction) : Option GovernanceVote :=
  match tx.kind with
  | .proposalVote (some data) =>
    some { proposalId := data.id, vote := .ofVote data.vote, address := .ofAddress sdk data.voter }
  | _ => none

/-- The votes of the block in block order, before they are collected into a set. -/
def votesInOrder : List GovernanceVote := block.successfulInnerTxs.filterMap (governanceVoteOf sdk)

def governanceVotes : Finset GovernanceVote := (block.votesInOrder sdk).toFinset

section
variable (nativeToken : Id)

/-- The pair of every account of a transfer with the token of that account. -/
def accountChanges (data : TransferData) : List BalanceChange :=
  data.accounts.map fun account =>
    ⟨.account (account.owner sdk),.new (account.token sdk) none (nativeToken.toString sdk)⟩

/-- The pair of every account of a transfer with one token for all of them. -/
def tokenChanges (token : Token) (data : TransferData) : List BalanceChange :=
  data.accounts.map fun account => ⟨.account (account.owner sdk),token⟩

/-- A balance change together with the one of the MASP for the same token. -/
def withMasp (change : BalanceChange) : List BalanceChange :=
  [change,⟨.account (sdk.encode MASP_ADDRESS),
    .new (change.token.address.toString sdk) none (nativeToken.toString sdk)⟩]

/-- `Block::process_inner_tx_for_balance`; no answer counts as no change. -/
def processInnerTxForBalance (ibcTokens : List Token) (tx : InnerTransaction) :
    Panicking (List BalanceChange) :=
  let native (address : Address) : List BalanceChange :=
    [⟨.ofAddress sdk address,.native nativeToken⟩]
  match tx.kind with
  | .ibcMsg (some msg) =>
    (fun balance => match balance with
      | .ok (some balance) => [balance]
      | _ => []) <$> (ibcAckToBalanceInfo sdk msg nativeToken).run
  | .shieldedTransfer _ =>
    .returns (ibcTokens.map fun token => ⟨.account (sdk.encode MASP_ADDRESS),token⟩)
  | .shieldingTransfer (some data) | .unshieldingTransfer (some data)
  | .mixedTransfer (some data) =>
    .returns ((accountChanges sdk nativeToken data).flatMap (withMasp sdk nativeToken))
  | .transparentTransfer (some data) => .returns (accountChanges sdk nativeToken data)
  | .ibcSendTrasparentTransfer token data | .ibcRecvTrasparentTransfer token data =>
    .returns (tokenChanges sdk token data)
  | .ibcShieldingTransfer token data | .ibcUnshieldingTransfer token data =>
    .returns ((tokenChanges sdk token data).flatMap (withMasp sdk nativeToken))
  | .bond (some data) => .returns (native (data.source.getD data.validator))
  | .withdraw (some data) => .returns (native (data.source.getD data.validator))
  | .claimRewards (some data) => .returns (native (data.source.getD data.validator))
  | .initProposal (some data) => .returns (native data.author)
  | _ => .returns []

/-- The changes that pay for a wrapper: the gas payer, and the block proposer unless gas is
paid in the native token. -/
def gasChanges (wrapperTx : WrapperTransaction) : List BalanceChange :=
  ⟨wrapperTx.fee.gasPayer,.native wrapperTx.fee.gasToken⟩ ::
    if wrapperTx.fee.gasToken ≠ nativeToken then
      match block.header.proposerAddressNamada with
      | some proposer =>
        [⟨.account proposer,.ibc { address := wrapperTx.fee.gasToken, trace := none }⟩]
      | none => []
    else []

/-- The balance changes of a wrapper and its inner transactions. -/
def changesOf (ibcTokens : List Token) (entry : WrapperTransaction × List InnerTransaction) :
    Panicking (List BalanceChange) := do
  let (wrapperTx,innerTxs) := entry
  let changes ← (innerTxs.filter fun tx => tx.wasSuccessful wrapperTx).mapM
    (processInnerTxForBalance sdk nativeToken ibcTokens)
  return changes.flatten ++ gasChanges block nativeToken wrapperTx

/-- `Block::addresses_with_balance_change` -/
def addressesWithBalanceChange (ibcTokens : List Token) : Panicking (Finset BalanceChange) := do
  let changes ← block.transactions.mapM (changesOf sdk block nativeToken ibcTokens)
  return changes.flatten.toFinset

end
end Block
end NamadaIndexer.Shared
