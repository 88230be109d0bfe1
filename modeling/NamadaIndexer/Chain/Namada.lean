import NamadaIndexer.Foundation.Iteration
import NamadaIndexer.Foundation.KeyedTable
import NamadaIndexer.Shared.Checksums
import NamadaIndexer.Shared.Crawler
import NamadaIndexer.Shared.Extractors

/-! What the chain crawler asks the node for, and what it makes of the answers. Some helpers
pass a failed query on, others leave the failed entry out. -/
namespace NamadaIndexer.Shared
namespace Pos

/-- A bond as the crawlers store it. -/
structure Bond where
  source : Id
  target : Id
  amount : Amount
  start : Epoch
  deriving DecidableEq, Repr

structure Unbond where
  source : Id
  target : Id
  amount : Amount
  withdrawAt : Epoch
  deriving DecidableEq, Repr

structure Redelegation where
  delegator : Id
  validator : Id
  endEpoch : Epoch
  deriving DecidableEq, Repr

end Pos

structure Balance where
  owner : Id
  token : Token
  amount : Amount
  height : BlockHeight
  deriving DecidableEq, Repr

structure TokenSupply where
  address : String
  epoch : Int32
  total : Amount
  effective : Option Amount
  deriving DecidableEq, Repr

structure IbcRateLimit where
  address : String
  epoch : Epoch
  throughputLimit : Amount
  deriving DecidableEq, Repr

structure MaspRewardData where
  address : Id
  maxRewardRate : String
  kpGain : String
  kdGain : String
  lockedAmountTarget : Amount
  deriving DecidableEq, Repr

structure CometbftBlock where
  blockHeight : BlockHeight
  block : BlockResponse
  events : List RawEvent
  epoch : Epoch
  deriving DecidableEq, Repr

/-- `Amount::checked_add` -/
def Amount.checkedAdd (a b : Amount) : Option Amount :=
  if h : a.val + b.val < 2^256 then some ⟨a.val + b.val,h⟩ else none

end NamadaIndexer.Shared

namespace NamadaIndexer.Chain
open NamadaIndexer.Foundation NamadaIndexer.Shared NamadaIndexer.Governance
open NamadaIndexer.Shared.Crawler (MainError)

/-- What the crawler is built with: the functions of other packages, and the orders in which
its sets are visited. -/
structure Context where
  sdk : Sdk
  format : ProposalFormat
  /-- `TransactionKind::to_json` -/
  toJson : TransactionKind → Option String
  /-- `f32::from_str`, then `as i32` -/
  votingPower : String → Option Int32
  /-- `TallyType::from` on the proposal types of the SDK -/
  tallyType : GovernanceProposalKind → Bool → TallyType
  order : HashOrder

structure BondDetails where
  start : UInt64
  amount : Amount
  deriving DecidableEq, Repr

structure UnbondDetails where
  withdraw : UInt64
  amount : Amount
  deriving DecidableEq, Repr

/-- The details that the node keeps under one `BondId`. -/
structure BondsAndUnbonds where
  source : Address
  validator : Address
  bonds : List BondDetails
  unbonds : List UnbondDetails
  deriving DecidableEq, Repr

/-- What the node would answer. Queries made at different times need not agree. -/
structure Node where
  lastBlock : BlockHeight
  head : Head
  nativeToken : Address
  cometbftBlock : BlockHeight → CometbftBlock
  validatorByTmAddr : String → Option Address
  /-- the hash of every IBC token with a trace under it -/
  ibcTraces : List (String × String)
  rateLimit : Address → Amount
  maspRates : List MaspRewardData
  totalSupply : Address → Amount
  effectiveSupply : Amount
  consensusValidators : Epoch → List Address
  balance : Address → Address → BlockHeight → Amount
  proposalCounter : BlockHeight → Option UInt64
  isSteward : Address → Bool
  bondsAndUnbonds : Option Address → Option Address → List BondsAndUnbonds
  incomingRedelegations : Address → Address → Option UInt64
  /-- with the start epoch, the withdraw epoch and the amount after slashing -/
  unbondWithSlashing : Address → Address → List (UInt64 × UInt64 × Amount)
  storedBalances : Address → List (Address × Amount)
  pipelineLength : UInt64
  validatorSet : Epoch → List Validator
  allValidators : Epoch → List Address
  storedRedelegations : Address → List (Address × UInt64)
  proposals : List GovernanceProposal
  proposalVotes : UInt64 → List (ProposalVoteKind × Address)

/-- The queries that can fail, the two reads of the database among them. -/
inductive Query
  | lastBlock
  | firstBlockInEpoch
  | nativeToken
  | cometbftBlock (height : BlockHeight)
  | validatorByTmAddr (address : String)
  | ibcTraces
  | queryNativeToken
  | rateLimit (token : Address)
  | maspRates
  | totalSupply (token : Address)
  | effectiveSupply
  | consensusValidators (epoch : Epoch)
  | pgfRecipients
  | balance (token owner : Address) (height : BlockHeight)
  | proposalCounter (height : BlockHeight)
  | bondsAndUnbonds (source target : Option Address)
  | incomingRedelegations (target source : Address)
  | unbondWithSlashing (source validator : Address)
  | storedBalances (token : Address)
  | pipelineLength
  | validatorSet (epoch : Epoch)
  | allValidators (epoch : Epoch)
  | storedRedelegations (validator : Address)
  | proposals
  | proposalVotes (id : UInt64)
  deriving DecidableEq, Repr

/-- The node as the crawler reaches it: a query fails for good when its retries are used up. -/
structure Client where
  node : Node
  fails : Query → Bool

def Client.ask {α : Type} (client : Client) (query : Query) (answer : α) : Option α :=
  if client.fails query then none else some answer

/-- A computation of the crawler: it may panic, or end with an error. -/
abbrev Attempt := ExceptT MainError Panicking

/-- `into_rpc_error`, `into_db_error`, `into_task_join_error` -/
def orError {α : Type} (error : MainError) (x : Option α) : Attempt α :=
  match x with
  | some a => pure a
  | none => throw error

def mayPanic {α : Type} (x : Panicking α) : Attempt α := ExceptT.lift x

section
variable (ctx : Context) (client : Client)

/-- One entry of `query_balance`: an owner that is no address, or a query that failed, has no
balance. -/
def queryBalanceOf (blockHeight : BlockHeight) (change : BalanceChange) :
    Panicking (Option Balance) := do
  match ctx.sdk.decode (change.address.toString ctx.sdk) with
  | none => return none
  | some owner =>
    let tokenAddr ← change.token.address.toAddress ctx.sdk
    let amount := client.ask (.balance tokenAddr owner blockHeight)
      (client.node.balance tokenAddr owner blockHeight)
    return amount.map fun amount => ⟨change.address,change.token,amount,blockHeight⟩

/-- `query_balance` -/
def queryBalance (balanceChanges : List BalanceChange) (blockHeight : BlockHeight) :
    Panicking (List Balance) :=
  List.reduceOption <$>
    (ctx.order.visit balanceChanges).mapM (queryBalanceOf ctx client blockHeight)

/-- `query_ibc_tokens` -/
def queryIbcTokens : Option (List IbcToken) :=
  (client.ask .ibcTraces client.node.ibcTraces).map fun traces =>
    ctx.order.visit (traces.map fun (hash,trace) =>
      ⟨.ofAddress ctx.sdk (.internal (.ibcToken hash)),some (.ibcTrace trace)⟩)

/-- `query_tokens` -/
def queryTokens : Option (List Token) := do
  let ibcTokens ← queryIbcTokens ctx client
  let nativeToken ← client.ask .queryNativeToken client.node.nativeToken
  return ibcTokens.map Token.ibc ++ [.native (.ofAddress ctx.sdk nativeToken)]

/-- The maps of `query_all_bonds_and_unbonds`, up to the order of their entries. -/
structure BondEntry where
  source : Address
  validator : Address
  epoch : UInt64
  amount : Amount
  deriving DecidableEq, Repr

def BondEntry.key (entry : BondEntry) : Address × Address × UInt64 :=
  (entry.source,entry.validator,entry.epoch)

/-- `*record = record.checked_add(amount).unwrap()` -/
def addAmount : Table.Merge BondEntry.key where
  run old new := (Amount.checkedAdd old.amount new.amount).map fun amount => { old with amount }
  key_run := by
    intro old new row h
    obtain ⟨amount,-,rfl⟩ := Option.map_eq_some_iff.mp h
    rfl

/-- The loop that sums up the amounts under each key. -/
def groupEntries (entries : List BondEntry) : Panicking (Table BondEntry.key) :=
  .expect "called `Option::unwrap()` on a `None` value"
    (entries.foldlM (Table.put addAmount) .empty)

def bondEntries (answer : List BondsAndUnbonds) : List BondEntry :=
  answer.flatMap fun entry =>
    entry.bonds.map fun bond => ⟨entry.source,entry.validator,bond.start,bond.amount⟩

def unbondEntries (answer : List BondsAndUnbonds) : List BondEntry :=
  answer.flatMap fun entry =>
    entry.unbonds.map fun unbond => ⟨entry.source,entry.validator,unbond.withdraw,unbond.amount⟩

def bondOf (entry : BondEntry) : Pos.Bond where
  source := .ofAddress ctx.sdk entry.source
  target := .ofAddress ctx.sdk entry.validator
  amount := entry.amount
  start := entry.epoch.toUInt32

def unbondOf (entry : BondEntry) : Pos.Unbond where
  source := .ofAddress ctx.sdk entry.source
  target := .ofAddress ctx.sdk entry.validator
  amount := entry.amount
  withdrawAt := entry.epoch.toUInt32

/-- `query_all_bonds_and_unbonds` -/
def queryAllBondsAndUnbonds (source target : Option Id) :
    Panicking (Option (List Pos.Bond × List Pos.Unbond)) := do
  let source ← source.mapM (Id.toAddress ctx.sdk)
  let target ← target.mapM (Id.toAddress ctx.sdk)
  match client.ask (.bondsAndUnbonds source target) (client.node.bondsAndUnbonds source target) with
  | none => return none
  | some answer =>
    let bonds ← groupEntries (bondEntries answer)
    let unbonds ← groupEntries (unbondEntries answer)
    return some ((ctx.order.visit bonds.rows).map (bondOf ctx),
      (ctx.order.visit unbonds.rows).map (unbondOf ctx))

/-- One pair of `query_bonds`: its bonds, or a mark that it has none. A failed query leaves
the pair out. -/
def queryBondsOf (pair : BondAddresses) : Panicking (List (Id × Id × Option Pos.Bond)) := do
  match ← queryAllBondsAndUnbonds ctx client (some pair.source) (some pair.target) with
  | none => return []
  | some (bonds,_) =>
    return if bonds ≠ [] then bonds.map fun bond => (pair.source,pair.target,some bond)
      else [(pair.source,pair.target,none)]

/-- `query_bonds` -/
def queryBonds (addresses : List BondAddresses) : Panicking (List (Id × Id × Option Pos.Bond)) :=
  List.flatten <$> (ctx.order.visit addresses).mapM (queryBondsOf ctx client)

/-- One pair of `query_redelegations`. -/
def queryRedelegationOf (pair : BondAddresses) : Attempt (Option Pos.Redelegation) := do
  let target ← mayPanic (pair.target.toAddress ctx.sdk)
  let source ← mayPanic (pair.source.toAddress ctx.sdk)
  let endEpoch ← orError .rpcError (client.ask (.incomingRedelegations target source)
    (client.node.incomingRedelegations target source))
  return endEpoch.map fun endEpoch => ⟨pair.source,pair.target,endEpoch.toUInt32⟩

/-- `query_redelegations` -/
def queryRedelegations (addresses : List BondAddresses) : Attempt (List Pos.Redelegation) :=
  List.reduceOption <$> (ctx.order.visit addresses).mapM (queryRedelegationOf ctx client)

def unbondKey (unbond : Pos.Unbond) : Id × Id × Epoch :=
  (unbond.source,unbond.target,unbond.withdrawAt)

/-- `*r = r.checked_add(&amount).unwrap()` -/
def addUnbond : Table.Merge unbondKey where
  run old new := (Amount.checkedAdd old.amount new.amount).map fun amount => { old with amount }
  key_run := by
    intro old new row h
    obtain ⟨amount,-,rfl⟩ := Option.map_eq_some_iff.mp h
    rfl

/-- The unbonds of one answer, as they enter the map. -/
def slashedUnbonds (source validator : Address) (answer : List (UInt64 × UInt64 × Amount)) :
    List Pos.Unbond :=
  answer.map fun entry =>
    ⟨.ofAddress ctx.sdk source,.ofAddress ctx.sdk validator,entry.2.2,entry.2.1.toUInt32⟩

/-- One pair of `query_unbonds`. A failed query leaves the pair out. -/
def queryUnbondsOf (pair : UnbondAddresses) : Panicking (List Pos.Unbond) := do
  let source ← .expect "Failed to parse source address"
    (ctx.sdk.decode (pair.source.toString ctx.sdk))
  let validator ← .expect "Failed to parse validator address"
    (ctx.sdk.decode (pair.validator.toString ctx.sdk))
  match client.ask (.unbondWithSlashing source validator)
      (client.node.unbondWithSlashing source validator) with
  | none => return []
  | some answer =>
    let unbonds ← .expect "called `Option::unwrap()` on a `None` value"
      ((slashedUnbonds ctx source validator answer).foldlM (Table.put addUnbond) Table.empty)
    return ctx.order.visit unbonds.rows

/-- `query_unbonds` -/
def queryUnbonds (addresses : List UnbondAddresses) : Panicking (List Pos.Unbond) :=
  List.flatten <$> (ctx.order.visit addresses).mapM (queryUnbondsOf ctx client)

/-- `query_tallies` -/
def queryTallies (proposals : List GovernanceProposal) :
    Panicking (List (GovernanceProposal × TallyType)) :=
  proposals.mapM fun proposal => do
    let address ← proposal.author.toAddress ctx.sdk
    return (proposal,ctx.tallyType proposal.type (client.node.isSteward address))

/-- `query_next_governance_id` -/
def queryNextGovernanceId (blockHeight : BlockHeight) : Attempt UInt64 := do
  if blockHeight ≤ 1 then return 0
  else
    let counter ← orError .rpcError (client.ask (.proposalCounter (blockHeight-1))
      (client.node.proposalCounter (blockHeight-1)))
    mayPanic (.expect "Next governance id should be written to storage" counter)

/-- `get_token_supply` and `get_native_token_supply`: only a token that is tagged as native
gets an effective supply. -/
def queryTokenSupply (epoch : Epoch) (token : Token) : Option TokenSupply := do
  let text := token.address.toString ctx.sdk
  let address ← ctx.sdk.decode text
  let total ← client.ask (.totalSupply address) (client.node.totalSupply address)
  match token with
  | .ibc _ => return ⟨text,epoch.toInt32,total,none⟩
  | .native _ =>
    let effective ← client.ask .effectiveSupply client.node.effectiveSupply
    return ⟨text,epoch.toInt32,total,some effective⟩

/-- `query_token_supplies` -/
def queryTokenSupplies (tokens : List Token) (epoch : Epoch) : Option (List TokenSupply) :=
  (ctx.order.visit tokens).mapM (queryTokenSupply ctx client epoch)

/-- `get_throughput_rate_limit` -/
def getThroughputRateLimit (epoch : Epoch) (token : String) : Option IbcRateLimit := do
  let address ← ctx.sdk.decode token
  let limit ← client.ask (.rateLimit address) (client.node.rateLimit address)
  return ⟨token,epoch,limit⟩

/-- `get_rate_limits_for_tokens` -/
def getRateLimitsForTokens (tokens : List Token) (epoch : Epoch) : Option (List IbcRateLimit) :=
  (tokens.map fun token => token.address.toString ctx.sdk).mapM
    (getThroughputRateLimit ctx client epoch)

/-- `get_all_consensus_validators_addresses_at` -/
def getAllConsensusValidatorsAddressesAt (epoch : Epoch) (nativeToken : Id) :
    Option (List BalanceChange) :=
  (client.ask (.consensusValidators epoch) (client.node.consensusValidators epoch)).map
    fun validators => validators.map fun validator =>
      ⟨.ofAddress ctx.sdk validator,.native nativeToken⟩

/-- `query_native_addresses_balance_change` -/
def queryNativeAddressesBalanceChange (nativeToken : Token) : List BalanceChange :=
  [.internal (.other "Governance"),.internal (.other "PoS"),MASP_ADDRESS,
    .internal (.other "Pgf"),IBC].map fun address => ⟨.ofAddress ctx.sdk address,nativeToken⟩

/-- `query_all_balances` -/
def queryAllBalances (height : BlockHeight) : Attempt (List Balance) := do
  let tokens ← orError .rpcError (queryTokens ctx client)
  let balances ← tokens.mapM fun token => do
    let address ← mayPanic (token.address.toAddress ctx.sdk)
    let entries ← orError .rpcError
      (client.ask (.storedBalances address) (client.node.storedBalances address))
    return entries.map fun (owner,amount) =>
      (⟨.ofAddress ctx.sdk owner,token,amount,height⟩ : Balance)
  return balances.flatten

/-- `query_all_redelegations` -/
def queryAllRedelegations (validatorAddresses : List Id) : Attempt (List Pos.Redelegation) := do
  let nested ← validatorAddresses.mapM fun validator => do
    let address ← mayPanic (validator.toAddress ctx.sdk)
    let entries ← orError .rpcError
      (client.ask (.storedRedelegations address) (client.node.storedRedelegations address))
    return entries.map fun (delegator,endEpoch) =>
      (⟨.ofAddress ctx.sdk delegator,validator,endEpoch.toUInt32⟩ : Pos.Redelegation)
  return nested.flatten

/-- The voter and the proposal of a vote. -/
def voterOf (vote : GovernanceVote) : Id × UInt64 := (vote.address,vote.proposalId)

/-- `query_all_votes`: a proposal whose query failed has no votes, and a voter with several
votes on one proposal has an unknown one. -/
def queryAllVotes (proposalsIds : List UInt64) : List GovernanceVote :=
  let votes := (proposalsIds.filterMap fun id =>
    (client.ask (.proposalVotes id) (client.node.proposalVotes id)).map fun votes =>
      ctx.order.visit (votes.map fun (vote,delegator) =>
        (⟨id,vote,.ofAddress ctx.sdk delegator⟩ : GovernanceVote))).flatten
  ctx.order.visit ((Table.fresh voterOf [] votes).map fun vote =>
    if 1 < votes.countP (fun other => voterOf other = voterOf vote) then
      { vote with vote := .unknown }
    else vote)

end
end NamadaIndexer.Chain
