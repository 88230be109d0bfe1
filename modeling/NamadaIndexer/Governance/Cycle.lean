import NamadaIndexer.Foundation.Panicking
import NamadaIndexer.Foundation.Runs
import NamadaIndexer.Governance.Proposals

/-! The cycle of the governance crawler: three reads, the answers of the node, and one
database transaction, with statements of the chain crawler and failures at any point in
between. -/
namespace NamadaIndexer.Governance
open NamadaIndexer.Foundation NamadaIndexer.Shared

inductive TallyResult
  | passed
  | rejected
  deriving DecidableEq, Repr

/-- The node's tally of a proposal. -/
structure ProposalResult where
  result : TallyResult
  totalYayPower : Amount
  totalNayPower : Amount
  totalAbstainPower : Amount
  deriving DecidableEq, Repr

/-- The result that is written for a proposal at an epoch. -/
def resultAt (currentEpoch : UInt64) (proposal : GovernanceProposalShort) (tally : TallyResult) :
    GovernanceProposalResult :=
  if proposal.votingEndEpoch ≤ currentEpoch then
    match tally with
    | .passed => .passed
    | .rejected => .rejected
  else if proposal.votingStartEpoch ≤ currentEpoch ∧ currentEpoch ≤ proposal.votingEndEpoch then
    .votingPeriod
  else .pending

section
variable (sdk : Sdk)

def statusOf (currentEpoch : Epoch) (proposal : GovernanceProposalShort) (answer : ProposalResult) :
    GovernanceProposalStatus where
  id := proposal.id
  result := resultAt currentEpoch.toUInt64 proposal answer.result
  yayVotes := sdk.toStringNative answer.totalYayPower
  nayVotes := sdk.toStringNative answer.totalNayPower
  abstainVotes := sdk.toStringNative answer.totalAbstainPower

/-- `get_governance_proposals_updates`; a query that fails or finds nothing is skipped. -/
def getGovernanceProposalsUpdates (answers : UInt64 → Option ProposalResult)
    (proposals : List GovernanceProposalShort) (currentEpoch : Epoch) :
    List GovernanceProposalStatus :=
  proposals.filterMap fun proposal =>
    (answers proposal.id).map (statusOf sdk currentEpoch proposal)

def executedResult : GovernanceProposalResult → Panicking GovernanceProposalResult
  | .rejected => .returns .executedRejected
  | .passed => .returns .executedPassed
  | _ => .panics "Fetched a non-ended proposal"

/-- The proposals to mark as executed, as the cycle computes them from its read. -/
def executedProposals (table : GovernanceProposals) (currentEpoch : Epoch) :
    Panicking (List (UInt64 × GovernanceProposalResult)) :=
  (getAllExecutedProposals table currentEpoch).mapM fun (id,result) =>
    (fun executed => (id,executed)) <$> executedResult result

/-- The payment of one action of a funding proposal. -/
def paymentOf (proposalId : UInt64) (action : PGFAction) : PgfPayment :=
  let payment (recurrence : PaymentRecurrence) (action : Option PgfAction) :
      PGFTarget → PgfPayment
    | .internal target amount =>
      { proposalId, recurrence, kind := .native, receipient := .ofAddress sdk target, amount,
        action }
    | .ibc target amount _ _ =>
      { proposalId, recurrence, kind := .ibc, receipient := .account target, amount, action }
  match action with
  | .retro target => payment .retro none target
  | .continuous (.add target) => payment .continuous (some .add) target
  | .continuous (.remove target) => payment .continuous (some .remove) target

/-- The payments of a selected proposal; data that does not decode is skipped. -/
def paymentsOf (entry : UInt64 × Option String) : List PgfPayment :=
  match entry.2.bind sdk.pgfFundings with
  | some fundings => fundings.map (paymentOf sdk entry.1)
  | none => []

/-- The payments to apply, as the cycle computes them from its read. -/
def pgfPayments (table : GovernanceProposals) (currentEpoch : Epoch) : List PgfPayment :=
  (getAllPgfExecutedProposalsData table currentEpoch).flatMap (paymentsOf sdk)

end

/-- How far a cycle has come, with what it holds in memory. -/
inductive Phase
  | idle
  | tallying (epoch : Epoch) (running : List GovernanceProposalShort)
  | collecting (epoch : Epoch) (statuses : List GovernanceProposalStatus)
      (executed : List (UInt64 × GovernanceProposalResult))
  | writing (epoch : Epoch) (statuses : List GovernanceProposalStatus)
      (executed : List (UInt64 × GovernanceProposalResult)) (payments : List PgfPayment)
  deriving DecidableEq

/-- The two tables and the cycle. `epoch` is the last one that the node answered. -/
structure Indexer where
  proposals : GovernanceProposals
  publicGoodFunding : PublicGoodFunding
  phase : Phase
  epoch : Epoch

inductive Label
  | insert (proposals : List (GovernanceProposal × TallyType))
  | readRunning (nodeEpoch : UInt64)
  | readExecuted (answers : UInt64 → Option ProposalResult)
  | readPayments
  | commit
  | abort

namespace Indexer
variable (sdk : Sdk)

def start : Indexer := ⟨.empty,.empty,.idle,0⟩

/-- The updates of the transaction, in its order. -/
def afterCommit (table : GovernanceProposals) (statuses : List GovernanceProposalStatus)
    (executed : List (UInt64 × GovernanceProposalResult)) : GovernanceProposals :=
  executed.foldl updateProposalResult (statuses.foldl updateProposalStatus table)

def step (s : Indexer) : Label → Option Indexer
  | .insert proposals =>
    match insertProposals sdk s.proposals proposals with
    | some table => some { s with proposals := table }
    | none => some s
  | .readRunning nodeEpoch =>
    match s.phase with
    | .idle =>
      let epoch := nodeEpoch.toUInt32
      some { s with epoch, phase := .tallying epoch (getAllRunningProposals s.proposals) }
    | _ => none
  | .readExecuted answers =>
    match s.phase with
    | .tallying epoch running =>
      match executedProposals s.proposals epoch with
      | .returns executed =>
        let statuses := getGovernanceProposalsUpdates sdk answers running epoch
        some { s with phase := .collecting epoch statuses executed }
      | .panics _ => some { s with phase := .idle }
    | _ => none
  | .readPayments =>
    match s.phase with
    | .collecting epoch statuses executed =>
      some { s with phase := .writing epoch statuses executed (pgfPayments sdk s.proposals epoch) }
    | _ => none
  | .commit =>
    match s.phase with
    | .writing _ statuses executed payments =>
      some { s with
        proposals := afterCommit s.proposals statuses executed
        publicGoodFunding := updatePgf sdk s.publicGoodFunding payments
        phase := .idle }
    | _ => none
  -- a query or the transaction fails, or the process crashes
  | .abort => some { s with phase := .idle }

end Indexer
end NamadaIndexer.Governance
