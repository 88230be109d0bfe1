import NamadaIndexer.Foundation.KeyedTable
import NamadaIndexer.Foundation.Numerals
import NamadaIndexer.Shared.Id

/-! The tables of proposals and of public good funding, and the statements of the chain
crawler and of the governance crawler that read and write them. -/
namespace NamadaIndexer.Governance
open NamadaIndexer.Foundation NamadaIndexer.Shared

inductive GovernanceProposalKind
  | pgfSteward
  | pgfFunding
  | default
  | defaultWithWasm
  deriving DecidableEq, Repr

inductive TallyType
  | twoFifths
  | oneHalfOverOneThird
  | lessOneHalfOverOneThirdNay
  deriving DecidableEq, Repr

/-- The result of a proposal. The enumeration of the database has the same members. -/
inductive GovernanceProposalResult
  | passed
  | rejected
  | votingPeriod
  | pending
  | executedPassed
  | executedRejected
  | unknown
  deriving DecidableEq, Repr

structure GovernanceProposal where
  id : UInt64
  content : String
  type : GovernanceProposalKind
  data : Option String
  author : Id
  votingStartEpoch : Epoch
  votingEndEpoch : Epoch
  activationEpoch : Epoch
  deriving DecidableEq, Repr

structure GovernanceProposalDb where
  id : Int32
  content : String
  data : Option String
  kind : GovernanceProposalKind
  tallyType : TallyType
  author : String
  startEpoch : Int32
  endEpoch : Int32
  activationEpoch : Int32
  yayVotes : String
  nayVotes : String
  abstainVotes : String
  result : GovernanceProposalResult
  deriving DecidableEq, Repr

abbrev GovernanceProposals := Table GovernanceProposalDb.id

/-- `GovernanceProposalInsertDb::from_governance_proposal`, with the defaults of the
columns that it leaves out. -/
def fromGovernanceProposal (sdk : Sdk) (proposal : GovernanceProposal) (tallyType : TallyType) :
    GovernanceProposalDb where
  id := asI32 proposal.id
  content := proposal.content
  data := proposal.data
  kind := proposal.type
  tallyType
  author := proposal.author.toString sdk
  startEpoch := proposal.votingStartEpoch.toInt32
  endEpoch := proposal.votingEndEpoch.toInt32
  activationEpoch := proposal.activationEpoch.toInt32
  yayVotes := "0"
  nayVotes := "0"
  abstainVotes := "0"
  result := .pending

/-- `SET` result and votes to the excluded ones -/
def resetTally : Table.Merge GovernanceProposalDb.id where
  run old new := some { old with
    result := new.result
    yayVotes := new.yayVotes
    nayVotes := new.nayVotes
    abstainVotes := new.abstainVotes }
  key_run := by
    rintro old new row ⟨⟩
    rfl

/-- `insert_proposals` of the chain crawler -/
def insertProposals (sdk : Sdk) (table : GovernanceProposals)
    (proposals : List (GovernanceProposal × TallyType)) : Option GovernanceProposals :=
  Table.upsert resetTally table
    (proposals.map fun (proposal,tallyType) => fromGovernanceProposal sdk proposal tallyType)

structure GovernanceProposalShort where
  id : UInt64
  votingStartEpoch : UInt64
  votingEndEpoch : UInt64
  deriving DecidableEq, Repr

structure GovernanceProposalStatus where
  id : UInt64
  result : GovernanceProposalResult
  yayVotes : String
  nayVotes : String
  abstainVotes : String
  deriving DecidableEq, Repr

/-- The results after which a proposal is not tallied any more. -/
def GovernanceProposalResult.ended : GovernanceProposalResult → Bool
  | .passed | .rejected | .executedPassed | .executedRejected => true
  | .votingPeriod | .pending | .unknown => false

def short (row : GovernanceProposalDb) : GovernanceProposalShort where
  id := asU64 row.id
  votingStartEpoch := asU64 row.startEpoch
  votingEndEpoch := asU64 row.endEpoch

/-- `get_all_running_proposals` -/
def getAllRunningProposals (table : GovernanceProposals) : List GovernanceProposalShort :=
  (table.rows.filter fun row => !row.result.ended).map short

/-- `get_all_executed_proposals` -/
def getAllExecutedProposals (table : GovernanceProposals) (currentEpoch : Epoch) :
    List (UInt64 × GovernanceProposalResult) :=
  (table.rows.filter fun row => (row.result == .passed || row.result == .rejected) &&
    decide (row.activationEpoch ≤ currentEpoch.toInt32)).map fun row => (asU64 row.id,row.result)

/-- `get_all_pgf_executed_proposals_data` -/
def getAllPgfExecutedProposalsData (table : GovernanceProposals) (currentEpoch : Epoch) :
    List (UInt64 × Option String) :=
  (table.rows.filter fun row => row.result == .passed &&
    row.activationEpoch == currentEpoch.toInt32 && row.kind == .pgfFunding).map
      fun row => (asU64 row.id,row.data)

def setStatus (status : GovernanceProposalStatus) (row : GovernanceProposalDb) :
    GovernanceProposalDb :=
  if row.id = asI32 status.id then
    { row with
      yayVotes := status.yayVotes
      nayVotes := status.nayVotes
      abstainVotes := status.abstainVotes
      result := status.result }
  else row

def setResult (entry : UInt64 × GovernanceProposalResult) (row : GovernanceProposalDb) :
    GovernanceProposalDb :=
  if row.id = asI32 entry.1 then { row with result := entry.2 } else row

@[simp] theorem setStatus_id (status : GovernanceProposalStatus) (row : GovernanceProposalDb) :
    (setStatus status row).id = row.id := by
  unfold setStatus
  split <;> rfl

theorem setStatus_of_id {status : GovernanceProposalStatus} {row : GovernanceProposalDb}
    (h : row.id = asI32 status.id) :
    setStatus status row = { row with
      yayVotes := status.yayVotes
      nayVotes := status.nayVotes
      abstainVotes := status.abstainVotes
      result := status.result } :=
  if_pos h

@[simp] theorem setResult_id (entry : UInt64 × GovernanceProposalResult)
    (row : GovernanceProposalDb) : (setResult entry row).id = row.id := by
  unfold setResult
  split <;> rfl

theorem setResult_of_id {entry : UInt64 × GovernanceProposalResult} {row : GovernanceProposalDb}
    (h : row.id = asI32 entry.1) : setResult entry row = { row with result := entry.2 } :=
  if_pos h

/-- `update_proposal_status` -/
def updateProposalStatus (table : GovernanceProposals) (status : GovernanceProposalStatus) :
    GovernanceProposals :=
  table.mapRows (setStatus status) (setStatus_id status)

/-- `update_proposal_result` -/
def updateProposalResult (table : GovernanceProposals)
    (entry : UInt64 × GovernanceProposalResult) : GovernanceProposals :=
  table.mapRows (setResult entry) (setResult_id entry)

inductive PaymentRecurrence
  | continuous
  | retro
  deriving DecidableEq, Repr

inductive PaymentKind
  | ibc
  | native
  deriving DecidableEq, Repr

inductive PgfAction
  | add
  | remove
  deriving DecidableEq, Repr

structure PgfPayment where
  proposalId : UInt64
  recurrence : PaymentRecurrence
  kind : PaymentKind
  receipient : Id
  amount : Amount
  action : Option PgfAction
  deriving DecidableEq, Repr

structure PublicGoodFundingPaymentDb where
  paymentRecurrence : PaymentRecurrence
  proposalId : Int32
  paymentKind : PaymentKind
  receipient : String
  amount : Numeric
  deriving DecidableEq

/-- `UNIQUE (receipient, proposal_id)` -/
def PublicGoodFundingPaymentDb.key (row : PublicGoodFundingPaymentDb) : String × Int32 :=
  (row.receipient,row.proposalId)

abbrev PublicGoodFunding := Table PublicGoodFundingPaymentDb.key

/-- `PublicGoodFundingPaymentInsertDb::from_pgf_payment` -/
def fromPgfPayment (sdk : Sdk) (payment : PgfPayment) : PublicGoodFundingPaymentDb where
  paymentRecurrence := payment.recurrence
  proposalId := asI32 payment.proposalId
  paymentKind := payment.kind
  receipient := payment.receipient.toString sdk
  amount := numericOfAmount payment.amount

def PgfPayment.isRecorded (payment : PgfPayment) : Bool :=
  payment.recurrence == .retro ||
    payment.recurrence == .continuous && payment.action == some .add

def PgfPayment.isRemoval (payment : PgfPayment) : Bool :=
  payment.recurrence == .continuous && payment.action == some .remove

/-- `DELETE` the continuous payments of one receipient -/
def deleteContinuous (table : PublicGoodFunding) (receipient : String) : PublicGoodFunding where
  rows := table.rows.filter fun row =>
    !(row.receipient == receipient && row.paymentRecurrence == .continuous)
  unique := (List.filter_sublist.map _).nodup table.unique

/-- `update_pgf` -/
def updatePgf (sdk : Sdk) (table : PublicGoodFunding) (payments : List PgfPayment) :
    PublicGoodFunding :=
  (payments.filter PgfPayment.isRemoval).foldl
    (fun table payment => deleteContinuous table (payment.receipient.toString sdk))
    (table.insertOrIgnore ((payments.filter PgfPayment.isRecorded).map (fromPgfPayment sdk)))

end NamadaIndexer.Governance
