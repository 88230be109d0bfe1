import NamadaIndexer.Foundation.Queries
import NamadaIndexer.Governance.Ledger
import NamadaIndexer.Webserver.EpochTimes
import NamadaIndexer.Webserver.Pagination

/-! The proposals, votes and payments that are shown after any run of the crawlers. A proposal is
asked for by a number of 64 bits, of which the tables know 32. -/
namespace NamadaIndexer.Webserver
open NamadaIndexer.Foundation NamadaIndexer.Foundation.Runs NamadaIndexer.Shared
open NamadaIndexer.Chain (ChainDb Context)
open NamadaIndexer.Chain.Votes (GovernanceProposalVoteDb GovernanceVoteKindDb)
open NamadaIndexer.Governance (GovernanceProposalDb GovernanceProposalKind
  GovernanceProposalResult PaymentKind PaymentRecurrence PaymentStored PublicGoodFundingPaymentDb
  Transaction lastVote proposalEvents recordedProposal)
open NamadaIndexer.Pos (StakingDb)

inductive GovernanceError
  | notFound (proposalId : UInt64)
  deriving DecidableEq, Repr

/-- A vote. Its kinds are the ones of the database. -/
structure ProposalVote where
  proposalId : UInt64
  vote : GovernanceVoteKindDb
  voterAddress : Id
  deriving DecidableEq, Repr

structure ProposalData where
  data : Option String
  hash : Option String
  type : GovernanceProposalKind
  deriving DecidableEq, Repr

structure PgfPayment where
  proposalId : UInt64
  recurrence : PaymentRecurrence
  kind : PaymentKind
  receipient : Id
  amount : Amount
  deriving DecidableEq, Repr

/-- `From<GovernanceProposalVoteDb> for ProposalVote` -/
def ProposalVote.fromDb (value : GovernanceProposalVoteDb) : ProposalVote where
  proposalId := asU64 value.proposalId
  vote := value.kind
  voterAddress := .account value.voterAddress

/-- The payment of a row -/
def PgfPayment.fromDb (payment : PublicGoodFundingPaymentDb) : PgfPayment where
  proposalId := asU64 payment.proposalId
  recurrence := payment.paymentRecurrence
  kind := payment.paymentKind
  receipient := .account payment.receipient
  amount := .fromBigDecimal ⟨payment.amount.value,0⟩

section
variable (db : ChainDb)

/-- `find_governance_proposals_by_id`, and the same rows with their data -/
def findGovernanceProposalById (proposalId : UInt64) : Option GovernanceProposalDb :=
  db.governanceProposals.find? (asI32 proposalId)

/-- The query of `find_governance_proposals`, without its order. `ilike` is `ILIKE`. -/
def governanceProposals (ilike : String → String → Bool) (status : Option GovernanceProposalResult)
    (kind : Option GovernanceProposalKind) (pattern : Option String) : List GovernanceProposalDb :=
  db.governanceProposals.rows.filter fun row =>
    status.all (fun status => row.result = status) && kind.all (fun kind => row.kind = kind) &&
      pattern.all fun pattern => ilike row.content ("%" ++ pattern ++ "%")

/-- `find_proposal_data`. `digest` is the hash of the bytes that a text in hexadecimals stands for,
and those of a text that is none are empty. -/
def findProposalData (digest : String → String) (proposalId : UInt64) :
    Except GovernanceError ProposalData :=
  match findGovernanceProposalById db proposalId with
  | none => .error (.notFound proposalId)
  | some row =>
    .ok {
      data := row.data
      hash := if row.kind = .defaultWithWasm then some (digest (row.data.getD "")) else none
      type := row.kind }

/-- The query of `find_governance_proposal_votes`, which orders nothing -/
def governanceProposalVotes (proposalId : UInt64) : List GovernanceProposalVoteDb :=
  db.governanceVotes.rows.filter fun row => row.proposalId = asI32 proposalId

/-- `find_governance_proposal_votes`, for one order of the votes -/
def findGovernanceProposalVotes (overflowChecks : Bool) (listed : List GovernanceProposalVoteDb)
    (proposalId : UInt64) (page : Option UInt64) :
    Panicking (Except GovernanceError (Option (PaginatedResponse ProposalVote))) :=
  match findGovernanceProposalById db proposalId with
  | none => return .error (.notFound proposalId)
  | some _ => .ok <$> showPage overflowChecks listed .fromDb page

def findGovernanceProposalVotesByAddress (proposalId : UInt64) (voterAddress : String) :
    Except GovernanceError (List ProposalVote) :=
  match findGovernanceProposalById db proposalId with
  | none => .error (.notFound proposalId)
  | some _ => .ok ((db.governanceVotes.rows.filter fun row =>
      decide (row.proposalId = asI32 proposalId) && decide (row.voterAddress = voterAddress)).map
        .fromDb)

def findGovernanceProposalVotesByVoter (voterAddress : String) : List ProposalVote :=
  (db.governanceVotes.rows.filter fun row => row.voterAddress = voterAddress).map .fromDb

/-- `find_pfg_payments_by_proposal_id` -/
def findPgfPaymentsByProposalId (proposalId : UInt64) : List PgfPayment :=
  (db.publicGoodFunding.rows.filter fun row => row.proposalId = asI32 proposalId).map .fromDb

end

section
variable (overflowChecks : Bool) (delay : UInt32) (chainState : ChainCrawlerStateDb)
  (maxBlockTime minDuration : Int32) (parseF64 : String → Option F64)

/-- `get_governance_proposal_by_id`, up to its headers -/
def getGovernanceProposalById (db : ChainDb) (proposalId : UInt64) :
    Panicking (Except GovernanceError Proposal) :=
  match findGovernanceProposalById db proposalId with
  | none => return .error (.notFound proposalId)
  | some row =>
    .ok <$> Proposal.fromDb overflowChecks delay chainState maxBlockTime minDuration parseF64 row

/-- `get_governance_proposals`, for one order of the proposals -/
def getGovernanceProposals (listed : List GovernanceProposalDb) (page : Option UInt64) :
    Panicking (Option (PaginatedResponse Proposal)) := do
  match ← showPage overflowChecks listed id page with
  | none => return none
  | some response =>
    let results ← response.results.mapM
      (Proposal.fromDb overflowChecks delay chainState maxBlockTime minDuration parseF64)
    return some ⟨results,response.pagination⟩

/-- `get_all_pgf_payments`, for one order of the payments -/
def getAllPgfPayments (listed : List PublicGoodFundingPaymentDb) :
    Option UInt64 → Panicking (Option (PaginatedResponse PgfPayment)) :=
  showPage overflowChecks listed .fromDb

end

section
variable {ctx : Context} {transactions : List Transaction} {db : StakingDb}
  (hrun : execute (Transaction.step ctx) .empty transactions = some db)
include hrun

lemma findGovernanceProposalById_eq (proposalId : UInt64) :
    findGovernanceProposalById db.chain proposalId =
      recordedProposal (asI32 proposalId) (transactions.flatMap (proposalEvents ctx)) :=
  Governance.find?_proposal hrun _

lemma mem_governanceVotes {row : GovernanceProposalVoteDb} :
    row ∈ db.chain.governanceVotes.rows ↔
      lastVote ctx (row.voterAddress,row.proposalId) transactions = some row := by
  rw [←Governance.find?_vote hrun,Table.find?_eq_some]
  exact (and_iff_left rfl).symm

end

/-- The data that is shown for a proposal never changes. -/
lemma findProposalData_of_later {ctx : Context} {transactions later : List Transaction}
    {db db' : StakingDb} {digest : String → String} {proposalId : UInt64} {data : ProposalData}
    (hrun : execute (Transaction.step ctx) .empty transactions = some db)
    (hlater : execute (Transaction.step ctx) db later = some db')
    (h : findProposalData db.chain digest proposalId = .ok data) :
    findProposalData db'.chain digest proposalId = .ok data := by
  unfold findProposalData findGovernanceProposalById at h ⊢
  cases hrow : db.chain.governanceProposals.find? (asI32 proposalId) with
  | none =>
    rw [hrow] at h
    cases h
  | some row =>
    obtain ⟨row',hrow',hsame⟩ := Governance.proposed_of_later hrun hlater hrow
    have hdata : row'.data = row.data := congrArg (·.2.1) hsame
    have hkind : row'.kind = row.kind := congrArg (·.2.2.1) hsame
    rw [hrow] at h
    rw [hrow',←h]
    dsimp only
    rw [hdata,hkind]

/-- The proposal of a number is the one with its last 32 bits, with the columns of its first
insertion and its last tally; the data that is shown for it never changes. -/
theorem proposals_shown (ctx : Context) (transactions : List Transaction) (db : StakingDb)
    (hrun : execute (Transaction.step ctx) .empty transactions = some db)
    (overflowChecks : Bool) (delay : UInt32) (chainState : ChainCrawlerStateDb)
    (maxBlockTime minDuration : Int32) (parseF64 : String → Option F64) (digest : String → String)
    (ilike : String → String → Bool) :
    (∀ proposalId, getGovernanceProposalById overflowChecks delay chainState maxBlockTime
        minDuration parseF64 db.chain proposalId =
      match recordedProposal (asI32 proposalId) (transactions.flatMap (proposalEvents ctx)) with
      | none => .returns (.error (.notFound proposalId))
      | some row => .ok <$> Proposal.fromDb overflowChecks delay chainState maxBlockTime minDuration
        parseF64 row) ∧
    (∀ (later : List Transaction) (db' : StakingDb) (proposalId : UInt64) (data : ProposalData),
      execute (Transaction.step ctx) db later = some db' →
      findProposalData db.chain digest proposalId = .ok data →
      findProposalData db'.chain digest proposalId = .ok data) ∧
    (∀ status kind pattern listed, Descending (·.id)
        (governanceProposals db.chain ilike status kind pattern) listed →
      listed.Pairwise (fun a b => b.id < a.id) ∧
      (∀ row, row ∈ listed ↔
        recordedProposal row.id (transactions.flatMap (proposalEvents ctx)) = some row ∧
          (∀ asked ∈ status, row.result = asked) ∧ (∀ asked ∈ kind, row.kind = asked) ∧
          ∀ asked ∈ pattern, ilike row.content ("%" ++ asked ++ "%")) ∧
      (listed.length < 2^53 → ∀ page : Option UInt64, 1 ≤ (page.getD 1).toNat →
        (page.getD 1).toNat ≤ pageCount listed DEFAULT_PER_PAGE →
        ∃ pagination, getGovernanceProposals overflowChecks delay chainState maxBlockTime
            minDuration parseF64 listed page =
          (fun results => some ⟨results,pagination⟩) <$>
            ((listed.drop (((page.getD 1).toNat - 1) * 30)).take 30).mapM
              (Proposal.fromDb overflowChecks delay chainState maxBlockTime minDuration parseF64) ∧
          pagination.totalItems.toNat = listed.length)) := by
  refine ⟨fun proposalId => ?_,fun later db' proposalId data hlater hdata => ?_,
    fun status kind pattern listed hlisted => ⟨?_,fun row => ?_,fun hlength page hpage hle => ?_⟩⟩
  · rw [getGovernanceProposalById,findGovernanceProposalById_eq hrun]
    rfl
  · exact findProposalData_of_later hrun hlater hdata
  · have hids : (listed.map (·.id)).Nodup :=
      ((hlisted.perm.map _).nodup_iff).mpr
        ((List.filter_sublist.map _).nodup db.chain.governanceProposals.unique)
    refine (hlisted.sorted.and (List.pairwise_map.mp hids)).imp fun h => ?_
    exact Int32.lt_of_le_of_ne h.1 (Ne.symm h.2)
  · rw [hlisted.perm.mem_iff,governanceProposals,List.mem_filter,←Governance.find?_proposal hrun,
      Table.find?_eq_some]
    simp [Option.all_eq_true,and_assoc]
  · obtain ⟨response,hresponse,hresults,hitems,-⟩ :=
      pagesShow_showPage overflowChecks listed id hlength page hpage hle
    refine ⟨response.pagination,?_,hitems⟩
    rw [getGovernanceProposals,hresponse,←List.map_id (List.take 30 _),←hresults]
    rfl

theorem proposals_shown_of_governedRun :
    ∃ db, execute (Transaction.step (Chain.sampleContext bondTx)) .empty Governance.governedRun =
        some db ∧
      getGovernanceProposalById true 2 ⟨9,4,8,100⟩ 6 60 (fun _ => none) db.chain 2 =
        .returns (.error (.notFound 2)) := by
  obtain ⟨db,hrun⟩ := Governance.exists_governedRun
  obtain ⟨hproposal,-⟩ := proposals_shown (Chain.sampleContext bondTx) Governance.governedRun db hrun
    true 2 ⟨9,4,8,100⟩ 6 60 (fun _ => none) id fun _ _ => true
  refine ⟨db,hrun,(hproposal 2).trans ?_⟩
  have hnone : recordedProposal (asI32 2) (Governance.governedRun.flatMap
      (proposalEvents (Chain.sampleContext bondTx))) = none := by decide +kernel
  rw [hnone]

/-- The vote of a voter is the last one that was stored, each voter has one for each proposal, and
the votes on a proposal are found by its last 32 bits. -/
theorem votes_shown (ctx : Context) (transactions : List Transaction) (db : StakingDb)
    (hrun : execute (Transaction.step ctx) .empty transactions = some db) (overflowChecks : Bool) :
    (∀ proposalId voterAddress, findGovernanceProposalVotesByAddress db.chain proposalId voterAddress =
      if (recordedProposal (asI32 proposalId)
        (transactions.flatMap (proposalEvents ctx))).isNone then .error (.notFound proposalId)
      else .ok ((lastVote ctx (voterAddress,asI32 proposalId) transactions).toList.map .fromDb)) ∧
    (∀ voterAddress, ((findGovernanceProposalVotesByVoter db.chain voterAddress).map
        (·.proposalId)).Nodup ∧
      ∀ vote, vote ∈ findGovernanceProposalVotesByVoter db.chain voterAddress ↔
        ∃ proposalId row, lastVote ctx (voterAddress,proposalId) transactions = some row ∧
          ProposalVote.fromDb row = vote) ∧
    (∀ proposalId listed, listed.Perm (governanceProposalVotes db.chain proposalId) →
      (listed.map (·.voterAddress)).Nodup ∧
      (∀ row, row ∈ listed ↔
        lastVote ctx (row.voterAddress,asI32 proposalId) transactions = some row) ∧
      ∀ page, findGovernanceProposalVotes db.chain overflowChecks listed proposalId page =
        if (recordedProposal (asI32 proposalId)
          (transactions.flatMap (proposalEvents ctx))).isNone then
          .returns (.error (.notFound proposalId))
        else .ok <$> showPage overflowChecks listed .fromDb page) := by
  refine ⟨fun proposalId voterAddress => ?_,fun voterAddress => ⟨?_,fun vote => ?_⟩,
    fun proposalId listed hlisted => ⟨?_,fun row => ?_,fun page => ?_⟩⟩
  · have hfilter : (db.chain.governanceVotes.rows.filter fun row =>
        decide (row.proposalId = asI32 proposalId) && decide (row.voterAddress = voterAddress)) =
        (lastVote ctx (voterAddress,asI32 proposalId) transactions).toList := by
      rw [←Governance.find?_vote hrun,←Table.filter_key]
      refine List.filter_congr fun row _ => ?_
      rw [←Bool.decide_and]
      exact decide_eq_decide.mpr ⟨fun h => Prod.ext h.2 h.1,fun h =>
        ⟨congrArg Prod.snd h,congrArg Prod.fst h⟩⟩
    rw [findGovernanceProposalVotesByAddress,findGovernanceProposalById_eq hrun,hfilter]
    cases recordedProposal (asI32 proposalId) (transactions.flatMap (proposalEvents ctx)) <;> rfl
  · rw [findGovernanceProposalVotesByVoter,List.map_map]
    refine Table.nodup_map_filter db.chain.governanceVotes fun r s hr hs hsame => ?_
    have hvoter : r.voterAddress = s.voterAddress :=
      (of_decide_eq_true hr).trans (of_decide_eq_true hs).symm
    exact Prod.ext hvoter (asU64_injective hsame)
  · rw [findGovernanceProposalVotesByVoter,List.mem_map]
    constructor
    · rintro ⟨row,hrow,rfl⟩
      obtain ⟨hmem,hvoter⟩ := List.mem_filter.mp hrow
      have hlast := (mem_governanceVotes hrun).mp hmem
      rw [of_decide_eq_true hvoter] at hlast
      exact ⟨row.proposalId,row,hlast,rfl⟩
    · rintro ⟨proposalId,row,hlast,rfl⟩
      rw [←Governance.find?_vote hrun,Table.find?_eq_some] at hlast
      exact ⟨row,List.mem_filter.mpr ⟨hlast.1,decide_eq_true (congrArg Prod.fst hlast.2)⟩,rfl⟩
  · refine (hlisted.map _).nodup_iff.mpr ?_
    refine Table.nodup_map_filter db.chain.governanceVotes fun r s hr hs hsame => ?_
    have hproposal : r.proposalId = s.proposalId :=
      (of_decide_eq_true hr).trans (of_decide_eq_true hs).symm
    exact Prod.ext hsame hproposal
  · rw [hlisted.mem_iff,governanceProposalVotes,List.mem_filter,←Governance.find?_vote hrun,
      Table.find?_eq_some]
    exact and_congr_right fun _ => decide_eq_true_iff.trans
      ⟨fun h => Prod.ext rfl h,fun h => congrArg Prod.snd h⟩
  · rw [findGovernanceProposalVotes,findGovernanceProposalById_eq hrun]
    cases recordedProposal (asI32 proposalId) (transactions.flatMap (proposalEvents ctx)) <;> rfl

/-- The number of the proposal is cut to 32 bits. -/
theorem votes_shown_of_governedRun :
    ∃ db, execute (Transaction.step (Chain.sampleContext bondTx)) .empty Governance.governedRun =
        some db ∧
      findGovernanceProposalVotesByAddress db.chain 4294967297 "bob" =
        .ok [⟨1,.yay,.account "bob"⟩] := by
  obtain ⟨db,hrun⟩ := Governance.exists_governedRun
  obtain ⟨hvotes,-⟩ := votes_shown (Chain.sampleContext bondTx) Governance.governedRun db hrun true
  refine ⟨db,hrun,(hvotes 4294967297 "bob").trans ?_⟩
  have hknown : (recordedProposal (asI32 4294967297) (Governance.governedRun.flatMap
      (proposalEvents (Chain.sampleContext bondTx)))).isNone = false := by decide +kernel
  have hlast : (lastVote (Chain.sampleContext bondTx) ("bob",asI32 4294967297)
      Governance.governedRun).toList.map ProposalVote.fromDb = [⟨1,.yay,.account "bob"⟩] := by
    decide +kernel
  rw [hknown,hlast]
  rfl

end NamadaIndexer.Webserver
