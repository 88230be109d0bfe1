import NamadaIndexer.Foundation.Cells
import NamadaIndexer.Governance.Funding
import NamadaIndexer.Pos.Staking

/-! The proposals, votes and payments that are stored after any run of the crawlers that share their
tables: the chain crawler inserts proposals and votes, the governance crawler tallies the proposals
and records the payments. -/
namespace NamadaIndexer.Governance
open NamadaIndexer.Foundation NamadaIndexer.Foundation.Runs NamadaIndexer.Shared
open NamadaIndexer.Chain (ChainDb Context)
open NamadaIndexer.Chain.Votes (GovernanceProposalVoteDb fromGovernanceVote)
open NamadaIndexer.Pos (StakingDb)
open NamadaIndexer.Transactions (References)

/-- A transaction that took effect: one on the tables of proof of stake, or the one of a cycle of the
governance crawler, with what it has collected. -/
inductive Transaction
  | staking (transaction : Pos.Transaction)
  | cycle (statuses : List GovernanceProposalStatus)
    (executed : List (UInt64 × GovernanceProposalResult)) (payments : List PgfPayment)

/-- The payments that `update_pgf` would insert. -/
def fundingRows (sdk : Sdk) (payments : List PgfPayment) : List PublicGoodFundingPaymentDb :=
  (payments.filter PgfPayment.isRecorded).map (fromPgfPayment sdk)

/-- Payments that are new refer to stored proposals. -/
def Transaction.step (ctx : Context) (db : StakingDb) : Transaction → Option StakingDb
  | .staking transaction => transaction.step ctx db
  | .cycle statuses executed payments =>
    let governanceProposals := Indexer.afterCommit db.chain.governanceProposals statuses executed
    if References db.chain.publicGoodFunding (fundingRows ctx.sdk payments)
        PublicGoodFundingPaymentDb.proposalId governanceProposals.keys then
      let publicGoodFunding := updatePgf ctx.sdk db.chain.publicGoodFunding payments
      some { db with chain := { db.chain with governanceProposals, publicGoodFunding } }
    else none

theorem Transaction.step_cycle_eq_some {ctx : Context} {statuses : List GovernanceProposalStatus}
    {executed : List (UInt64 × GovernanceProposalResult)} {payments : List PgfPayment}
    {db db' : StakingDb} :
    (Transaction.cycle statuses executed payments).step ctx db = some db' ↔
      References db.chain.publicGoodFunding (fundingRows ctx.sdk payments)
        PublicGoodFundingPaymentDb.proposalId
        (Indexer.afterCommit db.chain.governanceProposals statuses executed).keys ∧
      { db with chain := { db.chain with
        governanceProposals := Indexer.afterCommit db.chain.governanceProposals statuses executed
        publicGoodFunding := updatePgf ctx.sdk db.chain.publicGoodFunding payments } } = db' := by
  rw [Transaction.step]
  split
  · rename_i h
    exact ⟨fun hdb => ⟨h,Option.some.inj hdb⟩,fun hdb => congrArg some hdb.2⟩
  · rename_i h
    exact ⟨fun hdb => absurd hdb (by simp),fun hdb => absurd hdb.1 h⟩

theorem keys_afterCommit (table : GovernanceProposals) (statuses : List GovernanceProposalStatus)
    (executed : List (UInt64 × GovernanceProposalResult)) :
    (Indexer.afterCommit table statuses executed).keys = table.keys := by
  rw [Indexer.afterCommit]
  exact (Table.foldl_mapRows_keys setResult setResult_id executed _).trans
    (Table.foldl_mapRows_keys setStatus setStatus_id statuses _)

/-- The payments that a cycle is about to write are those of stored proposals. -/
def Phase.Known (table : GovernanceProposals) : Phase → Prop
  | .writing _ _ _ payments => ∀ payment ∈ payments, asI32 payment.proposalId ∈ table.keys
  | .idle | .tallying _ _ | .collecting _ _ _ => True

lemma Phase.Known.mono {table table' : GovernanceProposals} {phase : Phase}
    (hkeys : ∀ id ∈ table.keys, id ∈ table'.keys) (h : phase.Known table) : phase.Known table' := by
  cases phase with
  | writing epoch statuses executed payments => exact fun payment hmem => hkeys _ (h payment hmem)
  | idle => trivial
  | tallying epoch running => trivial
  | collecting epoch statuses executed => trivial

/-- Proposals are never deleted, so that a step of a cycle keeps this as an insertion does. -/
theorem known_step {sdk : Sdk} {s t : Indexer} {a : Label} (hs : s.phase.Known s.proposals)
    (h : s.step sdk a = some t) : t.phase.Known t.proposals := by
  obtain ⟨proposals,table,-,htable,rfl⟩ | ⟨proposals,-,rfl⟩ | ⟨nodeEpoch,-,-,rfl⟩ |
    ⟨answers,epoch,running,executed,-,-,-,rfl⟩ | ⟨epoch,statuses,executed,-,-,rfl⟩ |
    ⟨epoch,statuses,executed,payments,-,-,rfl⟩ | ⟨-,rfl⟩ := Indexer.step_cases h
  · exact hs.mono fun id hid => (Table.mem_keys_upsert htable).mpr (.inl hid)
  · exact hs
  · trivial
  · trivial
  · intro payment hpayment
    rw [pgfPayments,getAllPgfExecutedProposalsData,List.mem_flatMap] at hpayment
    obtain ⟨entry,hentry,hmem⟩ := hpayment
    obtain ⟨row,hrow,rfl⟩ := List.mem_map.mp hentry
    rw [proposalId_of_mem_paymentsOf hmem,asI32_asU64]
    exact Table.key_mem_keys (List.mem_filter.mp hrow).1
  · trivial
  · trivial

/-- So it holds however the steps of cycles are mixed with insertions. -/
theorem known_run {sdk : Sdk} {labels : List Label} {s : Indexer}
    (hrun : execute (Indexer.step sdk) .start labels = some s) : s.phase.Known s.proposals := by
  have hstart : Indexer.start.phase.Known Indexer.start.proposals := trivial
  exact execute_preserves (fun s : Indexer => s.phase.Known s.proposals)
    (fun _ _ _ hs h => known_step hs h) hstart hrun

/-- After any run, the commit of a cycle is one of the transactions. -/
theorem exists_step_of_cycle {ctx : Context} {labels : List Label} {s t : Indexer} {db : StakingDb}
    (hrun : execute (Indexer.step ctx.sdk) .start labels = some s)
    (hproposals : db.chain.governanceProposals = s.proposals)
    (hfunding : db.chain.publicGoodFunding = s.publicGoodFunding)
    (h : s.step ctx.sdk .commit = some t) :
    ∃ (transaction : Transaction) (db' : StakingDb), transaction.step ctx db = some db' ∧
      db'.chain.governanceProposals = t.proposals ∧
      db'.chain.publicGoodFunding = t.publicGoodFunding := by
  have hknown := known_run hrun
  unfold Indexer.step at h
  dsimp only at h
  split at h
  · rename_i epoch statuses executed payments hphase
    obtain rfl := Option.some.inj h
    rw [hphase] at hknown
    refine ⟨.cycle statuses executed payments,_,
      Transaction.step_cycle_eq_some.mpr ⟨fun row hrow => .inr ?_,rfl⟩,?_,?_⟩
    · obtain ⟨payment,hpayment,rfl⟩ := List.mem_map.mp hrow
      rw [keys_afterCommit,hproposals]
      exact hknown payment (List.mem_filter.mp hpayment).1
    · dsimp only
      rw [hproposals]
    · dsimp only
      rw [hfunding]
  · contradiction

/-- What happens to the rows of proposals. -/
inductive ProposalEvent
  | inserted (row : GovernanceProposalDb)
  | tallied (status : GovernanceProposalStatus)
  | executed (entry : UInt64 × GovernanceProposalResult)

section
variable (ctx : Context)

def proposalRows (transaction : Pos.Transaction) : List GovernanceProposalDb :=
  let proposals := match transaction with
    | .initialQuery data => data.proposals
    | .block gathered _ => gathered.proposals
    | _ => []
  proposals.map fun (proposal,tallyType) => fromGovernanceProposal ctx.sdk proposal tallyType

def votesOf : Pos.Transaction → List GovernanceVote
  | .initialQuery data => data.votes
  | .block gathered _ => gathered.votes ctx
  | _ => []

def proposalEvents : Transaction → List ProposalEvent
  | .staking transaction => (proposalRows ctx transaction).map .inserted
  | .cycle statuses executed _ => statuses.map .tallied ++ executed.map .executed

/-- The votes that a transaction stores, in their order. -/
def voteRows : Transaction → List GovernanceProposalVoteDb
  | .staking transaction => (votesOf ctx transaction).map (fromGovernanceVote ctx.sdk)
  | .cycle _ _ _ => []

/-- The payments that a transaction would insert. -/
def paymentRows : Transaction → List PublicGoodFundingPaymentDb
  | .staking _ => []
  | .cycle _ _ payments => fundingRows ctx.sdk payments

/-- A cycle ends a continuous payment to the receipient, after it has inserted its own. -/
def EndsPayment (row : PublicGoodFundingPaymentDb) : Transaction → Prop
  | .staking _ => False
  | .cycle _ _ payments => row.paymentRecurrence = .continuous ∧
    ∃ payment ∈ payments, payment.isRemoval ∧ payment.receipient.toString ctx.sdk = row.receipient

end

section
variable (id : Int32)

/-- The cell of a proposal after one more event. -/
def applyEvent (cell : Option GovernanceProposalDb) : ProposalEvent → Option GovernanceProposalDb
  | .inserted row => if row.id = id then Table.putRow resetTally cell row else cell
  | .tallied status => cell.map fun row =>
    if id = asI32 status.id then { row with
      yayVotes := status.yayVotes
      nayVotes := status.nayVotes
      abstainVotes := status.abstainVotes
      result := status.result }
    else row
  | .executed entry => cell.map fun row =>
    if id = asI32 entry.1 then { row with result := entry.2 } else row

/-- The insertion of the proposal. -/
def insertedAs : ProposalEvent → Option GovernanceProposalDb
  | .inserted row => if row.id = id then some row else none
  | .tallied _ | .executed _ => none

end

/-- The columns of a proposal besides its tally. -/
def GovernanceProposalDb.proposed (row : GovernanceProposalDb) : String × Option String ×
    GovernanceProposalKind × TallyType × String × Int32 × Int32 × Int32 :=
  (row.content,row.data,row.kind,row.tallyType,row.author,row.startEpoch,row.endEpoch,
    row.activationEpoch)

section
variable (id : Int32)

/-- These columns stay as they were inserted first. -/
def proposedRegister : Register ProposalEvent (String × Option String × GovernanceProposalKind ×
    TallyType × String × Int32 × Int32 × Int32) where
  made event := (insertedAs id event).map (·.proposed)
  written _ := none

/-- The votes are those that were tallied last. Another insertion sets them back. -/
def votesRegister : Register ProposalEvent (String × String × String) where
  made event := (insertedAs id event).map (·.votes)
  written
    | .inserted row => (insertedAs id (.inserted row)).map (·.votes)
    | .tallied status =>
      if id = asI32 status.id then some (status.yayVotes,status.nayVotes,status.abstainVotes)
      else none
    | .executed _ => none

/-- So is the result, which the execution sets too. -/
def resultRegister : Register ProposalEvent GovernanceProposalResult where
  made event := (insertedAs id event).map (·.result)
  written
    | .inserted row => (insertedAs id (.inserted row)).map (·.result)
    | .tallied status => if id = asI32 status.id then some status.result else none
    | .executed entry => if id = asI32 entry.1 then some entry.2 else none

/-- The proposal with its last tally and result. -/
def recordedProposal (events : List ProposalEvent) : Option GovernanceProposalDb := do
  let (content,data,kind,tallyType,author,startEpoch,endEpoch,activationEpoch) ←
    (proposedRegister id).read events
  let (yayVotes,nayVotes,abstainVotes) ← (votesRegister id).read events
  let result ← (resultRegister id).read events
  return ⟨id,content,data,kind,tallyType,author,startEpoch,endEpoch,activationEpoch,yayVotes,
    nayVotes,abstainVotes,result⟩

end

section
variable (ctx : Context)

/-- The last vote of a voter on a proposal. -/
def lastVote (key : String × Int32) (transactions : List Transaction) :
    Option GovernanceProposalVoteDb :=
  (transactions.flatMap (voteRows ctx)).reverse.find? fun row => row.key = key

/-- The payment was inserted where its receipient had none of the proposal, and was not ended since
then. -/
def PaymentStored (row : PublicGoodFundingPaymentDb) (transactions : List Transaction) : Prop :=
  Since (Transaction.step ctx)
    (fun db transaction => row.key ∉ db.chain.publicGoodFunding.keys ∧
      IsFirst PublicGoodFundingPaymentDb.key (paymentRows ctx transaction) row ∧
      ¬ EndsPayment ctx row transaction)
    (fun _ transaction => ¬ EndsPayment ctx row transaction)
    .empty transactions

/-- What a transaction of the chain crawler does to these tables. -/
structure Governs (transaction : Pos.Transaction) (db db' : ChainDb) : Prop where
  proposals : Table.upsert resetTally db.governanceProposals (proposalRows ctx transaction) =
    some db'.governanceProposals
  votes : Chain.Votes.insertVotes ctx.sdk db'.governanceProposals.keys.toFinset db.governanceVotes
    (votesOf ctx transaction) = some db'.governanceVotes
  funding : db'.publicGoodFunding = db.publicGoodFunding

end

section
variable {ctx : Context}

lemma governs_nothing {transaction : Pos.Transaction} {db db' : ChainDb}
    (hproposals : proposalRows ctx transaction = []) (hvotes : votesOf ctx transaction = [])
    (hsame : db'.governanceProposals = db.governanceProposals ∧
      db'.governanceVotes = db.governanceVotes ∧ db'.publicGoodFunding = db.publicGoodFunding) :
    Governs ctx transaction db db' := by
  obtain ⟨h₁,h₂,h₃⟩ := hsame
  refine ⟨?_,?_,h₃⟩
  · rw [hproposals,h₁]
    rfl
  · rw [hvotes,h₂,Chain.Votes.insertVotes,chunks_nil]
    rfl

theorem governs_of_step {transaction : Pos.Transaction} {db db' : StakingDb}
    (h : transaction.step ctx db = some db') : Governs ctx transaction db.chain db'.chain := by
  cases transaction with
  | initialQuery data =>
    obtain ⟨chain,hchain,rfl⟩ := Option.map_eq_some_iff.mp h
    have hc := Chain.committed_of_commitInitial hchain
    exact ⟨hc.proposals,hc.votes,hc.publicGoodFunding⟩
  | block gathered shouldUpdateCrawlerState =>
    obtain ⟨chain,hchain,rfl⟩ := Option.map_eq_some_iff.mp h
    have hc := Chain.committed_of_commit hchain
    exact ⟨hc.proposals,hc.votes,hc.publicGoodFunding⟩
  | reindexBonds client done =>
    obtain rfl := Option.some.inj h
    obtain ⟨bonds,unbonds,hsame⟩ := Pos.reindexBonds_frame client done db.chain
    refine governs_nothing rfl rfl ?_
    dsimp only
    rw [hsame]
    exact ⟨rfl,rfl,rfl⟩
  | validatorSet validatorsSet epochToProcess =>
    obtain ⟨chain,hchain,rfl⟩ := Pos.commit_eq_some.mp h
    obtain ⟨_,-,_,-,rfl⟩ := Pos.upsertValidators_eq_some.mp hchain
    exact governs_nothing rfl rfl ⟨rfl,rfl,rfl⟩
  | rewards nonZeroRewards epochToProcess =>
    obtain ⟨chain,hchain,rfl⟩ := Rewards.commit_eq_some.mp h
    obtain ⟨-,-,_,-,rfl⟩ := Rewards.upsertRewards_eq_some.mp hchain
    exact governs_nothing rfl rfl ⟨rfl,rfl,rfl⟩

/-- What a transaction does to the cell of a proposal. -/
lemma find?_proposal_step {transaction : Transaction} {db db' : StakingDb} (id : Int32)
    (h : transaction.step ctx db = some db') :
    db'.chain.governanceProposals.find? id =
      (proposalEvents ctx transaction).foldl (applyEvent id)
        (db.chain.governanceProposals.find? id) := by
  cases transaction with
  | staking transaction =>
    rw [proposalEvents,List.foldl_map]
    exact Table.find?_upsert (governs_of_step h).proposals id
  | cycle statuses executed payments =>
    obtain ⟨-,rfl⟩ := Transaction.step_cycle_eq_some.mp h
    have hstatuses : (statuses.foldl updateProposalStatus db.chain.governanceProposals).find? id =
        (statuses.map ProposalEvent.tallied).foldl (applyEvent id)
          (db.chain.governanceProposals.find? id) := by
      rw [List.foldl_map]
      refine Table.find?_foldl_mapRows_at setStatus_id (fun status row hrow => ?_) _ _
      rw [setStatus,hrow]
    have hexecuted : ∀ table : GovernanceProposals,
        (executed.foldl updateProposalResult table).find? id =
          (executed.map ProposalEvent.executed).foldl (applyEvent id) (table.find? id) := by
      intro table
      rw [List.foldl_map]
      refine Table.find?_foldl_mapRows_at setResult_id (fun entry row hrow => ?_) _ _
      rw [setResult,hrow]
    rw [proposalEvents,List.foldl_append,←hstatuses]
    exact hexecuted _

lemma map_proposed (id : Int32) (events : List ProposalEvent) :
    (events.foldl (applyEvent id) none).map (·.proposed) = (proposedRegister id).read events := by
  apply Register.map_foldl
  · intro event
    cases event with
    | inserted row =>
      simp only [applyEvent,proposedRegister,insertedAs]
      split <;> rfl
    | tallied status => rfl
    | executed entry => rfl
  · intro event old
    cases event with
    | inserted row =>
      simp only [applyEvent,proposedRegister]
      split <;> rfl
    | tallied status =>
      simp only [applyEvent,proposedRegister,Option.map_some]
      split <;> rfl
    | executed entry =>
      simp only [applyEvent,proposedRegister,Option.map_some]
      split <;> rfl

lemma map_votes (id : Int32) (events : List ProposalEvent) :
    (events.foldl (applyEvent id) none).map (·.votes) = (votesRegister id).read events := by
  apply Register.map_foldl
  · intro event
    cases event with
    | inserted row =>
      simp only [applyEvent,votesRegister,insertedAs]
      split <;> rfl
    | tallied status => rfl
    | executed entry => rfl
  · intro event old
    cases event with
    | inserted row =>
      simp only [applyEvent,votesRegister,insertedAs]
      split <;> rfl
    | tallied status =>
      simp only [applyEvent,votesRegister,Option.map_some]
      split <;> rfl
    | executed entry =>
      simp only [applyEvent,votesRegister,Option.map_some]
      split <;> rfl

lemma map_result (id : Int32) (events : List ProposalEvent) :
    (events.foldl (applyEvent id) none).map (·.result) = (resultRegister id).read events := by
  apply Register.map_foldl
  · intro event
    cases event with
    | inserted row =>
      simp only [applyEvent,resultRegister,insertedAs]
      split <;> rfl
    | tallied status => rfl
    | executed entry => rfl
  · intro event old
    cases event with
    | inserted row =>
      simp only [applyEvent,resultRegister,insertedAs]
      split <;> rfl
    | tallied status =>
      simp only [applyEvent,resultRegister,Option.map_some]
      split <;> rfl
    | executed entry =>
      simp only [applyEvent,resultRegister,Option.map_some]
      split <;> rfl

/-- What a transaction does to the cell of a vote. -/
lemma find?_vote_step {transaction : Transaction} {db db' : StakingDb} (key : String × Int32)
    (h : transaction.step ctx db = some db') :
    db'.chain.governanceVotes.find? key = (voteRows ctx transaction).foldl (fun cell row =>
        if row.key = key then Table.putRow (m := Chain.Votes.setKind) cell row else cell)
      (db.chain.governanceVotes.find? key) := by
  cases transaction with
  | staking transaction =>
    have hput := (Chain.Votes.foldlM_insertVotesChunk (governs_of_step h).votes).2
    rw [flatten_chunks] at hput
    exact Table.find?_foldlM_put_eq_foldl hput key
  | cycle statuses executed payments =>
    obtain ⟨-,rfl⟩ := Transaction.step_cycle_eq_some.mp h
    rfl

/-- Every vote and every payment is about a stored proposal. -/
structure Referential (db : ChainDb) : Prop where
  votes : ∀ row ∈ db.governanceVotes.rows, row.proposalId ∈ db.governanceProposals.keys
  payments : ∀ row ∈ db.publicGoodFunding.rows, row.proposalId ∈ db.governanceProposals.keys

lemma vote_reference (r s : GovernanceProposalVoteDb) (h : r.key = s.key) :
    r.proposalId = s.proposalId := congrArg Prod.snd h

lemma mem_foldl_deleteContinuous {payments : List PgfPayment} {table : PublicGoodFunding}
    {row : PublicGoodFundingPaymentDb} :
    row ∈ (payments.foldl (fun table payment =>
        deleteContinuous table (payment.receipient.toString ctx.sdk)) table).rows ↔
      row ∈ table.rows ∧ ¬ (row.paymentRecurrence = .continuous ∧
        ∃ payment ∈ payments, payment.receipient.toString ctx.sdk = row.receipient) := by
  induction payments generalizing table with
  | nil => simp
  | cons payment payments ih =>
    rw [List.foldl_cons,ih,List.exists_mem_cons_iff]
    simp only [deleteContinuous,List.mem_filter,Bool.not_eq_true',Bool.and_eq_false_iff,
      beq_eq_false_iff_ne]
    by_cases hrow : row.receipient = payment.receipient.toString ctx.sdk
    · by_cases hcontinuous : row.paymentRecurrence = .continuous <;> simp [hrow,hcontinuous]
    · simp [hrow,Ne.symm hrow]

/-- What a transaction does to one payment. -/
lemma mem_funding_step {transaction : Transaction} {db db' : StakingDb}
    {row : PublicGoodFundingPaymentDb} (h : transaction.step ctx db = some db') :
    row ∈ db'.chain.publicGoodFunding.rows ↔
      (row.key ∉ db.chain.publicGoodFunding.keys ∧
        IsFirst PublicGoodFundingPaymentDb.key (paymentRows ctx transaction) row ∧
        ¬ EndsPayment ctx row transaction) ∨
      ¬ EndsPayment ctx row transaction ∧ row ∈ db.chain.publicGoodFunding.rows := by
  cases transaction with
  | staking transaction =>
    rw [(governs_of_step h).funding]
    simp [paymentRows,EndsPayment,IsFirst]
  | cycle statuses executed payments =>
    obtain ⟨-,rfl⟩ := Transaction.step_cycle_eq_some.mp h
    dsimp only
    rw [updatePgf,mem_foldl_deleteContinuous,Table.insertOrIgnore_rows,List.mem_append,
      Table.mem_fresh_iff]
    simp only [paymentRows,fundingRows,EndsPayment,List.mem_filter,and_assoc]
    rw [or_and_right,or_comm,and_assoc]
    exact or_congr_right and_comm

lemma referential_step {transaction : Transaction} {db db' : StakingDb}
    (hdb : Referential db.chain) (h : transaction.step ctx db = some db') :
    Referential db'.chain := by
  cases transaction with
  | staking transaction =>
    have hg := governs_of_step h
    obtain ⟨hchunks,hput⟩ := Chain.Votes.foldlM_insertVotesChunk hg.votes
    rw [flatten_chunks] at hput
    have hkept : ∀ id ∈ db.chain.governanceProposals.keys,
        id ∈ db'.chain.governanceProposals.keys :=
      fun id hid => (Table.mem_keys_upsert hg.proposals).mpr (.inl hid)
    constructor
    · refine Table.reference_foldlM_put vote_reference
        (fun row hrow => hkept _ (hdb.votes row hrow)) (fun row hrow => ?_) hput
      obtain ⟨vote,hvote,rfl⟩ := List.mem_map.mp hrow
      rw [←flatten_chunks (Chain.Votes.MAX_PARAM_SIZE / Chain.Votes.votesColCount)
        (votesOf ctx transaction)] at hvote
      obtain ⟨chunk,hchunk,hmem⟩ := List.mem_flatten.mp hvote
      exact List.mem_toFinset.mp ((hchunks chunk hchunk).2 vote hmem)
    · rw [hg.funding]
      exact fun row hrow => hkept _ (hdb.payments row hrow)
  | cycle statuses executed payments =>
    obtain ⟨hreferences,hdb'⟩ := Transaction.step_cycle_eq_some.mp h
    have hfunding : ∀ row, row ∈ db'.chain.publicGoodFunding.rows ↔ _ := fun _ => mem_funding_step h
    obtain rfl := hdb'
    rw [keys_afterCommit] at hreferences
    constructor
    · dsimp only
      rw [keys_afterCommit]
      exact hdb.votes
    · intro row hrow
      dsimp only
      rw [keys_afterCommit]
      rcases (hfunding row).mp hrow with ⟨hfresh,hfirst,-⟩ | ⟨-,hold⟩
      · exact (hreferences row hfirst.mem).resolve_left hfresh
      · exact hdb.payments row hold

section
variable {transactions : List Transaction} {db : StakingDb}
  (hrun : execute (Transaction.step ctx) .empty transactions = some db)
include hrun

lemma find?_proposal (id : Int32) : db.chain.governanceProposals.find? id =
    recordedProposal id (transactions.flatMap (proposalEvents ctx)) := by
  have hfold : db.chain.governanceProposals.find? id =
      (transactions.flatMap (proposalEvents ctx)).foldl (applyEvent id) none :=
    observe_execute (fun db : StakingDb => db.chain.governanceProposals.find? id)
      (fun _ _ _ h => find?_proposal_step id h) hrun
  simp only [recordedProposal,←map_proposed,←map_votes,←map_result,←hfold]
  cases hfind : db.chain.governanceProposals.find? id with
  | none => rfl
  | some row =>
    obtain rfl := (Table.find?_eq_some.mp hfind).2
    rfl

/-- Whatever comes later, a proposal keeps the columns of its first insertion. -/
lemma proposed_of_later {later : List Transaction} {db' : StakingDb} {row : GovernanceProposalDb}
    {id : Int32} (hlater : execute (Transaction.step ctx) db later = some db')
    (hrow : db.chain.governanceProposals.find? id = some row) :
    ∃ row', db'.chain.governanceProposals.find? id = some row' ∧ row'.proposed = row.proposed := by
  have hfold : ∀ {transactions : List Transaction} {db : StakingDb},
      execute (Transaction.step ctx) .empty transactions = some db →
      (db.chain.governanceProposals.find? id).map (·.proposed) =
        (proposedRegister id).read (transactions.flatMap (proposalEvents ctx)) := by
    intro transactions db hrun
    have hcell : db.chain.governanceProposals.find? id =
        (transactions.flatMap (proposalEvents ctx)).foldl (applyEvent id) none :=
      observe_execute (fun db : StakingDb => db.chain.governanceProposals.find? id)
        (fun _ _ _ h => find?_proposal_step id h) hrun
    rw [hcell,map_proposed]
  have hread := hfold hrun
  rw [hrow,Option.map_some] at hread
  have hkept := hfold (execute_append_eq_some.mpr ⟨db,hrun,hlater⟩)
  rw [List.flatMap_append,
    Register.read_append_of_never_written (fun _ => rfl) hread.symm] at hkept
  exact Option.map_eq_some_iff.mp hkept

lemma find?_vote (key : String × Int32) :
    db.chain.governanceVotes.find? key = lastVote ctx key transactions := by
  have hstep : ∀ db transaction db', Transaction.step ctx db transaction = some db' →
      db'.chain.governanceVotes.find? key = (voteRows ctx transaction).foldl (fun cell row =>
          if row.key = key then Table.putRow (m := Chain.Votes.setKind) cell row else cell)
        (db.chain.governanceVotes.find? key) := fun _ _ _ => find?_vote_step key
  have hfold := observe_execute (fun db : StakingDb => db.chain.governanceVotes.find? key) hstep
    hrun
  refine hfold.trans ((Table.foldl_putRow_replaces (fun _ _ => Chain.Votes.setKind_run) _
    (by rintro row ⟨⟩)).trans ?_)
  rw [lastVote]
  exact Option.or_none

lemma referential_of_execute : Referential db.chain :=
  execute_preserves (fun db : StakingDb => Referential db.chain) (fun _ _ _ => referential_step)
    ⟨fun _ hrow => absurd hrow List.not_mem_nil,fun _ hrow => absurd hrow List.not_mem_nil⟩ hrun

lemma mem_funding_iff {row : PublicGoodFundingPaymentDb} :
    row ∈ db.chain.publicGoodFunding.rows ↔ PaymentStored ctx row transactions :=
  holds_iff_since (p := fun db : StakingDb => row ∈ db.chain.publicGoodFunding.rows)
    (fun _ _ _ => mem_funding_step) (by simp [StakingDb.empty,ChainDb.empty]) hrun

end

/-- However the transactions of the crawlers come one after the other, a proposal keeps the columns
of its first insertion and has the result and the votes that were written last; a voter's vote is
the last one, on a stored proposal; and a payment is stored if and only if it was inserted and has
not been ended. -/
theorem governance_is_recorded (ctx : Context) (transactions : List Transaction) (db : StakingDb)
    (hrun : execute (Transaction.step ctx) .empty transactions = some db) :
    (∀ id, db.chain.governanceProposals.find? id =
      recordedProposal id (transactions.flatMap (proposalEvents ctx))) ∧
    (∀ key, db.chain.governanceVotes.find? key = lastVote ctx key transactions) ∧
    (∀ row, row ∈ db.chain.publicGoodFunding.rows ↔ PaymentStored ctx row transactions) ∧
    Referential db.chain :=
  ⟨find?_proposal hrun,find?_vote hrun,fun _ => mem_funding_iff hrun,referential_of_execute hrun⟩

end

/-- A proposal with a vote and nothing else. -/
def proposalData : Chain.InitialData where
  current := ⟨7,7,⟨[],[]⟩,.established "nam",1,Chain.Votes.voteBlock []⟩
  tokens := []
  rateLimits := []
  tokenSupplies := []
  balances := []
  validatorSet := []
  redelegations := []
  bonds := []
  unbonds := []
  proposals := [(Indexer.sampleProposal,.oneHalfOverOneThird)]
  votes := [⟨1,.yay,.account "bob"⟩]
  maspRates := []

def carolsPayment : PgfPayment := ⟨1,.continuous,.native,.account "carol",5,some .add⟩

/-- The proposal passes, is executed with a payment, and the payment is ended. -/
def governedRun : List Transaction :=
  [.staking (.initialQuery proposalData),
    .cycle [⟨1,.passed,"10","0","0"⟩] [] [],
    .cycle [] [(1,.executedPassed)] [carolsPayment],
    .cycle [] [] [{ carolsPayment with proposalId := 2, action := some .remove }]]

lemma exists_governedRun : ∃ db, execute (Transaction.step (Chain.sampleContext bondTx)) .empty
    governedRun = some db :=
  Option.isSome_iff_exists.mp (by decide +kernel)

theorem governance_of_governedRun :
    ∃ db, execute (Transaction.step (Chain.sampleContext bondTx)) .empty governedRun = some db ∧
      (db.chain.governanceProposals.find? 1).map (fun row => (row.result,row.yayVotes)) =
        some (.executedPassed,"10") ∧
      (db.chain.governanceVotes.find? ("bob",1)).map (·.kind) = some .yay := by
  obtain ⟨db,hrun⟩ := exists_governedRun
  obtain ⟨hproposals,hvotes,-⟩ :=
    governance_is_recorded (Chain.sampleContext bondTx) governedRun db hrun
  refine ⟨db,hrun,?_,?_⟩
  · rw [hproposals]
    decide +kernel
  · rw [hvotes]
    decide +kernel

end NamadaIndexer.Governance
