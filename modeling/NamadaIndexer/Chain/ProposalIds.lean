import NamadaIndexer.Chain.Repository

/-! The ids of the proposals of a block. The crawler counts on from the counter that the chain had
before the block, for every proposal whose data it can read; the column of the ids has 32 bits. -/
namespace NamadaIndexer.Chain
open NamadaIndexer.Foundation NamadaIndexer.Shared NamadaIndexer.Governance

/-- A transaction that submits a proposal, whether its data is read or not. -/
def isInitProposal (tx : InnerTransaction) : Bool :=
  match tx.kind with
  | .initProposal _ => true
  | _ => false

/-- The proposals of the chain: each successful one takes the next id. -/
def assigned (counter : ℕ) (txs : List InnerTransaction) : List (InnerTransaction × ℕ) :=
  (txs.filter isInitProposal).zipIdx counter

section
variable (sdk : Sdk) (format : ProposalFormat)

/-- The proposal is the one of the transaction, and its row has the id that the chain assigned. -/
structure Follows (entry : InnerTransaction × ℕ) (proposal : GovernanceProposal) : Prop where
  own : Block.proposalOf sdk format entry.1 proposal.id = some proposal
  stored : ∀ tallyType, (fromGovernanceProposal sdk proposal tallyType).id.toInt = entry.2

/-- The proposals of a block are those of the chain, in order and under its ids. -/
def IdsFollow (block : Block) (counter : UInt64) : Prop :=
  List.Forall₂ (Follows sdk format) (assigned counter.toNat block.successfulInnerTxs)
    (block.governanceProposal sdk format counter)

/-- The data of every submitted proposal is read, and the ids fit their column. -/
structure IdsFit (txs : List InnerTransaction) (counter : ℕ) : Prop where
  read : ∀ tx ∈ txs, tx.kind ≠ .initProposal none
  fit : txs.countP isInitProposal = 0 ∨ counter + txs.countP isInitProposal ≤ 2^31

end

section
variable {sdk : Sdk} {format : ProposalFormat}

lemma proposalOf_eq_none {tx : InnerTransaction} {id : UInt64} :
    Block.proposalOf sdk format tx id = none ↔ ∀ data, tx.kind ≠ .initProposal (some data) := by
  unfold Block.proposalOf
  split
  · rename_i data hkind
    simp [hkind]
  · rename_i hother
    simpa using hother

/-- A transaction that submits nothing takes no id and has no proposal. -/
lemma proposalsFrom_cons_of_not {tx : InnerTransaction} {txs : List InnerTransaction}
    {counter : UInt64} (h : isInitProposal tx = false) :
    Block.proposalsFrom sdk format counter (tx::txs) =
      Block.proposalsFrom sdk format counter txs := by
  have hnone : Block.proposalOf sdk format tx counter = none := by
    rw [proposalOf_eq_none]
    intro data hkind
    simp [isInitProposal,hkind] at h
  rw [Block.proposalsFrom,hnone]

/-- A proposal whose data is read takes the counter. -/
lemma proposalsFrom_cons_of_read {tx : InnerTransaction} {txs : List InnerTransaction}
    {counter : UInt64} {data : InitProposalData} (h : tx.kind = .initProposal (some data)) :
    ∃ proposal, Block.proposalOf sdk format tx counter = some proposal ∧ proposal.id = counter ∧
      Block.proposalsFrom sdk format counter (tx::txs) =
        proposal :: Block.proposalsFrom sdk format (counter+1) txs := by
  rw [Block.proposalsFrom,Block.proposalOf,h]
  exact ⟨_,rfl,rfl,rfl⟩

lemma exists_kind_of_isInitProposal {tx : InnerTransaction} (h : isInitProposal tx = true) :
    ∃ data, tx.kind = .initProposal data := by
  unfold isInitProposal at h
  split at h
  · exact ⟨_,‹_›⟩
  · contradiction

lemma assigned_cons_of_not {tx : InnerTransaction} (txs : List InnerTransaction) (counter : ℕ)
    (h : isInitProposal tx = false) : assigned counter (tx::txs) = assigned counter txs := by
  rw [assigned,List.filter_cons_of_neg (by simp [h]),assigned]

lemma assigned_cons {tx : InnerTransaction} (txs : List InnerTransaction) (counter : ℕ)
    (h : isInitProposal tx = true) :
    assigned counter (tx::txs) = (tx,counter) :: assigned (counter+1) txs := by
  rw [assigned,List.filter_cons_of_pos h,List.zipIdx_cons,assigned]

lemma idsFit_cons_of_not {tx : InnerTransaction} (txs : List InnerTransaction) (counter : ℕ)
    (h : isInitProposal tx = false) : IdsFit (tx::txs) counter ↔ IdsFit txs counter := by
  have hcount : (tx::txs).countP isInitProposal = txs.countP isInitProposal :=
    List.countP_cons_of_neg (by simp [h])
  constructor
  · rintro ⟨hread,hfit⟩
    exact ⟨(List.forall_mem_cons.mp hread).2,by rwa [hcount] at hfit⟩
  · rintro ⟨hread,hfit⟩
    refine ⟨List.forall_mem_cons.mpr ⟨?_,hread⟩,by rwa [hcount]⟩
    intro hkind
    simp [isInitProposal,hkind] at h

lemma idsFit_cons_of_read {tx : InnerTransaction} (txs : List InnerTransaction) (counter : ℕ)
    {data : InitProposalData} (h : tx.kind = .initProposal (some data)) :
    IdsFit (tx::txs) counter ↔ counter < 2^31 ∧ IdsFit txs (counter+1) := by
  have hcount : (tx::txs).countP isInitProposal = txs.countP isInitProposal + 1 :=
    List.countP_cons_of_pos (by simp [isInitProposal,h])
  constructor
  · rintro ⟨hread,hfit⟩
    exact ⟨by omega,(List.forall_mem_cons.mp hread).2,by omega⟩
  · rintro ⟨hlt,hread,hfit⟩
    exact ⟨List.forall_mem_cons.mpr ⟨by simp [h],hread⟩,by omega⟩

/-- The transaction's own proposal has the chain's id if the id fits the column. -/
lemma follows_iff {tx : InnerTransaction} {proposal : GovernanceProposal} {counter : UInt64}
    (howned : Block.proposalOf sdk format tx counter = some proposal)
    (hid : proposal.id = counter) :
    Follows sdk format (tx,counter.toNat) proposal ↔ counter.toNat < 2^31 := by
  rw [←hid] at howned ⊢
  constructor
  · rintro ⟨-,hstored⟩
    exact toInt_asI32_iff.mp (hstored .twoFifths)
  · intro hlt
    exact ⟨howned,fun _ => toInt_asI32_iff.mpr hlt⟩

/-- Along the transactions, with the counter before each of them. -/
theorem idsFollow_from (txs : List InnerTransaction) (counter : UInt64) :
    List.Forall₂ (Follows sdk format) (assigned counter.toNat txs)
        (Block.proposalsFrom sdk format counter txs) ↔
      IdsFit txs counter.toNat := by
  induction txs generalizing counter with
  | nil => exact ⟨fun _ => ⟨by simp,.inl rfl⟩,fun _ => .nil⟩
  | cons tx txs ih =>
    cases hinit : isInitProposal tx with
    | false =>
      rw [assigned_cons_of_not txs _ hinit,proposalsFrom_cons_of_not hinit,
        idsFit_cons_of_not txs _ hinit]
      exact ih counter
    | true =>
      rw [assigned_cons txs _ hinit]
      obtain ⟨data,hkind⟩ := exists_kind_of_isInitProposal hinit
      cases data with
      | none =>
        -- the first proposal, if there is one, belongs to a later transaction
        constructor
        · intro h
          obtain ⟨proposal,_,hfollows,-,-⟩ := List.forall₂_cons_left_iff.mp h
          have hnone : Block.proposalOf sdk format tx proposal.id = none :=
            proposalOf_eq_none.mpr (by simp [hkind])
          rw [hfollows.own] at hnone
          contradiction
        · rintro ⟨hread,-⟩
          exact (hread tx List.mem_cons_self hkind).elim
      | some data =>
        obtain ⟨proposal,howned,hid,hfrom⟩ :=
          @proposalsFrom_cons_of_read sdk format tx txs counter data hkind
        rw [hfrom,List.forall₂_cons,follows_iff howned hid,idsFit_cons_of_read txs _ hkind]
        refine and_congr_right fun hlt => ?_
        have hnext : (counter+1).toNat = counter.toNat + 1 := by
          rw [UInt64.toNat_add]
          exact Nat.mod_eq_of_lt (by change _ + 1 < 2^64; omega)
        rw [←hnext]
        exact ih (counter+1)

end

/-- The proposals of a block have the chain's ids exactly if all of their data is read and the
ids fit the column. -/
theorem proposal_ids_follow_iff (sdk : Sdk) (format : ProposalFormat) (block : Block)
    (counter : UInt64) :
    IdsFollow sdk format block counter ↔ IdsFit block.successfulInnerTxs counter.toNat :=
  idsFollow_from block.successfulInnerTxs counter

/-- A batch of proposals, of some of which the data is not read. -/
def proposalBlock (batch : List (Option InitProposalData)) : Block :=
  Votes.voteBlock (batch.map fun data =>
    { Votes.voteTx "1" "author" .yay with kind := .initProposal data })

def sampleProposal : InitProposalData :=
  ⟨⟨"content"⟩,.implicit "author",.default,2,4,6⟩

/-- An id of more than 31 bits is stored as another one, and a proposal whose data is not read
shifts the ids of the later ones. -/
theorem proposal_ids_part :
    ¬ IdsFollow Sdk.sample .sample (proposalBlock [some sampleProposal]) 2147483648 ∧
      ¬ IdsFollow Sdk.sample .sample (proposalBlock [none,some sampleProposal]) 0 := by
  constructor
  · intro h
    obtain hnone | hfit := ((idsFollow_from _ _).mp h).fit
    · revert hnone
      decide +kernel
    · revert hfit
      decide +kernel
  · intro h
    have hread := ((idsFollow_from _ _).mp h).read
    revert hread
    decide +kernel

end NamadaIndexer.Chain
