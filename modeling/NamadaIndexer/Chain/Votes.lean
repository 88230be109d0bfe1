import NamadaIndexer.Foundation.Iteration
import NamadaIndexer.Foundation.KeyedTable
import NamadaIndexer.Shared.Block

/-! The votes of a block: collected into a set of whole votes, stored under the voter and
the proposal. -/
namespace NamadaIndexer.Chain.Votes
open NamadaIndexer.Foundation NamadaIndexer.Shared

inductive GovernanceVoteKindDb
  | nay
  | yay
  | abstain
  | unknown
  deriving DecidableEq, Repr

def GovernanceVoteKindDb.ofKind : ProposalVoteKind → GovernanceVoteKindDb
  | .nay => .nay
  | .yay => .yay
  | .abstain => .abstain
  | .unknown => .unknown

/-- A row of `governance_votes`, up to its surrogate id. -/
structure GovernanceProposalVoteDb where
  voterAddress : String
  kind : GovernanceVoteKindDb
  proposalId : Int32
  deriving DecidableEq, Repr

/-- `UNIQUE (voter_address, proposal_id)` -/
def GovernanceProposalVoteDb.key (row : GovernanceProposalVoteDb) : String × Int32 :=
  (row.voterAddress,row.proposalId)

abbrev GovernanceVotes := Table GovernanceProposalVoteDb.key

/-- `GovernanceProposalVoteInsertDb::from_governance_vote` -/
def fromGovernanceVote (sdk : Sdk) (vote : GovernanceVote) : GovernanceProposalVoteDb where
  voterAddress := vote.address.toString sdk
  kind := .ofKind vote.vote
  proposalId := asI32 vote.proposalId

/-- `SET kind = excluded.kind` -/
def setKind : Table.Merge GovernanceProposalVoteDb.key where
  run old new := some { old with kind := new.kind }
  key_run := by
    rintro old new row ⟨⟩
    rfl

def MAX_PARAM_SIZE : ℕ := 65535

/-- `governance_votes::all_columns.len()` -/
def votesColCount : ℕ := 4

section
variable (sdk : Sdk) (proposalIds : Finset Int32)

/-- `insert_votes_chunk`. Every row must refer to a row of `governance_proposals`. -/
def insertVotesChunk (table : GovernanceVotes) (votes : List GovernanceVote) :
    Option GovernanceVotes :=
  let rows := votes.map (fromGovernanceVote sdk)
  if ∀ row ∈ rows, row.proposalId ∈ proposalIds then Table.upsert setKind table rows else none

/-- `insert_votes`, for one order of iteration over the set of votes. -/
def insertVotes (table : GovernanceVotes) (votes : List GovernanceVote) : Option GovernanceVotes :=
  (chunks (MAX_PARAM_SIZE / votesColCount) votes).foldlM (insertVotesChunk sdk proposalIds) table

/-- The key under which a vote is stored. -/
def voteKey (vote : GovernanceVote) : String × Int32 := (fromGovernanceVote sdk vote).key

/-- Each voter and proposal of the block has the row of the last vote, every other row is
unchanged. -/
def VotesRecorded (votesInOrder : List GovernanceVote) (before after : GovernanceVotes) : Prop :=
  ∀ key, after.find? key =
    match votesInOrder.reverse.find? (fun vote => voteKey sdk vote = key) with
    | some vote => some (fromGovernanceVote sdk vote)
    | none => before.find? key

/-- Nobody changes their mind within the block, and the proposals voted on are stored. -/
structure Storable (votesInOrder : List GovernanceVote) : Prop where
  oneVote : ∀ v ∈ votesInOrder, ∀ w ∈ votesInOrder, voteKey sdk v = voteKey sdk w → v = w
  proposalKnown : ∀ v ∈ votesInOrder, asI32 v.proposalId ∈ proposalIds

end

section
variable {sdk : Sdk} {proposalIds : Finset Int32}

/-- A chunk that goes in has distinct keys and known proposals. -/
lemma insertVotesChunk_eq_some {table after : GovernanceVotes} {votes : List GovernanceVote} :
    insertVotesChunk sdk proposalIds table votes = some after ↔
      (∀ vote ∈ votes, asI32 vote.proposalId ∈ proposalIds) ∧
      (votes.map (voteKey sdk)).Nodup ∧
      (votes.map (fromGovernanceVote sdk)).foldlM (Table.put setKind) table = some after := by
  have hkeys : (votes.map (fromGovernanceVote sdk)).map GovernanceProposalVoteDb.key =
      votes.map (voteKey sdk) := by
    rw [List.map_map]; rfl
  have hknown : (∀ row ∈ votes.map (fromGovernanceVote sdk), row.proposalId ∈ proposalIds) ↔
      ∀ vote ∈ votes, asI32 vote.proposalId ∈ proposalIds := by
    rw [List.forall_mem_map]
    rfl
  unfold insertVotesChunk
  dsimp only
  split
  · rename_i h
    rw [Table.upsert_eq_some,hkeys]
    exact ⟨fun hrest => ⟨hknown.mp h,hrest⟩,fun hrest => hrest.2⟩
  · rename_i h
    exact ⟨fun hrest => absurd hrest (by simp),fun hrest => absurd (hknown.mpr hrest.1) h⟩

/-- The chunks of an insertion together: known proposals, and one row put after the other. -/
lemma foldlM_insertVotesChunk {lists : List (List GovernanceVote)}
    {table after : GovernanceVotes}
    (h : lists.foldlM (insertVotesChunk sdk proposalIds) table = some after) :
    (∀ list ∈ lists, (list.map (voteKey sdk)).Nodup ∧
      ∀ vote ∈ list, asI32 vote.proposalId ∈ proposalIds) ∧
    (lists.flatten.map (fromGovernanceVote sdk)).foldlM (Table.put setKind) table = some after := by
  induction lists generalizing table with
  | nil => cases h; exact ⟨by simp,rfl⟩
  | cons list lists ih =>
    obtain ⟨mid,hmid,hrest⟩ := Option.bind_eq_some_iff.mp (by simpa using h)
    obtain ⟨hknown,hnodup,hput⟩ := insertVotesChunk_eq_some.mp hmid
    obtain ⟨hlists,hputs⟩ := ih hrest
    refine ⟨List.forall_mem_cons.mpr ⟨⟨hnodup,hknown⟩,hlists⟩,?_⟩
    rw [List.flatten_cons,List.map_append,List.foldlM_append,hput]
    exact hputs

lemma foldlM_insertVotesChunk_of_put {lists : List (List GovernanceVote)}
    {table after : GovernanceVotes}
    (hlists : ∀ list ∈ lists, (list.map (voteKey sdk)).Nodup ∧
      ∀ vote ∈ list, asI32 vote.proposalId ∈ proposalIds)
    (hput : (lists.flatten.map (fromGovernanceVote sdk)).foldlM (Table.put setKind) table =
      some after) :
    lists.foldlM (insertVotesChunk sdk proposalIds) table = some after := by
  induction lists generalizing table with
  | nil => exact hput
  | cons list lists ih =>
    rw [List.flatten_cons,List.map_append,List.foldlM_append] at hput
    obtain ⟨mid,hmid,hrest⟩ := Option.bind_eq_some_iff.mp hput
    obtain ⟨hnodup,hknown⟩ := hlists list List.mem_cons_self
    rw [List.foldlM_cons,insertVotesChunk_eq_some.mpr ⟨hknown,hnodup,hmid⟩]
    exact ih (fun l hl => hlists l (List.mem_cons_of_mem _ hl)) hrest

/-- Votes that can be stored have distinct keys in every order. -/
lemma Storable.nodup {votesInOrder order : List GovernanceVote}
    (h : Storable sdk proposalIds votesInOrder) (horder : Enumerates order votesInOrder.toFinset) :
    (order.map (voteKey sdk)).Nodup := by
  have hmem : ∀ v ∈ order, v ∈ votesInOrder := fun v hv =>
    List.mem_toFinset.mp ((horder.mem_iff v).mp hv)
  exact horder.nodup.map_on fun v hv w hw => h.oneVote v (hmem v hv) w (hmem w hw)

/-- Votes that can be stored are inserted in every order of iteration. -/
lemma Storable.insertVotes {votesInOrder order : List GovernanceVote}
    (h : Storable sdk proposalIds votesInOrder) (horder : Enumerates order votesInOrder.toFinset)
    (table : GovernanceVotes) :
    ∃ after, insertVotes sdk proposalIds table order = some after ∧
      (order.map (fromGovernanceVote sdk)).foldlM (Table.put setKind) table = some after := by
  have htotal : setKind.Total := fun old new => ⟨_,rfl⟩
  obtain ⟨after,hafter⟩ := Table.foldlM_put_total htotal (order.map (fromGovernanceVote sdk)) table
  refine ⟨after,foldlM_insertVotesChunk_of_put ?_ (by rw [flatten_chunks]; exact hafter),hafter⟩
  intro list hlist
  have hsub : list.Sublist order := by
    have hflat := List.sublist_flatten_of_mem hlist
    rwa [flatten_chunks] at hflat
  refine ⟨(hsub.map (voteKey sdk)).nodup (h.nodup horder),?_⟩
  intro v hv
  exact h.proposalKnown v (List.mem_toFinset.mp ((horder.mem_iff v).mp (hsub.subset hv)))

/-- A stored vote under a new kind is the new vote's row. -/
lemma setKind_run {old new : GovernanceProposalVoteDb} (h : old.key = new.key) :
    setKind.run old new = some new := by
  obtain ⟨voter,kind,proposal⟩ := old
  obtain ⟨voter',kind',proposal'⟩ := new
  obtain ⟨rfl,rfl⟩ : voter = voter' ∧ proposal = proposal' := Prod.mk.inj h
  rfl

lemma Storable.recorded {votesInOrder order : List GovernanceVote}
    (h : Storable sdk proposalIds votesInOrder) (horder : Enumerates order votesInOrder.toFinset)
    {before after : GovernanceVotes}
    (hput : (order.map (fromGovernanceVote sdk)).foldlM (Table.put setKind) before = some after) :
    VotesRecorded sdk votesInOrder before after := by
  have hmem : ∀ v, v ∈ order ↔ v ∈ votesInOrder := fun v =>
    (horder.mem_iff v).trans List.mem_toFinset
  have hnodup : ((order.map (fromGovernanceVote sdk)).map GovernanceProposalVoteDb.key).Nodup := by
    rw [List.map_map]
    exact h.nodup horder
  intro key
  rw [Table.find?_foldlM_put hnodup hput]
  cases hlast : votesInOrder.reverse.find? (fun vote => voteKey sdk vote = key) with
  | none =>
    have hnone : (order.map (fromGovernanceVote sdk)).find? (fun row => row.key = key) = none := by
      rw [List.find?_eq_none,List.forall_mem_map]
      intro v hv
      have hother := List.find?_eq_none.mp hlast v (List.mem_reverse.mpr ((hmem v).mp hv))
      exact hother
    rw [hnone]
  | some last =>
    have hkey : voteKey sdk last = key := by simpa using List.find?_some hlast
    have hlastmem : last ∈ votesInOrder := List.mem_reverse.mp (List.mem_of_find?_eq_some hlast)
    have hsome : (order.map (fromGovernanceVote sdk)).find? (fun row => row.key = key) =
        some (fromGovernanceVote sdk last) :=
      (Table.find?_key_eq_some hnodup).mpr
        ⟨List.mem_map_of_mem ((hmem last).mpr hlastmem),hkey⟩
    rw [hsome]
    dsimp only
    cases hold : before.find? key with
    | none => rfl
    | some old => exact setKind_run ((Table.find?_eq_some.mp hold).2.trans hkey.symm)

/-- The votes of a block are stored as they were cast, whatever the order of iteration over
the extracted set, if and only if they can be: no voter has two different votes on one
proposal in the block, and every proposal voted on is in the database. -/
theorem votes_recorded_iff (sdk : Sdk) (proposalIds : Finset Int32) (block : Block)
    (table : GovernanceVotes) :
    (∀ order, Enumerates order (block.governanceVotes sdk) → ∃ after,
      insertVotes sdk proposalIds table order = some after ∧
      VotesRecorded sdk (block.votesInOrder sdk) table after) ↔
    Storable sdk proposalIds (block.votesInOrder sdk) := by
  constructor
  · intro h
    have hsuccess : ∀ order, Enumerates order (block.governanceVotes sdk) →
        ∀ list ∈ chunks (MAX_PARAM_SIZE / votesColCount) order,
          (list.map (voteKey sdk)).Nodup ∧ ∀ vote ∈ list, asI32 vote.proposalId ∈ proposalIds := by
      intro order horder
      obtain ⟨after,hafter,-⟩ := h order horder
      exact (foldlM_insertVotesChunk hafter).1
    constructor
    · intro v hv w hw hkey
      by_contra hne
      obtain ⟨rest,hrest⟩ := exists_enumerates_pair (enumerates_dedup (block.votesInOrder sdk))
        (List.mem_toFinset.mpr hv) (List.mem_toFinset.mpr hw) hne
      have hfirst := (hsuccess _ hrest (v :: w :: rest.take 16381) (by
        rw [chunks_cons]
        exact List.mem_cons_self)).1
      rw [List.map_cons,List.map_cons,hkey,List.nodup_cons] at hfirst
      exact hfirst.1 List.mem_cons_self
    · intro v hv
      have horder := enumerates_dedup (block.votesInOrder sdk)
      have hmem : v ∈ (chunks (MAX_PARAM_SIZE / votesColCount)
          (block.votesInOrder sdk).dedup).flatten := by
        rw [flatten_chunks]
        exact List.mem_dedup.mpr hv
      obtain ⟨list,hlist,hvlist⟩ := List.mem_flatten.mp hmem
      exact (hsuccess _ horder list hlist).2 v hvlist
  · intro h order horder
    obtain ⟨after,hafter,hput⟩ := h.insertVotes horder table
    exact ⟨after,hafter,h.recorded horder hput⟩

end

/-- A vote of `voter` on proposal 3. -/
def voteTx (txId : String) (voter : String) (vote : ProposalVote) : InnerTransaction where
  txId := .hash txId
  index := 0
  wrapperId := .hash ""
  kind := .proposalVote (some ⟨3,vote,.implicit voter⟩)
  memo := none
  data := none
  extraSections := []
  notes := 0
  exitCode := .applied

def voteBlock (txs : List InnerTransaction) : Block where
  hash := .hash ""
  header := ⟨7,"",none,0,.hash ""⟩
  transactions := [(⟨.hash "",0,⟨"",none,"",.hash "",.hash "",none⟩,false,7,.applied,0,0⟩,txs)]
  epoch := 1

/-- A voter who votes yay and then nay on one proposal makes the block impossible to commit. -/
theorem change_of_mind_is_not_stored :
    ¬ ∀ order, Enumerates order ((voteBlock [voteTx "1" "alice" .yay,
        voteTx "2" "alice" .nay]).governanceVotes Sdk.sample) → ∃ after,
      insertVotes Sdk.sample {3} Table.empty order = some after ∧
      VotesRecorded Sdk.sample ((voteBlock [voteTx "1" "alice" .yay,
        voteTx "2" "alice" .nay]).votesInOrder Sdk.sample) Table.empty after := by
  intro h
  obtain ⟨after,hafter,-⟩ := h [⟨3,.yay,.account "tnam1zalice"⟩,⟨3,.nay,.account "tnam1zalice"⟩]
    ⟨by decide,fun _ => List.mem_toFinset.symm⟩
  have hchunk := (foldlM_insertVotesChunk hafter).1
    [⟨3,.yay,.account "tnam1zalice"⟩,⟨3,.nay,.account "tnam1zalice"⟩] (by
      rw [chunks_cons]
      exact List.mem_cons_self)
  exact absurd hchunk.1 (by decide)

end NamadaIndexer.Chain.Votes
