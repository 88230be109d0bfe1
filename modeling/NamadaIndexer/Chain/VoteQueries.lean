import Mathlib.Data.Finset.Union
import NamadaIndexer.Chain.Namada

/-! The votes on the running proposals, merged from the answers of the node. The answers come in
any order, and the answer for a proposal is a set of votes, so that a voter is counted once for
every different vote on it. -/
namespace NamadaIndexer.Chain
open NamadaIndexer.Foundation NamadaIndexer.Shared

/-- The first loop of `query_all_votes`. -/
def voterCount (votes : List GovernanceVote) : Id × UInt64 → UInt64 :=
  votes.foldl (fun count vote =>
    Function.update count (voterOf vote) (count (voterOf vote) + 1)) fun _ => 0

/-- The end of `query_all_votes`, on the sets of votes in the order of their arrival. -/
def mergedVotes (answers : List (List GovernanceVote)) : Finset GovernanceVote :=
  let votes := answers.flatten
  ((Table.fresh voterOf [] votes).map fun vote =>
    if 1 < voterCount votes (voterOf vote) then { vote with vote := .unknown } else vote).toFinset

section
variable (sdk : Sdk) (fetched : UInt64 → Option (Multiset (ProposalVoteKind × Address)))

/-- The votes that were fetched for a proposal, as a set. A query that failed for good has none. -/
def votesOf (id : UInt64) : Finset GovernanceVote :=
  match fetched id with
  | some votes =>
    (votes.map fun vote => (⟨id,vote.1,.ofAddress sdk vote.2⟩ : GovernanceVote)).toFinset
  | none => ∅

/-- The votes on all of the proposals. -/
def castVotes (proposalsIds : List UInt64) : Finset GovernanceVote :=
  proposalsIds.toFinset.biUnion (votesOf sdk fetched)

/-- The answers as they may arrive: one for each proposal whose query succeeded, in any order, and
every set visited in an order of its own. -/
structure Arrives (proposalsIds : List UInt64) (answers : List (UInt64 × List GovernanceVote)) :
    Prop where
  answered : (answers.map Prod.fst).Perm (proposalsIds.filter fun id => (fetched id).isSome)
  visited : ∀ answer ∈ answers, Enumerates answer.2 (votesOf sdk fetched answer.1)

end

/-- What is merged has exactly one vote of every voter on every proposal: the vote, if all of them
agree, and else an unknown one. -/
structure OneVote (cast merged : Finset GovernanceVote) : Prop where
  one : ∀ vote ∈ cast, ∃! other, other ∈ merged ∧ voterOf other = voterOf vote
  agreed : ∀ vote ∈ cast, (∀ other ∈ cast, voterOf other = voterOf vote → other = vote) →
    vote ∈ merged
  differing : ∀ vote ∈ cast, ∀ other ∈ cast, voterOf other = voterOf vote → other ≠ vote →
    { vote with vote := .unknown } ∈ merged
  only : ∀ vote ∈ merged, ∃ other ∈ cast, voterOf other = voterOf vote

lemma voterCount_eq (votes : List GovernanceVote) (voter : Id × UInt64) :
    voterCount votes voter = UInt64.ofNat (votes.countP fun vote => voterOf vote = voter) := by
  have hloop (count : Id × UInt64 → UInt64) :
      votes.foldl (fun count vote =>
        Function.update count (voterOf vote) (count (voterOf vote) + 1)) count voter =
        count voter + UInt64.ofNat (votes.countP fun vote => voterOf vote = voter) := by
    induction votes generalizing count with
    | nil => simp
    | cons vote votes ih =>
      rw [List.foldl_cons,ih,List.countP_cons]
      by_cases hvoter : voterOf vote = voter
      · rw [hvoter,Function.update_self,if_pos (decide_eq_true rfl),UInt64.ofNat_add]
        ac_rfl
      · simp [hvoter,Function.update_of_ne (Ne.symm hvoter)]
  exact (hloop fun _ => 0).trans (UInt64.zero_add _)

/-- A voter and a proposal leave only the vote itself open. -/
lemma vote_eq_iff {vote other : GovernanceVote} (h : voterOf other = voterOf vote) :
    other = vote ↔ other.vote = vote.vote := by
  cases vote
  cases other
  simp only [voterOf,Prod.mk.injEq] at h
  simp [h]

/-- In a set of votes a voter has at most four of them. -/
lemma countP_voterOf_le {votes : List GovernanceVote} (h : votes.Nodup) (voter : Id × UInt64) :
    (votes.countP fun vote => voterOf vote = voter) ≤ 4 := by
  rw [List.countP_eq_length_filter,←List.length_map (·.vote)]
  have hnodup : ((votes.filter fun vote => voterOf vote = voter).map (·.vote)).Nodup := by
    apply (h.filter _).map_on
    intro vote hvote other hother hkind
    have hvoter : voterOf vote = voter := by simpa using (List.mem_filter.mp hvote).2
    have hsame : voterOf other = voter := by simpa using (List.mem_filter.mp hother).2
    exact (vote_eq_iff (hvoter.trans hsame.symm)).mpr hkind
  have hsub : (votes.filter fun vote => voterOf vote = voter).map (·.vote) ⊆
      [.nay,.yay,.abstain,.unknown] := by
    intro kind _
    cases kind <;> simp
  exact (hnodup.subperm hsub).length_le

/-- The counter does not overflow. -/
lemma one_lt_voterCount_iff {votes : List GovernanceVote} (h : votes.Nodup)
    (voter : Id × UInt64) :
    1 < voterCount votes voter ↔ 1 < votes.countP fun vote => voterOf vote = voter := by
  have hle : (votes.countP fun vote => voterOf vote = voter) ≤ 4 := countP_voterOf_le h voter
  have hnat : (voterCount votes voter).toNat = votes.countP fun vote => voterOf vote = voter := by
    rw [voterCount_eq,UInt64.toNat_ofNat']
    exact Nat.mod_eq_of_lt (by omega)
  rw [UInt64.lt_iff_toNat_lt,hnat]
  rfl

/-- The count of a voter tells if two of the votes differ. -/
lemma one_lt_voterCount {votes : List GovernanceVote} (h : votes.Nodup) (voter : Id × UInt64) :
    1 < voterCount votes voter ↔
      ∃ vote ∈ votes, ∃ other ∈ votes, voterOf vote = voter ∧ voterOf other = voter ∧
        vote ≠ other := by
  rw [one_lt_voterCount_iff h,one_lt_countP_iff h]
  simp only [decide_eq_true_eq]

/-- The first vote of a voter passes the second loop. -/
lemma exists_first {votes : List GovernanceVote} {vote : GovernanceVote} (h : vote ∈ votes) :
    ∃ first ∈ Table.fresh voterOf [] votes, voterOf first = voterOf vote := by
  have hkeys := (@Table.mem_keys_fresh _ _ voterOf _ [] votes (voterOf vote)).mpr
    (.inr (List.mem_map_of_mem h))
  simpa using hkeys

section
variable {sdk : Sdk} {fetched : UInt64 → Option (Multiset (ProposalVoteKind × Address))}
  {proposalsIds : List UInt64} {answers : List (UInt64 × List GovernanceVote)}

lemma proposalId_of_mem_votesOf {id : UInt64} {vote : GovernanceVote}
    (h : vote ∈ votesOf sdk fetched id) : vote.proposalId = id := by
  unfold votesOf at h
  split at h
  · obtain ⟨other,-,rfl⟩ := Multiset.mem_map.mp (Multiset.mem_toFinset.mp h)
    rfl
  · exact absurd h (Finset.notMem_empty vote)

/-- The answers together visit every vote once. -/
lemma Arrives.enumerates (h : Arrives sdk fetched proposalsIds answers) (hids : proposalsIds.Nodup) :
    Enumerates (answers.map Prod.snd).flatten (castVotes sdk fetched proposalsIds) := by
  rw [←List.flatMap_def]
  constructor
  · refine @nodup_flatMap_of_labels _ _ _ Prod.fst GovernanceVote.proposalId _ _ ?_ ?_
    · exact h.answered.nodup_iff.mpr (hids.filter _)
    · intro answer hanswer
      have hvisited := h.visited answer hanswer
      refine ⟨hvisited.nodup,fun vote hvote => ?_⟩
      exact proposalId_of_mem_votesOf ((hvisited.mem_iff vote).mp hvote)
  · intro vote
    rw [castVotes,Finset.mem_biUnion,List.mem_flatMap]
    constructor
    · rintro ⟨answer,hanswer,hvote⟩
      have hid : answer.1 ∈ proposalsIds.filter fun id => (fetched id).isSome :=
        h.answered.mem_iff.mp (List.mem_map_of_mem hanswer)
      refine ⟨answer.1,List.mem_toFinset.mpr (List.mem_filter.mp hid).1,?_⟩
      exact ((h.visited answer hanswer).mem_iff vote).mp hvote
    · rintro ⟨id,hid,hvote⟩
      have hfetched : (fetched id).isSome := by
        cases hnone : fetched id with
        | none => simp [votesOf,hnone] at hvote
        | some votes => rfl
      have hanswered : id ∈ answers.map Prod.fst :=
        h.answered.mem_iff.mpr (List.mem_filter.mpr ⟨List.mem_toFinset.mp hid,hfetched⟩)
      obtain ⟨answer,hanswer,rfl⟩ := List.mem_map.mp hanswered
      exact ⟨answer,hanswer,((h.visited answer hanswer).mem_iff vote).mpr hvote⟩

end

/-- What is merged depends on the set of the votes only. -/
theorem mem_mergedVotes {answers : List (List GovernanceVote)} {cast : Finset GovernanceVote}
    (h : Enumerates answers.flatten cast) {vote : GovernanceVote} :
    vote ∈ mergedVotes answers ↔
      (vote ∈ cast ∧ ∀ other ∈ cast, voterOf other = voterOf vote → other = vote) ∨
        (vote.vote = .unknown ∧ ∃ other ∈ cast, ∃ third ∈ cast, voterOf other = voterOf vote ∧
          voterOf third = voterOf vote ∧ other ≠ third) := by
  have hcount (voter : Id × UInt64) : 1 < voterCount answers.flatten voter ↔
      ∃ vote ∈ cast, ∃ other ∈ cast, voterOf vote = voter ∧ voterOf other = voter ∧
        vote ≠ other := by
    rw [one_lt_voterCount h.nodup]
    simp only [h.mem_iff]
  rw [mergedVotes,List.mem_toFinset,List.mem_map]
  constructor
  · rintro ⟨first,hfirst,rfl⟩
    have hcast : first ∈ cast := (h.mem_iff first).mp (Table.mem_of_mem_fresh hfirst)
    split
    · rename_i hlt
      obtain ⟨other,hother,third,hthird,hvoter,hvoter',hne⟩ := (hcount _).mp hlt
      exact .inr ⟨rfl,other,hother,third,hthird,hvoter,hvoter',hne⟩
    · rename_i hle
      refine .inl ⟨hcast,fun other hother hvoter => ?_⟩
      by_contra hne
      exact hle ((hcount _).mpr ⟨other,hother,first,hcast,hvoter,rfl,hne⟩)
  · rintro (⟨hvote,hagree⟩ | ⟨hunknown,other,hother,third,hthird,hvoter,hvoter',hne⟩)
    · obtain ⟨first,hfirst,hsame⟩ := exists_first ((h.mem_iff vote).mpr hvote)
      have hcast : first ∈ cast := (h.mem_iff first).mp (Table.mem_of_mem_fresh hfirst)
      have heq : first = vote := hagree first hcast hsame
      subst heq
      refine ⟨first,hfirst,if_neg fun hlt => ?_⟩
      obtain ⟨other,hother,third,hthird,hvoter,hvoter',hne⟩ := (hcount _).mp hlt
      exact hne ((hagree other hother hvoter).trans (hagree third hthird hvoter').symm)
    · obtain ⟨first,hfirst,hfirstVoter⟩ := exists_first ((h.mem_iff other).mpr hother)
      have hsame : voterOf first = voterOf vote := hfirstVoter.trans hvoter
      refine ⟨first,hfirst,?_⟩
      rw [if_pos ((hcount _).mpr ⟨other,hother,third,hthird,hvoter.trans hsame.symm,
        hvoter'.trans hsame.symm,hne⟩)]
      exact (@vote_eq_iff vote { first with vote := .unknown } hsame).mpr
        hunknown.symm

theorem oneVote_mergedVotes {answers : List (List GovernanceVote)} {cast : Finset GovernanceVote}
    (h : Enumerates answers.flatten cast) : OneVote cast (mergedVotes answers) := by
  have hagreed (vote : GovernanceVote) (hvote : vote ∈ cast)
      (hagree : ∀ other ∈ cast, voterOf other = voterOf vote → other = vote) :
      vote ∈ mergedVotes answers :=
    (mem_mergedVotes h).mpr (.inl ⟨hvote,hagree⟩)
  have hdiffering (vote : GovernanceVote) (hvote : vote ∈ cast) (other : GovernanceVote)
      (hother : other ∈ cast) (hvoter : voterOf other = voterOf vote) (hne : other ≠ vote) :
      { vote with vote := .unknown } ∈ mergedVotes answers :=
    (mem_mergedVotes h).mpr (.inr ⟨rfl,other,hother,vote,hvote,hvoter,rfl,hne⟩)
  refine ⟨fun vote hvote => ?_,hagreed,hdiffering,fun vote hvote => ?_⟩
  · by_cases hagree : ∀ other ∈ cast, voterOf other = voterOf vote → other = vote
    · refine ⟨vote,⟨hagreed vote hvote hagree,rfl⟩,?_⟩
      rintro merged ⟨hmerged,hsame⟩
      rcases (mem_mergedVotes h).mp hmerged with ⟨hcast,-⟩ | ⟨-,a,ha,b,hb,hvoter,hvoter',hne⟩
      · exact hagree merged hcast hsame
      · have heq : a = vote := hagree a ha (hvoter.trans hsame)
        exact absurd (heq.trans (hagree b hb (hvoter'.trans hsame)).symm) hne
    · push Not at hagree
      obtain ⟨other,hother,hvoter,hne⟩ := hagree
      refine ⟨{ vote with vote := .unknown },⟨hdiffering vote hvote other hother hvoter hne,rfl⟩,?_⟩
      rintro merged ⟨hmerged,hsame⟩
      rcases (mem_mergedVotes h).mp hmerged with ⟨-,hagree⟩ | ⟨hunknown,-⟩
      · have heq : other = merged := hagree other hother (hvoter.trans hsame.symm)
        exact absurd (heq.trans (hagree vote hvote hsame.symm).symm) hne
      · exact (@vote_eq_iff { vote with vote := .unknown } merged hsame).mpr hunknown
  · rcases (mem_mergedVotes h).mp hvote with ⟨hcast,-⟩ | ⟨-,other,hother,-,-,hvoter,-⟩
    · exact ⟨vote,hcast,rfl⟩
    · exact ⟨other,hother,hvoter⟩

/-- Every voter has one vote on every proposal, whatever the answers are and in whatever order they
arrive. -/
theorem one_vote_per_voter (sdk : Sdk)
    (fetched : UInt64 → Option (Multiset (ProposalVoteKind × Address))) {proposalsIds : List UInt64}
    (hids : proposalsIds.Nodup) {answers : List (UInt64 × List GovernanceVote)}
    (harrive : Arrives sdk fetched proposalsIds answers) :
    OneVote (castVotes sdk fetched proposalsIds) (mergedVotes (answers.map Prod.snd)) ∧
      ∀ answers', Arrives sdk fetched proposalsIds answers' →
        mergedVotes (answers'.map Prod.snd) = mergedVotes (answers.map Prod.snd) := by
  refine ⟨oneVote_mergedVotes (harrive.enumerates hids),fun answers' harrive' => ?_⟩
  ext vote
  rw [mem_mergedVotes (harrive'.enumerates hids),mem_mergedVotes (harrive.enumerates hids)]

/-- The votes of two voters on a proposal, of whom the first voted twice. -/
def fetchedSample (_ : UInt64) : Option (Multiset (ProposalVoteKind × Address)) :=
  some ↑[(ProposalVoteKind.yay,Address.implicit "ann"),(.yay,.implicit "bob"),(.nay,.implicit "ann")]

def answersSample : List (UInt64 × List GovernanceVote) :=
  [(3,[⟨3,.yay,.account (sampleEncode (.implicit "ann"))⟩,
    ⟨3,.yay,.account (sampleEncode (.implicit "bob"))⟩,
    ⟨3,.nay,.account (sampleEncode (.implicit "ann"))⟩])]

theorem one_vote_per_voter_sample :
    OneVote (castVotes Sdk.sample fetchedSample [3]) (mergedVotes (answersSample.map Prod.snd)) ∧
      ∀ answers', Arrives Sdk.sample fetchedSample [3] answers' →
        mergedVotes (answers'.map Prod.snd) = mergedVotes (answersSample.map Prod.snd) := by
  refine one_vote_per_voter Sdk.sample fetchedSample (by decide) ⟨List.Perm.refl _,?_⟩
  intro answer hanswer
  obtain rfl := List.mem_singleton.mp hanswer
  exact ⟨by decide,fun vote => by simp [votesOf,fetchedSample,Id.ofAddress,Sdk.sample]⟩

/-- The votes that a node gives for a proposal. -/
def Client.fetchedVotes (client : Client) (id : UInt64) :
    Option (Multiset (ProposalVoteKind × Address)) :=
  (client.ask (.proposalVotes id) (client.node.proposalVotes id)).map Multiset.ofList

section
variable (ctx : Context) (client : Client)

/-- The answers of a node, one after the other. -/
def answersOf (proposalsIds : List UInt64) : List (UInt64 × List GovernanceVote) :=
  proposalsIds.filterMap fun id =>
    (client.ask (.proposalVotes id) (client.node.proposalVotes id)).map fun votes =>
      (id,ctx.order.visit (votes.map fun vote => ⟨id,vote.1,.ofAddress ctx.sdk vote.2⟩))

lemma arrives_answersOf (proposalsIds : List UInt64) :
    Arrives ctx.sdk client.fetchedVotes proposalsIds (answersOf ctx client proposalsIds) := by
  constructor
  · have hids : (answersOf ctx client proposalsIds).map Prod.fst =
        proposalsIds.filter fun id => (client.fetchedVotes id).isSome := by
      rw [answersOf,List.map_filterMap,←List.filterMap_eq_filter]
      refine List.filterMap_congr fun id _ => ?_
      cases hask : client.ask (.proposalVotes id) (client.node.proposalVotes id) with
      | none => simp [Option.guard,Client.fetchedVotes,hask]
      | some votes => simp [Option.guard,Client.fetchedVotes,hask]
    rw [hids]
  · intro answer hanswer
    obtain ⟨id,-,hanswer⟩ := List.mem_filterMap.mp hanswer
    obtain ⟨votes,hvotes,rfl⟩ := Option.map_eq_some_iff.mp hanswer
    have hof : votesOf ctx.sdk client.fetchedVotes id =
        (votes.map fun vote => (⟨id,vote.1,.ofAddress ctx.sdk vote.2⟩ : GovernanceVote)).toFinset := by
      rw [votesOf,Client.fetchedVotes,hvotes]
      rfl
    exact hof ▸ ctx.order.enumerates _

/-- The votes of the initial query are merged so. -/
theorem oneVote_queryAllVotes {proposalsIds : List UInt64} (hids : proposalsIds.Nodup) :
    OneVote (castVotes ctx.sdk client.fetchedVotes proposalsIds)
      (queryAllVotes ctx client proposalsIds).toFinset := by
  have henumerates := (arrives_answersOf ctx client proposalsIds).enumerates hids
  have hanswers : (answersOf ctx client proposalsIds).map Prod.snd = proposalsIds.filterMap fun id =>
      (client.ask (.proposalVotes id) (client.node.proposalVotes id)).map fun votes =>
        ctx.order.visit (votes.map fun vote => ⟨id,vote.1,.ofAddress ctx.sdk vote.2⟩) := by
    rw [answersOf,List.map_filterMap]
    simp only [Option.map_map,Function.comp_def]
  have hmerged : (queryAllVotes ctx client proposalsIds).toFinset =
      mergedVotes ((answersOf ctx client proposalsIds).map Prod.snd) := by
    ext vote
    rw [queryAllVotes,←hanswers,mergedVotes,List.mem_toFinset,List.mem_toFinset,ctx.order.mem_visit]
    simp only [one_lt_voterCount_iff henumerates.nodup]
  rw [hmerged]
  exact oneVote_mergedVotes henumerates

end
end NamadaIndexer.Chain
