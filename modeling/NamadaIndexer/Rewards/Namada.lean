import NamadaIndexer.Foundation.Iteration
import NamadaIndexer.Shared.BalanceChanges

/-! The queries of the rewards crawler. The pairs are asked in batches, and a batch that fails
would be asked again; but a query that fails only leaves its pair out, and no batch ever fails. -/
namespace NamadaIndexer.Rewards
open NamadaIndexer.Foundation NamadaIndexer.Shared

structure DelegationPair where
  validatorAddress : Id
  delegatorAddress : Id
  deriving DecidableEq, Repr

structure Reward where
  delegationPair : DelegationPair
  amount : Amount
  epoch : Int32
  deriving DecidableEq, Repr

section
variable (sdk : Sdk)

/-- `query_delegation_pairs`, on the sources and validators of the bonds and unbonds of the node,
if its query succeeds. -/
def queryDelegationPairs (data : Option (List (Address × Address))) :
    Option (List DelegationPair) :=
  data.map fun bondIds => bondIds.flatMap fun bondId =>
    [⟨.ofAddress sdk bondId.2,.ofAddress sdk bondId.1⟩,
      ⟨.ofAddress sdk bondId.2,.ofAddress sdk bondId.2⟩]

section
variable (completion : CompletionOrder)
/- the answer of the node to the query for a pair in the attempt of this number -/
variable (rpc : ℕ → DelegationPair → Option Amount) (epoch : Epoch)

/-- One pair of `process_batch`: a query that failed leaves the pair out. -/
def queryReward (attempt : ℕ) (delegation : DelegationPair) : Panicking (Option Reward) := do
  let _ ← delegation.validatorAddress.toAddress sdk
  let _ ← delegation.delegatorAddress.toAddress sdk
  return (rpc attempt delegation).map fun reward => ⟨delegation,reward,epoch.toInt32⟩

def processBatch (attempt : ℕ) (batch : List DelegationPair) :
    Panicking (Except String (List Reward)) := do
  let rewards ← batch.mapM (queryReward sdk rpc epoch attempt)
  return .ok (completion.complete rewards.reduceOption)

/-- The loop of `process_batch_with_retries`. -/
def processBatchWithRetries (batch : List DelegationPair) (retries : ℕ) :
    Panicking (Except String (List Reward)) := do
  match ← processBatch sdk completion rpc epoch retries batch with
  | .ok rewards => return .ok rewards
  | .error err =>
    if 3 ≤ retries + 1 then
      return .error err
    else
      processBatchWithRetries batch (retries+1)
termination_by 3 - retries

def queryRewards (order : HashOrder) (delegationPairs : List DelegationPair) :
    Panicking (Except String (List Reward)) := do
  let results ← (chunks 32 (order.visit delegationPairs)).mapM fun batch =>
    processBatchWithRetries sdk completion rpc epoch batch 0
  return List.flatten <$> (completion.complete results).mapM id

end

/-- The ids of a pair are addresses. -/
structure Decodes (pair : DelegationPair) : Prop where
  validator : (pair.validatorAddress.toAddress sdk).Returns
  delegator : (pair.delegatorAddress.toAddress sdk).Returns

end

/-- One reward for each of the pairs and for nothing else, or an error. -/
def AllOrNothing (pairs : Finset DelegationPair)
    (result : Panicking (Except String (List Reward))) : Prop :=
  (∃ rewards, result = .returns (.ok rewards) ∧
    Enumerates (rewards.map (·.delegationPair)) pairs) ∨ ∃ err, result = .returns (.error err)

section
variable {sdk : Sdk} {completion : CompletionOrder} {rpc : ℕ → DelegationPair → Option Amount}
  {epoch : Epoch} {order : HashOrder} {delegationPairs : List DelegationPair}

/-- The pairs of the crawler itself are pairs of addresses. -/
lemma decodes_of_queryDelegationPairs (hsdk : sdk.Lawful) (hdecodes : sdk.DecodesEncoded)
    {data : Option (List (Address × Address))} {pairs : List DelegationPair}
    (h : queryDelegationPairs sdk data = some pairs) : ∀ pair ∈ pairs, Decodes sdk pair := by
  have hreturns (address : Address) : ((Id.ofAddress sdk address).toAddress sdk).Returns :=
    ⟨address,Id.toAddress_ofAddress hsdk hdecodes address⟩
  obtain ⟨bondIds,-,rfl⟩ := Option.map_eq_some_iff.mp h
  intro pair hpair
  obtain ⟨bondId,-,hpair⟩ := List.mem_flatMap.mp hpair
  rcases List.mem_pair.mp hpair with rfl | rfl
  · exact ⟨hreturns bondId.2,hreturns bondId.1⟩
  · exact ⟨hreturns bondId.2,hreturns bondId.2⟩

/-- The reward of a pair, if its query succeeds at the first attempt. -/
def rewardOf (rpc : ℕ → DelegationPair → Option Amount) (epoch : Epoch)
    (pair : DelegationPair) : Option Reward :=
  (rpc 0 pair).map fun reward => ⟨pair,reward,epoch.toInt32⟩

lemma returns_queryReward_iff {attempt : ℕ} {pair : DelegationPair} :
    (queryReward sdk rpc epoch attempt pair).Returns ↔ Decodes sdk pair := by
  unfold queryReward
  constructor
  · intro h
    obtain ⟨validator,hvalidator,h⟩ := Panicking.returns_bind_iff.mp h
    obtain ⟨delegator,hdelegator,-⟩ := Panicking.returns_bind_iff.mp h
    exact ⟨⟨validator,hvalidator⟩,⟨delegator,hdelegator⟩⟩
  · rintro ⟨⟨validator,hvalidator⟩,delegator,hdelegator⟩
    rw [hvalidator,hdelegator]
    exact ⟨_,rfl⟩

lemma queryReward_of_decodes {pair : DelegationPair} (h : Decodes sdk pair) :
    queryReward sdk rpc epoch 0 pair = .returns (rewardOf rpc epoch pair) := by
  obtain ⟨⟨validator,hvalidator⟩,delegator,hdelegator⟩ := h
  rw [queryReward,hvalidator,hdelegator]
  rfl

/-- A batch does not fail, so that only its first attempt is made. -/
lemma processBatchWithRetries_eq (batch : List DelegationPair) (retries : ℕ) :
    processBatchWithRetries sdk completion rpc epoch batch retries =
      processBatch sdk completion rpc epoch retries batch := by
  rw [processBatchWithRetries,processBatch]
  cases batch.mapM (queryReward sdk rpc epoch retries) <;> rfl

/-- What later attempts would find does not matter. -/
theorem queryRewards_first_attempt {rpc' : ℕ → DelegationPair → Option Amount}
    (h : rpc 0 = rpc' 0) :
    queryRewards sdk completion rpc epoch order delegationPairs =
      queryRewards sdk completion rpc' epoch order delegationPairs := by
  have hreward : queryReward sdk rpc epoch 0 = queryReward sdk rpc' epoch 0 := by
    funext pair
    rw [queryReward,queryReward,h]
  simp only [queryRewards,processBatchWithRetries_eq,processBatch,hreward]

lemma processBatch_of_decodes {batch : List DelegationPair} (h : ∀ pair ∈ batch, Decodes sdk pair) :
    processBatch sdk completion rpc epoch 0 batch =
      .returns (.ok (completion.complete (batch.filterMap (rewardOf rpc epoch)))) := by
  have hbatch : batch.mapM (queryReward sdk rpc epoch 0) =
      .returns (batch.map (rewardOf rpc epoch)) :=
    (Panicking.mapM_congr fun pair hpair => queryReward_of_decodes (h pair hpair)).trans
      List.mapM_pure
  have hfound : (batch.map (rewardOf rpc epoch)).reduceOption =
      batch.filterMap (rewardOf rpc epoch) := by
    change (batch.map (rewardOf rpc epoch)).filterMap id = _
    rw [List.filterMap_map]
    rfl
  rw [processBatch,hbatch,Panicking.returns_bind,hfound]
  rfl

/-- Outputs that are all in order are put together, whatever the order in which they come. -/
lemma flatten_completed (completion : CompletionOrder) (outputs : List (List Reward)) :
    ∃ rewards, (List.flatten <$> (completion.complete
        (outputs.map (Except.ok : List Reward → Except String (List Reward)))).mapM id) =
          .ok rewards ∧
      rewards.Perm outputs.flatten := by
  have hperm := completion.perm (outputs.map (Except.ok : List Reward → Except String (List Reward)))
  obtain ⟨completed,hcompleted⟩ : ∃ completed : List (List Reward), completed.map .ok =
      completion.complete
        (outputs.map (Except.ok : List Reward → Except String (List Reward))) := by
    rw [←Set.mem_range,Set.range_list_map]
    intro result hresult
    obtain ⟨rewards,-,rfl⟩ := List.mem_map.mp (hperm.mem_iff.mp hresult)
    exact ⟨rewards,rfl⟩
  rw [←hcompleted] at hperm ⊢
  have hsame : completed.Perm outputs :=
    (List.map_perm_map_iff fun _ _ h => Except.ok.inj h).mp hperm
  have hall : (completed.map (Except.ok : List Reward → Except String (List Reward))).mapM id =
      .ok completed := by
    rw [List.mapM_map]
    exact (List.mapM_pure (m := Except String) (f := id)).trans (by rw [List.map_id]; rfl)
  exact ⟨completed.flatten,by rw [hall]; rfl,hsame.flatten⟩

/-- Pairs of addresses are answered for as far as their first queries succeed. -/
theorem queryRewards_of_decodes (h : ∀ pair ∈ delegationPairs, Decodes sdk pair) :
    ∃ rewards, queryRewards sdk completion rpc epoch order delegationPairs =
        .returns (.ok rewards) ∧
      rewards.Perm ((order.visit delegationPairs).filterMap (rewardOf rpc epoch)) := by
  have hvisit : ∀ batch ∈ chunks 32 (order.visit delegationPairs), ∀ pair ∈ batch,
      Decodes sdk pair :=
    forall_mem_chunks.mpr fun pair hpair => h pair (order.mem_visit.mp hpair)
  let outputs := (chunks 32 (order.visit delegationPairs)).map fun batch =>
    completion.complete (batch.filterMap (rewardOf rpc epoch))
  have hresults : ((chunks 32 (order.visit delegationPairs)).mapM fun batch =>
      processBatchWithRetries sdk completion rpc epoch batch 0) = .returns (outputs.map .ok) := by
    rw [List.map_map]
    refine (Panicking.mapM_congr fun batch hbatch => ?_).trans List.mapM_pure
    rw [processBatchWithRetries_eq,processBatch_of_decodes (hvisit batch hbatch)]
    rfl
  obtain ⟨rewards,hrewards,hperm⟩ := flatten_completed completion outputs
  refine ⟨rewards,by rw [queryRewards,hresults,Panicking.returns_bind,hrewards]; rfl,?_⟩
  refine hperm.trans ?_
  have houtputs : outputs.flatten.Perm
      ((chunks 32 (order.visit delegationPairs)).map (List.filterMap (rewardOf rpc epoch))).flatten :=
    List.Perm.flatMap_left _ fun batch _ => completion.perm _
  rwa [←List.filterMap_flatten,flatten_chunks] at houtputs

lemma decodes_of_returns (h : (queryRewards sdk completion rpc epoch order delegationPairs).Returns) :
    ∀ pair ∈ delegationPairs, Decodes sdk pair := by
  obtain ⟨results,hresults,-⟩ := Panicking.returns_bind_iff.mp h
  have hbatches : ∀ batch ∈ chunks 32 (order.visit delegationPairs), ∀ pair ∈ batch,
      Decodes sdk pair := by
    intro batch hbatch
    have hreturns := Panicking.returns_mapM_iff.mp ⟨results,hresults⟩ batch hbatch
    rw [processBatchWithRetries_eq] at hreturns
    obtain ⟨rewards,hrewards,-⟩ := Panicking.returns_bind_iff.mp hreturns
    intro pair hpair
    exact returns_queryReward_iff.mp (Panicking.returns_mapM_iff.mp ⟨rewards,hrewards⟩ pair hpair)
  exact fun pair hpair => forall_mem_chunks.mp hbatches pair (order.mem_visit.mpr hpair)

/-- The pairs with a reward are those whose first query succeeded. -/
lemma pairs_of_rewards (pairs : List DelegationPair) :
    (pairs.filterMap (rewardOf rpc epoch)).map (·.delegationPair) =
      pairs.filter fun pair => (rpc 0 pair).isSome := by
  rw [List.map_filterMap,←List.filterMap_eq_filter]
  refine List.filterMap_congr fun pair _ => ?_
  unfold rewardOf
  cases hanswer : rpc 0 pair with
  | none => simp [Option.guard,hanswer]
  | some amount => simp [Option.guard,hanswer]

end

/-- All of the rewards are found, or none, exactly if the pairs are pairs of addresses whose
queries all succeed at the first attempt. -/
theorem rewards_all_or_nothing_iff (sdk : Sdk) (order : HashOrder) (completion : CompletionOrder)
    (rpc : ℕ → DelegationPair → Option Amount) (epoch : Epoch)
    (delegationPairs : List DelegationPair) :
    AllOrNothing delegationPairs.toFinset
        (queryRewards sdk completion rpc epoch order delegationPairs) ↔
      ∀ pair ∈ delegationPairs, Decodes sdk pair ∧ (rpc 0 pair).isSome := by
  have hanswered (hdecodes : ∀ pair ∈ delegationPairs, Decodes sdk pair) : ∃ rewards,
      queryRewards sdk completion rpc epoch order delegationPairs = .returns (.ok rewards) ∧
        (rewards.map (·.delegationPair)).Perm
          ((order.visit delegationPairs).filter fun pair => (rpc 0 pair).isSome) := by
    obtain ⟨rewards,hrewards,hperm⟩ :=
      @queryRewards_of_decodes sdk completion rpc epoch order delegationPairs hdecodes
    refine ⟨rewards,hrewards,?_⟩
    rw [←pairs_of_rewards]
    exact hperm.map _
  constructor
  · intro h
    have hdecodes : ∀ pair ∈ delegationPairs, Decodes sdk pair := by
      rcases h with ⟨rewards,hrewards,-⟩ | ⟨err,herr⟩
      · exact decodes_of_returns ⟨_,hrewards⟩
      · exact decodes_of_returns ⟨_,herr⟩
    obtain ⟨rewards,hrewards,hperm⟩ := hanswered hdecodes
    rcases h with ⟨all,hall,henumerates⟩ | ⟨err,herr⟩
    · obtain rfl : rewards = all := by
        rw [hrewards] at hall
        cases hall
        rfl
      intro pair hpair
      have hmem := (henumerates.mem_iff pair).mpr (List.mem_toFinset.mpr hpair)
      exact ⟨hdecodes pair hpair,(List.mem_filter.mp (hperm.mem_iff.mp hmem)).2⟩
    · rw [hrewards] at herr
      cases herr
  · intro h
    obtain ⟨rewards,hrewards,hperm⟩ := hanswered fun pair hpair => (h pair hpair).1
    have hall : (order.visit delegationPairs).filter (fun pair => (rpc 0 pair).isSome) =
        order.visit delegationPairs :=
      List.filter_eq_self.mpr fun pair hpair => (h pair (order.mem_visit.mp hpair)).2
    rw [hall] at hperm
    exact .inl ⟨rewards,hrewards,(order.enumerates delegationPairs).of_perm hperm⟩

def samplePair : DelegationPair :=
  ⟨.ofAddress Sdk.sample (.established "val"),.ofAddress Sdk.sample (.implicit "ann")⟩

/-- The node answers from the second attempt on. -/
def rpcSample (attempt : ℕ) (_ : DelegationPair) : Option Amount :=
  if attempt = 0 then none else some ⟨5,by decide⟩

/-- A reward whose first query fails is missing from an answer that looks complete. -/
theorem failed_query_is_not_retried :
    ¬ AllOrNothing {samplePair}
      (queryRewards Sdk.sample .asStarted rpcSample 7 .insertion [samplePair]) := by
  have hdecodes : ∀ pair ∈ [samplePair], Decodes Sdk.sample pair := by
    intro pair hpair
    obtain rfl := List.mem_singleton.mp hpair
    exact ⟨⟨_,Id.toAddress_ofAddress sample_lawful sample_decodesEncoded _⟩,
      ⟨_,Id.toAddress_ofAddress sample_lawful sample_decodesEncoded _⟩⟩
  obtain ⟨rewards,hrewards,hperm⟩ :=
    @queryRewards_of_decodes Sdk.sample .asStarted rpcSample 7 .insertion [samplePair] hdecodes
  obtain rfl : rewards = [] := List.Perm.eq_nil hperm
  rw [hrewards]
  rintro (⟨all,hall,henumerates⟩ | ⟨err,herr⟩)
  · cases hall
    exact absurd ((henumerates.mem_iff samplePair).mpr (Finset.mem_singleton_self _))
      List.not_mem_nil
  · cases herr

end NamadaIndexer.Rewards
