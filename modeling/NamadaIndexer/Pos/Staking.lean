import NamadaIndexer.Chain.BondReindexing
import NamadaIndexer.Chain.Replays
import NamadaIndexer.Rewards.Crawling

/-! The transactions of the three crawlers that write to the tables of proof of stake, in any order
and with any answers of the node behind them. -/
namespace NamadaIndexer.Pos
open NamadaIndexer.Foundation NamadaIndexer.Foundation.Runs NamadaIndexer.Shared
open NamadaIndexer.Chain (BondDb ChainDb Context Gathered InitialData RedelegationDb UnbondDb
  ValidatorDb setBondAmount setEndEpoch setUnbondAmount setValidator)

/-- A transaction that took effect. Those of the chain crawler come with what was queried for them,
however long ago that was. -/
inductive Transaction
  | initialQuery (data : InitialData)
  | block (gathered : Gathered) (shouldUpdateCrawlerState : Bool)
  | reindexBonds (client : Chain.Client) (done : ℕ)
  | validatorSet (validatorsSet : List Validator) (epochToProcess : Epoch)
  | rewards (nonZeroRewards : List Rewards.Reward) (epochToProcess : Epoch)

def Transaction.step (ctx : Context) (db : StakingDb) : Transaction → Option StakingDb
  | .initialQuery data => (Chain.commitInitial ctx data db.chain).map fun chain => { db with chain }
  | .block gathered shouldUpdateCrawlerState =>
    (Chain.commit ctx shouldUpdateCrawlerState gathered db.chain).map fun chain => { db with chain }
  | .reindexBonds client done =>
    some { db with chain := Chain.reindexBonds ctx client done db.chain }
  | .validatorSet validatorsSet epochToProcess => commit ctx validatorsSet epochToProcess db
  | .rewards nonZeroRewards epochToProcess => Rewards.commit ctx nonZeroRewards epochToProcess db

section
variable {ctx : Context} {db db' : StakingDb}

/-- A call of the chain crawler that succeeds is one of the transactions. -/
theorem exists_step_of_pass {pass : Chain.Pass} {chain : ChainDb}
    (h : pass.step ctx db.chain = some chain) :
    ∃ transaction : Transaction, transaction.step ctx db = some { db with chain } := by
  cases pass with
  | initialQuery client checksums =>
    obtain ⟨data,-,-,-,hcommit⟩ := Chain.tryInitialQuery_eq_ok (Chain.resultOf_eq_some.mp h)
    exact ⟨.initialQuery data,by rw [Transaction.step,hcommit,Option.map_some]⟩
  | block client checksums blockHeight shouldUpdateCrawlerState =>
    obtain ⟨gathered,-,-,hcommit⟩ := Chain.crawlingFn_eq_ok (Chain.resultOf_eq_some.mp h)
    exact ⟨.block gathered shouldUpdateCrawlerState,by
      rw [Transaction.step,hcommit,Option.map_some]⟩

/-- So is an epoch that the crawler of validators processes. -/
theorem exists_step_of_validatorSet {answers : Answers} {epoch : Epoch}
    (h : (processEpoch ctx answers epoch db).run = .returns (.ok db')) :
    ∃ transaction : Transaction, transaction.step ctx db = some db' := by
  obtain ⟨validators,-,hcommit⟩ := processEpoch_eq_ok.mp h
  exact ⟨.validatorSet validators epoch,hcommit⟩

/-- So is one that the rewards crawler processes. -/
theorem exists_step_of_rewards {answers : Rewards.Answers} {epoch : Epoch}
    (h : (Rewards.processEpoch ctx answers epoch db).run = .returns (.ok db')) :
    ∃ transaction : Transaction, transaction.step ctx db = some db' := by
  obtain ⟨rewards,-,hcommit⟩ := Rewards.processEpoch_eq_ok.mp h
  exact ⟨.rewards rewards epoch,hcommit⟩

end

/-- Every bond, unbond, redelegation and reward is one of a stored validator. -/
structure Referential (db : ChainDb) : Prop where
  bonds : ∀ row ∈ db.bonds.rows, row.validator ∈ db.validators.keys
  unbonds : ∀ row ∈ db.unbonds.rows, row.validator ∈ db.validators.keys
  redelegations : ∀ row ∈ db.redelegations.rows, row.validator ∈ db.validators.keys
  posRewards : ∀ row ∈ db.posRewards.rows, row.validator ∈ db.validators.keys

lemma bond_reference (r s : BondDb) (h : r.key = s.key) : r.validator = s.validator :=
  congrArg (fun key => key.2.1) h

lemma unbond_reference (r s : UnbondDb) (h : r.key = s.key) : r.validator = s.validator :=
  congrArg (fun key => key.2.1) h

lemma redelegation_reference (r s : RedelegationDb) (h : r.key = s.key) :
    r.validator = s.validator :=
  congrArg Prod.snd h

lemma reward_reference (r s : Chain.PosRewardDb) (h : r.key = s.key) :
    r.validator = s.validator :=
  congrArg (fun key => key.2.1) h

section
variable {ctx : Context} {db db' : ChainDb}

/-- The re-indexing is about bonds and unbonds alone. -/
theorem reindexBonds_frame (client : Chain.Client) (done : ℕ) (db : ChainDb) :
    ∃ bonds unbonds, Chain.reindexBonds ctx client done db = { db with bonds, unbonds } := by
  unfold Chain.reindexBonds
  cases Chain.reindexAnswer ctx client with
  | none => exact ⟨db.bonds,db.unbonds,rfl⟩
  | some answer =>
    obtain ⟨bonds,unbonds⟩ := answer
    refine cutOff_invariant (p := fun after : ChainDb =>
      ∃ bonds unbonds, after = { db with bonds, unbonds }) ?_ done ⟨db.bonds,db.unbonds,rfl⟩
    intro unit hunit before after hbefore hafter
    obtain ⟨oldBonds,oldUnbonds,rfl⟩ := hbefore
    simp only [Chain.reindexUnits,List.mem_cons,List.not_mem_nil,or_false] at hunit
    rcases hunit with rfl | rfl | rfl
    · obtain rfl := Option.some.inj hafter
      exact ⟨_,_,rfl⟩
    · obtain rfl := Option.some.inj hafter
      exact ⟨_,_,rfl⟩
    · obtain ⟨mid,hmid,hrest⟩ := Option.bind_eq_some_iff.mp hafter
      obtain ⟨-,-,_,-,rfl⟩ := Chain.insertBonds_eq_some.mp hmid
      obtain ⟨-,-,_,-,rfl⟩ := Chain.insertUnbonds_eq_some.mp hrest
      exact ⟨_,_,rfl⟩

lemma referential_reindexBonds (h : Referential db) (client : Chain.Client) (done : ℕ) :
    Referential (Chain.reindexBonds ctx client done db) := by
  unfold Chain.reindexBonds
  cases Chain.reindexAnswer ctx client with
  | none => exact h
  | some answer =>
    obtain ⟨bonds,unbonds⟩ := answer
    refine cutOff_invariant (p := Referential) ?_ done h
    intro unit hunit before after hbefore hafter
    simp only [Chain.reindexUnits,List.mem_cons,List.not_mem_nil,or_false] at hunit
    rcases hunit with rfl | rfl | rfl
    · obtain rfl := Option.some.inj hafter
      exact { hbefore with bonds := by simp }
    · obtain rfl := Option.some.inj hafter
      exact { hbefore with unbonds := by simp }
    · obtain ⟨mid,hmid,hrest⟩ := Option.bind_eq_some_iff.mp hafter
      obtain ⟨hbonds,-,_,hrows,rfl⟩ := Chain.insertBonds_eq_some.mp hmid
      obtain ⟨hunbonds,-,_,hunbondRows,rfl⟩ := Chain.insertUnbonds_eq_some.mp hrest
      exact { hbefore with
        bonds := Table.reference_foldlM_put bond_reference hbefore.bonds
          (List.forall_mem_map.mpr hbonds) hrows
        unbonds := Table.reference_foldlM_put unbond_reference hbefore.unbonds
          (List.forall_mem_map.mpr hunbonds) hunbondRows }

lemma referential_commitInitial {data : InitialData} (h : Referential db)
    (hcommit : Chain.commitInitial ctx data db = some db') : Referential db' := by
  have hs := Chain.committed_of_commitInitial hcommit
  obtain ⟨rows,-,hstored⟩ := hs.validators
  have hkept := fun address (haddress : address ∈ db.validators.keys) =>
    (Table.mem_keys_upsert hstored).mpr (.inl haddress)
  exact
    { bonds := Table.reference_foldlM_put bond_reference (fun row hrow => hkept _ (h.bonds row hrow))
        (List.forall_mem_map.mpr hs.bonds_known) hs.bonds
      unbonds := Table.reference_foldlM_put unbond_reference
        (fun row hrow => hkept _ (h.unbonds row hrow))
        (List.forall_mem_map.mpr hs.unbonds_known) hs.unbonds
      redelegations := Table.reference_foldlM_put redelegation_reference
        (fun row hrow => hkept _ (h.redelegations row hrow))
        (List.forall_mem_map.mpr hs.redelegations_known)
        (Table.upsert_eq_some.mp hs.redelegations).2
      posRewards := by
        rw [hs.posRewards]
        exact fun row hrow => hkept _ (h.posRewards row hrow) }

/-- The changes of a block keep the addresses of the validators. -/
lemma validators_kept_by_block {gathered : Gathered} {shouldUpdateCrawlerState : Bool}
    (hc : Chain.Committed ctx shouldUpdateCrawlerState gathered db db') {address : String}
    (h : address ∈ db.validators.keys) : address ∈ db'.validators.keys := by
  obtain ⟨rows,stored,-,hstored,hupdated⟩ := hc.validators
  have hkey := (Table.mem_keys_upsert hstored).mpr (.inl h)
  have hkeys : db'.validators.keys = stored.keys := by
    rw [Table.keys,hupdated,List.map_map]
    refine List.map_congr_left fun row _ => ?_
    have hsame : (gathered.changed ctx row).namadaAddress = row.namadaAddress :=
      Chain.namadaAddress_changed gathered row
    rwa [Chain.changed_eq] at hsame
  rwa [hkeys]

lemma referential_block {gathered : Gathered} {shouldUpdateCrawlerState : Bool}
    (h : Referential db) (hcommit : Chain.commit ctx shouldUpdateCrawlerState gathered db = some db') :
    Referential db' := by
  obtain ⟨hc,hchecked⟩ := Chain.committed_and_checked hcommit
  have hkept := fun address (haddress : address ∈ db.validators.keys) =>
    validators_kept_by_block hc haddress
  obtain ⟨rows,hrows,hunbonds⟩ := hc.unbonds
  refine
    { bonds := Table.reference_foldlM_put bond_reference (fun row hrow => ?_)
        (List.forall_mem_map.mpr hc.bonds_known) hc.bonds
      unbonds := fun row hrow => ?_
      redelegations := Table.reference_foldlM_put redelegation_reference
        (fun row hrow => hkept _ (h.redelegations row hrow))
        (List.forall_mem_map.mpr hchecked.redelegations_known)
        (Table.upsert_eq_some.mp hc.redelegations).2
      posRewards := fun row hrow => ?_ }
  · exact hkept _ (h.bonds row (List.mem_of_mem_filter hrow))
  · rw [hunbonds] at hrow
    exact Table.reference_foldlM_put unbond_reference
      (fun row hrow => hkept _ (h.unbonds row hrow)) (List.forall_mem_map.mpr hc.unbonds_known)
      hrows row (List.mem_of_mem_filter hrow)
  · have hkey := Table.key_mem_keys hrow
    rw [hc.posRewards,Chain.claimed,Table.foldl_mapRows_keys] at hkey
    obtain ⟨old,hold,hsame⟩ := Table.mem_keys.mp hkey
    exact reward_reference old row hsame ▸ hkept _ (h.posRewards old hold)

/-- No transaction removes a validator. -/
theorem validators_kept_step {transaction : Transaction} {db db' : StakingDb} {address : String}
    (hstep : transaction.step ctx db = some db') (h : address ∈ db.chain.validators.keys) :
    address ∈ db'.chain.validators.keys := by
  cases transaction with
  | initialQuery data =>
    obtain ⟨chain,hchain,rfl⟩ := Option.map_eq_some_iff.mp hstep
    obtain ⟨rows,-,hstored⟩ := (Chain.committed_of_commitInitial hchain).validators
    exact (Table.mem_keys_upsert hstored).mpr (.inl h)
  | block gathered shouldUpdateCrawlerState =>
    obtain ⟨chain,hchain,rfl⟩ := Option.map_eq_some_iff.mp hstep
    exact validators_kept_by_block (Chain.committed_of_commit hchain) h
  | reindexBonds client done =>
    obtain rfl := Option.some.inj hstep
    obtain ⟨bonds,unbonds,hsame⟩ := reindexBonds_frame client done db.chain
    dsimp only
    rwa [hsame]
  | validatorSet validatorsSet epochToProcess =>
    obtain ⟨chain,hchain,rfl⟩ := commit_eq_some.mp hstep
    obtain ⟨rows,-,stored,hstored,rfl⟩ := upsertValidators_eq_some.mp hchain
    exact (Table.mem_keys_upsert hstored).mpr (.inl h)
  | rewards nonZeroRewards epochToProcess =>
    obtain ⟨chain,hchain,rfl⟩ := Rewards.commit_eq_some.mp hstep
    obtain ⟨-,-,stored,-,rfl⟩ := Rewards.upsertRewards_eq_some.mp hchain
    exact h

theorem validators_kept_execute {transactions : List Transaction} {db db' : StakingDb}
    {address : String}
    (hrun : execute (Transaction.step ctx) db transactions = some db')
    (h : address ∈ db.chain.validators.keys) : address ∈ db'.chain.validators.keys :=
  execute_preserves (fun db : StakingDb => address ∈ db.chain.validators.keys)
    (fun _ _ _ h hstep => validators_kept_step hstep h) h hrun

theorem referential_step {transaction : Transaction} {db db' : StakingDb}
    (h : Referential db.chain) (hstep : transaction.step ctx db = some db') :
    Referential db'.chain := by
  cases transaction with
  | initialQuery data =>
    obtain ⟨chain,hchain,rfl⟩ := Option.map_eq_some_iff.mp hstep
    exact referential_commitInitial h hchain
  | block gathered shouldUpdateCrawlerState =>
    obtain ⟨chain,hchain,rfl⟩ := Option.map_eq_some_iff.mp hstep
    exact referential_block h hchain
  | reindexBonds client done =>
    obtain rfl := Option.some.inj hstep
    exact referential_reindexBonds h client done
  | validatorSet validatorsSet epochToProcess =>
    obtain ⟨chain,hchain,rfl⟩ := commit_eq_some.mp hstep
    obtain ⟨rows,-,stored,hstored,rfl⟩ := upsertValidators_eq_some.mp hchain
    have hkept := fun address (haddress : address ∈ db.chain.validators.keys) =>
      (Table.mem_keys_upsert hstored).mpr (.inl haddress)
    exact ⟨fun row hrow => hkept _ (h.bonds row hrow),fun row hrow => hkept _ (h.unbonds row hrow),
      fun row hrow => hkept _ (h.redelegations row hrow),
      fun row hrow => hkept _ (h.posRewards row hrow)⟩
  | rewards nonZeroRewards epochToProcess =>
    obtain ⟨chain,hchain,rfl⟩ := Rewards.commit_eq_some.mp hstep
    obtain ⟨hknown,-,stored,hstored,rfl⟩ := Rewards.upsertRewards_eq_some.mp hchain
    exact { h with
      posRewards := Table.reference_foldlM_put reward_reference h.posRewards
        (List.forall_mem_map.mpr hknown) hstored }

/-- No interleaving of the crawlers leaves a row without its validator. -/
theorem referential_of_execute {transactions : List Transaction} {db : StakingDb}
    (hrun : execute (Transaction.step ctx) .empty transactions = some db) : Referential db.chain :=
  execute_preserves (fun db => Referential db.chain) (fun _ _ _ => referential_step)
    ⟨by simp [StakingDb.empty,ChainDb.empty],by simp [StakingDb.empty,ChainDb.empty],
      by simp [StakingDb.empty,ChainDb.empty],by simp [StakingDb.empty,ChainDb.empty]⟩ hrun

end
end NamadaIndexer.Pos
