import NamadaIndexer.Rewards.Ledger
import NamadaIndexer.Webserver.EpochTimes
import NamadaIndexer.Webserver.PosViews

/-! The rewards that are shown for an address. A request reads the table of rewards, and looks the
validators up afterwards, while the crawlers go on. -/
namespace NamadaIndexer.Webserver
open NamadaIndexer.Foundation NamadaIndexer.Foundation.Runs NamadaIndexer.Shared
open NamadaIndexer.Chain (ChainDb Context PosRewardDb ValidatorDb)
open NamadaIndexer.Pos (StakingDb Transaction Referential)
open NamadaIndexer.Rewards (RewardEvent rewardEvents recorded storedAmount)

structure Reward where
  minDenomAmount : Amount
  validator : ValidatorWithRank
  deriving DecidableEq, Repr

/-- `Reward::from` -/
def Reward.fromDb (dbReward : PosRewardDb) (dbValidator : ValidatorDb) : Reward where
  minDenomAmount := dbReward.rawAmount
  validator := ⟨dbValidator,none⟩

section
variable (db : ChainDb)

/-- `MAX(epoch)`, or zero where there is no row -/
def maxEpoch : Int32 := ((db.posRewards.rows.map (·.epoch)).max?).getD 0

/-- `find_rewards_by_address` -/
def findRewardsByAddress (address : String) (epoch : Option UInt64) :
    List (PosRewardDb × ValidatorDb) :=
  let epoch := (epoch.map asI32).getD (maxEpoch db)
  (innerJoin (fun reward validator => decide (reward.validator = validator.namadaAddress))
    db.posRewards.rows db.validators.rows).filter fun row =>
      !row.1.claimed && decide (row.1.epoch = epoch) && decide (row.1.owner = address)

/-- `get_rewards_by_address`. The validator of each reward is looked up in a query of its own. -/
def getRewardsByAddress (validatorsThen : String → Table ValidatorDb.namadaAddress)
    (address : String) (epoch : Option UInt64) : List Reward :=
  (findRewardsByAddress db address epoch).filterMap fun row =>
    ((validatorsThen row.2.namadaAddress).find? row.2.namadaAddress).map (Reward.fromDb row.1)

/-- `find_rewards_by_delegator_and_validator_and_epoch` -/
def findRewardsByDelegatorAndValidatorAndEpoch (delegator validator : String) (epoch : UInt64) :
    List PosRewardDb :=
  db.posRewards.rows.filter fun row =>
    decide (row.owner = delegator) && decide (row.validator = validator) &&
      decide (row.epoch = asI32 epoch)

/-- `get_rewards_by_delegator_and_validator_and_epoch`, with the table of rewards as it is after
the validator was found. -/
def getRewardsByDelegatorAndValidatorAndEpoch (rewardsThen : ChainDb)
    (delegator validatorAddress : String) (epoch : UInt64) : List Reward :=
  match db.validators.find? validatorAddress with
  | none => []
  | some dbValidator =>
    (findRewardsByDelegatorAndValidatorAndEpoch rewardsThen delegator dbValidator.namadaAddress
      epoch).map fun dbReward => Reward.fromDb dbReward dbValidator

end

/-- The epoch of what is stored. -/
def storedEpoch : RewardEvent → Option Int32
  | .stored key _ => some key.2.2
  | .claimed _ _ => none

/-- The last epoch for which anything was stored, for whomever. -/
def lastEpoch (events : List RewardEvent) : Int32 := ((events.filterMap storedEpoch).max?).getD 0

section

lemma lawfulOrderMax_int32 : Std.LawfulOrderMax Int32 := by
  have := maxEqOr_int32
  refine { max_eq_or := this.max_eq_or, max_le_iff := ?_ }
  intro a b c
  change (if a ≤ b then b else a) ≤ c ↔ _
  split
  · rename_i h
    exact ⟨fun hb => ⟨Int32.le_trans h hb,hb⟩,fun hc => hc.2⟩
  · rename_i h
    have hba := (Int32.le_total a b).resolve_left h
    exact ⟨fun ha => ⟨ha,Int32.le_trans hba ha⟩,fun hc => hc.1⟩

/-- The greatest of the members does not depend on the list that they are in. -/
lemma max?_congr {epochs epochs' : List Int32} (h : ∀ epoch, epoch ∈ epochs ↔ epoch ∈ epochs') :
    epochs.max? = epochs'.max? := by
  have := lawfulOrderMax_int32
  apply Option.ext
  intro epoch
  rw [List.max?_eq_some_iff,List.max?_eq_some_iff]
  simp only [h]

variable {ctx : Context} {transactions : List Transaction} {db : StakingDb}

/-- A key is in the ledger if something was stored under it. -/
lemma isSome_recorded {key : String × String × Int32} {events : List RewardEvent} :
    (recorded key events).isSome ↔ ∃ amount, .stored key amount ∈ events := by
  have hstored : ∀ event, (storedAmount key event).isSome ↔
      ∃ amount, event = .stored key amount := by
    intro event
    cases event with
    | claimed owner validator => simp [storedAmount]
    | stored other amount =>
      rw [storedAmount]
      split
      · rename_i hother
        simp [hother]
      · rename_i hother
        simp [hother]
  have hamount : ((Rewards.amountRegister key).read events).isSome ↔
      ∃ amount, .stored key amount ∈ events := by
    rw [Register.isSome_read]
    simp only [Rewards.amountRegister,hstored]
    exact ⟨by rintro ⟨_,hmem,amount,rfl⟩; exact ⟨amount,hmem⟩,
      by rintro ⟨amount,hmem⟩; exact ⟨_,hmem,amount,rfl⟩⟩
  have hclaimed : ((Rewards.claimedRegister key).read events).isSome ↔
      ∃ amount, .stored key amount ∈ events := by
    rw [Register.isSome_read]
    simp only [Rewards.claimedRegister,Option.isSome_map,hstored]
    exact ⟨by rintro ⟨_,hmem,amount,rfl⟩; exact ⟨amount,hmem⟩,
      by rintro ⟨amount,hmem⟩; exact ⟨_,hmem,amount,rfl⟩⟩
  rw [recorded]
  constructor
  · intro h
    apply hamount.mp
    cases hread : (Rewards.amountRegister key).read events with
    | none => simp [hread] at h
    | some amount => rfl
  · intro h
    obtain ⟨amount,hread⟩ := Option.isSome_iff_exists.mp (hamount.mpr h)
    obtain ⟨claimed,hread'⟩ := Option.isSome_iff_exists.mp (hclaimed.mpr h)
    simp [hread,hread']

lemma recorded_validator {key : String × String × Int32} {events : List RewardEvent}
    {row : PosRewardDb} (h : recorded key events = some row) : row.validator = key.2.1 := by
  obtain ⟨amount,-,h⟩ := Option.bind_eq_some_iff.mp h
  obtain ⟨claimed,-,h⟩ := Option.bind_eq_some_iff.mp h
  rw [←Option.some.inj h]

lemma maxEpoch_eq_lastEpoch
    (hrun : execute (Transaction.step ctx) .empty transactions = some db) :
    maxEpoch db.chain = lastEpoch (transactions.flatMap (rewardEvents ctx)) := by
  rw [maxEpoch,lastEpoch]
  refine congrArg (Option.getD · 0) (max?_congr fun epoch => ?_)
  rw [List.mem_map,List.mem_filterMap]
  constructor
  · rintro ⟨row,hrow,rfl⟩
    have hfind := Table.find?_of_mem hrow
    rw [Rewards.find?_eq_recorded hrun] at hfind
    obtain ⟨amount,hmem⟩ := isSome_recorded.mp (by rw [hfind]; rfl)
    exact ⟨_,hmem,rfl⟩
  · rintro ⟨event,hmem,hepoch⟩
    cases event with
    | claimed owner validator => contradiction
    | stored key amount =>
      have hfind := isSome_recorded.mpr ⟨amount,hmem⟩
      rw [←Rewards.find?_eq_recorded hrun] at hfind
      obtain ⟨row,hrow⟩ := Option.isSome_iff_exists.mp hfind
      obtain ⟨hmem,hkey⟩ := Table.find?_eq_some.mp hrow
      refine ⟨row,hmem,?_⟩
      rw [←Option.some.inj hepoch,←hkey]
      rfl

/-- What is shown of a reward: its validator and its amount. -/
def Reward.shown (reward : Reward) : String × Amount :=
  (reward.validator.validator.namadaAddress,reward.minDenomAmount)

/-- The condition of the query. -/
def unclaimedAt (address : String) (epoch : Int32) (row : PosRewardDb) : Bool :=
  !row.claimed && decide (row.epoch = epoch) && decide (row.owner = address)

/-- Neither the join nor the second query loses a reward. -/
lemma shown_eq (href : Referential db.chain)
    {validatorsThen : String → Table ValidatorDb.namadaAddress}
    (hthen : ∀ validator ∈ db.chain.validators.keys, validator ∈ (validatorsThen validator).keys)
    (address : String) (epoch : Option UInt64) :
    (getRewardsByAddress db.chain validatorsThen address epoch).map Reward.shown =
      (db.chain.posRewards.rows.filter
        (unclaimedAt address ((epoch.map asI32).getD (maxEpoch db.chain)))).map
          fun row => (row.validator,row.rawAmount) := by
  have hone : ∀ row ∈ db.chain.posRewards.rows, (db.chain.validators.rows.filter fun validator =>
      decide (row.validator = validator.namadaAddress)).length = 1 := by
    intro row hrow
    have hlength := Table.length_filter_key (href.posRewards row hrow)
    simpa only [eq_comm] using hlength
  have hjoin := map_fst_filter_innerJoin hone
    (unclaimedAt address ((epoch.map asI32).getD (maxEpoch db.chain)))
  rw [←hjoin,List.map_map,getRewardsByAddress,List.map_filterMap,←List.filterMap_eq_map]
  refine List.filterMap_congr fun row hrow => ?_
  obtain ⟨hmem,-⟩ := List.mem_filter.mp hrow
  obtain ⟨-,hvalidator,hon⟩ := mem_innerJoin.mp hmem
  have hkey := hthen _ (Table.key_mem_keys hvalidator)
  cases hfind : (validatorsThen row.2.namadaAddress).find? row.2.namadaAddress with
  | none => exact absurd hkey (Table.find?_eq_none.mp hfind)
  | some validator =>
    have hsame := (Table.find?_eq_some.mp hfind).2
    simp [Reward.shown,Reward.fromDb,hsame,of_decide_eq_true hon]

lemma mem_unclaimed {address validator : String} {epoch : Int32} {amount : Amount} :
    (validator,amount) ∈ ((db.chain.posRewards.rows.filter (unclaimedAt address epoch)).map
      fun row => (row.validator,row.rawAmount)) ↔
    db.chain.posRewards.find? (address,validator,epoch) =
      some ⟨address,validator,amount,false,epoch⟩ := by
  rw [List.mem_map,Table.find?_eq_some]
  simp only [List.mem_filter,unclaimedAt,Bool.and_eq_true,Bool.not_eq_true',decide_eq_true_iff]
  constructor
  · rintro ⟨row,⟨hmem,⟨hclaimed,hepoch⟩,howner⟩,hrow⟩
    obtain ⟨rfl,rfl⟩ := Prod.mk.inj hrow
    subst hepoch howner
    rw [←hclaimed]
    exact ⟨hmem,rfl⟩
  · rintro ⟨hmem,-⟩
    exact ⟨_,⟨hmem,⟨rfl,rfl⟩,rfl⟩,rfl⟩

end

/-- Two rewards, of which the first one is claimed. -/
def twoRewards : List Transaction :=
  [.validatorSet [⟨.ofAddress Sdk.sample (.established "v1"),"0","0","0",none,none,none,none,none,
      none,.consensus⟩] 1,
    .rewards [Rewards.aliceReward 5] 1,.block Rewards.claimGathered true,
    .rewards [Rewards.aliceReward 7] 2]

lemma filter_eq_find? {ρ κ : Type*} {key : ρ → κ} [DecidableEq κ] (table : Table key) (k : κ) :
    (table.rows.filter fun row => decide (key row = k)) = (table.find? k).toList := by
  have hle := Table.length_filter_key_le table.unique k
  rw [Table.find?,←List.head?_filter]
  cases hrows : table.rows.filter fun row => decide (key row = k) with
  | nil => rfl
  | cons row rows =>
    rw [hrows,List.length_cons] at hle
    rw [List.length_eq_zero_iff.mp (by omega : rows.length = 0)]
    rfl

/-- The reward of one delegator, validator and epoch is shown as the ledger has it when it is read,
claimed or not, provided that the validator was known before. -/
theorem reward_of_epoch_shown (ctx : Context) (transactions meanwhile : List Transaction)
    (db later : StakingDb)
    (hrun : execute (Transaction.step ctx) .empty transactions = some db)
    (hlater : execute (Transaction.step ctx) db meanwhile = some later)
    (delegator validator : String) (epoch : UInt64) :
    (getRewardsByDelegatorAndValidatorAndEpoch db.chain later.chain delegator validator epoch).map
        Reward.shown =
      if validator ∈ db.chain.validators.keys then
        ((recorded (delegator,validator,asI32 epoch)
          ((transactions ++ meanwhile).flatMap (rewardEvents ctx))).map
            fun row => (row.validator,row.rawAmount)).toList
      else [] := by
  have hrows : findRewardsByDelegatorAndValidatorAndEpoch later.chain delegator validator epoch =
      (recorded (delegator,validator,asI32 epoch)
        ((transactions ++ meanwhile).flatMap (rewardEvents ctx))).toList := by
    rw [←Rewards.find?_eq_recorded (execute_append_eq_some.mpr ⟨db,hrun,hlater⟩),←filter_eq_find?]
    refine List.filter_congr fun row _ => ?_
    simp only [PosRewardDb.key,Prod.mk.injEq,Bool.decide_and,Bool.and_assoc]
  rw [getRewardsByDelegatorAndValidatorAndEpoch]
  cases hfind : db.chain.validators.find? validator with
  | none => rw [if_neg (Table.find?_eq_none.mp hfind),List.map_nil]
  | some dbValidator =>
    obtain ⟨hmem,rfl⟩ := Table.find?_eq_some.mp hfind
    rw [if_pos (Table.key_mem_keys hmem)]
    dsimp only
    rw [hrows]
    cases hrow : recorded (delegator,dbValidator.namadaAddress,asI32 epoch)
        ((transactions ++ meanwhile).flatMap (rewardEvents ctx)) with
    | none => rfl
    | some row =>
      have hkey := recorded_validator hrow
      simp [Reward.shown,Reward.fromDb,hkey]

/-- The reward is claimed after the validator was looked up, and is shown nevertheless. -/
theorem reward_of_epoch_shown_of_claimed :
    ∃ db later, execute (Transaction.step (Chain.sampleContext bondTx)) .empty
        (twoRewards.take 2) = some db ∧
      execute (Transaction.step (Chain.sampleContext bondTx)) db (twoRewards.drop 2) = some later ∧
      (getRewardsByDelegatorAndValidatorAndEpoch db.chain later.chain "tnam1zalice" "tnam1qv1"
        1).map Reward.shown = [("tnam1qv1",5)] := by
  have hknown : (execute (Transaction.step (Chain.sampleContext bondTx)) .empty
      (twoRewards.take 2)).map (fun db => decide ("tnam1qv1" ∈ db.chain.validators.keys)) =
      some true := by decide +kernel
  obtain ⟨db,hrun,hknown⟩ := Option.map_eq_some_iff.mp hknown
  have hwhole : (execute (Transaction.step (Chain.sampleContext bondTx)) .empty
      (twoRewards.take 2 ++ twoRewards.drop 2)).isSome = true := by decide +kernel
  obtain ⟨later,hlater⟩ := Option.isSome_iff_exists.mp hwhole
  obtain ⟨mid,hmid,hlater⟩ := execute_append_eq_some.mp hlater
  obtain rfl := Option.some.inj (hrun.symm.trans hmid)
  refine ⟨db,later,hrun,hlater,?_⟩
  rw [reward_of_epoch_shown (Chain.sampleContext bondTx) (twoRewards.take 2) (twoRewards.drop 2) db
    later hrun hlater,if_pos (of_decide_eq_true hknown)]
  decide +kernel

end NamadaIndexer.Webserver
