import NamadaIndexer.Pos.Crawling
import NamadaIndexer.Rewards.Namada

/-! The rewards crawler. At every epoch it asks for the rewards of all delegations and stores those
that are not zero; the chain crawler marks rewards as claimed in the same table. -/
namespace NamadaIndexer.Rewards
open NamadaIndexer.Foundation NamadaIndexer.Shared
open NamadaIndexer.Chain (Attempt ChainDb Context PosRewardDb mayPanic orError overwrite)
open NamadaIndexer.Pos (StakingDb run_mayPanic_ne)
open NamadaIndexer.Shared.EpochCrawler (run_bind_ne run_orError_ne)

/-- What the node answers for an epoch, as far as its queries succeed. -/
structure Answers where
  bondIds : Option (List (Address × Address))
  rewards : ℕ → DelegationPair → Option Amount
  completion : CompletionOrder

/-- `SET raw_amount = excluded.raw_amount` -/
def setRewardAmount : Table.Merge PosRewardDb.key :=
  overwrite (fun old new => { old with rawAmount := new.rawAmount }) fun _ _ => rfl

/-- `pos_rewards::all_columns.len()` -/
def rewardsColCount : ℕ := 6

section
variable (ctx : Context)

/-- `PosRewardInsertDb::from_reward`, with the validator looked up by its address. -/
def fromReward (epoch : Int32) (reward : Reward) : PosRewardDb where
  owner := reward.delegationPair.delegatorAddress.toString ctx.sdk
  validator := reward.delegationPair.validatorAddress.toString ctx.sdk
  rawAmount := reward.amount
  claimed := false
  epoch := epoch

/-- `upsert_rewards_chunk`. An unknown validator is a panic. -/
def upsertRewardsChunk (epoch : Int32) (db : ChainDb) (rewards : List Reward) : Option ChainDb := do
  let rows := rewards.map (fromReward ctx epoch)
  if ∀ row ∈ rows, row.validator ∈ db.validators.keys then
    let posRewards ← Table.upsert setRewardAmount db.posRewards rows
    return { db with posRewards }
  else none

/-- `upsert_rewards` -/
def upsertRewards (rewards : List Reward) (epoch : Int32) (db : ChainDb) : Option ChainDb :=
  (chunks (Chain.Votes.MAX_PARAM_SIZE / rewardsColCount) rewards).foldlM
    (upsertRewardsChunk ctx epoch) db

/-- The queries of `crawling_fn`, up to the rewards that are not zero. -/
def queryNonZeroRewards (answers : Answers) (epochToProcess : Epoch) : Attempt (List Reward) := do
  let delegationsPairs ← orError .rpcError (queryDelegationPairs ctx.sdk answers.bondIds)
  let queried ← mayPanic (queryRewards ctx.sdk answers.completion answers.rewards epochToProcess
    ctx.order delegationsPairs)
  let rewards ← orError .rpcError queried.toOption
  return rewards.filter fun reward => reward.amount ≠ 0

/-- The transaction of `crawling_fn`. -/
def commit (nonZeroRewards : List Reward) (epochToProcess : Epoch) (db : StakingDb) :
    Option StakingDb := do
  let chain ← upsertRewards ctx nonZeroRewards epochToProcess.toInt32 db.chain
  return { db with chain }

/-- `crawling_fn`, once the node has reached the epoch. -/
def processEpoch (answers : Answers) (epochToProcess : Epoch) (db : StakingDb) :
    Attempt StakingDb := do
  let nonZeroRewards ← queryNonZeroRewards ctx answers epochToProcess
  orError .database (commit ctx nonZeroRewards epochToProcess db)

end

section
variable {ctx : Context} {epoch : Int32} {db db' : ChainDb}

/-- What storing rewards checks and does. No chunk may name a delegation twice. -/
theorem upsertRewards_eq_some {rewards : List Reward} :
    upsertRewards ctx rewards epoch db = some db' ↔
      (∀ reward ∈ rewards, (fromReward ctx epoch reward).validator ∈ db.validators.keys) ∧
      (∀ chunk ∈ chunks (Chain.Votes.MAX_PARAM_SIZE / rewardsColCount) rewards,
        (chunk.map fun reward => (fromReward ctx epoch reward).key).Nodup) ∧
      ∃ stored, (rewards.map (fromReward ctx epoch)).foldlM (Table.put setRewardAmount)
          db.posRewards = some stored ∧
        { db with posRewards := stored } = db' := by
  have hstep : ∀ db list db', upsertRewardsChunk ctx epoch db list = some db' ↔
      (∀ reward ∈ list, (fromReward ctx epoch reward).validator ∈ db.validators.keys) ∧
        ∃ rows, Table.upsert setRewardAmount db.posRewards (list.map (fromReward ctx epoch)) =
          some rows ∧ { db with posRewards := rows } = db' := by
    intro db list db'
    simp [upsertRewardsChunk,Option.bind_eq_some_iff]
  rw [upsertRewards,@foldlM_part _ _ _ (upsertRewardsChunk ctx epoch) ChainDb.posRewards
    (fun db rows => { db with posRewards := rows })
    (fun db list => ∀ reward ∈ list,
      (fromReward ctx epoch reward).validator ∈ db.validators.keys)
    (fun rows list => Table.upsert setRewardAmount rows (list.map (fromReward ctx epoch))) hstep
    (fun _ _ => rfl) (fun _ _ _ => rfl) (fun _ => rfl) (fun _ _ _ => Iff.rfl)]
  simp only [Table.foldlM_upsert_eq_some,flatten_chunks,and_assoc,exists_and_left]
  exact and_congr forall_mem_chunks Iff.rfl

theorem commit_eq_some {rewards : List Reward} {epoch : Epoch} {db db' : StakingDb} :
    commit ctx rewards epoch db = some db' ↔
      ∃ chain, upsertRewards ctx rewards epoch.toInt32 db.chain = some chain ∧
        { db with chain } = db' := by
  simp [commit,Option.bind_eq_some_iff]

theorem processEpoch_eq_ok {answers : Answers} {epoch : Epoch} {db db' : StakingDb} :
    (processEpoch ctx answers epoch db).run = .returns (.ok db') ↔
      ∃ rewards, (queryNonZeroRewards ctx answers epoch).run = .returns (.ok rewards) ∧
        commit ctx rewards epoch db = some db' := by
  unfold processEpoch
  rw [Panicking.run_bind_eq_ok]
  simp only [Chain.run_orError_eq_ok]

theorem processEpoch_ne_taskJoinError (answers : Answers) (epoch : Epoch) (db : StakingDb) :
    (processEpoch ctx answers epoch db).run ≠ .returns (.error .taskJoinError) := by
  refine run_bind_ne ?_ fun _ => run_orError_ne (by decide)
  refine run_bind_ne (run_orError_ne (by decide)) fun pairs => ?_
  refine run_bind_ne run_mayPanic_ne fun queried => ?_
  exact run_bind_ne (run_orError_ne (by decide)) fun _ h => by cases h

end

/-- The rewards crawler beside others. -/
def crawler {ω : Type*} (ctx : Context) (others : ω → StakingDb → Option StakingDb) :
    EpochCrawler StakingDb Answers ω :=
  ⟨processEpoch ctx,others,processEpoch_ne_taskJoinError⟩

end NamadaIndexer.Rewards
