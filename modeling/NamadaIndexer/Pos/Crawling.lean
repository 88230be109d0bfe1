import NamadaIndexer.Foundation.Cells
import NamadaIndexer.Shared.EpochCrawler

/-! The crawler of validators. At every epoch it puts what the node knows of each validator beside
the metadata that the chain crawler keeps. -/
namespace NamadaIndexer.Pos
open NamadaIndexer.Foundation NamadaIndexer.Shared
open NamadaIndexer.Chain (Attempt ChainDb Context ValidatorDb orError overwrite)

inductive NamadaValidatorState
  | consensus
  | belowCapacity
  | belowThreshold
  | inactive
  | jailed
  deriving DecidableEq, Repr

/-- `From<NamadaValidatorState> for ValidatorState` -/
def stateOfNamada : NamadaValidatorState → ValidatorState
  | .consensus => .consensus
  | .belowCapacity => .belowCapacity
  | .belowThreshold => .belowThreshold
  | .inactive => .inactive
  | .jailed => .jailed

structure CommissionPair where
  commissionRate : Option String
  maxCommissionChangePerEpoch : Option String
  deriving DecidableEq, Repr

/-- What the node answers for an epoch, as far as its queries succeed. The stakes and the rates are
the texts that are made of them. -/
structure Answers where
  allValidators : Option (List Address)
  validatorStake : Address → Option String
  commissionRate : Address → Option CommissionPair
  validatorState : Address → Option (Option NamadaValidatorState)
  completion : CompletionOrder

/-- The row of this crawler in `crawler_state`, without its timestamp. -/
structure EpochCrawlerStateDb where
  lastProcessedEpoch : Int32
  deriving DecidableEq, Repr

/-- The tables of the chain crawler, with the state of this one. -/
structure StakingDb where
  chain : ChainDb
  posState : Option EpochCrawlerStateDb

def StakingDb.empty : StakingDb := ⟨.empty,none⟩

section
variable (ctx : Context)

/-- The future of one validator in `get_validator_set_at_epoch`. -/
def validatorAtEpoch (answers : Answers) (address : Address) : Attempt Validator := do
  let votingPower ← orError .rpcError (answers.validatorStake address)
  let commissionPair ← orError .rpcError (answers.commissionRate address)
  let validatorState ← orError .rpcError (answers.validatorState address)
  let commission ← Chain.mayPanic
    (Panicking.expect "Commission rate has to exist" commissionPair.commissionRate)
  let maxCommission ← Chain.mayPanic
    (Panicking.expect "Max commission rate change has to exist"
      commissionPair.maxCommissionChangePerEpoch)
  return {
    address := .account (ctx.sdk.encode address)
    votingPower
    maxCommission
    commission
    name := none
    email := none
    description := none
    website := none
    discordHandler := none
    avatar := none
    state := (validatorState.map stateOfNamada).getD .unknown }

/-- `get_validator_set_at_epoch`, in the order in which the validators are answered for. -/
def getValidatorSetAtEpoch (answers : Answers) : Attempt (List Validator) := do
  let validatorSet ← orError .rpcError answers.allValidators
  let validators ←
    (answers.completion.complete (ctx.order.visit validatorSet)).mapM (validatorAtEpoch ctx answers)
  return ctx.order.visit validators

/-- `ValidatorInsertDb::from_validator`. The columns that are not inserted are null. -/
def fromValidator (validator : Validator) : Option ValidatorDb := do
  let votingPower ← ctx.votingPower validator.votingPower
  return {
    namadaAddress := validator.address.toString ctx.sdk
    votingPower
    maxCommission := validator.maxCommission
    commission := validator.commission
    name := none
    email := none
    website := none
    description := none
    discordHandle := none
    avatar := none
    state := validator.state }

/-- `SET` the voting power, the commissions and the state -/
def setVotingPower : Table.Merge ValidatorDb.namadaAddress :=
  overwrite (fun old new =>
    { old with
      votingPower := new.votingPower
      maxCommission := new.maxCommission
      commission := new.commission
      state := new.state }) fun _ _ => rfl

/-- `upsert_validators`, with the conversion before it -/
def upsertValidators (validators : List Validator) (db : ChainDb) : Option ChainDb := do
  let rows ← validators.mapM (fromValidator ctx)
  let validators ← Table.upsert setVotingPower db.validators rows
  return { db with validators }

/-- `upsert_crawler_state` -/
def upsertCrawlerState (lastProcessedEpoch : Epoch) (db : StakingDb) : StakingDb :=
  { db with posState := some ⟨lastProcessedEpoch.toInt32⟩ }

/-- The transaction of `crawling_fn`. -/
def commit (validators : List Validator) (epoch : Epoch) (db : StakingDb) : Option StakingDb := do
  let chain ← upsertValidators ctx validators db.chain
  return upsertCrawlerState epoch { db with chain }

/-- `crawling_fn`, once the node has reached the epoch. -/
def processEpoch (answers : Answers) (epochToProcess : Epoch) (db : StakingDb) :
    Attempt StakingDb := do
  let validatorsSet ← getValidatorSetAtEpoch ctx answers
  orError .database (commit ctx validatorsSet epochToProcess db)

end

section
variable {ctx : Context}

theorem upsertValidators_eq_some {validators : List Validator} {db db' : ChainDb} :
    upsertValidators ctx validators db = some db' ↔
      ∃ rows, validators.mapM (fromValidator ctx) = some rows ∧
        ∃ stored, Table.upsert setVotingPower db.validators rows = some stored ∧
          { db with validators := stored } = db' := by
  simp [upsertValidators,Option.bind_eq_some_iff]

theorem commit_eq_some {validators : List Validator} {epoch : Epoch} {db db' : StakingDb} :
    commit ctx validators epoch db = some db' ↔
      ∃ chain, upsertValidators ctx validators db.chain = some chain ∧
        ⟨chain,some ⟨epoch.toInt32⟩⟩ = db' := by
  simp [commit,Option.bind_eq_some_iff,upsertCrawlerState]

theorem processEpoch_eq_ok {answers : Answers} {epoch : Epoch} {db db' : StakingDb} :
    (processEpoch ctx answers epoch db).run = .returns (.ok db') ↔
      ∃ validators, (getValidatorSetAtEpoch ctx answers).run = .returns (.ok validators) ∧
        commit ctx validators epoch db = some db' := by
  unfold processEpoch
  rw [Panicking.run_bind_eq_ok]
  simp only [Chain.run_orError_eq_ok]

open EpochCrawler (run_bind_ne run_orError_ne)

lemma run_mayPanic_ne {α : Type} {x : Panicking α} {e : Crawler.MainError} :
    (Chain.mayPanic x).run ≠ .returns (.error e) := by
  intro h
  cases x with
  | returns a => cases h
  | panics message => cases h

lemma run_mapM_ne {α β : Type} {f : α → Attempt β} {e : Crawler.MainError}
    (hf : ∀ a, (f a).run ≠ .returns (.error e)) (l : List α) :
    (l.mapM f).run ≠ .returns (.error e) := by
  induction l with
  | nil =>
    intro h
    cases h
  | cons a l ih =>
    rw [List.mapM_cons]
    refine run_bind_ne (hf a) fun b => run_bind_ne ih fun bs h => ?_
    cases h

theorem processEpoch_ne_taskJoinError (answers : Answers) (epoch : Epoch) (db : StakingDb) :
    (processEpoch ctx answers epoch db).run ≠ .returns (.error .taskJoinError) := by
  refine run_bind_ne ?_ fun _ => run_orError_ne (by decide)
  refine run_bind_ne (run_orError_ne (by decide)) fun validatorSet => ?_
  refine run_bind_ne (run_mapM_ne (fun address => ?_) _) fun _ h => by cases h
  refine run_bind_ne (run_orError_ne (by decide)) fun _ => ?_
  refine run_bind_ne (run_orError_ne (by decide)) fun _ => ?_
  refine run_bind_ne (run_orError_ne (by decide)) fun _ => ?_
  exact run_bind_ne run_mayPanic_ne fun _ => run_bind_ne run_mayPanic_ne fun _ h => by cases h

end

/-- The crawler of validators beside others. `main` starts it at the current epoch of the node. -/
def crawler {ω : Type*} (ctx : Context) (others : ω → StakingDb → Option StakingDb) :
    EpochCrawler StakingDb Answers ω :=
  ⟨processEpoch ctx,others,processEpoch_ne_taskJoinError⟩

end NamadaIndexer.Pos
