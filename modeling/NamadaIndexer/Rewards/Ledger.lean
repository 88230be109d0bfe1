import NamadaIndexer.Pos.Staking

/-! The table of rewards as a ledger. The rewards crawler stores amounts for epochs, and the chain
crawler marks what a delegator has claimed from a validator, in every epoch that is stored then. -/
namespace NamadaIndexer.Rewards
open NamadaIndexer.Foundation NamadaIndexer.Foundation.Runs NamadaIndexer.Shared
open NamadaIndexer.Chain (ChainDb Context Gathered PosRewardDb)
open NamadaIndexer.Pos (StakingDb Transaction)

/-- What happens to the rewards of a delegator, a validator and an epoch. -/
inductive RewardEvent
  | stored (key : String × String × Int32) (amount : Amount)
  | claimed (owner validator : String)
  deriving DecidableEq, Repr

section
variable (ctx : Context) (key : String × String × Int32)

def claimEvent (claimer : Id × Id) : RewardEvent :=
  .claimed (claimer.1.toString ctx.sdk) (claimer.2.toString ctx.sdk)

/-- What a transaction does to the table. -/
def rewardEvents : Transaction → List RewardEvent
  | .block gathered _ => (gathered.rewardClaimers ctx).map (claimEvent ctx)
  | .rewards nonZeroRewards epochToProcess =>
    nonZeroRewards.map fun reward =>
      .stored (fromReward ctx epochToProcess.toInt32 reward).key reward.amount
  | .initialQuery _ | .reindexBonds _ _ | .validatorSet _ _ => []

/-- The amount that the event stores under the key. -/
def storedAmount : RewardEvent → Option Amount
  | .stored other amount => if other = key then some amount else none
  | .claimed _ _ => none

/-- Whether the event is a claim of this delegator from this validator. -/
def claims : RewardEvent → Bool
  | .stored _ _ => false
  | .claimed owner validator => owner = key.1 ∧ validator = key.2.1

/-- The cell of the key after one more event. -/
def applyReward (cell : Option PosRewardDb) : RewardEvent → Option PosRewardDb
  | .stored other amount =>
    if other = key then Table.putRow setRewardAmount cell ⟨key.1,key.2.1,amount,false,key.2.2⟩
    else cell
  | .claimed owner validator =>
    cell.map fun row =>
      if owner = key.1 ∧ validator = key.2.1 then { row with claimed := true } else row

/-- The amount is the one that was stored last. -/
def amountRegister : Register RewardEvent Amount where
  made := storedAmount key
  written := storedAmount key

/-- A reward is new when it is first stored, and is claimed as soon as a claim follows. -/
def claimedRegister : Register RewardEvent Bool where
  made event := (storedAmount key event).map fun _ => false
  written event := if claims key event then some true else none

/-- The entry of the ledger. -/
def recorded (events : List RewardEvent) : Option PosRewardDb := do
  let rawAmount ← (amountRegister key).read events
  let claimed ← (claimedRegister key).read events
  return ⟨key.1,key.2.1,rawAmount,claimed,key.2.2⟩

end

section
variable {ctx : Context} {key : String × String × Int32} {db db' : StakingDb}

/-- The claims of a block in the cell of a key. -/
lemma foldl_claim (rewardClaimers : List (Id × Id)) {cell : Option PosRewardDb}
    (hcell : ∀ row ∈ cell, row.key = key) :
    rewardClaimers.foldl (fun cell claimer => cell.map (Chain.claim ctx claimer)) cell =
      (rewardClaimers.map (claimEvent ctx)).foldl (applyReward key) cell := by
  induction rewardClaimers generalizing cell with
  | nil => rfl
  | cons claimer rewardClaimers ih =>
    have hsame : cell.map (Chain.claim ctx claimer) =
        applyReward key cell (claimEvent ctx claimer) := by
      cases cell with
      | none => rfl
      | some row =>
        obtain rfl := hcell row rfl
        simp only [Option.map_some,applyReward,claimEvent,Chain.claim,PosRewardDb.key,eq_comm]
    rw [List.foldl_cons,List.map_cons,List.foldl_cons,←hsame]
    refine ih fun row hrow => ?_
    obtain ⟨old,hold,rfl⟩ := Option.map_eq_some_iff.mp hrow
    rw [Chain.key_claim]
    exact hcell old hold

/-- What a transaction makes of the cell of a key. -/
theorem find?_step {transaction : Transaction} (h : transaction.step ctx db = some db') :
    db'.chain.posRewards.find? key =
      (rewardEvents ctx transaction).foldl (applyReward key) (db.chain.posRewards.find? key) := by
  cases transaction with
  | initialQuery data =>
    obtain ⟨chain,hchain,rfl⟩ := Option.map_eq_some_iff.mp h
    rw [(Chain.committed_of_commitInitial hchain).posRewards]
    rfl
  | block gathered shouldUpdateCrawlerState =>
    obtain ⟨chain,hchain,rfl⟩ := Option.map_eq_some_iff.mp h
    dsimp only
    rw [(Chain.committed_of_commit hchain).posRewards,Chain.claimed,Table.find?_foldl_mapRows,
      foldl_claim _ fun row hrow => (Table.find?_eq_some.mp hrow).2]
    rfl
  | reindexBonds client done =>
    obtain rfl := Option.some.inj h
    obtain ⟨bonds,unbonds,hsame⟩ := Pos.reindexBonds_frame client done db.chain
    dsimp only
    rw [hsame]
    rfl
  | validatorSet validatorsSet epochToProcess =>
    obtain ⟨chain,hchain,rfl⟩ := Pos.commit_eq_some.mp h
    obtain ⟨_,-,_,-,rfl⟩ := Pos.upsertValidators_eq_some.mp hchain
    rfl
  | rewards nonZeroRewards epochToProcess =>
    obtain ⟨chain,hchain,rfl⟩ := commit_eq_some.mp h
    obtain ⟨-,-,stored,hstored,rfl⟩ := upsertRewards_eq_some.mp hchain
    have hput : ∀ (cell : Option PosRewardDb) (reward : Reward),
        (if (fromReward ctx epochToProcess.toInt32 reward).key = key then
          Table.putRow setRewardAmount cell (fromReward ctx epochToProcess.toInt32 reward)
        else cell) = applyReward key cell
          (.stored (fromReward ctx epochToProcess.toInt32 reward).key reward.amount) := by
      intro cell reward
      rw [applyReward]
      split
      · rename_i hkey
        subst hkey
        rfl
      · rfl
    rw [Table.find?_foldlM_put_eq_foldl hstored,rewardEvents,List.foldl_map,List.foldl_map]
    simp only [hput]

lemma map_rawAmount (events : List RewardEvent) :
    (events.foldl (applyReward key) none).map PosRewardDb.rawAmount =
      (amountRegister key).read events := by
  apply Register.map_foldl
  · intro event
    cases event with
    | claimed owner validator => rfl
    | stored other amount =>
      simp only [applyReward,amountRegister,storedAmount]
      split <;> rfl
  · intro event old
    cases event with
    | claimed owner validator =>
      simp only [applyReward,amountRegister,storedAmount,Option.map_some]
      split <;> rfl
    | stored other amount =>
      simp only [applyReward,amountRegister,storedAmount]
      split <;> rfl

lemma map_claimed (events : List RewardEvent) :
    (events.foldl (applyReward key) none).map PosRewardDb.claimed =
      (claimedRegister key).read events := by
  apply Register.map_foldl
  · intro event
    cases event with
    | claimed owner validator => rfl
    | stored other amount =>
      simp only [applyReward,claimedRegister,storedAmount]
      split <;> rfl
  · intro event old
    cases event with
    | claimed owner validator =>
      simp only [applyReward,claimedRegister,claims,Option.map_some,decide_eq_true_iff]
      split <;> rfl
    | stored other amount =>
      simp only [applyReward,claimedRegister,claims]
      split <;> rfl

/-- The cells that start out empty are the entries of the ledger. -/
theorem foldl_applyReward_eq_recorded (events : List RewardEvent) {cell : Option PosRewardDb}
    (hfold : events.foldl (applyReward key) none = cell) (hcell : ∀ row ∈ cell, row.key = key) :
    cell = recorded key events := by
  rw [recorded,←map_rawAmount,←map_claimed,hfold]
  cases cell with
  | none => rfl
  | some row =>
    obtain rfl := hcell row rfl
    rfl

/-- In every run of the transactions, the table of rewards is the ledger of what happened. -/
theorem find?_eq_recorded {transactions : List Transaction}
    (hrun : execute (Transaction.step ctx) .empty transactions = some db) :
    db.chain.posRewards.find? key =
      recorded key (transactions.flatMap (rewardEvents ctx)) := by
  refine foldl_applyReward_eq_recorded _ ?_ fun row hrow => (Table.find?_eq_some.mp hrow).2
  exact (observe_execute (fun db : StakingDb => db.chain.posRewards.find? key)
    (fun _ _ _ h => find?_step h) hrun).symm

end

/-- What an entry in the log of the system did to the table. -/
def logEvents (ctx : Context) : EpochCrawler.Commit Answers Transaction → List RewardEvent
  | .epoch epoch answers =>
    match Chain.resultOf (queryNonZeroRewards ctx answers epoch) with
    | some nonZeroRewards => rewardEvents ctx (.rewards nonZeroRewards epoch)
    | none => []
  | .other transaction => rewardEvents ctx transaction

/-- The rewards crawler and the transactions of all crawlers beside it. -/
def system (ctx : Context) : EpochCrawler StakingDb Answers Transaction :=
  crawler ctx fun transaction db => transaction.step ctx db

lemma find?_replay {ctx : Context} {key : String × String × Int32} {db db' : StakingDb}
    {commit : EpochCrawler.Commit Answers Transaction}
    (h : (system ctx).replay db commit = some db') :
    db'.chain.posRewards.find? key =
      (logEvents ctx commit).foldl (applyReward key) (db.chain.posRewards.find? key) := by
  cases commit with
  | other transaction => exact find?_step h
  | epoch epoch answers =>
    obtain ⟨nonZeroRewards,hquery,hcommit⟩ := processEpoch_eq_ok.mp (Chain.resultOf_eq_some.mp h)
    rw [logEvents,Chain.resultOf_eq_some.mpr hquery]
    have hstep : (Transaction.rewards nonZeroRewards epoch).step ctx db = some db' := hcommit
    exact find?_step hstep

/-- A block in which alice claims her rewards from v1. -/
def claimGathered : Gathered where
  current := ⟨7,7,⟨[],[]⟩,.established "nam",1,Chain.Votes.voteBlock
    [{ Chain.Votes.voteTx "1" "alice" .yay with
      kind := .claimRewards (some ⟨.established "v1",some (.implicit "alice")⟩) }]⟩
  changes := []
  tokenSupplies := []
  rateLimits := []
  maspRates := []
  balances := []
  proposals := []
  bonds := []
  redelegations := []
  unbonds := []
  metadataChange := []

def aliceReward (amount : Amount) : Reward :=
  ⟨⟨.ofAddress Sdk.sample (.established "v1"),.ofAddress Sdk.sample (.implicit "alice")⟩,amount,0⟩

def aliceAnswers (amount : Amount) : Answers where
  bondIds := some [(.implicit "alice",.established "v1")]
  rewards _ _ := some amount
  completion := .asStarted

/-- The first epoch is stored when the node has reached it, claimed, and stored again by the next
process, together with the second one. -/
def claimedRun : List (EpochCrawler.Label Answers Transaction) :=
  [.other (.validatorSet [⟨.ofAddress Sdk.sample (.established "v1"),"0","0","0",none,none,none,
      none,none,none,.consensus⟩] 1),
    .start 1,.poll,.call ⟨some 1,some (),aliceAnswers 5,.committed⟩,
    .other (.block claimGathered true),.crash,
    .start 1,.poll,.call ⟨some 2,some (),aliceAnswers 6,.committed⟩,
    .poll,.call ⟨some 2,some (),aliceAnswers 7,.committed⟩]

end NamadaIndexer.Rewards
