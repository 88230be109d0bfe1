import NamadaIndexer.Pos.Staking

/-! The columns of the table of validators. The chain crawler inserts whole rows and changes single
columns, the crawler of validators overwrites some columns at every epoch. -/
namespace NamadaIndexer.Pos
open NamadaIndexer.Foundation NamadaIndexer.Foundation.Runs NamadaIndexer.Shared
open NamadaIndexer.Chain (ChainDb Context Gathered ValidatorDb addressOfChange setColumns
  setValidator)

/-- What happens to the row of a validator. -/
inductive ValidatorEvent
  | replaced (row : ValidatorDb)
  | polled (row : ValidatorDb)
  | changed (change : ValidatorStateChange ⊕ ValidatorMetadataChange)

/-- A column, whether the crawler of validators overwrites it, and what a change sets it to. -/
structure Column (γ : Type) where
  read : ValidatorDb → γ
  polled : Bool
  changed : ValidatorStateChange ⊕ ValidatorMetadataChange → Option γ
  read_address : ∀ (row : ValidatorDb) namadaAddress, read { row with namadaAddress } = read row
  read_polled : ∀ old new row, setVotingPower.run old new = some row →
    read row = if polled then read new else read old
  read_changed : ∀ change row, read (setColumns change row) = (changed change).getD (read row)

namespace Column

/-- A column of metadata. -/
def ofMetadata (read : ValidatorDb → Option String)
    (changed : ValidatorMetadataChange → Option String)
    (read_address : ∀ (row : ValidatorDb) namadaAddress, read { row with namadaAddress } = read row)
    (read_polled : ∀ old new row, setVotingPower.run old new = some row → read row = read old)
    (read_state : ∀ (row : ValidatorDb) state, read { row with state } = read row)
    (read_metadata : ∀ change row,
      read (setColumns (.inr change) row) = (changed change).or (read row)) :
    Column (Option String) where
  read := read
  polled := false
  changed
    | .inl _ => none
    | .inr change => (changed change).map some
  read_address := read_address
  read_polled := read_polled
  read_changed := by
    intro change row
    cases change with
    | inl change => exact read_state row change.state
    | inr change =>
      rw [read_metadata]
      dsimp only
      cases changed change <;> rfl

def votingPower : Column Int32 :=
  ⟨ValidatorDb.votingPower,true,fun _ => none,fun _ _ => rfl,by rintro _ _ _ ⟨⟩; rfl,
    fun change _ => by cases change <;> rfl⟩

def maxCommission : Column String :=
  ⟨ValidatorDb.maxCommission,true,fun _ => none,fun _ _ => rfl,by rintro _ _ _ ⟨⟩; rfl,
    fun change _ => by cases change <;> rfl⟩

def commission : Column String :=
  ⟨ValidatorDb.commission,true,Sum.elim (fun _ => none) ValidatorMetadataChange.commission,
    fun _ _ => rfl,by rintro _ _ _ ⟨⟩; rfl,fun change _ => by cases change <;> rfl⟩

def state : Column ValidatorState :=
  ⟨ValidatorDb.state,true,Sum.elim (fun change => some change.state) fun _ => none,
    fun _ _ => rfl,by rintro _ _ _ ⟨⟩; rfl,fun change _ => by cases change <;> rfl⟩

def name : Column (Option String) :=
  ofMetadata ValidatorDb.name ValidatorMetadataChange.name (fun _ _ => rfl)
    (by rintro _ _ _ ⟨⟩; rfl) (fun _ _ => rfl) fun _ _ => rfl

def email : Column (Option String) :=
  ofMetadata ValidatorDb.email ValidatorMetadataChange.email (fun _ _ => rfl)
    (by rintro _ _ _ ⟨⟩; rfl) (fun _ _ => rfl) fun _ _ => rfl

def website : Column (Option String) :=
  ofMetadata ValidatorDb.website ValidatorMetadataChange.website (fun _ _ => rfl)
    (by rintro _ _ _ ⟨⟩; rfl) (fun _ _ => rfl) fun _ _ => rfl

def description : Column (Option String) :=
  ofMetadata ValidatorDb.description ValidatorMetadataChange.description (fun _ _ => rfl)
    (by rintro _ _ _ ⟨⟩; rfl) (fun _ _ => rfl) fun _ _ => rfl

def discordHandle : Column (Option String) :=
  ofMetadata ValidatorDb.discordHandle ValidatorMetadataChange.discordHandler (fun _ _ => rfl)
    (by rintro _ _ _ ⟨⟩; rfl) (fun _ _ => rfl) fun _ _ => rfl

def avatar : Column (Option String) :=
  ofMetadata ValidatorDb.avatar ValidatorMetadataChange.avatar (fun _ _ => rfl)
    (by rintro _ _ _ ⟨⟩; rfl) (fun _ _ => rfl) fun _ _ => rfl

end Column

section
variable (ctx : Context) (address : String)

/-- What a transaction does to the table. -/
def validatorEvents : Transaction → List ValidatorEvent
  | .initialQuery data =>
    (data.validatorSet.filterMap (ValidatorDb.fromValidator ctx)).map .replaced
  | .block gathered _ =>
    ((gathered.validators ctx).filterMap (ValidatorDb.fromValidator ctx)).map .replaced ++
      (gathered.validatorChanges ctx).map .changed
  | .validatorSet validatorsSet _ => (validatorsSet.filterMap (fromValidator ctx)).map .polled
  | .reindexBonds _ _ | .rewards _ _ => []

/-- The cell of the validator after one more event. -/
def applyValidator (cell : Option ValidatorDb) : ValidatorEvent → Option ValidatorDb
  | .replaced row => if row.namadaAddress = address then Table.putRow setValidator cell row else cell
  | .polled row => if row.namadaAddress = address then Table.putRow setVotingPower cell row else cell
  | .changed change =>
    if (addressOfChange change).toString ctx.sdk = address then cell.map (setColumns change)
    else cell

/-- The column of the validator: every insertion makes it, and changes and polls may write it. -/
def Column.register {γ : Type} (column : Column γ) : Register ValidatorEvent γ where
  made
    | .replaced row | .polled row =>
      if row.namadaAddress = address then some (column.read row) else none
    | .changed _ => none
  written
    | .replaced row => if row.namadaAddress = address then some (column.read row) else none
    | .polled row =>
      if row.namadaAddress = address ∧ column.polled = true then some (column.read row) else none
    | .changed change =>
      if (addressOfChange change).toString ctx.sdk = address then column.changed change else none

/-- The row of the validator, column by column. -/
def recorded (events : List ValidatorEvent) : Option ValidatorDb := do
  let votingPower ← (Column.votingPower.register ctx address).read events
  let maxCommission ← (Column.maxCommission.register ctx address).read events
  let commission ← (Column.commission.register ctx address).read events
  let name ← (Column.name.register ctx address).read events
  let email ← (Column.email.register ctx address).read events
  let website ← (Column.website.register ctx address).read events
  let description ← (Column.description.register ctx address).read events
  let discordHandle ← (Column.discordHandle.register ctx address).read events
  let avatar ← (Column.avatar.register ctx address).read events
  let state ← (Column.state.register ctx address).read events
  return ⟨address,votingPower,maxCommission,commission,name,email,website,description,discordHandle,
    avatar,state⟩

end

section
variable {ctx : Context} {address : String} {db db' : StakingDb}

/-- A column of the cell is its register. -/
theorem map_read {γ : Type} (column : Column γ) (events : List ValidatorEvent) :
    (events.foldl (applyValidator ctx address) none).map column.read =
      (column.register ctx address).read events := by
  apply Register.map_foldl
  · intro event
    cases event with
    | replaced row =>
      simp only [applyValidator,Column.register]
      split <;> rfl
    | polled row =>
      simp only [applyValidator,Column.register]
      split <;> rfl
    | changed change =>
      simp only [applyValidator,Column.register]
      split <;> rfl
  · intro event old
    cases event with
    | replaced row =>
      simp only [applyValidator,Column.register]
      split
      · exact congrArg some (column.read_address row old.namadaAddress)
      · rfl
    | polled row =>
      simp only [applyValidator,Column.register]
      split
      · rename_i hown
        rw [Table.putRow_some]
        obtain ⟨new,hnew⟩ : ∃ new, setVotingPower.run old row = some new := ⟨_,rfl⟩
        rw [hnew,Option.map_some,column.read_polled old row new hnew]
        cases column.polled <;> simp [hown]
      · rename_i hother
        rw [if_neg fun h => hother h.1]
        rfl
    | changed change =>
      simp only [applyValidator,Column.register]
      split
      · rw [Option.map_some,Option.map_some,column.read_changed]
        cases column.changed change <;> rfl
      · rfl

lemma filterMap_of_mapM {α β : Type} {f : α → Option β} {as : List α} {bs : List β}
    (h : as.mapM f = some bs) : as.filterMap f = bs := by
  induction as generalizing bs with
  | nil =>
    obtain rfl := Option.some.inj h
    rfl
  | cons a as ih =>
    rw [List.mapM_cons] at h
    obtain ⟨b,hb,htail⟩ := Option.bind_eq_some_iff.mp h
    obtain ⟨rest,hrest,hbs⟩ := Option.bind_eq_some_iff.mp htail
    rw [List.filterMap_cons_some hb,ih hrest]
    exact Option.some.inj hbs

/-- The changes of a block in the cell of a validator. -/
lemma map_changed (gathered : Gathered) {cell : Option ValidatorDb}
    (hcell : ∀ row ∈ cell, row.namadaAddress = address) :
    cell.map (gathered.changed ctx) =
      ((gathered.validatorChanges ctx).map ValidatorEvent.changed).foldl
        (applyValidator ctx address) cell := by
  unfold Gathered.changed
  generalize gathered.validatorChanges ctx = changes
  induction changes generalizing cell with
  | nil => cases cell <;> rfl
  | cons change changes ih =>
    have hnext : ∀ row ∈ applyValidator ctx address cell (.changed change),
        row.namadaAddress = address := by
      intro row hrow
      rw [applyValidator] at hrow
      split at hrow
      · obtain ⟨old,hold,rfl⟩ := Option.map_eq_some_iff.mp hrow
        rw [Chain.namadaAddress_setColumns]
        exact hcell old hold
      · exact hcell row hrow
    rw [List.map_cons,List.foldl_cons,←ih hnext]
    cases cell with
    | none =>
      rw [applyValidator]
      split <;> rfl
    | some row =>
      rw [applyValidator,←hcell row rfl]
      by_cases hown : row.namadaAddress = (addressOfChange change).toString ctx.sdk
      · simp [hown]
      · simp [hown,Ne.symm hown]

/-- What a transaction makes of the cell of a validator. -/
theorem find?_validators_step {transaction : Transaction}
    (h : transaction.step ctx db = some db') :
    db'.chain.validators.find? address =
      (validatorEvents ctx transaction).foldl (applyValidator ctx address)
        (db.chain.validators.find? address) := by
  cases transaction with
  | initialQuery data =>
    obtain ⟨chain,hchain,rfl⟩ := Option.map_eq_some_iff.mp h
    obtain ⟨rows,hrows,hstored⟩ := (Chain.committed_of_commitInitial hchain).validators
    rw [validatorEvents,filterMap_of_mapM hrows,List.foldl_map]
    exact Table.find?_upsert hstored address
  | block gathered shouldUpdateCrawlerState =>
    obtain ⟨chain,hchain,rfl⟩ := Option.map_eq_some_iff.mp h
    obtain ⟨rows,stored,hrows,hstored,hupdated⟩ := (Chain.committed_of_commit hchain).validators
    have hmap := congrArg (fun f => List.map f stored.rows) (@Chain.changed_eq ctx gathered)
    have hreplaced : stored.find? address = (rows.map ValidatorEvent.replaced).foldl
        (applyValidator ctx address) (db.chain.validators.find? address) := by
      rw [List.foldl_map]
      exact Table.find?_upsert hstored address
    rw [validatorEvents,filterMap_of_mapM hrows,List.foldl_append,←hreplaced,
      ←map_changed gathered fun row hrow => (Table.find?_eq_some.mp hrow).2]
    exact Table.find?_map (Chain.namadaAddress_changed gathered) (hupdated.trans hmap.symm) address
  | reindexBonds client done =>
    obtain rfl := Option.some.inj h
    obtain ⟨bonds,unbonds,hsame⟩ := reindexBonds_frame client done db.chain
    dsimp only
    rw [hsame]
    rfl
  | validatorSet validatorsSet epochToProcess =>
    obtain ⟨chain,hchain,rfl⟩ := commit_eq_some.mp h
    obtain ⟨rows,hrows,stored,hstored,rfl⟩ := upsertValidators_eq_some.mp hchain
    rw [validatorEvents,filterMap_of_mapM hrows,List.foldl_map]
    exact Table.find?_upsert hstored address
  | rewards nonZeroRewards epochToProcess =>
    obtain ⟨chain,hchain,rfl⟩ := Rewards.commit_eq_some.mp h
    obtain ⟨-,-,_,-,rfl⟩ := Rewards.upsertRewards_eq_some.mp hchain
    rfl

/-- The cells that start out empty are what is recorded. -/
theorem foldl_applyValidator_eq_recorded (events : List ValidatorEvent)
    {cell : Option ValidatorDb} (hfold : events.foldl (applyValidator ctx address) none = cell)
    (hcell : ∀ row ∈ cell, row.namadaAddress = address) : cell = recorded ctx address events := by
  simp only [recorded,←map_read,hfold]
  cases cell with
  | none => rfl
  | some row =>
    obtain rfl := hcell row rfl
    rfl

/-- In every run of the transactions, the table of validators is what is recorded. -/
theorem find?_eq_recorded {transactions : List Transaction}
    (hrun : execute (Transaction.step ctx) .empty transactions = some db) :
    db.chain.validators.find? address =
      recorded ctx address (transactions.flatMap (validatorEvents ctx)) := by
  refine foldl_applyValidator_eq_recorded _ ?_ fun row hrow => (Table.find?_eq_some.mp hrow).2
  exact (observe_execute (fun db : StakingDb => db.chain.validators.find? address)
    (fun _ _ _ h => find?_validators_step h) hrun).symm

end

/-- What an entry in the log of the system did to the table. -/
def logEvents (ctx : Context) : EpochCrawler.Commit Answers Transaction → List ValidatorEvent
  | .epoch epoch answers =>
    match Chain.resultOf (getValidatorSetAtEpoch ctx answers) with
    | some validatorsSet => validatorEvents ctx (.validatorSet validatorsSet epoch)
    | none => []
  | .other transaction => validatorEvents ctx transaction

/-- The crawler of validators and the transactions of all crawlers beside it. -/
def system (ctx : Context) : EpochCrawler StakingDb Answers Transaction :=
  crawler ctx fun transaction db => transaction.step ctx db

lemma find?_validators_replay {ctx : Context} {address : String} {db db' : StakingDb}
    {commit : EpochCrawler.Commit Answers Transaction}
    (h : (system ctx).replay db commit = some db') :
    db'.chain.validators.find? address =
      (logEvents ctx commit).foldl (applyValidator ctx address)
        (db.chain.validators.find? address) := by
  cases commit with
  | other transaction => exact find?_validators_step h
  | epoch epoch answers =>
    obtain ⟨validatorsSet,hquery,hcommit⟩ := processEpoch_eq_ok.mp (Chain.resultOf_eq_some.mp h)
    rw [logEvents,Chain.resultOf_eq_some.mpr hquery]
    have hstep : (Transaction.validatorSet validatorsSet epoch).step ctx db = some db' := hcommit
    exact find?_validators_step hstep

/-- However the process of the crawler of validators is stopped and started among the transactions
of the others, it commits the epochs one after the other and none before the node has reached it,
and every column of every validator holds what was written to it last since its row was made. -/
theorem validators_are_recorded (ctx : Context)
    (labels : List (EpochCrawler.Label Answers Transaction))
    (s : EpochCrawler.System StakingDb Answers Transaction)
    (hrun : execute (EpochCrawler.System.step (system ctx)) (.fresh .empty) labels = some s) :
    (∀ process, s.process = some process →
      ∃ next, EpochCrawler.Consecutive process.start next process.committed) ∧
    ∀ address, s.db.chain.validators.find? address =
      recorded ctx address (s.log.flatMap (logEvents ctx)) := by
  have hs := EpochCrawler.consistent_of_execute hrun
  constructor
  · intro process hprocess
    obtain ⟨next,-,-,hconsecutive⟩ := hs.inOrder process hprocess
    exact ⟨next,hconsecutive⟩
  · intro address
    refine foldl_applyValidator_eq_recorded _ ?_ fun row hrow => (Table.find?_eq_some.mp hrow).2
    exact (observe_execute (fun db : StakingDb => db.chain.validators.find? address)
      (fun _ _ _ h => find?_validators_replay h) hs.replayed).symm

/-- A block in which v1 takes a name and another commission. -/
def namingGathered : Gathered where
  current := ⟨7,7,⟨[],[]⟩,.established "nam",1,Chain.Votes.voteBlock []⟩
  changes := []
  tokenSupplies := []
  rateLimits := []
  maspRates := []
  balances := []
  proposals := []
  bonds := []
  redelegations := []
  unbonds := []
  metadataChange := [⟨.ofAddress Sdk.sample (.established "v1"),some "0.2",some "first",none,none,
    none,none,none⟩]

def oneValidator (validatorState : NamadaValidatorState) : Answers where
  allValidators := some [.established "v1"]
  validatorStake _ := some "0"
  commissionRate _ := some ⟨some "0.1",some "0.01"⟩
  validatorState _ := some (some validatorState)
  completion := .asStarted

/-- Between two epochs, the chain crawler stores the block. -/
def namingRun : List (EpochCrawler.Label Answers Transaction) :=
  [.start 1,.poll,.call ⟨some 2,some (),oneValidator .consensus,.committed⟩,
    .other (.block namingGathered true),
    .poll,.call ⟨some 2,some (),oneValidator .jailed,.committed⟩]

theorem validators_of_namingRun :
    ∃ s, execute (EpochCrawler.System.step (system (Chain.sampleContext bondTx))) (.fresh .empty)
        namingRun = some s ∧
      s.db.chain.validators.find? "tnam1qv1" =
        some ⟨"tnam1qv1",0,"0.01","0.1",some "first",none,none,none,none,none,.jailed⟩ := by
  have hrow : (execute (EpochCrawler.System.step (system (Chain.sampleContext bondTx)))
      (.fresh .empty) namingRun).map (fun s => recorded (Chain.sampleContext bondTx) "tnam1qv1"
        (s.log.flatMap (logEvents (Chain.sampleContext bondTx)))) =
      some (some ⟨"tnam1qv1",0,"0.01","0.1",some "first",none,none,none,none,none,.jailed⟩) := by
    decide +kernel
  obtain ⟨s,hrun,hrow⟩ := Option.map_eq_some_iff.mp hrow
  refine ⟨s,hrun,?_⟩
  rw [(validators_are_recorded (Chain.sampleContext bondTx) namingRun s hrun).2]
  exact hrow

end NamadaIndexer.Pos
