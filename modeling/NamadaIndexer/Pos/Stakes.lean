import NamadaIndexer.Pos.Columns

/-! The bonds, unbonds and redelegations that are stored after a run of the transactions: each row
is the one that the last transaction about it wrote. -/
namespace NamadaIndexer.Pos
open NamadaIndexer.Foundation NamadaIndexer.Foundation.Runs NamadaIndexer.Shared
open NamadaIndexer.Chain (BondDb ChainDb Context Insertable RedelegationDb UnbondDb setBondAmount
  setEndEpoch setUnbondAmount)

instance (ctx : Context) (bonds : List Shared.Pos.Bond) (unbonds : List Shared.Pos.Unbond) (db : ChainDb) :
    Decidable (Insertable ctx bonds unbonds db) :=
  decidable_of_iff
    (((∀ bond ∈ bonds, (BondDb.fromBond ctx bond).validator ∈ db.validators.keys) ∧
      ∀ chunk ∈ chunks (Chain.Votes.MAX_PARAM_SIZE / Chain.bondsColCount) bonds,
        (chunk.map fun bond => (BondDb.fromBond ctx bond).key).Nodup) ∧
      (∀ unbond ∈ unbonds, (UnbondDb.fromUnbond ctx unbond).validator ∈ db.validators.keys) ∧
      ∀ chunk ∈ chunks (Chain.Votes.MAX_PARAM_SIZE / Chain.unbondsColCount) unbonds,
        (chunk.map fun unbond => (UnbondDb.fromUnbond ctx unbond).key).Nodup)
    ⟨fun ⟨⟨h1,h2⟩,h3,h4⟩ => ⟨h1,h2,h3,h4⟩,fun ⟨h1,h2,h3,h4⟩ => ⟨⟨h1,h2⟩,h3,h4⟩⟩

section
variable (ctx : Context) (db : ChainDb)

/-- The bonds that a re-indexing gets to insert. -/
def reindexedRows (client : Chain.Client) (done : ℕ) : List BondDb × List UnbondDb :=
  match Chain.reindexAnswer ctx client with
  | some (bonds,unbonds) =>
    if 3 ≤ done ∧ Insertable ctx bonds unbonds db then
      (bonds.map (BondDb.fromBond ctx),unbonds.map (UnbondDb.fromUnbond ctx))
    else ([],[])
  | none => ([],[])

/-- The bonds that a transaction writes, in their order. -/
def bondsWritten : Transaction → List BondDb
  | .initialQuery data => data.bonds.map (BondDb.fromBond ctx)
  | .block gathered _ => gathered.bondsUpdates.map (BondDb.fromBond ctx)
  | .reindexBonds client done => (reindexedRows ctx db client done).1
  | .validatorSet _ _ | .rewards _ _ => []

def unbondsWritten : Transaction → List UnbondDb
  | .initialQuery data => data.unbonds.map (UnbondDb.fromUnbond ctx)
  | .block gathered _ => gathered.unbonds.map (UnbondDb.fromUnbond ctx)
  | .reindexBonds client done => (reindexedRows ctx db client done).2
  | .validatorSet _ _ | .rewards _ _ => []

def redelegationsWritten : Transaction → List RedelegationDb
  | .initialQuery data => data.redelegations.map (RedelegationDb.fromRedelegation ctx)
  | .block gathered _ => gathered.redelegations.map (RedelegationDb.fromRedelegation ctx)
  | .reindexBonds _ _ | .validatorSet _ _ | .rewards _ _ => []

/-- A transaction deletes a bond, if there is one, before it writes. A re-indexing deletes all bonds
first of all. -/
def RemovesBond (row : BondDb) : Transaction → Prop
  | .block gathered _ => Chain.Cleared ctx gathered.removedBondsAddresses row
  | .reindexBonds client done => (Chain.reindexAnswer ctx client).isSome ∧ 1 ≤ done
  | .initialQuery _ | .validatorSet _ _ | .rewards _ _ => False

/-- A block deletes the unbonds that were withdrawn after it writes. -/
def Withdraws (row : UnbondDb) : Transaction → Prop
  | .block gathered _ =>
    Chain.withdrawn ctx gathered.current.epoch (gathered.withdrawAddresses ctx) row
  | .initialQuery _ | .reindexBonds _ _ | .validatorSet _ _ | .rewards _ _ => False

/-- A re-indexing deletes the unbonds after the bonds. -/
def RemovesUnbond : Transaction → Prop
  | .reindexBonds client done => (Chain.reindexAnswer ctx client).isSome ∧ 2 ≤ done
  | .initialQuery _ | .block _ _ | .validatorSet _ _ | .rewards _ _ => False

instance (row : BondDb) : DecidablePred (RemovesBond ctx row)
  | .block gathered _ =>
    inferInstanceAs (Decidable (Chain.Cleared ctx gathered.removedBondsAddresses row))
  | .reindexBonds client done =>
    inferInstanceAs (Decidable ((Chain.reindexAnswer ctx client).isSome ∧ 1 ≤ done))
  | .initialQuery _ | .validatorSet _ _ | .rewards _ _ => inferInstanceAs (Decidable False)

instance (row : UnbondDb) : DecidablePred (Withdraws ctx row)
  | .block gathered _ => inferInstanceAs (Decidable (Chain.withdrawn ctx gathered.current.epoch
      (gathered.withdrawAddresses ctx) row = true))
  | .initialQuery _ | .reindexBonds _ _ | .validatorSet _ _ | .rewards _ _ =>
    inferInstanceAs (Decidable False)

instance : DecidablePred (RemovesUnbond ctx)
  | .reindexBonds client done =>
    inferInstanceAs (Decidable ((Chain.reindexAnswer ctx client).isSome ∧ 2 ≤ done))
  | .initialQuery _ | .block _ _ | .validatorSet _ _ | .rewards _ _ =>
    inferInstanceAs (Decidable False)

end

/-- The bond was the last of its key that a transaction wrote, and was not deleted or written over
since then. -/
def BondStored (ctx : Context) (row : BondDb) (transactions : List Transaction) : Prop :=
  Since (Transaction.step ctx)
    (fun db transaction => IsFirst BondDb.key (bondsWritten ctx db.chain transaction).reverse row)
    (fun db transaction => ¬ RemovesBond ctx row transaction ∧
      row.key ∉ (bondsWritten ctx db.chain transaction).map BondDb.key)
    .empty transactions

/-- The same for an unbond. In the block that withdraws it, it may be written in vain. -/
def UnbondStored (ctx : Context) (row : UnbondDb) (transactions : List Transaction) : Prop :=
  Since (Transaction.step ctx)
    (fun db transaction => ¬ Withdraws ctx row transaction ∧
      IsFirst UnbondDb.key (unbondsWritten ctx db.chain transaction).reverse row)
    (fun db transaction => ¬ Withdraws ctx row transaction ∧ ¬ RemovesUnbond ctx transaction ∧
      row.key ∉ (unbondsWritten ctx db.chain transaction).map UnbondDb.key)
    .empty transactions

/-- The same for a redelegation, which is never deleted. -/
def RedelegationStored (ctx : Context) (row : RedelegationDb) (transactions : List Transaction) :
    Prop :=
  Since (Transaction.step ctx)
    (fun _ transaction =>
      IsFirst RedelegationDb.key (redelegationsWritten ctx transaction).reverse row)
    (fun _ transaction =>
      row.key ∉ (redelegationsWritten ctx transaction).map RedelegationDb.key)
    .empty transactions

section
variable {ctx : Context} {db db' : ChainDb}

lemma mem_deleteRows {ρ κ : Type*} {key : ρ → κ} {table : Table key} {gone : ρ → Bool} {row : ρ} :
    row ∈ (Chain.deleteRows table gone).rows ↔ row ∈ table.rows ∧ ¬ gone row := by
  simp [Chain.deleteRows]

lemma setEndEpoch_replaces {old new : RedelegationDb} (h : old.key = new.key) :
    setEndEpoch.run old new = some new := by
  obtain ⟨delegator,validator,endEpoch⟩ := old
  obtain ⟨hdelegator,hvalidator⟩ := Prod.mk.inj h
  dsimp only at hdelegator hvalidator
  subst hdelegator hvalidator
  rfl

/-- Where a re-indexing may end: before the first deletion, after it, after both, or after the
transaction that fills the tables again. -/
lemma reindexBonds_cases {client : Chain.Client} {bonds : List Shared.Pos.Bond}
    {unbonds : List Shared.Pos.Unbond}
    (hanswer : Chain.reindexAnswer ctx client = some (bonds,unbonds)) (done : ℕ) (db : ChainDb) :
    (done = 0 ∧ Chain.reindexBonds ctx client done db = db) ∨
    (done = 1 ∧ Chain.reindexBonds ctx client done db = { db with bonds := .empty }) ∨
    (2 ≤ done ∧ ¬ (3 ≤ done ∧ Insertable ctx bonds unbonds db) ∧
      Chain.reindexBonds ctx client done db = { db with bonds := .empty, unbonds := .empty }) ∨
    ((3 ≤ done ∧ Insertable ctx bonds unbonds db) ∧
      Chain.BondsAre ctx bonds (Chain.reindexBonds ctx client done db) ∧
      Chain.UnbondsAre ctx unbonds (Chain.reindexBonds ctx client done db)) := by
  have hunits : Chain.reindexBonds ctx client done db =
      cutOff (Chain.reindexUnits ctx bonds unbonds) done db := by
    rw [Chain.reindexBonds,hanswer]
  rw [hunits]
  match done with
  | 0 => exact .inl ⟨rfl,cutOff_zero _ _⟩
  | 1 => exact .inr (.inl ⟨rfl,rfl⟩)
  | 2 => exact .inr (.inr (.inl ⟨le_rfl,by omega,rfl⟩))
  | done+3 =>
    generalize hcleared : { db with bonds := Table.empty, unbonds := Table.empty } = cleared
    have hleft : cutOff (Chain.reindexUnits ctx bonds unbonds) (done+3) db =
        cutOff [fun db => (Chain.insertBonds ctx bonds db).bind (Chain.insertUnbonds ctx unbonds)]
          (done+1) cleared := by
      rw [←hcleared]
      rfl
    have hinsertable : Insertable ctx bonds unbonds cleared ↔ Insertable ctx bonds unbonds db := by
      subst hcleared
      exact ⟨fun ⟨h1,h2,h3,h4⟩ => ⟨h1,h2,h3,h4⟩,fun ⟨h1,h2,h3,h4⟩ => ⟨h1,h2,h3,h4⟩⟩
    rw [hleft]
    cases hrun : (Chain.insertBonds ctx bonds cleared).bind (Chain.insertUnbonds ctx unbonds) with
    | none =>
      rw [cutOff_succ_of_none hrun,←hinsertable,←Chain.refill_isSome_iff,hrun]
      exact .inr (.inr (.inl ⟨by omega,by simp,rfl⟩))
    | some refilled =>
      rw [cutOff_succ_of_some hrun,cutOff_nil,←hinsertable,←Chain.refill_isSome_iff,hrun]
      refine .inr (.inr (.inr ⟨⟨by omega,rfl⟩,?_⟩))
      exact Chain.refill_eq_some (by rw [←hcleared]) (by rw [←hcleared]) hrun

/-- What a transaction does to one bond. -/
lemma mem_bonds_step {transaction : Transaction} {db db' : StakingDb} {row : BondDb}
    (hstep : transaction.step ctx db = some db') :
    row ∈ db'.chain.bonds.rows ↔
      IsFirst BondDb.key (bondsWritten ctx db.chain transaction).reverse row ∨
      (¬ RemovesBond ctx row transaction ∧
        row.key ∉ (bondsWritten ctx db.chain transaction).map BondDb.key) ∧
        row ∈ db.chain.bonds.rows := by
  cases transaction with
  | initialQuery data =>
    obtain ⟨chain,hchain,rfl⟩ := Option.map_eq_some_iff.mp hstep
    rw [Table.mem_foldlM_put_iff_isFirst Chain.setBondAmount_replaces
      (Chain.committed_of_commitInitial hchain).bonds]
    simp only [bondsWritten,RemovesBond,not_false_eq_true,true_and]
  | block gathered shouldUpdateCrawlerState =>
    obtain ⟨chain,hchain,rfl⟩ := Option.map_eq_some_iff.mp hstep
    rw [Table.mem_foldlM_put_iff_isFirst Chain.setBondAmount_replaces
      (Chain.committed_of_commit hchain).bonds,mem_deleteRows]
    simp only [bondsWritten,RemovesBond,decide_eq_true_eq]
    tauto
  | reindexBonds client done =>
    obtain rfl := Option.some.inj hstep
    cases hanswer : Chain.reindexAnswer ctx client with
    | none => simp [Chain.reindexBonds,bondsWritten,reindexedRows,RemovesBond,hanswer,IsFirst]
    | some answer =>
      obtain ⟨bonds,unbonds⟩ := answer
      rcases reindexBonds_cases hanswer done db.chain with
        ⟨rfl,hleft⟩ | ⟨rfl,hleft⟩ | ⟨hdone,hnot,hleft⟩ | ⟨hdone,hbonds,-⟩
      · rw [hleft]
        simp [bondsWritten,reindexedRows,RemovesBond,hanswer,IsFirst]
      · rw [hleft]
        simp [bondsWritten,reindexedRows,RemovesBond,hanswer,IsFirst]
      · rw [hleft]
        simp only [bondsWritten,reindexedRows,hanswer,if_neg hnot,RemovesBond]
        exact iff_of_false (by simp) (by simp [IsFirst]; omega)
      · rw [hbonds row]
        simp only [bondsWritten,reindexedRows,hanswer,if_pos hdone,RemovesBond]
        exact (or_iff_left fun ⟨⟨hkept,_⟩,_⟩ => hkept ⟨rfl,by omega⟩).symm
  | validatorSet validatorsSet epochToProcess =>
    obtain ⟨chain,hchain,rfl⟩ := commit_eq_some.mp hstep
    obtain ⟨rows,-,stored,hstored,rfl⟩ := upsertValidators_eq_some.mp hchain
    simp [bondsWritten,RemovesBond,IsFirst]
  | rewards nonZeroRewards epochToProcess =>
    obtain ⟨chain,hchain,rfl⟩ := Rewards.commit_eq_some.mp hstep
    obtain ⟨-,-,stored,-,rfl⟩ := Rewards.upsertRewards_eq_some.mp hchain
    simp [bondsWritten,RemovesBond,IsFirst]

/-- What a transaction does to one unbond. -/
lemma mem_unbonds_step {transaction : Transaction} {db db' : StakingDb} {row : UnbondDb}
    (hstep : transaction.step ctx db = some db') :
    row ∈ db'.chain.unbonds.rows ↔
      (¬ Withdraws ctx row transaction ∧
        IsFirst UnbondDb.key (unbondsWritten ctx db.chain transaction).reverse row) ∨
      (¬ Withdraws ctx row transaction ∧ ¬ RemovesUnbond ctx transaction ∧
        row.key ∉ (unbondsWritten ctx db.chain transaction).map UnbondDb.key) ∧
        row ∈ db.chain.unbonds.rows := by
  cases transaction with
  | initialQuery data =>
    obtain ⟨chain,hchain,rfl⟩ := Option.map_eq_some_iff.mp hstep
    rw [Table.mem_foldlM_put_iff_isFirst Chain.setUnbondAmount_replaces
      (Chain.committed_of_commitInitial hchain).unbonds]
    simp only [unbondsWritten,Withdraws,RemovesUnbond,not_false_eq_true,true_and]
  | block gathered shouldUpdateCrawlerState =>
    obtain ⟨chain,hchain,rfl⟩ := Option.map_eq_some_iff.mp hstep
    obtain ⟨rows,hrows,hunbonds⟩ := (Chain.committed_of_commit hchain).unbonds
    rw [hunbonds,mem_deleteRows,
      Table.mem_foldlM_put_iff_isFirst Chain.setUnbondAmount_replaces hrows]
    simp only [unbondsWritten,Withdraws,RemovesUnbond,not_false_eq_true,true_and]
    tauto
  | reindexBonds client done =>
    obtain rfl := Option.some.inj hstep
    cases hanswer : Chain.reindexAnswer ctx client with
    | none =>
      simp [Chain.reindexBonds,unbondsWritten,reindexedRows,RemovesUnbond,Withdraws,hanswer,IsFirst]
    | some answer =>
      obtain ⟨bonds,unbonds⟩ := answer
      rcases reindexBonds_cases hanswer done db.chain with
        ⟨rfl,hleft⟩ | ⟨rfl,hleft⟩ | ⟨hdone,hnot,hleft⟩ | ⟨hdone,-,hunbonds⟩
      · rw [hleft]
        simp [unbondsWritten,reindexedRows,RemovesUnbond,Withdraws,hanswer,IsFirst]
      · rw [hleft]
        simp [unbondsWritten,reindexedRows,RemovesUnbond,Withdraws,hanswer,IsFirst]
      · rw [hleft]
        simp only [unbondsWritten,reindexedRows,hanswer,if_neg hnot,RemovesUnbond]
        exact iff_of_false (by simp) (by simp [IsFirst]; omega)
      · rw [hunbonds row]
        simp only [unbondsWritten,reindexedRows,hanswer,if_pos hdone,RemovesUnbond,Withdraws,
          not_false_eq_true,true_and]
        exact (or_iff_left fun ⟨⟨hkept,_⟩,_⟩ => hkept ⟨rfl,by omega⟩).symm
  | validatorSet validatorsSet epochToProcess =>
    obtain ⟨chain,hchain,rfl⟩ := commit_eq_some.mp hstep
    obtain ⟨rows,-,stored,hstored,rfl⟩ := upsertValidators_eq_some.mp hchain
    simp [unbondsWritten,RemovesUnbond,Withdraws,IsFirst]
  | rewards nonZeroRewards epochToProcess =>
    obtain ⟨chain,hchain,rfl⟩ := Rewards.commit_eq_some.mp hstep
    obtain ⟨-,-,stored,-,rfl⟩ := Rewards.upsertRewards_eq_some.mp hchain
    simp [unbondsWritten,RemovesUnbond,Withdraws,IsFirst]

lemma mem_redelegations_step {transaction : Transaction} {db db' : StakingDb}
    {row : RedelegationDb} (hstep : transaction.step ctx db = some db') :
    row ∈ db'.chain.redelegations.rows ↔
      IsFirst RedelegationDb.key (redelegationsWritten ctx transaction).reverse row ∨
      row.key ∉ (redelegationsWritten ctx transaction).map RedelegationDb.key ∧
        row ∈ db.chain.redelegations.rows := by
  cases transaction with
  | initialQuery data =>
    obtain ⟨chain,hchain,rfl⟩ := Option.map_eq_some_iff.mp hstep
    exact Table.mem_foldlM_put_iff_isFirst setEndEpoch_replaces
      (Table.upsert_eq_some.mp (Chain.committed_of_commitInitial hchain).redelegations).2
  | block gathered shouldUpdateCrawlerState =>
    obtain ⟨chain,hchain,rfl⟩ := Option.map_eq_some_iff.mp hstep
    exact Table.mem_foldlM_put_iff_isFirst setEndEpoch_replaces
      (Table.upsert_eq_some.mp (Chain.committed_of_commit hchain).redelegations).2
  | reindexBonds client done =>
    obtain rfl := Option.some.inj hstep
    obtain ⟨bonds,unbonds,hsame⟩ := reindexBonds_frame client done db.chain
    dsimp only
    rw [hsame]
    simp [redelegationsWritten,IsFirst]
  | validatorSet validatorsSet epochToProcess =>
    obtain ⟨chain,hchain,rfl⟩ := commit_eq_some.mp hstep
    obtain ⟨rows,-,stored,hstored,rfl⟩ := upsertValidators_eq_some.mp hchain
    simp [redelegationsWritten,IsFirst]
  | rewards nonZeroRewards epochToProcess =>
    obtain ⟨chain,hchain,rfl⟩ := Rewards.commit_eq_some.mp hstep
    obtain ⟨-,-,stored,-,rfl⟩ := Rewards.upsertRewards_eq_some.mp hchain
    simp [redelegationsWritten,IsFirst]

section
variable {transactions : List Transaction} {db : StakingDb}
  (hrun : execute (Transaction.step ctx) .empty transactions = some db)
include hrun

theorem mem_bonds_iff {row : BondDb} :
    row ∈ db.chain.bonds.rows ↔ BondStored ctx row transactions :=
  holds_iff_since (p := fun db : StakingDb => row ∈ db.chain.bonds.rows)
    (fun _ _ _ h => mem_bonds_step h) (by simp [StakingDb.empty,ChainDb.empty]) hrun

theorem mem_unbonds_iff {row : UnbondDb} :
    row ∈ db.chain.unbonds.rows ↔ UnbondStored ctx row transactions :=
  holds_iff_since (p := fun db : StakingDb => row ∈ db.chain.unbonds.rows)
    (fun _ _ _ h => mem_unbonds_step h) (by simp [StakingDb.empty,ChainDb.empty]) hrun

theorem mem_redelegations_iff {row : RedelegationDb} :
    row ∈ db.chain.redelegations.rows ↔ RedelegationStored ctx row transactions :=
  holds_iff_since (p := fun db : StakingDb => row ∈ db.chain.redelegations.rows)
    (fun _ _ _ h => mem_redelegations_step h) (by simp [StakingDb.empty,ChainDb.empty]) hrun

end

end

/-- However the transactions of the crawlers and the re-indexings come one after the other, a bond,
an unbond or a redelegation is stored if and only if the last transaction about it wrote it, and
its validator is stored as well. -/
theorem stakes_are_recorded (ctx : Context) (transactions : List Transaction) (db : StakingDb)
    (hrun : execute (Transaction.step ctx) .empty transactions = some db) :
    (∀ row, row ∈ db.chain.bonds.rows ↔ BondStored ctx row transactions) ∧
    (∀ row, row ∈ db.chain.unbonds.rows ↔ UnbondStored ctx row transactions) ∧
    (∀ row, row ∈ db.chain.redelegations.rows ↔ RedelegationStored ctx row transactions) ∧
    Referential db.chain :=
  ⟨fun _ => mem_bonds_iff hrun,fun _ => mem_unbonds_iff hrun,fun _ => mem_redelegations_iff hrun,
    referential_of_execute hrun⟩

/-- A block that alice's bonds with v1 are read for. -/
def bondedGathered (bonds : List (Id × Id × Option Shared.Pos.Bond)) : Chain.Gathered :=
  { namingGathered with
    bonds
    metadataChange := [] }

def alice : Id := .ofAddress Sdk.sample (.implicit "alice")

def v1 : Id := .ofAddress Sdk.sample (.established "v1")

/-- A bond is stored, and another one in its place; then the rewards of an epoch are. -/
def bondedRun : List Transaction :=
  [.validatorSet [⟨v1,"0","0","0",none,none,none,none,none,none,.consensus⟩] 1,
    .block (bondedGathered [(alice,v1,some ⟨alice,v1,10,5⟩)]) true,
    .block (bondedGathered [(alice,v1,some ⟨alice,v1,4,6⟩)]) true,
    .rewards [] 1]

theorem stakes_of_bondedRun :
    ∃ db, execute (Transaction.step (Chain.sampleContext bondTx)) .empty bondedRun = some db ∧
      ⟨"tnam1zalice","tnam1qv1",4,6⟩ ∈ db.chain.bonds.rows := by
  obtain ⟨db,hrun⟩ : ∃ db, execute (Transaction.step (Chain.sampleContext bondTx)) .empty
      bondedRun = some db := Option.isSome_iff_exists.mp (by decide +kernel)
  obtain ⟨m,hm⟩ : ∃ m, execute (Transaction.step (Chain.sampleContext bondTx)) .empty
      (bondedRun.take 2) = some m := Option.isSome_iff_exists.mp (by decide +kernel)
  refine ⟨db,hrun,((stakes_are_recorded (Chain.sampleContext bondTx) bondedRun db hrun).1 _).mpr ?_⟩
  refine ⟨bondedRun.take 2,_,[.rewards [] 1],m,rfl,hm,⟨[],[],rfl,by simp⟩,fun n _ => ?_⟩
  exact ⟨⟨id,List.not_mem_nil⟩,fun _ _ => trivial⟩

end NamadaIndexer.Pos
