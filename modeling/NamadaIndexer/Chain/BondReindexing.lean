import NamadaIndexer.Chain.Crawling
import NamadaIndexer.Foundation.Latest

/-! The re-indexing of bonds at start-up: the tables are cleared by two statements of their own,
and filled again in a transaction. -/
namespace NamadaIndexer.Chain
open NamadaIndexer.Foundation NamadaIndexer.Shared

section
variable (ctx : Context)

/-- The answer to `query_all_bonds_and_unbonds`, unless the query fails. -/
def reindexAnswer (client : Client) : Option (List Pos.Bond × List Pos.Unbond) :=
  match queryAllBondsAndUnbonds ctx client none none with
  | .returns answer => answer
  | .panics _ => none

/-- The statements under `reindex_bonds` that take effect as a whole. -/
def reindexUnits (bonds : List Pos.Bond) (unbonds : List Pos.Unbond) :
    List (ChainDb → Option ChainDb) :=
  [fun db => some { db with bonds := .empty },
    fun db => some { db with unbonds := .empty },
    fun db => do insertUnbonds ctx unbonds (← insertBonds ctx bonds db)]

/-- The database after the re-indexing, where an outer failure, if there is one, comes after
`done` of the units. -/
def reindexBonds (client : Client) (done : ℕ) (db : ChainDb) : ChainDb :=
  match reindexAnswer ctx client with
  | none => db
  | some (bonds,unbonds) => Runs.cutOff (reindexUnits ctx bonds unbonds) done db

/-- The table of bonds holds the queried ones, with the last amount of each. -/
def BondsAre (bonds : List Pos.Bond) (db : ChainDb) : Prop :=
  ∀ row, row ∈ db.bonds.rows ↔ IsFirst BondDb.key (bonds.map (BondDb.fromBond ctx)).reverse row

/-- The same for unbonds. -/
def UnbondsAre (unbonds : List Pos.Unbond) (db : ChainDb) : Prop :=
  ∀ row, row ∈ db.unbonds.rows ↔
    IsFirst UnbondDb.key (unbonds.map (UnbondDb.fromUnbond ctx)).reverse row

/-- Both tables are as before, or both hold the queried sets. -/
def OldOrNew (client : Client) (before after : ChainDb) : Prop :=
  (after.bonds = before.bonds ∧ after.unbonds = before.unbonds) ∨
    ∃ bonds unbonds, reindexAnswer ctx client = some (bonds,unbonds) ∧
      BondsAre ctx bonds after ∧ UnbondsAre ctx unbonds after

/-- The transaction goes through: all validators are known, and no chunk has a key twice. -/
structure Insertable (bonds : List Pos.Bond) (unbonds : List Pos.Unbond) (db : ChainDb) :
    Prop where
  bond_validators : ∀ bond ∈ bonds, (BondDb.fromBond ctx bond).validator ∈ db.validators.keys
  bond_keys : ∀ chunk ∈ chunks (Votes.MAX_PARAM_SIZE / bondsColCount) bonds,
    (chunk.map fun bond => (BondDb.fromBond ctx bond).key).Nodup
  unbond_validators : ∀ unbond ∈ unbonds,
    (UnbondDb.fromUnbond ctx unbond).validator ∈ db.validators.keys
  unbond_keys : ∀ chunk ∈ chunks (Votes.MAX_PARAM_SIZE / unbondsColCount) unbonds,
    (chunk.map fun unbond => (UnbondDb.fromUnbond ctx unbond).key).Nodup

/-- A failure comes before the first deletion or not before the transaction is through, or there
was nothing to lose: the deleted rows are none, or nothing is to be inserted. -/
def NothingLost (bonds : List Pos.Bond) (unbonds : List Pos.Unbond) (done : ℕ) (db : ChainDb) :
    Prop :=
  done = 0 ∨ (3 ≤ done ∧ Insertable ctx bonds unbonds db) ∨
    (done = 1 ∧ (db.bonds.rows = [] ∨ bonds = [] ∧ UnbondsAre ctx unbonds db)) ∨
    (2 ≤ done ∧ (db.bonds.rows = [] ∧ db.unbonds.rows = [] ∨ bonds = [] ∧ unbonds = []))

variable {ctx} {bonds : List Pos.Bond} {unbonds : List Pos.Unbond} {db db' : ChainDb}

lemma bondsAre_empty_iff (h : db.bonds = .empty) : BondsAre ctx bonds db ↔ bonds = [] := by
  unfold BondsAre
  rw [h]
  simpa using Table.empty_rows_iff_isFirst (bonds.map (BondDb.fromBond ctx)).reverse

lemma unbondsAre_empty_iff (h : db.unbonds = .empty) : UnbondsAre ctx unbonds db ↔ unbonds = [] := by
  unfold UnbondsAre
  rw [h]
  simpa using Table.empty_rows_iff_isFirst (unbonds.map (UnbondDb.fromUnbond ctx)).reverse

/-- The transaction on the cleared tables. -/
lemma refill_eq_some (hbonds : db.bonds = .empty) (hunbonds : db.unbonds = .empty)
    (h : (insertBonds ctx bonds db).bind (insertUnbonds ctx unbonds) = some db') :
    BondsAre ctx bonds db' ∧ UnbondsAre ctx unbonds db' := by
  obtain ⟨mid,hmid,hrest⟩ := Option.bind_eq_some_iff.mp h
  obtain ⟨-,-,rows,hrows,rfl⟩ := insertBonds_eq_some.mp hmid
  obtain ⟨-,-,unbondRows,hunbondRows,rfl⟩ := insertUnbonds_eq_some.mp hrest
  rw [hbonds] at hrows
  have hunbondRows : (unbonds.map (UnbondDb.fromUnbond ctx)).foldlM (Table.put setUnbondAmount)
      .empty = some unbondRows := hunbonds ▸ hunbondRows
  exact ⟨fun row => Table.mem_foldlM_put_empty setBondAmount_replaces hrows,
    fun row => Table.mem_foldlM_put_empty setUnbondAmount_replaces hunbondRows⟩

lemma refill_isSome_iff :
    ((insertBonds ctx bonds db).bind (insertUnbonds ctx unbonds)).isSome ↔
      Insertable ctx bonds unbonds db := by
  rw [Option.isSome_iff_exists]
  constructor
  · rintro ⟨db',h⟩
    obtain ⟨mid,hmid,hrest⟩ := Option.bind_eq_some_iff.mp h
    obtain ⟨hvalidators,hkeys,rows,-,rfl⟩ := insertBonds_eq_some.mp hmid
    obtain ⟨hvalidators',hkeys',-⟩ := insertUnbonds_eq_some.mp hrest
    exact ⟨hvalidators,hkeys,hvalidators',hkeys'⟩
  · intro h
    obtain ⟨rows,hrows⟩ := Table.foldlM_put_total setBondAmount_total
      (bonds.map (BondDb.fromBond ctx)) db.bonds
    obtain ⟨unbondRows,hunbondRows⟩ := Table.foldlM_put_total setUnbondAmount_total
      (unbonds.map (UnbondDb.fromUnbond ctx)) db.unbonds
    have hmid := insertBonds_eq_some.mpr ⟨h.bond_validators,h.bond_keys,rows,hrows,rfl⟩
    have hrest : insertUnbonds ctx unbonds { db with bonds := rows } =
        some { db with bonds := rows, unbonds := unbondRows } := insertUnbonds_eq_some.mpr
      ⟨h.unbond_validators,h.unbond_keys,unbondRows,hunbondRows,rfl⟩
    exact ⟨_,Option.bind_eq_some_iff.mpr ⟨_,hmid,hrest⟩⟩

/-- What each number of units leaves. -/
lemma oldOrNew_cutOff_iff {client : Client}
    (hanswer : reindexAnswer ctx client = some (bonds,unbonds)) (done : ℕ) :
    OldOrNew ctx client db (Runs.cutOff (reindexUnits ctx bonds unbonds) done db) ↔
      NothingLost ctx bonds unbonds done db := by
  have hnew : ∀ after, OldOrNew ctx client db after ↔
      (after.bonds = db.bonds ∧ after.unbonds = db.unbonds) ∨
        BondsAre ctx bonds after ∧ UnbondsAre ctx unbonds after := by
    intro after
    simp only [OldOrNew,hanswer,Option.some.injEq,Prod.mk.injEq,and_assoc,exists_and_left,
      exists_eq_left']
  have hempty : ∀ {ρ κ : Type} {key : ρ → κ} {table : Table key},
      Table.empty = table ↔ table.rows = [] := by
    intro ρ κ key table
    exact ⟨fun h => h ▸ rfl,fun h => Table.ext_rows h.symm⟩
  rw [hnew]
  match done with
  | 0 => simp [NothingLost]
  | 1 =>
    have hleft : Runs.cutOff (reindexUnits ctx bonds unbonds) 1 db = { db with bonds := .empty } :=
      rfl
    have hsame : UnbondsAre ctx unbonds { db with bonds := .empty } ↔ UnbondsAre ctx unbonds db :=
      Iff.rfl
    rw [hleft,bondsAre_empty_iff rfl,hsame,hempty]
    simp [NothingLost]
  | done+2 =>
    have hleft : Runs.cutOff (reindexUnits ctx bonds unbonds) (done+2) db =
        Runs.cutOff [fun db => (insertBonds ctx bonds db).bind (insertUnbonds ctx unbonds)] done
          { db with bonds := .empty, unbonds := .empty } := rfl
    rw [hleft]
    generalize hcleared : { db with bonds := Table.empty, unbonds := Table.empty } = cleared
    have hvalidators : cleared.validators = db.validators := by rw [←hcleared]
    have hbonds : cleared.bonds = .empty := by rw [←hcleared]
    have hunbonds : cleared.unbonds = .empty := by rw [←hcleared]
    have hinsertable : Insertable ctx bonds unbonds cleared ↔ Insertable ctx bonds unbonds db := by
      constructor <;> rintro ⟨h1,h2,h3,h4⟩
      · exact ⟨hvalidators ▸ h1,h2,hvalidators ▸ h3,h4⟩
      · exact ⟨hvalidators ▸ h1,h2,hvalidators ▸ h3,h4⟩
    have hlost : (cleared.bonds = db.bonds ∧ cleared.unbonds = db.unbonds ∨
        BondsAre ctx bonds cleared ∧ UnbondsAre ctx unbonds cleared) ↔
        (db.bonds.rows = [] ∧ db.unbonds.rows = [] ∨ bonds = [] ∧ unbonds = []) := by
      rw [bondsAre_empty_iff hbonds,unbondsAre_empty_iff hunbonds,hbonds,hunbonds,hempty,hempty]
    cases done with
    | zero =>
      rw [Runs.cutOff_zero,hlost]
      simp [NothingLost]
    | succ done =>
      cases hrun : (insertBonds ctx bonds cleared).bind (insertUnbonds ctx unbonds) with
      | none =>
        have hnot : ¬ Insertable ctx bonds unbonds db := by
          rw [←hinsertable,←refill_isSome_iff,hrun]
          simp
        rw [Runs.cutOff_succ_of_none hrun,hlost]
        simp [NothingLost,hnot]
      | some refilled =>
        have hyes : Insertable ctx bonds unbonds db := by
          rw [←hinsertable,←refill_isSome_iff,hrun]
          rfl
        rw [Runs.cutOff_succ_of_some hrun,Runs.cutOff_nil]
        refine iff_of_true (.inr (refill_eq_some hbonds hunbonds hrun)) ?_
        exact .inr (.inl ⟨by omega,hyes⟩)

end

/-- The re-indexing leaves both tables as before, or both with the queried sets, exactly when the
query fails or nothing is lost where the failure comes. -/
theorem reindex_bonds_atomic_iff (ctx : Context) (client : Client) (done : ℕ) (db : ChainDb) :
    OldOrNew ctx client db (reindexBonds ctx client done db) ↔
      ∀ bonds unbonds, reindexAnswer ctx client = some (bonds,unbonds) →
        NothingLost ctx bonds unbonds done db := by
  unfold reindexBonds
  cases hanswer : reindexAnswer ctx client with
  | none => exact iff_of_true (.inl ⟨rfl,rfl⟩) fun _ _ h => by contradiction
  | some answer =>
    obtain ⟨bonds,unbonds⟩ := answer
    rw [oldOrNew_cutOff_iff hanswer]
    constructor
    · rintro h _ _ ⟨⟩
      exact h
    · exact fun h => h bonds unbonds rfl

/-- A node that knows one bond, with a validator that the database does not know yet. -/
def newValidatorClient : Client where
  node := { sampleNode 7 5 (fun _ => 1) with
    bondsAndUnbonds := fun _ _ => [⟨.implicit "alice",.established "new",[⟨5,10⟩],[]⟩] }
  fails _ := false

/-- A database with a bond of alice. -/
def bondedDb : ChainDb :=
  { sampleDb with bonds := ⟨[⟨"tnam1zalice","tnam1qvalidator",3,2⟩],by decide⟩ }

/-- Without any outer failure, the panic on the unknown validator leaves an empty table. -/
theorem reindexing_loses_bonds :
    (reindexBonds (sampleContext bondTx) newValidatorClient 3 bondedDb).bonds.rows = [] ∧
      ¬ OldOrNew (sampleContext bondTx) newValidatorClient bondedDb
        (reindexBonds (sampleContext bondTx) newValidatorClient 3 bondedDb) := by
  have hleft :
      (reindexBonds (sampleContext bondTx) newValidatorClient 3 bondedDb).bonds.rows = [] := by
    decide +kernel
  have hanswer : (reindexAnswer (sampleContext bondTx) newValidatorClient).map
      (fun answer => answer.1.length) = some 1 := by decide +kernel
  refine ⟨hleft,?_⟩
  rintro (⟨hbonds,-⟩ | ⟨bonds,unbonds,hqueried,hare,-⟩)
  · have hrows := congrArg Table.rows hbonds
    rw [hleft] at hrows
    exact absurd hrows (by decide)
  · rw [hqueried] at hanswer
    have hnone := (bondsAre_empty_iff (Table.ext_rows hleft)).mp hare
    rw [hnone] at hanswer
    simp at hanswer

end NamadaIndexer.Chain
