import NamadaIndexer.Chain.Repository

/-! The parameters of the statements that write a collection to the database. A statement can bind
so many of them only; some of the writes hand the collection on in chunks, the others do not. -/
namespace NamadaIndexer.Chain
open NamadaIndexer.Foundation NamadaIndexer.Shared

/-- The parameters of a statement, by the columns that they are bound to. -/
abbrev Statement := List String

/-- A write of the repository: the chunks that it makes of a collection, and the statements that it
issues for a chunk. -/
structure Writer (α : Type) where
  chunks : List α → List (List α)
  statements : List α → List Statement

namespace Writer

/-- The lookup of a validator, with its limit of one row. -/
def lookup : Statement := ["namada_address","limit"]

def insertBalances : Writer Balance where
  chunks := Foundation.chunks (Votes.MAX_PARAM_SIZE / balancesColCount)
  statements chunk := [chunk.flatMap fun _ => ["owner","token","raw_amount","height"]]

def insertBonds : Writer Pos.Bond where
  chunks := Foundation.chunks (Votes.MAX_PARAM_SIZE / bondsColCount)
  statements chunk :=
    (chunk.flatMap fun _ => ["address","validator_id","raw_amount","start"]) ::
      chunk.map fun _ => lookup

def insertUnbonds : Writer Pos.Unbond where
  chunks := Foundation.chunks (Votes.MAX_PARAM_SIZE / unbondsColCount)
  statements chunk :=
    (chunk.flatMap fun _ => ["address","validator_id","raw_amount","withdraw_epoch"]) ::
      chunk.map fun _ => lookup

def insertVotes : Writer GovernanceVote where
  chunks := Foundation.chunks (Votes.MAX_PARAM_SIZE / Votes.votesColCount)
  statements chunk := [chunk.flatMap fun _ => ["voter_address","kind","proposal_id"]]

def insertRedelegations : Writer Pos.Redelegation where
  chunks redelegations := [redelegations]
  statements redelegations :=
    (redelegations.flatMap fun _ => ["delegator","validator_id","end_epoch"]) ::
      redelegations.map fun _ => lookup

/-- One statement for the tokens, and one for the IBC tokens among them. -/
def insertTokens (ctx : Context) : Writer Token where
  chunks tokens := [tokens]
  statements tokens :=
    [tokens.flatMap fun _ => ["address","token_type"],
      (tokens.filterMap (IbcTokenDb.fromToken ctx)).flatMap fun _ => ["address","ibc_trace"]]

/-- A column without a value is written as its default, which binds nothing. -/
def insertTokenSupplies : Writer TokenSupply where
  chunks supplies := [supplies]
  statements supplies :=
    if supplies = [] then []
    else [supplies.flatMap fun supply =>
      ["address","epoch","total"] ++ if supply.effective.isSome then ["effective"] else []]

def clearBonds : Writer (Id × Id) where
  chunks addresses := [addresses]
  statements addresses :=
    if addresses = [] then []
    else [addresses.flatMap fun _ => ["address","namada_address"]]

section
variable {α : Type} (writer : Writer α) (items : List α)

/-- No statement binds more parameters than the database allows, and the chunks make up the
collection. -/
structure UnderLimit : Prop where
  params : ∀ chunk ∈ writer.chunks items, ∀ statement ∈ writer.statements chunk,
    statement.length ≤ Votes.MAX_PARAM_SIZE
  whole : (writer.chunks items).flatten = items

variable {writer items}

lemma length_statement (columns : Statement) :
    (items.flatMap fun _ => columns).length = items.length * columns.length := by
  rw [List.length_flatMap,List.map_const',List.sum_replicate_nat]

/-- A write in chunks of so many rows, for which validators may be looked up. -/
lemma underLimit_of_chunks {size : ℕ} {columns : Statement} (hsize : 0 < size)
    (hchunks : writer.chunks = Foundation.chunks size)
    (hstatements : ∀ chunk, ∀ statement ∈ writer.statements chunk,
      statement = (chunk.flatMap fun _ => columns) ∨ statement = lookup)
    (hfit : size * columns.length ≤ Votes.MAX_PARAM_SIZE) : UnderLimit writer items := by
  constructor
  · rw [hchunks]
    intro chunk hchunk statement hstatement
    rcases hstatements chunk statement hstatement with rfl | rfl
    · rw [length_statement]
      exact (Nat.mul_le_mul_right _ (length_le_of_mem_chunks hsize hchunk)).trans hfit
    · decide
  · rw [hchunks]
    exact flatten_chunks size items

/-- A write of the whole collection stays under the limit if its statements do. -/
lemma underLimit_whole_iff (hchunks : writer.chunks items = [items]) :
    UnderLimit writer items ↔
      ∀ statement ∈ writer.statements items, statement.length ≤ Votes.MAX_PARAM_SIZE := by
  constructor
  · intro h
    exact h.params items (by rw [hchunks]; exact List.mem_singleton_self items)
  · intro h
    refine ⟨?_,by rw [hchunks,List.flatten_singleton]⟩
    rw [hchunks]
    exact fun chunk hchunk => (List.mem_singleton.mp hchunk) ▸ h

end

lemma eq_lookup_of_mem {α : Type} {chunk : List α} {statement : Statement}
    (h : statement ∈ chunk.map fun _ => lookup) : statement = lookup := by
  obtain ⟨-,-,rfl⟩ := List.mem_map.mp h
  rfl

lemma insertBalances_underLimit (balances : List Balance) :
    UnderLimit insertBalances balances :=
  underLimit_of_chunks (by decide) rfl
    (fun _ _ hstatement => .inl (List.mem_singleton.mp hstatement)) (by decide)

lemma insertBonds_underLimit (bonds : List Pos.Bond) : UnderLimit insertBonds bonds :=
  underLimit_of_chunks (by decide) rfl
    (fun _ _ hstatement => (List.mem_cons.mp hstatement).imp_right eq_lookup_of_mem) (by decide)

lemma insertUnbonds_underLimit (unbonds : List Pos.Unbond) : UnderLimit insertUnbonds unbonds :=
  underLimit_of_chunks (by decide) rfl
    (fun _ _ hstatement => (List.mem_cons.mp hstatement).imp_right eq_lookup_of_mem) (by decide)

lemma insertVotes_underLimit (votes : List GovernanceVote) : UnderLimit insertVotes votes :=
  underLimit_of_chunks (by decide) rfl
    (fun _ _ hstatement => .inl (List.mem_singleton.mp hstatement)) (by decide)

lemma insertRedelegations_underLimit_iff (redelegations : List Pos.Redelegation) :
    UnderLimit insertRedelegations redelegations ↔ redelegations.length ≤ 21845 := by
  rw [underLimit_whole_iff rfl]
  simp only [insertRedelegations,List.forall_mem_cons,length_statement,Votes.MAX_PARAM_SIZE]
  constructor
  · rintro ⟨h,-⟩
    simp only [List.length_cons,List.length_nil] at h
    omega
  · intro h
    constructor
    · simp only [List.length_cons,List.length_nil]
      omega
    · intro statement hstatement
      rw [eq_lookup_of_mem hstatement]
      decide

lemma insertTokens_underLimit_iff (ctx : Context) (tokens : List Token) :
    UnderLimit (insertTokens ctx) tokens ↔ tokens.length ≤ 32767 := by
  have hibc : (tokens.filterMap (IbcTokenDb.fromToken ctx)).length ≤ tokens.length :=
    List.length_filterMap_le _ tokens
  rw [underLimit_whole_iff rfl]
  simp only [insertTokens,List.forall_mem_cons,length_statement,Votes.MAX_PARAM_SIZE,
    List.length_cons,List.length_nil]
  constructor
  · rintro ⟨h,-⟩
    omega
  · intro h
    exact ⟨by omega,by omega,fun _ hnil => absurd hnil List.not_mem_nil⟩

/-- An effective supply is one more parameter. -/
lemma length_supplies (supplies : List TokenSupply) :
    (supplies.flatMap fun supply => ["address","epoch","total"] ++
      if supply.effective.isSome then ["effective"] else []).length =
        3 * supplies.length + supplies.countP fun supply => supply.effective.isSome := by
  induction supplies with
  | nil => rfl
  | cons supply supplies ih =>
    rw [List.flatMap_cons,List.length_append,ih,List.length_cons,List.countP_cons,List.length_append]
    cases supply.effective with
    | none => simp; omega
    | some effective => simp; omega

lemma insertTokenSupplies_underLimit_iff (supplies : List TokenSupply) :
    UnderLimit insertTokenSupplies supplies ↔
      3 * supplies.length + supplies.countP (fun supply => supply.effective.isSome) ≤ 65535 := by
  rw [underLimit_whole_iff rfl]
  unfold insertTokenSupplies
  by_cases hempty : supplies = []
  · simp [hempty]
  · simp only [if_neg hempty,List.forall_mem_singleton,length_supplies,Votes.MAX_PARAM_SIZE]

lemma clearBonds_underLimit_iff (addresses : List (Id × Id)) :
    UnderLimit clearBonds addresses ↔ addresses.length ≤ 32767 := by
  rw [underLimit_whole_iff rfl]
  unfold clearBonds
  by_cases hempty : addresses = []
  · simp [hempty]
  · simp only [if_neg hempty,List.forall_mem_singleton,length_statement,Votes.MAX_PARAM_SIZE,
      List.length_cons,List.length_nil]
    omega

/-- The writes in chunks stay under the limit of parameters whatever they are handed, the others
exactly for collections that are short enough. -/
theorem statements_under_limit_iff (ctx : Context) :
    (∀ balances, UnderLimit insertBalances balances) ∧ (∀ bonds, UnderLimit insertBonds bonds) ∧
      (∀ unbonds, UnderLimit insertUnbonds unbonds) ∧ (∀ votes, UnderLimit insertVotes votes) ∧
      (∀ redelegations, UnderLimit insertRedelegations redelegations ↔
        redelegations.length ≤ 21845) ∧
      (∀ tokens, UnderLimit (insertTokens ctx) tokens ↔ tokens.length ≤ 32767) ∧
      (∀ supplies, UnderLimit insertTokenSupplies supplies ↔
        3 * supplies.length + supplies.countP (fun supply => supply.effective.isSome) ≤ 65535) ∧
      ∀ addresses, UnderLimit clearBonds addresses ↔ addresses.length ≤ 32767 :=
  ⟨insertBalances_underLimit,insertBonds_underLimit,insertUnbonds_underLimit,
    insertVotes_underLimit,insertRedelegations_underLimit_iff,insertTokens_underLimit_iff ctx,
    insertTokenSupplies_underLimit_iff,clearBonds_underLimit_iff⟩

end Writer

/-- The writes in chunks of the repository go through the chunks of their writers. -/
theorem written_by_chunks (ctx : Context) (db : ChainDb) :
    (∀ balances, insertBalances ctx balances db =
        (Writer.insertBalances.chunks balances).foldlM (insertBalancesChunk ctx) db) ∧
      (∀ bonds, insertBonds ctx bonds db =
        (Writer.insertBonds.chunks bonds).foldlM (insertBondsChunk ctx) db) ∧
      (∀ unbonds, insertUnbonds ctx unbonds db =
        (Writer.insertUnbonds.chunks unbonds).foldlM (insertUnbondsChunk ctx) db) ∧
      ∀ votes, Votes.insertVotes ctx.sdk db.governanceProposals.keys.toFinset db.governanceVotes
          votes = (Writer.insertVotes.chunks votes).foldlM
            (Votes.insertVotesChunk ctx.sdk db.governanceProposals.keys.toFinset)
            db.governanceVotes :=
  ⟨fun _ => rfl,fun _ => rfl,fun _ => rfl,fun _ => rfl⟩

section
variable {ctx : Context} {db db' : ChainDb}

/-- The other writes hand on everything at once: a statement binds the columns of the rows that are
written. -/
theorem insertRedelegations_binds {redelegations : List Pos.Redelegation}
    (h : insertRedelegations ctx redelegations db = some db') :
    ∃ rows, Table.upsert setEndEpoch db.redelegations rows = some db'.redelegations ∧
      Writer.insertRedelegations.statements redelegations =
        (rows.flatMap fun _ => ["delegator","validator_id","end_epoch"]) ::
          redelegations.map fun _ => Writer.lookup := by
  obtain ⟨-,table,htable,rfl⟩ := insertRedelegations_eq_some.mp h
  refine ⟨_,htable,?_⟩
  rw [List.flatMap_map]
  rfl

theorem insertTokens_binds {tokens : List Token} (h : insertTokens ctx tokens db = some db') :
    ∃ rows ibcRows, db'.tokens = db.tokens.insertOrIgnore rows ∧
      db'.ibcTokens = db.ibcTokens.insertOrIgnore ibcRows ∧
      (Writer.insertTokens ctx).statements tokens =
        [rows.flatMap fun _ => ["address","token_type"],
          ibcRows.flatMap fun _ => ["address","ibc_trace"]] := by
  obtain ⟨-,-,rfl⟩ := insertTokens_eq_some.mp h
  refine ⟨tokens.map (TokenDb.ofToken ctx),_,rfl,rfl,?_⟩
  rw [List.flatMap_map]
  rfl

theorem insertTokenSupplies_binds {supplies : List TokenSupply}
    (h : insertTokenSupplies supplies db = some db') :
    ∃ rows, db'.tokenSupplies = db.tokenSupplies.insertOrIgnore rows ∧
      (Writer.insertTokenSupplies.statements supplies).flatten = rows.flatMap fun row =>
        ["address","epoch","total"] ++ if row.effective.isSome then ["effective"] else [] := by
  obtain ⟨-,-,rfl⟩ := insertTokenSupplies_eq_some.mp h
  refine ⟨_,rfl,?_⟩
  rw [List.flatMap_map,Writer.insertTokenSupplies]
  dsimp only
  split
  · rename_i hempty
    rw [hempty]
    rfl
  · rw [List.flatten_singleton]
    rfl

/-- The deletion binds every pair whose bonds it removes. -/
theorem clearBonds_binds (addresses : List (Id × Id)) :
    (clearBonds ctx addresses db).bonds =
        deleteRows db.bonds (fun row => decide (Cleared ctx addresses row)) ∧
      (Writer.clearBonds.statements addresses).flatten =
        addresses.flatMap fun _ => ["address","namada_address"] := by
  constructor
  · rw [clearBonds_eq]
  · rw [Writer.clearBonds]
    dsimp only
    split
    · rename_i hempty
      rw [hempty]
      rfl
    · rw [List.flatten_singleton]

end

/-- The redelegations of a long chain do not fit into their one statement. -/
theorem redelegations_over_limit :
    ¬ Writer.UnderLimit Writer.insertRedelegations
      (List.replicate 21846 ⟨.account "ann",.account "val",3⟩) := by
  rw [Writer.insertRedelegations_underLimit_iff,List.length_replicate]
  decide

end NamadaIndexer.Chain
