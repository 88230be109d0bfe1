import NamadaIndexer.Foundation.Runs
import NamadaIndexer.Shared.BalanceChanges
import NamadaIndexer.Transactions.Repository

/-! The pool of MASP entries has one row an inner transaction, and a trigger that keeps the
sums over it for each token and direction. -/
namespace NamadaIndexer.Transactions
open NamadaIndexer.Foundation NamadaIndexer.Shared

section
variable {sdk : Sdk} {now : ℤ} {entries : List MaspEntry} {db db' : Db}

/-- Every entry has a row of its own, and no other. -/
def StoredOnce (sdk : Sdk) (entries : List MaspEntry) (pool : Table MaspDb.innerTxId) : Prop :=
  ∀ row ∈ entries.map (MaspDb.ofEntry sdk),
    pool.rows.count row = (entries.map (MaspDb.ofEntry sdk)).count row

instance (pool : Table MaspDb.innerTxId) : Decidable (StoredOnce sdk entries pool) :=
  inferInstanceAs (Decidable (∀ row ∈ entries.map (MaspDb.ofEntry sdk), _ = _))

/-- Every entry is stored once, also after the same entries are inserted again. -/
def StoredWithoutLoss (sdk : Sdk) (entries : List MaspEntry) (db : Db) : Prop :=
  StoredOnce sdk entries db.maspPool ∧
    ∀ now, ∃ db', insertMaspEntries sdk now entries db = some db' ∧
      StoredOnce sdk entries db'.maspPool

/-- The entries come from different transactions, whose rows are not taken. -/
structure RowsFree (sdk : Sdk) (entries : List MaspEntry) (pool : Table MaspDb.innerTxId) :
    Prop where
  distinct : (entries.map fun entry => entry.innerTxId.toString sdk).Nodup
  own : ∀ entry ∈ entries, ∀ row ∈ pool.rows,
    row.innerTxId = entry.innerTxId.toString sdk → row = .ofEntry sdk entry

lemma map_innerTxId_ofEntry (entries : List MaspEntry) :
    (entries.map (MaspDb.ofEntry sdk)).map MaspDb.innerTxId =
      entries.map fun entry => entry.innerTxId.toString sdk := by
  rw [List.map_map]
  rfl

/-- The entries of known transactions change nothing. -/
lemma insertMaspEntries_again (db : Db) (now : ℤ)
    (hknown : ∀ row ∈ entries.map (MaspDb.ofEntry sdk), row.innerTxId ∈ db.maspPool.keys) :
    ∃ db', insertMaspEntries sdk now entries db = some db' ∧ db'.maspPool = db.maspPool := by
  have hfresh := Table.fresh_eq_nil hknown
  have hsame := Table.insertOrIgnore_eq_self hknown
  refine ⟨_,insertMaspEntries_eq_some.mpr ⟨?_,db.maspPoolAggregate,?_,rfl⟩,hsame⟩
  · intro row hrow
    exact .inl (hknown row hrow)
  · rw [hfresh]
    rfl

lemma storedOnce_insertOrIgnore_iff (pool : Table MaspDb.innerTxId) :
    StoredOnce sdk entries (pool.insertOrIgnore (entries.map (MaspDb.ofEntry sdk))) ↔
      RowsFree sdk entries pool := by
  set rows := entries.map (MaspDb.ofEntry sdk) with hrows
  have hpool : (pool.insertOrIgnore rows).rows.Nodup := (pool.insertOrIgnore rows).unique.of_map
  constructor
  · intro h
    have hmem : ∀ row ∈ rows, row ∈ (pool.insertOrIgnore rows).rows := by
      intro row hrow
      have hpos : 0 < rows.count row := List.count_pos_iff.mpr hrow
      exact List.count_pos_iff.mp (by rw [h row hrow]; exact hpos)
    constructor
    · rw [←map_innerTxId_ofEntry]
      have hnodup : rows.Nodup := by
        rw [List.nodup_iff_count_le_one]
        intro row
        by_cases hrow : row ∈ rows
        · rw [←h row hrow]
          exact List.nodup_iff_count_le_one.mp hpool row
        · rw [List.count_eq_zero.mpr hrow]
          exact Nat.zero_le 1
      exact hnodup.map_on fun row hrow other hother hkey =>
        Table.eq_of_key_eq (hmem row hrow) (hmem other hother) hkey
    · intro entry hentry row hrow hkey
      have hown : MaspDb.ofEntry sdk entry ∈ rows := List.mem_map_of_mem hentry
      have hold : row ∈ (pool.insertOrIgnore rows).rows := List.mem_append_left _ hrow
      exact Table.eq_of_key_eq hold (hmem _ hown) hkey
  · intro h row hrow
    have hkeys : (rows.map MaspDb.innerTxId).Nodup := by
      rw [hrows,map_innerTxId_ofEntry]
      exact h.distinct
    have hkey : row.innerTxId ∈ (pool.insertOrIgnore rows).keys :=
      Table.mem_keys_insertOrIgnore.mpr (.inr (List.mem_map_of_mem hrow))
    have hstored : row ∈ (pool.insertOrIgnore rows).rows := by
      -- some row stands under the key: an old one, or the first new one
      obtain ⟨other,hother,hkey⟩ := Table.mem_keys.mp hkey
      have hsame : other = row := by
        rcases List.mem_append.mp hother with hold | hnew
        · obtain ⟨entry,hentry,rfl⟩ := List.mem_map.mp hrow
          exact h.own entry hentry other hold hkey
        · exact List.inj_on_of_nodup_map hkeys (Table.mem_of_mem_fresh hnew) hrow hkey
      rw [←hsame]
      exact hother
    rw [List.count_eq_one_of_mem hpool hstored,List.count_eq_one_of_mem hkeys.of_map hrow]

/-- The MASP entries of a block are stored without loss if and only if its transactions give
one entry each and none of their rows is taken by another entry. -/
theorem masp_entries_stored_iff {block : Block}
    (h : insertMaspEntries sdk now (block.maspEntries sdk) db = some db') :
    StoredWithoutLoss sdk (block.maspEntries sdk) db' ↔
      RowsFree sdk (block.maspEntries sdk) db.maspPool := by
  obtain ⟨-,aggregate,-,rfl⟩ := insertMaspEntries_eq_some.mp h
  rw [←storedOnce_insertOrIgnore_iff]
  constructor
  · exact And.left
  · intro hstored
    refine ⟨hstored,?_⟩
    intro now'
    set pool := db.maspPool.insertOrIgnore ((block.maspEntries sdk).map (MaspDb.ofEntry sdk))
    have hknown : ∀ row ∈ (block.maspEntries sdk).map (MaspDb.ofEntry sdk),
        row.innerTxId ∈ pool.keys := by
      intro row hrow
      exact Table.mem_keys_insertOrIgnore.mpr (.inr (List.mem_map_of_mem hrow))
    obtain ⟨db'',hagain,hpool⟩ := insertMaspEntries_again
      { db with maspPool := pool, maspPoolAggregate := aggregate } now' hknown
    exact ⟨db'',hagain,by rw [hpool]; exact hstored⟩

end

/-- The message of alice's transfer of five tokens into the MASP. -/
def shieldingMessage : Transfer where
  sources := [(⟨.implicit "alice",.established "nam"⟩,⟨5,6⟩)]
  targets := [(⟨MASP_ADDRESS,.established "nam"⟩,⟨5,6⟩)]
  shieldedSectionHash := some ⟨"masp"⟩

/-- A database that knows the transaction of `sentOsmo`. -/
def sentOsmoDb : Db :=
  { Db.empty [] with
    innerTransactions := Table.empty.insertOrIgnore [.ofTx Sdk.sample sentOsmo] }

/-- The entry of a shielding transfer is stored without loss. -/
theorem masp_entries_stored_of_shieldingMessage :
    ∃ db, insertMaspEntries Sdk.sample 0 ((lonelyBlock { sentOsmo with
          kind := transferToTxKind shieldingMessage }).maspEntries Sdk.sample)
        sentOsmoDb = some db ∧
      StoredWithoutLoss Sdk.sample ((lonelyBlock { sentOsmo with
        kind := transferToTxKind shieldingMessage }).maspEntries Sdk.sample) db := by
  obtain ⟨db,h⟩ : ∃ db, insertMaspEntries Sdk.sample 0 ((lonelyBlock { sentOsmo with
      kind := transferToTxKind shieldingMessage }).maspEntries Sdk.sample) sentOsmoDb =
        some db := ⟨_,rfl⟩
  refine ⟨db,h,(masp_entries_stored_iff h).mpr ?_⟩
  constructor <;> decide

/-- An unshielding transfer that pays its relayer out of the MASP loses its second entry. -/
theorem second_masp_entry_lost :
    ∃ token data, (transferToIbcTxKind Sdk.sample unshieldingMessage (.established "nam")).run =
        .returns (.ok (.ibcUnshieldingTransfer token data)) ∧
      ∃ db, insertMaspEntries Sdk.sample 0 ((lonelyBlock { sentOsmo with
            kind := .ibcUnshieldingTransfer token data }).maspEntries Sdk.sample) sentOsmoDb =
          some db ∧
        ¬ StoredWithoutLoss Sdk.sample ((lonelyBlock { sentOsmo with
          kind := .ibcUnshieldingTransfer token data }).maspEntries Sdk.sample) db := by
  refine ⟨_,_,rfl,_,rfl,?_⟩
  intro h
  exact absurd h.1 (by decide)

/-- The tables that an insert into `masp_pool` writes to. -/
structure MaspTables where
  pool : Table MaspDb.innerTxId
  aggregate : Table MaspPoolAggregateDb.key

/-- The rows of an insert, and the time of its transaction. -/
structure MaspInsert where
  now : ℤ
  rows : List MaspDb

namespace MaspTables
variable {s s' : MaspTables} {a : MaspInsert}

def empty : MaspTables := ⟨.empty,.empty⟩

/-- The rows that the insert adds. The trigger fires for each of them. -/
def inserted (s : MaspTables) (a : MaspInsert) : List MaspDb :=
  Table.fresh MaspDb.innerTxId s.pool.keys a.rows

def insert (s : MaspTables) (a : MaspInsert) : Option MaspTables := do
  let pool := s.pool.insertOrIgnore a.rows
  let aggregate ← (s.inserted a).foldlM (updateMaspPoolAggregateSum a.now pool.rows) s.aggregate
  return ⟨pool,aggregate⟩

theorem insert_eq_some :
    s.insert a = some s' ↔ s'.pool = s.pool.insertOrIgnore a.rows ∧
      (s.inserted a).foldlM (updateMaspPoolAggregateSum a.now s'.pool.rows) s.aggregate =
        some s'.aggregate := by
  obtain ⟨pool,aggregate⟩ := s'
  simp only [insert,Option.bind_eq_bind,Option.bind_eq_some_iff,Option.pure_def,Option.some.injEq,
    mk.injEq]
  constructor
  · rintro ⟨_,h,rfl,rfl⟩
    exact ⟨rfl,h⟩
  · rintro ⟨rfl,h⟩
    exact ⟨_,h,rfl,rfl⟩

end MaspTables

def Db.maspTables (db : Db) : MaspTables := ⟨db.maspPool,db.maspPoolAggregate⟩

/-- The statement of the crawler is such an insert. -/
theorem insert_of_insertMaspEntries {sdk : Sdk} {now : ℤ} {entries : List MaspEntry} {db db' : Db}
    (h : insertMaspEntries sdk now entries db = some db') :
    db.maspTables.insert ⟨now,entries.map (MaspDb.ofEntry sdk)⟩ = some db'.maspTables := by
  obtain ⟨-,aggregate,haggregate,rfl⟩ := insertMaspEntries_eq_some.mp h
  exact MaspTables.insert_eq_some.mpr ⟨rfl,haggregate⟩

/-- The start of a window, if it has one. -/
def MaspPoolAggregateWindow.cutoff (now : ℤ) : MaspPoolAggregateWindow → Option ℤ
  | .oneDay => some (now-86400)
  | .sevenDays => some (now-7*86400)
  | .thirtyDays => some (now-30*86400)
  | .allTime => none

/-- The token and the direction of a row. -/
abbrev MaspGroup : Type := String × MaspEntryDirection

def MaspDb.group (row : MaspDb) : MaspGroup := (row.tokenAddress,row.direction)

/-- The totals of a token and a direction. -/
def totals (aggregate : Table MaspPoolAggregateDb.key) (g : MaspGroup)
    (window : MaspPoolAggregateWindow) : Option ℤ :=
  (aggregate.find? (g.1,window,g.2)).map fun row => row.totalAmount.value

/-- What the totals should be. -/
def sums (now : ℤ) (pool : List MaspDb) (g : MaspGroup) (window : MaspPoolAggregateWindow) : ℤ :=
  maspSum pool g.1 g.2 (window.cutoff now)

/-- What the trigger makes of the totals of a row's group. -/
def afterRow (sums : MaspPoolAggregateWindow → ℤ) (before : MaspPoolAggregateWindow → Option ℤ)
    (amount : ℤ) : MaspPoolAggregateWindow → Option ℤ
  | .oneDay => some (sums .oneDay)
  | .sevenDays => some (if (before .sevenDays).isSome then sums .sevenDays else sums .oneDay)
  | .thirtyDays => some (if (before .thirtyDays).isSome then sums .thirtyDays else sums .oneDay)
  | .allTime => some (match before .allTime with
      | some total => total+amount
      | none => sums .allTime)

section
variable {now : ℤ} {pool : List MaspDb} {aggregate aggregate' : Table MaspPoolAggregateDb.key}

lemma totals_setAggregate {token : String} {direction : MaspEntryDirection}
    {window : MaspPoolAggregateWindow} {inserted : ℤ} {updated : ℤ → ℤ}
    (h : setAggregate aggregate token direction window inserted updated = some aggregate')
    (g : MaspGroup) (window' : MaspPoolAggregateWindow) :
    totals aggregate' g window' =
      if g = (token,direction) ∧ window' = window then
        some (match totals aggregate g window' with
          | some total => updated total
          | none => inserted)
      else totals aggregate g window' := by
  obtain ⟨total,htotal,hput⟩ := Option.bind_eq_some_iff.mp h
  have hkey : (g.1,window',g.2) = (token,window,direction) ↔
      g = (token,direction) ∧ window' = window := by
    obtain ⟨token',direction'⟩ := g
    simp only [Prod.mk.injEq]
    tauto
  have hfind := Table.find?_put hput (g.1,window',g.2)
  simp only [MaspPoolAggregateDb.key,hkey] at hfind
  unfold totals
  rw [hfind]
  split
  · cases hold : aggregate.find? (g.1,window',g.2) with
    | none => simpa using Numeric.ofInt?_eq_some.mp htotal
    | some old =>
      -- the statement succeeded, so the column took the new total
      rename_i hsame
      obtain ⟨row,hrow⟩ : ∃ row, aggregate'.find? (g.1,window',g.2) = some row := by
        rw [←Option.ne_none_iff_exists',ne_eq,Table.find?_eq_none,not_not]
        exact (Table.mem_keys_put hput).mpr (.inr (hkey.mpr hsame))
      rw [if_pos hsame,hold,hrow] at hfind
      obtain ⟨total',htotal',rfl⟩ := Option.map_eq_some_iff.mp hfind.symm
      rw [←hfind]
      simpa using Numeric.ofInt?_eq_some.mp htotal'
  · rfl

lemma totals_updateMaspPoolAggregateSum {row : MaspDb}
    (h : updateMaspPoolAggregateSum now pool aggregate row = some aggregate') (g : MaspGroup) :
    totals aggregate' g =
      if row.group = g then afterRow (sums now pool g) (totals aggregate g) row.rawAmount.value
      else totals aggregate g := by
  obtain ⟨first,h₁,h⟩ := Option.bind_eq_some_iff.mp h
  obtain ⟨second,h₂,h⟩ := Option.bind_eq_some_iff.mp h
  obtain ⟨third,h₃,h₄⟩ := Option.bind_eq_some_iff.mp h
  funext window
  rw [totals_setAggregate h₄,totals_setAggregate h₃,totals_setAggregate h₂,totals_setAggregate h₁]
  by_cases hg : row.group = g
  · subst hg
    cases window with
    | oneDay => cases hold : totals aggregate row.group .oneDay <;>
        simp [MaspDb.group,afterRow,sums,MaspPoolAggregateWindow.cutoff]
    | sevenDays => cases hold : totals aggregate row.group .sevenDays <;>
        simp_all [MaspDb.group,afterRow,sums,MaspPoolAggregateWindow.cutoff]
    | thirtyDays => cases hold : totals aggregate row.group .thirtyDays <;>
        simp_all [MaspDb.group,afterRow,sums,MaspPoolAggregateWindow.cutoff]
    | allTime => cases hold : totals aggregate row.group .allTime <;>
        simp_all [MaspDb.group,afterRow,sums,MaspPoolAggregateWindow.cutoff]
  · have hother : ¬ g = (row.tokenAddress,row.direction) := fun h => hg h.symm
    simp [hg,hother]

/-- The amounts that rows add to a group, in order. -/
def amounts (g : MaspGroup) (rows : List MaspDb) : List ℤ :=
  (rows.filter fun row => row.group = g).map fun row => row.rawAmount.value

lemma totals_foldlM {rows : List MaspDb}
    (h : rows.foldlM (updateMaspPoolAggregateSum now pool) aggregate = some aggregate')
    (g : MaspGroup) :
    totals aggregate' g = (amounts g rows).foldl (afterRow (sums now pool g)) (totals aggregate g) := by
  induction rows generalizing aggregate with
  | nil => cases h; rfl
  | cons row rows ih =>
    obtain ⟨next,hnext,hrest⟩ := Option.bind_eq_some_iff.mp (by simpa using h)
    rw [ih hrest,totals_updateMaspPoolAggregateSum hnext g]
    by_cases hg : row.group = g
    · simp [amounts,hg]
    · simp [amounts,hg]

/-- The totals of a known group: the windows are summed up again, the last one goes on. -/
lemma foldl_afterRow_known (sums before : MaspPoolAggregateWindow → ℤ) (amounts : List ℤ) :
    amounts.foldl (afterRow sums) (fun window => some (before window)) = fun window =>
      some (if window = .allTime then before .allTime+amounts.sum
        else if amounts = [] then before window else sums window) := by
  induction amounts generalizing before with
  | nil =>
    funext window
    cases window <;> simp
  | cons amount amounts ih =>
    have hfirst : afterRow sums (fun window => some (before window)) amount = fun window =>
        some (if window = .allTime then before .allTime+amount else sums window) := by
      funext window
      cases window <;> simp [afterRow]
    rw [List.foldl_cons,hfirst,ih]
    funext window
    cases window with
    | allTime => simp [add_assoc]
    | oneDay | sevenDays | thirtyDays => simp

lemma known_right_iff {sums before : MaspPoolAggregateWindow → ℤ} {amounts : List ℤ}
    (hne : amounts ≠ []) :
    amounts.foldl (afterRow sums) (fun window => some (before window)) =
        (fun window => some (sums window)) ↔ before .allTime+amounts.sum = sums .allTime := by
  rw [foldl_afterRow_known]
  constructor
  · intro h
    simpa using congrFun h .allTime
  · intro h
    funext window
    cases window with
    | allTime => simpa using h
    | oneDay | sevenDays | thirtyDays => simp [hne]

/-- The totals that the first row of a group inserts. -/
def firstTotals (sums : MaspPoolAggregateWindow → ℤ) : MaspPoolAggregateWindow → ℤ
  | .allTime => sums .allTime
  | _ => sums .oneDay

lemma afterRow_none (sums : MaspPoolAggregateWindow → ℤ) (amount : ℤ) :
    afterRow sums (fun _ => none) amount = fun window => some (firstTotals sums window) := by
  funext window
  cases window <;> simp [afterRow,firstTotals]

lemma foldl_afterRow_none (sums : MaspPoolAggregateWindow → ℤ) (amount : ℤ) (amounts : List ℤ) :
    (amount::amounts).foldl (afterRow sums) (fun _ => none) = 
      amounts.foldl (afterRow sums) (fun window => some (firstTotals sums window)) := by
  rw [List.foldl_cons,afterRow_none]

/-- The amounts of rows from the start of a window on. -/
def windowSum (now : ℤ) (rows : List MaspDb) (window : MaspPoolAggregateWindow) : ℤ :=
  ((rows.filter fun row => ∀ time ∈ window.cutoff now, time ≤ row.timestamp).map
    fun row => row.rawAmount.value).sum

lemma sums_eq_windowSum (now : ℤ) (pool : List MaspDb) (g : MaspGroup) :
    sums now pool g = windowSum now (pool.filter fun row => row.group = g) := by
  funext window
  unfold sums maspSum windowSum
  rw [List.filter_filter]
  congr 3
  funext row
  rw [Bool.eq_iff_iff]
  simp [MaspDb.group,Prod.ext_iff,and_comm]

lemma windowSum_append (now : ℤ) (rows others : List MaspDb) (window : MaspPoolAggregateWindow) :
    windowSum now (rows ++ others) window = windowSum now rows window+windowSum now others window := by
  simp [windowSum]

lemma windowSum_allTime (now : ℤ) (rows : List MaspDb) :
    windowSum now rows .allTime = (rows.map fun row => row.rawAmount.value).sum := by
  simp [windowSum,MaspPoolAggregateWindow.cutoff]

lemma sums_append_allTime (now : ℤ) (rows others : List MaspDb) (g : MaspGroup) :
    sums now (rows ++ others) g .allTime = sums now rows g .allTime+(amounts g others).sum := by
  rw [sums_eq_windowSum,sums_eq_windowSum,List.filter_append,windowSum_append,
    windowSum_allTime now (others.filter _),amounts]

/-- The first rows of a group that the trigger sums up right: one that the windows do not
tell apart, or several of which all but one come to nothing. -/
def FirstRowsRight (now : ℤ) : List MaspDb → Prop
  | [] => True
  | [row] => row.rawAmount.value = 0 ∨ row.timestamp < now-30*86400 ∨ now-86400 ≤ row.timestamp
  | _::rest => (rest.map fun row => row.rawAmount.value).sum = 0

instance (now : ℤ) : (rows : List MaspDb) → Decidable (FirstRowsRight now rows)
  | [] => .isTrue trivial
  | [row] => inferInstanceAs (Decidable (_ ∨ row.timestamp < now-30*86400 ∨ _))
  | _::row::rest => inferInstanceAs (Decidable (((row::rest).map _).sum = 0))

lemma firstTotals_windowSum_iff (now : ℤ) (row : MaspDb) :
    (∀ window, firstTotals (windowSum now [row]) window = windowSum now [row] window) ↔
      FirstRowsRight now [row] := by
  have hsingle : ∀ window, windowSum now [row] window =
      if ∀ time ∈ MaspPoolAggregateWindow.cutoff now window, time ≤ row.timestamp then
        row.rawAmount.value else 0 := by
    intro window
    by_cases h : ∀ time ∈ MaspPoolAggregateWindow.cutoff now window, time ≤ row.timestamp
    · rw [if_pos h,windowSum,List.filter_eq_self.mpr (by simpa using h)]
      exact List.sum_singleton
    · rw [if_neg h,windowSum,List.filter_eq_nil_iff.mpr (by simpa using h)]
      rfl
  constructor
  · intro h
    have hthirty := h .thirtyDays
    simp only [firstTotals,hsingle,MaspPoolAggregateWindow.cutoff,Option.mem_def,Option.some.injEq,
      forall_eq'] at hthirty
    unfold FirstRowsRight
    split at hthirty <;> split at hthirty <;> omega
  · intro h window
    unfold FirstRowsRight at h
    cases window with
    | allTime => rfl
    | oneDay => rfl
    | sevenDays | thirtyDays =>
      simp only [firstTotals,hsingle,MaspPoolAggregateWindow.cutoff,Option.mem_def,
        Option.some.injEq,forall_eq']
      split <;> split <;> omega

lemma first_right_iff (now : ℤ) (row : MaspDb) (rest : List MaspDb) :
    ((row::rest).map fun row => row.rawAmount.value).foldl
        (afterRow (windowSum now (row::rest))) (fun _ => none) =
          (fun window => some (windowSum now (row::rest) window)) ↔
      FirstRowsRight now (row::rest) := by
  rw [List.map_cons,foldl_afterRow_none]
  cases rest with
  | nil =>
    rw [←firstTotals_windowSum_iff]
    simp [funext_iff]
  | cons other rest =>
    rw [known_right_iff (by simp)]
    exact add_eq_left

end

namespace MaspTables
variable {s s' : MaspTables} {a : MaspInsert}

/-- The tokens and directions of the stored rows. -/
def groups (s : MaspTables) : List MaspGroup := s.pool.rows.map MaspDb.group

/-- After the insert, every total of a token and direction that it added to is the sum over the
stored rows since the start of its window. -/
def TotalsRight (s : MaspTables) (a : MaspInsert) : Prop :=
  ∀ s', s.insert a = some s' → ∀ row ∈ s.inserted a, ∀ window,
    totals s'.aggregate row.group window = some (sums a.now s'.pool.rows row.group window)

/-- The first rows of each token and direction are such that the trigger sums them up right. -/
def FirstInsertsRight (s : MaspTables) (a : MaspInsert) : Prop :=
  ∀ row ∈ s.inserted a, row.group ∉ s.groups →
    FirstRowsRight a.now ((s.inserted a).filter fun other => other.group = row.group)

instance (s : MaspTables) (a : MaspInsert) : Decidable (s.FirstInsertsRight a) :=
  inferInstanceAs (Decidable (∀ row ∈ s.inserted a, row.group ∉ s.groups → _))

/-- Exactly the stored groups have totals, and the one over all time is their sum. -/
structure Consistent (s : MaspTables) : Prop where
  known : ∀ g ∈ s.groups, ∃ before : MaspPoolAggregateWindow → ℤ,
    totals s.aggregate g = (fun window => some (before window)) ∧
    ∀ now, before .allTime = sums now s.pool.rows g .allTime
  unknown : ∀ g ∉ s.groups, totals s.aggregate g = fun _ => none

lemma consistent_empty : empty.Consistent where
  known := by
    intro g hg
    contradiction
  unknown _ _ := rfl

lemma insert_rows (h : s.insert a = some s') : s'.pool.rows = s.pool.rows ++ s.inserted a := by
  rw [(insert_eq_some.mp h).1,Table.insertOrIgnore_rows]
  rfl

lemma totals_insert (h : s.insert a = some s') (g : MaspGroup) :
    totals s'.aggregate g = (amounts g (s.inserted a)).foldl (afterRow (sums a.now s'.pool.rows g))
      (totals s.aggregate g) :=
  totals_foldlM (insert_eq_some.mp h).2 g

lemma mem_groups_insert (h : s.insert a = some s') {g : MaspGroup} :
    g ∈ s'.groups ↔ g ∈ s.groups ∨ ∃ row ∈ s.inserted a, row.group = g := by
  rw [groups,insert_rows h,List.map_append,List.mem_append,groups]
  exact or_congr_right List.mem_map

lemma amounts_ne_nil {row : MaspDb} {rows : List MaspDb} (hrow : row ∈ rows) :
    amounts row.group rows ≠ [] := by
  have hmem : row ∈ rows.filter fun other => other.group = row.group :=
    List.mem_filter.mpr ⟨hrow,decide_eq_true rfl⟩
  rw [amounts,ne_eq,List.map_eq_nil_iff]
  exact List.ne_nil_of_mem hmem

lemma amounts_eq_nil {g : MaspGroup} {rows : List MaspDb} (h : ¬ ∃ row ∈ rows, row.group = g) :
    amounts g rows = [] := by
  rw [amounts,List.map_eq_nil_iff,List.filter_eq_nil_iff]
  intro row hrow hsame
  exact h ⟨row,hrow,by simpa using hsame⟩

/-- The totals of a known group stay right, however many rows the insert has. -/
lemma totals_insert_known (hs : s.Consistent) (h : s.insert a = some s') {row : MaspDb}
    (hrow : row ∈ s.inserted a) (hg : row.group ∈ s.groups) :
    totals s'.aggregate row.group =
      fun window => some (sums a.now s'.pool.rows row.group window) := by
  obtain ⟨before,hbefore,hall⟩ := hs.known row.group hg
  rw [totals_insert h,hbefore,known_right_iff (amounts_ne_nil hrow),hall a.now,insert_rows h,
    sums_append_allTime]

/-- Those of a new group are right if its first rows are. -/
lemma totals_insert_unknown_iff (hs : s.Consistent) (h : s.insert a = some s') {row : MaspDb}
    (hrow : row ∈ s.inserted a) (hg : row.group ∉ s.groups) :
    totals s'.aggregate row.group =
        (fun window => some (sums a.now s'.pool.rows row.group window)) ↔
      FirstRowsRight a.now ((s.inserted a).filter fun other => other.group = row.group) := by
  have hold : s.pool.rows.filter (fun other => other.group = row.group) = [] := by
    rw [List.filter_eq_nil_iff]
    intro other hother hsame
    exact hg (List.mem_map.mpr ⟨other,hother,by simpa using hsame⟩)
  have hsums : sums a.now s'.pool.rows row.group =
      windowSum a.now ((s.inserted a).filter fun other => other.group = row.group) := by
    rw [sums_eq_windowSum,insert_rows h,List.filter_append,hold,List.nil_append]
  rw [totals_insert h,hs.unknown row.group hg,hsums]
  have hne := amounts_ne_nil hrow
  unfold amounts at hne ⊢
  generalize (s.inserted a).filter (fun other => other.group = row.group) = first at hne ⊢
  cases first with
  | nil => contradiction
  | cons other rest => exact first_right_iff a.now other rest

lemma totalsRight_iff (hs : s.Consistent) (h : s.insert a = some s') :
    s.TotalsRight a ↔ s.FirstInsertsRight a := by
  constructor
  · intro hright row hrow hg
    exact (totals_insert_unknown_iff hs h hrow hg).mp (funext (hright s' h row hrow))
  · intro hfirst t ht row hrow window
    obtain rfl : s' = t := Option.some.inj (h.symm.trans ht)
    by_cases hg : row.group ∈ s.groups
    · rw [totals_insert_known hs h hrow hg]
    · rw [(totals_insert_unknown_iff hs h hrow hg).mpr (hfirst row hrow hg)]

lemma sums_allTime_now (now now' : ℤ) (pool : List MaspDb) (g : MaspGroup) :
    sums now pool g .allTime = sums now' pool g .allTime := rfl

/-- Totals that are right once go on being so for the sum over all time. -/
lemma consistent_insert (hs : s.Consistent) (h : s.insert a = some s') (hright : s.TotalsRight a) :
    s'.Consistent where
  known := by
    intro g hg
    by_cases hnew : ∃ row ∈ s.inserted a, row.group = g
    · obtain ⟨row,hrow,rfl⟩ := hnew
      exact ⟨_,funext (hright s' h row hrow),fun now => sums_allTime_now a.now now _ _⟩
    · have hnil := amounts_eq_nil hnew
      obtain ⟨before,hbefore,hall⟩ := hs.known g
        (((mem_groups_insert h).mp hg).resolve_right hnew)
      refine ⟨before,?_,?_⟩
      · rw [totals_insert h,hnil,hbefore]
        rfl
      · intro now
        rw [hall now,insert_rows h,sums_append_allTime,hnil,List.sum_nil,add_zero]
  unknown := by
    intro g hg
    rw [mem_groups_insert h,not_or] at hg
    have hnil := amounts_eq_nil hg.2
    rw [totals_insert h,hnil,hs.unknown g hg.1]
    rfl

lemma along_totalsRight_iff (hs : s.Consistent) {inserts : List MaspInsert}
    (h : Runs.execute insert s inserts = some s') :
    Runs.Along insert TotalsRight s inserts ↔ Runs.Along insert FirstInsertsRight s inserts := by
  induction inserts generalizing s with
  | nil => exact Iff.rfl
  | cons a inserts ih =>
    obtain ⟨next,hnext,hrest⟩ := Runs.execute_cons_eq_some.mp h
    rw [Runs.along_cons,Runs.along_cons,totalsRight_iff hs hnext]
    refine and_congr_right fun hfirst => ?_
    have hright := (totalsRight_iff hs hnext).mpr hfirst
    refine forall₂_congr fun t ht => ?_
    obtain rfl : next = t := Option.some.inj (hnext.symm.trans ht)
    exact ih (consistent_insert hs hnext hright) hrest

end MaspTables

/-- Over every sequence of inserts into an empty pool, the totals are right after each one if
and only if the first rows of every token and direction are ones the trigger sums up right. -/
theorem masp_aggregates_right_iff {inserts : List MaspInsert} {final : MaspTables}
    (h : Runs.execute MaspTables.insert .empty inserts = some final) :
    Runs.Along MaspTables.insert MaspTables.TotalsRight .empty inserts ↔
      Runs.Along MaspTables.insert MaspTables.FirstInsertsRight .empty inserts :=
  MaspTables.along_totalsRight_iff MaspTables.consistent_empty h

/-- A deposit of a transaction. -/
def deposit (innerTxId : String) (rawAmount : Numeric) : MaspDb where
  tokenAddress := "tnam1qnam"
  timestamp := 0
  rawAmount := rawAmount
  direction := .in
  innerTxId := innerTxId

/-- A block with the first deposit of a token, and one with two more. -/
def depositsAfterOne : List MaspInsert :=
  [⟨3600,[deposit "1" ⟨5,by decide⟩]⟩,
    ⟨200000,[deposit "2" ⟨7,by decide⟩,deposit "3" ⟨8,by decide⟩]⟩]

/-- The totals are right after each of these blocks. -/
theorem masp_aggregates_right_of_depositsAfterOne :
    ∃ final, Runs.execute MaspTables.insert .empty depositsAfterOne = some final ∧
      Runs.Along MaspTables.insert MaspTables.TotalsRight .empty depositsAfterOne := by
  have hrun : (Runs.execute MaspTables.insert .empty depositsAfterOne).isSome = true := by
    decide +kernel
  obtain ⟨final,h⟩ := Option.isSome_iff_exists.mp hrun
  exact ⟨final,h,(masp_aggregates_right_iff h).mpr (by decide +kernel)⟩

/-- If it has two of them, the second one is summed up twice. -/
theorem second_deposit_counted_twice :
    ∃ final, Runs.execute MaspTables.insert .empty
        [⟨3600,[deposit "1" ⟨5,by decide⟩,deposit "2" ⟨7,by decide⟩]⟩] = some final ∧
      totals final.aggregate ("tnam1qnam",.in) .allTime = some 19 ∧
      ¬ Runs.Along MaspTables.insert MaspTables.TotalsRight .empty
        [⟨3600,[deposit "1" ⟨5,by decide⟩,deposit "2" ⟨7,by decide⟩]⟩] := by
  refine ⟨_,rfl,by decide,?_⟩
  intro h
  have htotal := h.1 _ rfl (deposit "1" ⟨5,by decide⟩) (by decide) .allTime
  exact absurd htotal (by decide)

end NamadaIndexer.Transactions
