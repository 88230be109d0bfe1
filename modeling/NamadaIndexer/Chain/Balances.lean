import NamadaIndexer.Chain.Crawling
import NamadaIndexer.Foundation.Latest

/-! The view `balances`: of each owner and token, the balance at the greatest height. The
heights are stored in a signed column. -/
namespace NamadaIndexer.Chain
open NamadaIndexer.Foundation NamadaIndexer.Shared

/-- The columns of the view `balances`. -/
structure BalanceDb where
  owner : String
  token : String
  rawAmount : Amount
  deriving DecidableEq, Repr

def BalanceDb.pair (row : BalanceDb) : String × String := (row.owner,row.token)

def BalanceChangesDb.pair (row : BalanceChangesDb) : String × String := (row.owner,row.token)

def BalanceDb.ofChange (row : BalanceChangesDb) : BalanceDb where
  owner := row.owner
  token := row.token
  rawAmount := row.rawAmount

/-- `CREATE VIEW balances` -/
def ChainDb.balances (db : ChainDb) : List BalanceDb :=
  (latest BalanceChangesDb.pair (fun row => row.height.toInt) db.balanceChanges.rows).map
    BalanceDb.ofChange

section
variable (ctx : Context)

/-- The databases that calls of `insert_balances` lead to, with all that these calls inserted in
their order. Between them other tables may change. A call that fails is undone. -/
inductive Inserting : List Balance → ChainDb → Prop
  | start {db : ChainDb} (empty : db.balanceChanges = .empty) : Inserting [] db
  | call {inserted balances : List Balance} {db db' : ChainDb} (before : Inserting inserted db)
      (success : insertBalances ctx balances db = some db') : Inserting (inserted ++ balances) db'
  | other {inserted : List Balance} {db db' : ChainDb} (before : Inserting inserted db)
      (same : db'.balanceChanges = db.balanceChanges) : Inserting inserted db'

def pairOf (b : Balance) : String × String :=
  (b.owner.toString ctx.sdk,b.token.address.toString ctx.sdk)

def tripleOf (b : Balance) : (String × String) × BlockHeight := (pairOf ctx b,b.height)

def BalanceDb.ofBalance (b : Balance) : BalanceDb where
  owner := b.owner.toString ctx.sdk
  token := b.token.address.toString ctx.sdk
  rawAmount := b.amount

/-- The balance inserted first for the greatest height of its pair, where only heights with `p`
count. -/
structure FirstAtGreatest (p : BlockHeight → Prop) (inserted : List Balance) (b : Balance) :
    Prop where
  first : IsFirst (tripleOf ctx) inserted b
  counts : p b.height
  greatest : ∀ other ∈ inserted, pairOf ctx other = pairOf ctx b → p other.height →
    other.height ≤ b.height

/-- One row for each pair that was inserted, with the first amount at its greatest height. -/
structure BalancesRight (inserted : List Balance) (view : List BalanceDb) : Prop where
  one_row : (view.map BalanceDb.pair).Nodup
  every_pair : ∀ b ∈ inserted, pairOf ctx b ∈ view.map BalanceDb.pair
  amounts : ∀ row ∈ view, ∃ b, FirstAtGreatest ctx (fun _ => True) inserted b ∧
    row = .ofBalance ctx b

/-- The height fits into the signed column. -/
def FitsColumn (height : BlockHeight) : Prop := height.toNat < 2147483648

/-- The heights of a pair do not lie on both sides of the greatest value of the column, or the
amounts at the greatest height of either side are the same. -/
def SidesAgree (inserted : List Balance) : Prop :=
  ∀ b fitting, FirstAtGreatest ctx (fun _ => True) inserted b →
    FirstAtGreatest ctx FitsColumn inserted fitting → pairOf ctx fitting = pairOf ctx b →
      fitting.amount = b.amount

variable {ctx} {inserted : List Balance} {db : ChainDb}

/-- How a height is read back from the column. -/
lemma toInt_toInt32 (height : BlockHeight) :
    height.toInt32.toInt =
      if height.toNat < 2147483648 then (height.toNat : ℤ) else height.toNat - 4294967296 := by
  have hlt := height.toNat_lt
  have hbits : height.toInt32.toInt = height.toBitVec.toInt := rfl
  rw [hbits,BitVec.toInt_eq_toNat_cond]
  have hnat : height.toBitVec.toNat = height.toNat := rfl
  rw [hnat]
  split <;> split <;> omega

/-- The order of the column, told by the heights themselves. -/
lemma toInt_le_iff {a b : BlockHeight} :
    a.toInt32.toInt ≤ b.toInt32.toInt ↔
      (FitsColumn a → FitsColumn b ∧ a ≤ b) ∧ (¬ FitsColumn a → ¬ FitsColumn b → a ≤ b) := by
  have ha := a.toNat_lt
  have hb := b.toNat_lt
  rw [toInt_toInt32,toInt_toInt32,UInt32.le_iff_toNat_le]
  unfold FitsColumn
  split <;> split <;> omega

lemma key_fromBalance_eq_iff {b c : Balance} :
    (BalanceChangesDb.fromBalance ctx b).key = (BalanceChangesDb.fromBalance ctx c).key ↔
      tripleOf ctx b = tripleOf ctx c := by
  simp only [BalanceChangesDb.key,BalanceChangesDb.fromBalance,tripleOf,pairOf,
    Prod.mk.injEq,toInt32_inj,and_assoc]

/-- The table has the first row of each triple that was inserted. -/
lemma balanceChanges_of_inserting (h : Inserting ctx inserted db) :
    db.balanceChanges =
      Table.empty.insertOrIgnore (inserted.map (BalanceChangesDb.fromBalance ctx)) := by
  induction h with
  | start empty => rw [empty,List.map_nil,Table.insertOrIgnore_nil]
  | call before success ih =>
    obtain ⟨-,-,rfl⟩ := insertBalances_eq_some.mp success
    rw [ih,List.map_append,Table.insertOrIgnore_append]
  | other before same ih => rw [same,ih]

lemma mem_balanceChanges_iff (h : Inserting ctx inserted db) {row : BalanceChangesDb} :
    row ∈ db.balanceChanges.rows ↔
      ∃ b, IsFirst (tripleOf ctx) inserted b ∧ BalanceChangesDb.fromBalance ctx b = row := by
  rw [balanceChanges_of_inserting h,Table.mem_insertOrIgnore_empty,isFirst_map]
  have hkey : ∀ b, IsFirst (fun a => (BalanceChangesDb.fromBalance ctx a).key) inserted b ↔
      IsFirst (tripleOf ctx) inserted b := by
    intro b
    simp only [IsFirst,ne_eq,key_fromBalance_eq_iff]
  simp only [hkey]

/-- The row that the view has for a pair: the first one at the greatest height of the column. -/
lemma mem_balances_iff (h : Inserting ctx inserted db) {row : BalanceDb} :
    row ∈ db.balances ↔ ∃ b, IsFirst (tripleOf ctx) inserted b ∧ .ofBalance ctx b = row ∧
      ∀ other ∈ inserted, pairOf ctx other = pairOf ctx b →
        other.height.toInt32.toInt ≤ b.height.toInt32.toInt := by
  rw [ChainDb.balances,List.mem_map]
  constructor
  · rintro ⟨change,hchange,rfl⟩
    obtain ⟨hmem,hgreatest⟩ := mem_latest.mp hchange
    obtain ⟨b,hfirst,rfl⟩ := (mem_balanceChanges_iff h).mp hmem
    refine ⟨b,hfirst,rfl,fun other hother hpair => ?_⟩
    obtain ⟨stored,hstored,htriple⟩ := exists_isFirst (tripleOf ctx) hother
    obtain ⟨hsame,hheight⟩ := Prod.mk.inj htriple
    rw [←hheight]
    exact hgreatest _ ((mem_balanceChanges_iff h).mpr ⟨stored,hstored,rfl⟩) (hsame.trans hpair)
  · rintro ⟨b,hfirst,rfl,hgreatest⟩
    refine ⟨.fromBalance ctx b,mem_latest.mpr ⟨?_,fun change hchange hpair => ?_⟩,rfl⟩
    · exact (mem_balanceChanges_iff h).mpr ⟨b,hfirst,rfl⟩
    · obtain ⟨other,hother,rfl⟩ := (mem_balanceChanges_iff h).mp hchange
      exact hgreatest other hother.mem hpair

lemma balances_pairs_nodup (db : ChainDb) : (db.balances.map BalanceDb.pair).Nodup := by
  have hpairs : db.balances.map BalanceDb.pair =
      (latest BalanceChangesDb.pair (fun row => row.height.toInt) db.balanceChanges.rows).map
        BalanceChangesDb.pair := by
    rw [ChainDb.balances,List.map_map]
    rfl
  rw [hpairs]
  apply latest_nodup
  apply List.Nodup.of_map fun entry => (entry.1.1,entry.1.2,Int32.ofInt entry.2)
  rw [List.map_map]
  have hkey : (fun entry : (String × String) × ℤ => (entry.1.1,entry.1.2,Int32.ofInt entry.2)) ∘
      (fun row : BalanceChangesDb => (row.pair,row.height.toInt)) = BalanceChangesDb.key := by
    funext row
    simp [BalanceChangesDb.pair,BalanceChangesDb.key]
  rw [hkey]
  exact db.balanceChanges.unique

/-- Every pair has a balance inserted first for its greatest height. -/
lemma exists_firstAtGreatest {p : BlockHeight → Prop} [DecidablePred p] {b : Balance}
    (hb : b ∈ inserted) (hp : p b.height) :
    ∃ c, FirstAtGreatest ctx p inserted c ∧ pairOf ctx c = pairOf ctx b := by
  have hcounts : b ∈ inserted.filter fun c => p c.height := List.mem_filter.mpr ⟨hb,by simpa using hp⟩
  obtain ⟨greatest,hgreatest,hpair⟩ := exists_mem_latest (pairOf ctx)
    (fun c => c.height.toNat) hcounts
  obtain ⟨hmem,hle⟩ := mem_latest.mp hgreatest
  obtain ⟨hmem,hp⟩ := List.mem_filter.mp hmem
  obtain ⟨c,hc,htriple⟩ := exists_isFirst (tripleOf ctx) hmem
  obtain ⟨hsame,hheight⟩ := Prod.mk.inj htriple
  refine ⟨c,⟨hc,?_,fun other hother hother' hp' => ?_⟩,hsame.trans hpair⟩
  · rw [hheight]
    simpa using hp
  · rw [hheight,UInt32.le_iff_toNat_le]
    exact hle other (List.mem_filter.mpr ⟨hother,by simpa using hp'⟩) (hother'.trans hsame)

lemma FirstAtGreatest.unique {p : BlockHeight → Prop} {b c : Balance}
    (hb : FirstAtGreatest ctx p inserted b) (hc : FirstAtGreatest ctx p inserted c)
    (hpair : pairOf ctx b = pairOf ctx c) : b = c := by
  have hle : b.height ≤ c.height := hc.greatest b hb.first.mem hpair hb.counts
  have hge : c.height ≤ b.height := hb.greatest c hc.first.mem hpair.symm hc.counts
  exact hb.first.unique hc.first (Prod.ext hpair (UInt32.le_antisymm hle hge))

/-- As long as every height fits into the column there is one side only. -/
lemma sidesAgree_of_fitsColumn (h : ∀ b ∈ inserted, FitsColumn b.height) :
    SidesAgree ctx inserted := by
  intro b fitting hb hfitting hpair
  have hall : FirstAtGreatest ctx (fun _ => True) inserted fitting :=
    ⟨hfitting.first,trivial,fun other hother hsame _ =>
      hfitting.greatest other hother hsame (h other hother)⟩
  rw [hall.unique hb hpair]

/-- What the view shows for a pair: the first balance at its greatest height that fits into the
column, or at the greatest of all where none fits. -/
lemma mem_balances_iff_greatest (h : Inserting ctx inserted db) {row : BalanceDb} :
    row ∈ db.balances ↔ ∃ b, .ofBalance ctx b = row ∧ (FirstAtGreatest ctx FitsColumn inserted b ∨
      FirstAtGreatest ctx (fun _ => True) inserted b ∧
        ∀ other ∈ inserted, pairOf ctx other = pairOf ctx b → ¬ FitsColumn other.height) := by
  rw [mem_balances_iff h]
  simp only [toInt_le_iff]
  constructor
  · rintro ⟨b,hfirst,rfl,hgreatest⟩
    refine ⟨b,rfl,?_⟩
    by_cases hfits : FitsColumn b.height
    · left
      exact ⟨hfirst,hfits,fun other hother hpair hp => ((hgreatest other hother hpair).1 hp).2⟩
    · right
      have hnone : ∀ other ∈ inserted, pairOf ctx other = pairOf ctx b →
          ¬ FitsColumn other.height :=
        fun other hother hpair hp => hfits ((hgreatest other hother hpair).1 hp).1
      refine ⟨⟨hfirst,trivial,fun other hother hpair _ => ?_⟩,hnone⟩
      exact (hgreatest other hother hpair).2 (hnone other hother hpair) hfits
  · rintro ⟨b,rfl,hb | ⟨hb,hnone⟩⟩
    · refine ⟨b,hb.first,rfl,fun other hother hpair => ⟨fun hp => ?_,fun _ hnot => ?_⟩⟩
      · exact ⟨hb.counts,hb.greatest other hother hpair hp⟩
      · exact absurd hb.counts hnot
    · refine ⟨b,hb.first,rfl,fun other hother hpair => ⟨fun hp => ?_,fun _ _ => ?_⟩⟩
      · exact absurd hp (hnone other hother hpair)
      · exact hb.greatest other hother hpair trivial

lemma balancesRight_iff (h : Inserting ctx inserted db) :
    BalancesRight ctx inserted db.balances ↔ SidesAgree ctx inserted := by
  classical
  constructor
  · intro hright b fitting hb hfitting hpair
    have hrow : .ofBalance ctx fitting ∈ db.balances :=
      (mem_balances_iff_greatest h).mpr ⟨fitting,rfl,.inl hfitting⟩
    obtain ⟨c,hc,hsame⟩ := hright.amounts _ hrow
    simp only [BalanceDb.ofBalance,BalanceDb.mk.injEq] at hsame
    have hcb : c = b := by
      apply hc.unique hb
      rw [←hpair]
      exact Prod.ext hsame.1.symm hsame.2.1.symm
    rw [hsame.2.2,hcb]
  · intro hsides
    refine ⟨balances_pairs_nodup db,fun b hb => ?_,fun row hrow => ?_⟩
    · by_cases hany : ∃ other ∈ inserted, pairOf ctx other = pairOf ctx b ∧ FitsColumn other.height
      · obtain ⟨other,hother,hpair,hfits⟩ := hany
        obtain ⟨c,hc,hsame⟩ := exists_firstAtGreatest hother hfits
        exact List.mem_map.mpr ⟨.ofBalance ctx c,
          (mem_balances_iff_greatest h).mpr ⟨c,rfl,.inl hc⟩,hsame.trans hpair⟩
      · obtain ⟨c,hc,hsame⟩ := exists_firstAtGreatest (p := fun _ => True) hb trivial
        refine List.mem_map.mpr ⟨.ofBalance ctx c,
          (mem_balances_iff_greatest h).mpr ⟨c,rfl,.inr ⟨hc,?_⟩⟩,hsame⟩
        exact fun other hother hpair hfits => hany ⟨other,hother,hpair.trans hsame,hfits⟩
    · obtain ⟨b,rfl,hb | ⟨hb,-⟩⟩ := (mem_balances_iff_greatest h).mp hrow
      · obtain ⟨c,hc,hpair⟩ := @exists_firstAtGreatest ctx _ (fun _ => True) _ b hb.first.mem
          trivial
        obtain ⟨howner,htoken⟩ := Prod.mk.inj hpair
        have hamount := hsides c b hc hb hpair.symm
        refine ⟨c,hc,?_⟩
        rw [BalanceDb.ofBalance,BalanceDb.ofBalance,howner,htoken,hamount]
      · exact ⟨b,hb,rfl⟩

/-- Distinct triples are all stored, whatever their order. -/
lemma balances_perm {inserted' : List Balance} {db' : ChainDb} (h : Inserting ctx inserted db)
    (h' : Inserting ctx inserted' db') (hperm : inserted.Perm inserted')
    (hnodup : (inserted.map (tripleOf ctx)).Nodup) : db.balances.Perm db'.balances := by
  have hrows : ∀ {list : List Balance} {other : ChainDb}, Inserting ctx list other →
      (list.map (tripleOf ctx)).Nodup → ∀ row, row ∈ other.balanceChanges.rows ↔
        row ∈ list.map (BalanceChangesDb.fromBalance ctx) := by
    intro list other hlist hdistinct row
    rw [mem_balanceChanges_iff hlist,List.mem_map]
    constructor
    · rintro ⟨b,hb,rfl⟩
      exact ⟨b,hb.mem,rfl⟩
    · rintro ⟨b,hb,rfl⟩
      obtain ⟨c,hc,htriple⟩ := exists_isFirst (tripleOf ctx) hb
      obtain rfl : c = b := List.inj_on_of_nodup_map hdistinct hc.mem hb htriple
      exact ⟨c,hc,rfl⟩
  have hsame : db.balanceChanges.rows.Perm db'.balanceChanges.rows := by
    rw [List.perm_ext_iff_of_nodup db.balanceChanges.unique.of_map
      db'.balanceChanges.unique.of_map]
    intro row
    rw [hrows h hnodup,hrows h' ((hperm.map _).nodup_iff.mp hnodup),
      (hperm.map (BalanceChangesDb.fromBalance ctx)).mem_iff]
  exact (latest_perm hsame).map _

end

/-- After any calls of `insert_balances`, the view has one row for each owner and token, with the
first amount at their greatest height, exactly when the amounts on the two sides of the column's
greatest value agree. Distinct triples give the same view in any order. -/
theorem balances_right_iff (ctx : Context) {inserted : List Balance} {db : ChainDb}
    (h : Inserting ctx inserted db) :
    (BalancesRight ctx inserted db.balances ↔ SidesAgree ctx inserted) ∧
      ∀ inserted' db', Inserting ctx inserted' db' → inserted.Perm inserted' →
        (inserted.map (tripleOf ctx)).Nodup → db.balances.Perm db'.balances :=
  ⟨balancesRight_iff h,fun _ _ h' => balances_perm h h'⟩

/-- The native balance of alice at a height. -/
def aliceAt (height : BlockHeight) (amount : Amount) : Balance :=
  ⟨.account "alice",.native (.account "nam"),amount,height⟩

def smallBlocksDb : ChainDb :=
  { ChainDb.empty with
    tokens := ⟨[⟨"nam",.native⟩],by decide⟩
    blocks := ⟨[⟨7,none,none,none,none,none⟩,⟨8,none,none,none,none,none⟩],by decide⟩ }

/-- Two balances of alice at small heights, inserted in either order. -/
theorem balances_right_alice : ∃ db db', Inserting (sampleContext bondTx)
      [aliceAt 7 100,aliceAt 8 70] db ∧
    Inserting (sampleContext bondTx) [aliceAt 8 70,aliceAt 7 100] db' ∧
    BalancesRight (sampleContext bondTx) [aliceAt 7 100,aliceAt 8 70] db.balances ∧
    db.balances.Perm db'.balances := by
  have hrun (balances : List Balance) (hsome : (insertBalances (sampleContext bondTx) balances
      smallBlocksDb).isSome) : ∃ db, Inserting (sampleContext bondTx) balances db := by
    obtain ⟨db,hcall⟩ := Option.isSome_iff_exists.mp hsome
    exact ⟨db,.call (.start rfl) hcall⟩
  obtain ⟨db,hdb⟩ := hrun [aliceAt 7 100,aliceAt 8 70] (by decide +kernel)
  obtain ⟨db',hdb'⟩ := hrun [aliceAt 8 70,aliceAt 7 100] (by decide +kernel)
  have hright := balances_right_iff (sampleContext bondTx) hdb
  have hsides : SidesAgree (sampleContext bondTx) [aliceAt 7 100,aliceAt 8 70] := by
    apply sidesAgree_of_fitsColumn
    unfold FitsColumn
    decide
  exact ⟨db,db',hdb,hdb',hright.1.mpr hsides,hright.2 _ db' hdb' (.swap ..) (by decide)⟩

/-- The last block that fits into the column, and the next one. -/
def boundaryDb : ChainDb :=
  { ChainDb.empty with
    tokens := ⟨[⟨"nam",.native⟩],by decide⟩
    blocks := ⟨[⟨2147483647,none,none,none,none,none⟩,⟨-2147483648,none,none,none,none,none⟩],
      by decide⟩ }

lemma inserting_alice : ∃ db, Inserting (sampleContext bondTx)
    [aliceAt 2147483647 100,aliceAt 2147483648 70] db ∧ db.balances = [⟨"alice","nam",100⟩] := by
  have hrun : (insertBalances (sampleContext bondTx)
      [aliceAt 2147483647 100,aliceAt 2147483648 70] boundaryDb).map ChainDb.balances =
      some [⟨"alice","nam",100⟩] := by decide +kernel
  obtain ⟨db,hcall,hview⟩ := Option.map_eq_some_iff.mp hrun
  exact ⟨db,.call (.start rfl) hcall,hview⟩

/-- Height 2147483648 is stored as a negative number, and the older balance stays in the view. -/
theorem balance_of_later_height_hidden : ∃ db, Inserting (sampleContext bondTx)
    [aliceAt 2147483647 100,aliceAt 2147483648 70] db ∧ db.balances = [⟨"alice","nam",100⟩] ∧
    ¬ BalancesRight (sampleContext bondTx) [aliceAt 2147483647 100,aliceAt 2147483648 70]
      db.balances := by
  obtain ⟨db,hrun,hview⟩ := inserting_alice
  refine ⟨db,hrun,hview,fun hright => ?_⟩
  rw [hview] at hright
  obtain ⟨b,hb,hrow⟩ := hright.amounts _ List.mem_cons_self
  rcases List.mem_cons.mp hb.first.mem with rfl | hmem
  · have hle := hb.greatest (aliceAt 2147483648 70) (by simp) rfl trivial
    exact absurd hle (by decide)
  · obtain rfl := List.mem_singleton.mp hmem
    exact absurd hrow (by decide)

end NamadaIndexer.Chain
