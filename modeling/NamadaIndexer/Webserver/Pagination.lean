import NamadaIndexer.Foundation.Iteration
import NamadaIndexer.Foundation.Overflow
import NamadaIndexer.Foundation.Rounding

/-! The pages of a query. The number of all rows is read off a row of the page, so that a page past
the end does not know it. -/
namespace NamadaIndexer.Webserver
open NamadaIndexer.Foundation

structure Paginated where
  page : Int64
  perPage : Int64
  offset : Int64
  deriving DecidableEq, Repr

/-- `ITEM_PER_PAGE` -/
def DEFAULT_PER_PAGE : Int64 := 30

/-- `as i64` of a floating-point number without a fraction -/
def saturateI64 (n : ℤ) : Int64 :=
  Int64.ofInt (max (-9223372036854775808) (min n 9223372036854775807))

section
variable (overflowChecks : Bool)

/-- `(page - 1) * per_page` -/
def offsetOf (page perPage : Int64) : Panicking Int64 := do
  mulI64 overflowChecks (← subI64 overflowChecks page 1) perPage

def paginate (page : Int64) : Panicking Paginated := do
  let offset ← offsetOf overflowChecks page DEFAULT_PER_PAGE
  return ⟨page,DEFAULT_PER_PAGE,offset⟩

/-- `Paginated::per_page` -/
def Paginated.withPerPage (paginated : Paginated) (perPage : Int64) : Panicking Paginated := do
  let offset ← offsetOf overflowChecks paginated.page perPage
  return { paginated with perPage, offset }

/-- A page of the given size. -/
def paginateBy (page perPage : Int64) : Panicking Paginated := do
  (← paginate overflowChecks page).withPerPage overflowChecks perPage

end

namespace Paginated
variable {α : Type} (paginated : Paginated) (rows : List α)

/-- `SELECT *, COUNT(*) OVER () FROM (...) t LIMIT .. OFFSET ..`, on the rows of the inner query. A
limit or an offset below zero is an error. -/
def load : Option (List (α × Int64)) :=
  if paginated.perPage < 0 ∨ paginated.offset < 0 then none
  else some (((rows.drop paginated.offset.toInt.toNat).take paginated.perPage.toInt.toNat).map
    fun row => (row,Int64.ofInt rows.length))

/-- `load_and_count_pages`: the records, the number of pages and the number of rows. -/
def loadAndCountPages : Option (List α × Int64 × Int64) := do
  let results ← paginated.load rows
  let total := (results.head?.map Prod.snd).getD 0
  let records := results.map Prod.fst
  let totalPages := saturateI64 ⌈toF64 (toF64 total.toInt / toF64 paginated.perPage.toInt)⌉
  return (records,totalPages,total)

end Paginated

section
variable {α : Type} (overflowChecks : Bool) (rows : List α) (page perPage : Int64)

def loadPage : Panicking (Option (List α × Int64 × Int64)) := do
  return (← paginateBy overflowChecks page perPage).loadAndCountPages rows

structure Pagination where
  page : UInt64
  perPage : UInt64
  totalPages : UInt64
  totalItems : UInt64
  deriving DecidableEq, Repr

structure PaginatedResponse (α : Type) where
  results : List α
  pagination : Pagination

/-- `PaginatedResponse::new` -/
def PaginatedResponse.new (results : List α) (page totalPages totalItems : UInt64) :
    PaginatedResponse α :=
  ⟨results,⟨page,DEFAULT_PER_PAGE.toUInt64,totalPages,totalItems⟩⟩

/-- The handlers, down to the query and back. -/
def respond (page : UInt64) : Panicking (Option (PaginatedResponse α)) := do
  let paginated ← paginate overflowChecks page.toInt64
  return (paginated.loadAndCountPages rows).map fun loaded =>
    .new loaded.1 page loaded.2.1.toUInt64 loaded.2.2.toUInt64

/-- The records of a page that was loaded. -/
def recordsOf : Panicking (Option (List α × Int64 × Int64)) → List α
  | .returns (some (records,_,_)) => records
  | _ => []

/-- The number of pages that the rows make. -/
def pageCount : ℤ := ⌈(rows.length / perPage.toInt : ℚ)⌉

/-- All pages together are the rows. -/
def PagesExact : Prop :=
  ((List.range (pageCount rows perPage).toNat).flatMap fun k : ℕ =>
    recordsOf (loadPage overflowChecks rows (Int64.ofInt (k+1)) perPage)) = rows

/-- The page is loaded, and tells how many rows and pages there are. -/
def TotalsExact : Prop :=
  ∃ records totalPages totalItems,
    loadPage overflowChecks rows page perPage = .returns (some (records,totalPages,totalItems)) ∧
      totalItems.toInt = rows.length ∧ totalPages.toInt = pageCount rows perPage

/-- The rows that come before a page. -/
def skippedRows : ℤ := (page.toInt - 1) * perPage.toInt

/-- The rows before the page are counted in 64 bits, for pages of the default size as well, and are
not all of the rows. -/
structure Reached : Prop where
  fitsDefault : overflowChecks = true → FitsI64 (skippedRows page DEFAULT_PER_PAGE)
  fits : overflowChecks = true → FitsI64 (skippedRows page perPage)
  nonneg : 0 ≤ (skippedRows page perPage).bmod 18446744073709551616
  notPast : rows = [] ∨ (skippedRows page perPage).bmod 18446744073709551616 < rows.length

end

section
variable {α : Type} {overflowChecks : Bool} {rows : List α} {page perPage : Int64}

lemma toInt_offset :
    ((page - 1) * perPage).toInt = (skippedRows page perPage).bmod 18446744073709551616 := by
  have hone : (1 : Int64).toInt = 1 := rfl
  rw [Int64.toInt_mul,Int64.toInt_sub,hone,skippedRows]
  exact Int.bmod_mul_bmod

lemma toInt_pred (h : FitsI64 (page.toInt - 1)) : (page - 1).toInt = page.toInt - 1 := by
  have hone : (1 : Int64).toInt = 1 := rfl
  obtain ⟨hlow,hhigh⟩ := h
  rw [Int64.toInt_sub,hone]
  exact Int.bmod_eq_of_le (by omega) (by omega)

lemma fits_pred (hsize : 0 < perPage) (h : FitsI64 (skippedRows page perPage)) :
    FitsI64 (page.toInt - 1) := by
  have hpos : 1 ≤ perPage.toInt := Int64.lt_iff_toInt_lt.mp hsize
  have hpage := page.toInt_lt
  refine ⟨?_,by omega⟩
  by_contra hlow
  have hneg : page.toInt - 1 ≤ -9223372036854775809 := by omega
  have hproduct : (page.toInt - 1) * perPage.toInt ≤ page.toInt - 1 := by nlinarith
  have hfits : -9223372036854775808 ≤ (page.toInt - 1) * perPage.toInt := h.1
  omega

/-- An offset is computed unless it overflows, and that is found out. -/
lemma offsetOf_returns_iff (hsize : 0 < perPage) {offset : Int64} :
    offsetOf overflowChecks page perPage = .returns offset ↔
      (overflowChecks = true → FitsI64 (skippedRows page perPage)) ∧
        offset = (page - 1) * perPage := by
  have hone : (1 : Int64).toInt = 1 := rfl
  unfold offsetOf subI64 mulI64
  cases overflowChecks with
  | false => simp [eq_comm]
  | true =>
    by_cases hpred : FitsI64 (page.toInt - 1)
    · rw [hone,if_neg (by simp [hpred]),Panicking.returns_bind,toInt_pred hpred]
      by_cases hfits : FitsI64 (skippedRows page perPage)
      · rw [if_neg fun h => h.2 hfits]
        simp [hfits,eq_comm]
      · rw [if_pos ⟨rfl,hfits⟩]
        simp [hfits]
    · have hfits : ¬ FitsI64 (skippedRows page perPage) := mt (fits_pred hsize) hpred
      rw [hone,if_pos ⟨rfl,hpred⟩]
      simp [hfits]

/-- So is a page, with its offset for the default size before that for its own. -/
lemma paginateBy_returns_iff (hsize : 0 < perPage) {paginated : Paginated} :
    paginateBy overflowChecks page perPage = .returns paginated ↔
      (overflowChecks = true → FitsI64 (skippedRows page DEFAULT_PER_PAGE)) ∧
        (overflowChecks = true → FitsI64 (skippedRows page perPage)) ∧
        paginated = ⟨page,perPage,(page - 1) * perPage⟩ := by
  have hdefault : 0 < DEFAULT_PER_PAGE := by decide
  rw [paginateBy,paginate,Panicking.bind_eq_returns]
  constructor
  · rintro ⟨first,hfirst,hpaginated⟩
    obtain ⟨offset,hoffset,hfirst⟩ := Panicking.bind_eq_returns.mp hfirst
    cases hfirst
    obtain ⟨own,hown,hpaginated⟩ := Panicking.bind_eq_returns.mp hpaginated
    cases hpaginated
    obtain ⟨hfits,rfl⟩ := (offsetOf_returns_iff hsize).mp hown
    exact ⟨((offsetOf_returns_iff hdefault).mp hoffset).1,hfits,rfl⟩
  · rintro ⟨hfitsDefault,hfits,rfl⟩
    refine ⟨⟨page,DEFAULT_PER_PAGE,(page - 1) * DEFAULT_PER_PAGE⟩,?_,?_⟩
    · rw [(offsetOf_returns_iff hdefault).mpr ⟨hfitsDefault,rfl⟩]
      rfl
    · rw [Paginated.withPerPage,(offsetOf_returns_iff hsize).mpr ⟨hfits,rfl⟩]
      rfl

lemma toInt_saturate {n : ℤ} (h : 0 ≤ n) (hlt : n < 9223372036854775808) :
    (saturateI64 n).toInt = n := by
  rw [saturateI64,min_eq_left (by omega),max_eq_right (by omega)]
  exact Int64.toInt_ofInt_of_le (by omega) (by omega)

lemma toInt_count (hrows : rows.length < 2^53) : (Int64.ofInt rows.length).toInt = rows.length :=
  Int64.toInt_ofInt_of_le (by omega) (by omega)

/-- The number of pages comes out right, in spite of the floating-point numbers. -/
lemma toInt_totalPages (hrows : rows.length < 2^53) (hsize : 0 < perPage) :
    (saturateI64 ⌈toF64 (toF64 (Int64.ofInt rows.length).toInt / toF64 perPage.toInt)⌉).toInt =
      pageCount rows perPage := by
  have hpos : 1 ≤ perPage.toInt := Int64.lt_iff_toInt_lt.mp hsize
  obtain ⟨size,hsizeNat⟩ := Int.eq_ofNat_of_zero_le (show 0 ≤ perPage.toInt by omega)
  have hceil : ⌈toF64 (toF64 (Int64.ofInt rows.length).toInt / toF64 perPage.toInt)⌉ =
      pageCount rows perPage := by
    rw [toInt_count hrows,pageCount,hsizeNat]
    exact ceil_toF64_div hrows (by omega)
  have hsize1 : (1 : ℚ) ≤ perPage.toInt := by exact_mod_cast hpos
  have hnonneg : 0 ≤ pageCount rows perPage :=
    Int.ceil_nonneg (div_nonneg (Nat.cast_nonneg _) (by linarith))
  have hle : pageCount rows perPage ≤ rows.length := by
    refine Int.ceil_le.mpr ?_
    rw [Int.cast_natCast]
    exact div_le_self (Nat.cast_nonneg _) hsize1
  rw [hceil,toInt_saturate hnonneg (by omega)]

/-- What a page has, and the totals that are read off it: those of all rows, if it has a row. -/
lemma loadAndCountPages_eq (hsize : 0 < perPage) {offset : Int64} (hoffset : 0 ≤ offset) :
    (⟨page,perPage,offset⟩ : Paginated).loadAndCountPages rows =
      some ((rows.drop offset.toInt.toNat).take perPage.toInt.toNat,
        if offset.toInt < rows.length then
          (saturateI64 ⌈toF64 (toF64 (Int64.ofInt rows.length).toInt / toF64 perPage.toInt)⌉,
            Int64.ofInt rows.length)
        else (0,0)) := by
  have hpos : 1 ≤ perPage.toInt := Int64.lt_iff_toInt_lt.mp hsize
  have hnonneg : 0 ≤ offset.toInt := Int64.le_iff_toInt_le.mp hoffset
  have hload : ¬ (perPage < 0 ∨ offset < 0) := by
    rw [Int64.lt_iff_toInt_lt,Int64.lt_iff_toInt_lt]
    have hzero : (0 : Int64).toInt = 0 := rfl
    omega
  rw [Paginated.loadAndCountPages,Paginated.load,if_neg hload]
  have hrecords (l : List α) : (l.map fun row => (row,Int64.ofInt rows.length)).map Prod.fst = l := by
    rw [List.map_map]
    exact List.map_id l
  rw [Option.bind_eq_bind,Option.bind_some,hrecords]
  split
  · rename_i hlt
    obtain ⟨row,rest,hdrop⟩ : ∃ row rest, rows.drop offset.toInt.toNat = row :: rest := by
      apply List.exists_cons_of_ne_nil
      rw [Ne,List.drop_eq_nil_iff]
      omega
    obtain ⟨more,hmore⟩ : ∃ more, perPage.toInt.toNat = more + 1 := ⟨perPage.toInt.toNat - 1,by omega⟩
    rw [hdrop,hmore]
    rfl
  · rename_i hge
    have hdrop : rows.drop offset.toInt.toNat = [] := by
      rw [List.drop_eq_nil_iff]
      omega
    rw [hdrop,List.take_nil]
    have hceil : ⌈toF64 (toF64 ((0 : Int64).toInt : ℚ) / toF64 perPage.toInt)⌉ = 0 := by
      have hzero : ((0 : Int64).toInt : ℚ) = 0 := rfl
      rw [hzero,toF64_zero,zero_div,toF64_zero,Int.ceil_zero]
    simp only [List.map_nil,List.head?_nil,Option.map_none,Option.getD_none,hceil]
    rfl

/-- A page is loaded from its offset on. -/
lemma loadPage_of_fits (hsize : 0 < perPage)
    (hfitsDefault : overflowChecks = true → FitsI64 (skippedRows page DEFAULT_PER_PAGE))
    (hfits : overflowChecks = true → FitsI64 (skippedRows page perPage))
    (hnonneg : 0 ≤ (skippedRows page perPage).bmod 18446744073709551616) :
    loadPage overflowChecks rows page perPage =
      .returns (some
        ((rows.drop ((skippedRows page perPage).bmod 18446744073709551616).toNat).take
            perPage.toInt.toNat,
          if (skippedRows page perPage).bmod 18446744073709551616 < rows.length then
            (saturateI64 ⌈toF64 (toF64 (Int64.ofInt rows.length).toInt / toF64 perPage.toInt)⌉,
              Int64.ofInt rows.length)
          else (0,0))) := by
  have hoffset : 0 ≤ (page - 1) * perPage := by
    rw [Int64.le_iff_toInt_le,toInt_offset]
    exact hnonneg
  rw [loadPage,(paginateBy_returns_iff hsize).mpr ⟨hfitsDefault,hfits,rfl⟩,Panicking.returns_bind,
    loadAndCountPages_eq hsize hoffset,toInt_offset]
  rfl

/-- A page whose offset is below zero is an error. -/
lemma offset_nonneg {offset : Int64} {result : List α × Int64 × Int64}
    (h : (⟨page,perPage,offset⟩ : Paginated).loadAndCountPages rows = some result) :
    0 ≤ offset := by
  obtain ⟨results,hresults,-⟩ := Option.bind_eq_some_iff.mp h
  unfold Paginated.load at hresults
  split at hresults
  · contradiction
  · rename_i hneg
    exact Int64.not_lt.mp fun hlt => hneg (.inr hlt)

/-- The totals are right exactly if the rows before the page do not overflow their counter, and are
not all of the rows. -/
theorem totalsExact_iff (hrows : rows.length < 2^53) (hsize : 0 < perPage) :
    TotalsExact overflowChecks rows page perPage ↔ Reached overflowChecks rows page perPage := by
  constructor
  · rintro ⟨records,totalPages,totalItems,hload,hitems,-⟩
    obtain ⟨paginated,hnew,hloaded⟩ := Panicking.bind_eq_returns.mp hload
    obtain ⟨hfitsDefault,hfits,rfl⟩ := (paginateBy_returns_iff hsize).mp hnew
    have hnonneg : 0 ≤ (skippedRows page perPage).bmod 18446744073709551616 := by
      have hoffset := Int64.le_iff_toInt_le.mp (offset_nonneg (Panicking.returns.inj hloaded))
      rw [toInt_offset] at hoffset
      exact hoffset
    refine ⟨hfitsDefault,hfits,hnonneg,?_⟩
    rw [loadPage_of_fits hsize hfitsDefault hfits hnonneg] at hload
    split at hload
    · exact .inr ‹_›
    · cases hload
      have hempty : (rows.length : ℤ) = 0 := hitems.symm
      exact .inl (List.length_eq_zero_iff.mp (by omega))
  · rintro ⟨hfitsDefault,hfits,hnonneg,hrest⟩
    have hload : loadPage overflowChecks rows page perPage = _ :=
      loadPage_of_fits hsize hfitsDefault hfits hnonneg
    by_cases hlt : (skippedRows page perPage).bmod 18446744073709551616 < rows.length
    · rw [if_pos hlt] at hload
      exact ⟨_,_,_,hload,toInt_count hrows,toInt_totalPages hrows hsize⟩
    · rw [if_neg hlt] at hload
      obtain rfl : rows = [] := hrest.resolve_right hlt
      refine ⟨_,0,0,hload,rfl,?_⟩
      rw [pageCount,List.length_nil,Nat.cast_zero,zero_div,Int.ceil_zero]
      rfl

/-- A page within the pages starts at its own rows, and tells the totals. -/
lemma loadPage_within (hrows : rows.length < 2^53) (hsize : 0 < perPage) {k : ℕ}
    (hk : k < (pageCount rows perPage).toNat) :
    loadPage overflowChecks rows (Int64.ofInt (k+1)) perPage =
      .returns (some ((rows.drop (k * perPage.toInt.toNat)).take perPage.toInt.toNat,
        saturateI64 ⌈toF64 (toF64 (Int64.ofInt rows.length).toInt / toF64 perPage.toInt)⌉,
        Int64.ofInt rows.length)) := by
  have hpos : 1 ≤ perPage.toInt := Int64.lt_iff_toInt_lt.mp hsize
  have hsize0 : (0 : ℚ) < perPage.toInt := by exact_mod_cast hpos
  have hbefore : (k : ℤ) * perPage.toInt < rows.length := by
    have hlt : (k : ℤ) < pageCount rows perPage := by omega
    have hlt := (lt_div_iff₀ hsize0).mp (Int.lt_ceil.mp hlt)
    exact_mod_cast hlt
  have hk : (k : ℤ) ≤ k * perPage.toInt := by nlinarith
  have hpage : (Int64.ofInt (k+1)).toInt = k + 1 :=
    Int64.toInt_ofInt_of_le (by omega) (by omega)
  have hskipped : skippedRows (Int64.ofInt (k+1)) perPage = k * perPage.toInt := by
    rw [skippedRows,hpage,add_sub_cancel_right]
  have hbmod : (skippedRows (Int64.ofInt (k+1)) perPage).bmod 18446744073709551616 =
      k * perPage.toInt := by
    rw [hskipped]
    exact Int.bmod_eq_of_le (by omega) (by omega)
  have hfits : FitsI64 (skippedRows (Int64.ofInt (k+1)) perPage) := by
    rw [hskipped]
    exact ⟨by omega,by omega⟩
  have hfitsDefault : FitsI64 (skippedRows (Int64.ofInt (k+1)) DEFAULT_PER_PAGE) := by
    have hdefault : DEFAULT_PER_PAGE.toInt = 30 := rfl
    rw [skippedRows,hpage,add_sub_cancel_right,hdefault]
    exact ⟨by omega,by omega⟩
  rw [loadPage_of_fits hsize (fun _ => hfitsDefault) (fun _ => hfits) (by rw [hbmod]; omega),hbmod,
    if_pos hbefore,Int.toNat_mul (by omega) (by omega),Int.toNat_natCast]

/-- All pages together are the rows. -/
theorem pagesExact (hrows : rows.length < 2^53) (hsize : 0 < perPage) :
    PagesExact overflowChecks rows perPage := by
  have hpos : 1 ≤ perPage.toInt := Int64.lt_iff_toInt_lt.mp hsize
  have hsize0 : (0 : ℚ) < perPage.toInt := by exact_mod_cast hpos
  have hall : (rows.length : ℤ) ≤ pageCount rows perPage * perPage.toInt := by
    have hle : (rows.length : ℚ) ≤ pageCount rows perPage * perPage.toInt :=
      (div_le_iff₀ hsize0).mp (Int.le_ceil _)
    exact_mod_cast hle
  have hpages : ∀ k ∈ List.range (pageCount rows perPage).toNat,
      recordsOf (loadPage overflowChecks rows (Int64.ofInt (k+1)) perPage) =
        (rows.drop (k * perPage.toInt.toNat)).take perPage.toInt.toNat := by
    intro k hk
    rw [loadPage_within hrows hsize (List.mem_range.mp hk)]
    rfl
  rw [PagesExact,List.flatMap_congr hpages,flatMap_range_take_drop]
  refine List.take_of_length_le ?_
  have hnonneg : 0 ≤ pageCount rows perPage :=
    Int.ceil_nonneg (div_nonneg (Nat.cast_nonneg _) hsize0.le)
  rw [←Int.toNat_mul hnonneg (by omega)]
  omega

lemma toNat_toUInt64 {n : Int64} (h : 0 ≤ n.toInt) : (n.toUInt64.toNat : ℤ) = n.toInt := by
  rw [Int64.toNat_toUInt64_of_le (Int64.le_iff_toInt_le.mpr h)]
  exact Int.toNat_of_nonneg h

lemma toInt64_eq (n : UInt64) : n.toInt64 = Int64.ofInt n.toNat := by
  apply Int64.toBitVec_inj.mp
  change n.toBitVec = BitVec.ofInt 64 n.toBitVec.toNat
  rw [BitVec.ofInt_natCast,BitVec.ofNat_toNat,BitVec.setWidth_eq]

/-- A response with a page within the pages has its rows and the totals of all. -/
theorem respond_within (hrows : rows.length < 2^53) {page : UInt64} (hpage : 1 ≤ page.toNat)
    (hle : page.toNat ≤ pageCount rows DEFAULT_PER_PAGE) :
    ∃ response, respond overflowChecks rows page = .returns (some response) ∧
      response.results = (rows.drop ((page.toNat - 1) * 30)).take 30 ∧
      response.pagination.totalItems.toNat = rows.length ∧
      (response.pagination.totalPages.toNat : ℤ) = pageCount rows DEFAULT_PER_PAGE := by
  have hsize : 0 < DEFAULT_PER_PAGE := by decide
  obtain ⟨k,hk⟩ : ∃ k, page.toNat = k + 1 := ⟨page.toNat - 1,by omega⟩
  have hload := @loadPage_within α overflowChecks rows DEFAULT_PER_PAGE hrows hsize k (by omega)
  obtain ⟨paginated,hnew,hloaded⟩ := Panicking.bind_eq_returns.mp hload
  -- the default size is the one that a page has from the start
  obtain ⟨hfits,-,rfl⟩ := (paginateBy_returns_iff hsize).mp hnew
  have hpage : page.toInt64 = Int64.ofInt (k+1) := by
    rw [toInt64_eq,hk,Nat.cast_add_one]
  have hrespond : respond overflowChecks rows page = .returns (some (.new
      ((rows.drop (k*30)).take 30) page (saturateI64 ⌈toF64
        (toF64 (Int64.ofInt rows.length).toInt / toF64 DEFAULT_PER_PAGE.toInt)⌉).toUInt64
      (Int64.ofInt rows.length).toUInt64)) := by
    rw [respond,paginate,hpage,(offsetOf_returns_iff hsize).mpr ⟨hfits,rfl⟩,
      Panicking.returns_bind,Panicking.pure_eq,Panicking.returns_bind,Panicking.returns.inj hloaded]
    rfl
  have hpages := toInt_totalPages hrows hsize
  refine ⟨_,hrespond,by rw [hk]; rfl,?_,?_⟩
  · have hitems : ((Int64.ofInt rows.length).toUInt64.toNat : ℤ) = rows.length :=
      (toNat_toUInt64 (by rw [toInt_count hrows]; omega)).trans (toInt_count hrows)
    exact_mod_cast hitems
  · exact (toNat_toUInt64 (by rw [hpages]; omega)).trans hpages

end

/-- The pages are exact together, and a page tells the totals exactly if it is not past the end of
some rows. -/
theorem pagination_exact_iff {α : Type} (overflowChecks : Bool) {rows : List α}
    (hrows : rows.length < 2^53) {perPage : Int64} (hsize : 0 < perPage) :
    PagesExact overflowChecks rows perPage ∧ ∀ page,
      (TotalsExact overflowChecks rows page perPage ↔ Reached overflowChecks rows page perPage) :=
  ⟨pagesExact hrows hsize,fun _ => totalsExact_iff hrows hsize⟩

/-- Two rows on pages of one row. -/
theorem pagination_exact_of_two :
    PagesExact false ["first","second"] 1 ∧ ∀ page,
      (TotalsExact false ["first","second"] page 1 ↔ Reached false ["first","second"] page 1) :=
  pagination_exact_iff false (by decide) (by decide)

/-- The third page of two rows tells that there are none. -/
theorem page_past_the_end : ¬ TotalsExact false ["first","second"] 3 1 := by
  rintro ⟨records,totalPages,totalItems,hload,hitems,-⟩
  have hcount : loadPage false ["first","second"] 3 1 = .returns (some ([],0,0)) := by
    decide +kernel
  rw [hcount] at hload
  cases hload
  revert hitems
  decide

section
variable {α β : Type} (overflowChecks : Bool) (listed : List α) (shown : α → β)

/-- A handler that shows the rows of a page, which is the first one by default. -/
def showPage (page : Option UInt64) : Panicking (Option (PaginatedResponse β)) := do
  return (← respond overflowChecks listed (page.getD 1)).map fun response =>
    ⟨response.results.map shown,response.pagination⟩

/-- Every page within the pages shows its rows, and the totals of all. -/
def PagesShow (answer : Option UInt64 → Panicking (Option (PaginatedResponse β))) : Prop :=
  listed.length < 2^53 → ∀ page : Option UInt64, 1 ≤ (page.getD 1).toNat →
    (page.getD 1).toNat ≤ pageCount listed DEFAULT_PER_PAGE →
    ∃ response, answer page = .returns (some response) ∧
      response.results = ((listed.drop (((page.getD 1).toNat - 1) * 30)).take 30).map shown ∧
      response.pagination.totalItems.toNat = listed.length ∧
      (response.pagination.totalPages.toNat : ℤ) = pageCount listed DEFAULT_PER_PAGE

theorem pagesShow_showPage : PagesShow listed shown (showPage overflowChecks listed shown) := by
  intro hlength page hpage hle
  obtain ⟨response,hresponse,hresults,hitems,hpages⟩ :=
    @respond_within α overflowChecks listed hlength (page.getD 1) hpage hle
  refine ⟨⟨response.results.map shown,response.pagination⟩,?_,?_,hitems,hpages⟩
  · rw [showPage,hresponse]
    rfl
  · rw [hresults]

end

end NamadaIndexer.Webserver
