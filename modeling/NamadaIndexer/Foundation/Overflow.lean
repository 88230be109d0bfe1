import Mathlib.Algebra.Ring.Nat
import NamadaIndexer.Foundation.Panicking

/-! Arithmetic as it is compiled: with overflow checks an overflow is a panic, without them the
result wraps around. -/
namespace NamadaIndexer.Foundation

section
variable (overflowChecks : Bool)

def subU32 (a b : UInt32) : Panicking UInt32 :=
  if overflowChecks = true ∧ a < b then .panics "attempt to subtract with overflow"
  else .returns (a - b)

def addU32 (a b : UInt32) : Panicking UInt32 :=
  if overflowChecks = true ∧ 4294967296 ≤ a.toNat + b.toNat then
    .panics "attempt to add with overflow"
  else .returns (a + b)

def subU64 (a b : UInt64) : Panicking UInt64 :=
  if overflowChecks = true ∧ a < b then .panics "attempt to subtract with overflow"
  else .returns (a - b)

def addU64 (a b : UInt64) : Panicking UInt64 :=
  if overflowChecks = true ∧ 2^64 ≤ a.toNat + b.toNat then .panics "attempt to add with overflow"
  else .returns (a + b)

def mulU64 (a b : UInt64) : Panicking UInt64 :=
  if overflowChecks = true ∧ 2^64 ≤ a.toNat * b.toNat then
    .panics "attempt to multiply with overflow"
  else .returns (a * b)

/-- The integers of type `i64`. -/
def FitsI64 (n : ℤ) : Prop := -9223372036854775808 ≤ n ∧ n < 9223372036854775808

instance (n : ℤ) : Decidable (FitsI64 n) := inferInstanceAs (Decidable (_ ∧ _))

def subI64 (a b : Int64) : Panicking Int64 :=
  if overflowChecks = true ∧ ¬ FitsI64 (a.toInt - b.toInt) then
    .panics "attempt to subtract with overflow"
  else .returns (a - b)

def mulI64 (a b : Int64) : Panicking Int64 :=
  if overflowChecks = true ∧ ¬ FitsI64 (a.toInt * b.toInt) then
    .panics "attempt to multiply with overflow"
  else .returns (a * b)

def addI64 (a b : Int64) : Panicking Int64 :=
  if overflowChecks = true ∧ ¬ FitsI64 (a.toInt + b.toInt) then
    .panics "attempt to add with overflow"
  else .returns (a + b)

/-- The integers of type `i32`. -/
def FitsI32 (n : ℤ) : Prop := -2147483648 ≤ n ∧ n < 2147483648

instance (n : ℤ) : Decidable (FitsI32 n) := inferInstanceAs (Decidable (_ ∧ _))

/-- An operation, by its exact result and the one that wraps around. -/
def checkedI32 (message : String) (exact : ℤ) (wrapped : Int32) : Panicking Int32 :=
  if overflowChecks = true ∧ ¬ FitsI32 exact then .panics message else .returns wrapped

def addI32 (a b : Int32) : Panicking Int32 :=
  checkedI32 overflowChecks "attempt to add with overflow" (a.toInt + b.toInt) (a + b)

def subI32 (a b : Int32) : Panicking Int32 :=
  checkedI32 overflowChecks "attempt to subtract with overflow" (a.toInt - b.toInt) (a - b)

def mulI32 (a b : Int32) : Panicking Int32 :=
  checkedI32 overflowChecks "attempt to multiply with overflow" (a.toInt * b.toInt) (a * b)

/-- `total += a * b` -/
def addProduct (total a b : UInt64) : Panicking UInt64 := do
  addU64 overflowChecks total (← mulU64 overflowChecks a b)

end

/-- A division panics without overflow checks as well. -/
def divI32 (a b : Int32) : Panicking Int32 :=
  if b = 0 then .panics "attempt to divide by zero"
  else if a = Int32.minValue ∧ b = -1 then .panics "attempt to divide with overflow"
  else .returns (a / b)

def remI32 (a b : Int32) : Panicking Int32 :=
  if b = 0 then .panics "attempt to calculate the remainder with a divisor of zero"
  else if a = Int32.minValue ∧ b = -1 then
    .panics "attempt to calculate the remainder with overflow"
  else .returns (a % b)

variable {overflowChecks : Bool}

theorem fits_toInt (a : Int32) : FitsI32 a.toInt := ⟨a.le_toInt,a.toInt_lt⟩

/-- An operation whose exact result fits returns it. -/
theorem checkedI32_of_fits (overflowChecks : Bool) {message : String} {exact : ℤ}
    {wrapped : Int32}
    (hwrapped : wrapped.toInt = exact.bmod (2^32)) (h : FitsI32 exact) :
    checkedI32 overflowChecks message exact wrapped = .returns wrapped ∧
      wrapped.toInt = exact := by
  refine ⟨if_neg fun hpanics => hpanics.2 h,?_⟩
  obtain ⟨hlow,hhigh⟩ := h
  rw [hwrapped]
  exact Int.bmod_eq_of_le (by omega) (by omega)

/-- With overflow checks an operation that returns is exact. -/
theorem toInt_of_checkedI32 {message : String} {exact : ℤ} {wrapped s : Int32}
    (hwrapped : wrapped.toInt = exact.bmod (2^32))
    (h : checkedI32 true message exact wrapped = .returns s) : s.toInt = exact := by
  by_cases hfits : FitsI32 exact
  · obtain ⟨hreturns,hexact⟩ := checkedI32_of_fits true hwrapped hfits
    rw [hreturns] at h
    cases h
    exact hexact
  · rw [checkedI32,if_pos ⟨rfl,hfits⟩] at h
    contradiction

theorem addI32_of_fits (overflowChecks : Bool) {a b : Int32}
    (h : FitsI32 (a.toInt + b.toInt)) :
    addI32 overflowChecks a b = .returns (a + b) ∧ (a + b).toInt = a.toInt + b.toInt :=
  checkedI32_of_fits overflowChecks (Int32.toInt_add a b) h

theorem subI32_of_fits (overflowChecks : Bool) {a b : Int32}
    (h : FitsI32 (a.toInt - b.toInt)) :
    subI32 overflowChecks a b = .returns (a - b) ∧ (a - b).toInt = a.toInt - b.toInt :=
  checkedI32_of_fits overflowChecks (Int32.toInt_sub a b) h

theorem mulI32_of_fits (overflowChecks : Bool) {a b : Int32}
    (h : FitsI32 (a.toInt * b.toInt)) :
    mulI32 overflowChecks a b = .returns (a * b) ∧ (a * b).toInt = a.toInt * b.toInt :=
  checkedI32_of_fits overflowChecks (Int32.toInt_mul a b) h

@[simp] theorem divI32_zero (a : Int32) : divI32 a 0 = .panics "attempt to divide by zero" := rfl

/-- Positive divisors divide, with a remainder as well as without. -/
theorem divI32_of_pos {a b : Int32} (ha : 0 ≤ a.toInt) (hb : 0 < b.toInt) :
    divI32 a b = .returns (a / b) ∧ (a / b).toInt = a.toInt / b.toInt ∧
      remI32 a b = .returns (a % b) := by
  have hzero : b ≠ 0 := by
    rintro rfl
    exact absurd hb (by decide)
  have hmin : a ≠ Int32.minValue := by
    rintro rfl
    exact absurd ha (by decide)
  have hoverflow : ¬ (a = Int32.minValue ∧ b = -1) := fun h => hmin h.1
  refine ⟨?_,?_,?_⟩
  · rw [divI32,if_neg hzero,if_neg hoverflow]
  · rw [Int32.toInt_div_of_ne_left _ _ hmin,Int.tdiv_eq_ediv_of_nonneg ha]
  · rw [remI32,if_neg hzero,if_neg hoverflow]

theorem subU32_of_le (overflowChecks : Bool) {a b : UInt32} (h : b ≤ a) :
    subU32 overflowChecks a b = .returns (a - b) ∧ (a - b).toNat = a.toNat - b.toNat := by
  have hle : b.toNat ≤ a.toNat := UInt32.le_iff_toNat_le.mp h
  refine ⟨if_neg ?_,UInt32.toNat_sub_of_le _ _ h⟩
  rintro ⟨-,hlt⟩
  have hlt := UInt32.lt_iff_toNat_lt.mp hlt
  omega

/-- A difference is right exactly when it does not go below zero. -/
theorem subU32_exact_iff {a b : UInt32} :
    (∃ d, subU32 overflowChecks a b = .returns d ∧ (d.toNat : ℤ) = a.toNat - b.toNat) ↔ b ≤ a := by
  constructor
  · rintro ⟨d,-,hd⟩
    rw [UInt32.le_iff_toNat_le]
    omega
  · intro h
    obtain ⟨hreturns,hsub⟩ := subU32_of_le overflowChecks h
    have hle := UInt32.le_iff_toNat_le.mp h
    exact ⟨a - b,hreturns,by omega⟩

theorem subU64_of_le (overflowChecks : Bool) {a b : UInt64} (h : b ≤ a) :
    subU64 overflowChecks a b = .returns (a - b) ∧ (a - b).toNat = a.toNat - b.toNat := by
  have hle : b.toNat ≤ a.toNat := UInt64.le_iff_toNat_le.mp h
  refine ⟨if_neg ?_,UInt64.toNat_sub_of_le _ _ h⟩
  rintro ⟨-,hlt⟩
  have hlt := UInt64.lt_iff_toNat_lt.mp hlt
  omega

theorem subU64_exact_iff {a b : UInt64} :
    (∃ d, subU64 overflowChecks a b = .returns d ∧ (d.toNat : ℤ) = a.toNat - b.toNat) ↔ b ≤ a := by
  constructor
  · rintro ⟨d,-,hd⟩
    rw [UInt64.le_iff_toNat_le]
    omega
  · intro h
    obtain ⟨hreturns,hsub⟩ := subU64_of_le overflowChecks h
    have hle := UInt64.le_iff_toNat_le.mp h
    exact ⟨a - b,hreturns,by omega⟩

theorem addU32_of_lt (overflowChecks : Bool) {a b : UInt32} (h : a.toNat + b.toNat < 4294967296) :
    addU32 overflowChecks a b = .returns (a + b) ∧ (a + b).toNat = a.toNat + b.toNat := by
  refine ⟨if_neg ?_,?_⟩
  · rintro ⟨-,hge⟩
    omega
  · rw [UInt32.toNat_add]
    omega

/-- A sum is right exactly when it fits. -/
theorem addU32_exact_iff {a b : UInt32} :
    (∃ s, addU32 overflowChecks a b = .returns s ∧ s.toNat = a.toNat + b.toNat) ↔
      a.toNat + b.toNat < 4294967296 := by
  constructor
  · rintro ⟨s,-,hs⟩
    have hlt := s.toNat_lt
    omega
  · exact fun h => ⟨a + b,addU32_of_lt overflowChecks h⟩

theorem addProduct_returns {total a b s : UInt64}
    (h : addProduct overflowChecks total a b = .returns s) : s = total + a * b := by
  obtain ⟨product,hproduct,hsum⟩ := Panicking.bind_eq_returns.mp h
  unfold mulU64 at hproduct
  unfold addU64 at hsum
  split at hproduct
  · contradiction
  · cases hproduct
    split at hsum
    · contradiction
    · cases hsum
      rfl

theorem addProduct_of_lt (overflowChecks : Bool) {total a b : UInt64}
    (h : total.toNat + a.toNat * b.toNat < 2^64) :
    addProduct overflowChecks total a b = .returns (total + a * b) ∧
      (total + a * b).toNat = total.toNat + a.toNat * b.toNat := by
  have hproduct : (a * b).toNat = a.toNat * b.toNat := by
    rw [UInt64.toNat_mul]
    exact Nat.mod_eq_of_lt (by omega)
  constructor
  · have hmul : mulU64 overflowChecks a b = .returns (a * b) := if_neg (by omega)
    have hadd : addU64 overflowChecks total (a * b) = .returns (total + a * b) :=
      if_neg (by omega)
    rw [addProduct,hmul]
    exact hadd
  · rw [UInt64.toNat_add,hproduct]
    exact Nat.mod_eq_of_lt h

/-- The exact value of a sum of products. -/
def sumOfProducts (entries : List (UInt64 × UInt64)) : ℕ :=
  (entries.map fun entry => entry.1.toNat * entry.2.toNat).sum

theorem sumOfProducts_cons (entry : UInt64 × UInt64) (entries : List (UInt64 × UInt64)) :
    sumOfProducts (entry :: entries) =
      entry.1.toNat * entry.2.toNat + sumOfProducts entries := by
  rw [sumOfProducts,List.map_cons,List.sum_cons,sumOfProducts]

/-- A sum of products that is summed up one after the other, where it returns, is the sum that
wraps around. -/
theorem foldlM_addProduct_returns {entries : List (UInt64 × UInt64)} {total s : UInt64}
    (h : entries.foldlM (fun total entry => addProduct overflowChecks total entry.1 entry.2) total =
      .returns s) :
    s = entries.foldl (fun total entry => total + entry.1 * entry.2) total := by
  induction entries generalizing total with
  | nil =>
    cases h
    rfl
  | cons entry entries ih =>
    obtain ⟨next,hnext,hrest⟩ := Panicking.bind_eq_returns.mp h
    rw [List.foldl_cons,←addProduct_returns hnext]
    exact ih hrest

/-- The sum that wraps around is never above the exact one. -/
theorem toNat_foldl_le (entries : List (UInt64 × UInt64)) (total : UInt64) :
    (entries.foldl (fun total entry => total + entry.1 * entry.2) total).toNat ≤
      total.toNat + sumOfProducts entries := by
  induction entries generalizing total with
  | nil => exact Nat.le_refl _
  | cons entry entries ih =>
    have hstep : (total + entry.1 * entry.2).toNat ≤
        total.toNat + entry.1.toNat * entry.2.toNat := by
      rw [UInt64.toNat_add,UInt64.toNat_mul]
      have hproduct := Nat.mod_le (entry.1.toNat * entry.2.toNat) (2^64)
      exact Nat.le_trans (Nat.mod_le _ _) (Nat.add_le_add_left hproduct _)
    have hrest := ih (total + entry.1 * entry.2)
    rw [List.foldl_cons,sumOfProducts_cons]
    omega

/-- A sum of products that fits is computed exactly, with checks or without. -/
theorem foldlM_addProduct_of_lt (overflowChecks : Bool) {entries : List (UInt64 × UInt64)}
    {total : UInt64} (h : total.toNat + sumOfProducts entries < 2^64) :
    ∃ s, entries.foldlM (fun total entry => addProduct overflowChecks total entry.1 entry.2) total =
      .returns s ∧ s.toNat = total.toNat + sumOfProducts entries := by
  induction entries generalizing total with
  | nil => exact ⟨total,rfl,rfl⟩
  | cons entry entries ih =>
    rw [sumOfProducts_cons] at h
    have hentry : total.toNat + entry.1.toNat * entry.2.toNat < 2^64 := by omega
    obtain ⟨hreturns,hstep⟩ := addProduct_of_lt overflowChecks hentry
    have hrest : (total + entry.1 * entry.2).toNat + sumOfProducts entries < 2^64 := by omega
    obtain ⟨s,hs,hsum⟩ := ih hrest
    refine ⟨s,?_,?_⟩
    · rw [List.foldlM_cons,hreturns]
      exact hs
    · rw [hsum,hstep,sumOfProducts_cons,Nat.add_assoc]

end NamadaIndexer.Foundation
