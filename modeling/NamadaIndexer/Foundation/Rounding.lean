import Mathlib.Data.Int.Log
import Mathlib.Data.Rat.Floor
import Mathlib.Tactic.FieldSimp
import Mathlib.Tactic.Linarith
import Mathlib.Tactic.LinearCombination
import Mathlib.Tactic.Positivity
import Mathlib.Tactic.Ring

/-! Numbers of 53 bits as the rationals that they stand for: the nearest of them, and the quotient
of two integers by way of them. The range of the exponents is left out, so that nothing overflows
or vanishes. -/
namespace NamadaIndexer.Foundation

/-- The nearest integer, and of two of them the even one. -/
def roundHalfEven (q : ℚ) : ℤ :=
  if q - ⌊q⌋ < 1/2 ∨ q - ⌊q⌋ = 1/2 ∧ Even ⌊q⌋ then ⌊q⌋ else ⌊q⌋ + 1

theorem roundHalfEven_le {q : ℚ} {k : ℤ} (h : q ≤ k) : roundHalfEven q ≤ k := by
  unfold roundHalfEven
  split
  · exact_mod_cast (Int.floor_le q).trans h
  · rename_i hup
    have hlt : (⌊q⌋ : ℚ) < q := by
      by_contra hle
      exact hup (.inl (by linarith))
    have hlt : (⌊q⌋ : ℚ) < k := hlt.trans_le h
    exact_mod_cast hlt

theorem le_roundHalfEven {q : ℚ} {k : ℤ} (h : k ≤ q) : k ≤ roundHalfEven q := by
  have hfloor : k ≤ ⌊q⌋ := Int.le_floor.mpr h
  unfold roundHalfEven
  split
  · exact hfloor
  · exact hfloor.trans (by omega)

theorem abs_roundHalfEven_sub_le (q : ℚ) : |(roundHalfEven q : ℚ) - q| ≤ 1/2 := by
  have hle := Int.floor_le q
  have hlt := Int.lt_floor_add_one q
  unfold roundHalfEven
  split
  · rename_i hdown
    rw [abs_le]
    rcases hdown with hdown | ⟨hdown,-⟩
    · constructor <;> linarith
    · constructor <;> linarith
  · rename_i hup
    have hhalf : 1/2 ≤ q - ⌊q⌋ := not_lt.mp fun hdown => hup (.inl hdown)
    push_cast
    rw [abs_le]
    constructor <;> linarith

/-- The distance between neighbouring numbers of 53 bits, from a number up. -/
def ulp (q : ℚ) : ℚ := 2^(Int.log 2 |q| - 52)

/-- The nearest number of 53 bits. -/
def toF64 (q : ℚ) : ℚ := roundHalfEven (q / ulp q) * ulp q

theorem ulp_pos (q : ℚ) : 0 < ulp q := zpow_pos (by norm_num) _

/-- A power of two is the number of units of a smaller one. -/
theorem zpow_eq_mul_ulp {q : ℚ} {e : ℤ} (h : Int.log 2 |q| - 52 ≤ e) :
    ∃ k : ℕ, (2 : ℚ)^e = k * ulp q := by
  refine ⟨2^(e - (Int.log 2 |q| - 52)).toNat,?_⟩
  rw [ulp,Nat.cast_pow,Nat.cast_ofNat,←zpow_natCast,←zpow_add₀ (by norm_num)]
  congr 1
  omega

/-- What is below a whole number of units stays below. -/
theorem toF64_le_of_mul {q : ℚ} {k : ℤ} (h : q ≤ k * ulp q) : toF64 q ≤ k * ulp q := by
  have hdiv : q / ulp q ≤ k := (div_le_iff₀ (ulp_pos q)).mpr h
  have hround : (roundHalfEven (q / ulp q) : ℚ) ≤ k := by exact_mod_cast roundHalfEven_le hdiv
  exact mul_le_mul_of_nonneg_right hround (ulp_pos q).le

theorem le_toF64_of_mul {q : ℚ} {k : ℤ} (h : k * ulp q ≤ q) : k * ulp q ≤ toF64 q := by
  have hdiv : (k : ℚ) ≤ q / ulp q := (le_div_iff₀ (ulp_pos q)).mpr h
  have hround : (k : ℚ) ≤ roundHalfEven (q / ulp q) := by exact_mod_cast le_roundHalfEven hdiv
  exact mul_le_mul_of_nonneg_right hround (ulp_pos q).le

@[simp] theorem toF64_zero : toF64 0 = 0 := by
  have hround : roundHalfEven 0 = 0 := by
    exact le_antisymm (roundHalfEven_le (by norm_num)) (le_roundHalfEven (by norm_num))
  rw [toF64,zero_div,hround,Int.cast_zero,zero_mul]

/-- The error is at most one part in `2^53`. -/
theorem abs_toF64_sub_le {q : ℚ} (hq : 0 < q) : |toF64 q - q| ≤ q / 2^53 := by
  have hulp := ulp_pos q
  have hsmall : ulp q ≤ q / 2^52 := by
    rw [ulp,abs_of_pos hq,zpow_sub₀ (by norm_num : (2 : ℚ) ≠ 0)]
    have hlog : ((2 : ℕ) : ℚ)^Int.log 2 q ≤ q := Int.zpow_log_le_self (by norm_num) hq
    exact div_le_div_of_nonneg_right (by exact_mod_cast hlog) (by positivity)
  have hscale : toF64 q - q = (roundHalfEven (q / ulp q) - q / ulp q) * ulp q := by
    rw [toF64,sub_mul,div_mul_cancel₀ q hulp.ne']
  rw [hscale,abs_mul,abs_of_pos hulp]
  calc |(roundHalfEven (q / ulp q) : ℚ) - q / ulp q| * ulp q ≤ 1/2 * ulp q :=
        mul_le_mul_of_nonneg_right (abs_roundHalfEven_sub_le _) hulp.le
    _ ≤ 1/2 * (q / 2^52) := by linarith
    _ = q / 2^53 := by ring

/-- Integers of 53 bits are such numbers, and bound the nearest ones of what they bound. -/
theorem natCast_eq_mul_ulp {q : ℚ} (hq : 0 < q) {m : ℕ} (hm : m < 2^53) (h : q ≤ m) :
    ∃ k : ℤ, (m : ℚ) = k * ulp q := by
  have hlog : Int.log 2 |q| - 52 ≤ 0 := by
    have hlt : q < ((2 : ℕ) : ℚ)^(53 : ℤ) := by
      refine h.trans_lt ?_
      exact_mod_cast hm
    have := (Int.lt_zpow_iff_log_lt (by norm_num) hq).mp hlt
    rw [abs_of_pos hq]
    omega
  obtain ⟨k,hk⟩ := zpow_eq_mul_ulp hlog
  refine ⟨m * k,?_⟩
  rw [zpow_zero] at hk
  push_cast
  rw [mul_assoc,←hk,mul_one]

theorem toF64_le {q : ℚ} (hq : 0 < q) {m : ℕ} (hm : m < 2^53) (h : q ≤ m) : toF64 q ≤ m := by
  obtain ⟨k,hk⟩ := natCast_eq_mul_ulp hq hm h
  rw [hk] at h ⊢
  exact toF64_le_of_mul h

theorem toF64_natCast {m : ℕ} (hm : m < 2^53) : toF64 m = m := by
  rcases Nat.eq_zero_or_pos m with rfl | hpos
  · rw [Nat.cast_zero,toF64_zero]
  · have hq : (0 : ℚ) < m := by exact_mod_cast hpos
    obtain ⟨k,hk⟩ := natCast_eq_mul_ulp hq hm le_rfl
    refine le_antisymm (toF64_le hq hm le_rfl) ?_
    calc (m : ℚ) = k * ulp m := hk
      _ ≤ toF64 m := le_toF64_of_mul hk.ge

/-- What needs more than 53 bits keeps needing them. -/
theorem le_toF64 {q : ℚ} (h : 2^53 ≤ q) : 2^53 ≤ toF64 q := by
  have hq : 0 < q := lt_of_lt_of_le (by norm_num) h
  have hlog : (53 : ℤ) ≤ Int.log 2 |q| := by
    rw [abs_of_pos hq]
    refine (Int.zpow_le_iff_le_log (by norm_num) hq).mp ?_
    exact_mod_cast h
  obtain ⟨k,hk⟩ := zpow_eq_mul_ulp (q := q) (e := Int.log 2 |q|) (by omega)
  have hlow : (k : ℤ) * ulp q ≤ q := by
    rw [Int.cast_natCast,←hk,abs_of_pos hq]
    have hself : ((2 : ℕ) : ℚ)^Int.log 2 q ≤ q := Int.zpow_log_le_self (by norm_num) hq
    exact_mod_cast hself
  have hround := le_toF64_of_mul hlow
  rw [Int.cast_natCast,←hk] at hround
  refine le_trans ?_ hround
  exact_mod_cast zpow_le_zpow_right₀ (by norm_num : (1 : ℚ) ≤ 2) hlog

theorem toF64_pos {q : ℚ} (hq : 0 < q) : 0 < toF64 q := by
  have hlow := (abs_le.mp (abs_toF64_sub_le hq)).1
  have hpart : q / 2^53 < q := div_lt_self hq (by norm_num)
  linarith

/-- A quotient that stays below one. -/
theorem ceil_eq_one {q : ℚ} (hq : 0 < q) (h : q ≤ 1) : ⌈q⌉ = 1 := by
  rw [Int.ceil_eq_iff]
  constructor
  · simpa using hq
  · simpa using h

/-- A quotient is away from the integer below it by at least one part of its divisor, and the error
of the rounding is smaller. -/
theorem ceil_sub_one_lt_toF64 {n p : ℕ} (hn : 0 < n) (hn' : n < 2^53) (hp : 0 < p) :
    (⌈(n / p : ℚ)⌉ : ℚ) - 1 < toF64 (n / p) := by
  have hn0 : (0 : ℚ) < n := by exact_mod_cast hn
  have hp0 : (0 : ℚ) < p := by exact_mod_cast hp
  have hbelow : (⌈(n / p : ℚ)⌉ : ℚ) - 1 < n / p := by
    linarith [Int.ceil_lt_add_one (n / p : ℚ)]
  have hproduct : (⌈(n / p : ℚ)⌉ - 1) * (p : ℤ) + 1 ≤ n := by
    have hlt := (lt_div_iff₀ hp0).mp hbelow
    have hlt : (⌈(n / p : ℚ)⌉ - 1) * (p : ℤ) < n := by exact_mod_cast hlt
    omega
  have hgap : (⌈(n / p : ℚ)⌉ : ℚ) - 1 + 1 / p ≤ n / p := by
    rw [le_div_iff₀ hp0,add_mul,one_div_mul_cancel hp0.ne']
    exact_mod_cast hproduct
  have herror : (n / p : ℚ) / 2^53 < 1 / p := by
    rw [div_right_comm]
    refine div_lt_div_of_pos_right ?_ hp0
    rw [div_lt_one (by norm_num)]
    exact_mod_cast hn'
  have hlow := (abs_le.mp (abs_toF64_sub_le (div_pos hn0 hp0))).1
  linarith

/-- The quotient of two integers, the first of 53 bits, is rounded up to the same integer with
floating-point numbers as without. -/
theorem ceil_toF64_div {n p : ℕ} (hn : n < 2^53) (hp : 0 < p) :
    ⌈toF64 (toF64 n / toF64 p)⌉ = ⌈(n / p : ℚ)⌉ := by
  rw [toF64_natCast hn]
  rcases Nat.eq_zero_or_pos n with rfl | hpos
  · simp
  have hn0 : (0 : ℚ) < n := by exact_mod_cast hpos
  have hp0 : (0 : ℚ) < p := by exact_mod_cast hp
  rcases Nat.lt_or_ge p (2^53) with hsmall | hlarge
  · rw [toF64_natCast hsmall]
    have hquotient : (0 : ℚ) < n / p := div_pos hn0 hp0
    refine le_antisymm ?_ ?_
    · obtain ⟨c,hc⟩ := Int.eq_ofNat_of_zero_le (Int.ceil_nonneg hquotient.le)
      have hle : (n / p : ℚ) ≤ c := by
        have hceil := Int.le_ceil (n / p : ℚ)
        rw [hc] at hceil
        exact_mod_cast hceil
      have hcn : c ≤ n := by
        have hbound : ⌈(n / p : ℚ)⌉ ≤ (n : ℤ) := by
          refine Int.ceil_le.mpr ?_
          rw [Int.cast_natCast,div_le_iff₀ hp0]
          exact le_mul_of_one_le_right hn0.le (by exact_mod_cast hp)
        omega
      rw [hc]
      refine Int.ceil_le.mpr ?_
      exact_mod_cast toF64_le hquotient (by omega) hle
    · rw [Int.le_ceil_iff]
      exact ceil_sub_one_lt_toF64 hpos hn hp
  · have hlarge : (2 : ℚ)^53 ≤ p := by exact_mod_cast hlarge
    have hn53 : (n : ℚ) ≤ 2^53 := by exact_mod_cast hn.le
    have hdivisor : (2 : ℚ)^53 ≤ toF64 p := le_toF64 hlarge
    have hdivisor0 : 0 < toF64 p := lt_of_lt_of_le (by norm_num) hdivisor
    have hquotient : n / toF64 p ≤ 1 := (div_le_one hdivisor0).mpr (hn53.trans hdivisor)
    have hrounded : toF64 (n / toF64 p) ≤ 1 := by
      have hone := toF64_le (m := 1) (div_pos hn0 hdivisor0) (by norm_num) (by simpa using hquotient)
      simpa using hone
    rw [ceil_eq_one (toF64_pos (div_pos hn0 hdivisor0)) hrounded]
    exact (ceil_eq_one (div_pos hn0 hp0) ((div_le_one hp0).mpr (hn53.trans hlarge))).symm

/-- A number that is far enough above an integer is rounded up as it is without the rounding to 53
bits. -/
theorem ceil_toF64_of_gap {q : ℚ} {c : ℕ} (hq : 0 < q) (hc : c < 2^53) (hle : q ≤ c)
    (hgap : c - 1 < q - q / 2^53) : ⌈toF64 q⌉ = c := by
  rw [Int.ceil_eq_iff]
  constructor
  · have hlow := (abs_le.mp (abs_toF64_sub_le hq)).1
    push_cast
    linarith
  · exact_mod_cast toF64_le hq hc hle

theorem ulp_natCast_add {m : ℕ} (hm : 0 < m) {r : ℚ} (hr : 0 ≤ r) (hr' : r < 1) :
    ulp (m + r) = 2^((Nat.log 2 m : ℤ) - 52) := by
  have hm1 : (1 : ℚ) ≤ m := by exact_mod_cast hm
  have hfloor : ⌊(m + r : ℚ)⌋₊ = m := by
    rw [Nat.floor_eq_iff (by linarith)]
    constructor <;> linarith
  rw [ulp,abs_of_pos (by linarith),Int.log_of_one_le_right _ (by linarith),hfloor]

/-- What lies above an integer of 52 bits by less than the distance to the next number goes down to
the integer up to half of that distance. -/
theorem ceil_toF64_natCast_add {m : ℕ} (hm : 0 < m) (hm' : m < 2^52) {r : ℚ} (hr : 0 ≤ r)
    (hlt : r < 2^((Nat.log 2 m : ℤ) - 52)) :
    ⌈toF64 (m + r)⌉ = if 2 * r ≤ 2^((Nat.log 2 m : ℤ) - 52) then (m : ℤ) else m + 1 := by
  have hlog : Nat.log 2 m < 52 := Nat.log_lt_of_lt_pow (by omega) hm'
  set u : ℚ := 2^((Nat.log 2 m : ℤ) - 52) with hu
  have hupos : 0 < u := zpow_pos (by norm_num) _
  have hule : u ≤ 1 / 2 := by
    have hexp : u ≤ (2 : ℚ)^(-1 : ℤ) := zpow_le_zpow_right₀ (by norm_num) (by omega)
    simpa using hexp
  -- the integer is an even number of units
  obtain ⟨k,hk⟩ : ∃ k : ℤ, (m : ℚ) = (2 * k : ℤ) * u := by
    refine ⟨m * 2^(51 - Nat.log 2 m),?_⟩
    have hpow : (2 : ℚ)^(51 - Nat.log 2 m) * 2 * u = 1 := by
      rw [hu,←pow_succ,←zpow_natCast,←zpow_add₀ (by norm_num)]
      have hzero : ((51 - Nat.log 2 m + 1 : ℕ) : ℤ) + ((Nat.log 2 m : ℤ) - 52) = 0 := by omega
      rw [hzero,zpow_zero]
    push_cast
    linear_combination (-(m : ℚ)) * hpow
  have hquotient : (m + r) / u = (2 * k : ℤ) + r / u := by
    rw [add_div,hk,mul_div_cancel_right₀ _ hupos.ne']
  have hpart : 0 ≤ r / u ∧ r / u < 1 := ⟨div_nonneg hr hupos.le,(div_lt_one hupos).mpr hlt⟩
  have hfloor : ⌊(m + r) / u⌋ = 2 * k := by
    rw [hquotient,Int.floor_intCast_add,Int.floor_eq_zero_iff.mpr hpart,add_zero]
  have hhalf : r / u ≤ 1 / 2 ↔ 2 * r ≤ u := by
    rw [div_le_iff₀ hupos]
    constructor <;> intro h <;> linarith
  have hround : roundHalfEven ((m + r) / u) = if 2 * r ≤ u then 2 * k else 2 * k + 1 := by
    rw [roundHalfEven,hfloor,hquotient,add_sub_cancel_left]
    refine if_congr ?_ rfl rfl
    rw [←hhalf,le_iff_lt_or_eq]
    exact or_congr_right (and_iff_left (even_two_mul k))
  rw [toF64,ulp_natCast_add hm hr (by linarith),←hu,hround]
  split
  · rw [←hk]
    exact Int.ceil_natCast m
  · rw [Int.ceil_eq_iff]
    push_cast at hk ⊢
    constructor <;> linarith

/-- A floating-point number: one of 53 bits, or what a division by zero leaves. -/
inductive F64
  | finite (q : ℚ)
  | infinite (negative : Bool)
  | nan
  deriving DecidableEq, Repr

namespace F64

/-- The quotient of two integers. -/
def divInt (a b : ℤ) : F64 :=
  if b = 0 then
    if a = 0 then .nan else .infinite (a < 0)
  else .finite (toF64 (toF64 a / toF64 b))

/-- The product with an integer. -/
def mulInt (x : F64) (a : ℤ) : F64 :=
  match x with
  | .finite q => .finite (toF64 (q * toF64 a))
  | .infinite negative => if a = 0 then .nan else .infinite (negative != decide (a < 0))
  | .nan => .nan

/-- `as i32`: the fraction is cut off, and what does not fit becomes the nearest number that does. -/
def toI32 : F64 → Int32
  | .finite q => Int32.ofInt (max (-2147483648) (min (q.num.tdiv q.den) 2147483647))
  | .infinite negative => if negative then Int32.minValue else Int32.maxValue
  | .nan => 0

end F64
end NamadaIndexer.Foundation
