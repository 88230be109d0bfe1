import Mathlib.Algebra.Ring.Parity
import Mathlib.Data.Nat.Prime.Basic
import NamadaIndexer.Foundation.Limbs
import NamadaIndexer.Shared.Id

/-! Token amounts as decimals, by way of the bytes of both. The machine is a little-endian one, so
that words are read and written as their bytes with the lowest first. -/
namespace NamadaIndexer.Shared
open NamadaIndexer.Foundation

/-- A decimal: an integer, with as many digits behind the point as the scale says, or as many
zeros appended if it is negative. -/
structure BigDecimal where
  int : ℤ
  scale : Int64
  deriving DecidableEq, Repr

namespace BigDecimal

/-- The number that a decimal stands for. -/
def value (b : BigDecimal) : ℚ := b.int * 10^(-b.scale.toInt)

def asBigintAndScale (b : BigDecimal) : ℤ × Int64 := (b.int,b.scale)

def fromBiguint (digits : ℕ) (scale : Int64) : BigDecimal := ⟨digits,scale⟩

end BigDecimal

/-- `namada_core::uint::Uint`, the words of a number of 256 bits. -/
structure Uint where
  words : List UInt64
  length_words : words.length = 4

namespace Uint

theorem fromWords_lt (uint : Uint) : fromWords uint.words < 2^256 := by
  have hlt := Foundation.fromWords_lt uint.words
  rw [uint.length_words] at hlt
  exact hlt

/-- `NamadaAmount::from` -/
def toAmount (uint : Uint) : Amount := ⟨fromWords uint.words,uint.fromWords_lt⟩

/-- `transmute`, from the bytes of an array of 32 of them. -/
def ofBytes (bytes : List UInt8) : Uint := ⟨wordsOfBytes 4 bytes,length_wordsOfBytes 4 bytes⟩

/-- The words of an amount. -/
def ofAmount (amount : Amount) : Uint where
  words := (Nat.digitsAppend (2^64) 4 amount.val).map UInt64.ofNat
  length_words := by
    rw [List.length_map]
    exact Nat.length_digitsAppend (by norm_num) 4 (amount.isLt.trans_eq (by norm_num))

theorem fromWords_ofAmount (amount : Amount) : fromWords (ofAmount amount).words = amount.val := by
  have hdigits : ∀ d ∈ Nat.digitsAppend (2^64) 4 amount.val, d < 2^64 := fun d hd =>
    Nat.lt_of_mem_digitsAppend (by norm_num) 4 d hd
  have hwords : ((ofAmount amount).words).map UInt64.toNat =
      Nat.digitsAppend (2^64) 4 amount.val := by
    rw [ofAmount,List.map_map]
    calc _ = (Nat.digitsAppend (2^64) 4 amount.val).map id :=
          List.map_congr_left fun d hd => UInt64.toNat_ofNat_of_lt' (hdigits d hd)
      _ = _ := List.map_id _
  rw [fromWords,hwords,Nat.digitsAppend,Nat.ofDigits_append_replicate_zero,Nat.ofDigits_digits]

end Uint

/-- `From<&BigDecimal> for Amount`: neither the sign of the decimal nor its scale is looked at. -/
def Amount.fromBigDecimal (amount : BigDecimal) : Amount :=
  let (bigInt,_scale) := amount.asBigintAndScale
  let amountBytes := toBytesLe bigInt.natAbs
  (Uint.ofBytes (copyBytes 32 amountBytes)).toAmount

/-- `From<Amount> for BigDecimal` -/
def BigDecimal.fromAmount (amount : Amount) : BigDecimal :=
  let digits := bytesOfWords (Uint.ofAmount amount).words
  .fromBiguint (fromBytesLe digits) 0

theorem fromAmount_eq (amount : Amount) : BigDecimal.fromAmount amount = ⟨amount.val,0⟩ := by
  rw [BigDecimal.fromAmount,fromBytesLe_bytesOfWords,Uint.fromWords_ofAmount]
  rfl

theorem value_fromAmount (amount : Amount) :
    (BigDecimal.fromAmount amount).value = amount.val := by
  rw [fromAmount_eq,BigDecimal.value]
  simp

/-- An amount is read off the digits of a decimal, cut to 256 bits. -/
theorem val_fromBigDecimal (b : BigDecimal) :
    (Amount.fromBigDecimal b).val = b.int.natAbs % 2^256 := by
  have hlength : (copyBytes 32 (toBytesLe b.int.natAbs)).length = 8 * 4 := length_copyBytes _ _
  change fromWords (wordsOfBytes 4 (copyBytes 32 (toBytesLe b.int.natAbs))) = _
  rw [fromWords_wordsOfBytes hlength,fromBytesLe_copyBytes]
  norm_num

/-- The way into a decimal and back changes nothing. -/
@[simp] theorem fromBigDecimal_fromAmount (amount : Amount) :
    Amount.fromBigDecimal (BigDecimal.fromAmount amount) = amount := by
  apply Fin.ext
  rw [val_fromBigDecimal,fromAmount_eq]
  exact Nat.mod_eq_of_lt amount.isLt

/-- Every amount fits into its column, and is read back from there. -/
theorem column_keeps_amounts (amount : Amount) :
    ∃ x, Numeric.ofRat? (BigDecimal.fromAmount amount).value = some x ∧
      Amount.fromBigDecimal ⟨x.value,0⟩ = amount := by
  refine ⟨numericOfAmount amount,?_,?_⟩
  · rw [Numeric.ofRat?_eq_some,value_fromAmount]
    exact (roundHalfAway_intCast amount.val).symm
  · change Amount.fromBigDecimal ⟨amount.val,0⟩ = amount
    rw [←fromAmount_eq,fromBigDecimal_fromAmount]

/-- A number that is still itself with zeros appended is zero, as far as 256 bits go. -/
theorem eq_zero_of_mul_mod {x n : ℕ} (hx : x < 2^256) (hn : n ≠ 0)
    (h : x * 10^n % 2^256 = x) : x = 0 := by
  have hodd : Odd (10^n - 1) := by
    refine Nat.Even.sub_odd (Nat.one_le_pow _ _ (by norm_num)) ?_ odd_one
    exact Even.pow_of_ne_zero (by decide) hn
  have hcoprime : Nat.Coprime (2^256) (10^n - 1) :=
    Nat.Coprime.pow_left 256 (Nat.coprime_two_left.mpr hodd)
  have hdvd : 2^256 ∣ x * (10^n - 1) := by
    rw [Nat.mul_sub_one]
    nth_rewrite 2 [←h]
    exact Nat.dvd_sub_mod _
  exact Nat.eq_zero_of_dvd_of_lt (hcoprime.dvd_of_dvd_mul_right hdvd) hx

/-- Zeros behind the point are among the digits. -/
theorem int_of_fraction {b : BigDecimal} {x : ℤ} (h : b.value = x) (hscale : 0 ≤ b.scale.toInt) :
    b.int = x * 10^b.scale.toInt.toNat := by
  obtain ⟨n,hn⟩ := Int.eq_ofNat_of_zero_le hscale
  rw [BigDecimal.value,hn,zpow_neg,zpow_natCast,←div_eq_mul_inv,div_eq_iff (by positivity)] at h
  rw [hn,Int.toNat_natCast]
  exact_mod_cast h

/-- Zeros in front of the point are missing from the digits. -/
theorem value_of_zeros {b : BigDecimal} {x : ℤ} (h : b.value = x) (hscale : b.scale.toInt < 0) :
    x = b.int * 10^(-b.scale.toInt).toNat := by
  obtain ⟨n,hn⟩ := Int.eq_ofNat_of_zero_le (a := -b.scale.toInt) (by omega)
  rw [BigDecimal.value,hn,zpow_natCast] at h
  rw [hn,Int.toNat_natCast]
  exact_mod_cast h.symm

theorem int_eq_zero_of_fraction {b : BigDecimal} {x : ℕ} (hvalue : b.value = (x : ℤ))
    (hx : x < 2^256) (hscale : 0 < b.scale.toInt) (h : b.int.natAbs % 2^256 = x) : b.int = 0 := by
  have hint := int_of_fraction hvalue hscale.le
  have habs : b.int.natAbs = x * 10^b.scale.toInt.toNat := by
    rw [hint,Int.natAbs_mul,Int.natAbs_pow]
    rfl
  rw [habs] at h
  rw [hint,eq_zero_of_mul_mod hx (by omega) h,Int.natCast_zero,zero_mul]

theorem int_eq_zero_of_zeros {b : BigDecimal} {x : ℕ} (hvalue : b.value = (x : ℤ))
    (hscale : b.scale.toInt < 0) (h : b.int.natAbs % 2^256 = x) : b.int = 0 := by
  have hproduct : x = b.int.natAbs * 10^(-b.scale.toInt).toNat := by
    have habs := congrArg Int.natAbs (value_of_zeros hvalue hscale)
    rw [Int.natAbs_mul,Int.natAbs_pow] at habs
    exact habs
  have hpow : 1 < 10^(-b.scale.toInt).toNat := Nat.one_lt_pow (by omega) (by norm_num)
  have hle : x ≤ b.int.natAbs := h ▸ Nat.mod_le _ _
  by_contra hne
  have hlt : b.int.natAbs < x := by
    rw [hproduct]
    exact lt_mul_of_one_lt_right (Int.natAbs_pos.mpr hne) hpow
  omega

/-- Without a scale, or with nothing to scale, the digits are the number. -/
theorem int_eq_value {b : BigDecimal} {x : ℤ} (hvalue : b.value = x)
    (h : b.scale = 0 ∨ b.int = 0) : b.int = x := by
  rw [BigDecimal.value] at hvalue
  rcases h with h | h
  · rw [h,Int64.toInt_zero,neg_zero,zpow_zero,mul_one] at hvalue
    exact_mod_cast hvalue
  · rw [h,Int.cast_zero,zero_mul] at hvalue
    rw [h]
    exact_mod_cast hvalue

/-- The digits of a decimal are the integer that it stands for exactly if there is no scale, or
nothing to scale. -/
theorem natAbs_mod_eq_iff {b : BigDecimal} {x : ℕ} (hvalue : b.value = (x : ℤ))
    (hx : x < 2^256) : b.int.natAbs % 2^256 = x ↔ b.scale = 0 ∨ b.int = 0 := by
  constructor
  · intro h
    rcases lt_trichotomy b.scale.toInt 0 with hneg | hzero | hpos
    · exact .inr (int_eq_zero_of_zeros hvalue hneg h)
    · exact .inl (Int64.toInt_inj.mp (hzero.trans Int64.toInt_zero.symm))
    · exact .inr (int_eq_zero_of_fraction hvalue hx hpos h)
  · intro h
    rw [int_eq_value hvalue h,Int.natAbs_natCast,Nat.mod_eq_of_lt hx]

/-- Amounts survive the way into a decimal and back, and decimals of an integer the way into an
amount and back exactly if their scale is zero or their digits are. -/
theorem amounts_survive_iff (a : Amount) {b : BigDecimal} {x : ℤ} (hvalue : b.value = x)
    (hnonneg : 0 ≤ x) (hlt : x < 2^256) :
    Amount.fromBigDecimal (BigDecimal.fromAmount a) = a ∧
      ((BigDecimal.fromAmount (Amount.fromBigDecimal b)).value = x ↔
        b.scale = 0 ∨ b.int = 0) := by
  refine ⟨fromBigDecimal_fromAmount a,?_⟩
  obtain ⟨n,rfl⟩ := Int.eq_ofNat_of_zero_le hnonneg
  have hn : n < 2^256 := by exact_mod_cast hlt
  have hcast (m : ℕ) : (m : ℚ) = ((n : ℤ) : ℚ) ↔ m = n := by
    rw [Int.cast_natCast,Nat.cast_inj]
  rw [←natAbs_mod_eq_iff hvalue hn,value_fromAmount,val_fromBigDecimal,hcast]

theorem amounts_survive_five :
    (BigDecimal.fromAmount (Amount.fromBigDecimal ⟨5,0⟩)).value = (5 : ℤ) := by
  have hvalue : (⟨5,0⟩ : BigDecimal).value = (5 : ℤ) := by simp [BigDecimal.value]
  exact (amounts_survive_iff 5 hvalue (by norm_num) (by norm_num)).2.mpr (.inl rfl)

/-- The decimal `1.0` comes back as ten. -/
theorem scale_is_lost :
    (⟨10,1⟩ : BigDecimal).value = 1 ∧
      (BigDecimal.fromAmount (Amount.fromBigDecimal ⟨10,1⟩)).value = 10 := by
  constructor
  · have hscale : (1 : Int64).toInt = 1 := rfl
    norm_num [BigDecimal.value,hscale]
  · rw [value_fromAmount,val_fromBigDecimal]
    norm_num

end NamadaIndexer.Shared
