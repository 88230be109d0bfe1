import Mathlib.Data.Rat.Floor
import Mathlib.Data.Nat.Digits.Defs
import Mathlib.Tactic.Linarith

/-! Numbers on their way into a database: decimal strings, integers cut to 32 bits, and
the columns that hold whole numbers of at most 78 digits. -/
namespace NamadaIndexer.Foundation

/-- `u64::from_str` -/
def parseU64 (text : String) : Option UInt64 :=
  let digits := match text.toList with
    | '+'::rest => rest
    | all => all
  if digits ≠ [] ∧ digits.all Char.isDigit ∧ Nat.ofDigitChars 10 digits 0 < 2^64 then
    some (UInt64.ofNat (Nat.ofDigitChars 10 digits 0))
  else none

/-- A printed integer is read back. -/
theorem parseU64_toString (n : UInt64) : parseU64 (toString n.toNat) = some n := by
  have hdigit : ∀ c ∈ Nat.toDigits 10 n.toNat, c.isDigit = true := fun c hc =>
    Nat.isDigit_of_mem_toDigits (by decide) (by decide) hc
  have hlist : (toString n.toNat).toList = Nat.toDigits 10 n.toNat := Nat.toList_repr
  have hplus : (match Nat.toDigits 10 n.toNat with
      | '+'::rest => rest
      | all => all) = Nat.toDigits 10 n.toNat := by
    split
    · rename_i rest h
      have := hdigit '+' (by rw [h]; exact List.mem_cons_self)
      exact absurd this (by decide)
    · rfl
  simp only [parseU64,hlist,hplus]
  rw [if_pos,Nat.ofDigitChars_ten_toDigits,UInt64.ofNat_toNat]
  refine ⟨Nat.toDigits_ne_nil,List.all_eq_true.mpr hdigit,?_⟩
  rw [Nat.ofDigitChars_ten_toDigits]
  exact n.toNat_lt

/-- The digits of a number bound it. -/
theorem ofDigitChars_lt {digits : List Char} (h : ∀ c ∈ digits, c.isDigit = true) (init : ℕ) :
    Nat.ofDigitChars 10 digits init < (init+1) * 10^digits.length := by
  induction digits generalizing init with
  | nil => simp
  | cons c digits ih =>
    obtain ⟨hc,hrest⟩ := List.forall_mem_cons.mp h
    have hdigit : c.toNat - '0'.toNat ≤ 9 := by
      have hrange := Char.isDigit_iff_toNat.mp hc
      have hzero : '0'.toNat = 48 := rfl
      have hnine : '9'.toNat = 57 := rfl
      omega
    rw [Nat.ofDigitChars_cons,List.length_cons,pow_succ,Nat.mul_comm _ 10,←Nat.mul_assoc]
    refine (ih hrest _).trans_le (Nat.mul_le_mul_right _ ?_)
    omega

/-- `as i32` of a 64-bit value -/
def asI32 (n : UInt64) : Int32 := n.toUInt32.toInt32

/-- `as u64` of a signed 32-bit value -/
def asU64 (i : Int32) : UInt64 := i.toInt64.toUInt64

/-- A number is stored in 32 bits as itself exactly if it is small enough. -/
theorem toInt_asI32_iff {n : UInt64} : (asI32 n).toInt = (n.toNat : ℤ) ↔ n.toNat < 2^31 := by
  have hstored : (asI32 n).toInt = Int.bmod (n.toNat % 2^32 : ℕ) (2^32) := by
    change (n.toUInt32.toBitVec).toInt = _
    rw [BitVec.toInt_eq_toNat_bmod]
    rfl
  rw [hstored,Int.bmod_def]
  have hbound := n.toNat_lt
  constructor
  · intro h
    split at h <;> omega
  · intro h
    split <;> omega

/-- A stored id survives the way out of its column and back. -/
@[simp] theorem asI32_asU64 (i : Int32) : asI32 (asU64 i) = i := by
  apply Int32.toBitVec_inj.mp
  ext k hk
  have h64 : k < 64 := by omega
  have hbits : (BitVec.signExtend 64 i.toBitVec)[k] = i.toBitVec[k] := by
    rw [BitVec.getElem_signExtend,dif_pos hk]
  simpa [asI32,asU64,h64] using hbits

/-- Two numbers of 32 bits are stored as one only if they are one. -/
theorem toInt32_inj {a b : UInt32} : a.toInt32 = b.toInt32 ↔ a = b :=
  ⟨fun h => by rw [←a.toUInt32_toInt32,h,b.toUInt32_toInt32],congrArg _⟩

theorem asU64_injective {i j : Int32} (h : asU64 i = asU64 j) : i = j := by
  rw [←asI32_asU64 i,h,asI32_asU64]

theorem toNat_asU64 {i : Int32} (h : 0 ≤ i.toInt) : ((asU64 i).toNat : ℤ) = i.toInt := by
  have hwide : i.toInt64.toInt = i.toInt := Int32.toInt_toInt64 i
  rw [asU64,Int64.toNat_toUInt64_of_le (Int64.le_iff_toInt_le.mpr (by rw [hwide]; exact h)),
    ←hwide]
  exact Int.toNat_of_nonneg (by rw [hwide]; exact h)

/-- The numeric rounding of a decimal column: halves go away from zero. -/
def roundHalfAway (q : ℚ) : ℤ := if 0 ≤ q then ⌊q + 1/2⌋ else ⌈q - 1/2⌉

@[simp] theorem roundHalfAway_intCast (n : ℤ) : roundHalfAway n = n := by
  unfold roundHalfAway
  split
  · rw [Int.floor_eq_iff]
    constructor
    · linarith
    · linarith
  · rw [Int.ceil_eq_iff]
    constructor
    · linarith
    · linarith

@[simp] theorem roundHalfAway_zero : roundHalfAway 0 = 0 := by
  have h := roundHalfAway_intCast 0
  simpa using h

/-- A value of a column of type `NUMERIC(78,0)`. -/
structure Numeric where
  value : ℤ
  fits : |value| < 10^78

namespace Numeric

@[ext] theorem ext_value {x y : Numeric} (h : x.value = y.value) : x = y := by
  cases x; cases y; cases h; rfl

instance : DecidableEq Numeric := fun x y =>
  decidable_of_iff (x.value = y.value) ⟨ext_value,fun h => h ▸ rfl⟩

def ofInt? (n : ℤ) : Option Numeric := if h : |n| < 10^78 then some ⟨n,h⟩ else none

/-- Storing a decimal: it is rounded, and refused when it is too long. -/
def ofRat? (q : ℚ) : Option Numeric := ofInt? (roundHalfAway q)

theorem ofInt?_eq_some {n : ℤ} {x : Numeric} : ofInt? n = some x ↔ x.value = n := by
  constructor
  · intro h
    unfold ofInt? at h
    split at h
    · cases h; rfl
    · contradiction
  · rintro rfl
    rw [ofInt?,dif_pos x.fits]

theorem ofRat?_eq_some {q : ℚ} {x : Numeric} : ofRat? q = some x ↔ x.value = roundHalfAway q :=
  ofInt?_eq_some

/-- The addition of two columns in a statement. -/
def add? (x y : Numeric) : Option Numeric := ofInt? (x.value + y.value)

theorem add?_eq_some {x y z : Numeric} : add? x y = some z ↔ z.value = x.value + y.value :=
  ofInt?_eq_some

end Numeric
end NamadaIndexer.Foundation
