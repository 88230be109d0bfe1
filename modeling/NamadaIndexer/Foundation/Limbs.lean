import Mathlib.Data.Nat.Digits.Lemmas

/-! Numbers as bytes, the lowest one first: as many bytes as a number needs, a fixed number of them,
and the words of 64 bits that a fixed number of them is read as. -/
namespace NamadaIndexer.Foundation

/-- `BigUint::from_bytes_le` -/
def fromBytesLe (bytes : List UInt8) : ℕ := Nat.ofDigits 256 (bytes.map UInt8.toNat)

/-- `BigUint::to_bytes_le`: as many bytes as the number needs, and one for zero. -/
def toBytesLe (n : ℕ) : List UInt8 := if n = 0 then [0] else (Nat.digits 256 n).map UInt8.ofNat

/-- An array of zeros that the bytes are copied into, as many of them as fit. -/
def copyBytes (width : ℕ) (bytes : List UInt8) : List UInt8 :=
  let minLen := min bytes.length width
  bytes.take minLen ++ List.replicate (width - minLen) 0

/-- The bytes of a word. -/
def wordBytes (word : UInt64) : List UInt8 := (Nat.digitsAppend 256 8 word.toNat).map UInt8.ofNat

/-- Words taken for their bytes. -/
def bytesOfWords (words : List UInt64) : List UInt8 := words.flatMap wordBytes

/-- Bytes taken for the words that they make up, eight bytes for each of them. -/
def wordsOfBytes : ℕ → List UInt8 → List UInt64
  | 0, _ => []
  | count+1, bytes => UInt64.ofNat (fromBytesLe (bytes.take 8)) :: wordsOfBytes count (bytes.drop 8)

/-- The number that is written with words for its digits. -/
def fromWords (words : List UInt64) : ℕ := Nat.ofDigits (2^64) (words.map UInt64.toNat)

theorem fromWords_cons (word : UInt64) (words : List UInt64) :
    fromWords (word :: words) = word.toNat + 2^64 * fromWords words := by
  rw [fromWords,List.map_cons,Nat.ofDigits_cons,fromWords]

theorem fromBytesLe_append (xs ys : List UInt8) :
    fromBytesLe (xs ++ ys) = fromBytesLe xs + 256^xs.length * fromBytesLe ys := by
  rw [fromBytesLe,List.map_append,Nat.ofDigits_append,List.length_map]
  rfl

theorem fromBytesLe_lt (bytes : List UInt8) : fromBytesLe bytes < 256^bytes.length := by
  have hlt : ∀ d ∈ bytes.map UInt8.toNat, d < 256 := by
    intro d hd
    obtain ⟨b,-,rfl⟩ := List.mem_map.mp hd
    exact b.toNat_lt
  rw [fromBytesLe,←List.length_map UInt8.toNat]
  exact Nat.ofDigits_lt_base_pow_length (by norm_num) hlt

theorem fromWords_lt (words : List UInt64) : fromWords words < (2^64)^words.length := by
  have hlt : ∀ d ∈ words.map UInt64.toNat, d < 2^64 := by
    intro d hd
    obtain ⟨word,-,rfl⟩ := List.mem_map.mp hd
    exact word.toNat_lt
  rw [fromWords,←List.length_map UInt64.toNat]
  exact Nat.ofDigits_lt_base_pow_length (by norm_num) hlt

/-- Digits survive being stored as bytes. -/
theorem map_toNat_ofNat {digits : List ℕ} (h : ∀ d ∈ digits, d < 256) :
    (digits.map UInt8.ofNat).map UInt8.toNat = digits := by
  rw [List.map_map]
  calc digits.map (UInt8.toNat ∘ UInt8.ofNat) = digits.map id :=
        List.map_congr_left fun d hd => UInt8.toNat_ofNat_of_lt' (h d hd)
    _ = digits := List.map_id _

theorem fromBytesLe_map_ofNat {digits : List ℕ} (h : ∀ d ∈ digits, d < 256) :
    fromBytesLe (digits.map UInt8.ofNat) = Nat.ofDigits 256 digits := by
  rw [fromBytesLe,map_toNat_ofNat h]

/-- Of the bytes of a number that are copied, those above the width are lost. -/
theorem fromBytesLe_copyBytes (width n : ℕ) :
    fromBytesLe (copyBytes width (toBytesLe n)) = n % 256^width := by
  have htake : fromBytesLe ((toBytesLe n).take width) = n % 256^width := by
    unfold toBytesLe
    split
    · rename_i hzero
      subst hzero
      rw [Nat.zero_mod]
      cases width with
      | zero => rfl
      | succ width => simp [fromBytesLe]
    · have hdigits : ∀ d ∈ (Nat.digits 256 n).take width, d < 256 := fun d hd =>
        Nat.digits_lt_base (by norm_num) (List.mem_of_mem_take hd)
      rw [←List.map_take,fromBytesLe_map_ofNat hdigits]
      exact (Nat.self_mod_pow_eq_ofDigits_take width n (by norm_num)).symm
  have hzeros (count : ℕ) : fromBytesLe (List.replicate count 0) = 0 := by
    rw [fromBytesLe,List.map_replicate]
    exact Nat.ofDigits_replicate_zero
  rw [copyBytes,fromBytesLe_append,hzeros,mul_zero,add_zero,←htake,Nat.min_comm,←List.take_take,
    List.take_length]

@[simp] theorem length_copyBytes (width : ℕ) (bytes : List UInt8) :
    (copyBytes width bytes).length = width := by
  rw [copyBytes,List.length_append,List.length_take,List.length_replicate]
  omega

@[simp] theorem length_wordBytes (word : UInt64) : (wordBytes word).length = 8 := by
  rw [wordBytes,List.length_map]
  exact Nat.length_digitsAppend (by norm_num) 8 word.toNat_lt

theorem fromBytesLe_wordBytes (word : UInt64) : fromBytesLe (wordBytes word) = word.toNat := by
  have hdigits : ∀ d ∈ Nat.digitsAppend 256 8 word.toNat, d < 256 := fun d hd =>
    Nat.lt_of_mem_digitsAppend (by norm_num) 8 d hd
  rw [wordBytes,fromBytesLe_map_ofNat hdigits,Nat.digitsAppend,
    Nat.ofDigits_append_replicate_zero,Nat.ofDigits_digits]

/-- Words and their bytes stand for one number. -/
theorem fromBytesLe_bytesOfWords (words : List UInt64) :
    fromBytesLe (bytesOfWords words) = fromWords words := by
  induction words with
  | nil => rfl
  | cons word words ih =>
    rw [fromWords_cons,←ih,←fromBytesLe_wordBytes word,bytesOfWords,List.flatMap_cons,
      fromBytesLe_append,length_wordBytes,bytesOfWords]
    norm_num

@[simp] theorem length_wordsOfBytes (count : ℕ) (bytes : List UInt8) :
    (wordsOfBytes count bytes).length = count := by
  induction count generalizing bytes with
  | zero => rfl
  | succ count ih => rw [wordsOfBytes,List.length_cons,ih]

theorem fromWords_wordsOfBytes {count : ℕ} {bytes : List UInt8} (h : bytes.length = 8 * count) :
    fromWords (wordsOfBytes count bytes) = fromBytesLe bytes := by
  induction count generalizing bytes with
  | zero =>
    rw [List.eq_nil_of_length_eq_zero h]
    rfl
  | succ count ih =>
    have hlength : (bytes.take 8).length = 8 := by
      rw [List.length_take]
      omega
    have hword : fromBytesLe (bytes.take 8) < 2^64 := by
      have hlt := fromBytesLe_lt (bytes.take 8)
      rw [hlength] at hlt
      exact hlt
    have hrest : (bytes.drop 8).length = 8 * count := by
      rw [List.length_drop]
      omega
    rw [wordsOfBytes,fromWords_cons,UInt64.toNat_ofNat_of_lt' hword,ih hrest]
    conv_rhs => rw [←List.take_append_drop 8 bytes,fromBytesLe_append,hlength]
    norm_num

end NamadaIndexer.Foundation
