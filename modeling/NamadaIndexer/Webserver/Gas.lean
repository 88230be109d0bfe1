import NamadaIndexer.Foundation.Overflow
import NamadaIndexer.Foundation.Rounding
import NamadaIndexer.Shared.BalanceChanges
import NamadaIndexer.Transactions.Repository

/-! The gas estimation endpoint, and when a query finds the batches it asks for. -/
namespace NamadaIndexer.Webserver
open NamadaIndexer.Foundation NamadaIndexer.Shared NamadaIndexer.Transactions

/-- `GasEstimateQuery` -/
structure GasEstimateQuery where
  bond : Option UInt64
  claimRewards : Option UInt64
  unbond : Option UInt64
  transparentTransfer : Option UInt64
  shieldedTransfer : Option UInt64
  shieldingTransfer : Option UInt64
  unshieldingTransfer : Option UInt64
  vote : Option UInt64
  ibcShieldingTransfer : Option UInt64
  ibcUnshieldingTransfer : Option UInt64
  ibcTransparentTransfer : Option UInt64
  withdraw : Option UInt64
  revealPk : Option UInt64
  redelegate : Option UInt64
  signatures : Option UInt64
  txSize : Option UInt64
  deriving DecidableEq, Repr

inductive GasError
  | invalidQueryParams
  deriving DecidableEq, Repr

structure GasEstimate where
  min : UInt64
  max : UInt64
  avg : UInt64
  totalEstimates : UInt64
  deriving DecidableEq, Repr

/-- `f64::ceil`, `as i32` -/
def ceilAsI32 (x : ℚ) : Int32 := (F64.finite ⌈x⌉).toI32

def TX_SIZE_WINDOW_UPPERBOUND_PCT : ℚ := toF64 (1/10)

def TX_SIGNATURES_WINDOW_UPPERBOUND : UInt64 := 5

def signatureBounds (overflowChecks : Bool) (signatures : UInt64) :
    Panicking (Int32 × Int32) := do
  if signatures = 0 then return (2,5)
  let upper ← addU64 overflowChecks signatures TX_SIGNATURES_WINDOW_UPPERBOUND
  return (asI32 signatures,asI32 upper)

def txSizeBounds (txSize : UInt64) : Int32 × Int32 :=
  if txSize = 0 then (0,100000)
  else
    (asI32 txSize,
      ceilAsI32 (toF64 (toF64 txSize.toNat * toF64 (1+TX_SIZE_WINDOW_UPPERBOUND_PCT))))

/-- `between` -/
def Between (bounds : Int32 × Int32) (column : Int32) : Prop :=
  bounds.1 ≤ column ∧ column ≤ bounds.2

instance (bounds : Int32 × Int32) (column : Int32) : Decidable (Between bounds column) :=
  inferInstanceAs (Decidable (_ ∧ _))

/-- The filters of `find_gas_estimates` -/
def gasFilters (bond redelegate claimRewards unbond transparentTransfer shieldedTransfer
    shieldingTransfer unshieldingTransfer vote ibcShieldingTransfer ibcUnshieldingTransfer
    ibcTransparentTransfer withdraw revealPk : UInt64)
    (signatureBounds txSizeBounds : Int32 × Int32) (row : GasEstimationDb) : Prop :=
  row.bond = asI32 bond ∧
  row.redelegation = asI32 redelegate ∧
  row.claimRewards = asI32 claimRewards ∧
  row.unbond = asI32 unbond ∧
  row.transparentTransfer = asI32 transparentTransfer ∧
  row.shieldedTransfer = asI32 shieldedTransfer ∧
  row.shieldingTransfer = asI32 shieldingTransfer ∧
  row.unshieldingTransfer = asI32 unshieldingTransfer ∧
  row.voteProposal = asI32 vote ∧
  row.ibcShieldingTransfer = asI32 ibcShieldingTransfer ∧
  row.ibcUnshieldingTransfer = asI32 ibcUnshieldingTransfer ∧
  row.ibcMsgTransfer = asI32 ibcTransparentTransfer ∧
  row.withdraw = asI32 withdraw ∧
  row.revealPk = asI32 revealPk ∧
  Between signatureBounds row.signatures ∧
  Between txSizeBounds row.txSize

instance (a b c d e f g h i j k l m n : UInt64) (o p : Int32 × Int32) :
    DecidablePred (gasFilters a b c d e f g h i j k l m n o p) :=
  fun row => by unfold gasFilters; infer_instance

/-- `DefaultGasTable::get_gas_by_tx_kind` -/
def getGasByTxKind : TransactionKindDb → UInt64
  | .bond | .claimRewards | .unbond | .transparentTransfer | .shieldedTransfer
  | .shieldingTransfer | .unshieldingTransfer | .voteProposal | .ibcShieldingTransfer
  | .ibcUnshieldingTransfer | .withdraw => 50000
  | .revealPk => 25000
  | .mixedTransfer => 50000
  | .redelegation => 100000
  | .initProposal | .ibcMsgTransfer | .ibcTransparentTransfer => 50000
  | _ => 0

section
variable (overflowChecks : Bool)

/-- `find_gas_estimates`: the least, the greatest and the average gas of the batches found, and
their number. -/
def findGasEstimates (db : Db) (bond redelegate claimRewards unbond transparentTransfer
    shieldedTransfer shieldingTransfer unshieldingTransfer vote ibcShieldingTransfer
    ibcUnshieldingTransfer ibcTransparentTransfer withdraw revealPk signatures txSize : UInt64) :
    Panicking (Option Int32 × Option Int32 × Option ℚ × ℕ) := do
  let signatureBounds ← signatureBounds overflowChecks signatures
  let rows := db.gasEstimations.filter fun row =>
    gasFilters bond redelegate claimRewards unbond transparentTransfer shieldedTransfer
      shieldingTransfer unshieldingTransfer vote ibcShieldingTransfer ibcUnshieldingTransfer
      ibcTransparentTransfer withdraw revealPk signatureBounds (txSizeBounds txSize) row
  let gasUsed := rows.filterMap fun row =>
    (db.wrapperTransactions.find? row.wrapperId).bind fun tx => tx.gasUsed
  let sum := (gasUsed.map Int32.toInt).sum
  return (gasUsed.min?,gasUsed.max?,if gasUsed = [] then none else some (sum/gasUsed.length),
    gasUsed.length)

/-- The statements of `estimate_gas` that add up the default gas. -/
def fallbackEstimate (bond claimRewards unbond transparentTransfer shieldedTransfer
    shieldingTransfer unshieldingTransfer vote ibcShieldingTransfer ibcUnshieldingTransfer
    withdraw revealPk : UInt64) : Panicking UInt64 := do
  let estimate := 0
  let estimate ← addProduct overflowChecks estimate bond (getGasByTxKind .bond)
  let estimate ← addProduct overflowChecks estimate claimRewards (getGasByTxKind .claimRewards)
  let estimate ← addProduct overflowChecks estimate unbond (getGasByTxKind .unbond)
  let estimate ← addProduct overflowChecks estimate transparentTransfer
    (getGasByTxKind .transparentTransfer)
  let estimate ← addProduct overflowChecks estimate shieldedTransfer
    (getGasByTxKind .shieldedTransfer)
  let estimate ← addProduct overflowChecks estimate shieldingTransfer
    (getGasByTxKind .shieldingTransfer)
  let estimate ← addProduct overflowChecks estimate unshieldingTransfer
    (getGasByTxKind .unshieldingTransfer)
  let estimate ← addProduct overflowChecks estimate vote (getGasByTxKind .voteProposal)
  let estimate ← addProduct overflowChecks estimate ibcShieldingTransfer
    (getGasByTxKind .ibcShieldingTransfer)
  let estimate ← addProduct overflowChecks estimate ibcUnshieldingTransfer
    (getGasByTxKind .ibcUnshieldingTransfer)
  let estimate ← addProduct overflowChecks estimate withdraw (getGasByTxKind .withdraw)
  let estimate ← addProduct overflowChecks estimate revealPk (getGasByTxKind .revealPk)
  return estimate

/-- `GasService::estimate_gas` -/
def estimateGas (db : Db) (bond redelegate claimRewards unbond transparentTransfer
    shieldedTransfer shieldingTransfer unshieldingTransfer vote ibcShieldingTransfer
    ibcUnshieldingTransfer ibcTransparentTransfer withdraw revealPk signatures txSize : UInt64) :
    Panicking GasEstimate := do
  let (min,max,avg,count) ← findGasEstimates overflowChecks db bond redelegate claimRewards unbond
    transparentTransfer shieldedTransfer shieldingTransfer unshieldingTransfer vote
    ibcShieldingTransfer ibcUnshieldingTransfer ibcTransparentTransfer withdraw revealPk
    signatures txSize
  match min.map asU64,max.map asU64,avg.map fun gas => UInt64.ofNat ⌊gas⌋₊ with
  | some min,some max,some avg => return ⟨min,max,avg,.ofNat count⟩
  | _,_,_ =>
    let estimate ← fallbackEstimate overflowChecks bond claimRewards unbond transparentTransfer
      shieldedTransfer shieldingTransfer unshieldingTransfer vote ibcShieldingTransfer
      ibcUnshieldingTransfer withdraw revealPk
    return ⟨estimate,estimate,estimate,0⟩

end

namespace GasEstimateQuery
variable (query : GasEstimateQuery)

/-- `GasEstimateQuery::is_valid` -/
def isValid : Except GasError Unit :=
  if [query.bond,query.claimRewards,query.unbond,query.transparentTransfer,
      query.shieldedTransfer,query.shieldingTransfer,query.unshieldingTransfer,query.vote,
      query.withdraw,query.ibcShieldingTransfer,query.ibcUnshieldingTransfer,
      query.ibcTransparentTransfer,query.revealPk,query.redelegate].any Option.isSome then
    .ok ()
  else .error .invalidQueryParams

/-- What `get_gas_estimate` hands to the service, in the places of its parameters. -/
def arguments {β : Type*} (service : UInt64 → UInt64 → UInt64 → UInt64 → UInt64 → UInt64 →
    UInt64 → UInt64 → UInt64 → UInt64 → UInt64 → UInt64 → UInt64 → UInt64 → UInt64 → UInt64 → β) :
    β :=
  service
    (query.bond.getD 0)
    (query.redelegate.getD 0)
    (query.claimRewards.getD 0)
    (query.unbond.getD 0)
    (query.transparentTransfer.getD 0)
    (query.shieldedTransfer.getD 0)
    (query.shieldingTransfer.getD 0)
    (query.unshieldingTransfer.getD 0)
    (query.vote.getD 0)
    (query.ibcUnshieldingTransfer.getD 0)
    (query.ibcShieldingTransfer.getD 0)
    (query.ibcTransparentTransfer.getD 0)
    (query.withdraw.getD 0)
    (query.revealPk.getD 0)
    (query.signatures.getD 2)
    (query.txSize.getD 0)

end GasEstimateQuery

/-- The handler `get_gas_estimate` -/
def getGasEstimate (overflowChecks : Bool) (db : Db) (query : GasEstimateQuery) :
    Panicking (Except GasError GasEstimate) :=
  match query.isValid with
  | .error e => .returns (.error e)
  | .ok _ => .ok <$> query.arguments (estimateGas overflowChecks db)

/-- The counter of an estimate for one kind. Kinds without a counter have none to show. -/
def counter (estimate : GasEstimation) : TransactionKindDb → ℕ
  | .transparentTransfer => estimate.transparentTransfer
  | .shieldedTransfer => estimate.shieldedTransfer
  | .shieldingTransfer => estimate.shieldingTransfer
  | .unshieldingTransfer => estimate.unshieldingTransfer
  | .mixedTransfer => estimate.mixedTransfer
  | .ibcTransparentTransfer => estimate.ibcTransparentTransfer
  | .ibcShieldingTransfer => estimate.ibcShieldingTransfer
  | .ibcUnshieldingTransfer => estimate.ibcUnshieldingTransfer
  | .bond => estimate.bond
  | .redelegation => estimate.redelegation
  | .unbond => estimate.unbond
  | .withdraw => estimate.withdraw
  | .claimRewards => estimate.claimRewards
  | .voteProposal => estimate.voteProposal
  | .revealPk => estimate.revealPk
  | _ => 0

/-- What one transaction counts for: its notes, if its kind can have some. -/
def units (tx : InnerTransaction) : ℕ :=
  match TransactionKindDb.ofKind tx.kind with
  | .shieldedTransfer | .shieldingTransfer | .unshieldingTransfer | .mixedTransfer
  | .ibcShieldingTransfer | .ibcUnshieldingTransfer => tx.notes
  | .transparentTransfer | .ibcTransparentTransfer | .bond | .redelegation | .unbond | .withdraw
  | .claimRewards | .voteProposal | .revealPk => 1
  | _ => 0

/-- What the transactions of one kind count for. -/
def unitsOf (kind : TransactionKindDb) (innerTxs : List InnerTransaction) : ℕ :=
  ((innerTxs.filter fun tx => TransactionKindDb.ofKind tx.kind = kind).map units).sum

lemma counter_increase (estimate : GasEstimation) (tx : InnerTransaction)
    (kind : TransactionKindDb) :
    counter (estimate.increase tx) kind =
      counter estimate kind+(if TransactionKindDb.ofKind tx.kind = kind then units tx else 0) := by
  obtain ⟨txId,index,wrapperId,txKind,memo,data,extraSections,notes,exitCode⟩ := tx
  cases txKind <;> cases kind <;> rfl

lemma counter_foldl (innerTxs : List InnerTransaction) (estimate : GasEstimation)
    (kind : TransactionKindDb) :
    counter (innerTxs.foldl GasEstimation.increase estimate) kind =
      counter estimate kind+unitsOf kind innerTxs := by
  induction innerTxs generalizing estimate with
  | nil => rfl
  | cons tx innerTxs ih =>
    rw [List.foldl_cons,ih,counter_increase]
    by_cases h : TransactionKindDb.ofKind tx.kind = kind
    · simp [unitsOf,h,add_assoc]
    · simp [unitsOf,h]

/-- The estimate of one batch, if it is indexed. -/
def estimateOf (batch : WrapperTransaction × List InnerTransaction) : GasEstimation :=
  batch.2.foldl GasEstimation.increase
    { GasEstimation.new batch.1.txId with
      signatures := batch.1.totalSignatures
      size := batch.1.size }

lemma getGasEstimates_eq (txs : List (WrapperTransaction × List InnerTransaction)) :
    getGasEstimates txs =
      (txs.filter fun batch => batch.2.all fun tx => tx.wasSuccessful batch.1).map estimateOf :=
  rfl

lemma getGasEstimates_singleton_iff {batch : WrapperTransaction × List InnerTransaction}
    {estimate : GasEstimation} :
    getGasEstimates [batch] = [estimate] ↔
      (batch.2.all fun tx => tx.wasSuccessful batch.1) = true ∧ estimateOf batch = estimate := by
  rw [getGasEstimates_eq,List.filter_cons]
  split
  · rename_i h
    simp [h]
  · rename_i h
    simp [h]

lemma counter_estimateOf (batch : WrapperTransaction × List InnerTransaction)
    (kind : TransactionKindDb) : counter (estimateOf batch) kind = unitsOf kind batch.2 := by
  rw [estimateOf,counter_foldl]
  cases kind <;> exact Nat.zero_add _

/-- The counter a query asks for. A kind that cannot be requested has none. -/
def GasEstimateQuery.requested (query : GasEstimateQuery) : TransactionKindDb → UInt64
  | .transparentTransfer => query.transparentTransfer.getD 0
  | .shieldedTransfer => query.shieldedTransfer.getD 0
  | .shieldingTransfer => query.shieldingTransfer.getD 0
  | .unshieldingTransfer => query.unshieldingTransfer.getD 0
  | .ibcTransparentTransfer => query.ibcTransparentTransfer.getD 0
  | .ibcShieldingTransfer => query.ibcShieldingTransfer.getD 0
  | .ibcUnshieldingTransfer => query.ibcUnshieldingTransfer.getD 0
  | .bond => query.bond.getD 0
  | .redelegation => query.redelegate.getD 0
  | .unbond => query.unbond.getD 0
  | .withdraw => query.withdraw.getD 0
  | .claimRewards => query.claimRewards.getD 0
  | .voteProposal => query.vote.getD 0
  | .revealPk => query.revealPk.getD 0
  | _ => 0

/-- The window of signatures that is asked for: from the given number to five more, and from two to
five when it is zero. -/
def InSignatureWindow (requested count : ℕ) : Prop :=
  if requested = 0 then 2 ≤ count ∧ count ≤ 5 else requested ≤ count ∧ count ≤ requested+5

/-- The window of sizes that is asked for: from the given one to a tenth more, rounded up, and up to
100000 bytes when it is zero. -/
def InSizeWindow (requested size : ℕ) : Prop :=
  if requested = 0 then size ≤ 100000 else requested ≤ size ∧ 10*size ≤ 11*requested+9

namespace GasEstimateQuery
variable (query : GasEstimateQuery)

/-- The query asks for batches like this one. -/
structure AsksFor (estimate : GasEstimation) : Prop where
  counters : ∀ kind, counter estimate kind = (query.requested kind).toNat
  signatures : InSignatureWindow (query.signatures.getD 2).toNat estimate.signatures
  size : InSizeWindow (query.txSize.getD 0).toNat estimate.size

/-- The row of the estimate satisfies the filters of the query. -/
def Finds (overflowChecks : Bool) (sdk : Sdk) (estimate : GasEstimation) : Prop :=
  query.arguments fun bond redelegate claimRewards unbond transparentTransfer shieldedTransfer
      shieldingTransfer unshieldingTransfer vote ibcShieldingTransfer ibcUnshieldingTransfer
      ibcTransparentTransfer withdraw revealPk signatures txSize =>
    ∃ bounds, signatureBounds overflowChecks signatures = .returns bounds ∧
      gasFilters bond redelegate claimRewards unbond transparentTransfer shieldedTransfer
        shieldingTransfer unshieldingTransfer vote ibcShieldingTransfer ibcUnshieldingTransfer
        ibcTransparentTransfer withdraw revealPk bounds (txSizeBounds txSize)
        (.ofEstimation sdk estimate)

/-- What the query asks for fits the columns, with the windows. -/
structure InRange : Prop where
  counters : ∀ kind, (query.requested kind).toNat < 2^31
  signatures : (query.signatures.getD 2).toNat+5 < 2^31
  txSize : (query.txSize.getD 0).toNat < 2^31

end GasEstimateQuery

/-- The stored counts of a batch fit their columns. -/
structure CountsFit (estimate : GasEstimation) : Prop where
  counters : ∀ kind ≠ .mixedTransfer, counter estimate kind < 2^31
  signatures : estimate.signatures < 2^31
  size : estimate.size < 2^31

/-- The kind whose column is compared with a requested counter. -/
def compared : TransactionKindDb → TransactionKindDb
  | .ibcShieldingTransfer => .ibcUnshieldingTransfer
  | .ibcUnshieldingTransfer => .ibcShieldingTransfer
  | .ibcTransparentTransfer => .transparentTransfer
  | kind => kind

lemma asI32_eq_ofNat (n : UInt64) : asI32 n = .ofNat n.toNat := by
  apply Int32.toBitVec_inj.mp
  apply BitVec.eq_of_toNat_eq
  simp [asI32]

lemma ofNat_eq_asI32 {count : ℕ} {n : UInt64} (hcount : count < 2^31) (hn : n.toNat < 2^31) :
    Int32.ofNat count = asI32 n ↔ count = n.toNat := by
  rw [asI32_eq_ofNat,←Int32.toInt_inj,Int32.toInt_ofNat_of_lt hcount,Int32.toInt_ofNat_of_lt hn]
  exact Nat.cast_inj

lemma between_ofNat {bounds : Int32 × Int32} {count : ℕ} (hcount : count < 2^31) :
    Between bounds (.ofNat count) ↔ bounds.1.toInt ≤ count ∧ (count : ℤ) ≤ bounds.2.toInt := by
  rw [Between,Int32.le_iff_toInt_le,Int32.le_iff_toInt_le,Int32.toInt_ofNat_of_lt hcount]

/-- In range, the window of signatures that is looked for is the one that is asked for. -/
lemma signatureBounds_window (overflowChecks : Bool) {signatures : UInt64}
    (hrange : signatures.toNat+5 < 2^31) :
    ∃ bounds, signatureBounds overflowChecks signatures = .returns bounds ∧
      ∀ count < 2^31, Between bounds (.ofNat count) ↔ InSignatureWindow signatures.toNat count := by
  unfold signatureBounds InSignatureWindow
  by_cases hzero : signatures = 0
  · subst hzero
    refine ⟨(2,5),rfl,?_⟩
    intro count hcount
    rw [between_ofNat hcount,if_pos UInt64.toNat_zero]
    change (2 : ℤ) ≤ count ∧ (count : ℤ) ≤ 5 ↔ _
    omega
  · have hne : signatures.toNat ≠ 0 := fun h => hzero (UInt64.toNat_inj.mp h)
    have hadd : addU64 overflowChecks signatures TX_SIGNATURES_WINDOW_UPPERBOUND =
        .returns (signatures+TX_SIGNATURES_WINDOW_UPPERBOUND) := by
      refine if_neg ?_
      rintro ⟨-,hge⟩
      change 2^64 ≤ signatures.toNat+5 at hge
      omega
    have hupper : (signatures+TX_SIGNATURES_WINDOW_UPPERBOUND).toNat = signatures.toNat+5 := by
      rw [UInt64.toNat_add]
      change (signatures.toNat+5)%2^64 = _
      omega
    rw [if_neg hzero,hadd]
    refine ⟨_,rfl,?_⟩
    intro count hcount
    rw [between_ofNat hcount,if_neg hne,toInt_asI32_iff.mpr (by omega),
      toInt_asI32_iff.mpr (by omega),hupper]
    omega

lemma toF64_factor :
    toF64 (1+TX_SIZE_WINDOW_UPPERBOUND_PCT) = 11/10+4/(10*2^52) := by
  decide +kernel

/-- The upper bound of sizes that are not a multiple of ten. -/
lemma ceil_upper {n : ℕ} (hn : n < 2^31) (hten : ¬ 10 ∣ n) :
    ⌈toF64 (toF64 n * toF64 (1+TX_SIZE_WINDOW_UPPERBOUND_PCT))⌉ = ((11*n+9)/10 : ℕ) := by
  rw [toF64_natCast (by omega),toF64_factor]
  have hpos : (0 : ℚ) < n := by
    have : 0 < n := by omega
    exact_mod_cast this
  have hlarge : (n : ℚ) < 2^31 := by exact_mod_cast hn
  -- the product is not an integer, and the integers are a tenth away
  have hbelow : (((11*n+9)/10 : ℕ) : ℚ) ≤ (11*n+9)/10 := by
    rw [le_div_iff₀ (by norm_num)]
    exact_mod_cast Nat.div_mul_le_self (11*n+9) 10
  have habove : (11*n+1 : ℚ)/10 ≤ ((11*n+9)/10 : ℕ) := by
    rw [div_le_iff₀ (by norm_num)]
    have : 11*n+1 ≤ (11*n+9)/10*10 := by omega
    exact_mod_cast this
  refine ceil_toF64_of_gap (by positivity) (by omega) ?_ ?_
  · linarith
  · linarith

/-- The upper bound of multiples of ten: the product with the rounded factor lies a little above an
integer, and is rounded away from it or not. -/
lemma ceil_upper_tens {k : ℕ} (hpos : 0 < k) (hk : 10*k < 2^31) :
    ⌈toF64 (toF64 (10*k : ℕ) * toF64 (1+TX_SIZE_WINDOW_UPPERBOUND_PCT))⌉ =
      if 8*k ≤ 2^Nat.log 2 (11*k) then ((11*k : ℕ) : ℤ) else (11*k : ℕ)+1 := by
  have hproduct : ((10*k : ℕ) : ℚ) * (11/10+4/(10*2^52)) = (11*k : ℕ)+4*k/2^52 := by
    push_cast
    ring
  have hunit : (2 : ℚ)^((Nat.log 2 (11*k) : ℤ)-52) = (2^Nat.log 2 (11*k) : ℕ)/2^52 := by
    rw [zpow_sub₀ (by norm_num),zpow_natCast,Nat.cast_pow,Nat.cast_ofNat]
    norm_num
  have hlog : 11*k < 2^(Nat.log 2 (11*k)+1) := Nat.lt_pow_succ_log_self (by omega) _
  rw [pow_succ] at hlog
  have hlt : (4*k/2^52 : ℚ) < 2^((Nat.log 2 (11*k) : ℤ)-52) := by
    rw [hunit,div_lt_div_iff_of_pos_right (by norm_num)]
    exact_mod_cast (by omega : 4*k < 2^Nat.log 2 (11*k))
  rw [toF64_natCast (by omega),toF64_factor,hproduct,
    ceil_toF64_natCast_add (by omega) (by omega) (by positivity) hlt]
  refine if_congr ?_ rfl rfl
  rw [hunit,←mul_div_assoc,div_le_div_iff_of_pos_right (by norm_num),←mul_assoc]
  norm_num
  exact_mod_cast Iff.rfl

/-- The product with the rounded factor does not give one byte more than a tenth above. -/
def SizeExact (size : ℕ) : Prop := ∀ k, size = 11*k+1 → 8*k ≤ 2^Nat.log 2 (11*k)

lemma toInt_ceilAsI32 {x : ℚ} (h : 0 ≤ ⌈x⌉) : (ceilAsI32 x).toInt = min ⌈x⌉ 2147483647 := by
  have hcut : (⌈x⌉ : ℚ).num.tdiv (⌈x⌉ : ℚ).den = ⌈x⌉ := by simp
  rw [ceilAsI32,F64.toI32,hcut,max_eq_right (by omega)]
  exact Int32.toInt_ofInt_of_le (by omega) (by omega)

/-- In range, the sizes that are looked for are the ones that are asked for, but for the sizes that
the rounding lets in. -/
lemma txSizeBounds_window {txSize : UInt64} (hrange : txSize.toNat < 2^31) {size : ℕ}
    (hsize : size < 2^31) :
    Between (txSizeBounds txSize) (.ofNat size) ↔
      InSizeWindow txSize.toNat size ∨
        ∃ k, txSize.toNat = 10*k ∧ size = 11*k+1 ∧ 2^Nat.log 2 (11*k) < 8*k := by
  rw [between_ofNat hsize]
  unfold txSizeBounds InSizeWindow
  by_cases hzero : txSize = 0
  · subst hzero
    rw [if_pos rfl,if_pos UInt64.toNat_zero]
    change (0 : ℤ) ≤ size ∧ (size : ℤ) ≤ 100000 ↔ _ ∨ ∃ k, 0 = 10*k ∧ _
    constructor
    · intro h
      exact .inl (by omega)
    · rintro (h | ⟨k,hk,-,hlt⟩)
      · omega
      · obtain rfl : k = 0 := by omega
        simp at hlt
  · have hne : txSize.toNat ≠ 0 := fun h => hzero (UInt64.toNat_inj.mp h)
    rw [if_neg hzero,if_neg hne]
    dsimp only
    rw [toInt_asI32_iff.mpr hrange]
    generalize txSize.toNat = n at hrange hne
    by_cases hten : 10 ∣ n
    · obtain ⟨k,rfl⟩ := hten
      have hceil := ceil_upper_tens (k := k) (by omega) hrange
      split at hceil
      · rw [toInt_ceilAsI32 (by omega),hceil]
        constructor
        · intro h
          exact .inl (by omega)
        · rintro (h | ⟨l,hl,-,hlt⟩)
          · omega
          · obtain rfl : l = k := by omega
            omega
      · rw [toInt_ceilAsI32 (by omega),hceil]
        constructor
        · intro h
          by_cases hexact : size = 11*k+1
          · exact .inr ⟨k,rfl,hexact,by omega⟩
          · exact .inl (by omega)
        · rintro (h | ⟨l,hl,hexact,-⟩) <;> omega
    · rw [toInt_ceilAsI32 (by rw [ceil_upper hrange hten]; omega),ceil_upper hrange hten]
      constructor
      · intro h
        exact .inl (by omega)
      · rintro (h | ⟨k,rfl,-⟩)
        · omega
        · omega

section
variable {overflowChecks : Bool} {sdk : Sdk} {query : GasEstimateQuery} {estimate : GasEstimation}

lemma finds_iff (hestimate : CountsFit estimate)
    (hquery : ∀ kind, (query.requested kind).toNat < 2^31) :
    query.Finds overflowChecks sdk estimate ↔
      (∀ kind ≠ .mixedTransfer,
        counter estimate (compared kind) = (query.requested kind).toNat) ∧
      (∃ bounds, signatureBounds overflowChecks (query.signatures.getD 2) = .returns bounds ∧
        Between bounds (.ofNat estimate.signatures)) ∧
      Between (txSizeBounds (query.txSize.getD 0)) (.ofNat estimate.size) := by
  have hcolumn : ∀ kind ≠ .mixedTransfer,
      Int32.ofNat (counter estimate (compared kind)) = asI32 (query.requested kind) ↔
        counter estimate (compared kind) = (query.requested kind).toNat := by
    intro kind hkind
    refine ofNat_eq_asI32 (hestimate.counters _ ?_) (hquery kind)
    cases kind <;> first | decide | contradiction
  constructor
  · rintro ⟨bounds,hbounds,bond,redelegate,claimRewards,unbond,transparent,shielded,shielding,
      unshielding,vote,ibcShielding,ibcUnshielding,ibcTransparent,withdraw,revealPk,signatures,
      size⟩
    refine ⟨?_,⟨bounds,hbounds,signatures⟩,size⟩
    intro kind hkind
    rw [←hcolumn kind hkind]
    cases kind <;> first | assumption | contradiction | rfl
  · rintro ⟨h,⟨bounds,hbounds,signatures⟩,size⟩
    have hcolumns : ∀ kind ≠ .mixedTransfer,
        Int32.ofNat (counter estimate (compared kind)) = asI32 (query.requested kind) := by
      intro kind hkind
      exact (hcolumn kind hkind).mpr (h kind hkind)
    exact ⟨bounds,hbounds,hcolumns .bond (by decide),hcolumns .redelegation (by decide),
      hcolumns .claimRewards (by decide),hcolumns .unbond (by decide),
      hcolumns .transparentTransfer (by decide),hcolumns .shieldedTransfer (by decide),
      hcolumns .shieldingTransfer (by decide),hcolumns .unshieldingTransfer (by decide),
      hcolumns .voteProposal (by decide),hcolumns .ibcUnshieldingTransfer (by decide),
      hcolumns .ibcShieldingTransfer (by decide),hcolumns .ibcTransparentTransfer (by decide),
      hcolumns .withdraw (by decide),hcolumns .revealPk (by decide),signatures,size⟩

/-- Which batches a query in range finds. -/
lemma finds_iff_of_inRange (hestimate : CountsFit estimate) (hquery : query.InRange) :
    query.Finds overflowChecks sdk estimate ↔
      (∀ kind ≠ .mixedTransfer,
        counter estimate (compared kind) = (query.requested kind).toNat) ∧
      InSignatureWindow (query.signatures.getD 2).toNat estimate.signatures ∧
      (InSizeWindow (query.txSize.getD 0).toNat estimate.size ∨
        ∃ k, (query.txSize.getD 0).toNat = 10*k ∧ estimate.size = 11*k+1 ∧
          2^Nat.log 2 (11*k) < 8*k) := by
  obtain ⟨bounds,hbounds,hwindow⟩ := signatureBounds_window overflowChecks hquery.signatures
  rw [finds_iff hestimate hquery.counters,txSizeBounds_window hquery.txSize hestimate.size,
    ←hwindow _ hestimate.signatures,hbounds]
  simp only [Panicking.returns.injEq,exists_eq_left']

/-- The query that asks for these counters. -/
def askingFor (counters : TransactionKindDb → ℕ) (signatures txSize : UInt64) :
    GasEstimateQuery where
  bond := some (.ofNat (counters .bond))
  claimRewards := some (.ofNat (counters .claimRewards))
  unbond := some (.ofNat (counters .unbond))
  transparentTransfer := some (.ofNat (counters .transparentTransfer))
  shieldedTransfer := some (.ofNat (counters .shieldedTransfer))
  shieldingTransfer := some (.ofNat (counters .shieldingTransfer))
  unshieldingTransfer := some (.ofNat (counters .unshieldingTransfer))
  vote := some (.ofNat (counters .voteProposal))
  ibcShieldingTransfer := some (.ofNat (counters .ibcShieldingTransfer))
  ibcUnshieldingTransfer := some (.ofNat (counters .ibcUnshieldingTransfer))
  ibcTransparentTransfer := some (.ofNat (counters .ibcTransparentTransfer))
  withdraw := some (.ofNat (counters .withdraw))
  revealPk := some (.ofNat (counters .revealPk))
  redelegate := some (.ofNat (counters .redelegation))
  signatures := some signatures
  txSize := some txSize

/-- The query that asks for the columns of a batch as they are compared. -/
def comparedQuery (estimate : GasEstimation) (signatures txSize : UInt64) : GasEstimateQuery :=
  askingFor (fun kind => counter estimate (compared kind)) signatures txSize

lemma requested_comparedQuery (hfits : CountsFit estimate) (signatures txSize : UInt64)
    {kind : TransactionKindDb} (hkind : kind ≠ .mixedTransfer) :
    ((comparedQuery estimate signatures txSize).requested kind).toNat =
      counter estimate (compared kind) := by
  have hcompared : compared kind ≠ .mixedTransfer := by
    cases kind <;> first | decide | contradiction
  have hlt : counter estimate (compared kind) < UInt64.size :=
    (hfits.counters _ hcompared).trans (by decide)
  cases kind <;> first | contradiction | exact UInt64.toNat_ofNat_of_lt' hlt

lemma requested_comparedQuery_lt (hfits : CountsFit estimate) (signatures txSize : UInt64)
    (kind : TransactionKindDb) :
    ((comparedQuery estimate signatures txSize).requested kind).toNat < 2^31 := by
  by_cases hkind : kind = .mixedTransfer
  · subst hkind
    exact Nat.two_pow_pos 31
  · rw [requested_comparedQuery hfits signatures txSize hkind]
    apply hfits.counters
    cases kind <;> first | decide | contradiction

/-- A window of signatures that has the count. -/
lemma inSignatureWindow_sub {count : ℕ} (hpos : count ≠ 0) :
    InSignatureWindow (max 1 (count-5)) count := by
  rw [InSignatureWindow,if_neg (by omega)]
  omega

lemma inSizeWindow_self {size : ℕ} (hsize : size < 2^31) : InSizeWindow size size := by
  unfold InSizeWindow
  split <;> omega

/-- The query whose window of signatures begins five below the batch's own. -/
lemma inRange_comparedQuery (hfits : CountsFit estimate) {size : ℕ} (hsize : size < 2^31) :
    (comparedQuery estimate (.ofNat (max 1 (estimate.signatures-5))) (.ofNat size)).InRange := by
  have hsignatures := hfits.signatures
  refine ⟨requested_comparedQuery_lt hfits _ _,?_,?_⟩
  · change (UInt64.ofNat _).toNat+5 < _
    rw [UInt64.toNat_ofNat_of_lt' (by change _ < 2^64; omega)]
    omega
  · change (UInt64.ofNat size).toNat < _
    rwa [UInt64.toNat_ofNat_of_lt' (by change _ < 2^64; omega)]

/-- It finds the batch if the window of its size does. -/
lemma finds_comparedQuery (hfits : CountsFit estimate) (hpos : estimate.signatures ≠ 0) {size : ℕ}
    (hsize : size < 2^31) (hwindow : InSizeWindow size estimate.size ∨
      ∃ k, size = 10*k ∧ estimate.size = 11*k+1 ∧ 2^Nat.log 2 (11*k) < 8*k) :
    (comparedQuery estimate (.ofNat (max 1 (estimate.signatures-5))) (.ofNat size)).Finds
      overflowChecks sdk estimate := by
  have hsignatures := hfits.signatures
  refine (finds_iff_of_inRange hfits (inRange_comparedQuery hfits hsize)).mpr ⟨?_,?_,?_⟩
  · exact fun kind hkind => (requested_comparedQuery hfits _ _ hkind).symm
  · change InSignatureWindow (UInt64.ofNat _).toNat _
    rw [UInt64.toNat_ofNat_of_lt' (by change _ < 2^64; omega)]
    exact inSignatureWindow_sub hpos
  · change InSizeWindow (UInt64.ofNat size).toNat _ ∨ ∃ k, (UInt64.ofNat size).toNat = _ ∧ _
    rwa [UInt64.toNat_ofNat_of_lt' (by change _ < 2^64; omega)]

end

/-- The batches for which the kinds that the layers confuse count alike. -/
structure CountsAgree (innerTxs : List InnerTransaction) : Prop where
  transparent : unitsOf .transparentTransfer innerTxs = unitsOf .ibcTransparentTransfer innerTxs
  shielding : unitsOf .ibcShieldingTransfer innerTxs = unitsOf .ibcUnshieldingTransfer innerTxs
  mixed : unitsOf .mixedTransfer innerTxs = 0

section
variable {overflowChecks : Bool} {sdk : Sdk} {batch : WrapperTransaction × List InnerTransaction}

/-- A batch that is found when its own columns are asked for has counters that agree. -/
lemma countsAgree_of_asksFor (hfits : CountsFit (estimateOf batch)) {signatures txSize : UInt64}
    (h : (comparedQuery (estimateOf batch) signatures txSize).AsksFor (estimateOf batch)) :
    CountsAgree batch.2 := by
  have hsame : ∀ kind ≠ .mixedTransfer, counter (estimateOf batch) (compared kind) =
      counter (estimateOf batch) kind := by
    intro kind hkind
    rw [←requested_comparedQuery hfits signatures txSize hkind,h.counters]
  simp only [counter_estimateOf] at hsame
  constructor
  · exact hsame .ibcTransparentTransfer (by decide)
  · exact hsame .ibcUnshieldingTransfer (by decide)
  · rw [←counter_estimateOf]
    exact h.counters .mixedTransfer

/-- Where the counters agree, a query asks for them as they are compared. -/
lemma counters_iff_of_countsAgree (hagree : CountsAgree batch.2) (query : GasEstimateQuery) :
    (∀ kind ≠ .mixedTransfer,
        counter (estimateOf batch) (compared kind) = (query.requested kind).toNat) ↔
      ∀ kind, counter (estimateOf batch) kind = (query.requested kind).toNat := by
  have hsame : ∀ kind, counter (estimateOf batch) (compared kind) =
      counter (estimateOf batch) kind := by
    intro kind
    rw [counter_estimateOf,counter_estimateOf]
    cases kind with
    | ibcTransparentTransfer => exact hagree.transparent
    | ibcShieldingTransfer => exact hagree.shielding.symm
    | ibcUnshieldingTransfer => exact hagree.shielding
    | _ => rfl
  simp only [hsame]
  constructor
  · intro h kind
    by_cases hkind : kind = .mixedTransfer
    · subst hkind
      rw [counter_estimateOf,hagree.mixed]
      rfl
    · exact h kind hkind
  · exact fun h kind _ => h kind

end

/-- The queries in range find an indexed batch exactly when they ask for it, if and only if it has
no signature, or as many transparent transfers as transparent IBC ones, as many notes of IBC
shielding transfers as of IBC unshielding ones, no notes of mixed transfers, and a size that the
rounding lets into no window. -/
theorem gas_estimates_found_iff {sdk : Sdk} {wrapperTx : WrapperTransaction}
    {innerTxs : List InnerTransaction} {estimate : GasEstimation}
    (h : getGasEstimates [(wrapperTx,innerTxs)] = [estimate]) (hfits : CountsFit estimate)
    (overflowChecks : Bool) :
    (∀ query : GasEstimateQuery, query.isValid = .ok () → query.InRange →
        (query.Finds overflowChecks sdk estimate ↔ query.AsksFor estimate)) ↔
      estimate.signatures = 0 ∨ CountsAgree innerTxs ∧ SizeExact estimate.size := by
  obtain ⟨-,rfl⟩ := getGasEstimates_singleton_iff.mp h
  set estimate := estimateOf (wrapperTx,innerTxs) with hestimate
  constructor
  · intro hfound
    by_cases hpos : estimate.signatures = 0
    · exact .inl hpos
    refine .inr ?_
    have hasks : ∀ size < 2^31, (InSizeWindow size estimate.size ∨
          ∃ k, size = 10*k ∧ estimate.size = 11*k+1 ∧ 2^Nat.log 2 (11*k) < 8*k) →
        (comparedQuery estimate (.ofNat (max 1 (estimate.signatures-5))) (.ofNat size)).AsksFor
          estimate := fun _ hsize hwindow =>
      (hfound _ rfl (inRange_comparedQuery hfits hsize)).mp
        (finds_comparedQuery hfits hpos hsize hwindow)
    refine ⟨countsAgree_of_asksFor hfits
      (hasks _ hfits.size (.inl (inSizeWindow_self hfits.size))),?_⟩
    intro k hk
    by_contra hlt
    have hsize := hfits.size
    have hwindow := (hasks (10*k) (by omega) (.inr ⟨k,rfl,hk,by omega⟩)).size
    change InSizeWindow (UInt64.ofNat (10*k)).toNat _ at hwindow
    rw [UInt64.toNat_ofNat_of_lt' (by change _ < 2^64; omega),InSizeWindow] at hwindow
    have hk0 : k ≠ 0 := by
      rintro rfl
      exact hlt (Nat.zero_le _)
    rw [if_neg (by omega)] at hwindow
    omega
  · rintro hbatch query - hrange
    rw [finds_iff_of_inRange hfits hrange]
    rcases hbatch with hunsigned | ⟨hagree,hexact⟩
    · -- every window of signatures begins above zero
      have hnone : ¬ InSignatureWindow (query.signatures.getD 2).toNat estimate.signatures := by
        rw [hunsigned,InSignatureWindow]
        split <;> omega
      exact ⟨fun hfinds => absurd hfinds.2.1 hnone,fun hasks => absurd hasks.signatures hnone⟩
    · have hnone : ¬ ∃ k, (query.txSize.getD 0).toNat = 10*k ∧ estimate.size = 11*k+1 ∧
          2^Nat.log 2 (11*k) < 8*k := by
        rintro ⟨k,-,hk,hlt⟩
        have hle := hexact k hk
        omega
      rw [or_iff_left hnone,counters_iff_of_countsAgree hagree]
      exact ⟨fun ⟨hcounters,hsignatures,hsize⟩ => ⟨hcounters,hsignatures,hsize⟩,
        fun hasks => ⟨hasks.counters,hasks.signatures,hasks.size⟩⟩

lemma toInt_asI32_ofNat {count : ℕ} (hcount : count < 2^31) :
    (asI32 (.ofNat (2^32+count))).toInt = count := by
  rw [asI32_eq_ofNat,UInt64.toNat_ofNat_of_lt' (by change _ < 2^64; omega),Int32.toInt_ofNat']
  unfold Int.bmod Int32.size
  dsimp only
  split <;> omega

/-- Beyond the range the bounds are cut to 32 bits: whatever a batch has, a query that asks for
other batches finds it. -/
theorem exists_wrapped_query {sdk : Sdk} {estimate : GasEstimation} (hfits : CountsFit estimate)
    (overflowChecks : Bool) :
    ∃ query : GasEstimateQuery, query.isValid = .ok () ∧
      (∀ kind, (query.requested kind).toNat < 2^31) ∧ query.Finds overflowChecks sdk estimate ∧
      ¬ query.AsksFor estimate := by
  have hcount := hfits.signatures
  have hsize := hfits.size
  set signatures := UInt64.ofNat (2^32+(estimate.signatures-5)) with hwrapped
  have hsignatures : signatures.toNat = 2^32+(estimate.signatures-5) :=
    UInt64.toNat_ofNat_of_lt' (by change _ < 2^64; omega)
  have hsized : (UInt64.ofNat estimate.size).toNat = estimate.size :=
    UInt64.toNat_ofNat_of_lt' (by change _ < 2^64; omega)
  refine ⟨comparedQuery estimate signatures (.ofNat estimate.size),rfl,
    requested_comparedQuery_lt hfits _ _,?_,?_⟩
  · refine (finds_iff hfits (requested_comparedQuery_lt hfits _ _)).mpr ⟨?_,?_,?_⟩
    · exact fun kind hkind => (requested_comparedQuery hfits _ _ hkind).symm
    · have hne : signatures ≠ 0 := by
        intro hzero
        rw [hzero,UInt64.toNat_zero] at hsignatures
        omega
      have hadd : addU64 overflowChecks signatures TX_SIGNATURES_WINDOW_UPPERBOUND =
          .returns (signatures+TX_SIGNATURES_WINDOW_UPPERBOUND) := by
        refine if_neg ?_
        rintro ⟨-,hge⟩
        change 2^64 ≤ signatures.toNat+5 at hge
        omega
      have hupper : signatures+TX_SIGNATURES_WINDOW_UPPERBOUND =
          .ofNat (2^32+((estimate.signatures-5)+5)) := by
        rw [hwrapped,←add_assoc,UInt64.ofNat_add (2^32+(estimate.signatures-5)) 5]
        rfl
      change ∃ bounds, signatureBounds overflowChecks signatures = .returns bounds ∧ _
      rw [signatureBounds,if_neg hne,hadd]
      refine ⟨_,rfl,?_⟩
      rw [between_ofNat hcount,hupper,hwrapped,toInt_asI32_ofNat (by omega),
        toInt_asI32_ofNat (by omega)]
      omega
    · change Between (txSizeBounds (.ofNat estimate.size)) _
      rw [txSizeBounds_window (by omega) hsize,hsized]
      exact .inl (inSizeWindow_self hsize)
  · rintro ⟨-,hwindow,-⟩
    change InSignatureWindow signatures.toNat _ at hwindow
    rw [hsignatures,InSignatureWindow,if_neg (by omega)] at hwindow
    omega

/-- A wrapper transaction with two signatures. -/
def signedWrapper : WrapperTransaction :=
  { lonelyWrapper with totalSignatures := 2, size := 1000 }

/-- A batch that only reveals a public key is found by every query that asks for it. -/
theorem gas_estimates_found_of_revealPk :
    ∃ estimate,
      getGasEstimates [(signedWrapper,[{ sentOsmo with kind := .revealPk none }])] = [estimate] ∧
      ∀ query : GasEstimateQuery, query.isValid = .ok () → query.InRange →
        (query.Finds true Sdk.sample estimate ↔ query.AsksFor estimate) := by
  have h : getGasEstimates [(signedWrapper,[{ sentOsmo with kind := .revealPk none }])] =
      [estimateOf (signedWrapper,[{ sentOsmo with kind := .revealPk none }])] := rfl
  refine ⟨_,h,(gas_estimates_found_iff h ?_ true).mpr (.inr ⟨?_,?_⟩)⟩
  · constructor
    · intro kind _
      cases kind <;> decide
    · decide
    · decide
  · constructor <;> rfl
  · intro k hk
    change 1000 = 11*k+1 at hk
    omega

/-- The query for a transaction with one transparent IBC transfer. -/
def ibcTransferQuery : GasEstimateQuery :=
  { askingFor (fun _ => 0) 2 0 with ibcTransparentTransfer := some 1 }

/-- It does not find the batch of `sentOsmo`, which is such a transaction. -/
theorem ibc_transfer_not_found :
    ∃ estimate, getGasEstimates [(signedWrapper,[sentOsmo])] = [estimate] ∧
      CountsFit estimate ∧ ibcTransferQuery.isValid = .ok () ∧ ibcTransferQuery.InRange ∧
      ibcTransferQuery.AsksFor estimate ∧ ¬ ibcTransferQuery.Finds true Sdk.sample estimate := by
  refine ⟨_,rfl,⟨?_,by decide,by decide⟩,rfl,⟨?_,by decide,by decide⟩,⟨?_,?_,?_⟩,?_⟩
  · intro kind _
    cases kind <;> decide
  · intro kind
    cases kind <;> decide
  · intro kind
    cases kind <;> rfl
  · exact ⟨by decide,by decide⟩
  · change 1000 ≤ 100000
    omega
  · rintro ⟨_,_,_,_,_,_,_,_,_,_,_,_,_,hcolumn,_⟩
    exact absurd hcolumn (by decide)

end NamadaIndexer.Webserver
