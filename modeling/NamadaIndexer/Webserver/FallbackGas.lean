import NamadaIndexer.Webserver.Gas

/-! The estimate of the gas endpoint for queries that no indexed batch answers. -/
namespace NamadaIndexer.Webserver
open NamadaIndexer.Foundation NamadaIndexer.Shared NamadaIndexer.Transactions

/-- No indexed batch that the query selects has a known gas. -/
def FallsBack (overflowChecks : Bool) (db : Db) (query : GasEstimateQuery) : Prop :=
  ∀ found, query.arguments (findGasEstimates overflowChecks db) = .returns found → found.1 = none

/-- The kinds that a query has a counter for. -/
def requestable : List TransactionKindDb :=
  [.bond,.claimRewards,.unbond,.transparentTransfer,.shieldedTransfer,.shieldingTransfer,
    .unshieldingTransfer,.voteProposal,.ibcShieldingTransfer,.ibcUnshieldingTransfer,
    .ibcTransparentTransfer,.withdraw,.revealPk,.redelegation]

/-- The default gas of all that a query asks for. -/
def GasEstimateQuery.gasByTable (query : GasEstimateQuery) : ℕ :=
  (requestable.map fun kind => (query.requested kind).toNat * (getGasByTxKind kind).toNat).sum

/-- The query asks for no redelegation and no transparent IBC transfer, for no more gas than can be
told, and for no more signatures than can be counted. -/
structure GasEstimateQuery.Covered (overflowChecks : Bool) (query : GasEstimateQuery) : Prop where
  redelegate : query.requested .redelegation = 0
  ibcTransparentTransfer : query.requested .ibcTransparentTransfer = 0
  fits : query.gasByTable < 2^64
  signatures : overflowChecks = true → (query.signatures.getD 2).toNat + 5 < 2^64

section
variable {overflowChecks : Bool} {query : GasEstimateQuery} {db : Db}

/-- The counters with their prices, in the order in which they are added up. -/
def GasEstimateQuery.charged (query : GasEstimateQuery) : List (UInt64 × UInt64) :=
  [(query.bond.getD 0,getGasByTxKind .bond),
    (query.claimRewards.getD 0,getGasByTxKind .claimRewards),
    (query.unbond.getD 0,getGasByTxKind .unbond),
    (query.transparentTransfer.getD 0,getGasByTxKind .transparentTransfer),
    (query.shieldedTransfer.getD 0,getGasByTxKind .shieldedTransfer),
    (query.shieldingTransfer.getD 0,getGasByTxKind .shieldingTransfer),
    (query.unshieldingTransfer.getD 0,getGasByTxKind .unshieldingTransfer),
    (query.vote.getD 0,getGasByTxKind .voteProposal),
    (query.ibcUnshieldingTransfer.getD 0,getGasByTxKind .ibcShieldingTransfer),
    (query.ibcShieldingTransfer.getD 0,getGasByTxKind .ibcUnshieldingTransfer),
    (query.withdraw.getD 0,getGasByTxKind .withdraw),
    (query.revealPk.getD 0,getGasByTxKind .revealPk)]

/-- The sum for a query, with its counters in the places where the handler puts them. -/
lemma fallbackEstimate_eq (overflowChecks : Bool) (query : GasEstimateQuery) :
    (query.arguments fun bond _ claimRewards unbond transparentTransfer shieldedTransfer
        shieldingTransfer unshieldingTransfer vote ibcShieldingTransfer ibcUnshieldingTransfer _
        withdraw revealPk _ _ =>
      fallbackEstimate overflowChecks bond claimRewards unbond transparentTransfer shieldedTransfer
        shieldingTransfer unshieldingTransfer vote ibcShieldingTransfer ibcUnshieldingTransfer
        withdraw revealPk) =
      query.charged.foldlM
        (fun total entry => addProduct overflowChecks total entry.1 entry.2) 0 := by
  simp only [GasEstimateQuery.arguments,fallbackEstimate,GasEstimateQuery.charged,
    List.foldlM_cons,List.foldlM_nil,bind_pure]

/-- The kinds whose counters are added up. -/
def chargedKinds : List TransactionKindDb :=
  [.bond,.claimRewards,.unbond,.transparentTransfer,.shieldedTransfer,.shieldingTransfer,
    .unshieldingTransfer,.voteProposal,.ibcUnshieldingTransfer,.ibcShieldingTransfer,.withdraw,
    .revealPk]

/-- The two counters that the handler exchanges have one price. -/
lemma charged_eq (query : GasEstimateQuery) :
    query.charged = chargedKinds.map fun kind => (query.requested kind,getGasByTxKind kind) := rfl

/-- Two counters are left out. -/
lemma gasByTable_eq (query : GasEstimateQuery) :
    query.gasByTable = sumOfProducts query.charged +
      (query.requested .ibcTransparentTransfer).toNat * 50000 +
      (query.requested .redelegation).toNat * 100000 := by
  have hperm : requestable.Perm (chargedKinds ++ [.ibcTransparentTransfer,.redelegation]) := by
    decide
  have hibc : (getGasByTxKind .ibcTransparentTransfer).toNat = 50000 := rfl
  have hredelegation : (getGasByTxKind .redelegation).toNat = 100000 := rfl
  have hsum : sumOfProducts query.charged = (chargedKinds.map fun kind =>
      (query.requested kind).toNat * (getGasByTxKind kind).toNat).sum := by
    rw [charged_eq,sumOfProducts,List.map_map]
    rfl
  rw [GasEstimateQuery.gasByTable,(hperm.map _).sum_eq,List.map_append,List.sum_append,←hsum,
    add_assoc,List.map_cons,List.map_cons,List.map_nil,List.sum_cons,List.sum_cons,List.sum_nil,
    hibc,hredelegation,add_zero]

/-- The statements that a query passes before the sum are the bounds of the signatures, and the
answer is the sum. -/
lemma getGasEstimate_of_fallsBack (hvalid : query.isValid = .ok ())
    (h : FallsBack overflowChecks db query) :
    getGasEstimate overflowChecks db query = do
      let _ ← signatureBounds overflowChecks (query.signatures.getD 2)
      let estimate ← query.charged.foldlM
        (fun total entry => addProduct overflowChecks total entry.1 entry.2) 0
      return .ok ⟨estimate,estimate,estimate,0⟩ := by
  rw [getGasEstimate,hvalid,←fallbackEstimate_eq]
  unfold FallsBack GasEstimateQuery.arguments findGasEstimates at h
  unfold GasEstimateQuery.arguments estimateGas findGasEstimates
  cases hbounds : signatureBounds overflowChecks (query.signatures.getD 2) with
  | panics message => simp
  | returns bounds =>
    rw [hbounds] at h
    have hnone := h _ rfl
    dsimp only at hnone
    simp only [Panicking.returns_bind,Panicking.pure_eq,hnone,Option.map_none]
    rw [map_bind]
    rfl

/-- The bounds of the signatures are computed unless five more are too many. -/
lemma signatureBounds_returns_iff {signatures : UInt64} :
    (signatureBounds overflowChecks signatures).Returns ↔
      (overflowChecks = true → signatures.toNat + 5 < 2^64) := by
  unfold signatureBounds
  by_cases hzero : signatures = 0
  · subst hzero
    rw [if_pos rfl]
    exact iff_of_true (Panicking.returns_returns _) fun _ => by decide
  · rw [if_neg hzero,Panicking.returns_bind_iff]
    unfold addU64
    change (∃ upper, (if overflowChecks = true ∧ 2^64 ≤ signatures.toNat + 5 then _ else _) = _ ∧
      _) ↔ _
    split
    · rename_i hover
      refine iff_of_false ?_ fun hfits => absurd (hfits hover.1) (by omega)
      rintro ⟨upper,hupper,-⟩
      contradiction
    · rename_i hfits
      refine iff_of_true ⟨_,rfl,Panicking.returns_returns _⟩ ?_
      intro hchecks
      exact lt_of_not_ge fun hge => hfits ⟨hchecks,hge⟩

end

/-- Where no batch answers a query, the estimate is computed, with overflow checks or without, and
is the default gas of everything requested, if and only if the query is covered. -/
theorem fallback_gas_exact_iff {db : Db} {query : GasEstimateQuery} {overflowChecks : Bool}
    (hvalid : query.isValid = .ok ()) (hfallback : FallsBack overflowChecks db query) :
    (∃ estimate, getGasEstimate overflowChecks db query =
        .returns (.ok ⟨estimate,estimate,estimate,0⟩) ∧
      estimate.toNat = query.gasByTable) ↔ query.Covered overflowChecks := by
  have htable := gasByTable_eq query
  rw [getGasEstimate_of_fallsBack hvalid hfallback]
  constructor
  · rintro ⟨estimate,hanswer,hexact⟩
    obtain ⟨bounds,hbounds,hanswer⟩ := Panicking.bind_eq_returns.mp hanswer
    obtain ⟨sum,hsum,hanswer⟩ := Panicking.bind_eq_returns.mp hanswer
    obtain rfl : sum = estimate := by
      cases hanswer
      rfl
    have hbound := toNat_foldl_le query.charged 0
    rw [←foldlM_addProduct_returns hsum,hexact,UInt64.toNat_zero] at hbound
    have hlt := sum.toNat_lt
    refine ⟨?_,?_,by omega,signatureBounds_returns_iff.mp ⟨bounds,hbounds⟩⟩
    · rw [←UInt64.toNat_inj,UInt64.toNat_zero]
      omega
    · rw [←UInt64.toNat_inj,UInt64.toNat_zero]
      omega
  · rintro ⟨hredelegate,hibc,hfits,hsignatures⟩
    rw [hredelegate,hibc,UInt64.toNat_zero] at htable
    have hsum : (0 : UInt64).toNat + sumOfProducts query.charged < 2^64 := by
      rw [UInt64.toNat_zero]
      omega
    obtain ⟨bounds,hbounds⟩ := signatureBounds_returns_iff.mpr hsignatures
    obtain ⟨estimate,hreturns,hexact⟩ := foldlM_addProduct_of_lt overflowChecks hsum
    refine ⟨estimate,?_,?_⟩
    · rw [hbounds,hreturns]
      rfl
    · rw [hexact,htable,UInt64.toNat_zero]
      omega

/-- An empty database answers no query. -/
lemma fallsBack_empty (overflowChecks : Bool) (query : GasEstimateQuery) :
    FallsBack overflowChecks (.empty []) query := by
  rintro found hfound
  obtain ⟨bounds,-,hfound⟩ := Panicking.bind_eq_returns.mp hfound
  cases hfound
  simp [Db.empty]

/-- The query for one redelegation. -/
def redelegationQuery : GasEstimateQuery :=
  ⟨none,none,none,none,none,none,none,none,none,none,none,none,none,some 1,none,none⟩

theorem redelegation_is_free :
    redelegationQuery.isValid = .ok () ∧
      ∀ overflowChecks, FallsBack overflowChecks (.empty []) redelegationQuery ∧
        ¬ ∃ estimate, getGasEstimate overflowChecks (.empty []) redelegationQuery =
            .returns (.ok ⟨estimate,estimate,estimate,0⟩) ∧
          estimate.toNat = redelegationQuery.gasByTable := by
  refine ⟨rfl,fun overflowChecks => ⟨fallsBack_empty overflowChecks redelegationQuery,?_⟩⟩
  rintro ⟨estimate,hanswer,hexact⟩
  rw [getGasEstimate_of_fallsBack rfl (fallsBack_empty _ _)] at hanswer
  obtain ⟨bounds,-,hanswer⟩ := Panicking.bind_eq_returns.mp hanswer
  obtain ⟨sum,hsum,hanswer⟩ := Panicking.bind_eq_returns.mp hanswer
  cases hanswer
  rw [foldlM_addProduct_returns hsum] at hexact
  revert hexact
  decide

/-- A query for two bonds and a revealed key is answered in full. -/
theorem bonds_and_key_answered :
    ∃ estimate, getGasEstimate true (.empty []) { redelegationQuery with
        redelegate := none, bond := some 2, revealPk := some 1 } =
          .returns (.ok ⟨estimate,estimate,estimate,0⟩) ∧
      estimate.toNat = { redelegationQuery with
        redelegate := none, bond := some 2, revealPk := some 1 }.gasByTable :=
  (fallback_gas_exact_iff rfl (fallsBack_empty true _)).mpr
    ⟨rfl,rfl,by decide,fun _ => by decide⟩

end NamadaIndexer.Webserver
