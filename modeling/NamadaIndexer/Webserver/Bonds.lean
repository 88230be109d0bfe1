import NamadaIndexer.Pos.Stakes
import NamadaIndexer.Webserver.EpochTimes
import NamadaIndexer.Webserver.PosViews

/-! The bonds, unbonds and withdrawals that are listed for an address, after any run of the
crawlers, beside the merged views of the same rows. The queries are those of all pages together. -/
namespace NamadaIndexer.Webserver
open NamadaIndexer.Foundation NamadaIndexer.Foundation.Runs NamadaIndexer.Shared
open NamadaIndexer.Chain (BondDb ChainDb Context UnbondDb ValidatorDb)
open NamadaIndexer.Pos (BondStored EpochCrawlerStateDb Referential StakingDb Transaction
  UnbondStored validatorEvents)

inductive BondStatus
  | active
  | inactive
  deriving DecidableEq, Repr

structure Bond where
  minDenomAmount : Amount
  validator : ValidatorWithRank
  status : BondStatus
  startEpoch : UInt64
  deriving DecidableEq, Repr

structure Withdraw where
  minDenomAmount : Amount
  validator : ValidatorWithRank
  withdrawEpoch : UInt64
  deriving DecidableEq, Repr

/-- `From<(&BondDb, &EpochCrawlerStateDb)> for BondStatus` -/
def BondStatus.fromDb (bond : BondDb) (status : EpochCrawlerStateDb) : BondStatus :=
  if bond.start ≤ status.lastProcessedEpoch then .active else .inactive

/-- `Bond::from` -/
def Bond.fromDb (dbBond : BondDb) (status : BondStatus) (dbValidator : ValidatorDb) : Bond where
  minDenomAmount := .fromBigDecimal (.fromAmount dbBond.rawAmount)
  validator := ⟨dbValidator,none⟩
  status := status
  startEpoch := asU64 dbBond.start

/-- `Withdraw::from` -/
def Withdraw.fromDb (dbUnbond : UnbondDb) (dbValidator : ValidatorDb) : Withdraw where
  minDenomAmount := .fromBigDecimal (.fromAmount dbUnbond.rawAmount)
  validator := ⟨dbValidator,none⟩
  withdrawEpoch := asU64 dbUnbond.withdrawEpoch

/-- `validators::table.inner_join(..).filter(..)`, where the condition is on the other table. -/
def joinValidators {ρ : Type} (validators : List ValidatorDb) (validator : ρ → String)
    (rows : List ρ) (chosen : ρ → Bool) : List (ValidatorDb × ρ) :=
  (innerJoin (fun v row => decide (v.namadaAddress = validator row)) validators rows).filter
    fun row => chosen row.2

section
variable (db : ChainDb) (address : String)

/-- `find_bonds_by_address` -/
def findBondsByAddress (activeAt : Option Int32) : List (ValidatorDb × BondDb) :=
  joinValidators db.validators.rows (·.validator) db.bonds.rows fun bond =>
    activeAt.all (fun epoch => bond.start ≤ epoch) && decide (bond.address = address)

/-- `find_unbonds_by_address` -/
def findUnbondsByAddress (activeAt : Option Int32) : List (ValidatorDb × UnbondDb) :=
  joinValidators db.validators.rows (·.validator) db.unbonds.rows fun unbond =>
    activeAt.all (fun epoch => unbond.withdrawEpoch < epoch) && decide (unbond.address = address)

/-- `find_withdraws_by_address` -/
def findWithdrawsByAddress (currentEpoch : Int32) : List (ValidatorDb × UnbondDb) :=
  joinValidators db.validators.rows (·.validator) db.unbonds.rows fun unbond =>
    decide (unbond.address = address) && decide (unbond.withdrawEpoch ≤ currentEpoch)

/-- `get_bonds_by_address` -/
def getBondsByAddress (posState : EpochCrawlerStateDb) (activeAt : Option Int32) : List Bond :=
  (findBondsByAddress db address activeAt).map fun row =>
    .fromDb row.2 (.fromDb row.2 posState) row.1

/-- `get_unbonds_by_address` -/
def getUnbondsByAddress (overflowChecks : Bool) (delay : UInt32) (chainState : ChainCrawlerStateDb)
    (maxBlockTime minDuration : Int32) (activeAt : Option Int32) : Panicking (List Unbond) :=
  (findUnbondsByAddress db address activeAt).mapM fun row =>
    Unbond.fromDb overflowChecks delay chainState maxBlockTime minDuration (.fromAmount row.2.rawAmount)
      row.2.withdrawEpoch row.1

/-- `get_withdraws_by_address`. Without an epoch in the request, the chain state is read for one. -/
def getWithdrawsByAddress (chainState : ChainCrawlerStateDb) (epoch : Option UInt64) :
    List Withdraw :=
  (findWithdrawsByAddress db address ((epoch.map asI32).getD chainState.lastProcessedEpoch)).map
    fun row => .fromDb row.2 row.1

end

/-- The tables that the merged views are made from. -/
def posTables (db : ChainDb) (h : Referential db) : PosTables where
  validators := db.validators
  bonds := db.bonds
  unbonds := db.unbonds
  redelegations := db.redelegations
  bonds_refer := h.bonds
  unbonds_refer := h.unbonds

section
variable {ρ : Type} {validators : Table ValidatorDb.namadaAddress}
  {validator : ρ → String} {rows : List ρ} {chosen : ρ → Bool}

lemma mem_joinValidators {row : ValidatorDb × ρ} :
    row ∈ joinValidators validators.rows validator rows chosen ↔
      validators.find? (validator row.2) = some row.1 ∧ row.2 ∈ rows ∧ chosen row.2 := by
  rw [joinValidators,List.mem_filter,mem_innerJoin,Table.find?_eq_some,decide_eq_true_eq]
  tauto

/-- Where every row refers to a validator, none is dropped or doubled. -/
lemma map_snd_joinValidators (h : ∀ row ∈ rows, validator row ∈ validators.keys) :
    ((joinValidators validators.rows validator rows chosen).map Prod.snd).Perm
      (rows.filter chosen) := by
  refine map_snd_filter_innerJoin_perm (fun row hrow => ?_) chosen
  exact Table.length_filter_key (h row hrow)

/-- What is summed up over the rows of one validator is a sum over the table. -/
lemma sum_joinValidators (h : ∀ row ∈ rows, validator row ∈ validators.keys) (address : String)
    (f : ρ → ℕ) :
    (((joinValidators validators.rows validator rows chosen).filter
      fun row => row.1.namadaAddress = address).map fun row => f row.2).sum =
    (((rows.filter chosen).filter fun row => validator row = address).map f).sum := by
  have hsame : (joinValidators validators.rows validator rows chosen).filter
        (fun row => decide (row.1.namadaAddress = address)) =
      (joinValidators validators.rows validator rows chosen).filter
        fun row => decide (validator row.2 = address) := by
    refine List.filter_congr fun row hrow => ?_
    rw [(Table.find?_eq_some.mp (mem_joinValidators.mp hrow).1).2]
  have hrows : ((joinValidators validators.rows validator rows chosen).map Prod.snd).Perm
      (rows.filter chosen) := map_snd_joinValidators h
  have hperm := (hrows.filter fun row => decide (validator row = address)).map f
  rw [List.filter_map,List.map_map] at hperm
  rw [hsame,←hperm.sum_eq]
  rfl

end

section
variable {ctx : Context} {transactions : List Transaction} {db : StakingDb} {address : String}
  (hrun : execute (Transaction.step ctx) .empty transactions = some db)
include hrun

lemma mem_getBondsByAddress {posState : EpochCrawlerStateDb} {activeAt : Option Int32}
    {bond : Bond} :
    bond ∈ getBondsByAddress db.chain address posState activeAt ↔
      ∃ row validator, BondStored ctx row transactions ∧ row.address = address ∧
        (∀ epoch, activeAt = some epoch → row.start ≤ epoch) ∧
        Pos.recorded ctx row.validator (transactions.flatMap (validatorEvents ctx)) =
          some validator ∧
        bond = .fromDb row (.fromDb row posState) validator := by
  rw [getBondsByAddress,List.mem_map]
  simp only [findBondsByAddress,Prod.exists,mem_joinValidators,Pos.find?_eq_recorded hrun,
    Pos.mem_bonds_iff hrun,Bool.and_eq_true,decide_eq_true_eq,Option.all_eq_true]
  constructor
  · rintro ⟨validator,row,⟨hvalidator,hrow,hstart,haddress⟩,rfl⟩
    exact ⟨row,validator,hrow,haddress,hstart,hvalidator,rfl⟩
  · rintro ⟨row,validator,hrow,haddress,hstart,hvalidator,rfl⟩
    exact ⟨validator,row,⟨hvalidator,hrow,hstart,haddress⟩,rfl⟩

lemma mem_getWithdrawsByAddress {chainState : ChainCrawlerStateDb} {epoch : Option UInt64}
    {withdraw : Withdraw} :
    withdraw ∈ getWithdrawsByAddress db.chain address chainState epoch ↔
      ∃ row validator, UnbondStored ctx row transactions ∧ row.address = address ∧
        row.withdrawEpoch ≤ (epoch.map asI32).getD chainState.lastProcessedEpoch ∧
        Pos.recorded ctx row.validator (transactions.flatMap (validatorEvents ctx)) =
          some validator ∧
        withdraw = .fromDb row validator := by
  rw [getWithdrawsByAddress,List.mem_map]
  simp only [findWithdrawsByAddress,Prod.exists,mem_joinValidators,Pos.find?_eq_recorded hrun,
    Pos.mem_unbonds_iff hrun,Bool.and_eq_true,decide_eq_true_eq]
  constructor
  · rintro ⟨validator,row,⟨hvalidator,hrow,haddress,hepoch⟩,rfl⟩
    exact ⟨row,validator,hrow,haddress,hepoch,hvalidator,rfl⟩
  · rintro ⟨row,validator,hrow,haddress,hepoch,hvalidator,rfl⟩
    exact ⟨validator,row,⟨hvalidator,hrow,haddress,hepoch⟩,rfl⟩

end

lemma exists_bondedRun :
    ∃ db, execute (Transaction.step (Chain.sampleContext bondTx)) .empty Pos.bondedRun = some db :=
  Option.isSome_iff_exists.mp (by decide +kernel)

/-- The row of v1 after its set was stored. -/
def rowOfV1 : ValidatorDb := ⟨"tnam1qv1",0,"0","0",none,none,none,none,none,none,.consensus⟩

instance : Inhabited Unbond := ⟨⟨0,⟨plainValidator,none⟩,0,0,false⟩⟩

/-- What an unbond and a withdrawal both show. -/
def Unbond.asWithdraw (unbond : Unbond) : Withdraw :=
  ⟨unbond.minDenomAmount,unbond.validator,unbond.withdrawEpoch⟩

section
variable {overflowChecks : Bool} {delay : UInt32} {chainState : ChainCrawlerStateDb}
  {maxBlockTime minDuration : Int32} {db : ChainDb} {address : String}

/-- An unbond that has a time shows the row, and whether it can be withdrawn. -/
lemma Unbond.fromDb_eq_returns {row : ValidatorDb × UnbondDb} {unbond : Unbond}
    (h : Unbond.fromDb overflowChecks delay chainState maxBlockTime minDuration
      (.fromAmount row.2.rawAmount) row.2.withdrawEpoch row.1 = .returns unbond) :
    unbond.asWithdraw = .fromDb row.2 row.1 ∧
      unbond.canWithdraw = decide (row.2.withdrawEpoch ≤ chainState.lastProcessedEpoch) := by
  unfold Unbond.fromDb at h
  simp only [Panicking.bind_eq_returns] at h
  obtain ⟨_,-,_,-,_,-,_,-,h⟩ := h
  obtain rfl := Panicking.returns.inj h
  exact ⟨rfl,rfl⟩

/-- The unbonds that are shown, restricted to those that can be withdrawn or not. -/
lemma filter_getUnbondsByAddress {activeAt : Option Int32} {shown : List Unbond}
    (h : getUnbondsByAddress db address overflowChecks delay chainState maxBlockTime minDuration
      activeAt = .returns shown) :
    (shown.filter (·.canWithdraw)).map Unbond.asWithdraw =
      ((findUnbondsByAddress db address activeAt).filter fun row =>
        decide (row.2.withdrawEpoch ≤ chainState.lastProcessedEpoch)).map fun row =>
          .fromDb row.2 row.1 := by
  obtain ⟨g,hg,rfl⟩ := Panicking.exists_map_of_mapM_returns h
  have hrow := fun row hrow => Unbond.fromDb_eq_returns (hg row hrow)
  have hfilter : (findUnbondsByAddress db address activeAt).filter ((·.canWithdraw) ∘ g) =
      (findUnbondsByAddress db address activeAt).filter fun row =>
        decide (row.2.withdrawEpoch ≤ chainState.lastProcessedEpoch) :=
    List.filter_congr fun row hmem => (hrow row hmem).2
  rw [List.filter_map,List.map_map,hfilter]
  exact List.map_congr_left fun row hmem => (hrow row (List.mem_of_mem_filter hmem)).1

/-- The unbonds that can be withdrawn, if any epoch is asked for those of an earlier one, are
withdrawals. -/
lemma withdrawable_getUnbondsByAddress {shown : List Unbond}
    (h : getUnbondsByAddress db address overflowChecks delay chainState maxBlockTime minDuration
      none = .returns shown) :
    (shown.filter (·.canWithdraw)).map Unbond.asWithdraw =
      getWithdrawsByAddress db address chainState none := by
  rw [filter_getUnbondsByAddress h,findUnbondsByAddress,joinValidators,List.filter_filter,
    getWithdrawsByAddress,findWithdrawsByAddress,joinValidators]
  refine congrArg _ (List.filter_congr fun row _ => ?_)
  simp [Bool.and_comm]

/-- The unbonds that are active at the last epoch can all be withdrawn; those of that epoch itself
are missing among them. -/
lemma active_getUnbondsByAddress {shown : List Unbond}
    (h : getUnbondsByAddress db address overflowChecks delay chainState maxBlockTime minDuration
      (some chainState.lastProcessedEpoch) = .returns shown) :
    (shown.filter (·.canWithdraw)).map Unbond.asWithdraw =
      (getWithdrawsByAddress db address chainState none).filter
        (·.withdrawEpoch ≠ asU64 chainState.lastProcessedEpoch) := by
  rw [filter_getUnbondsByAddress h,findUnbondsByAddress,joinValidators,List.filter_filter,
    getWithdrawsByAddress,List.filter_map,findWithdrawsByAddress,joinValidators,List.filter_filter]
  refine congrArg _ (List.filter_congr fun row _ => ?_)
  rw [Bool.eq_iff_iff]
  simp only [Option.all_some,Bool.and_eq_true,decide_eq_true_eq,Function.comp_apply,
    Withdraw.fromDb,Option.map_none,Option.getD_none,ne_eq]
  constructor
  · rintro ⟨hle,hlt,haddress⟩
    refine ⟨fun hsame => ?_,haddress,hle⟩
    rw [asU64_injective hsame] at hlt
    exact Int32.lt_irrefl hlt
  · rintro ⟨hne,haddress,hle⟩
    exact ⟨hle,Int32.lt_of_le_of_ne hle fun hsame => hne (congrArg _ hsame),haddress⟩

end

section
variable {tables : PosTables} {address : String} {currentEpoch : Int32}

/-- The epoch that a group shows is the one of its key. -/
lemma shownEpoch_unbondGroup {group : (String × ValidatorDb × Int32) × List (ValidatorDb × UnbondDb)}
    (h : group ∈ unbondGroups currentEpoch tables address) :
    shownEpoch currentEpoch (group.2.map Prod.snd) = group.1.2.2 := by
  obtain ⟨hkey,hrows⟩ := mem_groupBy.mp h
  obtain ⟨row,hrow,hsame⟩ := List.mem_map.mp hkey
  have hmem : row ∈ group.2 := by
    rw [hrows]
    exact List.mem_filter.mpr ⟨hrow,decide_eq_true hsame⟩
  refine shownEpoch_eq (List.ne_nil_of_mem (List.mem_map_of_mem hmem)) fun unbond hunbond => ?_
  obtain ⟨other,hother,rfl⟩ := List.mem_map.mp hunbond
  rw [hrows] at hother
  have hkey := of_decide_eq_true (List.mem_filter.mp hother).2
  exact congrArg (fun key => key.2.2) hkey

/-- From the epoch zero on, the group zero is the one of the unbonds that can be withdrawn. -/
lemma withdrawGroup_eq_zero_iff (h : 0 ≤ currentEpoch) {unbond : UnbondDb} :
    withdrawGroup currentEpoch unbond = 0 ↔ unbond.withdrawEpoch ≤ currentEpoch := by
  unfold withdrawGroup
  by_cases hle : unbond.withdrawEpoch ≤ currentEpoch
  · rw [if_pos hle]
    exact iff_of_true rfl hle
  · rw [if_neg hle]
    exact iff_of_false (fun hzero => hle (hzero ▸ h)) hle

lemma sum_withdrawable (h : 0 ≤ currentEpoch) (validator : String) :
    (((findMergedUnbondsByAddress currentEpoch tables address).filter fun row =>
      decide (row.validator.namadaAddress = validator) && decide (row.withdrawEpoch = 0)).map
        (·.rawAmount)).sum =
    (((tables.unbondsOf address).filter fun unbond =>
      decide (unbond.validator = validator) &&
        decide (unbond.withdrawEpoch ≤ currentEpoch)).map (·.rawAmount.val)).sum := by
  have hgroups : (unbondGroups currentEpoch tables address).filter (fun group =>
        decide (group.1.2.1.namadaAddress = validator) &&
          decide (shownEpoch currentEpoch (group.2.map Prod.snd) = 0)) =
      (unbondGroups currentEpoch tables address).filter fun group =>
        decide (group.1.2.1.namadaAddress = validator) && decide (group.1.2.2 = 0) := by
    refine List.filter_congr fun group hgroup => ?_
    rw [shownEpoch_unbondGroup hgroup]
  rw [findMergedUnbondsByAddress,List.filter_map,List.map_map]
  simp only [Function.comp_def]
  rw [hgroups]
  refine sum_groupBy_join map_snd_joinedUnbonds
    (fun k : String × ValidatorDb × Int32 =>
      decide (k.2.1.namadaAddress = validator) && decide (k.2.2 = 0))
    (fun row hrow => ?_) fun unbond => unbond.rawAmount.val
  rw [(mem_joinedUnbonds.mp hrow).2.2,decide_eq_decide.mpr (withdrawGroup_eq_zero_iff h)]

end

/-- Two unbonds of alice are stored, of which one can be withdrawn at the epoch four. -/
def unbondedRun : List Transaction :=
  [.validatorSet [⟨Pos.v1,"0","0","0",none,none,none,none,none,none,.consensus⟩] 1,
    .block { Pos.bondedGathered [] with
      unbonds := [⟨Pos.alice,Pos.v1,3,2⟩,⟨Pos.alice,Pos.v1,5,9⟩] } true]

end NamadaIndexer.Webserver
