import NamadaIndexer.Foundation.Queries
import NamadaIndexer.Chain.Repository

/-! The merged bonds and unbonds of an address, as two queries sum them up. A validator has one row
of bonds, because an address has one redelegation to it; and the unbonds that can be withdrawn
share the group of the epoch zero. -/
namespace NamadaIndexer.Webserver
open NamadaIndexer.Foundation NamadaIndexer.Shared NamadaIndexer.Chain

/-- The tables of proof of stake, with the foreign keys of the bonds and the unbonds. -/
structure PosTables where
  validators : Table ValidatorDb.namadaAddress
  bonds : Table BondDb.key
  unbonds : Table UnbondDb.key
  redelegations : Table RedelegationDb.key
  bonds_refer : ∀ bond ∈ bonds.rows, bond.validator ∈ validators.keys
  unbonds_refer : ∀ unbond ∈ unbonds.rows, unbond.validator ∈ validators.keys

/-- A row of the merged bonds. -/
structure MergedBondDb where
  address : String
  validator : ValidatorDb
  redelegationEndEpoch : Option Int32
  rawAmount : ℕ
  deriving DecidableEq, Repr

/-- A row of the merged unbonds. -/
structure MergedUnbondDb where
  address : String
  validator : ValidatorDb
  rawAmount : ℕ
  withdrawEpoch : Int32
  deriving DecidableEq, Repr

namespace PosTables
variable (tables : PosTables) (address : String)

def bondsOf : List BondDb := tables.bonds.rows.filter fun bond => bond.address = address

def unbondsOf : List UnbondDb := tables.unbonds.rows.filter fun unbond => unbond.address = address

/-- Every validator, with the redelegation of the address to it. -/
def redelegated : List (ValidatorDb × Option RedelegationDb) :=
  leftJoin (fun validator redelegation => validator.namadaAddress = redelegation.validator &&
    redelegation.delegator = address) tables.validators.rows tables.redelegations.rows

/-- The rows that `find_merged_bonds_by_address` groups. -/
def joinedBonds : List ((ValidatorDb × Option RedelegationDb) × BondDb) :=
  (innerJoin (fun row bond => row.1.namadaAddress = bond.validator) (tables.redelegated address)
    tables.bonds.rows).filter fun row => row.2.address = address

/-- `find_merged_bonds_by_address`, all of its pages. A validator in the key stands for its id. -/
def findMergedBondsByAddress : List MergedBondDb :=
  (groupBy (fun row => (row.2.address,row.1.1,row.1.2.map (·.endEpoch)))
    (tables.joinedBonds address)).map fun group =>
      ⟨group.1.1,group.1.2.1,group.1.2.2,(group.2.map fun row => row.2.rawAmount.val).sum⟩

/-- The rows that `find_merged_unbonds_by_address` groups. -/
def joinedUnbonds : List (ValidatorDb × UnbondDb) :=
  (innerJoin (fun validator unbond => validator.namadaAddress = unbond.validator)
    tables.validators.rows tables.unbonds.rows).filter fun row => row.2.address = address

end PosTables

section
variable (currentEpoch : Int32)

/-- `CASE WHEN withdraw_epoch <= current THEN 0 ELSE withdraw_epoch END` -/
def withdrawGroup (unbond : UnbondDb) : Int32 :=
  if unbond.withdrawEpoch ≤ currentEpoch then 0 else unbond.withdrawEpoch

/-- `CASE WHEN MIN(withdraw_epoch) <= current THEN 0 ELSE MAX(withdraw_epoch) END` -/
def shownEpoch (unbonds : List UnbondDb) : Int32 :=
  match (unbonds.map (·.withdrawEpoch)).min?,(unbonds.map (·.withdrawEpoch)).max? with
  | some least,some greatest => if least ≤ currentEpoch then 0 else greatest
  | _,_ => 0

variable (tables : PosTables) (address : String)

/-- The groups of `find_merged_unbonds_by_address`. -/
def unbondGroups : List ((String × ValidatorDb × Int32) × List (ValidatorDb × UnbondDb)) :=
  groupBy (fun row => (row.2.address,row.1,withdrawGroup currentEpoch row.2))
    (tables.joinedUnbonds address)

/-- `find_merged_unbonds_by_address`, all of its pages. -/
def findMergedUnbondsByAddress : List MergedUnbondDb :=
  (unbondGroups currentEpoch tables address).map fun group =>
    ⟨group.1.1,group.1.2.1,(group.2.map fun row => row.2.rawAmount.val).sum,
      shownEpoch currentEpoch (group.2.map Prod.snd)⟩

/-- A validator has one merged bond, of all that the address has bonded to it. -/
structure BondsMerged : Prop where
  single : ((tables.findMergedBondsByAddress address).map (·.validator.namadaAddress)).Nodup
  total : ∀ validator,
    (((tables.findMergedBondsByAddress address).filter
      (·.validator.namadaAddress = validator)).map (·.rawAmount)).sum =
    (((tables.bondsOf address).filter (·.validator = validator)).map (·.rawAmount.val)).sum

/-- The groups hold every unbond of the address once, and the merged rows of a validator add up to
what the address has unbonded from it. -/
structure UnbondsKept : Prop where
  whole : ((unbondGroups currentEpoch tables address).map fun group =>
    group.2.map Prod.snd).flatten.Perm (tables.unbondsOf address)
  total : ∀ validator,
    (((findMergedUnbondsByAddress currentEpoch tables address).filter
      (·.validator.namadaAddress = validator)).map (·.rawAmount)).sum =
    (((tables.unbondsOf address).filter (·.validator = validator)).map (·.rawAmount.val)).sum

/-- The groups are those of a validator that can be withdrawn, and those of a validator and a later
epoch. -/
def UnbondsGrouped : Prop :=
  ∀ unbond ∈ tables.unbondsOf address, ∀ other ∈ tables.unbondsOf address,
    (∃ group ∈ unbondGroups currentEpoch tables address,
      unbond ∈ group.2.map Prod.snd ∧ other ∈ group.2.map Prod.snd) ↔
    unbond.validator = other.validator ∧
      (unbond.withdrawEpoch ≤ currentEpoch ∧ other.withdrawEpoch ≤ currentEpoch ∨
        unbond.withdrawEpoch = other.withdrawEpoch)

/-- No epoch that is still to come is the zero that stands for the past ones. -/
def EpochsSeparate : Prop :=
  0 ≤ currentEpoch ∨ ∀ unbond ∈ tables.unbondsOf address, ∀ other ∈ tables.unbondsOf address,
    unbond.validator = other.validator → unbond.withdrawEpoch = 0 →
      ¬ other.withdrawEpoch ≤ currentEpoch

end

section
variable {tables : PosTables} {address : String}

/-- The redelegation of the address to a validator is a column of the validator. -/
lemma redelegated_eq : tables.redelegated address = tables.validators.rows.map fun validator =>
    (validator,tables.redelegations.rows.find? fun redelegation =>
      validator.namadaAddress = redelegation.validator && redelegation.delegator = address) := by
  refine leftJoin_eq_map fun validator _ => ?_
  have hle := Table.length_filter_key_le tables.redelegations.unique (address,validator.namadaAddress)
  have hkey : (fun redelegation : RedelegationDb =>
      decide (validator.namadaAddress = redelegation.validator) &&
        decide (redelegation.delegator = address)) =
      fun redelegation => decide (redelegation.key = (address,validator.namadaAddress)) := by
    funext redelegation
    simp only [RedelegationDb.key,Prod.mk.injEq,Bool.decide_and,Bool.and_comm,eq_comm]
  rw [hkey]
  exact hle

/-- No bond of the address is dropped or doubled on its way into the groups. -/
lemma map_snd_joinedBonds :
    ((tables.joinedBonds address).map Prod.snd).Perm (tables.bondsOf address) := by
  rw [PosTables.joinedBonds,PosTables.bondsOf]
  refine map_snd_filter_innerJoin_perm (fun bond hbond => ?_)
    fun bond : BondDb => decide (bond.address = address)
  rw [redelegated_eq,List.filter_map,List.length_map]
  exact Table.length_filter_key (tables.bonds_refer bond hbond)

lemma map_snd_joinedUnbonds :
    ((tables.joinedUnbonds address).map Prod.snd).Perm (tables.unbondsOf address) := by
  rw [PosTables.joinedUnbonds,PosTables.unbondsOf]
  refine map_snd_filter_innerJoin_perm (fun unbond hunbond => ?_)
    fun unbond : UnbondDb => decide (unbond.address = address)
  exact Table.length_filter_key (tables.unbonds_refer unbond hunbond)

/-- What a row of the joined bonds is made of. -/
lemma mem_joinedBonds {row : (ValidatorDb × Option RedelegationDb) × BondDb}
    (h : row ∈ tables.joinedBonds address) :
    row.1 ∈ tables.redelegated address ∧ row.1.1.namadaAddress = row.2.validator ∧
      row.2.address = address := by
  obtain ⟨hjoin,haddress⟩ := List.mem_filter.mp h
  obtain ⟨hredelegated,-,hon⟩ := mem_innerJoin.mp hjoin
  exact ⟨hredelegated,of_decide_eq_true hon,of_decide_eq_true haddress⟩

lemma mem_joinedUnbonds {row : ValidatorDb × UnbondDb} :
    row ∈ tables.joinedUnbonds address ↔ row.1 ∈ tables.validators.rows ∧
      row.2 ∈ tables.unbondsOf address ∧ row.1.namadaAddress = row.2.validator := by
  rw [PosTables.joinedUnbonds,PosTables.unbondsOf,List.mem_filter,mem_innerJoin,List.mem_filter]
  simp only [decide_eq_true_eq]
  tauto

/-- Joined bonds of one validator have one redelegation column. -/
lemma key_of_joinedBonds {row other : (ValidatorDb × Option RedelegationDb) × BondDb}
    (hrow : row ∈ tables.joinedBonds address) (hother : other ∈ tables.joinedBonds address)
    (h : row.1.1.namadaAddress = other.1.1.namadaAddress) : row.1 = other.1 := by
  have hmem := (mem_joinedBonds hrow).1
  have hmem' := (mem_joinedBonds hother).1
  rw [redelegated_eq] at hmem hmem'
  obtain ⟨validator,hvalidator,hrow⟩ := List.mem_map.mp hmem
  obtain ⟨validator',hvalidator',hother⟩ := List.mem_map.mp hmem'
  rw [←hrow,←hother] at h ⊢
  rw [Table.eq_of_key_eq hvalidator hvalidator' h]

theorem bondsMerged : BondsMerged tables address := by
  constructor
  · rw [PosTables.findMergedBondsByAddress,List.map_map]
    refine List.Nodup.map_on (fun group hgroup other hother hsame => ?_) nodup_keys_groupBy.of_map
    obtain ⟨hkey,hrows⟩ := mem_groupBy.mp hgroup
    obtain ⟨hkey',hrows'⟩ := mem_groupBy.mp hother
    obtain ⟨row,hrow,hrowKey⟩ := List.mem_map.mp hkey
    obtain ⟨row',hrow',hrowKey'⟩ := List.mem_map.mp hkey'
    have hvalidator : row.1.1.namadaAddress = row'.1.1.namadaAddress := by
      have hsame : group.1.2.1.namadaAddress = other.1.2.1.namadaAddress := hsame
      rwa [←hrowKey,←hrowKey'] at hsame
    have hcolumns : row.1 = row'.1 := key_of_joinedBonds hrow hrow' hvalidator
    have hgroupKey : group.1 = other.1 := by
      rw [←hrowKey,←hrowKey',hcolumns,(mem_joinedBonds hrow).2.2,(mem_joinedBonds hrow').2.2]
    exact Prod.ext hgroupKey (by rw [hrows,hrows',hgroupKey])
  · intro validator
    rw [PosTables.findMergedBondsByAddress,List.filter_map,List.map_map]
    refine sum_groupBy_join map_snd_joinedBonds
      (fun k : String × ValidatorDb × Option Int32 => decide (k.2.1.namadaAddress = validator))
      (fun row hrow => ?_) fun bond => bond.rawAmount.val
    rw [(mem_joinedBonds hrow).2.1]

/-- Two unbonds are in one group exactly if their validator and their group's epoch are. -/
lemma exists_unbondGroup_iff {currentEpoch : Int32} {unbond other : UnbondDb}
    (hunbond : unbond ∈ tables.unbondsOf address) (hother : other ∈ tables.unbondsOf address) :
    (∃ group ∈ unbondGroups currentEpoch tables address,
      unbond ∈ group.2.map Prod.snd ∧ other ∈ group.2.map Prod.snd) ↔
    unbond.validator = other.validator ∧
      withdrawGroup currentEpoch unbond = withdrawGroup currentEpoch other := by
  have hjoined (unbond : UnbondDb) (h : unbond ∈ tables.unbondsOf address) :
      ∃ validator, (validator,unbond) ∈ tables.joinedUnbonds address := by
    obtain ⟨row,hrow,rfl⟩ := List.mem_map.mp (map_snd_joinedUnbonds.mem_iff.mpr h)
    exact ⟨row.1,hrow⟩
  constructor
  · rintro ⟨group,hgroup,hunbond,hother⟩
    obtain ⟨row,hrow,rfl⟩ := List.mem_map.mp hunbond
    obtain ⟨row',hrow',rfl⟩ := List.mem_map.mp hother
    have hmem : row ∈ tables.joinedUnbonds address := by
      rw [(mem_groupBy.mp hgroup).2] at hrow
      exact (List.mem_filter.mp hrow).1
    have hmem' : row' ∈ tables.joinedUnbonds address := by
      rw [(mem_groupBy.mp hgroup).2] at hrow'
      exact (List.mem_filter.mp hrow').1
    have hkey := (exists_group_iff hmem hmem').mp ⟨group,hgroup,hrow,hrow'⟩
    obtain ⟨-,hrest⟩ := Prod.mk.inj hkey
    obtain ⟨hvalidator,hepoch⟩ := Prod.mk.inj hrest
    refine ⟨?_,hepoch⟩
    rw [←(mem_joinedUnbonds.mp hmem).2.2,←(mem_joinedUnbonds.mp hmem').2.2,hvalidator]
  · rintro ⟨hvalidator,hepoch⟩
    obtain ⟨validator,hmem⟩ := hjoined unbond hunbond
    obtain ⟨validator',hmem'⟩ := hjoined other hother
    obtain ⟨hrow,-,hname⟩ := mem_joinedUnbonds.mp hmem
    obtain ⟨hrow',-,hname'⟩ := mem_joinedUnbonds.mp hmem'
    obtain rfl : validator = validator' :=
      Table.eq_of_key_eq hrow hrow' (hname.trans (hvalidator.trans hname'.symm))
    have haddress : unbond.address = other.address :=
      (of_decide_eq_true (List.mem_filter.mp hunbond).2).trans
        (of_decide_eq_true (List.mem_filter.mp hother).2).symm
    have hkey : (unbond.address,validator,withdrawGroup currentEpoch unbond) =
        (other.address,validator,withdrawGroup currentEpoch other) := by
      rw [haddress,hepoch]
    obtain ⟨group,hgroup,hin,hin'⟩ := (@exists_group_iff _ _ _ (fun row : ValidatorDb × UnbondDb =>
      (row.2.address,row.1,withdrawGroup currentEpoch row.2)) _ _ _ hmem hmem').mpr hkey
    exact ⟨group,hgroup,List.mem_map_of_mem hin,List.mem_map_of_mem hin'⟩

lemma maxEqOr_int32 : Std.MaxEqOr Int32 := by
  constructor
  intro a b
  change (if a ≤ b then b else a) = a ∨ (if a ≤ b then b else a) = b
  split
  · exact .inr rfl
  · exact .inl rfl

/-- The epoch that is shown for a group is the one that its unbonds are grouped by. -/
theorem shownEpoch_eq {currentEpoch epoch : Int32} {unbonds : List UnbondDb} (hne : unbonds ≠ [])
    (h : ∀ unbond ∈ unbonds, withdrawGroup currentEpoch unbond = epoch) :
    shownEpoch currentEpoch unbonds = epoch := by
  have hepochs : unbonds.map (·.withdrawEpoch) ≠ [] := List.map_eq_nil_iff.not.mpr hne
  obtain ⟨least,hleast⟩ := Option.ne_none_iff_exists'.mp (mt List.min?_eq_none_iff.mp hepochs)
  obtain ⟨greatest,hgreatest⟩ := Option.ne_none_iff_exists'.mp
    (mt List.max?_eq_none_iff.mp hepochs)
  obtain ⟨hmin,hbound⟩ := List.min?_eq_some_iff.mp hleast
  have := maxEqOr_int32
  have hmax := List.max?_mem hgreatest
  rw [shownEpoch,hleast,hgreatest]
  obtain ⟨first,hfirst,rfl⟩ := List.mem_map.mp hmin
  obtain ⟨last,hlast,rfl⟩ := List.mem_map.mp hmax
  by_cases hle : first.withdrawEpoch ≤ currentEpoch
  · rw [←h first hfirst,withdrawGroup,if_pos hle]
    exact if_pos hle
  · have hlater : ¬ last.withdrawEpoch ≤ currentEpoch := fun hle' =>
      hle (Int32.le_trans (hbound _ hmax) hle')
    rw [←h last hlast,withdrawGroup,if_neg hlater]
    exact if_neg hle

/-- The epochs of the groups tell the classes of unbonds apart. -/
lemma withdrawGroup_eq_iff {currentEpoch : Int32} {unbond other : UnbondDb}
    (h : unbond.withdrawEpoch = 0 → other.withdrawEpoch ≤ currentEpoch → 0 ≤ currentEpoch)
    (h' : other.withdrawEpoch = 0 → unbond.withdrawEpoch ≤ currentEpoch → 0 ≤ currentEpoch) :
    withdrawGroup currentEpoch unbond = withdrawGroup currentEpoch other ↔
      unbond.withdrawEpoch ≤ currentEpoch ∧ other.withdrawEpoch ≤ currentEpoch ∨
        unbond.withdrawEpoch = other.withdrawEpoch := by
  unfold withdrawGroup
  by_cases hle : unbond.withdrawEpoch ≤ currentEpoch
  · by_cases hle' : other.withdrawEpoch ≤ currentEpoch
    · rw [if_pos hle,if_pos hle']
      exact ⟨fun _ => .inl ⟨hle,hle'⟩,fun _ => rfl⟩
    · rw [if_pos hle,if_neg hle']
      constructor
      · intro hzero
        exact absurd (hzero ▸ h' hzero.symm hle) hle'
      · rintro (⟨-,hle''⟩ | hsame)
        · exact absurd hle'' hle'
        · exact absurd (hsame ▸ hle) hle'
  · by_cases hle' : other.withdrawEpoch ≤ currentEpoch
    · rw [if_neg hle,if_pos hle']
      constructor
      · intro hzero
        exact absurd (hzero.symm ▸ h hzero hle') hle
      · rintro (⟨hle'',-⟩ | hsame)
        · exact absurd hle'' hle
        · exact absurd (hsame.symm ▸ hle') hle
    · rw [if_neg hle,if_neg hle']
      exact ⟨.inr,fun hsame => hsame.resolve_left fun hboth => hle hboth.1⟩

/-- Whatever the epoch is, no unbond is lost or doubled. -/
theorem unbondsKept (currentEpoch : Int32) : UnbondsKept currentEpoch tables address := by
  constructor
  · have hperm : ((unbondGroups currentEpoch tables address).map Prod.snd).flatten.Perm
        (tables.joinedUnbonds address) := flatten_groupBy
    have hmap := (hperm.map Prod.snd).trans map_snd_joinedUnbonds
    rwa [List.map_flatten,List.map_map] at hmap
  · intro validator
    rw [findMergedUnbondsByAddress,List.filter_map,List.map_map]
    refine sum_groupBy_join map_snd_joinedUnbonds
      (fun k : String × ValidatorDb × Int32 => decide (k.2.1.namadaAddress = validator))
      (fun row hrow => ?_) fun unbond => unbond.rawAmount.val
    rw [(mem_joinedUnbonds.mp hrow).2.2]

/-- The unbonds are grouped as they should be exactly if the epochs to come are told from the past
ones. -/
theorem unbondsGrouped_iff {currentEpoch : Int32} :
    UnbondsGrouped currentEpoch tables address ↔ EpochsSeparate currentEpoch tables address := by
  constructor
  · intro h
    by_cases hnonneg : 0 ≤ currentEpoch
    · exact .inl hnonneg
    · refine .inr fun unbond hunbond other hother hvalidator hzero hle => ?_
      have hepoch : withdrawGroup currentEpoch unbond = withdrawGroup currentEpoch other := by
        rw [withdrawGroup,hzero,if_neg hnonneg,withdrawGroup,if_pos hle]
      have htogether := (exists_unbondGroup_iff hunbond hother).mpr ⟨hvalidator,hepoch⟩
      rcases ((h unbond hunbond other hother).mp htogether).2 with ⟨hle',-⟩ | hsame
      · exact hnonneg (hzero ▸ hle')
      · exact hnonneg (hzero ▸ hsame.symm ▸ hle)
  · intro h unbond hunbond other hother
    rw [exists_unbondGroup_iff hunbond hother]
    refine and_congr_right fun hvalidator => withdrawGroup_eq_iff (fun hzero hle => ?_)
      fun hzero hle => ?_
    · exact h.resolve_right fun hseparate =>
        hseparate unbond hunbond other hother hvalidator hzero hle
    · exact h.resolve_right fun hseparate =>
        hseparate other hother unbond hunbond hvalidator.symm hzero hle

end

/-- The merged views keep every bond, every unbond and the totals, and group the unbonds as they
should exactly if no epoch that is still to come is the zero of the past ones; so it is for every
epoch from zero on. -/
theorem merged_views_right_iff (tables : PosTables) (address : String) (currentEpoch : Int32) :
    BondsMerged tables address ∧ UnbondsKept currentEpoch tables address ∧
      (UnbondsGrouped currentEpoch tables address ↔ EpochsSeparate currentEpoch tables address) :=
  ⟨bondsMerged,unbondsKept currentEpoch,unbondsGrouped_iff⟩

/-- Two unbonds from a validator, under the given epochs. -/
def twoUnbonds (first second : Int32) (h : first ≠ second) : PosTables where
  validators := ⟨[⟨"val",1,"1","0",none,none,none,none,none,none,.consensus⟩],by simp⟩
  bonds := .empty
  unbonds := ⟨[⟨"ann","val",5,first⟩,⟨"ann","val",7,second⟩],
    by simp [UnbondDb.key,h]⟩
  redelegations := .empty
  bonds_refer _ hbond := absurd hbond List.not_mem_nil
  unbonds_refer unbond hunbond := by
    rcases List.mem_pair.mp hunbond with rfl | rfl <;> exact List.mem_singleton.mpr rfl

/-- Before the epoch zero an unbond of that epoch is counted among those that can be withdrawn. -/
theorem epoch_zero_is_withdrawable :
    ¬ (BondsMerged (twoUnbonds (-2) 0 (by decide)) "ann" ∧
      UnbondsKept (-1) (twoUnbonds (-2) 0 (by decide)) "ann" ∧
      UnbondsGrouped (-1) (twoUnbonds (-2) 0 (by decide)) "ann") := by
  rintro ⟨-,-,hgrouped⟩
  rcases unbondsGrouped_iff.mp hgrouped with hnonneg | hseparate
  · revert hnonneg
    decide
  · exact hseparate ⟨"ann","val",7,0⟩ (by decide) ⟨"ann","val",5,-2⟩ (by decide) rfl rfl (by decide)

end NamadaIndexer.Webserver
