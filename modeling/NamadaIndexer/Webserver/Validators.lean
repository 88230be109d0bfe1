import Mathlib.Data.List.Sort
import NamadaIndexer.Pos.Columns
import NamadaIndexer.Webserver.EpochTimes

/-! The validators that are listed, with their ranks. A request reads the rows first and the ranking
afterwards; rows with the same voting power are ranked in any order. -/
namespace NamadaIndexer.Webserver
open NamadaIndexer.Foundation NamadaIndexer.Foundation.Runs NamadaIndexer.Shared
open NamadaIndexer.Chain (ChainDb Context ValidatorDb)
open NamadaIndexer.Pos (StakingDb Transaction validatorEvents)

/-- The states that a request can ask for. -/
inductive ValidatorStateDto
  | consensus
  | belowCapacity
  | belowThreshold
  | inactive
  | jailed
  | unknown
  deriving DecidableEq, Repr

def ValidatorStateDto.all : List ValidatorStateDto :=
  [.consensus,.belowCapacity,.belowThreshold,.inactive,.jailed,.unknown]

/-- `to_validator_state_db` -/
def toValidatorStateDb : ValidatorStateDto → ValidatorState
  | .consensus => .consensus
  | .belowCapacity => .belowCapacity
  | .belowThreshold => .belowThreshold
  | .inactive => .inactive
  | .jailed => .jailed
  | .unknown => .unknown

/-- The validators in consensus as the database sorts them. -/
structure Ranking (db : ChainDb) where
  rows : List ValidatorDb
  perm : rows.Perm (db.validators.rows.filter fun validator => validator.state = .consensus)
  sorted : rows.Pairwise fun a b => b.votingPower ≤ a.votingPower

/-- The ranking in which rows with the same voting power stay as they are stored. -/
def Ranking.stable (db : ChainDb) : Ranking db where
  rows := (db.validators.rows.filter fun validator => validator.state = .consensus).insertionSort
    fun a b => b.votingPower ≤ a.votingPower
  perm := List.perm_insertionSort _ _
  sorted := by
    have : Std.Total fun a b : ValidatorDb => b.votingPower ≤ a.votingPower :=
      ⟨fun a b => Int32.le_total _ _⟩
    have : IsTrans ValidatorDb fun a b => b.votingPower ≤ a.votingPower :=
      ⟨fun _ _ _ hab hbc => Int32.le_trans hbc hab⟩
    exact List.pairwise_insertionSort _ _

/-- `get_validators_rank` -/
def getValidatorsRank {db : ChainDb} (ranking : Ranking db) : List String :=
  ranking.rows.map (·.namadaAddress)

section
variable (db : ChainDb) (states : List ValidatorState) (validatorsRank : List String)

/-- `find_all_validators` -/
def findAllValidators : List ValidatorDb :=
  db.validators.rows.filter fun validator => validator.state ∈ states

/-- The position in the ranking, from one on. -/
def rankOf (validator : ValidatorDb) : Option UInt64 :=
  (validatorsRank.findIdx? fun id => id = validator.namadaAddress).map fun r =>
    asU64 (asI32 (UInt64.ofNat (r+1)))

/-- `get_all_validators`, with the states that its handler fills in -/
def getAllValidators (states : Option (List ValidatorStateDto)) : List ValidatorWithRank :=
  (findAllValidators db ((states.getD ValidatorStateDto.all).map toValidatorStateDb)).map fun validator =>
    ⟨validator,rankOf validatorsRank validator⟩

end

/-- What is asked for: without states, every state but those that no request can name. -/
def Asked (states : Option (List ValidatorStateDto)) (state : ValidatorState) : Prop :=
  match states with
  | some states => ∃ dto ∈ states, toValidatorStateDb dto = state
  | none => state ≠ .deactivating ∧ state ≠ .reactivating ∧ state ≠ .unjailing

/-- The rank lies between the number of the stronger validators and that of those that are at least
as strong. -/
def Ranked (db : ChainDb) (votingPower : Int32) (rank : ℕ) : Prop :=
  db.validators.rows.countP
      (fun other => other.state = .consensus ∧ votingPower < other.votingPower) < rank ∧
    rank ≤ db.validators.rows.countP
      fun other => other.state = .consensus ∧ votingPower ≤ other.votingPower

section
variable {db : ChainDb} {states : Option (List ValidatorStateDto)}

lemma mem_states_iff (state : ValidatorState) :
    state ∈ (states.getD ValidatorStateDto.all).map toValidatorStateDb ↔ Asked states state := by
  cases states with
  | some states => simp [Asked]
  | none =>
    change _ ↔ state ≠ .deactivating ∧ state ≠ .reactivating ∧ state ≠ .unjailing
    cases state <;> decide

lemma mem_getAllValidators {validatorsRank : List String} {entry : ValidatorWithRank} :
    entry ∈ getAllValidators db validatorsRank states ↔
      entry.validator ∈ db.validators.rows ∧ Asked states entry.validator.state ∧
        rankOf validatorsRank entry.validator = entry.rank := by
  obtain ⟨validator,rank⟩ := entry
  rw [getAllValidators,List.mem_map]
  constructor
  · rintro ⟨row,hrow,hentry⟩
    obtain ⟨rfl,rfl⟩ := ValidatorWithRank.mk.inj hentry
    obtain ⟨hrow,hstate⟩ := List.mem_filter.mp hrow
    exact ⟨hrow,(mem_states_iff _).mp (of_decide_eq_true hstate),rfl⟩
  · rintro ⟨hrow,hasked,hrank⟩
    refine ⟨validator,List.mem_filter.mpr ⟨hrow,decide_eq_true ?_⟩,by rw [hrank]⟩
    exact (mem_states_iff _).mpr hasked

/-- Where a validator stands in the ranking. -/
lemma exists_split {ranking : Ranking db} {validator : ValidatorDb} {r : ℕ}
    (h : ((getValidatorsRank ranking).findIdx? fun id => id = validator.namadaAddress) = some r) :
    ∃ now before after, ranking.rows = before ++ now :: after ∧ before.length = r ∧
      now.namadaAddress = validator.namadaAddress := by
  obtain ⟨hlt,hsame,-⟩ := List.findIdx?_eq_some_iff_getElem.mp h
  rw [getValidatorsRank,List.length_map] at hlt
  have hsame : ranking.rows[r].namadaAddress = validator.namadaAddress := by
    simpa [getValidatorsRank] using hsame
  refine ⟨ranking.rows[r],ranking.rows.take r,ranking.rows.drop (r+1),?_,?_,hsame⟩
  · rw [←List.drop_eq_getElem_cons hlt,List.take_append_drop]
  · rw [List.length_take,min_eq_left hlt.le]

/-- A row of the ranking is preceded by all that are stronger and by none that is weaker. -/
lemma ranked_of_split {ranking : Ranking db} {now : ValidatorDb} {before after : List ValidatorDb}
    (h : ranking.rows = before ++ now :: after) : Ranked db now.votingPower (before.length + 1) := by
  have hcount : ∀ p : ValidatorDb → Bool, db.validators.rows.countP (fun other =>
      decide (other.state = .consensus) && p other) = ranking.rows.countP p := by
    intro p
    rw [ranking.perm.countP_eq,List.countP_filter]
    exact List.countP_congr fun other _ => by rw [Bool.and_comm]
  have hsorted := ranking.sorted
  rw [h,List.pairwise_append,List.pairwise_cons] at hsorted
  obtain ⟨-,⟨hafter,-⟩,hbefore⟩ := hsorted
  simp only [Ranked,Bool.decide_and]
  rw [hcount fun other => decide (now.votingPower < other.votingPower),
    hcount fun other => decide (now.votingPower ≤ other.votingPower),h]
  have hweaker : (now::after).countP (fun other => decide (now.votingPower < other.votingPower)) =
      0 := by
    rw [List.countP_eq_zero,List.forall_mem_cons]
    refine ⟨?_,fun other hother => ?_⟩
    · rw [decide_eq_true_iff,Int32.not_lt]
      exact Int32.le_refl _
    · rw [decide_eq_true_iff,Int32.not_lt]
      exact hafter other hother
  have hstronger : before.countP (fun other => decide (now.votingPower ≤ other.votingPower)) =
      before.length :=
    List.countP_eq_length.mpr fun other hother =>
      decide_eq_true (hbefore other hother now List.mem_cons_self)
  rw [List.countP_append,List.countP_append,hweaker,hstronger,List.countP_cons,
    if_pos (decide_eq_true (Int32.le_refl _))]
  have hle := before.countP_le_length (p := fun other : ValidatorDb =>
    decide (now.votingPower < other.votingPower))
  omega

/-- Ranks are counted without wrapping. -/
lemma toNat_rank {r : ℕ} (h : r + 1 < 2^31) : (asU64 (asI32 (UInt64.ofNat (r+1)))).toNat = r + 1 := by
  have hsize : (UInt64.ofNat (r+1)).toNat = r + 1 :=
    UInt64.toNat_ofNat_of_lt' (by rw [UInt64.size]; omega)
  have hcut : (asI32 (UInt64.ofNat (r+1))).toInt = ((r+1 : ℕ) : ℤ) := by
    rw [toInt_asI32_iff.mpr (by rwa [hsize]),hsize]
  have hwide := toNat_asU64 (i := asI32 (UInt64.ofNat (r+1))) (by rw [hcut]; omega)
  rw [hcut] at hwide
  exact_mod_cast hwide

/-- A rank comes from a place in the ranking, and the other way round. -/
lemma rankOf_eq_some {ranking : Ranking db} (hcount : ranking.rows.length < 2^31)
    {validator : ValidatorDb} {rank : UInt64}
    (h : rankOf (getValidatorsRank ranking) validator = some rank) :
    ∃ now before after, ranking.rows = before ++ now :: after ∧ before.length + 1 = rank.toNat ∧
      now.namadaAddress = validator.namadaAddress := by
  obtain ⟨r,hr,rfl⟩ := Option.map_eq_some_iff.mp h
  obtain ⟨now,before,after,hsplit,rfl,hsame⟩ := exists_split hr
  have hlength := congrArg List.length hsplit
  rw [List.length_append,List.length_cons] at hlength
  exact ⟨now,before,after,hsplit,(toNat_rank (by omega)).symm,hsame⟩

lemma mem_ranking {ranking : Ranking db} {validator : ValidatorDb} :
    validator ∈ ranking.rows ↔
      db.validators.find? validator.namadaAddress = some validator ∧
        validator.state = .consensus := by
  rw [ranking.perm.mem_iff,List.mem_filter,Table.find?_eq_some,decide_eq_true_iff,
    and_iff_left rfl]

lemma rankOf_eq_none {ranking : Ranking db} {validator : ValidatorDb} :
    rankOf (getValidatorsRank ranking) validator = none ↔
      ∀ now, db.validators.find? validator.namadaAddress = some now → now.state ≠ .consensus := by
  rw [rankOf,Option.map_eq_none_iff,List.findIdx?_eq_none_iff,getValidatorsRank,
    List.forall_mem_map]
  constructor
  · intro h now hnow hstate
    obtain ⟨-,hsame⟩ := Table.find?_eq_some.mp hnow
    have hmem : now ∈ ranking.rows := mem_ranking.mpr ⟨by rwa [hsame],hstate⟩
    simpa [hsame] using h now hmem
  · intro h now hmem
    obtain ⟨hnow,hstate⟩ := mem_ranking.mp hmem
    rw [decide_eq_false_iff_not]
    intro hsame
    exact h now (hsame ▸ hnow) hstate

/-- A place belongs to one address. -/
lemma address_of_rank {ranking : Ranking db} (hcount : ranking.rows.length < 2^31)
    {validator other : ValidatorDb} {rank : UInt64}
    (h : rankOf (getValidatorsRank ranking) validator = some rank)
    (h' : rankOf (getValidatorsRank ranking) other = some rank) :
    validator.namadaAddress = other.namadaAddress := by
  obtain ⟨now,before,after,hsplit,hlength,hsame⟩ := rankOf_eq_some hcount h
  obtain ⟨now',before',after',hsplit',hlength',hsame'⟩ := rankOf_eq_some hcount h'
  have hlengths : before.length = before'.length := by omega
  obtain ⟨-,hrest⟩ := List.append_inj (hsplit.symm.trans hsplit') hlengths
  rw [←hsame,←hsame',(List.cons.inj hrest).1]

end

/-- After any run of the crawlers, the validators that are listed are the recorded ones in the
states that are asked for, each once. A validator has a rank if it is in consensus when the ranking
is read, with all that are stronger before it and none that is weaker, and no two have the same. -/
theorem validators_listed (ctx : Context) (transactions meanwhile : List Transaction)
    (db later : StakingDb)
    (hrun : execute (Transaction.step ctx) .empty transactions = some db)
    (hlater : execute (Transaction.step ctx) db meanwhile = some later)
    (ranking : Ranking later.chain) (hcount : ranking.rows.length < 2^31)
    (states : Option (List ValidatorStateDto)) :
    ((getAllValidators db.chain (getValidatorsRank ranking) states).map
      fun entry => entry.validator.namadaAddress).Nodup ∧
    (∀ validator, (∃ rank,
      ⟨validator,rank⟩ ∈ getAllValidators db.chain (getValidatorsRank ranking) states) ↔
        Pos.recorded ctx validator.namadaAddress (transactions.flatMap (validatorEvents ctx)) =
          some validator ∧ Asked states validator.state) ∧
    (∀ entry ∈ getAllValidators db.chain (getValidatorsRank ranking) states,
      entry.rank = none ↔ ∀ now, Pos.recorded ctx entry.validator.namadaAddress
        ((transactions ++ meanwhile).flatMap (validatorEvents ctx)) = some now →
          now.state ≠ .consensus) ∧
    (∀ entry ∈ getAllValidators db.chain (getValidatorsRank ranking) states, ∀ rank,
      entry.rank = some rank → ∃ now, Pos.recorded ctx entry.validator.namadaAddress
        ((transactions ++ meanwhile).flatMap (validatorEvents ctx)) = some now ∧
          now.state = .consensus ∧ Ranked later.chain now.votingPower rank.toNat) ∧
    ∀ entry ∈ getAllValidators db.chain (getValidatorsRank ranking) states,
      ∀ other ∈ getAllValidators db.chain (getValidatorsRank ranking) states, ∀ rank,
        entry.rank = some rank → other.rank = some rank → entry = other := by
  have hthen (address : String) : later.chain.validators.find? address =
      Pos.recorded ctx address ((transactions ++ meanwhile).flatMap (validatorEvents ctx)) :=
    Pos.find?_eq_recorded (execute_append_eq_some.mpr ⟨db,hrun,hlater⟩)
  refine ⟨?_,fun validator => ?_,fun entry hentry => ?_,fun entry hentry rank hrank => ?_,?_⟩
  · rw [getAllValidators,List.map_map]
    exact (List.filter_sublist.map _).nodup db.chain.validators.unique
  · rw [←Pos.find?_eq_recorded hrun,Table.find?_eq_some,and_iff_left rfl]
    simp only [mem_getAllValidators]
    exact ⟨fun ⟨_,hrow,hasked,_⟩ => ⟨hrow,hasked⟩,fun ⟨hrow,hasked⟩ => ⟨_,hrow,hasked,rfl⟩⟩
  · rw [←(mem_getAllValidators.mp hentry).2.2,rankOf_eq_none,hthen]
  · rw [←(mem_getAllValidators.mp hentry).2.2] at hrank
    obtain ⟨now,before,after,hsplit,hlength,hsame⟩ := rankOf_eq_some hcount hrank
    have hnow : now ∈ ranking.rows := by
      rw [hsplit]
      exact List.mem_append_right _ List.mem_cons_self
    obtain ⟨hfind,hstate⟩ := mem_ranking.mp hnow
    rw [hthen,hsame] at hfind
    exact ⟨now,hfind,hstate,hlength ▸ ranked_of_split hsplit⟩
  · intro entry hentry other hother rank hrank hrank'
    obtain ⟨hrow,-,hentryRank⟩ := mem_getAllValidators.mp hentry
    obtain ⟨hrow',-,hotherRank⟩ := mem_getAllValidators.mp hother
    have hsame := address_of_rank hcount (hentryRank.trans hrank) (hotherRank.trans hrank')
    have hvalidator := Table.eq_of_key_eq hrow hrow' hsame
    obtain ⟨validator,rank⟩ := entry
    obtain ⟨validator',rank'⟩ := other
    exact (ValidatorWithRank.mk.injEq ..).mpr ⟨hvalidator,hrank.trans hrank'.symm⟩

/-- Voting powers up to nine. -/
def digitContext : Context :=
  { Chain.sampleContext bondTx with
    votingPower := fun text => if text = "9" then some 9 else some 0 }

/-- Three validators in consensus, of which the last one is deactivated. -/
def threeValidators : List Transaction :=
  let validator (name votingPower : String) (state : ValidatorState) : Validator :=
    ⟨.ofAddress Sdk.sample (.established name),votingPower,"0","0",none,none,none,none,none,none,
      state⟩
  [.validatorSet [validator "v1" "0" .consensus,validator "v2" "9" .consensus,
    validator "v3" "9" .deactivating] 1]

theorem threeValidators_listed :
    ∃ db, execute (Transaction.step digitContext) .empty threeValidators = some db ∧
      (⟨⟨"tnam1qv1",0,"0","0",none,none,none,none,none,none,.consensus⟩,some 2⟩ ∈
        getAllValidators db.chain (getValidatorsRank (Ranking.stable db.chain)) none) ∧
      Ranked db.chain 0 2 := by
  have hshown : (execute (Transaction.step digitContext) .empty threeValidators).map (fun db =>
      decide ((⟨⟨"tnam1qv1",0,"0","0",none,none,none,none,none,none,.consensus⟩,some 2⟩ ∈
        getAllValidators db.chain (getValidatorsRank (Ranking.stable db.chain)) none) ∧
      (Ranking.stable db.chain).rows.length < 2^31)) = some true := by decide +kernel
  obtain ⟨db,hrun,hshown⟩ := Option.map_eq_some_iff.mp hshown
  obtain ⟨hmem,hcount⟩ := of_decide_eq_true hshown
  obtain ⟨-,-,-,hranked,-⟩ := validators_listed digitContext threeValidators [] db db hrun rfl
    (Ranking.stable db.chain) hcount none
  obtain ⟨now,hnow,-,hrank⟩ := hranked _ hmem 2 rfl
  have hrecorded : Pos.recorded digitContext "tnam1qv1"
      ((threeValidators ++ []).flatMap (validatorEvents digitContext)) =
      some ⟨"tnam1qv1",0,"0","0",none,none,none,none,none,none,.consensus⟩ := by decide +kernel
  obtain rfl := Option.some.inj (hrecorded.symm.trans hnow)
  exact ⟨db,hrun,hmem,hrank⟩

end NamadaIndexer.Webserver
