import NamadaIndexer.Chain.Repository
import NamadaIndexer.Foundation.Overflow
import NamadaIndexer.Foundation.Rounding
import NamadaIndexer.Governance.Proposals
import NamadaIndexer.Shared.Decimals

/-! The times that are shown for epochs: of an unbond that can be withdrawn, and of a proposal that
starts, ends and is activated. They are estimated from the duration of an epoch and of a block, with
integers of 32 bits. `EPOCH_SWITCH_BLOCKS_DELAY` of the SDK is a parameter. -/
namespace NamadaIndexer.Webserver
open NamadaIndexer.Foundation NamadaIndexer.Chain NamadaIndexer.Governance
open NamadaIndexer.Shared (Amount BigDecimal Id)

structure ChainCrawlerStateDb where
  lastProcessedBlock : Int32
  lastProcessedEpoch : Int32
  firstBlockInEpoch : Int32
  /-- `timestamp.and_utc().timestamp()`, in seconds -/
  timestamp : Int64
  deriving DecidableEq, Repr

/-- A validator with its rank, where one is known. -/
structure ValidatorWithRank where
  validator : ValidatorDb
  rank : Option UInt64
  deriving DecidableEq, Repr

structure Unbond where
  minDenomAmount : Amount
  validator : ValidatorWithRank
  withdrawEpoch : UInt64
  withdrawTime : UInt64
  canWithdraw : Bool
  deriving DecidableEq, Repr

/-- A proposal. Its kinds, tally types and statuses are the ones of the database. -/
structure Proposal where
  id : UInt64
  content : String
  type : GovernanceProposalKind
  tallyType : TallyType
  author : Id
  startEpoch : UInt64
  endEpoch : UInt64
  activationEpoch : UInt64
  startTime : String
  endTime : String
  currentTime : String
  activationTime : String
  status : GovernanceProposalResult
  yayVotes : F64
  nayVotes : F64
  abstainVotes : F64
  deriving DecidableEq, Repr

section
variable (overflowChecks : Bool) (delay : UInt32)

def epochProgress (currentBlock firstBlockInEpoch blocksPerEpoch : Int32) : Panicking F64 := do
  let blocksPerEpoch ← addI32 overflowChecks blocksPerEpoch delay.toInt32
  -- progress resets to 0 when a new epoch starts
  let currentBlock ← subI32 overflowChecks currentBlock 1
  let blockInCurrentEpoch ← subI32 overflowChecks currentBlock firstBlockInEpoch
  return .divInt blockInCurrentEpoch.toInt blocksPerEpoch.toInt

/-- The duration of an epoch with the blocks that it takes longer. Of the remainder nothing but a
warning comes. -/
def realEpochDuration (blocksPerEpoch epochDuration : Int32) : Panicking Int32 := do
  let timePerBlock ← divI32 epochDuration blocksPerEpoch
  let _rest ← remI32 epochDuration blocksPerEpoch
  addI32 overflowChecks epochDuration (← mulI32 overflowChecks timePerBlock delay.toInt32)

/-- The time from the start of one epoch to the start of another. -/
def epochTime (realEpochDuration currentEpoch toEpoch : Int32) : Panicking Int32 := do
  mulI32 overflowChecks (← subI32 overflowChecks toEpoch currentEpoch) realEpochDuration

def timeBetweenEpochs (blocksPerEpoch : Int32) (currentEpochProgress : F64)
    (currentEpoch toEpoch epochDuration : Int32) : Panicking Int32 := do
  let realEpochDuration ← realEpochDuration overflowChecks delay blocksPerEpoch epochDuration
  let epochTime ← epochTime overflowChecks realEpochDuration currentEpoch toEpoch
  let extraTime := currentEpochProgress.mulInt realEpochDuration.toInt
  subI32 overflowChecks epochTime extraTime.toI32

variable (chainState : ChainCrawlerStateDb) (maxBlockTime minDuration : Int32)

/-- `Unbond::from` -/
def Unbond.fromDb (rawAmount : BigDecimal) (withdrawEpoch : Int32) (dbValidator : ValidatorDb) :
    Panicking Unbond := do
  let blocksPerEpoch ← divI32 minDuration maxBlockTime
  let progress ← epochProgress overflowChecks delay chainState.lastProcessedBlock
    chainState.firstBlockInEpoch blocksPerEpoch
  let toWithdraw ← timeBetweenEpochs overflowChecks delay blocksPerEpoch progress
    chainState.lastProcessedEpoch withdrawEpoch minDuration
  let withdrawTime ← addI64 overflowChecks chainState.timestamp toWithdraw.toInt64
  return {
    minDenomAmount := .fromBigDecimal rawAmount
    validator := ⟨dbValidator,none⟩
    withdrawEpoch := asU64 withdrawEpoch
    withdrawTime := withdrawTime.toUInt64
    canWithdraw := withdrawEpoch ≤ chainState.lastProcessedEpoch }

/-- `Proposal::from_db`. The data of the row is not read, and `parseF64` is `parse::<f64>`. -/
def Proposal.fromDb (parseF64 : String → Option F64) (value : GovernanceProposalDb) :
    Panicking Proposal := do
  let blocksPerEpoch ← divI32 minDuration maxBlockTime
  let progress ← epochProgress overflowChecks delay chainState.lastProcessedBlock
    chainState.firstBlockInEpoch blocksPerEpoch
  let toStart ← timeBetweenEpochs overflowChecks delay blocksPerEpoch progress
    chainState.lastProcessedEpoch value.startEpoch minDuration
  let toEnd ← timeBetweenEpochs overflowChecks delay blocksPerEpoch progress
    chainState.lastProcessedEpoch value.endEpoch minDuration
  let toActivation ← timeBetweenEpochs overflowChecks delay blocksPerEpoch progress
    chainState.lastProcessedEpoch value.activationEpoch minDuration
  let timeNow := chainState.timestamp
  let startTime ← addI64 overflowChecks timeNow toStart.toInt64
  let endTime ← addI64 overflowChecks timeNow toEnd.toInt64
  let activationTime ← addI64 overflowChecks timeNow toActivation.toInt64
  let yayVotes ← .expect "Should be a number" (parseF64 value.yayVotes)
  let nayVotes ← .expect "Should be a number" (parseF64 value.nayVotes)
  let abstainVotes ← .expect "Should be a number" (parseF64 value.abstainVotes)
  return {
    id := asU64 value.id
    content := value.content
    type := value.kind
    tallyType := value.tallyType
    author := .account value.author
    startEpoch := asU64 value.startEpoch
    endEpoch := asU64 value.endEpoch
    activationEpoch := asU64 value.activationEpoch
    startTime := toString startTime.toInt
    endTime := toString endTime.toInt
    currentTime := toString timeNow.toInt
    activationTime := toString activationTime.toInt
    status := value.result
    yayVotes := yayVotes
    nayVotes := nayVotes
    abstainVotes := abstainVotes }

/-- The arithmetic on the way to an epoch neither divides by zero nor overflows: every value is the
exact one. -/
def EpochTimeSafe (toEpoch : Int32) : Prop :=
  ∃ blocksPerEpoch timePerBlock realDuration time : Int32,
    divI32 minDuration maxBlockTime = .returns blocksPerEpoch ∧
    divI32 minDuration blocksPerEpoch = .returns timePerBlock ∧
    timePerBlock.toInt = minDuration.toInt / blocksPerEpoch.toInt ∧
    realEpochDuration overflowChecks delay blocksPerEpoch minDuration = .returns realDuration ∧
    realDuration.toInt = minDuration.toInt + timePerBlock.toInt * delay.toNat ∧
    epochTime overflowChecks realDuration chainState.lastProcessedEpoch toEpoch = .returns time ∧
    time.toInt = (toEpoch.toInt - chainState.lastProcessedEpoch.toInt) * realDuration.toInt

/-- The epochs whose times a proposal shows. -/
def shownEpochs (value : GovernanceProposalDb) : List Int32 :=
  [value.startEpoch,value.endEpoch,value.activationEpoch]

/-- The duration of an epoch with the blocks that it takes longer, over the integers. -/
def exactDuration : ℤ :=
  minDuration.toInt + minDuration.toInt / (minDuration.toInt / maxBlockTime.toInt) * delay.toNat

/-- A block is no longer than an epoch, and neither the longer epoch nor the time to one of the
epochs needs more than 32 bits. -/
structure TimesFit (epochs : List Int32) : Prop where
  block_fits : maxBlockTime ≤ minDuration
  duration_fits : exactDuration delay maxBlockTime minDuration < 2147483648
  epochs_fit : ∀ toEpoch ∈ epochs, FitsI32
    ((toEpoch.toInt - chainState.lastProcessedEpoch.toInt) *
      exactDuration delay maxBlockTime minDuration)

end

section
variable {overflowChecks : Bool} {delay : UInt32} {chainState : ChainCrawlerStateDb}
  {maxBlockTime minDuration : Int32}

lemma toInt_delay (h : delay.toNat < 2147483648) : delay.toInt32.toInt = delay.toNat :=
  BitVec.toInt_eq_toNat_of_lt (x := delay.toBitVec) (by
    change 2 * delay.toNat < 4294967296
    omega)

lemma toInt_pos {n : Int32} (h : 0 < n) : 0 < n.toInt := Int32.lt_iff_toInt_lt.mp h

/-- The blocks of an epoch are counted, and there are none exactly if a block is longer. -/
lemma blocksPerEpoch_eq (hblock : 0 < maxBlockTime) (hduration : 0 < minDuration) :
    divI32 minDuration maxBlockTime = .returns (minDuration / maxBlockTime) ∧
      (minDuration / maxBlockTime).toInt = minDuration.toInt / maxBlockTime.toInt ∧
      (0 < (minDuration / maxBlockTime).toInt ↔ maxBlockTime ≤ minDuration) := by
  obtain ⟨hreturns,hvalue,-⟩ := divI32_of_pos (toInt_pos hduration).le (toInt_pos hblock)
  refine ⟨hreturns,hvalue,?_⟩
  rw [hvalue,Int32.le_iff_toInt_le,Int.lt_iff_add_one_le,zero_add,
    Int.le_ediv_iff_mul_le (toInt_pos hblock),one_mul]

lemma realEpochDuration_of_fits (overflowChecks : Bool) (hdelay : delay.toNat < 2147483648)
    (hduration : 0 < minDuration) {blocks : Int32} (hblocks : 0 < blocks.toInt)
    (h : minDuration.toInt + minDuration.toInt / blocks.toInt * delay.toNat < 2147483648) :
    divI32 minDuration blocks = .returns (minDuration / blocks) ∧
      (minDuration / blocks).toInt = minDuration.toInt / blocks.toInt ∧
      ∃ real, realEpochDuration overflowChecks delay blocks minDuration = .returns real ∧
        real.toInt = minDuration.toInt + minDuration.toInt / blocks.toInt * delay.toNat := by
  have hpos := toInt_pos hduration
  obtain ⟨hdiv,hvalue,hrem⟩ := divI32_of_pos hpos.le hblocks
  have hextra : 0 ≤ minDuration.toInt / blocks.toInt * delay.toNat :=
    mul_nonneg (Int.ediv_nonneg hpos.le hblocks.le) (Int.natCast_nonneg _)
  have hmul : FitsI32 ((minDuration / blocks).toInt * delay.toInt32.toInt) := by
    rw [hvalue,toInt_delay hdelay]
    exact ⟨by omega,by omega⟩
  obtain ⟨hproduct,hexact⟩ := mulI32_of_fits overflowChecks hmul
  have hadd : FitsI32 (minDuration.toInt + (minDuration / blocks * delay.toInt32).toInt) := by
    rw [hexact,hvalue,toInt_delay hdelay]
    exact ⟨by omega,h⟩
  obtain ⟨hsum,hreal⟩ := addI32_of_fits overflowChecks hadd
  refine ⟨hdiv,hvalue,minDuration + minDuration / blocks * delay.toInt32,?_,?_⟩
  · rw [realEpochDuration,hdiv,hrem]
    simp only [Panicking.returns_bind,hproduct]
    exact hsum
  · rw [hreal,hexact,hvalue,toInt_delay hdelay]

/-- A product fits only if its first factor does. -/
lemma fits_of_mul {n r : ℤ} (hr : 0 < r) (h : FitsI32 (n * r)) : FitsI32 n := by
  obtain ⟨hlow,hhigh⟩ := h
  constructor
  · by_contra hn
    have : n * r ≤ n := by nlinarith
    omega
  · by_contra hn
    have : n ≤ n * r := by nlinarith
    omega

lemma epochTime_of_fits (overflowChecks : Bool) {real currentEpoch toEpoch : Int32}
    (hreal : 0 < real.toInt)
    (h : FitsI32 ((toEpoch.toInt - currentEpoch.toInt) * real.toInt)) :
    ∃ time, epochTime overflowChecks real currentEpoch toEpoch = .returns time ∧
      time.toInt = (toEpoch.toInt - currentEpoch.toInt) * real.toInt := by
  obtain ⟨hsub,hgap⟩ := subI32_of_fits overflowChecks (fits_of_mul hreal h)
  rw [←hgap] at h ⊢
  obtain ⟨hmul,htime⟩ := mulI32_of_fits overflowChecks h
  refine ⟨(toEpoch - currentEpoch) * real,?_,htime⟩
  rw [epochTime,hsub]
  exact hmul

lemma epochTimeSafe_iff (hdelay : delay.toNat < 2147483648) (hblock : 0 < maxBlockTime)
    (hduration : 0 < minDuration) {toEpoch : Int32} :
    EpochTimeSafe overflowChecks delay chainState maxBlockTime minDuration toEpoch ↔
      TimesFit delay chainState maxBlockTime minDuration [toEpoch] := by
  obtain ⟨hdiv,hblocks,hpos⟩ := blocksPerEpoch_eq hblock hduration
  constructor
  · rintro ⟨blocks,timePerBlock,real,time,hb,ht,htime,-,hreal,-,hexact⟩
    obtain rfl : minDuration / maxBlockTime = blocks := by simpa [hdiv] using hb
    have hne : minDuration / maxBlockTime ≠ 0 := by
      intro hzero
      rw [hzero,divI32_zero] at ht
      contradiction
    have hle : 0 ≤ (minDuration / maxBlockTime).toInt := by
      rw [hblocks]
      exact Int.ediv_nonneg (toInt_pos hduration).le (toInt_pos hblock).le
    have hne' : (minDuration / maxBlockTime).toInt ≠ 0 := fun h => hne (Int32.toInt_inj.mp h)
    have hduration' : real.toInt = exactDuration delay maxBlockTime minDuration := by
      rw [hreal,htime,hblocks,exactDuration]
    refine ⟨hpos.mp (by omega),?_,?_⟩
    · rw [←hduration']
      exact real.toInt_lt
    · rw [List.forall_mem_singleton,←hduration',←hexact]
      exact fits_toInt time
  · rintro ⟨hfits,hlong,hepoch⟩
    rw [List.forall_mem_singleton] at hepoch
    have hblocks' := hpos.mpr hfits
    rw [exactDuration,←hblocks] at hlong hepoch
    obtain ⟨ht,htime,real,hreal,hexact⟩ := realEpochDuration_of_fits overflowChecks hdelay
      hduration hblocks' hlong
    have hrealpos : 0 < real.toInt := by
      have hextra : 0 ≤ minDuration.toInt / (minDuration / maxBlockTime).toInt * delay.toNat :=
        mul_nonneg (Int.ediv_nonneg (toInt_pos hduration).le hblocks'.le) (Int.natCast_nonneg _)
      have := toInt_pos hduration
      omega
    rw [←hexact] at hepoch
    obtain ⟨time,hcall,htimes⟩ := epochTime_of_fits overflowChecks hrealpos hepoch
    exact ⟨_,_,real,time,hdiv,ht,htime,hreal,by rw [hexact,htime],hcall,htimes⟩

lemma timesFit_iff {epochs : List Int32} (hshown : epochs ≠ []) :
    TimesFit delay chainState maxBlockTime minDuration epochs ↔
      ∀ toEpoch ∈ epochs, TimesFit delay chainState maxBlockTime minDuration [toEpoch] := by
  constructor
  · intro h toEpoch hmem
    refine ⟨h.block_fits,h.duration_fits,?_⟩
    rw [List.forall_mem_singleton]
    exact h.epochs_fit toEpoch hmem
  · intro h
    obtain ⟨shown,hmem⟩ := List.exists_mem_of_ne_nil epochs hshown
    refine ⟨(h shown hmem).block_fits,(h shown hmem).duration_fits,fun toEpoch htoEpoch => ?_⟩
    exact (h toEpoch htoEpoch).epochs_fit toEpoch (List.mem_singleton_self toEpoch)

/-- The times of an unbond and those of a proposal are found without a division by zero and without
an overflow exactly if they fit. -/
theorem epoch_times_safe_iff (overflowChecks : Bool) (hdelay : delay.toNat < 2147483648)
    (chainState : ChainCrawlerStateDb) (hblock : 0 < maxBlockTime) (hduration : 0 < minDuration) :
    (∀ withdrawEpoch,
      EpochTimeSafe overflowChecks delay chainState maxBlockTime minDuration withdrawEpoch ↔
        TimesFit delay chainState maxBlockTime minDuration [withdrawEpoch]) ∧
    ∀ value,
      (∀ toEpoch ∈ shownEpochs value,
        EpochTimeSafe overflowChecks delay chainState maxBlockTime minDuration toEpoch) ↔
        TimesFit delay chainState maxBlockTime minDuration (shownEpochs value) := by
  refine ⟨fun withdrawEpoch => epochTimeSafe_iff hdelay hblock hduration,fun value => ?_⟩
  have hshown : shownEpochs value ≠ [] := List.cons_ne_nil _ _
  rw [timesFit_iff hshown]
  exact forall₂_congr fun toEpoch _ => epochTimeSafe_iff hdelay hblock hduration

/-- A chain with blocks of three seconds and epochs of six hours. -/
theorem epoch_times_safe_six_hours :
    EpochTimeSafe true 2 ⟨1000,10,900,1700000000⟩ 3 21600 30 := by
  have hfits : TimesFit 2 ⟨1000,10,900,1700000000⟩ 3 21600 [30] := by
    refine ⟨by decide,by decide,?_⟩
    rw [List.forall_mem_singleton]
    decide
  exact ((epoch_times_safe_iff true (by decide) _ (by decide) (by decide)).1 30).mpr hfits

/-- A validator that is not described. -/
def plainValidator : ValidatorDb where
  namadaAddress := "tnam1qval"
  votingPower := 1
  maxCommission := "1"
  commission := "0"
  name := none
  email := none
  website := none
  description := none
  discordHandle := none
  avatar := none
  state := .consensus

/-- Epochs of five seconds with blocks of up to ten have no blocks, and an unbond has no time. -/
theorem unbond_divides_by_zero :
    Unbond.fromDb true 2 ⟨1000,10,900,1700000000⟩ 10 5 ⟨7,0⟩ 30 plainValidator =
        .panics "attempt to divide by zero" ∧
      Unbond.fromDb false 2 ⟨1000,10,900,1700000000⟩ 10 5 ⟨7,0⟩ 30 plainValidator =
        .panics "attempt to divide by zero" := ⟨rfl,rfl⟩

lemma not_returns_timeBetweenEpochs (overflowChecks : Bool) (progress : F64)
    (currentEpoch toEpoch : Int32) :
    ¬ (timeBetweenEpochs overflowChecks delay 0 progress currentEpoch toEpoch
      minDuration).Returns := by
  simp [timeBetweenEpochs,realEpochDuration]

lemma blocksPerEpoch_eq_zero (hblock : 0 < maxBlockTime) (hduration : 0 < minDuration)
    (h : minDuration < maxBlockTime) {blocks : Int32}
    (hdiv : divI32 minDuration maxBlockTime = .returns blocks) : blocks = 0 := by
  obtain ⟨hreturns,hcount,-⟩ := blocksPerEpoch_eq hblock hduration
  obtain rfl : minDuration / maxBlockTime = blocks := by simpa [hreturns] using hdiv
  rw [←Int32.toInt_inj,hcount,Int32.toInt_zero]
  exact Int.ediv_eq_zero_of_lt (toInt_pos hduration).le (Int32.lt_iff_toInt_lt.mp h)

/-- Where a block may take longer than an epoch no unbond is shown, with overflow checks or
without. -/
theorem Unbond.not_returns_of_long_blocks (hblock : 0 < maxBlockTime) (hduration : 0 < minDuration)
    (h : minDuration < maxBlockTime) (rawAmount : BigDecimal) (withdrawEpoch : Int32)
    (dbValidator : ValidatorDb) :
    ¬ (fromDb overflowChecks delay chainState maxBlockTime minDuration rawAmount withdrawEpoch
      dbValidator).Returns := by
  rintro ⟨unbond,hunbond⟩
  obtain ⟨blocks,hblocks,hrest⟩ := Panicking.bind_eq_returns.mp hunbond
  obtain ⟨progress,-,hrest⟩ := Panicking.bind_eq_returns.mp hrest
  obtain ⟨toWithdraw,htime,-⟩ := Panicking.bind_eq_returns.mp hrest
  obtain rfl := blocksPerEpoch_eq_zero hblock hduration h hblocks
  exact not_returns_timeBetweenEpochs _ _ _ _ ⟨toWithdraw,htime⟩

theorem Proposal.not_returns_of_long_blocks (hblock : 0 < maxBlockTime)
    (hduration : 0 < minDuration) (h : minDuration < maxBlockTime)
    (parseF64 : String → Option F64) (value : GovernanceProposalDb) :
    ¬ (fromDb overflowChecks delay chainState maxBlockTime minDuration parseF64 value).Returns := by
  rintro ⟨proposal,hproposal⟩
  obtain ⟨blocks,hblocks,hrest⟩ := Panicking.bind_eq_returns.mp hproposal
  obtain ⟨progress,-,hrest⟩ := Panicking.bind_eq_returns.mp hrest
  obtain ⟨toStart,htime,-⟩ := Panicking.bind_eq_returns.mp hrest
  obtain rfl := blocksPerEpoch_eq_zero hblock hduration h hblocks
  exact not_returns_timeBetweenEpochs _ _ _ _ ⟨toStart,htime⟩

/-- With overflow checks a time that is found was found safely. -/
lemma safe_of_timeBetweenEpochs {blocks : Int32}
    (hdiv : divI32 minDuration maxBlockTime = .returns blocks) (hblock : 0 < maxBlockTime)
    (hduration : 0 < minDuration) {progress : F64} {toEpoch time : Int32}
    (h : timeBetweenEpochs true delay blocks progress chainState.lastProcessedEpoch toEpoch
      minDuration = .returns time) (hdelay : delay.toNat < 2147483648) :
    EpochTimeSafe true delay chainState maxBlockTime minDuration toEpoch := by
  obtain ⟨hblocks,hcount,-⟩ := blocksPerEpoch_eq hblock hduration
  obtain rfl : minDuration / maxBlockTime = blocks := by simpa [hblocks] using hdiv
  obtain ⟨real,hreal,hrest⟩ := Panicking.bind_eq_returns.mp h
  obtain ⟨gapTime,hgapTime,-⟩ := Panicking.bind_eq_returns.mp hrest
  obtain ⟨timePerBlock,htime,hparts⟩ := Panicking.bind_eq_returns.mp hreal
  obtain ⟨-,-,hparts⟩ := Panicking.bind_eq_returns.mp hparts
  obtain ⟨extra,hextra,hsum⟩ := Panicking.bind_eq_returns.mp hparts
  obtain ⟨gap,hgap,hproduct⟩ := Panicking.bind_eq_returns.mp hgapTime
  have hnonneg : 0 ≤ (minDuration / maxBlockTime).toInt := by
    rw [hcount]
    exact Int.ediv_nonneg (toInt_pos hduration).le (toInt_pos hblock).le
  have hne : (minDuration / maxBlockTime).toInt ≠ 0 := by
    intro hzero
    rw [Int32.toInt_inj.mp (hzero.trans Int32.toInt_zero.symm),divI32_zero] at htime
    contradiction
  have hpos : 0 < (minDuration / maxBlockTime).toInt := by omega
  obtain ⟨hreturns,hexact,-⟩ := divI32_of_pos (toInt_pos hduration).le hpos
  obtain rfl : minDuration / (minDuration / maxBlockTime) = timePerBlock := by
    simpa [hreturns] using htime
  refine ⟨_,_,real,gapTime,hblocks,hreturns,hexact,hreal,?_,hgapTime,?_⟩
  · rw [toInt_of_checkedI32 (Int32.toInt_add _ _) hsum,
      toInt_of_checkedI32 (Int32.toInt_mul _ _) hextra,toInt_delay hdelay]
  · rw [toInt_of_checkedI32 (Int32.toInt_mul _ _) hproduct,
      toInt_of_checkedI32 (Int32.toInt_sub _ _) hgap]

/-- With overflow checks an unbond that is shown has a time that fits. -/
theorem Unbond.timesFit_of_returns (hdelay : delay.toNat < 2147483648) (hblock : 0 < maxBlockTime)
    (hduration : 0 < minDuration) {rawAmount : BigDecimal} {withdrawEpoch : Int32}
    {dbValidator : ValidatorDb} {unbond : Unbond}
    (h : fromDb true delay chainState maxBlockTime minDuration rawAmount withdrawEpoch dbValidator =
      .returns unbond) :
    TimesFit delay chainState maxBlockTime minDuration [withdrawEpoch] := by
  obtain ⟨blocks,hblocks,h⟩ := Panicking.bind_eq_returns.mp h
  obtain ⟨progress,-,h⟩ := Panicking.bind_eq_returns.mp h
  obtain ⟨toWithdraw,htime,-⟩ := Panicking.bind_eq_returns.mp h
  have hsafe := safe_of_timeBetweenEpochs hblocks hblock hduration htime hdelay
  exact (epochTimeSafe_iff hdelay hblock hduration).mp hsafe

theorem Proposal.timesFit_of_returns (hdelay : delay.toNat < 2147483648)
    (hblock : 0 < maxBlockTime) (hduration : 0 < minDuration) {parseF64 : String → Option F64}
    {value : GovernanceProposalDb} {proposal : Proposal}
    (h : fromDb true delay chainState maxBlockTime minDuration parseF64 value =
      .returns proposal) :
    TimesFit delay chainState maxBlockTime minDuration (shownEpochs value) := by
  obtain ⟨blocks,hblocks,h⟩ := Panicking.bind_eq_returns.mp h
  obtain ⟨progress,-,h⟩ := Panicking.bind_eq_returns.mp h
  obtain ⟨toStart,hstart,h⟩ := Panicking.bind_eq_returns.mp h
  obtain ⟨toEnd,hend,h⟩ := Panicking.bind_eq_returns.mp h
  obtain ⟨toActivation,hactivation,-⟩ := Panicking.bind_eq_returns.mp h
  have hfits {toEpoch time : Int32} (htime : timeBetweenEpochs true delay blocks progress
      chainState.lastProcessedEpoch toEpoch minDuration = .returns time) :
      TimesFit delay chainState maxBlockTime minDuration [toEpoch] :=
    (epochTimeSafe_iff hdelay hblock hduration).mp
      (safe_of_timeBetweenEpochs hblocks hblock hduration htime hdelay)
  refine (timesFit_iff (List.cons_ne_nil _ _)).mpr ?_
  simp only [List.forall_mem_cons]
  exact ⟨hfits hstart,hfits hend,hfits hactivation,by simp⟩

end
end NamadaIndexer.Webserver
