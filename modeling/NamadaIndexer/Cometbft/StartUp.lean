import NamadaIndexer.Cometbft.Prefix

/-! The start of the CometBFT crawler: the choice between the initial query and the crawl loop,
and the heights that are requested then. -/
namespace NamadaIndexer.Cometbft
open NamadaIndexer.Foundation NamadaIndexer.Foundation.Runs NamadaIndexer.Shared
open NamadaIndexer.Shared.Crawler (Crawl u32Max)

section
variable (config : AppConfig) (answer : ℕ → Fetched) (db : CometbftDb) (latestBlock : UInt64)

/-- A batch for which every request is answered and the transaction takes effect. -/
def answeredBatch (chunk : List ℕ) : Label :=
  .batch (chunk.map fun height => some (answer height)) .committed 0

/-- A start in which every request is answered, up to the crawl loop. -/
def startLabels : List Label :=
  .start latestBlock :: match catchUp config.overflowChecks (stateHeight db) latestBlock with
    | .returns (some fromHeight) =>
      (batches config fromHeight latestBlock).map (answeredBatch answer) ++ [.finish]
    | _ => []

/-- The height that the crawl loop is started with. -/
def StartsAt (height : ℕ) : Prop :=
  ∃ s start, execute (System.step config) (.fresh db) (startLabels config answer db latestBlock) =
      some s ∧
    s.process = some ⟨start,.crawling (Crawl.start height)⟩

/-- The node is asked for the height, by the initial query or later by the crawl loop. -/
def Requested (height : ℕ) : Prop :=
  (∃ fromHeight, catchUp config.overflowChecks (stateHeight db) latestBlock =
      .returns (some fromHeight) ∧
    height ∈ (batches config fromHeight latestBlock).flatten.map fun h => (UInt32.ofNat h).toNat) ∨
  ∃ first, StartsAt config answer db latestBlock first ∧ first ≤ height ∧ height < u32Max

/-- The start is right: the difference is not below zero, the crawl loop starts at a height that
exists, and no height after the stored ones is left out. -/
structure StartsRight : Prop where
  difference_exact : ∃ behind, subU64 config.overflowChecks latestBlock CATCH_UP_THRESHOLD =
      .returns behind ∧ (behind.toNat : ℤ) = latestBlock.toNat - CATCH_UP_THRESHOLD.toNat
  first_exists : ∃ first, StartsAt config answer db latestBlock first ∧ 1 ≤ first ∧
    first ≤ latestBlock.toNat
  no_gap : ∀ height, (stateHeight db).toNat < height →
    (height ≤ latestBlock.toNat ∨ height < u32Max) →
      Requested config answer db latestBlock height

/-- The chain is long enough, and either far ahead of the state, or the state names one of its
heights; and the heights fit. -/
def StartFits : Prop :=
  1000 ≤ latestBlock.toNat ∧
    ((stateHeight db).toNat + 1001 < latestBlock.toNat ∧ latestBlock.toNat < 4294967296 ∨
      latestBlock.toNat ≤ (stateHeight db).toNat + 1001 ∧ 1 ≤ (stateHeight db).toNat ∧
        (stateHeight db).toNat ≤ latestBlock.toNat ∧
          (latestBlock.toNat < u32Max ∨ (stateHeight db).toNat = latestBlock.toNat))

variable {config answer db latestBlock}

lemma length_successfulBlocks (chunk : List ℕ) :
    (successfulBlocks chunk (chunk.map fun height => some (answer height))).length =
      chunk.length := by
  induction chunk with
  | nil => rfl
  | cons height heights ih =>
    rw [List.map_cons,successfulBlocks,List.length_cons,List.length_cons,ih]

variable (config answer) in
/-- The batches of an initial query, one after the other. -/
lemma execute_answeredBatches {start : ℕ} {chunks : List (List ℕ)} {s : System}
    (hprocess : s.process = some ⟨start,.initialQuery chunks⟩) :
    ∃ t, execute (System.step config) s (chunks.map (answeredBatch answer)) = some t ∧
      t.process = some ⟨start,.initialQuery []⟩ ∧
      getCometbftCrawler t.db =
        (chunks.getLast?.map chunkMaxBlockHeight).or (getCometbftCrawler s.db) := by
  induction chunks generalizing s with
  | nil => exact ⟨s,rfl,hprocess,rfl⟩
  | cons chunk chunks ih =>
    have hstep : System.step config s (answeredBatch answer chunk) = some
        { s.store start (successfulBlocks chunk (chunk.map fun height => some (answer height)))
            (chunkMaxBlockHeight chunk) 0 with
          process := some ⟨start,.initialQuery chunks⟩ } := by
      simp [System.step,answeredBatch,hprocess,System.queryBatch,length_successfulBlocks]
    obtain ⟨t,hrun,hend,hstate⟩ := ih (s := { s.store start
      (successfulBlocks chunk (chunk.map fun height => some (answer height)))
      (chunkMaxBlockHeight chunk) 0 with process := some ⟨start,.initialQuery chunks⟩ }) rfl
    refine ⟨t,execute_cons_eq_some.mpr ⟨_,hstep,hrun⟩,hend,?_⟩
    rw [hstate]
    cases chunks with
    | nil => simp [System.store]
    | cons next rest =>
      rw [List.getLast?_cons_cons,List.getLast?_eq_some_getLast (List.cons_ne_nil next rest)]
      rfl

lemma getLast?_of_flatten {chunks : List (List ℕ)} {chunk : List ℕ}
    (hlast : chunks.getLast? = some chunk) (hne : chunk ≠ []) :
    chunk.getLast? = chunks.flatten.getLast? := by
  obtain ⟨before,rfl⟩ := List.getLast?_eq_some_iff.mp hlast
  rw [List.flatten_append,List.flatten_singleton,List.getLast?_append_of_ne_nil _ hne]

/-- The initial query ends with the latest height in the state. -/
lemma chunkMax_batches {fromHeight : UInt64} (h : fromHeight.toNat ≤ latestBlock.toNat) :
    (batches config fromHeight latestBlock).getLast?.map chunkMaxBlockHeight =
      some (UInt32.ofNat latestBlock.toNat) := by
  have hflatten : (batches config fromHeight latestBlock).flatten =
      List.range' fromHeight.toNat (latestBlock.toNat + 1 - fromHeight.toNat) := flatten_chunks _ _
  cases hlast : (batches config fromHeight latestBlock).getLast? with
  | none =>
    rw [List.getLast?_eq_none_iff.mp hlast,List.flatten_nil,eq_comm,
      List.range'_eq_nil_iff] at hflatten
    omega
  | some chunk =>
    have hne : chunk ≠ [] := chunks_ne_nil chunk (List.mem_of_getLast? hlast)
    have hend := getLast?_of_flatten hlast hne
    rw [hflatten,List.getLast?_range',if_neg (by omega)] at hend
    have hnat : fromHeight.toNat + (latestBlock.toNat + 1 - fromHeight.toNat) - 1 =
        latestBlock.toNat := by omega
    rw [Option.map_some,chunkMaxBlockHeight,hend,hnat]
    rfl

lemma crawling_inj {start start' first first' : ℕ}
    (h : (some ⟨start,.crawling (Crawl.start first)⟩ : Option Process) =
      some ⟨start',.crawling (Crawl.start first')⟩) : first = first' := by
  simp [Crawl.start] at h
  exact h.2

lemma startsAt_iff_of_run {t : System} {start first height : ℕ}
    (h : execute (System.step config) (.fresh db) (startLabels config answer db latestBlock) =
      some { t with process := some ⟨start,.crawling (Crawl.start first)⟩ }) :
    StartsAt config answer db latestBlock height ↔ height = first := by
  unfold StartsAt
  rw [h]
  constructor
  · rintro ⟨s,start,hs,hprocess⟩
    rw [←Option.some.inj hs] at hprocess
    exact (crawling_inj hprocess).symm
  · rintro rfl
    exact ⟨_,_,rfl,rfl⟩

/-- Without the initial query the loop starts at the height in the state. -/
lemma startsAt_direct
    (h : catchUp config.overflowChecks (stateHeight db) latestBlock = .returns none) {height : ℕ} :
    StartsAt config answer db latestBlock height ↔ height = (stateHeight db).toNat := by
  have hrun : execute (System.step config) (.fresh db) (startLabels config answer db latestBlock) =
      some { System.fresh db with
        process := some ⟨(stateHeight db).toNat,
          .crawling (Crawl.start (stateHeight db).toNat)⟩ } := by
    simp [startLabels,h,System.step,System.fresh,System.startUp]
  exact startsAt_iff_of_run hrun

/-- After the initial query the loop starts at the latest height, as the state holds it. -/
lemma startsAt_query {fromHeight : UInt64}
    (h : catchUp config.overflowChecks (stateHeight db) latestBlock = .returns (some fromHeight))
    (hle : fromHeight.toNat ≤ latestBlock.toNat) {height : ℕ} :
    StartsAt config answer db latestBlock height ↔
      height = (UInt32.ofNat latestBlock.toNat).toNat := by
  have hstart : System.step config (.fresh db) (.start latestBlock) = some { System.fresh db with
      process := some ⟨fromHeight.toNat,
        .initialQuery (batches config fromHeight latestBlock)⟩ } := by
    simp [System.step,System.fresh,System.startUp,h]
  obtain ⟨t,hbatches,hend,hstate⟩ := execute_answeredBatches config answer
    (s := { System.fresh db with
      process := some ⟨fromHeight.toNat,.initialQuery (batches config fromHeight latestBlock)⟩ }) rfl
  rw [chunkMax_batches hle,Option.some_or] at hstate
  have hfinish : System.step config t .finish = some { t with
      process := some ⟨fromHeight.toNat,
        .crawling (Crawl.start (UInt32.ofNat latestBlock.toNat).toNat)⟩ } := by
    simp [System.step,hend,stateHeight,hstate]
  have hrun : execute (System.step config) (.fresh db) (startLabels config answer db latestBlock) =
      some { t with
        process := some ⟨fromHeight.toNat,
          .crawling (Crawl.start (UInt32.ofNat latestBlock.toNat).toNat)⟩ } := by
    rw [startLabels,h]
    refine execute_cons_eq_some.mpr ⟨_,hstart,execute_append_eq_some.mpr ⟨t,hbatches,?_⟩⟩
    exact execute_cons_eq_some.mpr ⟨_,hfinish,rfl⟩
  exact startsAt_iff_of_run hrun

/-- The choice on a chain that is long enough. -/
lemma catchUp_of_le (overflowChecks : Bool) (height : BlockHeight)
    (hlong : 1000 ≤ latestBlock.toNat) :
    catchUp overflowChecks height latestBlock = .returns
      (if height.toNat + 1001 < latestBlock.toNat then some (height.toUInt64 + 1) else none) := by
  have hle : CATCH_UP_THRESHOLD ≤ latestBlock := UInt64.le_iff_toNat_le.mpr hlong
  obtain ⟨hreturns,hnat⟩ := subU64_of_le overflowChecks hle
  have hfrom : (height.toUInt64 + 1).toNat = height.toNat + 1 := by
    rw [UInt64.toNat_add,UInt32.toNat_toUInt64]
    have hlt := height.toNat_lt
    have hone : (1 : UInt64).toNat = 1 := rfl
    omega
  have hthreshold : CATCH_UP_THRESHOLD.toNat = 1000 := rfl
  have hcompare : height.toUInt64 + 1 < latestBlock - CATCH_UP_THRESHOLD ↔
      height.toNat + 1001 < latestBlock.toNat := by
    rw [UInt64.lt_iff_toNat_lt,hnat,hfrom]
    omega
  unfold catchUp
  rw [hreturns]
  simp only [Panicking.returns_bind,Panicking.pure_eq,hcompare]

/-- With the initial query, every height up to the latest is asked for by it. -/
lemma requested_query {fromHeight : UInt64} (hfits : latestBlock.toNat < 4294967296)
    (h : catchUp config.overflowChecks (stateHeight db) latestBlock = .returns (some fromHeight))
    {height : ℕ} (hge : fromHeight.toNat ≤ height) (hle : height ≤ latestBlock.toNat) :
    Requested config answer db latestBlock height := by
  refine .inl ⟨fromHeight,h,?_⟩
  rw [batches,flatten_chunks]
  refine List.mem_map.mpr ⟨height,List.mem_range'_1.mpr ⟨hge,by omega⟩,?_⟩
  exact UInt32.toNat_ofNat_of_lt' (show height < 4294967296 by omega)

/-- What the crawl loop asks for is what some run of it calls. -/
theorem requested_iff_called {height : ℕ} :
    Requested config answer db latestBlock height ↔
      (∃ fromHeight, catchUp config.overflowChecks (stateHeight db) latestBlock =
          .returns (some fromHeight) ∧
        height ∈ (batches config fromHeight latestBlock).flatten.map
          fun h => (UInt32.ofNat h).toNat) ∨
      ∃ first, StartsAt config answer db latestBlock first ∧
        ∃ labels s, execute Crawl.step (Crawl.start first) labels = some s ∧
          Crawler.Event.call height ∈ s.trace :=
  or_congr_right (exists_congr fun _ => and_congr_right fun _ => Crawl.called_iff.symm)

/-- Heights beyond 32 bits are never asked for. -/
lemma Requested.lt {height : ℕ} (h : Requested config answer db latestBlock height) :
    height < 4294967296 := by
  rcases h with ⟨fromHeight,-,hmem⟩ | ⟨first,-,-,hlt⟩
  · obtain ⟨other,-,rfl⟩ := List.mem_map.mp hmem
    exact (UInt32.ofNat other).toNat_lt
  · exact lt_trans hlt (by decide)

lemma startFits_of_startsRight (h : StartsRight config answer db latestBlock) :
    StartFits db latestBlock := by
  have hlong : 1000 ≤ latestBlock.toNat :=
    UInt64.le_iff_toNat_le.mp (subU64_exact_iff.mp h.difference_exact)
  have hchoice := catchUp_of_le config.overflowChecks (stateHeight db) hlong
  refine ⟨hlong,?_⟩
  by_cases hfar : (stateHeight db).toNat + 1001 < latestBlock.toNat
  · left
    exact ⟨hfar,(h.no_gap latestBlock.toNat (by omega) (.inl (le_refl _))).lt⟩
  · right
    rw [if_neg hfar] at hchoice
    obtain ⟨first,hstarts,hone,hexists⟩ := h.first_exists
    obtain rfl := (startsAt_direct hchoice).mp hstarts
    refine ⟨by omega,hone,hexists,?_⟩
    by_contra hnot
    have hlatest := h.no_gap latestBlock.toNat (by omega) (.inl (le_refl _))
    rcases hlatest with ⟨fromHeight,hfrom,-⟩ | ⟨-,-,-,hlt⟩
    · have hnone := Panicking.returns.inj (hchoice.symm.trans hfrom)
      contradiction
    · omega

lemma startsRight_of_startFits (h : StartFits db latestBlock) :
    StartsRight config answer db latestBlock := by
  obtain ⟨hlong,hfits⟩ := h
  have hchoice := catchUp_of_le config.overflowChecks (stateHeight db) hlong
  have hexact := (@subU64_exact_iff config.overflowChecks _ _).mpr
    (UInt64.le_iff_toNat_le.mpr hlong : CATCH_UP_THRESHOLD ≤ latestBlock)
  rcases hfits with ⟨hfar,hbound⟩ | ⟨hnear,hone,hexists,hend⟩
  · rw [if_pos hfar] at hchoice
    have hfrom := catchUp_eq_some hchoice
    have hnat : (UInt32.ofNat latestBlock.toNat).toNat = latestBlock.toNat :=
      UInt32.toNat_ofNat_of_lt' hbound
    have hstarts : StartsAt config answer db latestBlock latestBlock.toNat :=
      (startsAt_query hchoice (by omega)).mpr hnat.symm
    refine ⟨hexact,⟨_,hstarts,by omega,le_refl _⟩,fun height hgt hrange => ?_⟩
    by_cases hle : height ≤ latestBlock.toNat
    · exact requested_query hbound hchoice (by omega) hle
    · exact .inr ⟨_,hstarts,by omega,hrange.resolve_left hle⟩
  · rw [if_neg (by omega)] at hchoice
    have hstarts : StartsAt config answer db latestBlock (stateHeight db).toNat :=
      (startsAt_direct hchoice).mpr rfl
    refine ⟨hexact,⟨_,hstarts,hone,hexists⟩,fun height hgt hrange => ?_⟩
    exact .inr ⟨_,hstarts,by omega,by omega⟩

end

/-- The start is right exactly when the chain has at least 1000 blocks, and either the state is
far behind it, or the state names one of its heights; and the heights fit. -/
theorem cometbft_start_right_iff (config : AppConfig) (answer : ℕ → Fetched) (db : CometbftDb)
    (latestBlock : UInt64) :
    StartsRight config answer db latestBlock ↔ StartFits db latestBlock :=
  ⟨startFits_of_startsRight,startsRight_of_startFits⟩

/-- On a chain of ten blocks the difference goes below zero, and on one of 1001 blocks the loop
starts at height zero. -/
theorem start_wrong_on_short_chain :
    catchUp true 0 10 = .panics "attempt to subtract with overflow" ∧
      ¬ StartsRight sampleConfig (fun _ => sampleFetched) ⟨.empty,none⟩ 10 ∧
      StartsAt sampleConfig (fun _ => sampleFetched) ⟨.empty,none⟩ 1001 0 ∧
      ¬ StartsRight sampleConfig (fun _ => sampleFetched) ⟨.empty,none⟩ 1001 := by
  refine ⟨rfl,fun h => ?_,(startsAt_direct rfl).mpr rfl,fun h => ?_⟩
  · exact absurd (startFits_of_startsRight h).1 (by decide)
  · rcases (startFits_of_startsRight h).2 with ⟨hfar,-⟩ | ⟨-,hone,-⟩
    · exact absurd hfar (by decide)
    · exact absurd hone (by decide)

end NamadaIndexer.Cometbft
