import NamadaIndexer.Cometbft.Crawling

/-! What the CometBFT crawler has stored at any moment: every height from its first start to
the last one in its state. -/
namespace NamadaIndexer.Cometbft
open NamadaIndexer.Foundation NamadaIndexer.Foundation.Runs NamadaIndexer.Shared
open NamadaIndexer.Shared.Crawler (Crawl u32Max)
open NamadaIndexer.Transactions.Restarts (Aligned aligned_loop aligned_returns_ok
  aligned_returns_error)

/-- There is a row for the height. -/
def HasRow (db : CometbftDb) (height : ℕ) : Prop :=
  (UInt32.ofNat height).toInt32 ∈ db.blocks.keys

/-- Where the state names a height, every height from the first start to it has a row. -/
def PrefixStored (s : System) : Prop :=
  ∀ last, getCometbftCrawler s.db = some last →
    ∃ first, s.origin = some first ∧ ∀ height, first ≤ height → height ≤ last.toNat →
      HasRow s.db height

/-- The heights of the chain fit into 32 bits. -/
def Label.Fits : Label → Prop
  | .start latestBlock => latestBlock.toNat < 4294967296
  | _ => True

/-- Every height from the first start to this one is stored. Before anything is stored, the
process has not come further than its own start. -/
def StoredBefore (s : System) (start height : ℕ) : Prop :=
  match s.origin with
  | none => height ≤ start
  | some first => ∀ other, first ≤ other → other < height → HasRow s.db other

/-- The batches that are left begin where the stored heights end. -/
structure BatchesFollow (s : System) (start height : ℕ) (batches : List (List ℕ)) : Prop where
  consecutive : ∃ count, batches.flatten = List.range' height count ∧ height + count ≤ 4294967296
  nonempty : ∀ chunk ∈ batches, chunk ≠ []
  stored : StoredBefore s start height

/-- What holds of a running process. -/
def Follows (s : System) (process : Process) : Prop :=
  match process.stage with
  | .initialQuery batches => ∃ height, BatchesFollow s process.start height batches
  | .crawling crawl => ∃ height, Aligned height crawl ∧ StoredBefore s process.start height

/-- The invariant. -/
structure Consistent (s : System) : Prop where
  prefixStored : PrefixStored s
  origin : s.origin = none ↔ getCometbftCrawler s.db = none
  follows : ∀ process, s.process = some process → Follows s process

section
variable {config : AppConfig} {s t : System}

@[simp] lemma getCometbftCrawler_commit (blocks : List CometbftBlock) (last : BlockHeight)
    (timestamp : ℤ) (db : CometbftDb) :
    getCometbftCrawler (commit blocks last timestamp db) = some last := by
  simp [getCometbftCrawler,commit,insertCrawlerState]

@[simp] lemma getCometbftCrawler_updateTimestamp (timestamp : ℤ) (db : CometbftDb) :
    getCometbftCrawler (updateTimestamp timestamp db) = getCometbftCrawler db := by
  simp only [getCometbftCrawler,updateTimestamp,Option.map_map]
  rfl

lemma hasRow_commit {blocks : List CometbftBlock} {last : BlockHeight} {timestamp : ℤ}
    {db : CometbftDb} {height : ℕ} :
    HasRow (commit blocks last timestamp db) height ↔
      HasRow db height ∨ UInt32.ofNat height ∈ blocks.map CometbftBlock.blockHeight := by
  have hkeys : (blocks.map CometbftBlockDb.ofBlock).map CometbftBlockDb.id =
      (blocks.map CometbftBlock.blockHeight).map UInt32.toInt32 := by
    rw [List.map_map,List.map_map]
    rfl
  unfold HasRow
  simp only [commit,insertCrawlerState,upsertBlocks,Table.mem_keys_insertOrIgnore,hkeys]
  refine or_congr_right ⟨fun h => ?_,List.mem_map_of_mem⟩
  obtain ⟨other,hother,heq⟩ := List.mem_map.mp h
  rwa [←toInt32_inj.mp heq]

/-- A batch whose heights were all fetched. -/
lemma heights_successfulBlocks {chunk : List ℕ} {results : List (Option Fetched)}
    (h : (successfulBlocks chunk results).length = chunk.length) :
    (successfulBlocks chunk results).map CometbftBlock.blockHeight = chunk.map UInt32.ofNat := by
  induction chunk generalizing results with
  | nil =>
    cases results <;> rfl
  | cons height heights ih =>
    match results with
    | [] => simp [successfulBlocks] at h
    | none::results => simp [successfulBlocks] at h
    | some fetched::results =>
      rw [successfulBlocks,List.length_cons,List.length_cons] at h
      rw [successfulBlocks,List.map_cons,List.map_cons,ih (by omega)]

lemma chunks_ne_nil {α : Type*} {size : ℕ} {l : List α} : ∀ chunk ∈ chunks size l, chunk ≠ [] := by
  induction l using chunks.induct size with
  | case1 => simp
  | case2 a as ih =>
    rw [chunks_cons]
    intro chunk hchunk
    rcases List.mem_cons.mp hchunk with rfl | hchunk
    · simp
    · exact ih chunk hchunk

/-- A transaction for the heights that come next. -/
lemma storedBefore_store {start height count : ℕ} {blocks : List CometbftBlock}
    {last : BlockHeight} {timestamp : ℤ} (h : StoredBefore s start height)
    (hblocks : blocks.map CometbftBlock.blockHeight =
      (List.range' height count).map UInt32.ofNat) :
    StoredBefore (s.store start blocks last timestamp) start (height + count) := by
  have hnew : ∀ other, height ≤ other → other < height + count →
      HasRow (commit blocks last timestamp s.db) other := by
    intro other hge hlt
    rw [hasRow_commit,hblocks]
    exact .inr (List.mem_map_of_mem (List.mem_range'_1.mpr ⟨hge,hlt⟩))
  unfold StoredBefore at h ⊢
  cases horigin : s.origin with
  | none =>
    simp only [horigin] at h
    simp only [System.store,horigin,Option.none_or]
    intro other hge hlt
    exact hnew other (h.trans hge) hlt
  | some first =>
    simp only [horigin] at h
    simp only [System.store,horigin,Option.some_or]
    intro other hge hlt
    by_cases hbefore : other < height
    · exact hasRow_commit.mpr (.inl (h other hge hbefore))
    · exact hnew other (by omega) hlt

/-- After a transaction the state names the last of the stored heights. -/
lemma prefixStored_store {start height count : ℕ} {blocks : List CometbftBlock}
    {last : BlockHeight} {timestamp : ℤ} (h : StoredBefore s start height)
    (hblocks : blocks.map CometbftBlock.blockHeight =
      (List.range' height count).map UInt32.ofNat) (hlast : last.toNat + 1 = height + count) :
    PrefixStored (s.store start blocks last timestamp) := by
  intro other hother
  have hstored : StoredBefore (s.store start blocks last timestamp) start (height + count) :=
    storedBefore_store h hblocks
  obtain rfl : last = other := by simpa [System.store] using hother
  obtain ⟨first,hfirst⟩ : ∃ first, (s.store start blocks last timestamp).origin = some first := by
    cases horigin : s.origin <;> simp [System.store,horigin]
  refine ⟨first,hfirst,fun k hge hle => ?_⟩
  rw [StoredBefore,hfirst] at hstored
  exact hstored k hge (by omega)

lemma storedBefore_congr {start height : ℕ} (hblocks : t.db.blocks = s.db.blocks)
    (horigin : t.origin = s.origin) :
    StoredBefore t start height ↔ StoredBefore s start height := by
  have hrow : ∀ other, HasRow t.db other ↔ HasRow s.db other := by
    intro other
    rw [HasRow,HasRow,hblocks]
  unfold StoredBefore
  rw [horigin]
  cases s.origin with
  | none => exact Iff.rfl
  | some first => simp only [hrow]

lemma Follows.congr {process : Process} (hblocks : t.db.blocks = s.db.blocks)
    (horigin : t.origin = s.origin) (h : Follows s process) : Follows t process := by
  unfold Follows at h ⊢
  split at h
  · obtain ⟨height,hfollow⟩ := h
    exact ⟨height,hfollow.consecutive,hfollow.nonempty,
      (storedBefore_congr hblocks horigin).mpr hfollow.stored⟩
  · obtain ⟨height,haligned,hstored⟩ := h
    exact ⟨height,haligned,(storedBefore_congr hblocks horigin).mpr hstored⟩

/-- A step that stores nothing. -/
lemma Consistent.keep (hs : Consistent s) (hblocks : t.db.blocks = s.db.blocks)
    (hstate : getCometbftCrawler t.db = getCometbftCrawler s.db) (horigin : t.origin = s.origin)
    (hfollows : ∀ process, t.process = some process → Follows s process) : Consistent t where
  prefixStored := by
    intro last hlast
    rw [hstate] at hlast
    obtain ⟨first,hfirst,hrows⟩ := hs.prefixStored last hlast
    refine ⟨first,horigin.trans hfirst,fun height hge hle => ?_⟩
    rw [HasRow,hblocks]
    exact hrows height hge hle
  origin := by
    rw [horigin,hstate]
    exact hs.origin
  follows := fun process hprocess => (hfollows process hprocess).congr hblocks horigin

/-- A step that stores the heights that come next. -/
lemma Consistent.store {start height count : ℕ} {blocks : List CometbftBlock}
    {last : BlockHeight} {timestamp : ℤ} (h : StoredBefore s start height)
    (hblocks : blocks.map CometbftBlock.blockHeight =
      (List.range' height count).map UInt32.ofNat) (hlast : last.toNat + 1 = height + count)
    (process : Option Process)
    (hfollows : ∀ p, process = some p → Follows (s.store start blocks last timestamp) p) :
    Consistent { s.store start blocks last timestamp with process := process } where
  prefixStored := prefixStored_store h hblocks hlast
  origin := by
    have hsome : (s.store start blocks last timestamp).origin ≠ none := by
      cases horigin : s.origin <;> simp [System.store,horigin]
    refine iff_of_false hsome ?_
    simp [System.store]
  follows := fun p hp =>
    Follows.congr (s := s.store start blocks last timestamp) rfl rfl (hfollows p hp)

lemma storedBefore_of_some {start upTo : ℕ} {last : BlockHeight} (hs : Consistent s)
    (hlast : getCometbftCrawler s.db = some last) (hle : upTo ≤ last.toNat + 1) :
    StoredBefore s start upTo := by
  obtain ⟨first,hfirst,hrows⟩ := hs.prefixStored last hlast
  unfold StoredBefore
  rw [hfirst]
  exact fun other hge hlt => hrows other hge (by omega)

/-- A running initial query stands behind the stored heights. -/
lemma storedBefore_state {start : ℕ} (hs : Consistent s)
    (hstart : getCometbftCrawler s.db = none → 1 ≤ start) :
    StoredBefore s start ((stateHeight s.db).toNat + 1) := by
  unfold stateHeight
  cases hlast : getCometbftCrawler s.db with
  | none =>
    unfold StoredBefore
    rw [hs.origin.mpr hlast]
    exact hstart hlast
  | some last => exact storedBefore_of_some hs hlast le_rfl

/-- A crawl that starts at the height in the state. -/
lemma follows_crawl_start (start : ℕ) (hs : Consistent s) :
    Follows s ⟨start,.crawling (Crawl.start (stateHeight s.db).toNat)⟩ := by
  refine ⟨(stateHeight s.db).toNat,⟨?_,by simp [Crawl.start],by simp [Crawl.start]⟩,?_⟩
  · intro i hi _
    simpa [Crawl.start,eq_comm] using hi
  · unfold stateHeight
    cases hlast : getCometbftCrawler s.db with
    | none =>
      unfold StoredBefore
      rw [hs.origin.mpr hlast]
      exact Nat.zero_le start
    | some last => exact storedBefore_of_some hs hlast (Nat.le_succ _)

/-- What a choice for the initial query means. -/
lemma catchUp_eq_some {overflowChecks : Bool} {height : BlockHeight} {toHeight fromHeight : UInt64}
    (h : catchUp overflowChecks height toHeight = .returns (some fromHeight)) :
    fromHeight.toNat = height.toNat + 1 := by
  unfold catchUp at h
  obtain ⟨behind,-,h⟩ := Panicking.bind_eq_returns.mp h
  have hchoice := Panicking.returns.inj h
  split at hchoice
  · rw [←Option.some.inj hchoice,UInt64.toNat_add,UInt32.toNat_toUInt64]
    have hlt := height.toNat_lt
    have hone : (1 : UInt64).toNat = 1 := rfl
    omega
  · contradiction

lemma consistent_startUp (hs : Consistent s) {latestBlock : UInt64}
    (hfits : (Label.start latestBlock).Fits) : Consistent (s.startUp config latestBlock) := by
  unfold System.startUp
  split
  · exact hs
  · rename_i fromHeight hcatchUp
    have hfrom := catchUp_eq_some hcatchUp
    refine hs.keep rfl rfl rfl ?_
    rintro process ⟨⟩
    refine ⟨fromHeight.toNat,⟨_,flatten_chunks _ _,?_⟩,chunks_ne_nil,?_⟩
    · have hlatest : latestBlock.toNat < 4294967296 := hfits
      have hheight := (stateHeight s.db).toNat_lt
      omega
    · rw [hfrom]
      exact storedBefore_state hs fun _ => Nat.le_add_left _ _
  · refine hs.keep rfl rfl rfl ?_
    rintro process ⟨⟩
    exact follows_crawl_start _ hs

/-- A batch that is stored takes the next heights. -/
lemma consistent_queryBatch (hs : Consistent s) {process : Process} {chunk : List ℕ}
    {rest : List (List ℕ)} (hprocess : s.process = some process)
    (hstage : process.stage = .initialQuery (chunk::rest)) (results : List (Option Fetched))
    (transaction : TransactionEnd) (timestamp : ℤ) :
    Consistent (s.queryBatch process chunk rest results transaction timestamp) := by
  have hfollows := hs.follows process hprocess
  unfold Follows at hfollows
  simp only [hstage] at hfollows
  obtain ⟨height,⟨count,hflatten,hbound⟩,hnonempty,hstored⟩ := hfollows
  obtain ⟨k,hk,hchunk,hrest⟩ := List.range'_eq_append_iff.mp
    (List.flatten_cons.symm.trans hflatten).symm
  rw [Nat.mul_one] at hrest
  have hpos : k ≠ 0 := by
    rintro rfl
    exact hnonempty chunk List.mem_cons_self hchunk
  have hlast : (chunkMaxBlockHeight chunk).toNat + 1 = height + k := by
    rw [chunkMaxBlockHeight,hchunk,List.getLast?_range',if_neg hpos,Option.getD_some,
      UInt32.toNat_ofNat_of_lt']
    · omega
    · have hlt : height + k - 1 < 4294967296 := by omega
      exact hlt
  unfold System.queryBatch
  dsimp only
  split
  · exact hs
  · rename_i hlength
    have hblocks : (successfulBlocks chunk results).map CometbftBlock.blockHeight =
        (List.range' height k).map UInt32.ofNat := by
      rw [heights_successfulBlocks (not_not.mp hlength),←hchunk]
    cases transaction with
    | committed =>
      refine Consistent.store hstored hblocks hlast _ ?_
      rintro process' ⟨⟩
      refine ⟨height + k,⟨count - k,hrest,by omega⟩,?_,storedBefore_store hstored hblocks⟩
      exact fun other hother => hnonempty other (List.mem_cons_of_mem _ hother)
    | failed => exact hs.keep rfl rfl rfl (by simp)
    | unanswered => exact Consistent.store hstored hblocks hlast none (by simp)

/-- A step of the loop that keeps the process where it stands. -/
lemma Consistent.advance (hs : Consistent s) {label : Crawler.Label}
    (haligned : ∀ {height : ℕ} {crawl crawl' : Crawl}, Aligned height crawl →
      crawl.step label = some crawl' → Aligned height crawl')
    (h : s.advance label = some t) : Consistent t := by
  obtain ⟨process,hprocess,h⟩ := Option.bind_eq_some_iff.mp h
  have hfollows := hs.follows process hprocess
  unfold Follows at hfollows
  split at h
  · rename_i crawl hstage
    obtain ⟨crawl',hstep,h⟩ := Option.bind_eq_some_iff.mp h
    obtain rfl := Option.some.inj h
    simp only [hstage] at hfollows
    obtain ⟨height,hheight,hstored⟩ := hfollows
    refine hs.keep rfl rfl rfl ?_
    rintro process' ⟨⟩
    exact ⟨height,haligned hheight hstep,hstored⟩
  · contradiction

lemma StoredBefore.mono {start height height' : ℕ} (h : StoredBefore s start height')
    (hle : height ≤ height') : StoredBefore s start height := by
  unfold StoredBefore at h ⊢
  split at h
  · omega
  · exact fun other hge hlt => h other hge (by omega)

/-- A block that is stored is the next one. -/
lemma consistent_attempt (hs : Consistent s) {process : Process} {crawl : Crawl} {index : ℕ}
    (hprocess : s.process = some process) (hstage : process.stage = .crawling crawl)
    (hcalling : crawl.control = .calling index) {a : Attempt}
    (h : s.attempt process.start index a = some t) : Consistent t := by
  have hfollows := hs.follows process hprocess
  unfold Follows at hfollows
  simp only [hstage] at hfollows
  obtain ⟨height,haligned,hstored⟩ := hfollows
  obtain ⟨rfl,hbound⟩ := haligned.calling index hcalling
  have hlast : (UInt32.ofNat index).toNat + 1 = index + 1 := by
    rw [UInt32.toNat_ofNat_of_lt']
    exact lt_trans hbound (by decide)
  have hblocks : ∀ fetched, [(⟨UInt32.ofNat index,fetched⟩ : CometbftBlock)].map
      CometbftBlock.blockHeight = (List.range' index 1).map UInt32.ofNat := fun _ => rfl
  -- the loop goes on from a database with the block
  have hstore : ∀ fetched timestamp label height',
      (∀ {crawl' : Crawl}, crawl.step label = some crawl' → Aligned height' crawl') →
      height' ≤ index + 1 →
      (s.store process.start [⟨UInt32.ofNat index,fetched⟩] (UInt32.ofNat index)
        timestamp).advance label = some t → Consistent t := by
    intro fetched timestamp label height' hstep hle hadvance
    obtain ⟨process',hprocess',hadvance⟩ := Option.bind_eq_some_iff.mp hadvance
    obtain rfl : process = process' := Option.some.inj (hprocess.symm.trans hprocess')
    rw [hstage] at hadvance
    obtain ⟨crawl',hcrawl',hadvance⟩ := Option.bind_eq_some_iff.mp hadvance
    obtain rfl := Option.some.inj hadvance
    refine Consistent.store hstored (hblocks fetched) hlast _ ?_
    rintro process' ⟨⟩
    exact ⟨height',hstep hcrawl',(storedBefore_store hstored (hblocks fetched)).mono hle⟩
  cases a with
  | rpcError => exact hs.advance (fun haligned => aligned_returns_error haligned (by decide)) h
  | notYet timestamp =>
    have htouched : Consistent { s with db := updateTimestamp timestamp s.db } :=
      hs.keep rfl (by simp) rfl hs.follows
    exact htouched.advance (fun haligned => aligned_returns_error haligned (by decide)) h
  | fetched fetched transaction timestamp =>
    cases transaction with
    | committed =>
      exact hstore fetched timestamp _ (index + 1) (aligned_returns_ok haligned) (le_refl _) h
    | failed => exact hs.advance (fun haligned => aligned_returns_error haligned (by decide)) h
    | unanswered =>
      exact hstore fetched timestamp _ index (aligned_returns_error haligned (by decide))
        (Nat.le_succ _) h

/-- Every step keeps the invariant, as long as the heights of the chain fit. -/
theorem consistent_step (hs : Consistent s) {label : Label} (hfits : label.Fits)
    (h : s.step config label = some t) : Consistent t := by
  cases label with
  | start latestBlock =>
    simp only [System.step] at h
    split at h
    · contradiction
    · obtain rfl := Option.some.inj h
      exact consistent_startUp hs hfits
  | batch results transaction timestamp =>
    obtain ⟨process,hprocess,h⟩ := Option.bind_eq_some_iff.mp h
    split at h
    · rename_i chunk rest hstage
      obtain rfl := Option.some.inj h
      exact consistent_queryBatch hs hprocess hstage results transaction timestamp
    · contradiction
  | finish =>
    obtain ⟨process,hprocess,h⟩ := Option.bind_eq_some_iff.mp h
    split at h
    · obtain rfl := Option.some.inj h
      refine hs.keep rfl rfl rfl ?_
      rintro process' ⟨⟩
      exact follows_crawl_start _ hs
    · contradiction
  | crash =>
    obtain rfl := Option.some.inj h
    exact hs.keep rfl rfl rfl (by simp)
  | raiseExit => exact hs.advance (fun haligned => aligned_loop haligned (by simp)) h
  | poll => exact hs.advance (fun haligned => aligned_loop haligned (by simp)) h
  | checkRetry => exact hs.advance (fun haligned => aligned_loop haligned (by simp)) h
  | attempt a =>
    obtain ⟨process,hprocess,h⟩ := Option.bind_eq_some_iff.mp h
    split at h
    · rename_i crawl hstage
      split at h
      · rename_i index hcalling
        exact consistent_attempt hs hprocess hstage hcalling h
      · contradiction
    · contradiction

lemma consistent_fresh {db : CometbftDb} (hfresh : db.crawlerState = none) :
    Consistent (.fresh db) := by
  have hnone : getCometbftCrawler (System.fresh db).db = none := by
    rw [getCometbftCrawler,System.fresh,hfresh]
    rfl
  refine ⟨?_,iff_of_true rfl hnone,?_⟩
  · intro last hlast
    rw [hnone] at hlast
    contradiction
  · intro process hprocess
    contradiction

end

/-- Over any run of fetches that fail, transactions that fail or lose their answer, crashes and
restarts, every height from the first start to the one in the state has a row. -/
theorem prefix_stored (config : AppConfig) {db : CometbftDb} (hfresh : db.crawlerState = none)
    {labels : List Label} (hfits : ∀ label ∈ labels, label.Fits) {s : System}
    (hrun : execute (System.step config) (.fresh db) labels = some s) : PrefixStored s := by
  have hgood : Along (System.step config) (fun _ label => label.Fits) (.fresh db) labels :=
    along_of_forall hfits
  exact (execute_invariant Consistent (fun _ _ _ hs hfits => consistent_step hs hfits)
    (consistent_fresh hfresh) hgood hrun).prefixStored

def sampleConfig : AppConfig := ⟨4,by decide,true⟩

/-- The answer for a height. -/
def sampleFetched : Fetched := ⟨"block","events",1⟩

/-- A chain of 1006 blocks: two batches are stored, the second one after a fetch that failed in
the middle and without an answer. After the crash the rest is within reach of the crawl loop. -/
def sampleLabels : List Label :=
  [.start 1006,.batch [some sampleFetched,some sampleFetched,some sampleFetched,some sampleFetched]
      .committed 0,
    .batch [some sampleFetched,none,some sampleFetched,some sampleFetched] .committed 1,
    .batch [some sampleFetched,some sampleFetched,some sampleFetched,some sampleFetched]
      .unanswered 2,
    .start 1006,.poll,.attempt .rpcError,.checkRetry,.attempt (.fetched sampleFetched .committed 3),
    .poll,.attempt (.fetched sampleFetched .unanswered 4),.crash]

theorem prefix_stored_sample : ∃ s,
    execute (System.step sampleConfig) (.fresh ⟨.empty,none⟩) sampleLabels = some s ∧
      getCometbftCrawler s.db = some 9 ∧ PrefixStored s := by
  have hrun : (execute (System.step sampleConfig) (.fresh ⟨.empty,none⟩) sampleLabels).map
      (fun s => getCometbftCrawler s.db) = some (some 9) := by decide +kernel
  obtain ⟨s,hs,hstate⟩ := Option.map_eq_some_iff.mp hrun
  refine ⟨s,hs,hstate,prefix_stored sampleConfig rfl ?_ hs⟩
  simp [sampleLabels,Label.Fits]

end NamadaIndexer.Cometbft
