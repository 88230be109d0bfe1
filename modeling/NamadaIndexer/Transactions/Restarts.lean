import NamadaIndexer.Shared.Crawler
import NamadaIndexer.Transactions.Acks

/-! The transactions crawler over failures, crashes and restarts: which heights its runs
commit. -/
namespace NamadaIndexer.Transactions.Restarts
open NamadaIndexer.Foundation.Runs NamadaIndexer.Shared NamadaIndexer.Shared.Crawler

structure AppConfig where
  fromBlockHeight : BlockHeight
  backfillFrom : Option BlockHeight
  deriving DecidableEq, Repr

structure BlockCrawlerState where
  lastProcessedBlock : BlockHeight
  timestamp : ℤ
  deriving DecidableEq, Repr

/-- `get_crawler_state`, with the failure of the database if there is one. A missing row is an
error as well. -/
def getCrawlerState (failure : Option String) (db : Db) : Except String BlockCrawlerState :=
  match failure,db.crawlerState with
  | some message,_ => .error message
  | none,some crawlerState =>
    .ok ⟨crawlerState.lastProcessedBlock.toUInt32,crawlerState.timestamp⟩
  | none,none => .error "Failed to read chain crawler state from the db"

/-- The choice of `next_block` in `main` -/
def nextBlock (config : AppConfig) (crawlerState : Except String BlockCrawlerState) : BlockHeight :=
  match config.backfillFrom with
  | some height => height
  | none =>
    let fromState :=
      match crawlerState with
      | .ok cs => cs.lastProcessedBlock+1
      | .error _ => 1
    if fromState ≤ config.fromBlockHeight then config.fromBlockHeight else fromState

/-- `update_crawler_timestamp` -/
def updateCrawlerTimestamp (timestamp : ℤ) (db : Db) : Db :=
  { db with crawlerState := db.crawlerState.map fun row => { row with timestamp } }

/-- A process works with one connection from its start on. -/
structure Process where
  crawl : Crawl
  connected : Bool

/-- The database, the process if one is running, and the heights in the order in which they
were committed. -/
structure System where
  db : Db
  process : Option Process
  committed : List ℕ

def System.fresh (db : Db) : System := ⟨db,none,[]⟩

/-- How a call for a block goes. A commit may take place and lose its answer together with the
connection. -/
inductive Attempt (sdk : Sdk)
  | rpcError
  | notYet (timestamp : ℤ)
  | databaseError (stillConnected : Bool)
  | committed (pass : Pass sdk)
  | unanswered (pass : Pass sdk)

inductive Label (sdk : Sdk)
  | start (failure : Option String)
  | crash
  | raiseExit
  | poll
  | checkRetry
  | attempt (a : Attempt sdk)

section
variable {sdk : Sdk}

namespace System

/-- A step of the crawl loop. -/
def advance (s : System) (label : Crawler.Label) : Option System := do
  let process ← s.process
  let crawl ← process.crawl.step label
  return { s with process := some { process with crawl } }

def disconnect (s : System) : System :=
  { s with process := s.process.map fun process => { process with connected := false } }

/-- The commit of a block of the height that was asked for. -/
def store (config : AppConfig) (s : System) (index : ℕ) (pass : Pass sdk) : Option System :=
  if pass.shouldUpdateCrawlerState = config.backfillFrom.isNone ∧
      pass.crawled.block.header.height = .ofNat index then do
    let db ← commit s.db pass
    return { s with db, committed := s.committed ++ [index] }
  else none

/-- A call of `crawling_fn` that has come to its end. Without a connection it fails. -/
def attempt (config : AppConfig) (s : System) (index : ℕ) (connected : Bool) :
    Attempt sdk → Option System
  | .rpcError => s.advance (.returns (.error .rpcError))
  | .notYet timestamp =>
    if connected then
      { s with db := updateCrawlerTimestamp timestamp s.db }.advance (.returns (.error .noAction))
    else none
  | .databaseError stillConnected =>
    (if stillConnected then s else s.disconnect).advance (.returns (.error .database))
  | .committed pass =>
    if connected then
      (s.store config index pass).bind fun s => s.advance (.returns (.ok ()))
    else none
  | .unanswered pass =>
    if connected then
      (s.store config index pass).bind fun s =>
        s.disconnect.advance (.returns (.error .database))
    else none

/-- A process starts where none is running, and may crash at any time. -/
def step (config : AppConfig) (s : System) : Label sdk → Option System
  | .start failure =>
    match s.process with
    | some _ => none
    | none =>
      let next := nextBlock config (getCrawlerState failure s.db)
      some { s with process := some ⟨Crawl.start next.toNat,true⟩ }
  | .crash => some { s with process := none }
  | .raiseExit => s.advance .raiseExit
  | .poll => s.advance .poll
  | .checkRetry => s.advance .checkRetry
  | .attempt a => do
    let process ← s.process
    match process.crawl.control with
    | .calling index => s.attempt config index process.connected a
    | _ => none

end System

/-- The starting height of a fixed configuration. -/
def firstHeight (config : AppConfig) : ℕ := max 1 config.fromBlockHeight.toNat

/-- The height that is stored as the last one. -/
def lastProcessed (db : Db) : Option ℕ :=
  db.crawlerState.map fun row => row.lastProcessedBlock.toUInt32.toNat

/-- The committed heights are those from the starting height to the stored one, in order and
each of them once. -/
def IndexedOnce (config : AppConfig) (s : System) : Prop :=
  match lastProcessed s.db with
  | none => s.committed = []
  | some last => firstHeight config ≤ last ∧
    s.committed = List.range' (firstHeight config) (last+1-firstHeight config)

/-- A start-up read does not fail once a state is stored. -/
def ReadsState (s : System) : Label sdk → Prop
  | .start (some _) => s.db.crawlerState = none
  | _ => True

/-- The height after the last one that is stored. -/
def nextHeight (config : AppConfig) (db : Db) : ℕ :=
  match lastProcessed db with
  | none => firstHeight config
  | some last => last+1

/-- The loop stands at the height, unless it is about to stop. -/
structure Aligned (height : ℕ) (crawl : Crawl) : Prop where
  next : ∀ i, crawl.control = .next i → crawl.mustExit = false → i = height
  calling : ∀ i, crawl.control = .calling i → i = height ∧ i < u32Max
  failed : ∀ i e, crawl.control = .failed i e → i = height ∧ i < u32Max ∧ e ≠ .taskJoinError

/-- The invariant. A process that has lost its connection commits nothing any more. -/
structure Consistent (config : AppConfig) (s : System) : Prop where
  indexedOnce : IndexedOnce config s
  bounded : ∀ last, lastProcessed s.db = some last → last < u32Max
  aligned : ∀ process, s.process = some process → process.connected = true →
    Aligned (nextHeight config s.db) process.crawl

theorem advance_eq_some {s t : System} {label : Crawler.Label} :
    s.advance label = some t ↔ ∃ process crawl, s.process = some process ∧
      process.crawl.step label = some crawl ∧
      { s with process := some { process with crawl } } = t := by
  simp [System.advance,Option.bind_eq_some_iff]

theorem store_eq_some {config : AppConfig} {s t : System} {index : ℕ} {pass : Pass sdk} :
    s.store config index pass = some t ↔
      pass.shouldUpdateCrawlerState = config.backfillFrom.isNone ∧
      pass.crawled.block.header.height = .ofNat index ∧
      ∃ db, commit s.db pass = some db ∧
        { s with db, committed := s.committed ++ [index] } = t := by
  simp [System.store,Option.bind_eq_some_iff,and_assoc]

/-- The steps of the loop between two calls. -/
theorem aligned_loop {height : ℕ} {crawl crawl' : Crawl} {label : Crawler.Label}
    (h : Aligned height crawl) (hlabel : ∀ outcome, label ≠ .returns outcome)
    (hstep : crawl.step label = some crawl') : Aligned height crawl' := by
  obtain ⟨rfl,rfl⟩ | ⟨rfl,i,hc,hi,hexit,rfl⟩ | ⟨rfl,i,hc,-,rfl⟩ | ⟨i,rfl,hc,rfl⟩ | ⟨i,e,rfl,hc,rfl⟩ |
    ⟨rfl,i,e,hc,-,rfl⟩ | ⟨rfl,i,e,hc,hretry,rfl⟩ := Crawl.step_cases hstep
  · exact ⟨by simp,h.calling,h.failed⟩
  · refine ⟨by simp,?_,by simp⟩
    intro j hj
    obtain rfl : i = j := by simpa using hj
    exact ⟨h.next i hc hexit,hi⟩
  · exact ⟨by simp,by simp,by simp⟩
  · exact absurd rfl (hlabel _)
  · exact absurd rfl (hlabel _)
  · refine ⟨by simp,?_,by simp⟩
    intro j hj
    obtain rfl : i = j := by simpa using hj
    obtain ⟨hheight,hi,-⟩ := h.failed i e hc
    exact ⟨hheight,hi⟩
  -- only the raised flag or a task failure ends the retries
  · refine ⟨?_,by simp,by simp⟩
    intro j _ hexit
    obtain hup | rfl := Crawl.shouldRetry_eq_false hretry
    · simp [hup] at hexit
    · exact absurd rfl (h.failed i _ hc).2.2

theorem aligned_returns_error {height : ℕ} {crawl crawl' : Crawl} {e : MainError}
    (h : Aligned height crawl) (he : e ≠ .taskJoinError)
    (hstep : crawl.step (.returns (.error e)) = some crawl') : Aligned height crawl' := by
  cases hc : crawl.control with
  | calling i =>
    simp only [Crawl.step,hc] at hstep
    cases hstep
    refine ⟨by simp,by simp,?_⟩
    intro j e' hj
    obtain ⟨rfl,rfl⟩ : i = j ∧ e = e' := by simpa using hj
    obtain ⟨hheight,hi⟩ := h.calling i hc
    exact ⟨hheight,hi,he⟩
  | next i => simp [Crawl.step,hc] at hstep
  | failed i e' => simp [Crawl.step,hc] at hstep
  | done => simp [Crawl.step,hc] at hstep

theorem aligned_returns_ok {height : ℕ} {crawl crawl' : Crawl} (h : Aligned height crawl)
    (hstep : crawl.step (.returns (.ok ())) = some crawl') : Aligned (height+1) crawl' := by
  cases hc : crawl.control with
  | calling i =>
    simp only [Crawl.step,hc] at hstep
    cases hstep
    refine ⟨?_,by simp,by simp⟩
    intro j hj _
    obtain rfl : i+1 = j := by simpa using hj
    rw [(h.calling i hc).1]
  | next i => simp [Crawl.step,hc] at hstep
  | failed i e' => simp [Crawl.step,hc] at hstep
  | done => simp [Crawl.step,hc] at hstep

variable {config : AppConfig} {s t : System}

/-- A failed read, and one of an empty table, start at the first height. -/
theorem nextBlock_error (hforward : config.backfillFrom = none) (message : String) :
    (nextBlock config (.error message)).toNat = firstHeight config := by
  simp only [nextBlock,hforward,firstHeight]
  split
  · rename_i hle
    have hle : 1 ≤ config.fromBlockHeight.toNat := UInt32.le_iff_toNat_le.mp hle
    omega
  · rename_i hlt
    have hlt : ¬ 1 ≤ config.fromBlockHeight.toNat := fun hle => hlt (UInt32.le_iff_toNat_le.mpr hle)
    have hone : (1 : UInt32).toNat = 1 := rfl
    omega

/-- A stored state is continued with the next height. -/
theorem nextBlock_ok (hforward : config.backfillFrom = none) {crawlerState : BlockCrawlerState}
    (hfirst : firstHeight config ≤ crawlerState.lastProcessedBlock.toNat)
    (hbounded : crawlerState.lastProcessedBlock.toNat < u32Max) :
    (nextBlock config (.ok crawlerState)).toNat = crawlerState.lastProcessedBlock.toNat+1 := by
  have hsucc : (crawlerState.lastProcessedBlock+1).toNat =
      crawlerState.lastProcessedBlock.toNat+1 := by
    rw [UInt32.toNat_add]
    have hone : (1 : UInt32).toNat = 1 := rfl
    unfold u32Max at hbounded
    omega
  have hlt : ¬ crawlerState.lastProcessedBlock+1 ≤ config.fromBlockHeight := by
    intro hle
    have hle := UInt32.le_iff_toNat_le.mp hle
    unfold firstHeight at hfirst
    omega
  simp only [nextBlock,hforward]
  rw [if_neg hlt,hsucc]

theorem start_height (hforward : config.backfillFrom = none) (hs : Consistent config s)
    {failure : Option String} (hreads : ReadsState s (Label.start failure : Label sdk)) :
    (nextBlock config (getCrawlerState failure s.db)).toNat = nextHeight config s.db := by
  have hindexed := hs.indexedOnce
  have hbounded := hs.bounded
  unfold IndexedOnce lastProcessed at hindexed
  unfold lastProcessed at hbounded
  cases hstate : s.db.crawlerState with
  | none =>
    have herror : ∃ message, getCrawlerState failure s.db = .error message := by
      cases failure with
      | none =>
        exact ⟨"Failed to read chain crawler state from the db",by
          simp only [getCrawlerState,hstate]⟩
      | some message => exact ⟨message,by simp only [getCrawlerState]⟩
    obtain ⟨message,herror⟩ := herror
    rw [herror,nextBlock_error hforward]
    simp only [nextHeight,lastProcessed,hstate,Option.map_none]
  | some row =>
    rw [hstate] at hindexed hbounded
    cases failure with
    | some message =>
      have hnone : s.db.crawlerState = none := hreads
      rw [hnone] at hstate
      contradiction
    | none =>
      simp only [getCrawlerState,hstate]
      rw [nextBlock_ok hforward hindexed.1 (hbounded _ rfl)]
      simp only [nextHeight,lastProcessed,hstate,Option.map_some]

/-- A commit of the next height extends the interval by it. -/
theorem store_indexedOnce (hforward : config.backfillFrom = none) (hs : Consistent config s)
    {index : ℕ} {pass : Pass sdk} (hindex : index = nextHeight config s.db)
    (hbounded : index < u32Max) (h : s.store config index pass = some t) :
    IndexedOnce config t ∧ lastProcessed t.db = some index ∧ t.process = s.process := by
  obtain ⟨hupdate,hheight,db,hcommit,rfl⟩ := store_eq_some.mp h
  have hstate := (commit_eq_some.mp hcommit).crawlerState
  rw [hupdate,hforward] at hstate
  have hlast : lastProcessed db = some index := by
    have hindex : (UInt32.ofNat index).toNat = index := by
      apply UInt32.toNat_ofNat_of_lt'
      unfold u32Max at hbounded
      exact lt_trans hbounded (by decide)
    simp [lastProcessed,hstate,BlockCrawlerStateDb.ofBlock,hheight,hindex]
  refine ⟨?_,hlast,rfl⟩
  have hindexed := hs.indexedOnce
  unfold IndexedOnce at hindexed ⊢
  unfold nextHeight at hindex
  simp only [hlast]
  cases hprevious : lastProcessed s.db with
  | none =>
    simp only [hprevious] at hindexed hindex
    rw [hindexed,hindex]
    exact ⟨le_refl _,by simp⟩
  | some last =>
    simp only [hprevious] at hindexed hindex
    obtain ⟨hfirst,hcommitted⟩ := hindexed
    refine ⟨by omega,?_⟩
    have hlength : index+1-firstHeight config = (last+1-firstHeight config)+1 := by omega
    have hend : index = firstHeight config+(last+1-firstHeight config) := by omega
    rw [hlength,List.range'_1_concat,hcommitted,←hend]

/-- After a commit the invariant holds if a connected process stands at the height after it. -/
theorem store_consistent (hforward : config.backfillFrom = none) (hs : Consistent config s)
    {m : System} {index : ℕ} {pass : Pass sdk} (hindex : index = nextHeight config s.db)
    (hbounded : index < u32Max) (h : s.store config index pass = some m) (hdb : t.db = m.db)
    (hcommitted : t.committed = m.committed)
    (haligned : ∀ process, t.process = some process → process.connected = true →
      Aligned (index+1) process.crawl) : Consistent config t := by
  obtain ⟨hindexed,hlast,-⟩ := store_indexedOnce hforward hs hindex hbounded h
  refine ⟨?_,?_,?_⟩
  · unfold IndexedOnce at hindexed ⊢
    rwa [hdb,hcommitted]
  · intro last hlast'
    rw [hdb,hlast] at hlast'
    cases hlast'
    exact hbounded
  · have hnext : nextHeight config t.db = index+1 := by
      simp only [nextHeight,hdb,hlast]
    rw [hnext]
    exact haligned

/-- A step that neither commits nor moves a connected process away from the next height. -/
theorem Consistent.keep (hs : Consistent config s)
    (hlast : lastProcessed t.db = lastProcessed s.db) (hcommitted : t.committed = s.committed)
    (haligned : ∀ process, t.process = some process → process.connected = true →
      Aligned (nextHeight config s.db) process.crawl) : Consistent config t where
  indexedOnce := by
    have hindexed := hs.indexedOnce
    unfold IndexedOnce at hindexed ⊢
    rwa [hlast,hcommitted]
  bounded := by
    rw [hlast]
    exact hs.bounded
  aligned := by
    have hnext : nextHeight config t.db = nextHeight config s.db := by
      simp only [nextHeight,hlast]
    rw [hnext]
    exact haligned

/-- A step of the loop keeps the invariant if it keeps connected processes aligned. -/
theorem Consistent.advance (hs : Consistent config s) {label : Crawler.Label}
    (haligned : ∀ {crawl crawl' : Crawl}, Aligned (nextHeight config s.db) crawl →
      crawl.step label = some crawl' → Aligned (nextHeight config s.db) crawl')
    (h : s.advance label = some t) : Consistent config t := by
  obtain ⟨process,crawl,hprocess,hstep,rfl⟩ := advance_eq_some.mp h
  refine hs.keep rfl rfl ?_
  intro process' hprocess' hconnected
  cases hprocess'
  exact haligned (hs.aligned process hprocess hconnected) hstep

theorem Consistent.disconnect (hs : Consistent config s) : Consistent config s.disconnect := by
  refine hs.keep rfl rfl ?_
  intro process hprocess hconnected
  obtain ⟨process',-,rfl⟩ := Option.map_eq_some_iff.mp hprocess
  contradiction

theorem attempt_consistent (hforward : config.backfillFrom = none) (hs : Consistent config s)
    {process : Process} {index : ℕ} (hprocess : s.process = some process)
    (hcalling : process.crawl.control = .calling index) {a : Attempt sdk}
    (h : s.attempt config index process.connected a = some t) : Consistent config t := by
  have hcalls : process.connected = true → index = nextHeight config s.db ∧ index < u32Max :=
    fun hconnected => (hs.aligned process hprocess hconnected).calling index hcalling
  cases a with
  | rpcError =>
    exact hs.advance (fun haligned => aligned_returns_error haligned (by decide)) h
  | notYet timestamp =>
    simp only [System.attempt] at h
    split at h
    · have htouched : Consistent config { s with db := updateCrawlerTimestamp timestamp s.db } := by
        apply hs.keep
        · simp only [lastProcessed,updateCrawlerTimestamp,Option.map_map]
          rfl
        · rfl
        · exact hs.aligned
      exact htouched.advance (fun haligned => aligned_returns_error haligned (by decide)) h
    · contradiction
  | databaseError stillConnected =>
    simp only [System.attempt] at h
    split at h
    · exact hs.advance (fun haligned => aligned_returns_error haligned (by decide)) h
    · exact hs.disconnect.advance (fun haligned => aligned_returns_error haligned (by decide)) h
  | committed pass =>
    simp only [System.attempt] at h
    split at h
    · rename_i hconnected
      obtain ⟨hindex,hbounded⟩ := hcalls hconnected
      obtain ⟨m,hm,h⟩ := Option.bind_eq_some_iff.mp h
      obtain ⟨-,-,hsame⟩ := store_indexedOnce hforward hs hindex hbounded hm
      obtain ⟨process',crawl,hprocess',hstep,rfl⟩ := advance_eq_some.mp h
      obtain rfl : process = process' := by
        rw [hsame,hprocess] at hprocess'
        exact Option.some.inj hprocess'
      refine store_consistent hforward hs hindex hbounded hm rfl rfl ?_
      intro process' hprocess' _
      cases hprocess'
      rw [hindex]
      exact aligned_returns_ok (hs.aligned process hprocess hconnected) hstep
    · contradiction
  | unanswered pass =>
    simp only [System.attempt] at h
    split at h
    · rename_i hconnected
      obtain ⟨hindex,hbounded⟩ := hcalls hconnected
      obtain ⟨m,hm,h⟩ := Option.bind_eq_some_iff.mp h
      have hlost : Consistent config m.disconnect := by
        refine store_consistent hforward hs hindex hbounded hm rfl rfl ?_
        intro process hprocess hconnected
        obtain ⟨process',-,rfl⟩ := Option.map_eq_some_iff.mp hprocess
        contradiction
      exact hlost.advance (fun haligned => aligned_returns_error haligned (by decide)) h
    · contradiction

/-- Every step keeps the invariant, unless a start-up read fails over a stored state. -/
theorem consistent_step (hforward : config.backfillFrom = none) (hs : Consistent config s)
    {label : Label sdk} (hreads : ReadsState s label) (h : s.step config label = some t) :
    Consistent config t := by
  cases label with
  | start failure =>
    simp only [System.step] at h
    cases hprocess : s.process with
    | some process => simp [hprocess] at h
    | none =>
      simp only [hprocess] at h
      cases h
      refine hs.keep rfl rfl ?_
      intro process hprocess _
      cases hprocess
      refine ⟨?_,by simp [Crawl.start],by simp [Crawl.start]⟩
      intro i hi _
      have hstart : (nextBlock config (getCrawlerState failure s.db)).toNat = i := by
        simpa [Crawl.start] using hi
      rw [←hstart,start_height hforward hs hreads]
  | crash =>
    cases h
    refine hs.keep rfl rfl ?_
    intro process hprocess
    contradiction
  | raiseExit => exact hs.advance (fun haligned => aligned_loop haligned (by simp)) h
  | poll => exact hs.advance (fun haligned => aligned_loop haligned (by simp)) h
  | checkRetry => exact hs.advance (fun haligned => aligned_loop haligned (by simp)) h
  | attempt a =>
    obtain ⟨process,hprocess,h⟩ := Option.bind_eq_some_iff.mp h
    split at h
    · rename_i index hcalling
      exact attempt_consistent hforward hs hprocess hcalling h
    · contradiction

theorem fresh_consistent {db : Db} (hfresh : db.crawlerState = none) :
    Consistent config (.fresh db) := by
  have hnone : lastProcessed (System.fresh db).db = none := by
    simp only [lastProcessed,System.fresh,hfresh,Option.map_none]
  refine ⟨?_,?_,?_⟩
  · unfold IndexedOnce
    rw [hnone]
    rfl
  · intro last hlast
    rw [hnone] at hlast
    contradiction
  · intro process hprocess
    contradiction

/-- Over any run of failures, crashes and restarts in which no start-up read fails once a state
is stored, each height from the starting one to the stored one is committed exactly once. -/
theorem heights_committed_once (hforward : config.backfillFrom = none) {db : Db}
    (hfresh : db.crawlerState = none) {labels : List (Label sdk)}
    (hreads : Along (System.step config) ReadsState (.fresh db) labels)
    (hrun : execute (System.step config) (.fresh db) labels = some s) : IndexedOnce config s :=
  (execute_invariant (Consistent config) (fun _ _ _ hs => consistent_step hforward hs)
    (fresh_consistent hfresh) hreads hrun).indexedOnce


/-- The condition is sharp: after a failed read over a stored state the first call is for a
height that is already committed. -/
theorem failed_read_starts_over (hforward : config.backfillFrom = none) (hs : Consistent config s)
    (hstored : s.db.crawlerState ≠ none) (hstopped : s.process = none) (message : String) :
    ∃ t process,
      execute (System.step config) s ([.start (some message),.poll] : List (Label sdk)) = some t ∧
      t.process = some process ∧ process.crawl.control = .calling (firstHeight config) ∧
      firstHeight config ∈ t.committed := by
  obtain ⟨row,hrow⟩ := Option.ne_none_iff_exists'.mp hstored
  have hindexed := hs.indexedOnce
  have hbounded := hs.bounded
  unfold IndexedOnce lastProcessed at hindexed
  unfold lastProcessed at hbounded
  rw [hrow] at hindexed hbounded
  obtain ⟨hfirst,hcommitted⟩ := hindexed
  have hlt : firstHeight config < u32Max := lt_of_le_of_lt hfirst (hbounded _ rfl)
  have hstart : (nextBlock config (getCrawlerState (some message) s.db)).toNat =
      firstHeight config := nextBlock_error hforward message
  refine ⟨{ s with process := some ⟨(Crawl.start (firstHeight config)).call (firstHeight config),
    true⟩ },_,?_,rfl,rfl,?_⟩
  · simp only [execute_cons,execute_nil,System.step,hstopped,hstart,Option.bind_some]
    simp [System.advance,Crawl.step,Crawl.start,hlt]
  · rw [hcommitted,List.mem_range'_1]
    omega

def sampleConfig : AppConfig := ⟨1,none⟩

/-- A block without transactions. -/
def emptyBlock (height : BlockHeight) (hash : String) : Pass Sdk.sample :=
  sampleBlock height hash [] []

/-- A node that does not answer, a commit whose answer is lost, a restart, and a block that is
not there yet. -/
def sampleLabels : List (Label Sdk.sample) :=
  [.start none,.poll,.attempt .rpcError,.checkRetry,.attempt (.committed (emptyBlock 1 "b1")),
    .poll,.attempt (.unanswered (emptyBlock 2 "b2")),.checkRetry,.attempt (.databaseError false),
    .crash,.start none,.poll,.attempt (.notYet 5),.checkRetry,
    .attempt (.committed (emptyBlock 3 "b3"))]

theorem heights_committed_once_sample : ∃ s,
    execute (System.step sampleConfig) (.fresh (Db.empty [])) sampleLabels = some s ∧
    s.committed = [1,2,3] ∧ IndexedOnce sampleConfig s := by
  refine ⟨_,rfl,rfl,?_⟩
  have hreads : Along (System.step sampleConfig) ReadsState (.fresh (Db.empty [])) sampleLabels := by
    simp [sampleLabels,along_cons,ReadsState]
  exact heights_committed_once rfl rfl hreads rfl

/-- A read that fails at the restart, on a connection that stays, commits the first height again. -/
theorem failed_read_commits_twice : ∃ s,
    execute (System.step sampleConfig) (.fresh (Db.empty []))
      [.start none,.poll,.attempt (.committed (emptyBlock 1 "b1")),.crash,
        .start (some "canceling statement due to statement timeout"),.poll,
        .attempt (.committed (emptyBlock 1 "b1"))] = some s ∧
    s.committed = [1,1] ∧ lastProcessed s.db = some 1 ∧ ¬ IndexedOnce sampleConfig s := by
  refine ⟨_,rfl,rfl,rfl,?_⟩
  intro h
  have hcommitted : ([1,1] : List ℕ) = [1] := h.2
  contradiction

end
end NamadaIndexer.Transactions.Restarts
