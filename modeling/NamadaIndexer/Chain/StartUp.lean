import NamadaIndexer.Foundation.Overflow
import NamadaIndexer.Chain.BondReindexing

/-! The start of the chain crawler: where it continues, and when it takes the whole state of
the node instead. -/
namespace NamadaIndexer.Chain
open NamadaIndexer.Foundation NamadaIndexer.Shared
open NamadaIndexer.Shared.Crawler (MainError)

/-- The options that the start depends on. -/
structure StartUpConfig where
  storageReadPastHeightLimit : UInt32
  backfillFrom : Option BlockHeight
  reindexBonds : Bool

/-- The node as it answers at each stage of the start. The initial query is tried at least
once. -/
structure StartUpClients where
  status : Client
  attempt : Client
  reindex : Client
  initialQuery : Client
  retries : List Client

/-- What `crawl` is started with, and whether the initial query was run for it. -/
structure Started where
  firstHeight : BlockHeight
  initialQuery : Bool
  shouldUpdateCrawlerState : Bool
  db : ChainDb

/-- `try_get_chain_crawler_state` -/
def tryGetChainCrawlerState (db : ChainDb) : Option ChainCrawlerState :=
  db.crawlerState.map fun row =>
    ⟨row.lastProcessedBlock.toUInt32,row.lastProcessedEpoch.toUInt32,row.firstBlockInEpoch.toUInt32⟩

section
variable (overflowChecks : Bool) (ctx : Context) (config : StartUpConfig) (checksums : Checksums)

/-- `initial_query`: the last attempt decides. -/
def initialQuery (db : ChainDb) : Client → List Client → Attempt ChainDb
  | client,[] => tryInitialQuery ctx client checksums db
  | client,next::rest =>
    tryCatch (tryInitialQuery ctx client checksums db) fun _ => initialQuery db next rest

/-- The first crawl at the stored height. `none` sends the crawler to the initial query. -/
def attemptLastBlock (client : Client) (state : ChainCrawlerState) (db : ChainDb) :
    Attempt (Option (BlockHeight × ChainDb)) := do
  match ← mayPanic (crawlingFn ctx client checksums state.lastProcessedBlock true db).run with
  -- the block was pruned from the node
  | .error .rpcError => return none
  | .error _ => return some (state.lastProcessedBlock,db)
  | .ok db =>
    let nextBlock ← mayPanic (addU32 overflowChecks state.lastProcessedBlock 1)
    return some (nextBlock,db)

/-- The choice between the backfill, the stored state and the initial query. -/
def continueFrom (client : Client) (limit : BlockHeight) (db : ChainDb) :
    Attempt (Option (BlockHeight × ChainDb)) :=
  match config.backfillFrom,tryGetChainCrawlerState db with
  | some height,_ => if limit ≤ height then pure (some (height,db)) else pure none
  | none,some state =>
    if limit ≤ state.lastProcessedBlock then
      attemptLastBlock overflowChecks ctx checksums client state db
    else pure none
  | none,none => pure none

/-- The step under `reindex_bonds`. -/
def mayReindexBonds (client : Client) (db : ChainDb) : Attempt ChainDb := do
  if config.reindexBonds then
    let answer ← mayPanic (queryAllBondsAndUnbonds ctx client none none)
    let (bonds,unbonds) ← orError .rpcError answer
    orError .database ((reindexUnits ctx bonds unbonds).foldlM (fun db unit => unit db) db)
  else return db

/-- `main`, up to the crawl loop -/
def startUp (clients : StartUpClients) (db : ChainDb) : Attempt Started := do
  let lastBlockHeight ← orError .rpcError
    (clients.status.ask .lastBlock clients.status.node.lastBlock)
  let limit ← mayPanic (subU32 overflowChecks lastBlockHeight config.storageReadPastHeightLimit)
  match ← continueFrom overflowChecks ctx config checksums clients.attempt limit db with
  | some (height,db) =>
    let db ← mayReindexBonds ctx config clients.reindex db
    return ⟨height,false,config.backfillFrom.isNone,db⟩
  | none =>
    let db ← initialQuery ctx checksums db clients.initialQuery clients.retries
    let state ← orError .database (tryGetChainCrawlerState db)
    return ⟨state.lastProcessedBlock,true,config.backfillFrom.isNone,db⟩

/-- The height from which the crawler would continue. -/
def startHeight (db : ChainDb) : Option BlockHeight :=
  config.backfillFrom.or ((tryGetChainCrawlerState db).map ChainCrawlerState.lastProcessedBlock)

/-- The block is read and committed again. -/
def CommitsAgain (client : Client) (height : BlockHeight) (db : ChainDb) : Prop :=
  ∃ db', (crawlingFn ctx client checksums height true db).run = .returns (.ok db')

/-- The height is recent enough, over the integers. -/
def Recent (last height : BlockHeight) : Prop :=
  (last.toNat : ℤ) - config.storageReadPastHeightLimit.toNat ≤ height.toNat

/-- The start is right: no operation leaves the range of its type; without the initial query
the crawler continues from a recent height; and from a stored state it goes on with the last
block, or with the next one when the last one was committed again. -/
structure StartsRight (clients : StartUpClients) (db : ChainDb) : Prop where
  limit_exact : ∃ limit, subU32 overflowChecks clients.status.node.lastBlock
      config.storageReadPastHeightLimit = .returns limit ∧
    (limit.toNat : ℤ) =
      clients.status.node.lastBlock.toNat - config.storageReadPastHeightLimit.toNat
  next_exact : ∀ state, config.backfillFrom = none → tryGetChainCrawlerState db = some state →
    Recent config clients.status.node.lastBlock state.lastProcessedBlock →
    CommitsAgain ctx checksums clients.attempt state.lastProcessedBlock db →
      ∃ next, addU32 overflowChecks state.lastProcessedBlock 1 = .returns next ∧
        next.toNat = state.lastProcessedBlock.toNat + 1
  without_query : ∀ started,
    (startUp overflowChecks ctx config checksums clients db).run = .returns (.ok started) →
      started.initialQuery = false → ∃ height, startHeight config db = some height ∧
        Recent config clients.status.node.lastBlock height ∧
        (started.firstHeight = height ∨ config.backfillFrom = none ∧
          started.firstHeight.toNat = height.toNat + 1 ∧
            CommitsAgain ctx checksums clients.attempt height db)

/-- The limit does not go below zero, and the next height exists where it is used. -/
def StartFits (clients : StartUpClients) (db : ChainDb) : Prop :=
  config.storageReadPastHeightLimit ≤ clients.status.node.lastBlock ∧
    ∀ state, config.backfillFrom = none → tryGetChainCrawlerState db = some state →
      Recent config clients.status.node.lastBlock state.lastProcessedBlock →
      CommitsAgain ctx checksums clients.attempt state.lastProcessedBlock db →
        state.lastProcessedBlock.toNat + 1 < 4294967296

variable {overflowChecks ctx config checksums} {db : ChainDb}

/-- What the first crawl at the stored height hands on. -/
lemma attemptLastBlock_cases {client : Client} {state : ChainCrawlerState} {height : BlockHeight}
    {db' : ChainDb} (h : (attemptLastBlock overflowChecks ctx checksums client state db).run =
      .returns (.ok (some (height,db')))) :
    height = state.lastProcessedBlock ∨
      CommitsAgain ctx checksums client state.lastProcessedBlock db ∧
        addU32 overflowChecks state.lastProcessedBlock 1 = .returns height := by
  unfold attemptLastBlock at h
  obtain ⟨result,hresult,h⟩ := Panicking.run_bind_eq_ok.mp h
  have hcrawl := run_mayPanic_eq_ok.mp hresult
  split at h
  · cases h
  · obtain ⟨rfl,-⟩ := Prod.mk.inj (Option.some.inj (Panicking.run_pure_eq_ok.mp h))
    exact .inl rfl
  · rename_i committed
    obtain ⟨next,hnext,h⟩ := Panicking.run_bind_eq_ok.mp h
    obtain ⟨rfl,-⟩ := Prod.mk.inj (Option.some.inj (Panicking.run_pure_eq_ok.mp h))
    exact .inr ⟨⟨committed,hcrawl⟩,run_mayPanic_eq_ok.mp hnext⟩

/-- Where the crawler continues without the initial query. -/
lemma continueFrom_cases {client : Client} {limit height : BlockHeight} {db' : ChainDb}
    (h : (continueFrom overflowChecks ctx config checksums client limit db).run =
      .returns (.ok (some (height,db')))) :
    ∃ start, startHeight config db = some start ∧ limit ≤ start ∧
      (height = start ∨ config.backfillFrom = none ∧
        CommitsAgain ctx checksums client start db ∧
          addU32 overflowChecks start 1 = .returns height) := by
  unfold continueFrom at h
  unfold startHeight
  cases hbackfill : config.backfillFrom with
  | some from' =>
    simp only [hbackfill] at h
    split at h
    · rename_i hle
      obtain ⟨rfl,-⟩ := Prod.mk.inj (Option.some.inj (Panicking.run_pure_eq_ok.mp h))
      exact ⟨from',rfl,hle,.inl rfl⟩
    · cases h
  | none =>
    cases hstate : tryGetChainCrawlerState db with
    | none =>
      simp only [hbackfill,hstate] at h
      cases h
    | some state =>
      simp only [hbackfill,hstate] at h
      split at h
      · rename_i hle
        refine ⟨state.lastProcessedBlock,rfl,hle,?_⟩
        rcases attemptLastBlock_cases h with rfl | hagain
        · exact .inl rfl
        · exact .inr ⟨rfl,hagain⟩
      · cases h

/-- A start without the initial query continues from where `continueFrom` says. -/
lemma exists_continueFrom {clients : StartUpClients} {started : Started}
    (h : (startUp overflowChecks ctx config checksums clients db).run = .returns (.ok started))
    (hquery : started.initialQuery = false) :
    ∃ limit db', subU32 overflowChecks clients.status.node.lastBlock
        config.storageReadPastHeightLimit = .returns limit ∧
      (continueFrom overflowChecks ctx config checksums clients.attempt limit db).run =
        .returns (.ok (some (started.firstHeight,db'))) := by
  unfold startUp at h
  obtain ⟨last,hlast,h⟩ := Panicking.run_bind_eq_ok.mp h
  obtain ⟨-,rfl⟩ := ask_eq_some.mp (run_orError_eq_ok.mp hlast)
  obtain ⟨limit,hlimit,h⟩ := Panicking.run_bind_eq_ok.mp h
  obtain ⟨choice,hchoice,h⟩ := Panicking.run_bind_eq_ok.mp h
  cases choice with
  | some place =>
    obtain ⟨height,db'⟩ := place
    obtain ⟨reindexed,-,h⟩ := Panicking.run_bind_eq_ok.mp h
    obtain rfl := Panicking.run_pure_eq_ok.mp h
    exact ⟨limit,db',run_mayPanic_eq_ok.mp hlimit,hchoice⟩
  | none =>
    obtain ⟨queried,-,h⟩ := Panicking.run_bind_eq_ok.mp h
    obtain ⟨state,-,h⟩ := Panicking.run_bind_eq_ok.mp h
    obtain rfl := Panicking.run_pure_eq_ok.mp h
    contradiction

end

/-- The start is right exactly when the limit is at most the last block, and the height of the
last block is not the greatest one where that block is committed again. -/
theorem startUp_right_iff (overflowChecks : Bool) (ctx : Context) (config : StartUpConfig)
    (checksums : Checksums) (clients : StartUpClients) (db : ChainDb) :
    StartsRight overflowChecks ctx config checksums clients db ↔
      StartFits ctx config checksums clients db := by
  constructor
  · intro h
    refine ⟨subU32_exact_iff.mp h.limit_exact,fun state hbackfill hstate hrecent hagain => ?_⟩
    exact addU32_exact_iff.mp (h.next_exact state hbackfill hstate hrecent hagain)
  · rintro ⟨hle,hfits⟩
    obtain ⟨hlimit,hnat⟩ := subU32_of_le overflowChecks hle
    have hle' := UInt32.le_iff_toNat_le.mp hle
    refine ⟨subU32_exact_iff.mpr hle,fun state hbackfill hstate hrecent hagain => ?_,?_⟩
    · exact addU32_exact_iff.mpr (hfits state hbackfill hstate hrecent hagain)
    · intro started hstarted hquery
      obtain ⟨limit,db',hreturns,hcontinue⟩ := exists_continueFrom hstarted hquery
      obtain rfl := Panicking.returns.inj (hlimit.symm.trans hreturns)
      obtain ⟨height,hheight,hstart,hfirst⟩ := continueFrom_cases hcontinue
      have hstart := UInt32.le_iff_toNat_le.mp hstart
      have hrecent : Recent config clients.status.node.lastBlock height := by
        unfold Recent
        omega
      refine ⟨height,hheight,hrecent,hfirst.imp id ?_⟩
      rintro ⟨hbackfill,hagain,hnext⟩
      refine ⟨hbackfill,?_,hagain⟩
      rw [startHeight,hbackfill,Option.none_or] at hheight
      obtain ⟨state,hstate,rfl⟩ := Option.map_eq_some_iff.mp hheight
      obtain ⟨hsum,hone⟩ := addU32_of_lt (b := 1) overflowChecks
        (hfits state hbackfill hstate hrecent hagain)
      rw [←Panicking.returns.inj (hsum.symm.trans hnext)]
      exact hone

/-- A node at block 10 at every stage of the start. -/
def shortChain : StartUpClients :=
  let client : Client := ⟨sampleNode 10 5 fun _ => 1,fun _ => false⟩
  ⟨client,client,client,client,[]⟩

/-- The default options. -/
def defaultConfig : StartUpConfig := ⟨3600,none,false⟩

/-- On a chain of ten blocks the default limit goes below zero: the start panics, or the limit
becomes a height that no block has. -/
theorem start_underflows_on_short_chain :
    (startUp true (sampleContext bondTx) defaultConfig ⟨[],[]⟩ shortChain .empty).run =
        .panics "attempt to subtract with overflow" ∧
      subU32 false 10 3600 = .returns 4294963706 ∧
      ¬ StartsRight true (sampleContext bondTx) defaultConfig ⟨[],[]⟩ shortChain .empty ∧
      ¬ StartsRight false (sampleContext bondTx) defaultConfig ⟨[],[]⟩ shortChain .empty := by
  have hnot : ¬ (defaultConfig.storageReadPastHeightLimit ≤ shortChain.status.node.lastBlock) := by
    decide
  refine ⟨rfl,rfl,fun h => hnot ?_,fun h => hnot ?_⟩
  · exact subU32_exact_iff.mp h.limit_exact
  · exact subU32_exact_iff.mp h.limit_exact

end NamadaIndexer.Chain
