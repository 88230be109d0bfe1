import NamadaIndexer.Cometbft.Prefix

/-! The stored blocks as the other crawlers read them. A block that is not stored is queried from
the node. -/
namespace NamadaIndexer.Cometbft
open NamadaIndexer.Foundation NamadaIndexer.Foundation.Runs NamadaIndexer.Shared

/-- What the node answers for a height that it has. -/
structure Response (β γ : Type) where
  block : β
  events : γ
  epoch : Epoch
  deriving DecidableEq, Repr

/-- `serde_json`, for blocks and for their events -/
structure Serde (β γ : Type) where
  blockToString : β → String
  blockFromStr : String → Option β
  eventsToString : γ → String
  eventsFromStr : String → Option γ

/-- What is written as a text is read back from it. -/
structure Serde.RoundTrips {β γ : Type} (serde : Serde β γ) : Prop where
  block : ∀ block, serde.blockFromStr (serde.blockToString block) = some block
  events : ∀ events, serde.eventsFromStr (serde.eventsToString events) = some events

section
variable {β γ : Type} (serde : Serde β γ)

/-- What the CometBFT crawler stores of an answer. -/
def Serde.fetched (response : Response β γ) : Fetched :=
  ⟨serde.blockToString response.block,serde.eventsToString response.events,response.epoch⟩

/-- `From<CometbftBlock>` for the block of a row -/
def ofRow (row : CometbftBlockDb) : Panicking (BlockHeight × Response β γ) := do
  let block ← Panicking.expect "unwrap" (serde.blockFromStr row.encodedBlock)
  let events ← Panicking.expect "unwrap" (serde.eventsFromStr row.encodedBlockResult)
  return (row.id.toUInt32,⟨block,events,row.epoch.toUInt32⟩)

/-- How a read of the table goes: the query may fail, and so may the connection. -/
inductive Interaction
  | answered
  | queryFailed
  | failed
  deriving DecidableEq, Repr

/-- `get_block`, for which a query that fails finds nothing -/
def getBlock (db : CometbftDb) (blockHeight : BlockHeight) :
    Interaction → Panicking (Option (Option (BlockHeight × Response β γ)))
  | .answered =>
    match db.blocks.find? blockHeight.toInt32 with
    | none => return some none
    | some row => return some (some (← ofRow serde row))
  | .queryFailed => return some none
  | .failed => return none

/-- What the node answers to the queries for one height, as far as they succeed. -/
structure NodeAnswers (β γ : Type) where
  block : Option β
  events : Option γ
  epoch : Option Epoch

/-- The queries of the node, one after the other. -/
def queryBlock (blockHeight : BlockHeight) (answers : NodeAnswers β γ) :
    Except String (BlockHeight × Response β γ) :=
  match answers.block,answers.events,answers.epoch with
  | none,_,_ => .error "Failed to query block"
  | some _,none,_ => .error "Failed to query block results"
  | some _,some _,none => .error "Failed to query epoch"
  | some block,some events,some epoch => .ok (blockHeight,⟨block,events,epoch⟩)

/-- What succeeds is what the node has. -/
structure NodeAnswers.Honest {β γ : Type} (answers : NodeAnswers β γ) (response : Response β γ) :
    Prop where
  block : ∀ block, answers.block = some block → block = response.block
  events : ∀ events, answers.events = some events → events = response.events
  epoch : ∀ epoch, answers.epoch = some epoch → epoch = response.epoch

def getCometbftBlockWithFallback (db : CometbftDb) (interaction : Interaction)
    (answers : NodeAnswers β γ) (blockHeight : BlockHeight) :
    Panicking (Except String (BlockHeight × Response β γ)) := do
  match ← getBlock serde db blockHeight interaction with
  | none => return .error "Failed to get block"
  | some (some block) => return .ok block
  | some none => return queryBlock blockHeight answers

end

/-- The heights that the node answered to the crawler, with the answers. -/
def System.answered (s : System) : Label → List (BlockHeight × Fetched)
  | .batch results _ _ =>
    match s.process.map Process.stage with
    | some (.initialQuery (chunk::_)) => (chunk.zip results).filterMap fun (height,result) =>
      result.map fun fetched => (UInt32.ofNat height,fetched)
    | _ => []
  | .attempt (.fetched fetched _ _) =>
    match s.process.map Process.stage with
    | some (.crawling crawl) =>
      match crawl.control with
      | .calling index => [(UInt32.ofNat index,fetched)]
      | _ => []
    | _ => []
  | _ => []

section
variable {β γ : Type} {serde : Serde β γ} {node : BlockHeight → Response β γ}
  {config : AppConfig} {s t : System}

/-- The crawler gets the answers of the node. -/
def Answers (serde : Serde β γ) (node : BlockHeight → Response β γ) (s : System) (label : Label) :
    Prop :=
  ∀ answer ∈ s.answered label, answer.2 = serde.fetched (node answer.1)

instance (s : System) (label : Label) : Decidable (Answers serde node s label) :=
  inferInstanceAs (Decidable (∀ answer ∈ s.answered label, _))

/-- Every row is what the node answers for its height. -/
def Coherent (serde : Serde β γ) (node : BlockHeight → Response β γ) (db : CometbftDb) : Prop :=
  ∀ row ∈ db.blocks.rows,
    row = .ofBlock ⟨row.id.toUInt32,serde.fetched (node row.id.toUInt32)⟩

lemma mem_answered_of_successfulBlocks {chunk : List ℕ} {results : List (Option Fetched)} :
    ∀ block ∈ successfulBlocks chunk results, (block.blockHeight,block.fetched) ∈
      (chunk.zip results).filterMap fun (height,result) =>
        result.map fun fetched => (UInt32.ofNat height,fetched) := by
  fun_induction successfulBlocks chunk results with
  | case1 height heights fetched results ih =>
    rw [List.forall_mem_cons]
    refine ⟨by simp,fun block hblock => ?_⟩
    have := ih block hblock
    simp only [List.zip_cons_cons,List.filterMap_cons,Option.map_some]
    exact List.mem_cons_of_mem _ this
  | case2 => simp

lemma db_advance {label : Crawler.Label} (h : s.advance label = some t) : t.db = s.db := by
  obtain ⟨process,-,h⟩ := Option.bind_eq_some_iff.mp h
  split at h
  · obtain ⟨crawl,-,h⟩ := Option.bind_eq_some_iff.mp h
    obtain rfl := Option.some.inj h
    rfl
  · contradiction

/-- A step stores blocks that were answered, or leaves the blocks alone. -/
lemma blocks_step {label : Label} (h : s.step config label = some t) :
    t.db.blocks = s.db.blocks ∨
      ∃ blocks : List CometbftBlock,
        (∀ block ∈ blocks, (block.blockHeight,block.fetched) ∈ s.answered label) ∧
        t.db.blocks = s.db.blocks.insertOrIgnore (blocks.map .ofBlock) := by
  cases label with
  | start latestBlock =>
    simp only [System.step] at h
    split at h
    · contradiction
    · obtain rfl := Option.some.inj h
      rw [System.startUp]
      split <;> exact .inl rfl
  | batch results transaction timestamp =>
    obtain ⟨process,hprocess,h⟩ := Option.bind_eq_some_iff.mp h
    split at h
    · rename_i chunk rest hstage
      obtain rfl := Option.some.inj h
      rw [System.queryBatch]
      dsimp only
      split
      · exact .inl rfl
      · have hanswered : ∀ block ∈ successfulBlocks chunk results,
            (block.blockHeight,block.fetched) ∈
              s.answered (.batch results transaction timestamp) := by
          rw [System.answered,hprocess,Option.map_some,hstage]
          exact mem_answered_of_successfulBlocks
        cases transaction with
        | committed => exact .inr ⟨_,hanswered,rfl⟩
        | failed => exact .inl rfl
        | unanswered => exact .inr ⟨_,hanswered,rfl⟩
    · contradiction
  | finish =>
    obtain ⟨process,hprocess,h⟩ := Option.bind_eq_some_iff.mp h
    split at h
    · obtain rfl := Option.some.inj h
      exact .inl rfl
    · contradiction
  | crash =>
    obtain rfl := Option.some.inj h
    exact .inl rfl
  | raiseExit => exact .inl (congrArg CometbftDb.blocks (db_advance h))
  | poll => exact .inl (congrArg CometbftDb.blocks (db_advance h))
  | checkRetry => exact .inl (congrArg CometbftDb.blocks (db_advance h))
  | attempt a =>
    obtain ⟨process,hprocess,h⟩ := Option.bind_eq_some_iff.mp h
    split at h
    · rename_i crawl hstage
      split at h
      · rename_i index hcalling
        cases a with
        | rpcError => exact .inl (congrArg CometbftDb.blocks (db_advance h))
        | notYet timestamp =>
          have hdb : t.db = updateTimestamp timestamp s.db := db_advance h
          exact .inl (by rw [hdb,updateTimestamp])
        | fetched fetched transaction timestamp =>
          have hanswered : ∀ block ∈ [(⟨UInt32.ofNat index,fetched⟩ : CometbftBlock)],
              (block.blockHeight,block.fetched) ∈
                s.answered (.attempt (.fetched fetched transaction timestamp)) := by
            rw [System.answered,hprocess,Option.map_some,hstage]
            simp [hcalling]
          cases transaction with
          | committed => exact .inr ⟨_,hanswered,congrArg CometbftDb.blocks (db_advance h)⟩
          | failed => exact .inl (congrArg CometbftDb.blocks (db_advance h))
          | unanswered => exact .inr ⟨_,hanswered,congrArg CometbftDb.blocks (db_advance h)⟩
      · contradiction
    · contradiction

lemma coherent_step (hs : Coherent serde node s.db) {label : Label}
    (hanswers : Answers serde node s label) (h : s.step config label = some t) :
    Coherent serde node t.db := by
  rcases blocks_step h with hblocks | ⟨blocks,hanswered,hblocks⟩
  · intro row hrow
    exact hs row (hblocks ▸ hrow)
  · intro row hrow
    rw [hblocks,Table.insertOrIgnore_rows] at hrow
    rcases List.mem_append.mp hrow with hrow | hrow
    · exact hs row hrow
    · obtain ⟨block,hblock,rfl⟩ := List.mem_map.mp (Table.mem_of_mem_fresh hrow)
      have hfetched := hanswers _ (hanswered block hblock)
      obtain ⟨height,fetched⟩ := block
      dsimp only at hfetched
      rw [hfetched]
      rfl

/-- A stored block is read as what the node answers. -/
lemma getBlock_of_coherent (hserde : serde.RoundTrips) (hs : Coherent serde node s.db)
    (blockHeight : BlockHeight) :
    getBlock serde s.db blockHeight .answered =
      .returns (some (if blockHeight.toInt32 ∈ s.db.blocks.keys then
        some (blockHeight,node blockHeight) else none)) := by
  rw [getBlock]
  cases hrow : s.db.blocks.find? blockHeight.toInt32 with
  | none => rw [if_neg (Table.find?_eq_none.mp hrow)]; rfl
  | some row =>
    obtain ⟨hmem,hid⟩ := Table.find?_eq_some.mp hrow
    rw [if_pos (hid ▸ Table.key_mem_keys hmem)]
    have hblock : row = .ofBlock ⟨blockHeight,serde.fetched (node blockHeight)⟩ := by
      have := hs row hmem
      rwa [hid,UInt32.toUInt32_toInt32] at this
    subst hblock
    simp [ofRow,CometbftBlockDb.ofBlock,Serde.fetched,hserde.block,hserde.events]

lemma queryBlock_of_honest {answers : NodeAnswers β γ} {blockHeight : BlockHeight}
    (hanswers : answers.Honest (node blockHeight)) {block : BlockHeight × Response β γ}
    (h : queryBlock blockHeight answers = .ok block) : block = (blockHeight,node blockHeight) := by
  obtain ⟨block?,events?,epoch?⟩ := answers
  cases block? <;> cases events? <;> cases epoch? <;> cases h
  have hblock := hanswers.block _ rfl
  have hevents := hanswers.events _ rfl
  have hepoch := hanswers.epoch _ rfl
  subst hblock hevents hepoch
  rfl

/-- Whatever fails while the blocks are crawled, and however often the crawler is started again, a
reader never panics and gets the block that the node has or an error. It needs the node only for a
block that is not stored, and every block from the first start to the last processed one is. -/
theorem cache_transparent (config : AppConfig) (hserde : serde.RoundTrips) {labels : List Label}
    (hfits : ∀ label ∈ labels, label.Fits)
    (hanswers : Along (System.step config) (Answers serde node) (.fresh ⟨.empty,none⟩) labels)
    (hrun : execute (System.step config) (.fresh ⟨.empty,none⟩) labels = some s) :
    (∀ blockHeight answers interaction,
      getCometbftBlockWithFallback serde s.db interaction answers blockHeight =
        .returns (match interaction with
          | .failed => .error "Failed to get block"
          | .queryFailed => queryBlock blockHeight answers
          | .answered => if blockHeight.toInt32 ∈ s.db.blocks.keys then
              .ok (blockHeight,node blockHeight) else queryBlock blockHeight answers)) ∧
    (∀ blockHeight answers interaction block, answers.Honest (node blockHeight) →
      getCometbftBlockWithFallback serde s.db interaction answers blockHeight =
        .returns (.ok block) → block = (blockHeight,node blockHeight)) ∧
    ∀ last, getCometbftCrawler s.db = some last →
      ∃ first, s.origin = some first ∧ ∀ blockHeight : BlockHeight,
        first ≤ blockHeight.toNat → blockHeight ≤ last → ∀ answers,
          getCometbftBlockWithFallback serde s.db .answered answers blockHeight =
            .returns (.ok (blockHeight,node blockHeight)) := by
  have hcoherent : Coherent serde node s.db := by
    refine execute_invariant (fun s => Coherent serde node s.db)
      (fun _ _ _ hs hanswers => coherent_step hs hanswers) ?_ hanswers hrun
    simp [Coherent,System.fresh]
  have hgood : Along (System.step config) (fun _ label => label.Fits) (.fresh ⟨.empty,none⟩) labels :=
    along_of_forall hfits
  have hconsistent : Consistent s := execute_invariant Consistent
    (fun _ _ _ hs hfits => consistent_step hs hfits) (consistent_fresh rfl) hgood hrun
  have hread : ∀ blockHeight answers interaction,
      getCometbftBlockWithFallback serde s.db interaction answers blockHeight =
        .returns (match interaction with
          | .failed => .error "Failed to get block"
          | .queryFailed => queryBlock blockHeight answers
          | .answered => if blockHeight.toInt32 ∈ s.db.blocks.keys then
              .ok (blockHeight,node blockHeight) else queryBlock blockHeight answers) := by
    intro blockHeight answers interaction
    cases interaction with
    | failed => rfl
    | queryFailed => rfl
    | answered =>
      rw [getCometbftBlockWithFallback,getBlock_of_coherent hserde hcoherent]
      by_cases hrow : blockHeight.toInt32 ∈ s.db.blocks.keys <;> simp [hrow]
  refine ⟨hread,?_,?_⟩
  · intro blockHeight answers interaction block hhonest h
    rw [hread] at h
    have h := Panicking.returns.inj h
    cases interaction with
    | failed => cases h
    | queryFailed => exact queryBlock_of_honest hhonest h
    | answered =>
      dsimp only at h
      split at h
      · exact (Except.ok.inj h).symm
      · exact queryBlock_of_honest hhonest h
  · intro last hlast
    obtain ⟨first,hfirst,hstored⟩ := hconsistent.prefixStored last hlast
    refine ⟨first,hfirst,fun blockHeight hge hle answers => ?_⟩
    have hrow := hstored blockHeight.toNat hge (UInt32.le_iff_toNat_le.mp hle)
    rw [HasRow,UInt32.ofNat_toNat] at hrow
    rw [hread]
    exact congrArg Panicking.returns (if_pos hrow)

/-- Texts that are stored as they are. -/
def plainSerde : Serde String String := ⟨id,some,id,some⟩

/-- The crawler of the sample has stored nine blocks. The fifth is read while the node does not
answer. -/
theorem cache_transparent_sample : ∃ s,
    execute (System.step sampleConfig) (.fresh ⟨.empty,none⟩) sampleLabels = some s ∧
      getCometbftBlockWithFallback plainSerde s.db .answered ⟨none,none,none⟩ 5 =
        .returns (.ok (5,⟨"block","events",1⟩)) := by
  have hdefined : (execute (System.step sampleConfig) (.fresh ⟨.empty,none⟩) sampleLabels).map
      (fun s => decide (5 ∈ s.db.blocks.keys)) = some true := by decide +kernel
  obtain ⟨s,hrun,hrow⟩ := Option.map_eq_some_iff.mp hdefined
  have hserde : plainSerde.RoundTrips := ⟨fun _ => rfl,fun _ => rfl⟩
  have hanswers : Along (System.step sampleConfig)
      (Answers plainSerde fun _ => ⟨"block","events",1⟩) (.fresh ⟨.empty,none⟩) sampleLabels := by
    decide +kernel
  have hshown := cache_transparent sampleConfig hserde (by simp [sampleLabels,Label.Fits]) hanswers
    hrun
  exact ⟨s,hrun,(hshown.1 5 ⟨none,none,none⟩ .answered).trans
    (congrArg Panicking.returns (if_pos (of_decide_eq_true hrow)))⟩

end

end NamadaIndexer.Cometbft
