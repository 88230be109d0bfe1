import NamadaIndexer.Foundation.Numerals
import NamadaIndexer.Shared.CrawlerStates

/-! What the web server answers about the crawlers. All of it is read from the table that they
share. -/
namespace NamadaIndexer.Webserver
open NamadaIndexer.Foundation NamadaIndexer.Foundation.Runs NamadaIndexer.Shared
open NamadaIndexer.Shared.CrawlerStates

/-- The crawlers that a request can name. -/
inductive CrawlerNameDto
  | chain
  | governance
  | parameters
  | pos
  | rewards
  | transactions
  deriving DecidableEq, Repr

namespace CrawlerNameDto

def variants : List CrawlerNameDto :=
  [.chain,.governance,.parameters,.pos,.rewards,.transactions]

def display : CrawlerNameDto → String
  | .chain => "chain"
  | .governance => "governance"
  | .parameters => "parameters"
  | .pos => "pos"
  | .rewards => "rewards"
  | .transactions => "transactions"

/-- `to_crawler_name_db` -/
def toCrawlerNameDb : CrawlerNameDto → CrawlerName
  | .chain => .chain
  | .governance => .governance
  | .parameters => .parameters
  | .pos => .pos
  | .rewards => .rewards
  | .transactions => .transactions

end CrawlerNameDto

/-- `Display` of `CrawlerNameDb` -/
def displayName : CrawlerName → String
  | .chain => "chain"
  | .governance => "governance"
  | .parameters => "parameters"
  | .pos => "pos"
  | .rewards => "rewards"
  | .transactions => "transactions"
  | .cometbft => "cometbft"

lemma displayName_eq_display (name : CrawlerName) (variant : CrawlerNameDto) :
    displayName name = variant.display ↔ name = variant.toCrawlerNameDb := by
  cases variant <;> cases name <;> decide

/-- Also the response. -/
structure CrawlersTimestamps where
  name : String
  timestamp : Int64
  lastProcessedBlockHeight : Option UInt64
  deriving DecidableEq, Repr

def CrawlersTimestamps.ofDb (crawler : CrawlerStateDb) : CrawlersTimestamps :=
  ⟨displayName crawler.name,crawler.timestamp,crawler.lastProcessedBlock.map asU64⟩

section
variable (rows : List CrawlerStateDb)

/-- `get_timestamps`, on the rows in the order of the database -/
def getTimestamps (names : List CrawlerNameDto) : List CrawlersTimestamps :=
  (if names = [] then rows
    else rows.filter fun crawler => crawler.name ∈ names.map CrawlerNameDto.toCrawlerNameDb).map
      CrawlersTimestamps.ofDb

def getCrawlersTimestamps (crawlerNames : Option (List CrawlerNameDto)) :
    List CrawlersTimestamps :=
  let crawlerNames := crawlerNames.getD []
  let timestamps := getTimestamps rows crawlerNames
  let variants := if crawlerNames = [] then CrawlerNameDto.variants
    else CrawlerNameDto.variants.filter fun variant => variant ∈ crawlerNames
  variants.map fun variant =>
    (timestamps.find? fun timestamp => timestamp.name = variant.display).getD
      ⟨variant.display,0,none⟩

end

/-- `max` of a column of the chain crawler's rows -/
def maxOfChain (table : CrawlerStates) (column : CrawlerStateDb → Option Int32) : Option Int32 :=
  ((table.rows.filter fun row => row.name = .chain).filterMap column).max?

def findLatestHeight (table : CrawlerStates) : Except String Int32 :=
  match maxOfChain table (·.lastProcessedBlock) with
  | some height => .ok height
  | none => .error "No block processed"

def findLatestEpoch (table : CrawlerStates) : Except String Int32 :=
  match maxOfChain table (·.lastProcessedEpoch) with
  | some epoch => .ok epoch
  | none => .error "No epoch processed"

/-- `get_state`, also of the crawler itself at its start -/
def getState (table : CrawlerStates) : Read (Int32 × Int32 × Int32 × Int64) :=
  read .chain buildChainState table

def chainState : Write → Option (UInt32 × UInt32 × UInt32)
  | .chain block epoch first _ => some (block,epoch,first)
  | _ => none

/-- The height, the epoch and the first block of the epoch that the chain crawler upserted last. -/
def lastChainState (writes : List Write) : Option (UInt32 × UInt32 × UInt32) :=
  (writes.filterMap chainState).getLast?

/-- What is answered about a crawler. -/
def CrawlersTimestamps.ofWrites (writes : List Write) (variant : CrawlerNameDto) :
    CrawlersTimestamps where
  name := variant.display
  timestamp := ((timestampRegister variant.toCrawlerNameDb).read writes).getD 0
  lastProcessedBlockHeight :=
    ((lastUpserted variant.toCrawlerNameDb writes).bind (·.lastProcessedBlock)).map asU64

section
variable {writes : List Write} {table : CrawlerStates}

lemma lastUpserted_chain :
    (lastUpserted .chain writes).map (fun row => { row with timestamp := 0 }) =
      (lastChainState writes).map fun (block,epoch,first) => chainStateRow block epoch first 0 := by
  rw [lastUpserted,lastChainState,←List.getLast?_map,←List.getLast?_map,List.map_filterMap,
    List.map_filterMap]
  refine congrArg List.getLast? (List.filterMap_congr fun write _ => ?_)
  cases write <;> rfl

/-- The row of the chain crawler holds its last state, or there is neither. -/
lemma chain_cases (hrun : execute step .empty writes = some table) :
    lastChainState writes = none ∧ table.find? .chain = none ∨
      ∃ block epoch first timestamp, lastChainState writes = some (block,epoch,first) ∧
        (timestampRegister .chain).read writes = some timestamp ∧
        table.find? .chain = some (chainStateRow block epoch first timestamp) := by
  have hlast : _ = (lastChainState writes).map _ := lastUpserted_chain
  have hmade : ((timestampRegister .chain).read writes).isSome = _ := isSome_timestamp
  rw [find?_eq_recorded .chain hrun,recorded]
  cases hrow : lastUpserted .chain writes with
  | none =>
    rw [hrow] at hlast
    exact .inl ⟨Option.map_eq_none_iff.mp hlast.symm,rfl⟩
  | some row =>
    rw [hrow] at hlast hmade
    obtain ⟨⟨block,epoch,first⟩,hstate,hsame⟩ := Option.map_eq_some_iff.mp hlast.symm
    obtain ⟨timestamp,htimestamp⟩ := Option.isSome_iff_exists.mp hmade
    refine .inr ⟨block,epoch,first,timestamp,hstate,htimestamp,?_⟩
    rw [htimestamp]
    exact congrArg (fun row => some { row with timestamp }) hsame.symm

/-- A name is looked up among the rows that the names of the request leave. -/
lemma find?_getTimestamps {rows : List CrawlerStateDb} (hrows : rows.Perm table.rows)
    {names : List CrawlerNameDto} {variant : CrawlerNameDto}
    (hvariant : names = [] ∨ variant ∈ names) :
    (getTimestamps rows names).find? (fun timestamp => timestamp.name = variant.display) =
      (table.find? variant.toCrawlerNameDb).map CrawlersTimestamps.ofDb := by
  rw [getTimestamps,List.find?_map,←Table.find?_of_perm hrows]
  congr 1
  by_cases hnames : names = []
  · rw [if_pos hnames]
    simp only [Function.comp_def,CrawlersTimestamps.ofDb,displayName_eq_display]
  · rw [if_neg hnames,List.find?_filter]
    congr 1
    funext row
    simp only [Function.comp_apply,CrawlersTimestamps.ofDb,displayName_eq_display]
    by_cases hrow : row.name = variant.toCrawlerNameDb
    · have hmem := List.mem_map_of_mem (f := CrawlerNameDto.toCrawlerNameDb)
        (hvariant.resolve_left hnames)
      simp [hrow,List.mem_map.mp hmem]
    · simp [hrow]

lemma maxOfChain_eq (column : CrawlerStateDb → Option Int32) :
    maxOfChain table column = (table.find? .chain).bind column := by
  rw [maxOfChain,Table.filter_key]
  cases table.find? .chain with
  | none => rfl
  | some row => cases h : column row <;> simp [h]

/-- The two registers of a row are there together. -/
lemma ofDb_recorded (variant : CrawlerNameDto) :
    ((recorded variant.toCrawlerNameDb writes).map CrawlersTimestamps.ofDb).getD
      ⟨variant.display,0,none⟩ = CrawlersTimestamps.ofWrites writes variant := by
  have hmade : ((timestampRegister variant.toCrawlerNameDb).read writes).isSome = _ :=
    isSome_timestamp
  rw [CrawlersTimestamps.ofWrites,recorded]
  cases hrow : lastUpserted variant.toCrawlerNameDb writes with
  | none =>
    rw [hrow] at hmade
    rw [Option.not_isSome_iff_eq_none.mp (ne_true_of_eq_false hmade)]
    rfl
  | some row =>
    rw [hrow] at hmade
    obtain ⟨timestamp,htimestamp⟩ := Option.isSome_iff_exists.mp hmade
    obtain ⟨other,-,hother⟩ := List.mem_filterMap.mp (List.mem_of_getLast? hrow)
    obtain ⟨-,-,hname⟩ := upsertedUnder_eq_some.mp hother
    rw [htimestamp]
    simp [CrawlersTimestamps.ofDb,(displayName_eq_display _ _).mpr hname]

/-- In every run of the crawlers, whatever they write in whatever order, the answers are about what
each of them wrote last. -/
theorem crawlers_shown (hrun : execute step .empty writes = some table)
    {rows : List CrawlerStateDb} (hrows : rows.Perm table.rows)
    (crawlerNames : Option (List CrawlerNameDto)) :
    getCrawlersTimestamps rows crawlerNames =
      (CrawlerNameDto.variants.filter fun variant =>
        crawlerNames.getD [] = [] ∨ variant ∈ crawlerNames.getD []).map
          (CrawlersTimestamps.ofWrites writes) ∧
    findLatestHeight table = (match lastChainState writes with
      | none => .error "No block processed"
      | some (block,_,_) => .ok block.toInt32) ∧
    findLatestEpoch table = (match lastChainState writes with
      | none => .error "No epoch processed"
      | some (_,epoch,_) => .ok epoch.toInt32) ∧
    getState table = (match lastChainState writes,(timestampRegister .chain).read writes with
      | some (block,epoch,first),some timestamp =>
        .found (block.toInt32,epoch.toInt32,first.toInt32,timestamp)
      | _,_ => .missing) := by
  refine ⟨?_,?_⟩
  · have hvariants : (if crawlerNames.getD [] = [] then CrawlerNameDto.variants
        else CrawlerNameDto.variants.filter fun variant => variant ∈ crawlerNames.getD []) =
        CrawlerNameDto.variants.filter fun variant =>
          crawlerNames.getD [] = [] ∨ variant ∈ crawlerNames.getD [] := by
      by_cases hnames : crawlerNames.getD [] = [] <;> simp [hnames]
    unfold getCrawlersTimestamps
    dsimp only
    rw [hvariants]
    refine List.map_congr_left fun variant hvariant => ?_
    rw [find?_getTimestamps hrows (of_decide_eq_true (List.mem_filter.mp hvariant).2),
      find?_eq_recorded _ hrun,ofDb_recorded]
  · rw [findLatestHeight,findLatestEpoch,maxOfChain_eq,maxOfChain_eq,getState,CrawlerStates.read]
    obtain ⟨hstate,hrow⟩ | ⟨block,epoch,first,timestamp,hstate,htimestamp,hrow⟩ := chain_cases hrun
    · rw [hstate,hrow]
      exact ⟨rfl,rfl,rfl⟩
    · rw [hstate,htimestamp,hrow]
      exact ⟨rfl,rfl,rfl⟩

/-- The chain crawler and that of validators write in turns; a later timestamp stays. -/
theorem crawlers_shown_of_twoCrawlers :
    ∃ table : CrawlerStates, getCrawlersTimestamps table.rows (some [.transactions,.pos,.chain]) =
      [⟨"chain",40,some 8⟩,⟨"pos",30,none⟩,⟨"transactions",0,none⟩] ∧
      findLatestHeight table = .ok 8 := by
  let writes : List Write := [.updateTimestamp .chain 5,.chain 7 2 6 10,.pos 2 20,.chain 8 2 6 25,
    .updateTimestamp .pos 30,.updateTimestamp .chain 40]
  have hdefined : (execute step .empty writes).isSome := by decide +kernel
  obtain ⟨table,hrun⟩ := Option.isSome_iff_exists.mp hdefined
  obtain ⟨hanswer,hheight,-⟩ := crawlers_shown hrun (.refl _) (some [.transactions,.pos,.chain])
  exact ⟨table,hanswer.trans (by decide +kernel),hheight.trans (by decide +kernel)⟩

end

end NamadaIndexer.Webserver
