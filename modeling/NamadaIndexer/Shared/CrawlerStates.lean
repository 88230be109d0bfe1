import NamadaIndexer.Chain.Repository
import NamadaIndexer.Foundation.Cells

/-! The table `crawler_state`, which all crawlers share. Each has a row of its own, with the columns
that it fills, and readers that insist on them. -/
namespace NamadaIndexer.Shared
open NamadaIndexer.Foundation NamadaIndexer.Foundation.Runs
open NamadaIndexer.Chain (overwrite)

inductive CrawlerName
  | chain
  | governance
  | parameters
  | pos
  | rewards
  | transactions
  | cometbft
  deriving DecidableEq, Repr

/-- A row. Timestamps are seconds. -/
structure CrawlerStateDb where
  name : CrawlerName
  lastProcessedBlock : Option Int32
  lastProcessedEpoch : Option Int32
  firstBlockInEpoch : Option Int32
  timestamp : Int64
  deriving DecidableEq, Repr

abbrev CrawlerStates := Table CrawlerStateDb.name

namespace CrawlerStates

/-- `ChainStateInsertDb` -/
def chainStateRow (lastProcessedBlock lastProcessedEpoch firstBlockInEpoch : UInt32)
    (timestamp : Int64) : CrawlerStateDb :=
  ⟨.chain,some lastProcessedBlock.toInt32,some lastProcessedEpoch.toInt32,
    some firstBlockInEpoch.toInt32,timestamp⟩

/-- `BlockStateInsertDb` -/
def blockStateRow (name : CrawlerName) (lastProcessedBlock : BlockHeight) (timestamp : Int64) :
    CrawlerStateDb :=
  ⟨name,some lastProcessedBlock.toInt32,none,none,timestamp⟩

/-- `EpochStateInsertDb` -/
def epochStateRow (name : CrawlerName) (lastProcessedEpoch : Epoch) (timestamp : Int64) :
    CrawlerStateDb :=
  ⟨name,none,some lastProcessedEpoch.toInt32,none,timestamp⟩

/-- `IntervalStateInsertDb` -/
def intervalStateRow (name : CrawlerName) (timestamp : Int64) : CrawlerStateDb :=
  ⟨name,none,none,none,timestamp⟩

def setChainState : Table.Merge CrawlerStateDb.name :=
  overwrite (fun old new => { new with name := old.name }) fun _ _ => rfl

def setBlockState : Table.Merge CrawlerStateDb.name :=
  overwrite (fun old new =>
    { old with timestamp := new.timestamp, lastProcessedBlock := new.lastProcessedBlock })
    fun _ _ => rfl

def setEpochState : Table.Merge CrawlerStateDb.name :=
  overwrite (fun old new =>
    { old with timestamp := new.timestamp, lastProcessedEpoch := new.lastProcessedEpoch })
    fun _ _ => rfl

def setIntervalState : Table.Merge CrawlerStateDb.name :=
  overwrite (fun old new => { old with timestamp := new.timestamp }) fun _ _ => rfl

/-- A statement of one of the crawlers. -/
inductive Write
  /-- `upsert_crawler_state` of the chain crawler -/
  | chain (lastProcessedBlock lastProcessedEpoch firstBlockInEpoch : UInt32) (timestamp : Int64)
  /-- `insert_crawler_state` of the crawler of transactions -/
  | transactions (lastProcessedBlock : BlockHeight) (timestamp : Int64)
  /-- `insert_crawler_state` of the crawler of blocks -/
  | cometbft (lastProcessedBlock : BlockHeight) (timestamp : Int64)
  /-- `upsert_crawler_state` of the crawler of validators -/
  | pos (lastProcessedEpoch : Epoch) (timestamp : Int64)
  /-- `upsert_crawler_state` of the crawlers of governance, parameters and rewards -/
  | governance (timestamp : Int64)
  | parameters (timestamp : Int64)
  | rewards (timestamp : Int64)
  /-- `update_timestamp`, `update_crawler_timestamp` -/
  | updateTimestamp (name : CrawlerName) (timestamp : Int64)
  deriving DecidableEq, Repr

/-- The row that a statement inserts, and the columns that it sets where it is there. -/
def Write.upserted : Write → Option (CrawlerStateDb × Table.Merge CrawlerStateDb.name)
  | .chain block epoch first timestamp =>
    some (chainStateRow block epoch first timestamp,setChainState)
  | .transactions block timestamp => some (blockStateRow .transactions block timestamp,setBlockState)
  | .cometbft block timestamp => some (blockStateRow .cometbft block timestamp,setBlockState)
  | .pos epoch timestamp => some (epochStateRow .pos epoch timestamp,setEpochState)
  | .governance timestamp => some (intervalStateRow .governance timestamp,setIntervalState)
  | .parameters timestamp => some (intervalStateRow .parameters timestamp,setIntervalState)
  | .rewards timestamp => some (intervalStateRow .rewards timestamp,setIntervalState)
  | .updateTimestamp _ _ => none

def updateTimestamp (name : CrawlerName) (timestamp : Int64) (row : CrawlerStateDb) :
    CrawlerStateDb :=
  if row.name = name then { row with timestamp } else row

lemma name_updateTimestamp (name : CrawlerName) (timestamp : Int64) (row : CrawlerStateDb) :
    (updateTimestamp name timestamp row).name = row.name := by
  unfold updateTimestamp
  split <;> rfl

def step (table : CrawlerStates) (write : Write) : Option CrawlerStates :=
  match write.upserted,write with
  | some (row,merge),_ => Table.put merge table row
  | none,.updateTimestamp name timestamp =>
    some (table.mapRows (updateTimestamp name timestamp) (name_updateTimestamp name timestamp))
  | none,_ => some table

/-- What a reader of a row finds. -/
inductive Read (α : Type)
  | missing
  | invalid
  | found (state : α)
  deriving DecidableEq, Repr

/-- The first row under a name, read by the columns that a reader insists on. -/
def read {α : Type} (name : CrawlerName) (build : CrawlerStateDb → Option α)
    (table : CrawlerStates) : Read α :=
  match table.find? name with
  | none => .missing
  | some row =>
    match build row with
    | none => .invalid
    | some state => .found state

/-- `ChainCrawlerStateDb::build` -/
def buildChainState (row : CrawlerStateDb) : Option (Int32 × Int32 × Int32 × Int64) := do
  return (← row.lastProcessedBlock,← row.lastProcessedEpoch,← row.firstBlockInEpoch,row.timestamp)

/-- `BlockCrawlerStateDb::build` and `CometbftCrawlerStateDb::build` -/
def buildBlockState (row : CrawlerStateDb) : Option (Int32 × Int64) := do
  return (← row.lastProcessedBlock,row.timestamp)

/-- `EpochCrawlerStateDb::build` -/
def buildEpochState (row : CrawlerStateDb) : Option (Int32 × Int64) := do
  return (← row.lastProcessedEpoch,row.timestamp)

/-- The row that a statement upserts under a name. -/
def upsertedUnder (name : CrawlerName) (write : Write) : Option CrawlerStateDb :=
  (write.upserted.map Prod.fst).filter fun row => row.name = name

/-- The timestamp that a statement writes under a name. -/
def timestampUnder (name : CrawlerName) : Write → Option Int64
  | .updateTimestamp other timestamp => if other = name then some timestamp else none
  | write => (upsertedUnder name write).map (·.timestamp)

/-- The row that a crawler upserted last. -/
def lastUpserted (name : CrawlerName) (writes : List Write) : Option CrawlerStateDb :=
  (writes.filterMap (upsertedUnder name)).getLast?

/-- Timestamps are updated only when the row is there. -/
def timestampRegister (name : CrawlerName) : Register Write Int64 :=
  ⟨fun write => (upsertedUnder name write).map (·.timestamp),timestampUnder name⟩

/-- The row of a crawler: its last state, with the last timestamp. -/
def recorded (name : CrawlerName) (writes : List Write) : Option CrawlerStateDb := do
  let row ← lastUpserted name writes
  let timestamp ← (timestampRegister name).read writes
  return { row with timestamp }

/-- What a statement makes of the row under a name. -/
def next (name : CrawlerName) (row : Option CrawlerStateDb) (write : Write) :
    Option CrawlerStateDb :=
  match write.upserted,write with
  | some (new,merge),_ => if new.name = name then Table.putRow merge row new else row
  | none,.updateTimestamp other timestamp =>
    row.map fun old => if other = name then { old with timestamp } else old
  | none,_ => row

section
variable {name : CrawlerName} {table table' : CrawlerStates} {write : Write} {writes : List Write}

lemma find?_step (h : step table write = some table') :
    table'.find? name = next name (table.find? name) write := by
  unfold step at h
  unfold next
  cases hupserted : write.upserted with
  | some upserted =>
    obtain ⟨new,merge⟩ := upserted
    rw [hupserted] at h
    dsimp only at h ⊢
    rw [Table.find?_put h]
    by_cases hname : name = new.name
    · rw [if_pos hname,if_pos hname.symm]
      cases table.find? name <;> rfl
    · rw [if_neg hname,if_neg (Ne.symm hname)]
  | none =>
    cases write with
    | updateTimestamp other timestamp =>
      obtain rfl := Option.some.inj h
      dsimp only [Write.upserted]
      rw [Table.find?_map (name_updateTimestamp other timestamp) rfl]
      refine Option.map_congr fun row hrow => ?_
      rw [updateTimestamp,(Table.find?_eq_some.mp hrow).2]
      simp only [eq_comm]
    | _ => cases hupserted

lemma upsertedUnder_eq_some {row : CrawlerStateDb} :
    upsertedUnder name write = some row ↔
      ∃ merge, write.upserted = some (row,merge) ∧ row.name = name := by
  simp [upsertedUnder,Option.filter_eq_some_iff]

/-- The columns that a crawler does not set stay empty, so its rows replace each other. -/
lemma upserted_replaces {other : Write} {old new : CrawlerStateDb}
    {merge : Table.Merge CrawlerStateDb.name} (timestamp : Int64)
    (hold : upsertedUnder name other = some old) (hnew : write.upserted = some (new,merge))
    (hname : new.name = name) : merge.run { old with timestamp } new = some new := by
  obtain ⟨-,hold,hother⟩ := upsertedUnder_eq_some.mp hold
  subst hname
  cases write <;> cases hnew <;> cases other <;> cases hold <;> rfl

lemma timestampUnder_of_upserted {row : CrawlerStateDb} (h : upsertedUnder name write = some row) :
    timestampUnder name write = some row.timestamp := by
  cases write with
  | updateTimestamp => cases h
  | _ => exact congrArg (Option.map CrawlerStateDb.timestamp) h

lemma next_of_not_upserted {row : Option CrawlerStateDb} (h : upsertedUnder name write = none) :
    next name row write = row.map fun old =>
      { old with timestamp := (timestampUnder name write).getD old.timestamp } := by
  cases write with
  | updateTimestamp other timestamp =>
    refine Option.map_congr fun old _ => ?_
    dsimp only [timestampUnder]
    split <;> rfl
  | _ =>
    have hname := Option.filter_eq_none_iff.mp h _ rfl
    rw [decide_eq_true_eq] at hname
    simp only [next,Write.upserted,if_neg hname,timestampUnder,h]
    cases row <;> rfl

lemma lastUpserted_concat :
    lastUpserted name (writes ++ [write]) =
      (upsertedUnder name write).or (lastUpserted name writes) := by
  rw [lastUpserted,List.filterMap_append]
  cases h : upsertedUnder name write with
  | none => simp [h,lastUpserted]
  | some row => simp [h]

/-- There is a timestamp as soon as there is a row. -/
lemma isSome_timestamp :
    ((timestampRegister name).read writes).isSome = (lastUpserted name writes).isSome := by
  rw [Bool.eq_iff_iff,Register.isSome_read,lastUpserted,List.getLast?_isSome,←not_iff_not]
  simp [timestampRegister,List.filterMap_eq_nil_iff]

/-- One more statement adds to what is recorded what it makes of the row. -/
lemma recorded_concat :
    recorded name (writes ++ [write]) = next name (recorded name writes) write := by
  have hmade : ((timestampRegister name).read writes).isSome = _ := isSome_timestamp
  unfold recorded
  rw [Register.read_concat,lastUpserted_concat]
  cases hupserted : upsertedUnder name write with
  | none =>
    rw [next_of_not_upserted hupserted,Option.none_or]
    cases hstate : lastUpserted name writes with
    | none => rfl
    | some old =>
      rw [hstate] at hmade
      obtain ⟨timestamp,htimestamp⟩ := Option.isSome_iff_exists.mp hmade
      rw [htimestamp]
      cases hwritten : timestampUnder name write <;>
        simp [Register.next,timestampRegister,hwritten]
  | some new =>
    obtain ⟨merge,hmerge,hname⟩ := upsertedUnder_eq_some.mp hupserted
    have hwritten := timestampUnder_of_upserted hupserted
    have hnext : ∀ row, next name row write = Table.putRow merge row new := by
      intro row
      unfold next
      rw [hmerge]
      exact if_pos hname
    rw [hnext]
    cases hstate : lastUpserted name writes with
    | none =>
      rw [hstate] at hmade
      rw [Option.not_isSome_iff_eq_none.mp (ne_true_of_eq_false hmade)]
      simp [Register.next,timestampRegister,hupserted]
    | some old =>
      rw [hstate] at hmade
      obtain ⟨timestamp,htimestamp⟩ := Option.isSome_iff_exists.mp hmade
      obtain ⟨other,-,hother⟩ := List.mem_filterMap.mp (List.mem_of_getLast? hstate)
      have hreplaces := upserted_replaces timestamp hother hmerge hname
      rw [htimestamp]
      simp [Register.next,timestampRegister,hwritten,hreplaces]

/-- Whatever the crawlers do in whatever order, a row is what its own crawler upserted last, with
the timestamp that was written last. -/
theorem find?_eq_recorded (name : CrawlerName) (hrun : execute step .empty writes = some table) :
    table.find? name = recorded name writes := by
  induction writes using List.reverseRecOn generalizing table with
  | nil =>
    cases hrun
    rfl
  | append_singleton writes write ih =>
    obtain ⟨before,hbefore,hlast⟩ := execute_append_eq_some.mp hrun
    obtain ⟨after,hafter,hend⟩ := execute_cons_eq_some.mp hlast
    cases hend
    rw [find?_step hafter,ih hbefore,recorded_concat]

end

end CrawlerStates
end NamadaIndexer.Shared
