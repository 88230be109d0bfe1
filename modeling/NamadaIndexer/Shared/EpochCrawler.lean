import NamadaIndexer.Chain.Crawling
import NamadaIndexer.Cometbft.Crawling

/-! The crawlers that go from epoch to epoch. They wait until the node has reached an epoch and
process it in one transaction, on a database that other crawlers write to as well. -/
namespace NamadaIndexer.Shared
open NamadaIndexer.Foundation NamadaIndexer.Foundation.Runs
open NamadaIndexer.Shared.Crawler (Crawl MainError u32Max)
open NamadaIndexer.Chain (Attempt orError)
open NamadaIndexer.Cometbft (TransactionEnd)
open NamadaIndexer.Transactions.Restarts (Aligned aligned_loop aligned_returns_ok
  aligned_returns_error)

/-- What differs between these crawlers: what they do with an epoch that is there, and the
transactions of the others. -/
structure EpochCrawler (σ : Type) (α ω : Type*) where
  processEpoch : α → Epoch → σ → Attempt σ
  others : ω → σ → Option σ
  noTaskJoinError : ∀ answers epoch db,
    (processEpoch answers epoch db).run ≠ .returns (.error .taskJoinError)

namespace EpochCrawler

/-- How a call of `crawling_fn` finds the node and the database. -/
structure Call (α : Type*) where
  currentEpoch : Option Epoch
  timestampUpdated : Option Unit
  answers : α
  transaction : TransactionEnd

/-- A process, the epoch that it started with, and the epochs that it has committed, each with the
epoch of the node at that time. -/
structure Process where
  start : ℕ
  crawl : Crawl
  committed : List (ℕ × Epoch)

/-- A transaction that took effect. -/
inductive Commit (α ω : Type*)
  | epoch (epoch : Epoch) (answers : α)
  | other (transaction : ω)

structure System (σ : Type) (α ω : Type*) where
  db : σ
  process : Option Process
  log : List (Commit α ω)

def System.fresh {σ : Type} {α ω : Type*} (db : σ) : System σ α ω := ⟨db,none,[]⟩

inductive Label (α ω : Type*)
  | start (epoch : Epoch)
  | crash
  | raiseExit
  | poll
  | checkRetry
  | call (call : Call α)
  | other (transaction : ω)

variable {σ : Type} {α ω : Type*} (crawler : EpochCrawler σ α ω)

/-- `can_process` -/
def canProcess (call : Call α) (epoch : Epoch) : Attempt Bool := do
  let currentEpoch ← orError .rpcError call.currentEpoch
  return decide (epoch ≤ currentEpoch)

/-- `crawling_fn` -/
def crawlingFn (call : Call α) (epochToProcess : Epoch) (db : σ) : Attempt σ := do
  let shouldProcess ← canProcess call epochToProcess
  if shouldProcess then
    crawler.processEpoch call.answers epochToProcess db
  else do
    orError .database call.timestampUpdated
    throw .noAction

namespace System
variable (s : System σ α ω)

/-- A step of the crawl loop. -/
def advance (process : Process) (label : Crawler.Label) : Option (System σ α ω) :=
  (process.crawl.step label).map fun crawl => { s with process := some { process with crawl } }

/-- A call that has come to its end. A panic outside of the database ends the process. -/
def call (process : Process) (index : ℕ) (call : Call α) : Option (System σ α ω) :=
  let epoch := UInt32.ofNat index
  match (crawler.crawlingFn call epoch s.db).run with
  | .panics _ => some { s with process := none }
  | .returns (.error e) => s.advance process (.returns (.error e))
  | .returns (.ok db) =>
    let stored : System σ α ω := { s with db, log := s.log ++ [.epoch epoch call.answers] }
    let done := { process with
      committed := process.committed ++ [(index,call.currentEpoch.getD 0)] }
    match call.transaction with
    | .committed => stored.advance done (.returns (.ok ()))
    | .failed => s.advance process (.returns (.error .database))
    | .unanswered => stored.advance done (.returns (.error .database))

def step : Label α ω → Option (System σ α ω)
  | .start epoch =>
    match s.process with
    | some _ => none
    | none => some { s with process := some ⟨epoch.toNat,Crawl.start epoch.toNat,[]⟩ }
  | .crash => some { s with process := none }
  | .raiseExit => s.process.bind fun process => s.advance process .raiseExit
  | .poll => s.process.bind fun process => s.advance process .poll
  | .checkRetry => s.process.bind fun process => s.advance process .checkRetry
  | .call call =>
    s.process.bind fun process =>
      match process.crawl.control with
      | .calling index => System.call crawler s process index call
      | _ => none
  | .other transaction =>
    (crawler.others transaction s.db).map fun db =>
      { s with db, log := s.log ++ [.other transaction] }

end System

/-- What a transaction makes of the database. -/
def replay (db : σ) : Commit α ω → Option σ
  | .epoch epoch answers => Chain.resultOf (crawler.processEpoch answers epoch db)
  | .other transaction => crawler.others transaction db

section
variable {crawler : EpochCrawler σ α ω} {s t : System σ α ω}

theorem advance_eq_some {process : Process} {label : Crawler.Label} :
    s.advance process label = some t ↔ ∃ crawl, process.crawl.step label = some crawl ∧
      { s with process := some { process with crawl } } = t := by
  rw [System.advance,Option.map_eq_some_iff]

/-- A call gets past `can_process` only when the node has reached the epoch. -/
theorem crawlingFn_eq_ok {call : Call α} {epoch : Epoch} {db db' : σ}
    (h : (crawler.crawlingFn call epoch db).run = .returns (.ok db')) :
    (∃ current, call.currentEpoch = some current ∧ epoch ≤ current) ∧
      (crawler.processEpoch call.answers epoch db).run = .returns (.ok db') := by
  obtain ⟨shouldProcess,hcan,h⟩ := Panicking.run_bind_eq_ok.mp h
  obtain ⟨current,hcurrent,hle⟩ := Panicking.run_bind_eq_ok.mp hcan
  have hcurrent := Chain.run_orError_eq_ok.mp hcurrent
  obtain rfl := Panicking.run_pure_eq_ok.mp hle
  split at h
  · rename_i hprocess
    exact ⟨⟨current,hcurrent,of_decide_eq_true hprocess⟩,h⟩
  · obtain ⟨_,-,hthrow⟩ := Panicking.run_bind_eq_ok.mp h
    cases hthrow

lemma run_orError_ne {β : Type} {error e : MainError} {x : Option β} (h : error ≠ e) :
    (orError error x).run ≠ .returns (.error e) := by
  cases x with
  | some b =>
    intro hrun
    cases hrun
  | none =>
    intro hrun
    cases hrun
    exact h rfl

lemma run_bind_ne {β γ : Type} {x : Attempt β} {f : β → Attempt γ} {e : MainError}
    (hx : x.run ≠ .returns (.error e)) (hf : ∀ b, (f b).run ≠ .returns (.error e)) :
    (x >>= f).run ≠ .returns (.error e) := by
  intro h
  change (x.run >>= ExceptT.bindCont f) = _ at h
  obtain ⟨result,hresult,hrest⟩ := Panicking.bind_eq_returns.mp h
  cases result with
  | ok b => exact hf b hrest
  | error e' =>
    cases hrest
    exact hx hresult

/-- None of these crawlers fails to join a task. -/
theorem crawlingFn_ne_taskJoinError (call : Call α) (epoch : Epoch) (db : σ) :
    (crawler.crawlingFn call epoch db).run ≠ .returns (.error .taskJoinError) := by
  refine run_bind_ne (run_bind_ne (run_orError_ne (by decide)) fun _ hpure => by cases hpure) ?_
  intro shouldProcess
  split
  · exact crawler.noTaskJoinError call.answers epoch db
  · exact run_bind_ne (run_orError_ne (by decide)) fun _ hthrow => by cases hthrow

/-- The epochs that a process has committed, up to one that it may be about to commit again. -/
structure Consecutive (start next : ℕ) (committed : List (ℕ × Epoch)) : Prop where
  reached : ∀ entry ∈ committed, start ≤ entry.1 ∧ entry.1 ≤ entry.2.toNat
  bounded : ∀ entry ∈ committed, entry.1 ≤ next
  noGap : ∀ before entry after, committed = before ++ entry :: after →
    ∀ epoch, start ≤ epoch → epoch < entry.1 → epoch ∈ before.map Prod.fst
  complete : ∀ epoch, start ≤ epoch → epoch < next → epoch ∈ committed.map Prod.fst

/-- What holds of a running process: the loop stands at the epoch after the committed ones. -/
def Process.InOrder (process : Process) : Prop :=
  ∃ next, process.start ≤ next ∧ Aligned next process.crawl ∧
    Consecutive process.start next process.committed

lemma consecutive_start (start : ℕ) : Consecutive start start [] where
  reached := by simp
  bounded := by simp
  noGap := by
    intro before entry after h
    simp at h
  complete := fun epoch hle hlt => absurd hle (Nat.not_le.mpr hlt)

/-- The next epoch is committed, or it is committed again. -/
lemma Consecutive.commit {start next : ℕ} {committed : List (ℕ × Epoch)} {current : Epoch}
    (h : Consecutive start next committed) (hstart : start ≤ next)
    (hreached : next ≤ current.toNat) :
    Consecutive start next (committed ++ [(next,current)]) where
  reached := by
    rw [List.forall_mem_append,List.forall_mem_singleton]
    exact ⟨h.reached,hstart,hreached⟩
  bounded := by
    rw [List.forall_mem_append,List.forall_mem_singleton]
    exact ⟨h.bounded,Nat.le_refl next⟩
  noGap := by
    intro before entry after happend epoch hle hlt
    rcases List.eq_nil_or_concat after with rfl | ⟨rest,last,rfl⟩
    · obtain ⟨rfl,hentry⟩ := List.append_inj' happend rfl
      obtain rfl : (next,current) = entry := (List.cons.inj hentry).1
      exact h.complete epoch hle hlt
    · rw [List.concat_eq_append,←List.cons_append,←List.append_assoc] at happend
      exact h.noGap before entry rest (List.append_inj' happend rfl).1 epoch hle hlt
  complete := by
    intro epoch hle hlt
    rw [List.map_append]
    exact List.mem_append_left _ (h.complete epoch hle hlt)

lemma Consecutive.succ {start next : ℕ} {committed : List (ℕ × Epoch)}
    (h : Consecutive start next committed) (hdone : next ∈ committed.map Prod.fst) :
    Consecutive start (next+1) committed where
  reached := h.reached
  bounded entry hentry := Nat.le_succ_of_le (h.bounded entry hentry)
  noGap := h.noGap
  complete := by
    intro epoch hle hlt
    rcases Nat.lt_succ_iff_lt_or_eq.mp hlt with hlt | rfl
    · exact h.complete epoch hle hlt
    · exact hdone

/-- The invariant of the crawler. The log tells where the database comes from. -/
structure Consistent (crawler : EpochCrawler σ α ω) (db : σ) (s : System σ α ω) : Prop where
  replayed : execute crawler.replay db s.log = some s.db
  inOrder : ∀ process, s.process = some process → process.InOrder

variable {db : σ}

lemma Consistent.advance (hs : Consistent crawler db s) {process : Process}
    {label : Crawler.Label} (h : s.advance process label = some t)
    (horder : ∀ crawl, process.crawl.step label = some crawl →
      ({ process with crawl } : Process).InOrder) : Consistent crawler db t := by
  obtain ⟨crawl,hcrawl,rfl⟩ := advance_eq_some.mp h
  refine ⟨hs.replayed,?_⟩
  intro process' hprocess'
  obtain rfl := Option.some.inj hprocess'
  exact horder crawl hcrawl

/-- Between two calls the loop keeps its place. -/
lemma Consistent.loop (hs : Consistent crawler db s) {process : Process}
    (hprocess : s.process = some process) {label : Crawler.Label}
    (hlabel : ∀ outcome, label ≠ .returns outcome) (h : s.advance process label = some t) :
    Consistent crawler db t := by
  refine hs.advance h fun crawl hcrawl => ?_
  obtain ⟨next,hstart,haligned,hcommitted⟩ := hs.inOrder process hprocess
  exact ⟨next,hstart,aligned_loop haligned hlabel hcrawl,hcommitted⟩

lemma Consistent.logged (hs : Consistent crawler db s) {commit : Commit α ω} {db' : σ}
    (h : crawler.replay s.db commit = some db') :
    execute crawler.replay db (s.log ++ [commit]) = some db' := by
  rw [execute_append,hs.replayed,Option.bind_some,execute_cons,h]
  rfl

lemma consistent_call (hs : Consistent crawler db s) {process : Process} {index : ℕ}
    {call : Call α} (hprocess : s.process = some process)
    (hcalling : process.crawl.control = .calling index)
    (h : System.call crawler s process index call = some t) : Consistent crawler db t := by
  obtain ⟨next,hstart,haligned,hcommitted⟩ := hs.inOrder process hprocess
  obtain ⟨rfl,hindex⟩ := haligned.calling index hcalling
  have hfails {e : MainError} (he : e ≠ .taskJoinError)
      (h : s.advance process (.returns (.error e)) = some t) : Consistent crawler db t :=
    hs.advance h fun crawl hcrawl =>
      ⟨index,hstart,aligned_returns_error haligned he hcrawl,hcommitted⟩
  unfold System.call at h
  dsimp only at h
  split at h
  · cases h
    exact ⟨hs.replayed,by simp⟩
  · rename_i e hrun
    refine hfails ?_ h
    rintro rfl
    exact crawlingFn_ne_taskJoinError call _ s.db hrun
  · rename_i db' hrun
    obtain ⟨⟨current,hcurrent,hle⟩,hdone⟩ := crawlingFn_eq_ok hrun
    have hreached : index ≤ current.toNat := by
      have hle := UInt32.le_iff_toNat_le.mp hle
      rwa [UInt32.toNat_ofNat_of_lt' (hindex.trans (by decide))] at hle
    rw [hcurrent,Option.getD_some] at h
    have hstored (stored : System σ α ω)
        (hstored : stored = { s with db := db', log := s.log ++
          [.epoch (UInt32.ofNat index) call.answers] }) : Consistent crawler db stored := by
      subst hstored
      exact ⟨hs.logged (Chain.resultOf_eq_some.mpr hdone),hs.inOrder⟩
    have hcommit := hcommitted.commit hstart hreached
    split at h
    · refine (hstored _ rfl).advance h fun crawl hcrawl => ?_
      refine ⟨index+1,Nat.le_succ_of_le hstart,aligned_returns_ok haligned hcrawl,?_⟩
      exact hcommit.succ (by simp)
    · exact hfails (by decide) h
    · refine (hstored _ rfl).advance h fun crawl hcrawl => ?_
      exact ⟨index,hstart,aligned_returns_error haligned (by decide) hcrawl,hcommit⟩

theorem consistent_step (hs : Consistent crawler db s) {label : Label α ω}
    (h : System.step crawler s label = some t) : Consistent crawler db t := by
  cases label with
  | start epoch =>
    unfold System.step at h
    dsimp only at h
    split at h
    · contradiction
    · cases h
      refine ⟨hs.replayed,?_⟩
      intro process hprocess
      obtain rfl := Option.some.inj hprocess
      refine ⟨epoch.toNat,Nat.le_refl _,⟨?_,?_,?_⟩,consecutive_start _⟩
      · intro i hi _
        exact (Crawler.Control.next.inj hi).symm
      · intro i hi
        cases hi
      · intro i e hi
        cases hi
  | crash =>
    cases h
    exact ⟨hs.replayed,by simp⟩
  | raiseExit =>
    obtain ⟨process,hprocess,h⟩ := Option.bind_eq_some_iff.mp h
    exact hs.loop hprocess (by simp) h
  | poll =>
    obtain ⟨process,hprocess,h⟩ := Option.bind_eq_some_iff.mp h
    exact hs.loop hprocess (by simp) h
  | checkRetry =>
    obtain ⟨process,hprocess,h⟩ := Option.bind_eq_some_iff.mp h
    exact hs.loop hprocess (by simp) h
  | call call =>
    obtain ⟨process,hprocess,h⟩ := Option.bind_eq_some_iff.mp h
    split at h
    · exact consistent_call hs hprocess ‹_› h
    · contradiction
  | other transaction =>
    obtain ⟨db',hdb,rfl⟩ := Option.map_eq_some_iff.mp h
    exact ⟨hs.logged hdb,hs.inOrder⟩

theorem consistent_of_execute {labels : List (Label α ω)}
    (hrun : execute (System.step crawler) (.fresh db) labels = some s) : Consistent crawler db s :=
  execute_preserves (Consistent crawler db) (fun _ _ _ hs h => consistent_step hs h)
    ⟨rfl,by simp [System.fresh]⟩ hrun

end
end EpochCrawler
end NamadaIndexer.Shared
