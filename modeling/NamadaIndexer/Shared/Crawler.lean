import NamadaIndexer.Foundation.Runs

/-! The crawl loop shared by every crawler: a stream of block indexes, an exit flag that
a signal handler raises, and a retry around the processing function of the crawler. -/
namespace NamadaIndexer.Shared.Crawler
open NamadaIndexer.Foundation.Runs

/-- The errors a processing function returns. -/
inductive MainError
  | noAction
  | rpcError
  | database
  | taskJoinError
  deriving DecidableEq, Repr

abbrev Outcome := Except MainError Unit

/-- The stream of indexes is the half-open range that ends before this value. -/
def u32Max : ℕ := 4294967295

/-- The condition handed to `RetryIf`. -/
def shouldRetry (mustExit : Bool) (e : MainError) : Bool :=
  !mustExit && (e == .rpcError || e == .database || e == .noAction)

/-- What an observer of the processing function sees. -/
inductive Event
  | call (index : ℕ)
  | returned (index : ℕ) (outcome : Outcome)
  deriving DecidableEq

/-- Where the loop stands. `failed` holds the error the retry condition will look at. -/
inductive Control
  | next (index : ℕ)
  | calling (index : ℕ)
  | failed (index : ℕ) (error : MainError)
  | done
  deriving DecidableEq

structure Crawl where
  control : Control
  mustExit : Bool
  trace : List Event
  deriving DecidableEq

/-- Everything the loop does not decide itself: when the signal arrives and what each
call returns. -/
inductive Label
  | raiseExit
  | poll
  | returns (outcome : Outcome)
  | checkRetry
  deriving DecidableEq

namespace Crawl

def start (firstIndex : ℕ) : Crawl := ⟨.next firstIndex,false,[]⟩

/-- Enter the processing function. -/
def call (s : Crawl) (index : ℕ) : Crawl :=
  { s with control := .calling index, trace := s.trace ++ [Event.call index] }

def step (s : Crawl) : Label → Option Crawl
  | .raiseExit => some { s with mustExit := true }
  | .poll =>
    match s.control with
    | .next index =>
      if index < u32Max then
        if s.mustExit then some { s with control := .done } else some (s.call index)
      else some { s with control := .done }
    | _ => none
  | .returns outcome =>
    match s.control with
    | .calling index =>
      let s := { s with trace := s.trace ++ [Event.returned index outcome] }
      match outcome with
      | .ok () => some { s with control := .next (index+1) }
      | .error e => some { s with control := .failed index e }
    | _ => none
  | .checkRetry =>
    match s.control with
    | .failed index e =>
      if shouldRetry s.mustExit e then some (s.call index)
      -- the result of the retry is discarded: the loop goes on with the next index
      else some { s with control := .next (index+1) }
    | _ => none

@[simp] theorem call_control (s : Crawl) (index : ℕ) : (s.call index).control = .calling index := rfl
@[simp] theorem call_mustExit (s : Crawl) (index : ℕ) : (s.call index).mustExit = s.mustExit := rfl
@[simp] theorem call_trace (s : Crawl) (index : ℕ) :
    (s.call index).trace = s.trace ++ [Event.call index] := rfl

/-- Everything one step can do, with its guard. -/
theorem step_cases {s t : Crawl} {a : Label} (h : s.step a = some t) :
    (a = .raiseExit ∧ t = { s with mustExit := true }) ∨
    (a = .poll ∧ ∃ i, s.control = .next i ∧ i < u32Max ∧ s.mustExit = false ∧ t = s.call i) ∨
    (a = .poll ∧ ∃ i, s.control = .next i ∧ (u32Max ≤ i ∨ s.mustExit = true) ∧
      t = { s with control := .done }) ∨
    (∃ i, a = .returns (.ok ()) ∧ s.control = .calling i ∧
      t = { s with control := .next (i+1), trace := s.trace ++ [Event.returned i (.ok ())] }) ∨
    (∃ i e, a = .returns (.error e) ∧ s.control = .calling i ∧
      t = { s with control := .failed i e, trace := s.trace ++ [Event.returned i (.error e)] }) ∨
    (a = .checkRetry ∧ ∃ i e, s.control = .failed i e ∧ shouldRetry s.mustExit e = true ∧
      t = s.call i) ∨
    (a = .checkRetry ∧ ∃ i e, s.control = .failed i e ∧ shouldRetry s.mustExit e = false ∧
      t = { s with control := .next (i+1) }) := by
  cases a with
  | raiseExit => left; exact ⟨rfl,by simpa [step] using h.symm⟩
  | poll =>
    cases hc : s.control with
    | next i =>
      simp only [step,hc] at h
      split at h
      · rename_i hi
        split at h
        · rename_i hexit
          cases h; exact .inr (.inr (.inl ⟨rfl,i,rfl,.inr hexit,rfl⟩))
        · rename_i hexit
          cases h; exact .inr (.inl ⟨rfl,i,rfl,hi,by simpa using hexit,rfl⟩)
      · rename_i hi
        cases h; exact .inr (.inr (.inl ⟨rfl,i,rfl,.inl (Nat.le_of_not_lt hi),rfl⟩))
    | calling i => simp [step,hc] at h
    | failed i e => simp [step,hc] at h
    | done => simp [step,hc] at h
  | returns outcome =>
    cases hc : s.control with
    | calling i =>
      simp only [step,hc] at h
      cases outcome with
      | ok u => cases u; cases h; exact .inr (.inr (.inr (.inl ⟨i,rfl,rfl,rfl⟩)))
      | error e => cases h; exact .inr (.inr (.inr (.inr (.inl ⟨i,e,rfl,rfl,rfl⟩))))
    | next i => simp [step,hc] at h
    | failed i e => simp [step,hc] at h
    | done => simp [step,hc] at h
  | checkRetry =>
    cases hc : s.control with
    | failed i e =>
      simp only [step,hc] at h
      split at h
      · rename_i hretry
        cases h; exact .inr (.inr (.inr (.inr (.inr (.inl ⟨rfl,i,e,rfl,hretry,rfl⟩)))))
      · rename_i hretry
        cases h
        exact .inr (.inr (.inr (.inr (.inr (.inr ⟨rfl,i,e,rfl,by simpa using hretry,rfl⟩)))))
    | next i => simp [step,hc] at h
    | calling i => simp [step,hc] at h
    | done => simp [step,hc] at h

/-- Index `i+1` is called only after a call on `i` returned `Ok`. -/
def NoIndexSkipped (firstIndex : ℕ) (s : Crawl) : Prop :=
  ∀ i before after, firstIndex ≤ i → s.trace = before ++ Event.call (i+1) :: after →
    Event.returned i (.ok ()) ∈ before

/-- An index is entered at the start of the run or after its predecessor succeeded. -/
def Entered (firstIndex index : ℕ) (trace : List Event) : Prop :=
  firstIndex ≤ index ∧
    (index = firstIndex ∨ ∃ j, index = j+1 ∧ Event.returned j (.ok ()) ∈ trace)

/-- The loop invariant. Once the exit flag is up no further call can start, so only
then may the loop stand in front of an index whose predecessor failed. -/
structure Ordered (firstIndex : ℕ) (s : Crawl) : Prop where
  noIndexSkipped : s.NoIndexSkipped firstIndex
  next : ∀ i, s.control = .next i → s.mustExit = false → Entered firstIndex i s.trace
  calling : ∀ i, s.control = .calling i → Entered firstIndex i s.trace
  failed : ∀ i e, s.control = .failed i e →
    Entered firstIndex i s.trace ∧ (e = .taskJoinError → s.mustExit = true)

lemma Entered.append {first i : ℕ} {trace : List Event} (h : Entered first i trace) (e : Event) :
    Entered first i (trace ++ [e]) := by
  refine ⟨h.1,h.2.imp id ?_⟩
  rintro ⟨j,hj,hmem⟩
  exact ⟨j,hj,List.mem_append_left _ hmem⟩

lemma Entered.succ {first i : ℕ} {trace : List Event} (h : Entered first i trace) :
    Entered first (i+1) (trace ++ [Event.returned i (.ok ())]) :=
  ⟨Nat.le_succ_of_le h.1,.inr ⟨i,rfl,by simp⟩⟩

/-- Appending an event keeps the order as long as a call stands on an entered index. -/
lemma noIndexSkipped_append {first : ℕ} {s t : Crawl} {e : Event} (hs : s.NoIndexSkipped first)
    (ht : t.trace = s.trace ++ [e]) (he : ∀ i, e = .call i → Entered first i s.trace) :
    t.NoIndexSkipped first := by
  intro i before after hi htrace
  rw [ht] at htrace
  rcases List.eq_nil_or_concat after with rfl | ⟨rest,last,rfl⟩
  · obtain ⟨rfl,hcall⟩ := List.append_inj' htrace rfl
    obtain ⟨-,hfirst | ⟨j,hj,hmem⟩⟩ := he (i+1) (by simpa using hcall)
    · omega
    · obtain rfl : i = j := by omega
      exact hmem
  · rw [List.concat_eq_append,←List.cons_append,←List.append_assoc] at htrace
    obtain ⟨hprev,-⟩ := List.append_inj' htrace rfl
    exact hs i before rest hi hprev

lemma ordered_start (first : ℕ) : Ordered first (start first) where
  noIndexSkipped := by
    intro i before after _ htrace
    simp [start] at htrace
  next := by
    intro i hi _
    obtain rfl : first = i := by simpa [start] using hi
    exact ⟨(Nat.le_refl _),.inl rfl⟩
  calling := by intro i hi; simp [start] at hi
  failed := by intro i e hi; simp [start] at hi

lemma Ordered.call {first i : ℕ} {s : Crawl} (h : Ordered first s) (hi : Entered first i s.trace) :
    Ordered first (s.call i) where
  noIndexSkipped := by
    apply noIndexSkipped_append h.noIndexSkipped (call_trace s i)
    intro j hj
    obtain rfl : i = j := by simpa using hj
    exact hi
  next := by intro j hj; simp at hj
  calling := by
    intro j hj
    obtain rfl : i = j := by simpa using hj
    exact hi.append _
  failed := by intro j e hj; simp at hj

/-- A task failure is the one error the loop neither retries nor stops at. It is harmless
only when the exit flag is already up. -/
def TaskFailsOnlyAtExit (s : Crawl) (a : Label) : Prop :=
  a = .returns (.error .taskJoinError) → s.mustExit = true

/-- With the flag down every error other than a task failure is retried. -/
lemma shouldRetry_eq_false {mustExit : Bool} {e : MainError} (h : shouldRetry mustExit e = false) :
    mustExit = true ∨ e = .taskJoinError := by
  cases e <;> simp_all [shouldRetry]

theorem ordered_step {first : ℕ} {s t : Crawl} {a : Label} (hs : Ordered first s)
    (ha : TaskFailsOnlyAtExit s a) (h : s.step a = some t) : Ordered first t := by
  obtain ⟨rfl,rfl⟩ | ⟨rfl,i,hc,-,hexit,rfl⟩ | ⟨rfl,i,hc,-,rfl⟩ | ⟨i,rfl,hc,rfl⟩ | ⟨i,e,rfl,hc,rfl⟩ |
    ⟨rfl,i,e,hc,-,rfl⟩ | ⟨rfl,i,e,hc,hretry,rfl⟩ := step_cases h
  -- the flag goes up
  · refine ⟨hs.noIndexSkipped,?_,hs.calling,?_⟩
    · intro i _ hexit; simp at hexit
    · intro i e hc
      exact ⟨(hs.failed i e hc).1,fun _ => rfl⟩
  -- the next index is called
  · exact hs.call (hs.next i hc hexit)
  -- the stream ends or the loop breaks
  · exact ⟨hs.noIndexSkipped,by simp,by simp,by simp⟩
  -- the call succeeds
  · refine ⟨noIndexSkipped_append hs.noIndexSkipped rfl (by simp),?_,by simp,by simp⟩
    intro j hj _
    obtain rfl : i+1 = j := by simpa using hj
    exact (hs.calling i hc).succ
  -- the call fails
  · refine ⟨noIndexSkipped_append hs.noIndexSkipped rfl (by simp),by simp,by simp,?_⟩
    intro j e' hj
    obtain ⟨rfl,rfl⟩ : i = j ∧ e = e' := by simpa using hj
    refine ⟨(hs.calling i hc).append _,?_⟩
    rintro rfl
    exact ha rfl
  -- the same index is called again
  · exact hs.call (hs.failed i e hc).1
  -- the loop goes on after an error that is not retried
  · refine ⟨hs.noIndexSkipped,?_,by simp,by simp⟩
    intro j hj hexit
    rcases shouldRetry_eq_false hretry with hup | rfl
    · simp [hup] at hexit
    · simp [(hs.failed i .taskJoinError hc).2 rfl] at hexit

/-- No index is skipped in a run in which tasks fail to join only after the exit signal. -/
theorem crawl_visits_in_order (first : ℕ) (labels : List Label) (s : Crawl)
    (hjoin : Along step TaskFailsOnlyAtExit (start first) labels)
    (hrun : execute step (start first) labels = some s) : s.NoIndexSkipped first :=
  (execute_invariant (Ordered first) (fun _ _ _ => ordered_step) (ordered_start first)
    hjoin hrun).noIndexSkipped

/-- A failing database is retried, so the next index waits for the success. -/
theorem crawl_visits_in_order_after_database_error :
    (⟨.calling 8,false,[.call 7,.returned 7 (.error .database),.call 7,.returned 7 (.ok ()),
      .call 8]⟩ : Crawl).NoIndexSkipped 7 :=
  crawl_visits_in_order 7
    [.poll,.returns (.error .database),.checkRetry,.returns (.ok ()),.poll] _
    (by simp [along_cons,TaskFailsOnlyAtExit,start,step,Crawl.call,u32Max,shouldRetry])
    rfl

/-- A task failure on index 0 is dropped and index 1 is called next. -/
theorem crawl_skips_after_task_failure :
    ∃ labels s, execute step (start 0) labels = some s ∧ ¬ s.NoIndexSkipped 0 := by
  refine ⟨[.poll,.returns (.error .taskJoinError),.checkRetry,.poll],_,rfl,?_⟩
  intro h
  simpa using h 0 [.call 0,.returned 0 (.error .taskJoinError)] [] (Nat.le_refl _) rfl

/-- The condition is sharp: with the flag down, a task failure on any index leads to a
call of the next index with no success before it. -/
theorem skips_of_task_failure {s : Crawl} {i : ℕ} (hc : s.control = .calling i)
    (hexit : s.mustExit = false) (hi : i+1 < u32Max)
    (hnever : Event.returned i (.ok ()) ∉ s.trace) {first : ℕ} (hfirst : first ≤ i) :
    ∃ t, execute step s [.returns (.error .taskJoinError),.checkRetry,.poll] = some t ∧
      ¬ t.NoIndexSkipped first := by
  refine ⟨⟨.calling (i+1),false,
    s.trace ++ [.returned i (.error .taskJoinError)] ++ [.call (i+1)]⟩,?_,?_⟩
  · simp [step,hc,hexit,hi,shouldRetry,Crawl.call]
  · intro h
    have hmem := h i (s.trace ++ [.returned i (.error .taskJoinError)]) [] hfirst rfl
    simp [hnever] at hmem

/-- The loop stands on an index of its stream, and has called no others. -/
structure InStream (firstIndex : ℕ) (s : Crawl) : Prop where
  trace : ∀ i, Event.call i ∈ s.trace → firstIndex ≤ i ∧ i < u32Max
  next : ∀ i, s.control = .next i → firstIndex ≤ i
  calling : ∀ i, s.control = .calling i → firstIndex ≤ i ∧ i < u32Max
  failed : ∀ i e, s.control = .failed i e → firstIndex ≤ i ∧ i < u32Max

lemma inStream_start (first : ℕ) : InStream first (start first) where
  trace := by intro i hi; simp [start] at hi
  next := by
    intro i hi
    obtain rfl : first = i := by simpa [start] using hi
    exact Nat.le_refl _
  calling := by intro i hi; simp [start] at hi
  failed := by intro i e hi; simp [start] at hi

lemma InStream.call {first i : ℕ} {s : Crawl} (h : InStream first s)
    (hi : first ≤ i ∧ i < u32Max) : InStream first (s.call i) where
  trace := by
    intro j hj
    rw [call_trace,List.mem_append,List.mem_singleton,Event.call.injEq] at hj
    rcases hj with hj | rfl
    · exact h.trace j hj
    · exact hi
  next := by intro j hj; simp at hj
  calling := by
    intro j hj
    obtain rfl : i = j := by simpa using hj
    exact hi
  failed := by intro j e hj; simp at hj

theorem inStream_step {first : ℕ} {s t : Crawl} {a : Label} (hs : InStream first s)
    (h : s.step a = some t) : InStream first t := by
  obtain ⟨rfl,rfl⟩ | ⟨rfl,i,hc,hi,-,rfl⟩ | ⟨rfl,i,hc,-,rfl⟩ | ⟨i,rfl,hc,rfl⟩ | ⟨i,e,rfl,hc,rfl⟩ |
    ⟨rfl,i,e,hc,-,rfl⟩ | ⟨rfl,i,e,hc,-,rfl⟩ := step_cases h
  · exact ⟨hs.trace,hs.next,hs.calling,hs.failed⟩
  · exact hs.call ⟨hs.next i hc,hi⟩
  · exact ⟨hs.trace,by simp,by simp,by simp⟩
  · refine ⟨fun j hj => hs.trace j (by simpa using hj),?_,by simp,by simp⟩
    intro j hj
    obtain rfl : i+1 = j := by simpa using hj
    exact Nat.le_succ_of_le (hs.calling i hc).1
  · refine ⟨fun j hj => hs.trace j (by simpa using hj),by simp,by simp,?_⟩
    intro j e' hj
    obtain ⟨rfl,-⟩ : i = j ∧ e = e' := by simpa using hj
    exact hs.calling i hc
  · exact hs.call (hs.failed i e hc)
  · refine ⟨hs.trace,?_,by simp,by simp⟩
    intro j hj
    obtain rfl : i+1 = j := by simpa using hj
    exact Nat.le_succ_of_le (hs.failed i e hc).1

/-- As long as every call succeeds, the loop comes to every index. -/
lemma exists_run_to (first n : ℕ) (h : first + n ≤ u32Max) :
    ∃ labels s, execute step (start first) labels = some s ∧ s.control = .next (first+n) ∧
      s.mustExit = false := by
  induction n with
  | zero => exact ⟨[],start first,rfl,rfl,rfl⟩
  | succ n ih =>
    obtain ⟨labels,s,hrun,hc,hexit⟩ := ih (by omega)
    have hlt : first + n < u32Max := by omega
    have hsteps : execute step s [.poll,.returns (.ok ())] = some { s.call (first+n) with
        control := .next (first+n+1)
        trace := (s.call (first+n)).trace ++ [.returned (first+n) (.ok ())] } := by
      simp [step,hc,hexit,hlt,Crawl.call]
    exact ⟨_,_,execute_append_eq_some.mpr ⟨s,hrun,hsteps⟩,rfl,hexit⟩

/-- The indexes that some run calls are those of the stream. -/
theorem called_iff {first i : ℕ} :
    (∃ labels s, execute step (start first) labels = some s ∧ Event.call i ∈ s.trace) ↔
      first ≤ i ∧ i < u32Max := by
  constructor
  · rintro ⟨labels,s,hrun,hcall⟩
    exact (execute_preserves (InStream first) (fun _ _ _ => inStream_step) (inStream_start first)
      hrun).trace i hcall
  · rintro ⟨hle,hlt⟩
    obtain ⟨labels,s,hrun,hc,hexit⟩ := exists_run_to first (i-first) (by omega)
    rw [Nat.add_sub_cancel' hle] at hc
    refine ⟨labels ++ [.poll],s.call i,execute_append_eq_some.mpr ⟨s,hrun,?_⟩,?_⟩
    · simp [step,hc,hexit,hlt]
    · rw [call_trace]
      exact List.mem_append_right _ (List.mem_singleton_self _)

end Crawl
end NamadaIndexer.Shared.Crawler
