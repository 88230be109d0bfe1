import Mathlib.Data.Finset.Card
import Mathlib.Data.Finset.Dedup
import Mathlib.Data.List.Nodup
import Mathlib.Data.List.Perm.Basic

/-! Iterating over collections: a set is visited in any order, each member once, and long
lists are handed on in chunks. -/
namespace NamadaIndexer.Foundation

variable {α : Type*}

section
variable {β γ : Type*} {f : α → Option β}

/-- What a loop collects is read off what it visits. -/
theorem map_of_mapM {g : β → γ} {h : α → γ} {l : List α} {bs : List β} (hl : l.mapM f = some bs)
    (hf : ∀ a ∈ l, ∀ b, f a = some b → g b = h a) : bs.map g = l.map h := by
  induction l generalizing bs with
  | nil => cases hl; rfl
  | cons a l ih =>
    rw [List.mapM_cons] at hl
    obtain ⟨b,hb,hl⟩ := Option.bind_eq_some_iff.mp hl
    obtain ⟨rest,hrest,hl⟩ := Option.bind_eq_some_iff.mp hl
    cases hl
    rw [List.map_cons,List.map_cons,hf a List.mem_cons_self b hb,
      ih hrest fun a ha => hf a (List.mem_cons_of_mem _ ha)]

/-- What a loop collects comes from something that it visits. -/
theorem exists_of_mem_mapM {l : List α} {bs : List β} (hl : l.mapM f = some bs) {b : β}
    (hb : b ∈ bs) : ∃ a ∈ l, f a = some b := by
  induction l generalizing bs with
  | nil =>
    cases hl
    contradiction
  | cons a l ih =>
    rw [List.mapM_cons] at hl
    obtain ⟨first,hfirst,hl⟩ := Option.bind_eq_some_iff.mp hl
    obtain ⟨rest,hrest,hl⟩ := Option.bind_eq_some_iff.mp hl
    cases hl
    rcases List.mem_cons.mp hb with rfl | hb
    · exact ⟨a,List.mem_cons_self,hfirst⟩
    · obtain ⟨c,hc,hfc⟩ := ih hrest hb
      exact ⟨c,List.mem_cons_of_mem _ hc,hfc⟩

theorem mapM_eq_some_map {g : α → β} {l : List α} (h : ∀ a ∈ l, f a = some (g a)) :
    l.mapM f = some (l.map g) := by
  induction l with
  | nil => rfl
  | cons a l ih =>
    rw [List.mapM_cons,h a List.mem_cons_self,ih fun a ha => h a (List.mem_cons_of_mem _ ha)]
    rfl

end

/-- A loop that works on one part of a state, and asks of every item what the rest of the state
decides. -/
theorem foldlM_part {σ τ : Type*} {step : σ → α → Option σ} {get : σ → τ} {set : σ → τ → σ}
    {allowed : σ → α → Prop} {f : τ → α → Option τ}
    (hstep : ∀ s a s', step s a = some s' ↔ allowed s a ∧ ∃ t, f (get s) a = some t ∧ set s t = s')
    (hget : ∀ s t, get (set s t) = t) (hset : ∀ s t t', set (set s t) t' = set s t')
    (hself : ∀ s, set s (get s) = s) (hallowed : ∀ s t a, allowed (set s t) a ↔ allowed s a)
    {as : List α} {s s' : σ} :
    as.foldlM step s = some s' ↔
      (∀ a ∈ as, allowed s a) ∧ ∃ t, as.foldlM f (get s) = some t ∧ set s t = s' := by
  induction as generalizing s with
  | nil =>
    constructor
    · intro h
      have hs : s = s' := Option.some.inj h
      exact ⟨by simp,get s,rfl,(hself s).trans hs⟩
    · rintro ⟨-,t,ht,hset⟩
      have hs : get s = t := Option.some.inj ht
      rw [←hset,←hs,hself]
      rfl
  | cons a as ih =>
    rw [List.foldlM_cons,List.forall_mem_cons,List.foldlM_cons]
    constructor
    · intro h
      obtain ⟨m,hm,hrest⟩ := Option.bind_eq_some_iff.mp h
      obtain ⟨ha,t,ht,rfl⟩ := (hstep _ _ _).mp hm
      obtain ⟨has,u,hu,rfl⟩ := ih.mp hrest
      rw [hget] at hu
      refine ⟨⟨ha,fun b hb => (hallowed s t b).mp (has b hb)⟩,u,?_,?_⟩
      · exact Option.bind_eq_some_iff.mpr ⟨t,ht,hu⟩
      · exact (hset s t u).symm
    · rintro ⟨⟨ha,has⟩,u,hu,rfl⟩
      obtain ⟨t,ht,hrest⟩ := Option.bind_eq_some_iff.mp hu
      refine Option.bind_eq_some_iff.mpr ⟨set s t,(hstep _ _ _).mpr ⟨ha,t,ht,rfl⟩,ih.mpr ?_⟩
      refine ⟨fun b hb => (hallowed s t b).mpr (has b hb),u,?_,hset s t u⟩
      rw [hget]
      exact hrest

/-- Lists without duplicates, each under a label of its own, have no duplicates together. -/
theorem nodup_flatMap_of_labels {β γ : Type*} {label : α → γ} {tag : β → γ} {l : List α}
    {f : α → List β} (hl : (l.map label).Nodup)
    (hf : ∀ a ∈ l, (f a).Nodup ∧ ∀ b ∈ f a, tag b = label a) : (l.flatMap f).Nodup := by
  rw [List.nodup_flatMap]
  refine ⟨fun a ha => (hf a ha).1,?_⟩
  have hlabels : l.Pairwise fun a b => label a ≠ label b := List.pairwise_map.mp hl
  refine hlabels.imp_of_mem ?_
  intro a b ha hb hne c hca hcb
  exact hne (((hf a ha).2 c hca).symm.trans ((hf b hb).2 c hcb))

/-- A list without duplicates counts more than one member if two of them are counted. -/
theorem one_lt_countP_iff [DecidableEq α] {l : List α} (hl : l.Nodup) (p : α → Bool) :
    1 < l.countP p ↔ ∃ a ∈ l, ∃ b ∈ l, p a ∧ p b ∧ a ≠ b := by
  rw [List.countP_eq_length_filter,←List.toFinset_card_of_nodup (hl.filter p),Finset.one_lt_card]
  simp only [List.mem_toFinset,List.mem_filter]
  constructor
  · rintro ⟨a,⟨ha,hpa⟩,b,⟨hb,hpb⟩,hne⟩
    exact ⟨a,ha,b,hb,hpa,hpb,hne⟩
  · rintro ⟨a,ha,b,hb,hpa,hpb,hne⟩
    exact ⟨a,⟨ha,hpa⟩,b,⟨hb,hpb⟩,hne⟩

/-- The list visits the members of the set, each of them once. -/
structure Enumerates (list : List α) (set : Finset α) : Prop where
  nodup : list.Nodup
  mem_iff : ∀ a, a ∈ list ↔ a ∈ set

/-- Two iterations over one set differ by their order only. -/
theorem Enumerates.perm {l l' : List α} {s : Finset α} (h : Enumerates l s)
    (h' : Enumerates l' s) : l.Perm l' := by
  rw [List.perm_ext_iff_of_nodup h.nodup h'.nodup]
  intro a
  rw [h.mem_iff,h'.mem_iff]

theorem Enumerates.of_perm {l l' : List α} {s : Finset α} (h : Enumerates l s)
    (hp : l'.Perm l) : Enumerates l' s :=
  ⟨hp.nodup_iff.mpr h.nodup,fun a => hp.mem_iff.trans (h.mem_iff a)⟩

section
variable [DecidableEq α]

/-- Every set can be visited. -/
theorem enumerates_dedup (l : List α) : Enumerates l.dedup l.toFinset :=
  ⟨l.nodup_dedup,fun a => by rw [List.mem_dedup,List.mem_toFinset]⟩

/-- Any two members of a set can come first. -/
theorem exists_enumerates_pair {s : Finset α} {l : List α} (h : Enumerates l s) {a b : α}
    (ha : a ∈ s) (hb : b ∈ s) (hab : a ≠ b) : ∃ rest, Enumerates (a::b::rest) s := by
  have hmem : b ∈ l.erase a := (List.mem_erase_of_ne hab.symm).mpr ((h.mem_iff b).mpr hb)
  refine ⟨(l.erase a).erase b,h.of_perm ?_⟩
  have hfirst : l.Perm (a :: l.erase a) := List.perm_cons_erase ((h.mem_iff a).mpr ha)
  have hsecond : (l.erase a).Perm (b :: (l.erase a).erase b) := List.perm_cons_erase hmem
  exact (hfirst.trans (hsecond.cons a)).symm

end

/-- Any member of a set can come last. -/
theorem exists_enumerates_last [DecidableEq α] {s : Finset α} {l : List α} (h : Enumerates l s)
    {a : α} (ha : a ∈ s) : ∃ rest, Enumerates (rest ++ [a]) s := by
  refine ⟨l.erase a,h.of_perm ?_⟩
  have hfirst : l.Perm (a :: l.erase a) := List.perm_cons_erase ((h.mem_iff a).mpr ha)
  exact (List.perm_append_singleton a (l.erase a)).trans hfirst.symm

/-- The orders in which a program visits its sets, one for every type of members. -/
structure HashOrder where
  visit : {α : Type} → [DecidableEq α] → List α → List α
  enumerates : ∀ {α : Type} [DecidableEq α] (l : List α), Enumerates (visit l) l.toFinset

namespace HashOrder

/-- Members are visited in the order in which they were inserted last. -/
def insertion : HashOrder := ⟨fun l => l.dedup,fun l => enumerates_dedup l⟩

variable {α : Type} [DecidableEq α] (order : HashOrder) {l : List α}

@[simp] theorem mem_visit {a : α} : a ∈ order.visit l ↔ a ∈ l :=
  ((order.enumerates l).mem_iff a).trans List.mem_toFinset

theorem nodup_visit : (order.visit l).Nodup := (order.enumerates l).nodup

end HashOrder

/-- The orders in which the futures of a stream complete, for every type of their outputs. -/
structure CompletionOrder where
  complete : {α : Type} → List α → List α
  perm : ∀ {α : Type} (l : List α), (complete l).Perm l

/-- Futures complete in the order in which they were started. -/
def CompletionOrder.asStarted : CompletionOrder := ⟨fun l => l,fun l => .refl l⟩

/-- The chunks of a list, for a positive size: each but the last has exactly that size. -/
def chunks (size : ℕ) : List α → List (List α)
  | [] => []
  | a::as => (a :: as.take (size-1)) :: chunks size (as.drop (size-1))
termination_by as => as.length
decreasing_by simp only [List.length_cons,List.length_drop]; omega

@[simp] theorem chunks_nil (size : ℕ) : chunks size ([] : List α) = [] := by
  rw [chunks]

theorem chunks_cons (size : ℕ) (a : α) (as : List α) :
    chunks size (a::as) = (a :: as.take (size-1)) :: chunks size (as.drop (size-1)) := by
  rw [chunks]

/-- The chunks put together are the list. -/
theorem flatten_chunks (size : ℕ) (l : List α) : (chunks size l).flatten = l := by
  induction l using chunks.induct size with
  | case1 => simp
  | case2 a as ih => rw [chunks_cons,List.flatten_cons,ih,List.cons_append,List.take_append_drop]

/-- The parts of a list one after the other make up its beginning. -/
theorem flatMap_range_take_drop (size count : ℕ) (l : List α) :
    ((List.range count).flatMap fun k => (l.drop (k*size)).take size) = l.take (count*size) := by
  induction count with
  | zero => simp
  | succ count ih =>
    rw [List.range_succ,List.flatMap_append,ih,Nat.succ_mul,List.take_add]
    simp

/-- No chunk is longer than their size. -/
theorem length_le_of_mem_chunks {size : ℕ} (hsize : 0 < size) {l chunk : List α}
    (h : chunk ∈ chunks size l) : chunk.length ≤ size := by
  induction l using chunks.induct size with
  | case1 =>
    rw [chunks_nil] at h
    contradiction
  | case2 a as ih =>
    rw [chunks_cons] at h
    rcases List.mem_cons.mp h with rfl | h
    · rw [List.length_cons,List.length_take]
      omega
    · exact ih h

/-- The chunks have the members of the list. -/
theorem forall_mem_chunks {size : ℕ} {l : List α} {p : α → Prop} :
    (∀ chunk ∈ chunks size l, ∀ a ∈ chunk, p a) ↔ ∀ a ∈ l, p a := by
  conv_rhs => rw [←flatten_chunks size l]
  simp only [List.mem_flatten]
  constructor
  · rintro h a ⟨chunk,hchunk,ha⟩
    exact h chunk hchunk a ha
  · exact fun h chunk hchunk a ha => h a ⟨chunk,hchunk,ha⟩

end NamadaIndexer.Foundation
