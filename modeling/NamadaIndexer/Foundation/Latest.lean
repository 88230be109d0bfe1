import Mathlib.Data.List.Dedup
import Mathlib.Data.List.Induction
import Mathlib.Order.MinMax
import NamadaIndexer.Foundation.Grouping

/-! The latest rows of a history: of each group, the rows at its greatest time. -/
namespace NamadaIndexer.Foundation

section
variable {ρ κ : Type*}

/-- The first row of its key. -/
def IsFirst (key : ρ → κ) (rows : List ρ) (r : ρ) : Prop :=
  ∃ before after, rows = before ++ r :: after ∧ ∀ s ∈ before, key s ≠ key r

variable {key : ρ → κ} {rows : List ρ} {r : ρ}

theorem IsFirst.mem (h : IsFirst key rows r) : r ∈ rows := by
  obtain ⟨before,after,rfl,-⟩ := h
  simp

theorem isFirst_cons {s : ρ} :
    IsFirst key (s :: rows) r ↔ r = s ∨ key s ≠ key r ∧ IsFirst key rows r := by
  constructor
  · rintro ⟨before,after,hrows,hbefore⟩
    cases before with
    | nil => exact .inl (List.cons.inj hrows).1.symm
    | cons t before =>
      obtain ⟨rfl,hrest⟩ := List.cons.inj hrows
      rw [List.forall_mem_cons] at hbefore
      exact .inr ⟨hbefore.1,before,after,hrest,hbefore.2⟩
  · rintro (rfl | ⟨hne,before,after,rfl,hbefore⟩)
    · exact ⟨[],rows,rfl,by simp⟩
    · exact ⟨s :: before,after,rfl,List.forall_mem_cons.mpr ⟨hne,hbefore⟩⟩

/-- Every key that occurs has a first row. -/
theorem exists_isFirst [DecidableEq κ] (key : ρ → κ) (hr : r ∈ rows) :
    ∃ s, IsFirst key rows s ∧ key s = key r := by
  induction rows with
  | nil => contradiction
  | cons s rows ih =>
    by_cases hkey : key s = key r
    · exact ⟨s,isFirst_cons.mpr (.inl rfl),hkey⟩
    · have hr : r ∈ rows := (List.mem_cons.mp hr).resolve_left fun h => hkey (h ▸ rfl)
      obtain ⟨t,ht,heq⟩ := ih hr
      exact ⟨t,isFirst_cons.mpr (.inr ⟨heq ▸ hkey,ht⟩),heq⟩

theorem IsFirst.unique {s : ρ} (hr : IsFirst key rows r) (hs : IsFirst key rows s)
    (hkey : key r = key s) : r = s := by
  induction rows with
  | nil => exact absurd hr.mem List.not_mem_nil
  | cons t rows ih =>
    rcases isFirst_cons.mp hr with rfl | ⟨hne,hr⟩
    · rcases isFirst_cons.mp hs with rfl | ⟨hne,-⟩
      · rfl
      · exact absurd hkey hne
    · rcases isFirst_cons.mp hs with rfl | ⟨-,hs⟩
      · exact absurd hkey.symm hne
      · exact ih hr hs

theorem isFirst_map {α : Type*} {f : α → ρ} {list : List α} :
    IsFirst key (list.map f) r ↔ ∃ a, IsFirst (fun a => key (f a)) list a ∧ f a = r := by
  induction list with
  | nil =>
    constructor
    · exact fun h => absurd h.mem List.not_mem_nil
    · rintro ⟨a,h,-⟩
      exact absurd h.mem List.not_mem_nil
  | cons b list ih =>
    rw [List.map_cons,isFirst_cons,ih]
    constructor
    · rintro (rfl | ⟨hne,a,ha,rfl⟩)
      · exact ⟨b,isFirst_cons.mpr (.inl rfl),rfl⟩
      · exact ⟨a,isFirst_cons.mpr (.inr ⟨hne,ha⟩),rfl⟩
    · rintro ⟨a,ha,rfl⟩
      rcases isFirst_cons.mp ha with rfl | ⟨hne,ha⟩
      · exact .inl rfl
      · exact .inr ⟨hne,a,ha,rfl⟩

end

namespace Table
variable {ρ κ : Type*} {key : ρ → κ} [DecidableEq κ] {r : ρ}

theorem mem_fresh_iff {known : List κ} {rows : List ρ} :
    r ∈ fresh key known rows ↔ key r ∉ known ∧ IsFirst key rows r := by
  induction rows generalizing known with
  | nil =>
    constructor
    · exact fun h => absurd h List.not_mem_nil
    · exact fun h => absurd h.2.mem List.not_mem_nil
  | cons s rows ih =>
    rw [fresh,isFirst_cons]
    split
    · rename_i hknown
      rw [ih]
      constructor
      · rintro ⟨hr,hfirst⟩
        exact ⟨hr,.inr ⟨fun h => hr (h ▸ hknown),hfirst⟩⟩
      · rintro ⟨hr,rfl | ⟨-,hfirst⟩⟩
        · exact absurd hknown hr
        · exact ⟨hr,hfirst⟩
    · rename_i hknown
      rw [List.mem_cons,ih,List.mem_cons,not_or]
      constructor
      · rintro (rfl | ⟨⟨hne,hr⟩,hfirst⟩)
        · exact ⟨hknown,.inl rfl⟩
        · exact ⟨hr,.inr ⟨Ne.symm hne,hfirst⟩⟩
      · rintro ⟨hr,rfl | ⟨hne,hfirst⟩⟩
        · exact .inl rfl
        · exact .inr ⟨⟨Ne.symm hne,hr⟩,hfirst⟩

omit [DecidableEq κ] in
/-- Only no rows at all leave a table empty. -/
theorem empty_rows_iff_isFirst (rows : List ρ) :
    (∀ r, r ∈ (Table.empty : Table key).rows ↔ IsFirst key rows r) ↔ rows = [] := by
  constructor
  · intro h
    cases rows with
    | nil => rfl
    | cons r rows => exact absurd ((h r).mpr (isFirst_cons.mpr (.inl rfl))) List.not_mem_nil
  · rintro rfl r
    exact ⟨fun hr => absurd hr List.not_mem_nil,fun hr => absurd hr.mem List.not_mem_nil⟩

/-- An empty table keeps the first row of each key. -/
theorem mem_insertOrIgnore_empty {rows : List ρ} :
    r ∈ ((Table.empty : Table key).insertOrIgnore rows).rows ↔ IsFirst key rows r := by
  rw [insertOrIgnore_rows,empty_rows,List.nil_append,empty_keys,mem_fresh_iff]
  simp

/-- Under a merge that replaces, an empty table keeps the last row of each key. -/
theorem mem_foldlM_put_empty {m : Merge key}
    (hm : ∀ {old new}, key old = key new → m.run old new = some new) {rows : List ρ}
    {u : Table key} (h : rows.foldlM (put m) .empty = some u) :
    r ∈ u.rows ↔ IsFirst key rows.reverse r := by
  induction rows using List.reverseRecOn generalizing u with
  | nil =>
    cases h
    exact ⟨fun hr => absurd hr List.not_mem_nil,fun hr => absurd hr.mem List.not_mem_nil⟩
  | append_singleton rows new ih =>
    rw [List.foldlM_append] at h
    obtain ⟨t,ht,hput⟩ := Option.bind_eq_some_iff.mp h
    have hput : put m t new = some u := by simpa using hput
    rw [mem_put_of_replaces hm hput,ih ht,List.reverse_append,List.reverse_singleton,
      List.singleton_append,isFirst_cons,and_comm,ne_comm]

/-- Rows that are put, some with one key, take the places of those with their keys. -/
theorem mem_foldlM_put_iff_isFirst {m : Merge key}
    (hm : ∀ {old new}, key old = key new → m.run old new = some new) {rows : List ρ}
    {t u : Table key} (h : rows.foldlM (put m) t = some u) :
    r ∈ u.rows ↔ IsFirst key rows.reverse r ∨ key r ∉ rows.map key ∧ r ∈ t.rows := by
  induction rows using List.reverseRecOn generalizing u with
  | nil =>
    cases h
    exact ⟨fun hr => .inr ⟨List.not_mem_nil,hr⟩,
      fun hr => (hr.resolve_left fun hfirst => absurd hfirst.mem List.not_mem_nil).2⟩
  | append_singleton rows new ih =>
    rw [List.foldlM_append] at h
    obtain ⟨v,hv,hput⟩ := Option.bind_eq_some_iff.mp h
    have hput : put m v new = some u := by simpa using hput
    rw [mem_put_of_replaces hm hput,ih hv,List.reverse_append,List.reverse_singleton,
      List.singleton_append,isFirst_cons,List.map_append,List.mem_append,List.map_singleton,
      List.mem_singleton,ne_comm]
    tauto

end Table

section
variable {ρ γ τ : Type*} [DecidableEq γ] [LinearOrder τ] (group : ρ → γ) (time : ρ → τ)

/-- `SELECT group, MAX(time) ... GROUP BY group` -/
def greatestTimes (rows : List ρ) : List (γ × τ) :=
  (rows.map group).dedup.filterMap fun g =>
    (((rows.filter fun r => group r = g).map time).max?).map fun t => (g,t)

/-- The rows joined with the greatest time of their group. -/
def latest (rows : List ρ) : List ρ :=
  rows.flatMap fun r => ((greatestTimes group time rows).filter fun entry =>
    group r = entry.1 ∧ time r = entry.2).map fun _ => r

omit group time in
/-- The maximum of a linear order is lawful in the sense of lists. -/
lemma lawfulOrderMax (τ : Type*) [LinearOrder τ] : Std.LawfulOrderMax τ := by
  have : Std.MaxEqOr τ := ⟨fun a b => (le_total b a).imp max_eq_left max_eq_right⟩
  exact { max_eq_or := this.max_eq_or, max_le_iff := fun _ _ _ => max_le_iff }

variable {group time} {rows : List ρ} {r : ρ}

theorem mem_greatestTimes {g : γ} {t : τ} :
    (g,t) ∈ greatestTimes group time rows ↔
      (∃ r ∈ rows, group r = g ∧ time r = t) ∧ ∀ r ∈ rows, group r = g → time r ≤ t := by
  have hmax : (((rows.filter fun r => group r = g).map time).max? = some t) ↔
      (∃ r ∈ rows, group r = g ∧ time r = t) ∧ ∀ r ∈ rows, group r = g → time r ≤ t := by
    have := lawfulOrderMax τ
    rw [List.max?_eq_some_iff,List.forall_mem_map]
    simp [and_assoc]
  rw [←hmax,greatestTimes,List.mem_filterMap]
  constructor
  · rintro ⟨g',-,h⟩
    obtain ⟨t',ht',heq⟩ := Option.map_eq_some_iff.mp h
    obtain ⟨rfl,rfl⟩ := Prod.mk.inj heq
    exact ht'
  · intro h
    obtain ⟨⟨r,hr,rfl,-⟩,-⟩ := hmax.mp h
    exact ⟨group r,List.mem_dedup.mpr (List.mem_map_of_mem hr),by rw [h]; rfl⟩

/-- A row is in the view when no row of its group is later. -/
theorem mem_latest :
    r ∈ latest group time rows ↔ r ∈ rows ∧ ∀ s ∈ rows, group s = group r → time s ≤ time r := by
  rw [latest,List.mem_flatMap]
  constructor
  · rintro ⟨s,hs,hmem⟩
    obtain ⟨⟨g,t⟩,hentry,rfl⟩ := List.mem_map.mp hmem
    obtain ⟨hgreatest,heq⟩ := List.mem_filter.mp hentry
    obtain ⟨rfl,rfl⟩ : group s = g ∧ time s = t := by simpa using heq
    exact ⟨hs,(mem_greatestTimes.mp hgreatest).2⟩
  · rintro ⟨hr,hle⟩
    refine ⟨r,hr,List.mem_map.mpr ⟨(group r,time r),List.mem_filter.mpr ⟨?_,by simp⟩,rfl⟩⟩
    exact mem_greatestTimes.mpr ⟨⟨r,hr,rfl,rfl⟩,hle⟩

/-- Every group has a latest row. -/
theorem exists_mem_latest (group : ρ → γ) (time : ρ → τ) (hr : r ∈ rows) :
    ∃ s ∈ latest group time rows, group s = group r := by
  have hne : (rows.filter fun s => group s = group r).map time ≠ [] := by
    have hmem : time r ∈ (rows.filter fun s => group s = group r).map time :=
      List.mem_map_of_mem (List.mem_filter.mpr ⟨hr,by simp⟩)
    exact List.ne_nil_of_mem hmem
  have := lawfulOrderMax τ
  obtain ⟨t,ht⟩ := Option.ne_none_iff_exists'.mp (mt List.max?_eq_none_iff.mp hne)
  obtain ⟨hmem,hle⟩ := List.max?_eq_some_iff.mp ht
  obtain ⟨s,hs,rfl⟩ := List.mem_map.mp hmem
  obtain ⟨hs,hgroup⟩ := List.mem_filter.mp hs
  have hgroup : group s = group r := by simpa using hgroup
  refine ⟨s,mem_latest.mpr ⟨hs,fun other hother hsame => hle _ ?_⟩,hgroup⟩
  exact List.mem_map_of_mem (List.mem_filter.mpr ⟨hother,by simpa using hsame.trans hgroup⟩)

theorem greatestTimes_nodup : (greatestTimes group time rows).Nodup := by
  refine (List.nodup_dedup _).filterMap fun g g' entry hg hg' => ?_
  obtain ⟨t,-,rfl⟩ := Option.map_eq_some_iff.mp hg
  obtain ⟨t',-,heq⟩ := Option.map_eq_some_iff.mp hg'
  exact (Prod.mk.inj heq).1.symm

/-- The join repeats no row, since a group has one greatest time. -/
theorem latest_eq_filter : latest group time rows =
    rows.filter fun r => (group r,time r) ∈ greatestTimes group time rows := by
  have hrow : ∀ r, (((greatestTimes group time rows).filter fun entry =>
      group r = entry.1 ∧ time r = entry.2).map fun _ => r) =
      if (group r,time r) ∈ greatestTimes group time rows then [r] else [] := by
    intro r
    have hfilter : ((greatestTimes group time rows).filter fun entry =>
        group r = entry.1 ∧ time r = entry.2) =
        (greatestTimes group time rows).filter fun entry => entry == (group r,time r) := by
      refine List.filter_congr fun entry _ => ?_
      rw [Bool.eq_iff_iff,decide_eq_true_iff,beq_iff_eq,Prod.ext_iff,eq_comm,eq_comm (a := time r)]
    rw [hfilter,List.filter_beq,List.map_replicate]
    split
    · rename_i hmem
      rw [List.count_eq_one_of_mem greatestTimes_nodup hmem]
      rfl
    · rename_i hmem
      rw [List.count_eq_zero.mpr hmem]
      rfl
  rw [latest,funext hrow]
  clear hrow
  generalize greatestTimes group time rows = entries
  induction rows with
  | nil => rfl
  | cons r rows ih =>
    rw [List.flatMap_cons,ih,List.filter_cons]
    by_cases hmem : (group r,time r) ∈ entries <;> simp [hmem]

/-- A view over rows with distinct times in each group has one row for each group. -/
theorem latest_nodup (h : (rows.map fun r => (group r,time r)).Nodup) :
    ((latest group time rows).map group).Nodup := by
  rw [latest_eq_filter,List.nodup_map_iff_inj_on (h.of_map.filter _)]
  intro r hr s hs hgroup
  rw [←latest_eq_filter] at hr hs
  obtain ⟨hr,hler⟩ := mem_latest.mp hr
  obtain ⟨hs,hles⟩ := mem_latest.mp hs
  have htime : time r = time s := le_antisymm (hles r hr hgroup) (hler s hs hgroup.symm)
  exact List.inj_on_of_nodup_map h hr hs (Prod.ext hgroup htime)

/-- The view does not depend on the order of the rows. -/
theorem latest_perm {rows' : List ρ} (h : rows.Perm rows') :
    (latest group time rows).Perm (latest group time rows') := by
  have hsame : ∀ r, (group r,time r) ∈ greatestTimes group time rows ↔
      (group r,time r) ∈ greatestTimes group time rows' := by
    intro r
    simp only [mem_greatestTimes,h.mem_iff]
  rw [latest_eq_filter,latest_eq_filter]
  simp only [hsame]
  exact h.filter _

end
end NamadaIndexer.Foundation
