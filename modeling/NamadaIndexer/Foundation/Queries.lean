import Mathlib.Data.List.Dedup
import Mathlib.Data.List.Perm.Basic
import Mathlib.Algebra.BigOperators.Group.List.Basic

/-! What queries make of rows: joins of two tables, and the groups of `GROUP BY` with their sums. -/
namespace NamadaIndexer.Foundation

variable {α β κ : Type*}

/-- `INNER JOIN` -/
def innerJoin (on : α → β → Bool) (as : List α) (bs : List β) : List (α × β) :=
  as.flatMap fun a => (bs.filter (on a)).map fun b => (a,b)

/-- `LEFT OUTER JOIN` -/
def leftJoin (on : α → β → Bool) (as : List α) (bs : List β) : List (α × Option β) :=
  as.flatMap fun a =>
    match bs.filter (on a) with
    | [] => [(a,none)]
    | matching => matching.map fun b => (a,some b)

/-- `ORDER BY .. DESC`: one of the orders in which the rows may be listed. -/
structure Descending {γ : Type*} [LE γ] (column : α → γ) (rows listed : List α) : Prop where
  perm : listed.Perm rows
  sorted : listed.Pairwise fun a b => column b ≤ column a

/-- `GROUP BY`: the keys that occur, each with its rows. -/
def groupBy [DecidableEq κ] (key : α → κ) (rows : List α) : List (κ × List α) :=
  (rows.map key).dedup.map fun k => (k,rows.filter fun row => key row = k)

theorem mem_innerJoin {on : α → β → Bool} {as : List α} {bs : List β} {row : α × β} :
    row ∈ innerJoin on as bs ↔ row.1 ∈ as ∧ row.2 ∈ bs ∧ on row.1 row.2 := by
  rw [innerJoin,List.mem_flatMap]
  constructor
  · rintro ⟨a,ha,hrow⟩
    obtain ⟨b,hb,rfl⟩ := List.mem_map.mp hrow
    exact ⟨ha,List.mem_filter.mp hb⟩
  · rintro ⟨ha,hb⟩
    exact ⟨row.1,ha,List.mem_map.mpr ⟨row.2,List.mem_filter.mpr hb,rfl⟩⟩

/-- The first of the listed rows has the greatest value. -/
theorem Descending.head {γ : Type*} [Preorder γ] {column : α → γ} {rows listed : List α}
    (h : Descending column rows listed) {row : α} (hrow : listed.head? = some row) :
    row ∈ rows ∧ ∀ other ∈ rows, column other ≤ column row := by
  obtain ⟨rest,rfl⟩ := List.head?_eq_some_iff.mp hrow
  refine ⟨h.perm.mem_iff.mp List.mem_cons_self,fun other hother => ?_⟩
  rcases List.mem_cons.mp (h.perm.mem_iff.mpr hother) with rfl | hrest
  · exact le_rfl
  · exact List.rel_of_pairwise_cons h.sorted hrest

/-- No row is listed first if there is none. -/
theorem Descending.head_none {γ : Type*} [LE γ] {column : α → γ} {rows listed : List α}
    (h : Descending column rows listed) (hnone : listed.head? = none) : rows = [] := by
  rw [List.head?_eq_none_iff] at hnone
  subst hnone
  exact h.perm.nil_eq.symm

/-- A left join with at most one match for each row adds a column. -/
theorem leftJoin_eq_map {on : α → β → Bool} {as : List α} {bs : List β}
    (h : ∀ a ∈ as, (bs.filter (on a)).length ≤ 1) :
    leftJoin on as bs = as.map fun a => (a,bs.find? (on a)) := by
  rw [leftJoin,List.map_eq_flatMap]
  refine List.flatMap_congr fun a ha => ?_
  have hle := h a ha
  rw [←List.head?_filter]
  match hmatching : bs.filter (on a) with
  | [] => rfl
  | [b] => rfl
  | b::c::rest =>
    rw [hmatching] at hle
    simp at hle

/-- One entry for each member that fits. -/
theorem flatMap_ite (fits : κ → Bool) (labels : List κ) (row : α) :
    (labels.flatMap fun label => if fits label then [row] else []) =
      List.replicate (labels.filter fits).length row := by
  induction labels with
  | nil => rfl
  | cons label labels ih =>
    rw [List.flatMap_cons,ih,List.filter_cons]
    split
    · rw [List.length_cons,List.replicate_succ,List.singleton_append]
    · rw [List.nil_append]

/-- Rows that are told apart by labels, each of which fits one label only. -/
theorem flatMap_filter_perm {fits : κ → α → Bool} {labels : List κ} {rows : List α}
    (h : ∀ row ∈ rows, (labels.filter fun label => fits label row).length = 1) :
    (labels.flatMap fun label => rows.filter (fits label)).Perm rows := by
  induction rows with
  | nil => simp
  | cons row rows ih =>
    have hrest := ih fun other hother => h other (List.mem_cons_of_mem _ hother)
    have hsplit : (labels.flatMap fun label => (row::rows).filter (fits label)) =
        labels.flatMap fun label =>
          (if fits label row then [row] else []) ++ rows.filter (fits label) := by
      refine List.flatMap_congr fun label _ => ?_
      rw [List.filter_cons]
      split <;> rfl
    have hrow : (labels.flatMap fun label => if fits label row then [row] else []) = [row] := by
      rw [flatMap_ite,h row List.mem_cons_self,List.replicate_one]
    rw [hsplit]
    refine (List.flatMap_append_perm labels _ _).symm.trans ?_
    rw [hrow]
    exact hrest.cons row

/-- A join with a table whose rows each match one row drops and doubles none of them, and a
condition on them chooses them as in the table. -/
theorem map_snd_filter_innerJoin_perm {on : α → β → Bool} {as : List α} {bs : List β}
    (h : ∀ b ∈ bs, (as.filter fun a => on a b).length = 1) (p : β → Bool) :
    (((innerJoin on as bs).filter fun row => p row.2).map Prod.snd).Perm (bs.filter p) := by
  have hmap : (innerJoin on as bs).map Prod.snd = as.flatMap fun a => bs.filter (on a) := by
    rw [innerJoin,List.map_flatMap]
    refine List.flatMap_congr fun a _ => ?_
    rw [List.map_map]
    exact List.map_id _
  have hperm : ((innerJoin on as bs).map Prod.snd).Perm bs := hmap ▸ flatMap_filter_perm h
  have hfilter := hperm.filter p
  rwa [List.filter_map] at hfilter

/-- Conditions on either side may be checked before a join. -/
theorem filter_innerJoin (on : α → β → Bool) (p : α → Bool) (q : β → Bool) (as : List α)
    (bs : List β) : ((innerJoin on as bs).filter fun row => p row.1 && q row.2) =
      innerJoin on (as.filter p) (bs.filter q) := by
  induction as with
  | nil => rfl
  | cons a as ih =>
    have hrow : (((bs.filter (on a)).map fun b => (a,b)).filter fun row => p row.1 && q row.2) =
        if p a then ((bs.filter q).filter (on a)).map fun b => (a,b) else [] := by
      rw [List.filter_map,List.filter_filter]
      by_cases hp : p a
      · simp [hp,List.filter_filter,Bool.and_comm]
      · simp [hp]
    rw [innerJoin,List.flatMap_cons,List.filter_append,hrow,List.filter_cons]
    by_cases hp : p a
    · rw [if_pos hp,if_pos hp,innerJoin,List.flatMap_cons]
      exact congrArg _ ih
    · rw [if_neg hp,if_neg hp,List.nil_append]
      exact ih

/-- The same where each row on the left matches one row. -/
theorem map_fst_filter_innerJoin {on : α → β → Bool} {as : List α} {bs : List β}
    (h : ∀ a ∈ as, (bs.filter (on a)).length = 1) (p : α → Bool) :
    ((innerJoin on as bs).filter fun row => p row.1).map Prod.fst = as.filter p := by
  have hmap : (innerJoin on as bs).map Prod.fst = as := by
    induction as with
    | nil => rfl
    | cons a as ih =>
      obtain ⟨b,hb⟩ := List.length_eq_one_iff.mp (h a List.mem_cons_self)
      have hrest := ih fun other hother => h other (List.mem_cons_of_mem _ hother)
      rw [innerJoin] at hrest ⊢
      rw [List.flatMap_cons,hb,List.map_append,hrest]
      rfl
  have hfilter := congrArg (List.filter p) hmap
  rwa [List.filter_map] at hfilter

section
variable [DecidableEq κ] {key : α → κ} {rows : List α}

theorem mem_groupBy {group : κ × List α} :
    group ∈ groupBy key rows ↔
      group.1 ∈ rows.map key ∧ group.2 = rows.filter fun row => key row = group.1 := by
  rw [groupBy,List.mem_map]
  constructor
  · rintro ⟨k,hk,rfl⟩
    exact ⟨List.mem_dedup.mp hk,rfl⟩
  · rintro ⟨hk,hgroup⟩
    exact ⟨group.1,List.mem_dedup.mpr hk,Prod.ext rfl hgroup.symm⟩

/-- Two rows are in one group if their keys are one. -/
theorem exists_group_iff {a b : α} (ha : a ∈ rows) (hb : b ∈ rows) :
    (∃ group ∈ groupBy key rows, a ∈ group.2 ∧ b ∈ group.2) ↔ key a = key b := by
  constructor
  · rintro ⟨group,hgroup,ha,hb⟩
    rw [(mem_groupBy.mp hgroup).2] at ha hb
    have hkey : key a = group.1 := of_decide_eq_true (List.mem_filter.mp ha).2
    exact hkey.trans (of_decide_eq_true (List.mem_filter.mp hb).2).symm
  · intro hkey
    refine ⟨(key a,rows.filter fun row => key row = key a),?_,?_,?_⟩
    · exact mem_groupBy.mpr ⟨List.mem_map_of_mem ha,rfl⟩
    · exact List.mem_filter.mpr ⟨ha,decide_eq_true rfl⟩
    · exact List.mem_filter.mpr ⟨hb,decide_eq_true hkey.symm⟩

/-- There is one group for a key. -/
theorem nodup_keys_groupBy : ((groupBy key rows).map Prod.fst).Nodup := by
  rw [groupBy,List.map_map]
  exact (List.map_id _).symm ▸ List.nodup_dedup _

/-- The groups of some of the keys have the rows with these keys. -/
theorem flatten_groupBy_filter (p : κ → Bool) :
    (((groupBy key rows).filter fun group => p group.1).map Prod.snd).flatten.Perm
      (rows.filter fun row => p (key row)) := by
  have hgroups : (((groupBy key rows).filter fun group => p group.1).map Prod.snd).flatten =
      ((rows.map key).dedup.filter p).flatMap fun k =>
        (rows.filter fun row => p (key row)).filter fun row => key row = k := by
    rw [groupBy,List.filter_map,List.map_map,←List.flatMap_def]
    refine List.flatMap_congr fun k hk => ?_
    have hp : p k := (List.mem_filter.mp hk).2
    rw [List.filter_filter]
    refine List.filter_congr fun row _ => ?_
    by_cases hkey : key row = k
    · simp [hkey,hp]
    · simp [hkey]
  rw [hgroups]
  refine flatMap_filter_perm fun row hrow => ?_
  obtain ⟨hmem,hp⟩ := List.mem_filter.mp hrow
  have hdedup : key row ∈ (rows.map key).dedup.filter p :=
    List.mem_filter.mpr ⟨List.mem_dedup.mpr (List.mem_map_of_mem hmem),hp⟩
  have hcount := List.count_eq_one_of_mem ((List.nodup_dedup (rows.map key)).filter p) hdedup
  rw [List.count_eq_length_filter] at hcount
  rw [←hcount]
  refine congrArg List.length (List.filter_congr fun k _ => ?_)
  rw [beq_eq_decide]
  exact decide_eq_decide.mpr eq_comm

/-- Together the groups have all of the rows. -/
theorem flatten_groupBy : ((groupBy key rows).map Prod.snd).flatten.Perm rows := by
  simpa using @flatten_groupBy_filter _ _ _ key rows fun _ => true

/-- The sums over the groups of some of the keys add up to the sum over their rows. -/
theorem sum_groupBy_filter {M : Type*} [AddCommMonoid M] (p : κ → Bool) (f : α → M) :
    (((groupBy key rows).filter fun group => p group.1).map fun group =>
      (group.2.map f).sum).sum = ((rows.filter fun row => p (key row)).map f).sum := by
  rw [←((flatten_groupBy_filter p).map f).sum_eq,List.map_flatten,List.sum_flatten,List.map_map,
    List.map_map]
  rfl

/-- Joined rows whose second columns are the rows of a table: the sums over their groups add up to
the sum over these rows. -/
theorem sum_groupBy_join {M : Type*} [AddCommMonoid M] {key : α × β → κ} {rows : List (α × β)}
    {members : List β} (hperm : (rows.map Prod.snd).Perm members) (p : κ → Bool) {q : β → Bool}
    (hp : ∀ row ∈ rows, p (key row) = q row.2) (f : β → M) :
    (((groupBy key rows).filter fun group => p group.1).map fun group =>
      (group.2.map fun row => f row.2).sum).sum = ((members.filter q).map f).sum := by
  rw [sum_groupBy_filter p fun row : α × β => f row.2,List.filter_congr hp]
  have hfilter := (hperm.filter q).map f
  rw [List.filter_map,List.map_map] at hfilter
  exact hfilter.sum_eq

end
end NamadaIndexer.Foundation
