import Mathlib.Data.List.Nodup
import Mathlib.Data.List.Perm.Basic
import Mathlib.Algebra.BigOperators.Group.List.Basic

/-! Database tables with a unique key, and the statements that write to them. A table
carries the proof that its keys are distinct; a statement that would break the key, or
touch one row twice, fails as a whole. -/
namespace NamadaIndexer.Foundation

/-- A set of rows with pairwise distinct keys, in some order. -/
structure Table {ρ κ : Type*} (key : ρ → κ) where
  rows : List ρ
  unique : (rows.map key).Nodup

namespace Table
variable {ρ κ : Type*} {key : ρ → κ}

@[ext] theorem ext_rows {t u : Table key} (h : t.rows = u.rows) : t = u := by
  cases t; cases u; cases h; rfl

def empty : Table key := ⟨[],by simp⟩

@[simp] theorem empty_rows : (empty : Table key).rows = [] := rfl

def keys (t : Table key) : List κ := t.rows.map key

@[simp] theorem empty_keys : (empty : Table key).keys = [] := rfl

theorem mem_keys {t : Table key} {k : κ} : k ∈ t.keys ↔ ∃ r ∈ t.rows, key r = k := by
  simp [keys]

theorem key_mem_keys {t : Table key} {r : ρ} (hr : r ∈ t.rows) : key r ∈ t.keys :=
  mem_keys.mpr ⟨r,hr,rfl⟩

/-- A key determines its row. -/
theorem eq_of_key_eq {t : Table key} {r s : ρ} (hr : r ∈ t.rows) (hs : s ∈ t.rows)
    (h : key r = key s) : r = s :=
  List.inj_on_of_nodup_map t.unique hr hs h

/-- An update that keeps every key and leaves the same set of rows behind changed no row. -/
theorem map_eq_self_of_perm {t : Table key} {f : ρ → ρ} (hf : ∀ r ∈ t.rows, key (f r) = key r)
    (hp : (t.rows.map f).Perm t.rows) {r : ρ} (hr : r ∈ t.rows) : f r = r :=
  eq_of_key_eq (hp.mem_iff.mp (List.mem_map_of_mem hr)) hr (hf r hr)

/-- `UPDATE`: rewrite rows without touching their keys. -/
def mapRows (t : Table key) (f : ρ → ρ) (hf : ∀ r, key (f r) = key r) : Table key :=
  ⟨t.rows.map f,by simpa [Function.comp_def,hf] using t.unique⟩

@[simp] theorem mapRows_rows (t : Table key) (f : ρ → ρ) (hf : ∀ r, key (f r) = key r) :
    (t.mapRows f hf).rows = t.rows.map f := rfl

@[simp] theorem mapRows_keys (t : Table key) (f : ρ → ρ) (hf : ∀ r, key (f r) = key r) :
    (t.mapRows f hf).keys = t.keys := by
  simp [keys,Function.comp_def,hf]

theorem foldl_mapRows_rows {α : Type*} (f : α → ρ → ρ) (hf : ∀ a r, key (f a r) = key r)
    (l : List α) (t : Table key) :
    (l.foldl (fun t a => t.mapRows (f a) (hf a)) t).rows =
      t.rows.map fun r => l.foldl (fun r a => f a r) r := by
  induction l generalizing t with
  | nil => simp
  | cons a l ih => rw [List.foldl_cons,ih,mapRows_rows,List.map_map]; rfl

theorem foldl_mapRows_keys {α : Type*} (f : α → ρ → ρ) (hf : ∀ a r, key (f a r) = key r)
    (l : List α) (t : Table key) :
    (l.foldl (fun t a => t.mapRows (f a) (hf a)) t).keys = t.keys := by
  induction l generalizing t with
  | nil => rfl
  | cons a l ih => rw [List.foldl_cons,ih,mapRows_keys]

section
variable [DecidableEq κ]

def find? (t : Table key) (k : κ) : Option ρ := t.rows.find? fun r => key r = k

/-- In a list with distinct keys, looking a key up finds its one row. -/
theorem find?_key_eq_some {rs : List ρ} (h : (rs.map key).Nodup) {k : κ} {r : ρ} :
    rs.find? (fun r => key r = k) = some r ↔ r ∈ rs ∧ key r = k := by
  constructor
  · intro h
    exact ⟨List.mem_of_find?_eq_some h,by simpa using List.find?_some h⟩
  · rintro ⟨hr,rfl⟩
    cases hf : rs.find? fun s => key s = key r with
    | none =>
      have := List.find?_eq_none.mp hf r hr
      simp at this
    | some s =>
      have hs : s ∈ rs := List.mem_of_find?_eq_some hf
      have hk : key s = key r := by simpa using List.find?_some hf
      rw [List.inj_on_of_nodup_map h hs hr hk]

/-- A key has at most one row. -/
theorem length_filter_key_le {rs : List ρ} (h : (rs.map key).Nodup) (k : κ) :
    (rs.filter fun r => key r = k).length ≤ 1 := by
  have hnodup : ((rs.filter fun r => key r = k).map key).Nodup :=
    (List.filter_sublist.map key).nodup h
  have hconst : (rs.filter fun r => key r = k).map key =
      List.replicate (rs.filter fun r => key r = k).length k := by
    rw [←List.map_const']
    exact List.map_congr_left fun r hr => of_decide_eq_true (List.mem_filter.mp hr).2
  rw [hconst] at hnodup
  exact List.nodup_replicate.mp hnodup

/-- A key of the table has one row. -/
theorem length_filter_key {t : Table key} {k : κ} (h : k ∈ t.keys) :
    (t.rows.filter fun r => key r = k).length = 1 := by
  obtain ⟨r,hr,hk⟩ := mem_keys.mp h
  have hmem : r ∈ t.rows.filter fun r => key r = k :=
    List.mem_filter.mpr ⟨hr,decide_eq_true hk⟩
  exact Nat.le_antisymm (length_filter_key_le t.unique k) (List.length_pos_of_mem hmem)

/-- What the rows of one key sum up to is the value of its one row. -/
theorem sum_of_key {M : Type*} [AddCommMonoid M] {rs : List ρ} (h : (rs.map key).Nodup) (f : ρ → M)
    {r : ρ} (hr : r ∈ rs) : (rs.map fun s => if key s = key r then f s else 0).sum = f r := by
  induction rs with
  | nil => contradiction
  | cons s rs ih =>
    have hnodup := List.nodup_cons.mp h
    rw [List.map_cons,List.sum_cons]
    rcases List.mem_cons.mp hr with rfl | hr
    · have hrest : (rs.map fun s => if key s = key r then f s else 0).sum = 0 := by
        apply List.sum_eq_zero
        intro x hx
        obtain ⟨s,hs,rfl⟩ := List.mem_map.mp hx
        exact if_neg fun hkey => hnodup.1 (List.mem_map.mpr ⟨s,hs,hkey⟩)
      rw [hrest,if_pos rfl,add_zero]
    · have hne : key s ≠ key r := fun hkey => hnodup.1 (List.mem_map.mpr ⟨r,hr,hkey.symm⟩)
      rw [if_neg hne,zero_add,ih hnodup.2 hr]

theorem find?_eq_some {t : Table key} {k : κ} {r : ρ} :
    t.find? k = some r ↔ r ∈ t.rows ∧ key r = k :=
  find?_key_eq_some t.unique

theorem find?_eq_none {t : Table key} {k : κ} : t.find? k = none ↔ k ∉ t.keys := by
  simp [find?,mem_keys]

theorem find?_of_mem {t : Table key} {r : ρ} (hr : r ∈ t.rows) : t.find? (key r) = some r :=
  find?_eq_some.mpr ⟨hr,rfl⟩

/-- Plain `INSERT`: any key that is taken, or given twice, fails the statement. -/
def insert (t : Table key) (rs : List ρ) : Option (Table key) :=
  if h : ((t.rows ++ rs).map key).Nodup then some ⟨t.rows ++ rs,h⟩ else none

@[simp] theorem insert_nil (t : Table key) : t.insert [] = some t := by
  have h : ((t.rows ++ []).map key).Nodup := by simpa using t.unique
  rw [insert,dif_pos h]
  congr 1
  exact ext_rows (by simp)

theorem insert_eq_some {t u : Table key} {rs : List ρ} (h : t.insert rs = some u) :
    u.rows = t.rows ++ rs := by
  unfold insert at h
  split at h
  · cases h; rfl
  · contradiction

theorem insert_eq_none {t : Table key} {r : ρ} {rs : List ρ} (hr : r ∈ rs)
    (hk : key r ∈ t.keys) : t.insert rs = none := by
  apply dif_neg
  rw [List.map_append,List.nodup_append]
  rintro ⟨-,-,hd⟩
  exact hd (key r) hk (key r) (List.mem_map_of_mem hr) rfl

/-- The rows of a statement that survive `ON CONFLICT DO NOTHING`: the first of each key
that is not known yet. -/
def fresh (key : ρ → κ) : List κ → List ρ → List ρ
  | _,[] => []
  | known,r::rs =>
    if key r ∈ known then fresh key known rs else r :: fresh key (key r :: known) rs

theorem fresh_key_not_mem {known : List κ} {rs : List ρ} {r : ρ} (hr : r ∈ fresh key known rs) :
    key r ∉ known := by
  induction rs generalizing known with
  | nil => simp [fresh] at hr
  | cons s rs ih =>
    unfold fresh at hr
    split at hr
    · exact ih hr
    · rename_i hs
      rcases List.mem_cons.mp hr with rfl | hr
      · exact hs
      · exact fun hk => ih hr (List.mem_cons_of_mem _ hk)

theorem fresh_nodup (known : List κ) (rs : List ρ) : ((fresh key known rs).map key).Nodup := by
  induction rs generalizing known with
  | nil => simp [fresh]
  | cons r rs ih =>
    unfold fresh
    split
    · exact ih known
    · rw [List.map_cons,List.nodup_cons]
      refine ⟨?_,ih _⟩
      intro hmem
      obtain ⟨s,hs,hk⟩ := List.mem_map.mp hmem
      exact fresh_key_not_mem hs (hk ▸ List.mem_cons_self)

theorem mem_keys_fresh (known : List κ) (rs : List ρ) (k : κ) :
    k ∈ known ∨ k ∈ (fresh key known rs).map key ↔ k ∈ known ∨ k ∈ rs.map key := by
  induction rs generalizing known with
  | nil => simp [fresh]
  | cons r rs ih =>
    unfold fresh
    split
    · rename_i hr
      rw [ih known,List.map_cons,List.mem_cons]
      constructor
      · rintro (h | h)
        · exact .inl h
        · exact .inr (.inr h)
      · rintro (h | rfl | h)
        · exact .inl h
        · exact .inl hr
        · exact .inr h
    · have h := ih (key r :: known)
      simp only [List.mem_cons,List.map_cons] at h ⊢
      tauto

theorem mem_of_mem_fresh {known : List κ} {rs : List ρ} {r : ρ} (hr : r ∈ fresh key known rs) :
    r ∈ rs := by
  induction rs generalizing known with
  | nil => exact hr
  | cons s rs ih =>
    unfold fresh at hr
    split at hr
    · exact List.mem_cons_of_mem _ (ih hr)
    · rcases List.mem_cons.mp hr with rfl | hr
      · exact List.mem_cons_self
      · exact List.mem_cons_of_mem _ (ih hr)

theorem fresh_eq_nil {known : List κ} {rs : List ρ} (h : ∀ r ∈ rs, key r ∈ known) :
    fresh key known rs = [] := by
  induction rs with
  | nil => rfl
  | cons r rs ih =>
    rw [fresh,if_pos (h r List.mem_cons_self)]
    exact ih fun s hs => h s (List.mem_cons_of_mem _ hs)

theorem fresh_congr {known known' : List κ} (h : ∀ k, k ∈ known ↔ k ∈ known') (rs : List ρ) :
    fresh key known rs = fresh key known' rs := by
  induction rs generalizing known known' with
  | nil => rfl
  | cons r rs ih =>
    have hcons : ∀ k, k ∈ key r :: known ↔ k ∈ key r :: known' := by
      intro k
      rw [List.mem_cons,List.mem_cons,h k]
    rw [fresh,fresh,ih h,ih hcons]
    by_cases hr : key r ∈ known
    · rw [if_pos hr,if_pos ((h _).mp hr)]
    · rw [if_neg hr,if_neg (mt (h _).mpr hr)]

theorem fresh_append (known : List κ) (rs ss : List ρ) :
    fresh key known (rs ++ ss) = fresh key known rs ++ fresh key (known ++ rs.map key) ss := by
  induction rs generalizing known with
  | nil => simp [fresh]
  | cons r rs ih =>
    rw [List.cons_append,fresh,fresh]
    split
    · rename_i hr
      rw [ih]
      congr 1
      apply fresh_congr
      intro k
      rw [List.map_cons,List.mem_append,List.mem_append,List.mem_cons]
      constructor
      · exact fun h => h.imp id Or.inr
      · rintro (h | rfl | h)
        · exact .inl h
        · exact .inl hr
        · exact .inr h
    · rw [ih,List.cons_append]
      congr 2
      apply fresh_congr
      intro k
      simp only [List.map_cons,List.mem_cons,List.mem_append]
      tauto

/-- `INSERT ... ON CONFLICT DO NOTHING`. -/
def insertOrIgnore (t : Table key) (rs : List ρ) : Table key where
  rows := t.rows ++ fresh key t.keys rs
  unique := by
    rw [List.map_append,List.nodup_append]
    refine ⟨t.unique,fresh_nodup _ _,?_⟩
    rintro k hk _ hk' rfl
    obtain ⟨r,hr,rfl⟩ := List.mem_map.mp hk'
    exact fresh_key_not_mem hr hk

@[simp] theorem insertOrIgnore_rows (t : Table key) (rs : List ρ) :
    (t.insertOrIgnore rs).rows = t.rows ++ fresh key t.keys rs := rfl

theorem mem_keys_insertOrIgnore {t : Table key} {rs : List ρ} {k : κ} :
    k ∈ (t.insertOrIgnore rs).keys ↔ k ∈ t.keys ∨ k ∈ rs.map key := by
  rw [←mem_keys_fresh,keys,insertOrIgnore_rows,List.map_append,List.mem_append,keys]

/-- Several statements insert what one statement with all their rows inserts. -/
theorem insertOrIgnore_append (t : Table key) (rs ss : List ρ) :
    t.insertOrIgnore (rs ++ ss) = (t.insertOrIgnore rs).insertOrIgnore ss := by
  apply ext_rows
  rw [insertOrIgnore_rows,insertOrIgnore_rows,insertOrIgnore_rows,fresh_append,List.append_assoc]
  congr 2
  apply fresh_congr
  intro k
  rw [mem_keys_insertOrIgnore,List.mem_append]

@[simp] theorem insertOrIgnore_nil (t : Table key) : t.insertOrIgnore [] = t :=
  ext_rows (by rw [insertOrIgnore_rows,fresh,List.append_nil])

/-- Rows whose keys are all taken leave the table alone. -/
theorem insertOrIgnore_eq_self {t : Table key} {rs : List ρ} (h : ∀ r ∈ rs, key r ∈ t.keys) :
    t.insertOrIgnore rs = t :=
  ext_rows (by rw [insertOrIgnore_rows,fresh_eq_nil h,List.append_nil])

end

/-- The `SET` clause of `ON CONFLICT DO UPDATE`: the stored row, the excluded row, and
the row that replaces them unless a column rejects its value. The key is not assigned. -/
structure Merge (key : ρ → κ) where
  run : ρ → ρ → Option ρ
  key_run : ∀ {old new row}, run old new = some row → key row = key old

section
variable [DecidableEq κ]

/-- Put a row in the place of the row with its key. -/
def replace (t : Table key) (row : ρ) : Table key :=
  ⟨t.rows.map fun r => if key r = key row then row else r,by
    have h : (key ∘ fun r => if key r = key row then row else r) = key := by
      funext r
      by_cases hr : key r = key row <;> simp [hr]
    rw [List.map_map,h]
    exact t.unique⟩

@[simp] theorem replace_rows (t : Table key) (row : ρ) :
    (t.replace row).rows = t.rows.map fun r => if key r = key row then row else r := rfl

@[simp] theorem replace_keys (t : Table key) (row : ρ) : (t.replace row).keys = t.keys := by
  have h : (key ∘ fun r => if key r = key row then row else r) = key := by
    funext r
    by_cases hr : key r = key row <;> simp [hr]
  rw [keys,replace_rows,List.map_map,h,keys]

/-- One row of `INSERT ... ON CONFLICT DO UPDATE`. -/
def put (m : Merge key) (t : Table key) (new : ρ) : Option (Table key) :=
  match t.find? (key new) with
  | some old => (m.run old new).map t.replace
  | none => t.insert [new]

/-- `INSERT ... ON CONFLICT DO UPDATE`: a key given twice would touch one row twice,
which fails the statement. -/
def upsert (m : Merge key) (t : Table key) (rs : List ρ) : Option (Table key) :=
  if (rs.map key).Nodup then rs.foldlM (put m) t else none

variable {m : Merge key} {t u : Table key} {new : ρ}

/-- What putting one row does: it merges with the row of its key or is appended. -/
theorem put_cases (h : put m t new = some u) :
    (∃ old row, t.find? (key new) = some old ∧ m.run old new = some row ∧ u = t.replace row) ∨
    (key new ∉ t.keys ∧ u.rows = t.rows ++ [new]) := by
  unfold put at h
  split at h
  · rename_i old hold
    obtain ⟨row,hrow,rfl⟩ := Option.map_eq_some_iff.mp h
    exact .inl ⟨old,row,hold,hrow,rfl⟩
  · rename_i hnone
    exact .inr ⟨find?_eq_none.mp hnone,insert_eq_some h⟩

theorem mem_keys_put (h : put m t new = some u) {k : κ} :
    k ∈ u.keys ↔ k ∈ t.keys ∨ k = key new := by
  obtain ⟨old,row,hold,hrow,rfl⟩ | ⟨-,hu⟩ := put_cases h
  · rw [replace_keys]
    obtain ⟨hmem,hkey⟩ := find?_eq_some.mp hold
    constructor
    · exact .inl
    · rintro (h | rfl)
      · exact h
      · exact hkey ▸ key_mem_keys hmem
  · simp [keys,hu]

/-- Every other row is untouched, and the row of the key is the merged one. -/
theorem find?_put (h : put m t new = some u) (k : κ) :
    u.find? k =
      if k = key new then
        match t.find? k with
        | some old => m.run old new
        | none => some new
      else t.find? k := by
  obtain ⟨old,row,hold,hrow,rfl⟩ | ⟨hk,hu⟩ := put_cases h
  · have hkey := m.key_run hrow
    obtain ⟨hmem,hknew⟩ := find?_eq_some.mp hold
    by_cases hkn : k = key new
    · subst hkn
      rw [if_pos rfl,hold]
      simp only [hrow]
      refine find?_eq_some.mpr ⟨?_,hkey.trans hknew⟩
      exact List.mem_map.mpr ⟨old,hmem,by simp [hkey]⟩
    · rw [if_neg hkn]
      cases hf : t.find? k with
      | none => exact find?_eq_none.mpr (by rw [replace_keys]; exact find?_eq_none.mp hf)
      | some r =>
        obtain ⟨hr,rfl⟩ := find?_eq_some.mp hf
        refine find?_eq_some.mpr ⟨List.mem_map.mpr ⟨r,hr,?_⟩,rfl⟩
        rw [if_neg (by rw [hkey,hknew]; exact hkn)]
  · by_cases hkn : k = key new
    · subst hkn
      rw [if_pos rfl,find?_eq_none.mpr hk]
      exact find?_eq_some.mpr ⟨by simp [hu],rfl⟩
    · rw [if_neg hkn]
      have hsingle : ([new].find? fun r => decide (key r = k)) = none := by
        simp [Ne.symm hkn]
      rw [find?,hu,List.find?_append,hsingle,Option.or_none,find?]

/-- An additive column sums up: the merged rows count the old and the new value. -/
theorem sum_put {M : Type*} [AddCommMonoid M] {f : ρ → M}
    (hf : ∀ {old new row}, key old = key new → m.run old new = some row → f row = f old + f new)
    (h : put m t new = some u) : (u.rows.map f).sum = (t.rows.map f).sum + f new := by
  obtain ⟨old,row,hold,hrow,rfl⟩ | ⟨-,hu⟩ := put_cases h
  · obtain ⟨hmem,hknew⟩ := find?_eq_some.mp hold
    have hkey := m.key_run hrow
    obtain ⟨before,after,hsplit⟩ := List.append_of_mem hmem
    have hother : ∀ r ∈ before ++ after, key r ≠ key old := by
      have hu := t.unique
      rw [hsplit,List.map_append,List.map_cons] at hu
      have hperm : (key old :: (before.map key ++ after.map key)).Nodup :=
        (List.perm_middle.nodup_iff).mp hu
      intro r hr hkr
      refine (List.nodup_cons.mp hperm).1 ?_
      rw [←List.map_append,←hkr]
      exact List.mem_map_of_mem hr
    have hsame : ∀ l : List ρ, (∀ r ∈ l, r ∈ before ++ after) →
        l.map (fun r => if key r = key row then row else r) = l := by
      intro l hl
      rw [List.map_congr_left (g := id)]
      · simp
      · intro r hr
        rw [if_neg (by rw [hkey]; exact hother r (hl r hr))]; rfl
    rw [replace_rows,hsplit]
    simp only [List.map_append,List.map_cons,hkey,if_true,List.sum_append,List.sum_cons]
    rw [←hkey,hsame before fun r hr => List.mem_append_left _ hr,
      hsame after fun r hr => List.mem_append_right _ hr,hf hknew hrow]
    rw [add_assoc (f old) (f new),add_comm (f new) (after.map f).sum]
    simp only [add_assoc]
  · rw [hu]
    simp

/-- A merge whose columns reject no value. -/
def Merge.Total (m : Merge key) : Prop := ∀ old new, ∃ row, m.run old new = some row

theorem insert_singleton (hk : key new ∉ t.keys) : ∃ u, t.insert [new] = some u := by
  have h : ((t.rows ++ [new]).map key).Nodup := by
    rw [List.map_append,List.nodup_append]
    refine ⟨t.unique,by simp,?_⟩
    rintro k hmem _ hnew rfl
    obtain rfl : key new = k := by simpa [eq_comm] using hnew
    exact hk hmem
  exact ⟨⟨t.rows ++ [new],h⟩,dif_pos h⟩

theorem put_total (hm : m.Total) (t : Table key) (new : ρ) : ∃ u, put m t new = some u := by
  unfold put
  cases hf : t.find? (key new) with
  | some old =>
    obtain ⟨row,hrow⟩ := hm old new
    exact ⟨t.replace row,by simp [hrow]⟩
  | none => exact insert_singleton (find?_eq_none.mp hf)

/-- Putting a row with a merge that cannot fail. -/
def putTotal (m : Merge key) (hm : m.Total) (t : Table key) (new : ρ) : Table key :=
  (put m t new).get (Option.isSome_iff_exists.mpr (put_total hm t new))

theorem put_eq_some_putTotal (hm : m.Total) (t : Table key) (new : ρ) :
    put m t new = some (putTotal m hm t new) := (Option.some_get _).symm

theorem foldlM_put_eq_some_putTotal (hm : m.Total) (rs : List ρ) (t : Table key) :
    rs.foldlM (put m) t = some (rs.foldl (putTotal m hm) t) := by
  induction rs generalizing t with
  | nil => rfl
  | cons r rs ih =>
    rw [List.foldlM_cons,put_eq_some_putTotal hm]
    exact ih _

theorem foldlM_put_total (hm : m.Total) (rs : List ρ) (t : Table key) :
    ∃ u, rs.foldlM (put m) t = some u := by
  induction rs generalizing t with
  | nil => exact ⟨t,rfl⟩
  | cons r rs ih =>
    obtain ⟨v,hv⟩ := put_total hm t r
    obtain ⟨u,hu⟩ := ih v
    exact ⟨u,by simp [hv,hu]⟩

/-- Rows with distinct keys are each put once, and every other row is untouched. -/
theorem find?_foldlM_put {rs : List ρ} (hnodup : (rs.map key).Nodup)
    (h : rs.foldlM (put m) t = some u) (k : κ) :
    u.find? k =
      match rs.find? (fun r => key r = k) with
      | some new => (match t.find? k with
        | some old => m.run old new
        | none => some new)
      | none => t.find? k := by
  induction rs generalizing t with
  | nil => cases h; rfl
  | cons r rs ih =>
    rw [List.map_cons,List.nodup_cons] at hnodup
    obtain ⟨v,hv,hrest⟩ := Option.bind_eq_some_iff.mp (by simpa using h)
    rw [ih hnodup.2 hrest,find?_put hv]
    by_cases hk : key r = k
    · subst hk
      have hnone : rs.find? (fun s => key s = key r) = none := by
        rw [List.find?_eq_none]
        intro s hs hks
        exact hnodup.1 (List.mem_map.mpr ⟨s,hs,by simpa using hks⟩)
      simp only [hnone,if_true,List.find?_cons,decide_true]
    · simp only [List.find?_cons,hk,decide_false,if_neg (Ne.symm hk)]

theorem mem_keys_foldlM_put {rs : List ρ} (h : rs.foldlM (put m) t = some u) {k : κ} :
    k ∈ u.keys ↔ k ∈ t.keys ∨ k ∈ rs.map key := by
  induction rs generalizing t with
  | nil => cases h; simp
  | cons r rs ih =>
    obtain ⟨v,hv,hrest⟩ := Option.bind_eq_some_iff.mp (by simpa using h)
    rw [ih hrest,mem_keys_put hv,List.map_cons,List.mem_cons,or_assoc]

theorem sum_foldlM_put {M : Type*} [AddCommMonoid M] {f : ρ → M}
    (hf : ∀ {old new row}, key old = key new → m.run old new = some row → f row = f old + f new)
    {rs : List ρ} (h : rs.foldlM (put m) t = some u) :
    (u.rows.map f).sum = (t.rows.map f).sum + (rs.map f).sum := by
  induction rs generalizing t with
  | nil => cases h; simp
  | cons r rs ih =>
    obtain ⟨v,hv,hrest⟩ := Option.bind_eq_some_iff.mp (by simpa using h)
    rw [ih hrest,sum_put hf hv,List.map_cons,List.sum_cons,add_assoc]

/-- What every added row has and merging keeps, every row of the table has. -/
theorem forall_rows_foldlM_put {p : ρ → Prop}
    (hrun : ∀ {old new row}, m.run old new = some row → p old → p new → p row)
    {rs : List ρ} (hrs : ∀ r ∈ rs, p r) (ht : ∀ r ∈ t.rows, p r)
    (h : rs.foldlM (put m) t = some u) : ∀ r ∈ u.rows, p r := by
  induction rs generalizing t with
  | nil => cases h; exact ht
  | cons new rs ih =>
    obtain ⟨v,hv,hrest⟩ := Option.bind_eq_some_iff.mp (by simpa using h)
    refine ih (fun r hr => hrs r (List.mem_cons_of_mem _ hr)) ?_ hrest
    have hnew := hrs new List.mem_cons_self
    intro r hr
    obtain ⟨old,row,hfind,hrow,rfl⟩ | ⟨-,hv⟩ := put_cases hv
    · obtain ⟨s,hs,rfl⟩ := List.mem_map.mp hr
      split
      · exact hrun hrow (ht old (find?_eq_some.mp hfind).1) hnew
      · exact ht s hs
    · rw [hv,List.mem_append,List.mem_singleton] at hr
      obtain hr | rfl := hr
      · exact ht r hr
      · exact hnew

/-- A row that merges into itself leaves the table alone. -/
theorem put_eq_self {old : ρ} (hold : old ∈ t.rows) (hkey : key old = key new)
    (hrun : m.run old new = some old) : put m t new = some t := by
  unfold put
  rw [find?_eq_some.mpr ⟨hold,hkey⟩]
  simp only [hrun,Option.map_some]
  congr 1
  have hsame : ∀ r ∈ t.rows, (if key r = key old then old else r) = id r := by
    intro r hr
    split
    · rename_i hr'
      exact eq_of_key_eq hold hr hr'.symm
    · rfl
  apply ext_rows
  rw [replace_rows,List.map_congr_left hsame,List.map_id]

theorem foldlM_put_eq_self {rs : List ρ}
    (h : ∀ new ∈ rs, ∃ old ∈ t.rows, key old = key new ∧ m.run old new = some old) :
    rs.foldlM (put m) t = some t := by
  induction rs with
  | nil => rfl
  | cons new rs ih =>
    obtain ⟨old,hold,hkey,hrun⟩ := h new List.mem_cons_self
    rw [List.foldlM_cons,put_eq_self hold hkey hrun]
    exact ih fun new hnew => h new (List.mem_cons_of_mem _ hnew)

/-- Columns that merging keeps are as they were, if every row is merged. -/
theorem map_rows_put {β : Type*} {g : ρ → β} (hrun : ∀ {old new row}, m.run old new = some row →
    g row = g old) (hknown : key new ∈ t.keys) (h : put m t new = some u) :
    u.rows.map g = t.rows.map g := by
  obtain ⟨old,row,hfind,hrow,rfl⟩ | ⟨hfresh,-⟩ := put_cases h
  · rw [replace_rows,List.map_map]
    apply List.map_congr_left
    intro r hr
    rw [Function.comp_apply]
    split
    · rename_i hr'
      have hsame : r = old := eq_of_key_eq hr (find?_eq_some.mp hfind).1
        (hr'.trans (m.key_run hrow))
      rw [hsame,hrun hrow]
    · rfl
  · contradiction

theorem map_rows_foldlM_put {β : Type*} {g : ρ → β} (hrun : ∀ {old new row},
    m.run old new = some row → g row = g old) {rs : List ρ} (hknown : ∀ r ∈ rs, key r ∈ t.keys)
    (h : rs.foldlM (put m) t = some u) : u.rows.map g = t.rows.map g := by
  induction rs generalizing t with
  | nil => cases h; rfl
  | cons r rs ih =>
    obtain ⟨v,hv,hrest⟩ := Option.bind_eq_some_iff.mp (by simpa using h)
    rw [ih _ hrest,map_rows_put hrun (hknown r List.mem_cons_self) hv]
    intro s hs
    exact (mem_keys_put hv).mpr (.inl (hknown s (List.mem_cons_of_mem _ hs)))

theorem upsert_eq_some {rs : List ρ} :
    upsert m t rs = some u ↔ (rs.map key).Nodup ∧ rs.foldlM (put m) t = some u := by
  unfold upsert
  split <;> simp_all

/-- Statements one after the other: each row is put once, and no statement has a key twice. -/
theorem foldlM_upsert_eq_some {α : Type*} {f : α → ρ} {lists : List (List α)} :
    lists.foldlM (fun t as => upsert m t (as.map f)) t = some u ↔
      (∀ as ∈ lists, (as.map fun a => key (f a)).Nodup) ∧
        (lists.flatten.map f).foldlM (put m) t = some u := by
  induction lists generalizing t with
  | nil => simp
  | cons as lists ih =>
    have hkeys : (as.map f).map key = as.map fun a => key (f a) := List.map_map
    rw [List.foldlM_cons,List.forall_mem_cons,List.flatten_cons,List.map_append,List.foldlM_append]
    constructor
    · intro h
      obtain ⟨v,hv,hrest⟩ := Option.bind_eq_some_iff.mp h
      obtain ⟨hnodup,hput⟩ := upsert_eq_some.mp hv
      obtain ⟨hlists,hputs⟩ := ih.mp hrest
      exact ⟨⟨hkeys ▸ hnodup,hlists⟩,Option.bind_eq_some_iff.mpr ⟨v,hput,hputs⟩⟩
    · rintro ⟨⟨hnodup,hlists⟩,h⟩
      obtain ⟨v,hput,hputs⟩ := Option.bind_eq_some_iff.mp h
      exact Option.bind_eq_some_iff.mpr
        ⟨v,upsert_eq_some.mpr ⟨hkeys ▸ hnodup,hput⟩,ih.mpr ⟨hlists,hputs⟩⟩

theorem mem_keys_upsert {rs : List ρ} (h : upsert m t rs = some u) {k : κ} :
    k ∈ u.keys ↔ k ∈ t.keys ∨ k ∈ rs.map key :=
  mem_keys_foldlM_put (upsert_eq_some.mp h).2

theorem sum_upsert {M : Type*} [AddCommMonoid M] {f : ρ → M}
    (hf : ∀ {old new row}, key old = key new → m.run old new = some row → f row = f old + f new)
    {rs : List ρ} (h : upsert m t rs = some u) :
    (u.rows.map f).sum = (t.rows.map f).sum + (rs.map f).sum :=
  sum_foldlM_put hf (upsert_eq_some.mp h).2

/-- Rows outside a selection can be rewritten and added without changing what it selects. -/
theorem filter_rows_put {p : ρ → Bool} (h : put m t new = some u) (hnew : p new = false)
    (hold : ∀ r ∈ t.rows, key r = key new → p r = false)
    (hrun : ∀ {old new row}, m.run old new = some row → p new = false → p row = false) :
    u.rows.filter p = t.rows.filter p := by
  obtain ⟨old,row,hfind,hrow,rfl⟩ | ⟨-,hu⟩ := put_cases h
  · have hkey : key row = key new := (m.key_run hrow).trans (find?_eq_some.mp hfind).2
    have hmiss : ∀ l : List ρ, (∀ r ∈ l, r ∈ t.rows) →
        (l.map fun r => if key r = key row then row else r).filter p = l.filter p := by
      intro l hl
      induction l with
      | nil => rfl
      | cons r l ih =>
        have hrest := ih fun r hr => hl r (List.mem_cons_of_mem _ hr)
        rw [List.map_cons,List.filter_cons,List.filter_cons,hrest]
        by_cases hr : key r = key row
        · have hpr : p r = false := hold r (hl r List.mem_cons_self) (hr.trans hkey)
          simp only [if_pos hr,hpr,hrun hrow hnew,Bool.false_eq_true,if_false]
        · rw [if_neg hr]
    exact hmiss t.rows fun r hr => hr
  · rw [hu,List.filter_append]
    simp [hnew]

theorem filter_rows_foldlM_put {p : ρ → Bool} {rs : List ρ} (h : rs.foldlM (put m) t = some u)
    (hnew : ∀ new ∈ rs, p new = false)
    (hold : ∀ new ∈ rs, ∀ r ∈ t.rows, key r = key new → p r = false)
    (hrun : ∀ {old new row}, m.run old new = some row → p new = false → p row = false) :
    u.rows.filter p = t.rows.filter p := by
  induction rs generalizing t with
  | nil => cases h; rfl
  | cons r rs ih =>
    obtain ⟨v,hv,hrest⟩ := Option.bind_eq_some_iff.mp (by simpa using h)
    have hfirst : v.rows.filter p = t.rows.filter p :=
      filter_rows_put hv (hnew r List.mem_cons_self) (hold r List.mem_cons_self) hrun
    rw [ih hrest (fun new hmem => hnew new (List.mem_cons_of_mem _ hmem)) ?_,hfirst]
    intro new hmem s hs hkey
    -- a selected row of the new table was already selected in the old one
    by_contra hp
    have hsel : s ∈ t.rows.filter p := by
      rw [←hfirst]
      exact List.mem_filter.mpr ⟨hs,by simpa using hp⟩
    exact hp (hold new (List.mem_cons_of_mem _ hmem) s (List.mem_filter.mp hsel).1 hkey)

/-- A relation that merging respects relates every old row to a row of the new table. -/
theorem exists_related_foldlM_put {R : ρ → ρ → Prop} (hrefl : ∀ r, R r r)
    (htrans : ∀ {a b c}, R a b → R b c → R a c) {rs : List ρ}
    (hrun : ∀ new ∈ rs, ∀ {old row}, m.run old new = some row → R old row)
    (h : rs.foldlM (put m) t = some u) {r : ρ} (hr : r ∈ t.rows) : ∃ r' ∈ u.rows, R r r' := by
  induction rs generalizing t r with
  | nil => cases h; exact ⟨r,hr,hrefl r⟩
  | cons new rs ih =>
    obtain ⟨v,hv,hrest⟩ := Option.bind_eq_some_iff.mp (by simpa using h)
    have hfirst : ∃ r' ∈ v.rows, R r r' := by
      obtain ⟨old,row,hfind,hrow,rfl⟩ | ⟨-,hu⟩ := put_cases hv
      · by_cases hkey : key r = key row
        · have hold : r = old := eq_of_key_eq hr (find?_eq_some.mp hfind).1
            (hkey.trans (m.key_run hrow))
          exact ⟨row,List.mem_map.mpr ⟨r,hr,if_pos hkey⟩,
            hold ▸ hrun new List.mem_cons_self hrow⟩
        · exact ⟨r,List.mem_map.mpr ⟨r,hr,if_neg hkey⟩,hrefl r⟩
      · exact ⟨r,by rw [hu]; exact List.mem_append_left _ hr,hrefl r⟩
    obtain ⟨r',hr',hrel⟩ := hfirst
    have hrun' : ∀ new ∈ rs, ∀ {old row}, m.run old new = some row → R old row :=
      fun new hmem => hrun new (List.mem_cons_of_mem _ hmem)
    obtain ⟨r'',hr'',hrel'⟩ := ih hrun' hrest hr'
    exact ⟨r'',hr'',htrans hrel hrel'⟩

end
end Table

/-- Updates that override each other: folding them over a value leaves it alone if none
hits, and is the effect of one that hits otherwise. -/
theorem foldl_overriding {α β : Type*} (f : α → β → β) (hit : α → β → Prop)
    (hmiss : ∀ {a b}, ¬ hit a b → f a b = b) (hhit : ∀ {a c b}, hit a (f c b) ↔ hit a b)
    (hover : ∀ {a c b}, hit a b → f a (f c b) = f a b) (l : List α) (b : β) :
    (l.foldl (fun b a => f a b) b = b ∧ ∀ a ∈ l, ¬ hit a b) ∨
      ∃ a ∈ l, hit a b ∧ l.foldl (fun b a => f a b) b = f a b := by
  induction l generalizing b with
  | nil => exact .inl ⟨rfl,by simp⟩
  | cons c l ih =>
    rw [List.foldl_cons]
    rcases ih (f c b) with ⟨hsame,hnone⟩ | ⟨a,ha,hhit',heq⟩
    · have hnone' : ∀ a ∈ l, ¬ hit a b := fun a ha h => hnone a ha (hhit.mpr h)
      by_cases hc : hit c b
      · exact .inr ⟨c,List.mem_cons_self,hc,hsame⟩
      · refine .inl ⟨hsame.trans (hmiss hc),?_⟩
        intro a ha
        rcases List.mem_cons.mp ha with rfl | ha
        · exact hc
        · exact hnone' a ha
    · have hb : hit a b := hhit.mp hhit'
      exact .inr ⟨a,List.mem_cons_of_mem _ ha,hb,heq.trans (hover hb)⟩

end NamadaIndexer.Foundation
