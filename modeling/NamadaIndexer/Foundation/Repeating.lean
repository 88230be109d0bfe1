import Mathlib.Data.List.Induction
import NamadaIndexer.Foundation.KeyedTable

/-! Statements that are executed twice. The second time, an insertion finds its keys taken, an
update finds its values set, and a deletion with an insertion comes to the same rows. -/
namespace NamadaIndexer.Foundation

/-- Updates one after another, of which a later one makes an earlier one of its kind idle: the
second time they change nothing. -/
theorem foldl_again {α β : Type*} (f : α → β → β) (hself : ∀ a b, f a (f a b) = f a b)
    (habsorb : ∀ a c b, f a (f c (f a b)) = f a (f c b)) (l : List α) (b : β) :
    l.foldl (fun b a => f a b) (l.foldl (fun b a => f a b) b) = l.foldl (fun b a => f a b) b := by
  -- an update that is made later need not have been made earlier
  have hlater : ∀ (a : α) (l : List α) (b : β),
      f a (l.foldl (fun b a => f a b) (f a b)) = f a (l.foldl (fun b a => f a b) b) := by
    intro a l
    induction l with
    | nil => exact hself a
    | cons c l ih =>
      intro b
      rw [List.foldl_cons,List.foldl_cons,←ih (f c (f a b)),habsorb,ih]
  have hknown : ∀ (l : List α) (a : α), a ∈ l → ∀ b,
      l.foldl (fun b a => f a b) (f a b) = l.foldl (fun b a => f a b) b := by
    intro l
    induction l using List.reverseRecOn with
    | nil => exact fun a ha => absurd ha List.not_mem_nil
    | append_singleton l c ih =>
      intro a ha b
      rw [List.foldl_append,List.foldl_append,List.foldl_cons,List.foldl_nil,List.foldl_cons,
        List.foldl_nil]
      rcases List.mem_append.mp ha with ha | ha
      · rw [ih a ha]
      · obtain rfl := List.mem_singleton.mp ha
        exact hlater a l b
  have hprefix : ∀ l' : List α, (∀ a ∈ l', a ∈ l) → ∀ b,
      l.foldl (fun b a => f a b) (l'.foldl (fun b a => f a b) b) =
        l.foldl (fun b a => f a b) b := by
    intro l'
    induction l' with
    | nil => exact fun _ _ => rfl
    | cons c l' ih =>
      intro hsub b
      rw [List.foldl_cons,ih fun a ha => hsub a (List.mem_cons_of_mem _ ha),
        hknown l c (hsub c List.mem_cons_self)]
  exact hprefix l (fun _ ha => ha) b

/-- `UPDATE ... WHERE`, one after another, where no update changes what any of them selects. -/
theorem foldl_where_again {α β : Type*} (selects : α → β → Prop) [∀ a b, Decidable (selects a b)]
    (set : α → β → β) (hselects : ∀ a c b, selects a (set c b) ↔ selects a b)
    (hself : ∀ a b, set a (set a b) = set a b)
    (habsorb : ∀ a c b, set a (set c (set a b)) = set a (set c b)) (l : List α) (b : β) :
    l.foldl (fun b a => if selects a b then set a b else b)
        (l.foldl (fun b a => if selects a b then set a b else b) b) =
      l.foldl (fun b a => if selects a b then set a b else b) b := by
  apply foldl_again fun a b => if selects a b then set a b else b
  · intro a b
    by_cases ha : selects a b
    · simp only [ha,hselects,if_true,hself]
    · simp only [ha,if_false]
  · intro a c b
    by_cases ha : selects a b
    · by_cases hc : selects c b
      · simp only [ha,hc,hselects,if_true,habsorb]
      · simp only [ha,hc,hselects,if_true,if_false,hself]
    · by_cases hc : selects c b <;> simp only [ha,hc,hselects,if_true,if_false]

namespace Table
variable {ρ κ : Type*} {key : ρ → κ}

/-- A merge that has nothing left to do where it has been made. -/
structure Merge.Idempotent (m : Merge key) : Prop where
  again : ∀ {old new row}, m.run old new = some row → m.run row new = some row
  self : ∀ row, m.run row row = some row

/-- A merge after which the new row is stored. -/
def Merge.Replaces (m : Merge key) : Prop :=
  ∀ {old new}, key old = key new → m.run old new = some new

section
variable [DecidableEq κ] {m : Merge key} {t u v w u' v' w' : Table key} {rs : List ρ}

theorem insertOrIgnore_again (t : Table key) (rs : List ρ) :
    (t.insertOrIgnore rs).insertOrIgnore rs = t.insertOrIgnore rs :=
  insertOrIgnore_eq_self fun _ hr => mem_keys_insertOrIgnore.mpr (.inr (List.mem_map_of_mem hr))

theorem foldlM_put_again (hm : m.Idempotent) (hnodup : (rs.map key).Nodup)
    (h : rs.foldlM (put m) t = some u) : rs.foldlM (put m) u = some u := by
  apply foldlM_put_eq_self
  intro new hnew
  have hfind := find?_foldlM_put hnodup h (key new)
  rw [(find?_key_eq_some hnodup).mpr ⟨hnew,rfl⟩] at hfind
  obtain ⟨stored,hstored,hkey⟩ := mem_keys.mp
    ((mem_keys_foldlM_put h).mpr (.inr (List.mem_map_of_mem hnew)))
  rw [find?_eq_some.mpr ⟨hstored,hkey⟩] at hfind
  refine ⟨stored,hstored,hkey,?_⟩
  cases hold : t.find? (key new) with
  | some old =>
    rw [hold] at hfind
    exact hm.again hfind.symm
  | none =>
    rw [hold] at hfind
    obtain rfl := Option.some.inj hfind
    exact hm.self _

theorem put_again (hm : m.Idempotent) {new : ρ} (h : put m t new = some u) :
    put m u new = some u := by
  have hone : [new].foldlM (put m) t = some u := by simpa using h
  have hnodup : ([new].map key).Nodup := List.nodup_singleton (key new)
  simpa using foldlM_put_again hm hnodup hone

theorem upsert_again (hm : m.Idempotent) (h : upsert m t rs = some u) :
    upsert m u rs = some u := by
  obtain ⟨hnodup,hput⟩ := upsert_eq_some.mp h
  exact upsert_eq_some.mpr ⟨hnodup,foldlM_put_again hm hnodup hput⟩

/-- Rows that replace one another: the last row of a key is stored. -/
theorem find?_foldlM_put_replaces (hm : m.Replaces) (h : rs.foldlM (put m) t = some u) (k : κ) :
    u.find? k = (rs.reverse.find? fun r => key r = k).or (t.find? k) := by
  induction rs generalizing t with
  | nil => cases h; rfl
  | cons r rs ih =>
    obtain ⟨v,hv,hrest⟩ := Option.bind_eq_some_iff.mp (by simpa using h)
    rw [ih hrest,List.reverse_cons,List.find?_append,Option.or_assoc,find?_put hv]
    congr 1
    by_cases hk : key r = k
    · subst hk
      rw [if_pos rfl,List.find?_cons_of_pos (by simp),Option.some_or]
      cases hold : t.find? (key r) with
      | some old => exact hm (find?_eq_some.mp hold).2
      | none => rfl
    · rw [if_neg (Ne.symm hk),List.find?_cons_of_neg (by simpa using hk),List.find?_nil,
        Option.none_or]

/-- Tables that look every key up alike hold the same rows. -/
theorem perm_of_find?_eq (h : ∀ k, t.find? k = u.find? k) : t.rows.Perm u.rows := by
  have hmem : ∀ {t u : Table key}, (∀ k, t.find? k = u.find? k) → ∀ r ∈ t.rows, r ∈ u.rows :=
    fun h r hr => (find?_eq_some.mp ((h (key r)).symm.trans (find?_of_mem hr))).1
  rw [List.perm_ext_iff_of_nodup (.of_map _ t.unique) (.of_map _ u.unique)]
  exact fun r => ⟨hmem h r,hmem (fun k => (h k).symm) r⟩

/-- Every row is rewritten, or dropped, on its own. -/
def Rewrites (f : ρ → Option ρ) (t u : Table key) : Prop :=
  ∀ k, u.find? k = (t.find? k).bind f

theorem rewrites_some (t : Table key) : Rewrites some t t :=
  fun _ => (Option.bind_fun_some _).symm

theorem rewrites_filter {p : ρ → Bool} (h : u.rows = t.rows.filter p) :
    Rewrites (Option.guard p) t u := by
  intro k
  ext r
  rw [find?_eq_some,h,List.mem_filter,Option.bind_eq_some_iff]
  constructor
  · rintro ⟨⟨hr,hp⟩,hk⟩
    exact ⟨r,find?_eq_some.mpr ⟨hr,hk⟩,Option.guard_eq_some_iff.mpr ⟨rfl,hp⟩⟩
  · rintro ⟨s,hs,hguard⟩
    obtain ⟨rfl,hp⟩ := Option.guard_eq_some_iff.mp hguard
    obtain ⟨hmem,hk⟩ := find?_eq_some.mp hs
    exact ⟨⟨hmem,hp⟩,hk⟩

theorem rewrites_map {g : ρ → ρ} (hg : ∀ r, key (g r) = key r) (h : u.rows = t.rows.map g) :
    Rewrites (fun r => some (g r)) t u := by
  intro k
  ext r
  rw [find?_eq_some,h,List.mem_map,Option.bind_eq_some_iff]
  constructor
  · rintro ⟨⟨s,hs,rfl⟩,hk⟩
    exact ⟨s,find?_eq_some.mpr ⟨hs,(hg s).symm.trans hk⟩,rfl⟩
  · rintro ⟨s,hs,hr⟩
    obtain rfl := Option.some.inj hr
    obtain ⟨hmem,hk⟩ := find?_eq_some.mp hs
    exact ⟨⟨s,hmem,rfl⟩,(hg s).trans hk⟩

/-- Rows are rewritten, then new ones put in their places, then all rewritten again. If rewriting
has nothing left to do the second time, so have all three together. -/
theorem perm_put_again {before after : ρ → Option ρ} (hm : m.Replaces)
    (hrewrite : ∀ r s, (before r).bind after = some s → (before s).bind after = some s)
    (hw : Rewrites before t w) (hv : rs.foldlM (put m) w = some v) (hu : Rewrites after v u)
    (hw' : Rewrites before u w') (hv' : rs.foldlM (put m) w' = some v')
    (hu' : Rewrites after v' u') : u.rows.Perm u'.rows := by
  apply perm_of_find?_eq
  intro k
  have hfirst := (hu k).trans (congrArg (Option.bind · after) (find?_foldlM_put_replaces hm hv k))
  rw [hu' k,find?_foldlM_put_replaces hm hv' k,hw' k,hfirst,hw k]
  cases rs.reverse.find? fun r => key r = k with
  | some new => rfl
  | none =>
    rw [Option.none_or,Option.none_or]
    cases hrow : ((t.find? k).bind before).bind after with
    | none => rfl
    | some s =>
      obtain ⟨r,-,hr⟩ := Option.bind_eq_some_iff.mp ((Option.bind_assoc _ _ _).symm.trans hrow)
      exact (hrewrite r s hr).symm

end
end Table
end NamadaIndexer.Foundation
