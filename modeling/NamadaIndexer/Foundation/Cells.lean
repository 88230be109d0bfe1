import Mathlib.Data.List.Basic
import NamadaIndexer.Foundation.Latest
import NamadaIndexer.Foundation.Repeating
import NamadaIndexer.Foundation.Runs

/-! A table as one cell for each key. A run of statements that treat every key on its own is a
fold over what they did to one cell; a column of a cell is a register, which holds what was written
last since the row was made. -/
namespace NamadaIndexer.Foundation

/-- What every step makes of a part of the state by its events, the run makes of it by all of
them. -/
theorem Runs.observe_execute {σ α β γ : Type*} {step : σ → α → Option σ} {s t : σ}
    {events : α → List β} {apply : γ → β → γ} (observe : σ → γ)
    (hstep : ∀ s a t, step s a = some t → observe t = (events a).foldl apply (observe s))
    {as : List α} (hrun : execute step s as = some t) :
    observe t = (as.flatMap events).foldl apply (observe s) := by
  induction as generalizing s with
  | nil =>
    cases hrun
    rfl
  | cons a as ih =>
    obtain ⟨m,hm,hrest⟩ := execute_cons_eq_some.mp hrun
    rw [List.flatMap_cons,List.foldl_append,←hstep s a m hm]
    exact ih hrest

namespace Table
variable {ρ κ : Type*} {key : ρ → κ} {m : Merge key} {rs : List ρ} {t u : Table key}

/-- One row put into the cell of its key. -/
def putRow (m : Merge key) (cell : Option ρ) (new : ρ) : Option ρ :=
  match cell with
  | some old => m.run old new
  | none => some new

@[simp] theorem putRow_none (new : ρ) : putRow m none new = some new := rfl

@[simp] theorem putRow_some (old new : ρ) : putRow m (some old) new = m.run old new := rfl

variable [DecidableEq κ]

/-- Rows that are put go one after the other into the cells of their keys. -/
theorem find?_foldlM_put_eq_foldl (h : rs.foldlM (put m) t = some u) (k : κ) :
    u.find? k = rs.foldl (fun cell r => if key r = k then putRow m cell r else cell)
      (t.find? k) := by
  induction rs generalizing t with
  | nil =>
    obtain rfl := Option.some.inj h
    rfl
  | cons r rs ih =>
    obtain ⟨v,hv,hrest⟩ := Option.bind_eq_some_iff.mp (by simpa using h)
    rw [ih hrest,List.foldl_cons,find?_put hv]
    by_cases hk : key r = k
    · rw [if_pos hk,if_pos hk.symm]
      cases t.find? k <;> rfl
    · rw [if_neg hk,if_neg (Ne.symm hk)]

theorem find?_upsert (h : upsert m t rs = some u) (k : κ) :
    u.find? k = rs.foldl (fun cell r => if key r = k then putRow m cell r else cell)
      (t.find? k) :=
  find?_foldlM_put_eq_foldl (upsert_eq_some.mp h).2 k

/-- Where merging takes over some columns, the cell that starts out empty is the first row with
these columns of the last one. -/
theorem foldl_putRow (f : ρ → ρ → ρ) (hrun : ∀ old new, m.run old new = some (f old new))
    (habsorb : ∀ a b c, f (f a b) c = f a c) (hself : ∀ a, f a a = a) (k : κ) (rs : List ρ) :
    rs.foldl (fun cell r => if key r = k then putRow m cell r else cell) none =
      (rs.find? fun r => key r = k).bind fun first =>
        (rs.reverse.find? fun r => key r = k).map (f first) := by
  induction rs using List.reverseRecOn with
  | nil => rfl
  | append_singleton rs r ih =>
    have hlast : (rs ++ [r]).reverse.find? (fun r => decide (key r = k)) =
        if key r = k then some r else rs.reverse.find? fun r => decide (key r = k) := by
      rw [List.reverse_append,List.reverse_singleton,List.singleton_append,List.find?_cons]
      by_cases hr : key r = k <;> simp [hr]
    have hsome : (rs.reverse.find? fun r => decide (key r = k)).isSome =
        (rs.find? fun r => decide (key r = k)).isSome := by
      rw [Bool.eq_iff_iff,List.find?_isSome,List.find?_isSome]
      simp only [List.mem_reverse]
    rw [List.foldl_append,ih,List.foldl_cons,List.foldl_nil,hlast,List.find?_append]
    by_cases hr : key r = k
    · rw [if_pos hr,if_pos hr]
      cases hfirst : rs.find? fun r => decide (key r = k) with
      | none => simp [hr,hself]
      | some first =>
        rw [hfirst] at hsome
        obtain ⟨last,hlast⟩ := Option.isSome_iff_exists.mp hsome
        simp [hlast,hrun,habsorb]
    · rw [if_neg hr,if_neg hr]
      simp [hr]

/-- Where merging replaces the row, the cell is the last row of its key. -/
theorem foldl_putRow_replaces (hrun : ∀ old new, key old = key new → m.run old new = some new) {k : κ}
    (rs : List ρ) {cell : Option ρ} (hcell : ∀ r ∈ cell, key r = k) :
    rs.foldl (fun cell r => if key r = k then putRow m cell r else cell) cell =
      (rs.reverse.find? fun r => key r = k).or cell := by
  induction rs generalizing cell with
  | nil => rfl
  | cons r rs ih =>
    rw [List.foldl_cons,List.reverse_cons,List.find?_append,Option.or_assoc]
    by_cases hr : key r = k
    · have hput : putRow m cell r = some r := by
        cases cell with
        | none => rfl
        | some old => exact hrun old r ((hcell old rfl).trans hr.symm)
      rw [if_pos hr,hput,ih (by rintro s ⟨⟩; exact hr)]
      simp [hr]
    · rw [if_neg hr,ih hcell]
      simp [hr]

theorem find?_of_perm (h : rs.Perm t.rows) (k : κ) : rs.find? (fun r => key r = k) = t.find? k := by
  apply Option.ext
  intro r
  rw [find?_eq_some,find?_key_eq_some ((h.map key).nodup_iff.mpr t.unique),h.mem_iff]

theorem filter_key (t : Table key) (k : κ) :
    t.rows.filter (fun r => key r = k) = (t.find? k).toList := by
  have hle := length_filter_key_le t.unique k
  rw [find?,←List.head?_filter]
  generalize (t.rows.filter fun r => key r = k) = rs at hle ⊢
  rcases rs with _ | ⟨r,_ | ⟨s,rs⟩⟩
  · rfl
  · rfl
  · exact absurd hle (by simp)

omit [DecidableEq κ] in
/-- A column that tells the chosen rows apart, as their keys do, has no value twice. -/
theorem nodup_map_filter {γ : Type*} {column : ρ → γ} {chosen : ρ → Bool} (t : Table key)
    (h : ∀ r s, chosen r → chosen s → column r = column s → key r = key s) :
    ((t.rows.filter chosen).map column).Nodup := by
  have hrows : t.rows.Nodup := List.Nodup.of_map key t.unique
  refine List.Nodup.map_on (fun r hr s hs hcolumn => ?_) (hrows.filter chosen)
  obtain ⟨hr,hchosen⟩ := List.mem_filter.mp hr
  obtain ⟨hs,hchosen'⟩ := List.mem_filter.mp hs
  exact eq_of_key_eq hr hs (h r s hchosen hchosen' hcolumn)

theorem find?_map {g : ρ → ρ} (hg : ∀ r, key (g r) = key r) (h : u.rows = t.rows.map g) (k : κ) :
    u.find? k = (t.find? k).map g := by
  rw [rewrites_map hg h k]
  cases t.find? k <;> rfl

theorem find?_foldl_mapRows {α : Type*} (f : α → ρ → ρ) (hf : ∀ a r, key (f a r) = key r)
    (as : List α) (t : Table key) (k : κ) :
    (as.foldl (fun t a => t.mapRows (f a) (hf a)) t).find? k =
      as.foldl (fun cell a => cell.map (f a)) (t.find? k) := by
  induction as generalizing t with
  | nil => rfl
  | cons a as ih => rw [List.foldl_cons,List.foldl_cons,ih,find?_map (hf a) rfl]

/-- Updates that have to look for the key of a row know it in its cell. -/
theorem find?_foldl_mapRows_at {α : Type*} {f g : α → ρ → ρ} (hf : ∀ a r, key (f a r) = key r) {k : κ}
    (hg : ∀ a r, key r = k → f a r = g a r) (as : List α) (t : Table key) :
    (as.foldl (fun t a => t.mapRows (f a) (hf a)) t).find? k =
      as.foldl (fun cell a => cell.map (g a)) (t.find? k) := by
  induction as generalizing t with
  | nil => rfl
  | cons a as ih =>
    have hcell : (t.find? k).map (f a) = (t.find? k).map (g a) :=
      Option.map_congr fun r hr => hg a r (find?_eq_some.mp hr).2
    rw [List.foldl_cons,List.foldl_cons,ih,find?_map (hf a) rfl,hcell]

/-- Where a reference is part of the key, rows that are put refer to what they did. -/
theorem reference_foldlM_put {ι : Type*} {reference : ρ → ι} {targets : List ι}
    (hkey : ∀ r s, key r = key s → reference r = reference s)
    (hold : ∀ r ∈ t.rows, reference r ∈ targets) (hnew : ∀ r ∈ rs, reference r ∈ targets)
    (h : rs.foldlM (put m) t = some u) : ∀ r ∈ u.rows, reference r ∈ targets := by
  intro r hr
  rcases (mem_keys_foldlM_put h).mp (key_mem_keys hr) with hmem | hmem
  · obtain ⟨old,hmem,hsame⟩ := mem_keys.mp hmem
    exact hkey old r hsame ▸ hold old hmem
  · obtain ⟨new,hmem,hsame⟩ := List.mem_map.mp hmem
    exact hkey new r hsame ▸ hnew new hmem

/-- An empty table finds the first row of a key. -/
theorem find?_insertOrIgnore_empty (rs : List ρ) (k : κ) :
    ((empty : Table key).insertOrIgnore rs).find? k = rs.find? fun r => key r = k := by
  apply Option.ext
  intro r
  rw [find?_eq_some,mem_insertOrIgnore_empty]
  induction rs with
  | nil => exact iff_of_false (fun h => absurd h.1.mem List.not_mem_nil) (by simp)
  | cons s rs ih =>
    rw [isFirst_cons,List.find?_cons]
    by_cases hk : key s = k
    · rw [decide_eq_true hk]
      subst hk
      constructor
      · rintro ⟨rfl | ⟨hne,-⟩,hkey⟩
        · rfl
        · exact absurd hkey.symm hne
      · intro h
        obtain rfl := Option.some.inj h
        exact ⟨.inl rfl,rfl⟩
    · rw [decide_eq_false hk]
      dsimp only
      rw [←ih]
      constructor
      · rintro ⟨rfl | ⟨-,hfirst⟩,hkey⟩
        · exact absurd hkey hk
        · exact ⟨hfirst,hkey⟩
      · rintro ⟨hfirst,hkey⟩
        exact ⟨.inr ⟨fun h => hk (h.trans hkey),hfirst⟩,hkey⟩

theorem mem_of_mem_insertOrIgnore {r : ρ} (h : r ∈ (t.insertOrIgnore rs).rows)
    (hkey : key r ∈ t.keys) : r ∈ t.rows := by
  rw [insertOrIgnore_rows] at h
  exact (List.mem_append.mp h).resolve_right fun hfresh => fresh_key_not_mem hfresh hkey

/-- Where every step of a system inserts rows and ignores those whose keys are taken, the run does
so with all of them. -/
theorem insertOrIgnore_execute {σ α : Type*} {step : σ → α → Option σ} {s s' : σ}
    (table : σ → Table key) {rows : α → List ρ} {as : List α}
    (hrun : Runs.execute step s as = some s')
    (hstep : ∀ s a s', step s a = some s' → table s' = (table s).insertOrIgnore (rows a)) :
    table s' = (table s).insertOrIgnore (as.flatMap rows) := by
  induction as generalizing s with
  | nil =>
    cases hrun
    exact (insertOrIgnore_nil _).symm
  | cons a as ih =>
    obtain ⟨m,hm,hrest⟩ := Runs.execute_cons_eq_some.mp hrun
    rw [List.flatMap_cons,insertOrIgnore_append,←hstep s a m hm]
    exact ih hrest

end Table

/-- A value that is there as soon as an event makes it, and that events write to then. -/
structure Register (β γ : Type*) where
  made : β → Option γ
  written : β → Option γ

namespace Register
variable {β γ ρ : Type*} (register : Register β γ)

/-- What the events wrote last. -/
def lastWritten (events : List β) : Option γ := (events.filterMap register.written).getLast?

/-- What was written last since the first event that makes the value, or what it was made with. -/
def read : List β → Option γ
  | [] => none
  | e::events =>
    match register.made e with
    | none => read events
    | some value => (register.lastWritten events).or (some value)

/-- The value after one more event. -/
def next (value : Option γ) (e : β) : Option γ :=
  match value with
  | none => register.made e
  | some old => (register.written e).or (some old)

variable {register} {events : List β} {e : β}

@[simp] theorem read_nil : register.read [] = none := rfl

/-- The value is there if an event made it. -/
theorem isSome_read : (register.read events).isSome ↔ ∃ e ∈ events, (register.made e).isSome := by
  induction events with
  | nil => simp
  | cons e events ih =>
    rw [List.exists_mem_cons_iff,read]
    cases register.made e with
    | none => simpa using ih
    | some value => simp

theorem lastWritten_concat :
    register.lastWritten (events ++ [e]) = (register.written e).or (register.lastWritten events) := by
  rw [lastWritten,List.filterMap_append]
  cases h : register.written e with
  | none => simp [h,lastWritten]
  | some value => simp [h]

theorem read_concat : register.read (events ++ [e]) = register.next (register.read events) e := by
  induction events with
  | nil =>
    rw [List.nil_append,read_nil,next,read]
    cases register.made e <;> rfl
  | cons first events ih =>
    rw [List.cons_append,read,read]
    cases register.made first with
    | none => exact ih
    | some value =>
      dsimp only
      rw [lastWritten_concat,Option.or_assoc]
      cases register.lastWritten events <;> rfl

/-- What is never written stays as it was made. -/
theorem read_append_of_never_written (hnever : ∀ e, register.written e = none) {value : γ}
    (h : register.read events = some value) (later : List β) :
    register.read (events ++ later) = some value := by
  induction later using List.reverseRecOn with
  | nil => rwa [List.append_nil]
  | append_singleton later e ih =>
    rw [←List.append_assoc,read_concat,ih,next,hnever]
    rfl

/-- A column that every event treats as the register does is what is read from it. -/
theorem map_foldl {apply : Option ρ → β → Option ρ} {column : ρ → γ}
    (hmade : ∀ e, (apply none e).map column = register.made e)
    (hwritten : ∀ e old, (apply (some old) e).map column =
      (register.written e).or (some (column old))) :
    (events.foldl apply none).map column = register.read events := by
  induction events using List.reverseRecOn with
  | nil => rfl
  | append_singleton events e ih =>
    rw [List.foldl_append,List.foldl_cons,List.foldl_nil,read_concat,←ih]
    cases events.foldl apply none with
    | none => exact hmade e
    | some old => exact hwritten e old

end Register
end NamadaIndexer.Foundation
