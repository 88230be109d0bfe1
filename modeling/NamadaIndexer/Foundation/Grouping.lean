import NamadaIndexer.Foundation.KeyedTable

/-! Entries grouped by a key, with what they carry summed up. -/
namespace NamadaIndexer.Foundation

/-- The key occurs, and this is the sum of what its entries carry. -/
structure Grouped {α κ M : Type*} [DecidableEq κ] [AddCommMonoid M] (key : α → κ) (amount : α → M)
    (entries : List α) (k : κ) (total : M) : Prop where
  occurs : ∃ e ∈ entries, key e = k
  total_eq : total = (entries.map fun e => if key e = k then amount e else 0).sum

namespace Grouped
variable {α β κ κ' M : Type*} [DecidableEq κ] [DecidableEq κ'] [AddCommMonoid M] {key : α → κ}
  {amount : α → M} {entries : List α} {k : κ} {total : M}

@[simp] theorem not_nil : ¬ Grouped key amount [] k total := by
  rintro ⟨⟨e,he,-⟩,-⟩
  contradiction

/-- Only which entries are under the key matters. -/
theorem congr_key {key' : α → κ'} {k' : κ'} (h : ∀ e ∈ entries, key e = k ↔ key' e = k') :
    Grouped key amount entries k total ↔ Grouped key' amount entries k' total := by
  have hsum : (entries.map fun e => if key e = k then amount e else 0) =
      entries.map fun e => if key' e = k' then amount e else 0 := by
    apply List.map_congr_left
    intro e he
    simp only [h e he]
  constructor
  · rintro ⟨⟨e,he,hkey⟩,htotal⟩
    exact ⟨⟨e,he,(h e he).mp hkey⟩,hsum ▸ htotal⟩
  · rintro ⟨⟨e,he,hkey⟩,htotal⟩
    exact ⟨⟨e,he,(h e he).mpr hkey⟩,hsum ▸ htotal⟩

theorem map_entries {f : β → α} {list : List β} :
    Grouped key amount (list.map f) k total ↔
      Grouped (fun b => key (f b)) (fun b => amount (f b)) list k total := by
  constructor
  · rintro ⟨⟨e,he,hkey⟩,htotal⟩
    obtain ⟨b,hb,rfl⟩ := List.mem_map.mp he
    exact ⟨⟨b,hb,hkey⟩,by rw [htotal,List.map_map]; rfl⟩
  · rintro ⟨⟨b,hb,hkey⟩,htotal⟩
    exact ⟨⟨f b,List.mem_map_of_mem hb,hkey⟩,by rw [htotal,List.map_map]; rfl⟩

theorem exists_iff : (∃ total, Grouped key amount entries k total) ↔ ∃ e ∈ entries, key e = k :=
  ⟨fun ⟨_,h⟩ => h.occurs,fun h => ⟨_,h,rfl⟩⟩

end Grouped

namespace Table
variable {ρ κ M : Type*} {key : ρ → κ} [DecidableEq κ] [AddCommMonoid M] {m : Merge key}
  {t : Table key} {f : ρ → M}

/-- Rows that are put into an empty table under a merge that adds up are grouped by it. -/
theorem grouped_iff_of_foldlM_put
    (hf : ∀ {old new row}, key old = key new → m.run old new = some row → f row = f old + f new)
    {rs : List ρ} (h : rs.foldlM (put m) .empty = some t) {k : κ} {total : M} :
    (∃ r ∈ t.rows, key r = k ∧ f r = total) ↔ Grouped key f rs k total := by
  have hkeys : k ∈ t.keys ↔ ∃ r ∈ rs, key r = k := by
    rw [mem_keys_foldlM_put h,empty_keys,List.mem_map]
    simp
  have hsum : (t.rows.map fun r => if key r = k then f r else 0).sum =
      (rs.map fun r => if key r = k then f r else 0).sum := by
    rw [sum_foldlM_put (f := fun r => if key r = k then f r else 0) ?_ h,empty_rows,List.map_nil,
      List.sum_nil,zero_add]
    intro old new row hsame hrun
    have hkey : key row = key old := m.key_run hrun
    rw [hkey,hsame]
    split
    · exact hf hsame hrun
    · rw [add_zero]
  constructor
  · rintro ⟨r,hr,rfl,rfl⟩
    exact ⟨hkeys.mp (key_mem_keys hr),by rw [←hsum,sum_of_key t.unique f hr]⟩
  · rintro ⟨hoccurs,rfl⟩
    obtain ⟨r,hr,rfl⟩ := mem_keys.mp (hkeys.mpr hoccurs)
    exact ⟨r,hr,rfl,by rw [←hsum,sum_of_key t.unique f hr]⟩

/-- A row that takes the place of the row of its key. -/
theorem mem_put_of_replaces (hm : ∀ {old new}, key old = key new → m.run old new = some new)
    {new : ρ} {u : Table key} (h : put m t new = some u) {r : ρ} :
    r ∈ u.rows ↔ r = new ∨ r ∈ t.rows ∧ key r ≠ key new := by
  obtain ⟨old,row,hold,hrow,rfl⟩ | ⟨hfresh,hu⟩ := put_cases h
  · obtain ⟨hmem,hkey⟩ := find?_eq_some.mp hold
    obtain rfl : new = row := Option.some.inj ((hm hkey).symm.trans hrow)
    rw [replace_rows,List.mem_map]
    constructor
    · rintro ⟨s,hs,rfl⟩
      split
      · exact .inl rfl
      · rename_i hne
        exact .inr ⟨hs,hne⟩
    · rintro (rfl | ⟨hr,hne⟩)
      · exact ⟨old,hmem,if_pos hkey⟩
      · exact ⟨r,hr,if_neg hne⟩
  · rw [hu,List.mem_append,List.mem_singleton,or_comm]
    refine or_congr_right ⟨fun hr => ⟨hr,?_⟩,And.left⟩
    exact fun hkey => hfresh (hkey ▸ key_mem_keys hr)

/-- Rows with distinct keys that take the places of the rows of their keys. -/
theorem mem_foldlM_put_of_replaces
    (hm : ∀ {old new}, key old = key new → m.run old new = some new) {rs : List ρ}
    (hnodup : (rs.map key).Nodup) {u : Table key} (h : rs.foldlM (put m) t = some u) {r : ρ} :
    r ∈ u.rows ↔ r ∈ rs ∨ r ∈ t.rows ∧ key r ∉ rs.map key := by
  induction rs generalizing t with
  | nil =>
    cases h
    simp
  | cons new rs ih =>
    rw [List.map_cons,List.nodup_cons] at hnodup
    obtain ⟨v,hv,hrest⟩ := Option.bind_eq_some_iff.mp (by simpa using h)
    rw [ih hnodup.2 hrest,mem_put_of_replaces hm hv,List.mem_cons,List.map_cons,List.mem_cons,
      not_or]
    constructor
    · rintro (hr | ⟨rfl | ⟨hr,hne⟩,hnone⟩)
      · exact .inl (.inr hr)
      · exact .inl (.inl rfl)
      · exact .inr ⟨hr,hne,hnone⟩
    · rintro ((rfl | hr) | ⟨hr,hne,hnone⟩)
      · exact .inr ⟨.inl rfl,hnodup.1⟩
      · exact .inl hr
      · exact .inr ⟨.inr ⟨hr,hne⟩,hnone⟩

end Table
end NamadaIndexer.Foundation
