import Mathlib.Data.List.Basic

/-! Texts joined by a separator: what stands in front of the first separator can be read
back. -/
namespace NamadaIndexer.Foundation

theorem append_cons_inj_of_not_mem_left {α : Type*} {sep : α} {xs ys us vs : List α}
    (hx : sep ∉ xs) (hy : sep ∉ ys) (h : xs ++ sep :: us = ys ++ sep :: vs) : xs = ys ∧ us = vs := by
  induction xs generalizing ys with
  | nil =>
    cases ys with
    | nil => simpa using h
    | cons y ys =>
      have hsep : sep = y := (List.cons.inj h).1
      exact absurd (hsep ▸ List.mem_cons_self) hy
  | cons x xs ih =>
    cases ys with
    | nil =>
      have hsep : x = sep := (List.cons.inj h).1
      exact absurd (hsep ▸ List.mem_cons_self) hx
    | cons y ys =>
      obtain ⟨hhead,htail⟩ := List.cons.inj h
      obtain ⟨hrest,hus⟩ := ih (fun hm => hx (List.mem_cons_of_mem _ hm))
        (fun hm => hy (List.mem_cons_of_mem _ hm)) htail
      exact ⟨by rw [hhead,hrest],hus⟩

/-- The field in front of a slash and the text behind it are determined by their join. -/
theorem append_slash_inj {a b s t : String} (ha : '/' ∉ a.toList) (hb : '/' ∉ b.toList)
    (h : a ++ ("/" ++ s) = b ++ ("/" ++ t)) : a = b ∧ s = t := by
  have hlist : a.toList ++ '/' :: s.toList = b.toList ++ '/' :: t.toList := by
    have := congrArg String.toList h
    simpa using this
  obtain ⟨hab,hst⟩ := append_cons_inj_of_not_mem_left ha hb hlist
  exact ⟨String.toList_inj.mp hab,String.toList_inj.mp hst⟩

end NamadaIndexer.Foundation
