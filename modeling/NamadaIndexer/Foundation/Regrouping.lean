import NamadaIndexer.Foundation.KeyedTable

/-! A batch of records and deletions on a list of rows, one after another, against the same batch
regrouped: first every record in one statement that ignores conflicts, then every deletion. -/
namespace NamadaIndexer.Foundation

/-- One action of a batch: to record a row, or to delete the rows that `d` selects. -/
inductive RowAction (ρ δ : Type*)
  | record (row : ρ)
  | delete (d : δ)

namespace RowAction
variable {ρ κ δ : Type*} (selects : δ → ρ → Bool)

/-- The action on its own. -/
def apply (rows : List ρ) : RowAction ρ δ → List ρ
  | .record row => rows ++ [row]
  | .delete d => rows.filter fun row => !selects d row

def records : List (RowAction ρ δ) → List ρ
  | [] => []
  | .record row :: actions => row :: records actions
  | .delete _ :: actions => records actions

def deletions : List (RowAction ρ δ) → List δ
  | [] => []
  | .record _ :: actions => deletions actions
  | .delete d :: actions => d :: deletions actions

/-- No deletion selects the row. -/
def kept (ds : List δ) (row : ρ) : Bool := ds.all fun d => !selects d row

/-- The records that no later deletion selects. -/
def left : List (RowAction ρ δ) → List ρ
  | [] => []
  | .record row :: actions =>
    if kept selects (deletions actions) row then row :: left actions else left actions
  | .delete _ :: actions => left actions

variable {selects}

@[simp] lemma kept_cons (d : δ) (ds : List δ) (row : ρ) :
    kept selects (d :: ds) row = (!selects d row && kept selects ds row) := rfl

@[simp] lemma kept_append (ds ds' : List δ) (row : ρ) :
    kept selects (ds ++ ds') row = (kept selects ds row && kept selects ds' row) :=
  List.all_append

/-- Deletions one after another leave what none of them selects. -/
lemma foldl_filter (ds : List δ) (rows : List ρ) :
    ds.foldl (fun rows d => rows.filter fun row => !selects d row) rows =
      rows.filter (kept selects ds) := by
  induction ds generalizing rows with
  | nil => exact (List.filter_eq_self.mpr fun _ _ => rfl).symm
  | cons d ds ih =>
    rw [List.foldl_cons,ih,List.filter_filter]
    congr 1
    funext row
    rw [kept_cons,Bool.and_comm]

/-- What a batch leaves: the old rows that no deletion selects, and the records that no later one
does. -/
theorem foldl_apply (actions : List (RowAction ρ δ)) (rows : List ρ) :
    actions.foldl (apply selects) rows =
      rows.filter (kept selects (deletions actions)) ++ left selects actions := by
  induction actions generalizing rows with
  | nil =>
    have hall : rows.filter (kept selects []) = rows := List.filter_eq_self.mpr fun _ _ => rfl
    rw [List.foldl_nil,deletions,left,hall,List.append_nil]
  | cons a actions ih =>
    rw [List.foldl_cons,ih]
    cases a with
    | record row =>
      simp only [apply,deletions,left,List.filter_append,List.append_assoc]
      congr 1
      by_cases hkept : kept selects (deletions actions) row = true
      · rw [if_pos hkept,List.filter_cons_of_pos hkept,List.filter_nil,List.singleton_append]
      · rw [if_neg hkept,List.filter_cons_of_neg hkept,List.filter_nil,List.nil_append]
    | delete d =>
      simp only [apply,deletions,left,List.filter_filter]
      congr 2
      funext row
      rw [kept_cons,Bool.and_comm]

variable {key : ρ → κ}

/-- A record that the batch leaves has a key that is neither taken nor recorded before, and no
earlier deletion selects it. -/
def Harmless (selects : δ → ρ → Bool) (key : ρ → κ) (known : List κ) (earlier : List δ)
    (actions : List (RowAction ρ δ)) : Prop :=
  ∀ before row after, actions = before ++ .record row :: after →
    kept selects (deletions after) row = true →
      key row ∉ known ∧ key row ∉ (records before).map key ∧
        kept selects (earlier ++ deletions before) row = true

lemma harmless_record (known : List κ) (earlier : List δ) (row : ρ)
    (actions : List (RowAction ρ δ)) :
    Harmless selects key known earlier (.record row :: actions) ↔
      (kept selects (deletions actions) row = true →
        key row ∉ known ∧ kept selects earlier row = true) ∧
      Harmless selects key (key row :: known) earlier actions := by
  constructor
  · intro h
    constructor
    · intro hkept
      obtain ⟨hknown,-,hearlier⟩ := h [] row actions rfl hkept
      exact ⟨hknown,by simpa [deletions] using hearlier⟩
    · rintro before other after rfl hkept
      obtain ⟨hknown,hbefore,hearlier⟩ := h (.record row :: before) other after rfl hkept
      simp only [records,deletions,List.map_cons,List.mem_cons,not_or] at hbefore hearlier ⊢
      exact ⟨⟨hbefore.1,hknown⟩,hbefore.2,hearlier⟩
  · rintro ⟨hfirst,hrest⟩ before other after hsplit hkept
    rcases List.cons_eq_append_iff.mp hsplit with ⟨rfl,hcons⟩ | ⟨before,rfl,rfl⟩
    · cases hcons
      obtain ⟨hknown,hearlier⟩ := hfirst hkept
      exact ⟨hknown,by simp [records],by simpa [deletions] using hearlier⟩
    · obtain ⟨hknown,hbefore,hearlier⟩ := hrest before other after rfl hkept
      simp only [records,deletions,List.map_cons,List.mem_cons,not_or] at hknown ⊢
      exact ⟨hknown.2,⟨hknown.1,hbefore⟩,hearlier⟩

lemma harmless_delete (known : List κ) (earlier : List δ) (d : δ)
    (actions : List (RowAction ρ δ)) :
    Harmless selects key known earlier (.delete d :: actions) ↔
      Harmless selects key known (earlier ++ [d]) actions := by
  constructor
  · rintro h before other after rfl hkept
    have hthis := h (.delete d :: before) other after rfl hkept
    simpa only [records,deletions,List.append_assoc,List.singleton_append] using hthis
  · intro h before other after hsplit hkept
    rcases List.cons_eq_append_iff.mp hsplit with ⟨rfl,hcons⟩ | ⟨before,rfl,rfl⟩
    · cases hcons
    · have hthis := h before other after rfl hkept
      simpa only [records,deletions,List.append_assoc,List.singleton_append] using hthis

section
variable [DecidableEq κ]

/-- The records that the regrouped batch leaves, after some deletions and with some keys taken. -/
def regrouped (selects : δ → ρ → Bool) (key : ρ → κ) (known : List κ) (earlier : List δ)
    (actions : List (RowAction ρ δ)) : List ρ :=
  (Table.fresh key known (records actions)).filter (kept selects (earlier ++ deletions actions))

lemma regrouped_record (known : List κ) (earlier : List δ) (row : ρ)
    (actions : List (RowAction ρ δ)) :
    regrouped selects key known earlier (.record row :: actions) =
      (if key row ∉ known ∧ kept selects (earlier ++ deletions actions) row = true
        then [row] else []) ++ regrouped selects key (key row :: known) earlier actions := by
  simp only [regrouped,records,deletions,Table.fresh]
  by_cases hknown : key row ∈ known
  · have hsame : ∀ k, k ∈ known ↔ k ∈ key row :: known := by
      intro k
      rw [List.mem_cons]
      exact ⟨Or.inr,fun h => h.elim (fun hk => hk ▸ hknown) id⟩
    rw [if_pos hknown,if_neg fun h => h.1 hknown,List.nil_append,Table.fresh_congr hsame]
  · rw [if_neg hknown,List.filter_cons]
    simp only [hknown,not_false_eq_true,true_and]
    split <;> rfl

lemma regrouped_delete (known : List κ) (earlier : List δ) (d : δ)
    (actions : List (RowAction ρ δ)) :
    regrouped selects key known earlier (.delete d :: actions) =
      regrouped selects key known (earlier ++ [d]) actions := by
  simp only [regrouped,records,deletions,List.append_assoc,List.singleton_append]

lemma left_record (row : ρ) (actions : List (RowAction ρ δ)) :
    left selects (.record row :: actions) =
      (if kept selects (deletions actions) row = true then [row] else []) ++
        left selects actions := by
  simp only [left]
  split <;> rfl

/-- The regrouped batch leaves no more than the batch. -/
lemma regrouped_sublist (selects : δ → ρ → Bool) (key : ρ → κ) (known : List κ) (earlier : List δ)
    (actions : List (RowAction ρ δ)) :
    (regrouped selects key known earlier actions).Sublist (left selects actions) := by
  induction actions generalizing known earlier with
  | nil => exact .slnil
  | cons a actions ih =>
    cases a with
    | record row =>
      rw [regrouped_record,left_record]
      refine List.Sublist.append ?_ (ih _ _)
      split
      · rename_i hfresh
        rw [kept_append,Bool.and_eq_true] at hfresh
        rw [if_pos hfresh.2.2]
      · exact List.nil_sublist _
    | delete d =>
      rw [regrouped_delete]
      exact ih _ _

/-- Regrouping loses no record exactly when the batch is harmless. -/
theorem regrouped_eq_left_iff (known : List κ) (earlier : List δ)
    (actions : List (RowAction ρ δ)) :
    regrouped selects key known earlier actions = left selects actions ↔
      Harmless selects key known earlier actions := by
  induction actions generalizing known earlier with
  | nil =>
    refine iff_of_true rfl ?_
    intro before row after hsplit
    simp at hsplit
  | cons a actions ih =>
    cases a with
    | record row =>
      rw [regrouped_record,left_record,harmless_record,←ih]
      simp only [kept_append,Bool.and_eq_true]
      by_cases hkept : kept selects (deletions actions) row = true
      · by_cases hfresh : key row ∉ known ∧ kept selects earlier row = true
        · simp [hkept,hfresh]
        · -- the record is lost, and the rest cannot make up for it
          have hlost : ¬ (key row ∉ known ∧ kept selects earlier row = true ∧
              kept selects (deletions actions) row = true) :=
            fun h => hfresh ⟨h.1,h.2.1⟩
          have hle := (regrouped_sublist selects key (key row :: known) earlier actions).length_le
          rw [if_neg hlost,if_pos hkept]
          refine iff_of_false (fun h => ?_) fun h => hfresh (h.1 hkept)
          have hlength := congrArg List.length h
          simp only [List.nil_append,List.length_append,List.length_singleton] at hlength
          omega
      · simp [hkept]
    | delete d =>
      rw [regrouped_delete,harmless_delete]
      exact ih known (earlier ++ [d])

/-- On a table: to insert all records at once and then delete leaves the rows of the batch, in their
order, exactly when the batch is harmless. -/
theorem insertOrIgnore_filter_eq_iff (t : Table key) (actions : List (RowAction ρ δ)) :
    (t.insertOrIgnore (records actions)).rows.filter (kept selects (deletions actions)) =
        actions.foldl (apply selects) t.rows ↔
      Harmless selects key t.keys [] actions := by
  rw [Table.insertOrIgnore_rows,List.filter_append,foldl_apply,List.append_cancel_left_eq,
    ←regrouped_eq_left_iff]
  exact Iff.rfl

/-- Another order of the rows makes no difference to this. -/
theorem insertOrIgnore_filter_perm_iff (t : Table key) (actions : List (RowAction ρ δ)) :
    ((t.insertOrIgnore (records actions)).rows.filter (kept selects (deletions actions))).Perm
        (actions.foldl (apply selects) t.rows) ↔
      Harmless selects key t.keys [] actions := by
  rw [Table.insertOrIgnore_rows,List.filter_append,foldl_apply,List.perm_append_left_iff,
    ←regrouped_eq_left_iff]
  have hsub := regrouped_sublist selects key t.keys [] actions
  constructor
  · exact fun h => hsub.eq_of_length h.length_eq
  · intro h
    exact .of_eq h

end
end RowAction
end NamadaIndexer.Foundation
