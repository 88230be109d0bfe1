import Mathlib.Data.List.Basic
import Mathlib.Data.List.Induction
import Mathlib.Data.Option.Basic

/-! Finite runs of labelled transition systems. A label carries every choice the
environment makes, so a step is a partial function and a run can be computed. -/
namespace NamadaIndexer.Foundation.Runs

variable {σ α : Type*}

/-- Follow the labels in order. A label that is not enabled makes the run undefined. -/
def execute (step : σ → α → Option σ) : σ → List α → Option σ
  | s,[] => some s
  | s,a::as => (step s a).bind fun t => execute step t as

/-- The condition holds of every step of the run, in the state that step starts from. -/
def Along (step : σ → α → Option σ) (good : σ → α → Prop) : σ → List α → Prop
  | _,[] => True
  | s,a::as => good s a ∧ ∀ t, step s a = some t → Along step good t as

instance decidableAlong (step : σ → α → Option σ) (good : σ → α → Prop)
    [∀ s a, Decidable (good s a)] : ∀ s as, Decidable (Along step good s as)
  | _,[] => .isTrue trivial
  | s,a::as =>
    match h : step s a with
    | none => decidable_of_iff (good s a)
        ⟨fun hgood => ⟨hgood,fun t ht => by rw [h] at ht; contradiction⟩,And.left⟩
    | some t =>
      have := decidableAlong step good t as
      decidable_of_iff (good s a ∧ Along step good t as)
        ⟨fun hgood => ⟨hgood.1,fun u hu => by rw [h] at hu; cases hu; exact hgood.2⟩,
          fun halong => ⟨halong.1,halong.2 t h⟩⟩

section
variable {step : σ → α → Option σ} {good : σ → α → Prop} {s t : σ}

@[simp] theorem execute_nil : execute step s [] = some s := rfl

@[simp] theorem execute_cons (a : α) (as : List α) :
    execute step s (a::as) = (step s a).bind fun t => execute step t as := rfl

@[simp] theorem along_nil : Along step good s [] := trivial

theorem along_cons (a : α) (as : List α) :
    Along step good s (a::as) ↔ good s a ∧ ∀ t, step s a = some t → Along step good t as :=
  Iff.rfl

/-- The first step of a run splits off with its intermediate state. -/
theorem execute_cons_eq_some {a : α} {as : List α} :
    execute step s (a::as) = some t ↔ ∃ m, step s a = some m ∧ execute step m as = some t := by
  rw [execute_cons,Option.bind_eq_some_iff]

theorem execute_append (as bs : List α) :
    execute step s (as ++ bs) = (execute step s as).bind fun m => execute step m bs := by
  induction as generalizing s with
  | nil => rfl
  | cons a as ih =>
    rw [List.cons_append,execute_cons,execute_cons]
    cases step s a with
    | none => rfl
    | some m => exact ih

theorem execute_append_eq_some {as bs : List α} :
    execute step s (as ++ bs) = some t ↔
      ∃ m, execute step s as = some m ∧ execute step m bs = some t := by
  rw [execute_append,Option.bind_eq_some_iff]

theorem along_append {as bs : List α} :
    Along step good s (as ++ bs) ↔
      Along step good s as ∧ ∀ m, execute step s as = some m → Along step good m bs := by
  induction as generalizing s with
  | nil => simp
  | cons a as ih =>
    simp only [List.cons_append,along_cons,execute_cons_eq_some,and_assoc]
    refine and_congr_right fun _ => ?_
    constructor
    · intro h
      refine ⟨fun t ht => (ih.mp (h t ht)).1,?_⟩
      rintro m ⟨t,ht,hm⟩
      exact (ih.mp (h t ht)).2 m hm
    · rintro ⟨has,hbs⟩ t ht
      exact ih.mpr ⟨has t ht,fun m hm => hbs m ⟨t,ht,hm⟩⟩

theorem along_congr {good' : σ → α → Prop} (h : ∀ s a, good s a ↔ good' s a) {as : List α} :
    Along step good s as ↔ Along step good' s as := by
  induction as generalizing s with
  | nil => exact Iff.rfl
  | cons a as ih =>
    rw [along_cons,along_cons,h s a]
    exact and_congr_right fun _ => forall₂_congr fun t _ => ih

/-- Where an invariant and one condition give another, the run meets it as well. -/
theorem along_of_invariant {good' : σ → α → Prop} (Inv : σ → Prop)
    (hstep : ∀ s a t, Inv s → good s a → step s a = some t → Inv t)
    (hgood : ∀ s a, Inv s → good s a → good' s a) {as : List α} (hs : Inv s)
    (h : Along step good s as) : Along step good' s as := by
  induction as generalizing s with
  | nil => trivial
  | cons a as ih =>
    exact ⟨hgood s a hs h.1,fun t ht => ih (hstep s a t hs h.1 ht) (h.2 t ht)⟩

theorem along_and {good' : σ → α → Prop} {as : List α} (h : Along step good s as)
    (h' : Along step good' s as) : Along step (fun s a => good s a ∧ good' s a) s as := by
  induction as generalizing s with
  | nil => trivial
  | cons a as ih => exact ⟨⟨h.1,h'.1⟩,fun t ht => ih (h.2 t ht) (h'.2 t ht)⟩

/-- A condition on the labels alone holds along every run of them. -/
theorem along_of_forall {p : α → Prop} {as : List α} (h : ∀ a ∈ as, p a) :
    Along step (fun _ a => p a) s as := by
  induction as generalizing s with
  | nil => trivial
  | cons a as ih =>
    exact ⟨h a List.mem_cons_self,fun _ _ => ih fun b hb => h b (List.mem_cons_of_mem _ hb)⟩

/-- What every good step preserves holds at the end of every run of good steps. -/
theorem execute_invariant (Inv : σ → Prop)
    (hstep : ∀ s a t, Inv s → good s a → step s a = some t → Inv t) {as : List α}
    (hs : Inv s) (hgood : Along step good s as) (hrun : execute step s as = some t) : Inv t := by
  induction as generalizing s with
  | nil => cases hrun; exact hs
  | cons a as ih =>
    obtain ⟨m,hm,hrest⟩ := execute_cons_eq_some.mp hrun
    exact ih (hstep s a m hs hgood.1 hm) (hgood.2 m hm) hrest

/-- What every step preserves holds at the end of every run. -/
theorem execute_preserves (Inv : σ → Prop)
    (hstep : ∀ s a t, Inv s → step s a = some t → Inv t) {as : List α} (hs : Inv s)
    (hrun : execute step s as = some t) : Inv t := by
  induction as generalizing s with
  | nil => cases hrun; exact hs
  | cons a as ih =>
    obtain ⟨m,hm,hrest⟩ := execute_cons_eq_some.mp hrun
    exact ih (hstep s a m hs hm) hrest

/-- A step of the run made something, and every later one kept it. -/
def Since (step : σ → α → Option σ) (makes keeps : σ → α → Prop) (s : σ) (as : List α) : Prop :=
  ∃ before a after m, as = before ++ a::after ∧ execute step s before = some m ∧ makes m a ∧
    ∀ n, step m a = some n → Along step keeps n after

section
variable {makes keeps : σ → α → Prop} {m : σ} {a : α} {as : List α}

theorem not_since_nil : ¬ Since step makes keeps s [] := by
  rintro ⟨before,a,after,m,h,-⟩
  simp at h

/-- The last step made it, or kept what was made before. -/
theorem since_concat (hrun : execute step s as = some m) :
    Since step makes keeps s (as ++ [a]) ↔
      makes m a ∨ keeps m a ∧ Since step makes keeps s as := by
  constructor
  · rintro ⟨before,b,after,n,hsplit,hbefore,hmakes,hafter⟩
    rcases List.eq_nil_or_concat after with rfl | ⟨after,c,rfl⟩
    · obtain ⟨rfl,hlast⟩ := List.append_inj' hsplit rfl
      obtain rfl := List.singleton_inj.mp hlast
      obtain rfl := Option.some.inj (hrun.symm.trans hbefore)
      exact .inl hmakes
    · rw [List.concat_eq_append] at hsplit hafter
      rw [←List.cons_append,←List.append_assoc] at hsplit
      obtain ⟨rfl,hlast⟩ := List.append_inj' hsplit rfl
      obtain rfl := List.singleton_inj.mp hlast
      obtain ⟨n',hn',hrest⟩ := execute_append_eq_some.mp hrun
      obtain rfl := Option.some.inj (hbefore.symm.trans hn')
      obtain ⟨u,hu,hrest⟩ := execute_cons_eq_some.mp hrest
      refine .inr ⟨(along_cons a []).mp ((along_append.mp (hafter u hu)).2 m hrest) |>.1,
        before,b,after,n,rfl,hbefore,hmakes,fun u hu => (along_append.mp (hafter u hu)).1⟩
  · rintro (hmakes | ⟨hkeeps,before,b,after,n,rfl,hbefore,hmakes,hafter⟩)
    · exact ⟨as,a,[],m,rfl,hrun,hmakes,fun _ _ => trivial⟩
    · refine ⟨before,b,after ++ [a],n,by simp,hbefore,hmakes,fun u hu => ?_⟩
      refine along_append.mpr ⟨hafter u hu,fun m' hm' => ?_⟩
      have hwhole : execute step s (before ++ b::after) = some m' :=
        execute_append_eq_some.mpr ⟨n,hbefore,execute_cons_eq_some.mpr ⟨u,hu,hm'⟩⟩
      obtain rfl := Option.some.inj (hrun.symm.trans hwhole)
      exact (along_cons a []).mpr ⟨hkeeps,fun _ _ => trivial⟩

/-- What every step makes or keeps holds after a run if it was made and kept since. -/
theorem holds_iff_since {p : σ → Prop}
    (hstep : ∀ s a t, step s a = some t → (p t ↔ makes s a ∨ keeps s a ∧ p s))
    (hs : ¬ p s) (hrun : execute step s as = some t) :
    p t ↔ Since step makes keeps s as := by
  induction as using List.reverseRecOn generalizing t with
  | nil =>
    cases hrun
    exact iff_of_false hs not_since_nil
  | append_singleton as a ih =>
    obtain ⟨m,hm,hlast⟩ := execute_append_eq_some.mp hrun
    obtain ⟨u,hu,hnil⟩ := execute_cons_eq_some.mp hlast
    obtain rfl := Option.some.inj hnil
    rw [hstep m a u hu,ih hm,since_concat hm]

end

end

/-- What is left when a sequence of units, each of which takes effect as a whole, ends at the
first unit that fails, or is cut off after `n` of them. -/
def cutOff : List (σ → Option σ) → ℕ → σ → σ
  | [],_,s => s
  | _::_,0,s => s
  | unit::units,n+1,s =>
    match unit s with
    | none => s
    | some t => cutOff units n t

@[simp] theorem cutOff_zero (units : List (σ → Option σ)) (s : σ) : cutOff units 0 s = s := by
  cases units <;> rfl

@[simp] theorem cutOff_nil (n : ℕ) (s : σ) : cutOff [] n s = s := rfl

/-- Once a unit has taken effect, it depends on the others where the sequence ends. -/
theorem cutOff_succ_of_some {unit : σ → Option σ} {s t : σ} (h : unit s = some t)
    (units : List (σ → Option σ)) (n : ℕ) : cutOff (unit::units) (n+1) s = cutOff units n t := by
  rw [cutOff,h]

theorem cutOff_succ_of_none {unit : σ → Option σ} {s : σ} (h : unit s = none)
    (units : List (σ → Option σ)) (n : ℕ) : cutOff (unit::units) (n+1) s = s := by
  rw [cutOff,h]

/-- What no unit breaks still holds where the sequence ends. -/
theorem cutOff_invariant {p : σ → Prop} {units : List (σ → Option σ)}
    (hunit : ∀ unit ∈ units, ∀ s t, p s → unit s = some t → p t) (n : ℕ) {s : σ} (hs : p s) :
    p (cutOff units n s) := by
  induction units generalizing n s with
  | nil => rwa [cutOff_nil]
  | cons unit units ih =>
    cases n with
    | zero => rwa [cutOff_zero]
    | succ n =>
      cases h : unit s with
      | none => rwa [cutOff_succ_of_none h]
      | some t =>
        rw [cutOff_succ_of_some h]
        exact ih (fun unit hunits => hunit unit (List.mem_cons_of_mem _ hunits)) n
          (hunit unit List.mem_cons_self s t hs h)

end NamadaIndexer.Foundation.Runs
