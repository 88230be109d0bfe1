import Mathlib.Data.List.Basic
import Mathlib.Data.Option.Basic

/-! Computations that return or panic. A recoverable error is a value of the result type;
a panic ends the computation and everything that waits for it. -/
namespace NamadaIndexer.Foundation

/-- The result of a call: a value, or the message it panicked with. -/
inductive Panicking (α : Type*)
  | returns (a : α)
  | panics (message : String)
  deriving DecidableEq, Repr

namespace Panicking
universe u
variable {α β : Type u}

protected def bind (x : Panicking α) (f : α → Panicking β) : Panicking β :=
  match x with
  | .returns a => f a
  | .panics message => .panics message

instance : Monad Panicking.{u} where
  pure := .returns
  bind := Panicking.bind

@[simp] theorem pure_eq (a : α) : (pure a : Panicking α) = .returns a := rfl
@[simp] theorem returns_bind (a : α) (f : α → Panicking β) : .returns a >>= f = f a := rfl
@[simp] theorem panics_bind (message : String) (f : α → Panicking β) :
    .panics message >>= f = .panics message := rfl
@[simp] theorem map_returns (f : α → β) (a : α) : f <$> Panicking.returns a = .returns (f a) := rfl
@[simp] theorem map_panics (f : α → β) (message : String) :
    f <$> (Panicking.panics message : Panicking α) = .panics message := rfl

instance : LawfulMonad Panicking.{u} :=
  LawfulMonad.mk' _ (fun x => by cases x <;> rfl) (fun _ _ => rfl)
    (fun x _ _ => by cases x <;> rfl)

/-- The call comes back. -/
def Returns (x : Panicking α) : Prop := ∃ a, x = .returns a

@[simp] theorem returns_returns (a : α) : (Panicking.returns a).Returns := ⟨a,rfl⟩

@[simp] theorem not_returns_panics (message : String) :
    ¬ (Panicking.panics message : Panicking α).Returns := by
  rintro ⟨a,h⟩
  contradiction

theorem bind_eq_returns {x : Panicking α} {f : α → Panicking β} {b : β} :
    x >>= f = .returns b ↔ ∃ a, x = .returns a ∧ f a = .returns b := by
  cases x with
  | returns a => simp
  | panics message => simp

theorem map_eq_returns {x : Panicking α} {f : α → β} {b : β} :
    f <$> x = .returns b ↔ ∃ a, x = .returns a ∧ f a = b := by
  cases x with
  | returns a => simp
  | panics message => simp

theorem returns_bind_iff {x : Panicking α} {f : α → Panicking β} :
    (x >>= f).Returns ↔ ∃ a, x = .returns a ∧ (f a).Returns := by
  cases x with
  | returns a => simp
  | panics message => simp

@[simp] theorem returns_map_iff {x : Panicking α} {f : α → β} : (f <$> x).Returns ↔ x.Returns := by
  cases x with
  | returns a => exact ⟨fun _ => ⟨a,rfl⟩,fun _ => ⟨f a,rfl⟩⟩
  | panics message =>
    constructor
    · rintro ⟨b,h⟩; contradiction
    · rintro ⟨a,h⟩; contradiction

/-- `Option::expect`. -/
def expect (message : String) : Option α → Panicking α
  | some a => .returns a
  | none => .panics message

@[simp] theorem expect_some (message : String) (a : α) :
    expect message (some a) = .returns a := rfl

@[simp] theorem expect_none (message : String) :
    expect message (none : Option α) = .panics message := rfl

theorem returns_expect_iff {message : String} {x : Option α} :
    (expect message x).Returns ↔ ∃ a, x = some a := by
  cases x with
  | none => simp
  | some a => simp

theorem expect_eq_returns {message : String} {x : Option α} {a : α} :
    expect message x = .returns a ↔ x = some a := by
  cases x with
  | none => simp
  | some b => simp

/-- A loop returns exactly when every pass returns. -/
theorem returns_mapM_iff {γ : Type*} {f : γ → Panicking α} {l : List γ} :
    (l.mapM f).Returns ↔ ∀ c ∈ l, (f c).Returns := by
  induction l with
  | nil => simp
  | cons c l ih =>
    rw [List.mapM_cons,returns_bind_iff,List.forall_mem_cons,←ih]
    constructor
    · rintro ⟨a,ha,hrest⟩
      obtain ⟨as,has,-⟩ := returns_bind_iff.mp hrest
      exact ⟨⟨a,ha⟩,⟨as,has⟩⟩
    · rintro ⟨⟨a,ha⟩,as,has⟩
      exact ⟨a,ha,returns_bind_iff.mpr ⟨as,has,returns_returns _⟩⟩

theorem mapM_congr {γ : Type*} {f g : γ → Panicking α} {l : List γ} (h : ∀ c ∈ l, f c = g c) :
    l.mapM f = l.mapM g := by
  induction l with
  | nil => rfl
  | cons c l ih =>
    rw [List.mapM_cons,List.mapM_cons,h c List.mem_cons_self,
      ih fun d hd => h d (List.mem_cons_of_mem _ hd)]

/-- A loop collects what its passes return. -/
theorem mem_of_mapM_returns {γ : Type*} {f : γ → Panicking α} {l : List γ} {as : List α}
    (h : l.mapM f = .returns as) {a : α} : a ∈ as ↔ ∃ c ∈ l, f c = .returns a := by
  induction l generalizing as with
  | nil =>
    obtain rfl : [] = as := by simpa using h
    simp
  | cons c l ih =>
    rw [List.mapM_cons] at h
    cases hc : f c with
    | panics message => simp [hc] at h
    | returns b =>
      cases hl : l.mapM f with
      | panics message => simp [hc,hl] at h
      | returns bs =>
        obtain rfl : b :: bs = as := by simpa [hc,hl] using h
        rw [List.mem_cons,ih hl]
        simp [hc,eq_comm]

/-- The value of a call that returns. -/
def getD (x : Panicking α) (otherwise : α) : α :=
  match x with
  | .returns a => a
  | .panics _ => otherwise

/-- What a loop returns, pass by pass. -/
theorem exists_map_of_mapM_returns {γ : Type*} [Inhabited α] {f : γ → Panicking α} {l : List γ}
    {as : List α} (h : l.mapM f = .returns as) :
    ∃ g : γ → α, (∀ c ∈ l, f c = .returns (g c)) ∧ as = l.map g := by
  refine ⟨fun c => (f c).getD default,?_⟩
  induction l generalizing as with
  | nil =>
    obtain rfl : [] = as := by simpa using h
    exact ⟨by simp,rfl⟩
  | cons c l ih =>
    rw [List.mapM_cons] at h
    obtain ⟨b,hb,h⟩ := bind_eq_returns.mp h
    obtain ⟨bs,hbs,h⟩ := bind_eq_returns.mp h
    obtain rfl : b :: bs = as := by simpa using h
    obtain ⟨hrest,rfl⟩ := ih hbs
    have hfirst : (f c).getD default = b := by rw [hb,getD]
    rw [List.map_cons,hfirst]
    exact ⟨List.forall_mem_cons.mpr ⟨hb.trans (congrArg _ hfirst.symm),hrest⟩,rfl⟩

/-- A fallible computation with a value went through each of its parts with a value. -/
theorem run_bind_eq_ok {ε α β : Type} {x : ExceptT ε Panicking α} {f : α → ExceptT ε Panicking β}
    {b : β} :
    (x >>= f).run = .returns (.ok b) ↔
      ∃ a, x.run = .returns (.ok a) ∧ (f a).run = .returns (.ok b) := by
  rw [ExceptT.run_bind,bind_eq_returns]
  constructor
  · rintro ⟨r,hr,hf⟩
    cases r with
    | ok a => exact ⟨a,hr,hf⟩
    | error e => cases hf
  · rintro ⟨a,ha,hf⟩
    exact ⟨.ok a,ha,hf⟩

theorem run_pure_eq_ok {ε α : Type} {a b : α} :
    (pure a : ExceptT ε Panicking α).run = .returns (.ok b) ↔ a = b := by
  change Panicking.returns (Except.ok a) = .returns (.ok b) ↔ _
  simp

theorem run_lift_eq_ok {ε α : Type} {x : Panicking α} {a : α} :
    (ExceptT.lift x : ExceptT ε Panicking α).run = .returns (.ok a) ↔ x = .returns a := by
  cases x with
  | panics message =>
    refine ⟨fun h => ?_,fun h => by contradiction⟩
    cases h
  | returns b =>
    change Panicking.returns (Except.ok b) = .returns (.ok a) ↔ _
    simp

/-- `Result::expect` -/
def expectOk (message : String) : Except String α → Panicking α
  | .ok a => .returns a
  | .error e => .panics (message ++ ": " ++ e)

theorem expectOk_eq_returns {message : String} {x : Except String α} {a : α} :
    expectOk message x = .returns a ↔ x = .ok a := by
  cases x with
  | ok b => simp [expectOk]
  | error e => simp [expectOk]

theorem returns_expectOk_iff {message : String} {x : Except String α} :
    (expectOk message x).Returns ↔ ∃ a, x = .ok a := by
  cases x with
  | ok a => simp [expectOk]
  | error e => simp [expectOk]

end Panicking

/-- A fallible function that may also panic. -/
abbrev Fallible := ExceptT String Panicking

/-- A call inside a fallible function that may panic but not fail. -/
def orPanic {α : Type} (x : Panicking α) : Fallible α := ExceptT.lift x

/-- `Result::context` on an optional value -/
def context {α : Type} (message : String) : Option α → Except String α
  | some a => .ok a
  | none => .error message

theorem context_eq_ok_iff {α : Type} {message : String} {x : Option α} {a : α} :
    context message x = .ok a ↔ x = some a := by
  cases x with
  | none => simp [context]
  | some b => simp [context]

namespace Fallible
variable {α β : Type} {f : α → Fallible β}

/-- The function comes back, with a value or with an error. -/
def Returns (x : Fallible α) : Prop := x.run.Returns

/-- The function comes back with a value. -/
def Succeeds (x : Fallible α) : Prop := ∃ a, x.run = .returns (.ok a)

@[simp] theorem returns_pure (a : α) : Returns (pure a : Fallible α) := ⟨.ok a,rfl⟩

theorem returns_map_iff {g : α → β} {x : Fallible α} : Returns (g <$> x) ↔ Returns x := by
  rw [Returns,ExceptT.run_map,Panicking.returns_map_iff,Returns]

@[simp] theorem returns_throw (e : String) : Returns (throw e : Fallible α) := ⟨.error e,rfl⟩

@[simp] theorem succeeds_pure (a : α) : Succeeds (pure a : Fallible α) := ⟨a,rfl⟩

/-- An error ends the function, so what follows only has to return after a value. -/
theorem returns_bind_iff {x : Fallible α} :
    Returns (x >>= f) ↔ Returns x ∧ ∀ a, x.run = .returns (.ok a) → Returns (f a) := by
  rw [Returns,ExceptT.run_bind,Panicking.returns_bind_iff,Returns]
  constructor
  · rintro ⟨r,hr,hf⟩
    refine ⟨⟨r,hr⟩,?_⟩
    intro a ha
    obtain rfl : r = .ok a := by simpa [hr] using ha
    exact hf
  · rintro ⟨⟨r,hr⟩,hf⟩
    refine ⟨r,hr,?_⟩
    cases r with
    | ok a => exact hf a hr
    | error e => exact ⟨.error e,rfl⟩

/-- The same when what follows returns or not whatever the value is. -/
theorem returns_bind_iff_of_const {x : Fallible α} {P : Prop} (hf : ∀ a, Returns (f a) ↔ P) :
    Returns (x >>= f) ↔ Returns x ∧ (Succeeds x → P) := by
  rw [returns_bind_iff]
  constructor
  · rintro ⟨hx,h⟩
    refine ⟨hx,?_⟩
    rintro ⟨a,ha⟩
    exact (hf a).mp (h a ha)
  · rintro ⟨hx,h⟩
    exact ⟨hx,fun a ha => (hf a).mpr (h ⟨a,ha⟩)⟩

@[simp] theorem not_returns_orPanic_panics (message : String) :
    ¬ Returns (orPanic (.panics message) : Fallible α) := by
  rintro ⟨r,h⟩
  change Panicking.panics message = .returns r at h
  contradiction

theorem returns_orPanic_bind_iff {x : Panicking α} :
    Returns (orPanic x >>= f) ↔ ∃ a, x = .returns a ∧ Returns (f a) := by
  cases x with
  | returns a =>
    change Returns (f a) ↔ _
    simp
  | panics message =>
    change (Panicking.panics message).Returns ↔ _
    simp

theorem succeeds_orPanic_bind_iff {x : Panicking α} :
    Succeeds (orPanic x >>= f) ↔ ∃ a, x = .returns a ∧ Succeeds (f a) := by
  cases x with
  | returns a =>
    change Succeeds (f a) ↔ _
    simp
  | panics message =>
    change (∃ b, Panicking.panics message = .returns (Except.ok b)) ↔ _
    simp

theorem returns_except_bind_iff {x : Except String α} :
    Returns ((liftM x : Fallible α) >>= f) ↔ ∀ a, x = .ok a → Returns (f a) := by
  cases x with
  | ok a =>
    change Returns (f a) ↔ _
    simp
  | error e =>
    change (Panicking.returns (Except.error e : Except String β)).Returns ↔ _
    simp

theorem succeeds_except_bind_iff {x : Except String α} :
    Succeeds ((liftM x : Fallible α) >>= f) ↔ ∃ a, x = .ok a ∧ Succeeds (f a) := by
  cases x with
  | ok a =>
    change Succeeds (f a) ↔ _
    simp
  | error e =>
    change (∃ b, Panicking.returns (Except.error e : Except String β) = .returns (.ok b)) ↔ _
    simp

theorem except_bind_congr {x : Except String α} {g : α → Fallible β}
    (h : ∀ a, x = .ok a → f a = g a) :
    (liftM x : Fallible α) >>= f = (liftM x : Fallible α) >>= g := by
  cases x with
  | ok a => exact h a rfl
  | error e => rfl

end Fallible
end NamadaIndexer.Foundation
