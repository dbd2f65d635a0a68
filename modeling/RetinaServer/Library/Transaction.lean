import Mathlib.Control.Basic
import Mathlib.Data.List.Basic

/-! Transactions. A session holds what is committed and what its open transaction has made of it. An exception leaves
the session as it stands, a savepoint undoes what was written inside it, and a session that ends without a commit has
written nothing. -/

structure Session (σ : Type u) where
  committed : σ
  working : σ

/-- Code that runs in a session: it answers or raises. -/
def Transaction (σ ε α : Type u) := Session σ → Except ε α × Session σ

namespace Transaction

variable {σ ε α β : Type u}

def run (t : Transaction σ ε α) (s : Session σ) : Except ε α × Session σ := t s

instance : Monad (Transaction σ ε) where
  pure a := fun s => (.ok a, s)
  bind t f := fun s => match t s with
    | (.ok a, s) => f a s
    | (.error e, s) => (.error e, s)

def raise (e : ε) : Transaction σ ε α := fun s => (.error e, s)

def query (f : σ → α) : Transaction σ ε α := fun s => (.ok (f s.working), s)

def write (f : σ → σ) : Transaction σ ε PUnit := fun s => (.ok ⟨⟩, { s with working := f s.working })

def commit : Transaction σ ε PUnit := fun s => (.ok ⟨⟩, { s with committed := s.working })

def rollback : Transaction σ ε PUnit := fun s => (.ok ⟨⟩, { s with working := s.committed })

/-- A savepoint. -/
def nested (t : Transaction σ ε α) : Transaction σ ε α := fun s => match t s with
  | (.ok a, s') => (.ok a, s')
  | (.error e, s') => (.error e, { s' with working := s.working })

/-- The caller commits what the code wrote where it answers. -/
def committing (t : Transaction σ ε α) : Transaction σ ε α := t >>= fun a => commit >>= fun _ => pure a

/-- A session of its own, closed at the end. -/
def perform (t : Transaction σ ε α) (db : σ) : Except ε α × σ :=
  let (answer, s) := t.run ⟨db, db⟩
  (answer, s.committed)

section
variable (s : Session σ)

@[simp] theorem run_pure (a : α) : (pure a : Transaction σ ε α).run s = (.ok a, s) := rfl

theorem run_bind (t : Transaction σ ε α) (f : α → Transaction σ ε β) :
    (t >>= f).run s = match t.run s with
      | (.ok a, s) => (f a).run s
      | (.error e, s) => (.error e, s) := rfl

@[simp] theorem run_write (f : σ → σ) :
    (write f : Transaction σ ε PUnit).run s = (.ok ⟨⟩, { s with working := f s.working }) := rfl

end

theorem run_bind_query (g : σ → α) (f : α → Transaction σ ε β) (s : Session σ) :
    (query g >>= f).run s = (f (g s.working)).run s := rfl

theorem run_bind_write (g : σ → σ) (f : PUnit → Transaction σ ε β) (s : Session σ) :
    (write g >>= f).run s = (f ⟨⟩).run { s with working := g s.working } := rfl

theorem run_bind_ok {t : Transaction σ ε α} (f : α → Transaction σ ε β) (answered : t.run s = (.ok a, s')) :
    (t >>= f).run s = (f a).run s' := by
  rw [run_bind, answered]

theorem run_bind_error {t : Transaction σ ε α} (f : α → Transaction σ ε β) (raised : t.run s = (.error e, s')) :
    (t >>= f).run s = (.error e, s') := by
  rw [run_bind, raised]

theorem run_nested_ok {t : Transaction σ ε α} (answered : t.run s = (.ok a, s')) : (nested t).run s = (.ok a, s') := by
  simp only [nested, run] at answered ⊢
  rw [answered]

theorem run_nested_error {t : Transaction σ ε α} (raised : t.run s = (.error e, s')) :
    (nested t).run s = (.error e, { s' with working := s.working }) := by
  simp only [nested, run] at raised ⊢
  rw [raised]

theorem run_bind_eq_ok {t : Transaction σ ε α} {f : α → Transaction σ ε β} :
    (t >>= f).run s = (.ok b, s'') ↔ ∃ a s', t.run s = (.ok a, s') ∧ (f a).run s' = (.ok b, s'') := by
  rcases ran : t.run s with ⟨e | a, s'⟩
  · rw [run_bind_error f ran]
    simp
  · rw [run_bind_ok f ran]
    constructor
    · intro answered
      exact ⟨a, s', rfl, answered⟩
    · rintro ⟨a', s₁, same, answered⟩
      cases same
      exact answered

theorem run_nested_eq_ok {t : Transaction σ ε α} : (nested t).run s = (.ok a, s') ↔ t.run s = (.ok a, s') := by
  simp only [nested, run]
  rcases t s with ⟨_ | a', s''⟩ <;> simp

/-! ### Code that commits nothing -/

def Uncommitting (t : Transaction σ ε α) : Prop := ∀ s, (t.run s).2.committed = s.committed

theorem uncommitting_pure (a : α) : (pure a : Transaction σ ε α).Uncommitting := fun _ => rfl

theorem uncommitting_raise (e : ε) : (raise e : Transaction σ ε α).Uncommitting := fun _ => rfl

theorem uncommitting_query (f : σ → α) : (query f : Transaction σ ε α).Uncommitting := fun _ => rfl

theorem uncommitting_write (f : σ → σ) : (write f : Transaction σ ε PUnit).Uncommitting := fun _ => rfl

theorem uncommitting_bind {t : Transaction σ ε α} {f : α → Transaction σ ε β} (first : t.Uncommitting)
    (later : ∀ a, (f a).Uncommitting) : (t >>= f).Uncommitting := by
  intro s
  have kept := first s
  rcases ran : t.run s with ⟨_ | a, s'⟩
  · rw [ran] at kept
    rw [run_bind_error f ran]
    exact kept
  · rw [ran] at kept
    rw [run_bind_ok f ran]
    exact (later a s').trans kept

theorem uncommitting_nested {t : Transaction σ ε α} (inner : t.Uncommitting) : (nested t).Uncommitting := by
  intro s
  have kept := inner s
  rcases ran : t.run s with ⟨_ | a, s'⟩
  · rw [ran] at kept
    rw [run_nested_error ran]
    exact kept
  · rw [ran] at kept
    rw [run_nested_ok ran]
    exact kept

theorem perform_of_uncommitting {t : Transaction σ ε α} (uncommitting : t.Uncommitting) (db : σ) :
    (t.perform db).2 = db :=
  uncommitting ⟨db, db⟩

/-- All of what the code wrote where it answers, none of it where it raises. -/
theorem perform_committing {t : Transaction σ ε α} (uncommitting : t.Uncommitting) (db : σ) :
    (committing t).perform db =
      match t.run ⟨db, db⟩ with
      | (.ok a, s) => (.ok a, s.working)
      | (.error e, _) => (.error e, db) := by
  have kept := uncommitting ⟨db, db⟩
  simp only [perform, committing]
  rcases ran : t.run ⟨db, db⟩ with ⟨_ | a, s⟩
  · rw [ran] at kept
    rw [run_bind_error _ ran]
    exact Prod.ext rfl kept
  · rw [run_bind_ok _ ran]
    rfl

theorem perform_committing_error {t : Transaction σ ε α} (uncommitting : t.Uncommitting)
    (raised : ((committing t).perform db).1 = .error e) : ((committing t).perform db).2 = db := by
  rw [perform_committing uncommitting] at raised ⊢
  rcases ran : t.run ⟨db, db⟩ with ⟨_ | a, s⟩
  · rfl
  · rw [ran] at raised
    cases raised

end Transaction

/-! Writes applied one after the other, each made from an input that may not convert. What has been written by the
time one does not convert stays written. -/
namespace Staged

variable {σ : Type u}

/-- What a write comes to, or nothing where its input does not convert. -/
abbrev Write (σ : Type u) := Option (σ → σ)

structure Run (σ : Type u) where
  state : σ
  applied : Nat
  raised : Bool

def apply : List (Write σ) → σ → Run σ
  | [], s => ⟨s, 0, false⟩
  | none :: _, s => ⟨s, 0, true⟩
  | some write :: rest, s =>
      let later := apply rest (write s)
      { later with applied := later.applied + 1 }

theorem raised_iff (writes : List (Write σ)) (s : σ) : (apply writes s).raised = true ↔ none ∈ writes := by
  induction writes generalizing s with
  | nil => simp [apply]
  | cons first rest ih =>
    cases first with
    | none => simp [apply]
    | some write => simpa [apply] using ih (write s)

theorem state_of_unapplied {writes : List (Write σ)} {s : σ} (unapplied : (apply writes s).applied = 0) :
    (apply writes s).state = s := by
  cases writes with
  | nil => rfl
  | cons first rest =>
    cases first with
    | none => rfl
    | some write => cases unapplied

/-- Either all is written or nothing exactly when everything converts, or already the first does not. -/
theorem whole_iff (writes : List (Write σ)) (s : σ) :
    ((apply writes s).raised = true → (apply writes s).applied = 0) ↔ none ∉ writes ∨ writes.head? = some none := by
  rw [raised_iff]
  cases writes with
  | nil => simp [apply]
  | cons first rest =>
    cases first with
    | none => simp [apply]
    | some write => simp [apply]

end Staged
