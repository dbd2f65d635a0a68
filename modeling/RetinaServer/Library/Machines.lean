import RetinaServer.Library.Runs
import Mathlib.Data.Sigma.Basic
import Mathlib.Logic.Function.Basic

/-! Machines seen from outside. Two states are alike when no run of admitted
events shows a difference between them; machines that stand side by side, each
event going to one of them, are alike exactly when each is. -/
namespace Machines
open Runs

/-- A step, and what an event shows of the state it meets. -/
structure Machine (σ : Type u) (ε : Type v) (ο : Type w) where
  step : σ → ε → σ
  shown : σ → ε → ο

section
variable {σ : Type u} {ε : Type v} {ο : Type w} (m : Machine σ ε ο) {admitted : ε → Prop} {s s' : σ}

def trace : σ → List ε → List ο
  | _, [] => []
  | s, e :: rest => m.shown s e :: trace (m.step s e) rest

def Alike (admitted : ε → Prop) (s s' : σ) : Prop :=
  ∀ events : List ε, (∀ e ∈ events, admitted e) → trace m s events = trace m s' events

variable {m}

theorem Alike.refl (s : σ) : Alike m admitted s s := fun _ _ => rfl

theorem Alike.shown (alike : Alike m admitted s s') (admits : admitted e) : m.shown s e = m.shown s' e := by
  have same := alike [e] fun other listed => by rwa [List.mem_singleton.mp listed]
  exact (List.cons.inj same).1

theorem Alike.step (alike : Alike m admitted s s') (admits : admitted e) : Alike m admitted (m.step s e) (m.step s' e) := by
  intro events all
  have same := alike (e :: events) (List.forall_mem_cons.mpr ⟨admits, all⟩)
  exact (List.cons.inj same).2

theorem Alike.run (alike : Alike m admitted s s') (all : ∀ e ∈ events, admitted e) :
    Alike m admitted (run m.step s events) (run m.step s' events) := by
  induction events generalizing s s' with
  | nil => exact alike
  | cons e rest ih =>
    obtain ⟨here, later⟩ := List.forall_mem_cons.mp all
    exact ih (alike.step here) later

/-- The simulation rule: related states show the same and step to related states. -/
theorem alike_of_related (R : σ → σ → Prop)
    (shows : ∀ s s' e, R s s' → admitted e → m.shown s e = m.shown s' e)
    (keeps : ∀ s s' e, R s s' → admitted e → R (m.step s e) (m.step s' e))
    (related : R s s') : Alike m admitted s s' := by
  intro events all
  induction events generalizing s s' with
  | nil => rfl
  | cons e rest ih =>
    obtain ⟨here, later⟩ := List.forall_mem_cons.mp all
    rw [trace, trace, shows s s' e related here, ih (keeps s s' e related here) later]

end

/-! ### Side by side -/

section
variable {ι : Type u} [DecidableEq ι] {σ : ι → Type v} {ε : ι → Type w} {ο : ι → Type x}

def beside (m : ∀ i, Machine (σ i) (ε i) (ο i)) : Machine (∀ i, σ i) (Σ i, ε i) (Σ i, ο i) where
  step s e := Function.update s e.1 ((m e.1).step (s e.1) e.2)
  shown s e := ⟨e.1, (m e.1).shown (s e.1) e.2⟩

variable (m : ∀ i, Machine (σ i) (ε i) (ο i))

/-- A machine on its own runs as it does among the others. -/
theorem trace_beside (s : ∀ i, σ i) (i : ι) (events : List (ε i)) :
    trace (beside m) s (events.map (Sigma.mk i)) = (trace (m i) (s i) events).map (Sigma.mk i) := by
  induction events generalizing s with
  | nil => rfl
  | cons e rest ih =>
    simp only [List.map_cons, trace]
    rw [ih]
    simp only [beside, Function.update_self]

theorem alike_beside_iff {admitted : (Σ i, ε i) → Prop} {s s' : ∀ i, σ i} :
    Alike (beside m) admitted s s' ↔ ∀ i, Alike (m i) (fun e => admitted ⟨i, e⟩) (s i) (s' i) := by
  constructor
  · intro alike i events all
    have same := alike (events.map (Sigma.mk i)) fun e listed => by
      obtain ⟨e', member, rfl⟩ := List.mem_map.mp listed
      exact all e' member
    rw [trace_beside, trace_beside] at same
    exact List.map_injective_iff.mpr sigma_mk_injective same
  · refine alike_of_related (fun (s s' : ∀ i, σ i) => ∀ i, Alike (m i) (fun e => admitted ⟨i, e⟩) (s i) (s' i)) ?_ ?_
    · rintro s s' ⟨i, e⟩ each admits
      exact congrArg (Sigma.mk i) ((each i).shown admits)
    · rintro s s' ⟨i, e⟩ each admits j
      by_cases same : j = i
      · subst same
        simp only [beside, Function.update_self]
        exact (each j).step admits
      · simp only [beside, Function.update_of_ne same]
        exact each j

/-- What each machine keeps, all of them keep. -/
theorem invariant_beside {I : ∀ i, σ i → Prop} (kept : ∀ i s e, I i s → I i ((m i).step s e)) {s : ∀ i, σ i}
    (holds : ∀ i, I i (s i)) (e : Σ i, ε i) : ∀ i, I i ((beside m).step s e i) := by
  intro j
  by_cases same : j = e.1
  · subst same
    simp only [beside, Function.update_self]
    exact kept _ _ _ (holds _)
  · simp only [beside, Function.update_of_ne same]
    exact holds j

end
end Machines
