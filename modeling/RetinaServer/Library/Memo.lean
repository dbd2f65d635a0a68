import RetinaServer.Library.Dict
import RetinaServer.Library.Runs

/-! A memo table: under each key the value that was last built there, with a fingerprint of what it was
built from. A call whose fingerprint is the one under its key is answered from the table. -/
namespace Memo
open Runs

variable {ι : Type u} {κ : Type v} {φ : Type w} {α : Type x} [DecidableEq κ] [DecidableEq φ]

abbrev Table (κ : Type v) (φ : Type w) (α : Type x) := Dict κ (φ × α)

/-- A call, or an eviction of the keys that are not kept. -/
inductive Event (ι : Type u) (κ : Type v) where
  | call (i : ι)
  | evict (keep : κ → Bool)

variable (key : ι → κ) (fp : ι → φ) (build : ι → α)

def hit (t : Table κ φ α) (i : ι) : Option α :=
  ((t.get? (key i)).filter fun entry => decide (entry.1 = fp i)).map Prod.snd

def answer (t : Table κ φ α) (i : ι) : α := (hit key fp t i).getD (build i)

def step (t : Table κ φ α) : Event ι κ → Table κ φ α
  | .call i => if (hit key fp t i).isSome then t else t.insert (key i) (fp i, build i)
  | .evict keep => t.filter fun k _ => keep k

/-- What makes the value built for `i` leave the table. -/
def Ends (i : ι) : Event ι κ → Prop
  | .call j => key j = key i ∧ fp j ≠ fp i
  | .evict keep => keep (key i) = false

/-- The call `i'` came under the key and fingerprint of `i`, and nothing has since made its value leave. -/
def Since (events : List (Event ι κ)) (i i' : ι) : Prop :=
  key i' = key i ∧ fp i' = fp i ∧ ∃ before after, events = before ++ .call i' :: after ∧ ∀ e ∈ after, ¬ Ends key fp i' e

variable {key : ι → κ} {fp : ι → φ} {build : ι → α}

omit [DecidableEq κ] [DecidableEq φ] in
theorem Since.append (since : Since key fp events i i') (stays : ¬ Ends key fp i' e) : Since key fp (events ++ [e]) i i' := by
  obtain ⟨keyed, marked, before, after, rfl, kept⟩ := since
  refine ⟨keyed, marked, before, after ++ [e], by simp, ?_⟩
  intro e' listed
  rcases List.mem_append.mp listed with earlier | last
  · exact kept e' earlier
  · exact List.mem_singleton.mp last ▸ stays

omit [DecidableEq κ] [DecidableEq φ] in
theorem since_last (events : List (Event ι κ)) (i : ι) : Since key fp (events ++ [.call i]) i i :=
  ⟨rfl, rfl, events, [], rfl, fun _ listed => absurd listed List.not_mem_nil⟩

theorem hit_eq_some {t : Table κ φ α} : hit key fp t i = some v ↔ t.get? (key i) = some (fp i, v) := by
  rw [hit, Option.map_eq_some_iff]
  constructor
  · rintro ⟨entry, found, rfl⟩
    obtain ⟨held, same⟩ := Option.filter_eq_some_iff.mp found
    rw [held, ← of_decide_eq_true same]
  · intro held
    exact ⟨(fp i, v), Option.filter_eq_some_iff.mpr ⟨held, decide_eq_true rfl⟩, rfl⟩

/-- Every value in the table was built for a call since which it has stood. -/
theorem built_since (events : List (Event ι κ)) :
    ∀ i v, hit key fp (run (step key fp build) .empty events) i = some v → ∃ i', Since key fp events i i' ∧ v = build i' := by
  induction events using List.reverseRecOn with
  | nil =>
    intro i v found
    rw [run_nil, hit_eq_some] at found
    cases found
  | append_singleton events e ih =>
    intro i v found
    rw [run_append, run_cons, run_nil, hit_eq_some] at found
    generalize run (step key fp build) .empty events = t at found ih
    -- A value that was there before has its call there; what remains is that the event does not end it.
    have kept (held : t.get? (key i) = some (fp i, v)) (stays : ∀ i', key i' = key i → fp i' = fp i → ¬ Ends key fp i' e) :
        ∃ i', Since key fp (events ++ [e]) i i' ∧ v = build i' := by
      obtain ⟨i', since, built⟩ := ih i v (hit_eq_some.mpr held)
      exact ⟨i', since.append (stays i' since.1 since.2.1), built⟩
    cases e with
    | call j =>
      rw [step] at found
      by_cases known : (hit key fp t j).isSome = true
      · rw [if_pos known] at found
        refine kept found fun i' keyed marked ends => ?_
        obtain ⟨w, there⟩ := Option.isSome_iff_exists.mp known
        rw [hit_eq_some, ends.1, keyed, found] at there
        exact ends.2 ((Prod.mk.inj (Option.some.inj there)).1.symm.trans marked.symm)
      · rw [if_neg known, Dict.get?_insert] at found
        split at found
        · rename_i same
          obtain ⟨marked, rfl⟩ := Prod.mk.inj (Option.some.inj found)
          have last : Since key fp (events ++ [.call j]) j j := since_last events j
          exact ⟨j, ⟨same, marked, last.2.2⟩, rfl⟩
        · rename_i other
          exact kept found fun i' keyed _ ends => other (ends.1.trans keyed)
    | evict keep =>
      rw [step] at found
      obtain ⟨held, spared⟩ := Dict.get?_filter_some found
      refine kept held fun i' keyed _ ends => ?_
      have gone : keep (key i') = false := ends
      rw [keyed, spared] at gone
      cases gone

/-- An answer is built for the call, or was built for one since which it has stood. -/
theorem answer_built (events : List (Event ι κ)) (i : ι) :
    ∃ i', (i' = i ∨ Since key fp events i i') ∧ answer key fp build (run (step key fp build) .empty events) i = build i' := by
  rw [answer]
  cases found : hit key fp (run (step key fp build) .empty events) i with
  | none => exact ⟨i, .inl rfl, rfl⟩
  | some v =>
    obtain ⟨i', since, built⟩ := built_since events i v found
    exact ⟨i', .inr since, built⟩

end Memo
