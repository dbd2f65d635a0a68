import RetinaServer.Library.Dict
import Mathlib.Data.List.Chain

/-! Streaks of the events of a key. A store keeps for each key how many events in a
row have come near one another, and when the last one was; an event that is not
near the last begins a new streak, and a store may drop what it likes. What the
store counts is a run of events of the log. -/
namespace Streak

structure Entry (τ : Type v) where
  count : Nat
  last : τ
deriving DecidableEq, Repr

variable {κ : Type u} {τ : Type v} {near : τ → τ → Prop}

/-- The length of the streak that an event continues or begins. -/
def next (near : τ → τ → Prop) [DecidableRel near] (entry : Option (Entry τ)) (t : τ) : Nat :=
  match entry with
  | some e => if near e.last t then e.count + 1 else 1
  | none => 1

/-- `n` of the times in a row, each near the one before it and the last of them `t`. -/
def Run (near : τ → τ → Prop) (times : List τ) (n : Nat) (t : τ) : Prop :=
  ∃ chain : List τ, chain.Sublist times ∧ chain.length = n ∧ chain.IsChain near ∧ chain.getLast? = some t

theorem Run.mono (run : Run near times n t) (more : times.Sublist times') : Run near times' n t := by
  obtain ⟨chain, sub, rest⟩ := run
  exact ⟨chain, sub.trans more, rest⟩

theorem Run.single (times : List τ) (t : τ) : Run near (times ++ [t]) 1 t :=
  ⟨[t], List.sublist_append_right times [t], rfl, List.isChain_singleton t, rfl⟩

theorem Run.snoc (run : Run near times n s) (close : near s t) : Run near (times ++ [t]) (n + 1) t := by
  obtain ⟨chain, sub, length, linked, last⟩ := run
  refine ⟨chain ++ [t], sub.append_right [t], by simp [length], ?_, by simp⟩
  refine linked.append (List.isChain_singleton t) ?_
  intro x lastOf y headOf
  obtain rfl : s = x := by simpa [last] using lastOf
  obtain rfl : t = y := by simpa using headOf
  exact close

variable [DecidableEq κ]

/-- When the events of a key were. -/
def timesOf (log : List (κ × τ)) (key : κ) : List τ := (log.filter fun event => decide (event.1 = key)).map Prod.snd

theorem timesOf_append (log later : List (κ × τ)) (key : κ) :
    timesOf (log ++ later) key = timesOf log key ++ timesOf later key := by
  simp [timesOf]

@[simp] theorem timesOf_single (key : κ) (t : τ) : timesOf [(key, t)] key = [t] := by simp [timesOf]

/-- Every streak of the store is a run of the log. -/
def Tallied (near : τ → τ → Prop) (store : Dict κ (Entry τ)) (log : List (κ × τ)) : Prop :=
  ∀ key e, store.get? key = some e → Run near (timesOf log key) e.count e.last

theorem tallied_empty (log : List (κ × τ)) : Tallied near Dict.empty log := by
  intro key e found
  rw [Dict.get?_empty] at found
  cases found

variable {store : Dict κ (Entry τ)} {log : List (κ × τ)}

theorem Tallied.mono (tallied : Tallied near store log) (later : List (κ × τ)) : Tallied near store (log ++ later) := by
  intro key e found
  rw [timesOf_append]
  exact (tallied key e found).mono (List.sublist_append_left _ _)

/-- What an event is counted as is the run that it ends. -/
theorem Tallied.run_next [DecidableRel near] (tallied : Tallied near store log) (key : κ) (t : τ) :
    Run near (timesOf (log ++ [(key, t)]) key) (next near (store.get? key) t) t := by
  rw [timesOf_append, timesOf_single]
  cases found : store.get? key with
  | none => exact .single _ t
  | some e =>
    rw [next]
    split
    · exact (tallied key e found).snoc ‹_›
    · exact .single _ t

/-- A store that holds no streak but the one of the event and some it held before keeps its tally. -/
theorem Tallied.touch [DecidableRel near] {store' : Dict κ (Entry τ)} (tallied : Tallied near store log)
    (entries : ∀ key' e, store'.get? key' = some e →
      (key' = key ∧ e = ⟨next near (store.get? key) t, t⟩) ∨ store.get? key' = some e) :
    Tallied near store' (log ++ [(key, t)]) := by
  intro key' e found
  rcases entries key' e found with ⟨rfl, rfl⟩ | kept
  · exact tallied.run_next key' t
  · exact tallied.mono [(key, t)] key' e kept

end Streak
