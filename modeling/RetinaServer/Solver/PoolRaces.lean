import RetinaServer.Library.Runs
import Mathlib.Logic.Function.Basic
import Mathlib.Data.List.Nodup

/-! The solver's process pool under any number of worker threads: a call reads the pool, submits to it and waits, and a
thread whose wait fails replaces the pool under the lock. The reads and the submits take no lock. -/
namespace Retina.SolverPool
open Runs

/-- What a run of the submitted function comes to. -/
inductive Ran (α ε : Type*) where
  | value (a : α)
  | raised (e : ε)

/-- What `future.result` comes to. -/
inductive Waited (α ε : Type*) where
  | ran (r : Ran α ε)
  | timeout
  | broken
  | cancelled

/-- What a call comes to: what the function does, or an exception of the executor. -/
inductive Answer (α ε : Type*) where
  | own (r : Ran α ε)
  /-- `RuntimeError`: the pool takes no more. -/
  | refused
  | cancelled

/-- Where a thread is in `_pool_call`. -/
inductive Phase (α ε : Type*) where
  | idle
  | called
  | holding (pool : Nat)
  | waiting (pool : Nat)
  | failed (pool : Nat)
  | inline
  | done (answer : Answer α ε)

/-- A pool is its number, in the order in which they are made. -/
structure Pools (τ α ε : Type*) where
  current : Option Nat
  made : Nat
  shut : List Nat
  broken : List Nat
  /-- Taken off by `stop_pool`. -/
  detached : List Nat
  cancelled : List Nat
  replaced : List Nat
  phases : τ → Phase α ε
  stopRan : Bool
  /-- Stopped, and not started since. -/
  stopped : Bool

def Pools.boot {τ α ε : Type*} : Pools τ α ε := ⟨none, 0, [], [], [], [], [], fun _ => .idle, false, false⟩

inductive Event (τ α ε : Type*) where
  | call (t : τ)
  | read (t : τ)
  | submit (t : τ)
  | outcome (t : τ) (w : Waited α ε)
  /-- `_replace_solver_pool`; a new pool may fail to be made. -/
  | replace (t : τ) (made : Bool)
  | inline (t : τ) (r : Ran α ε)
  /-- What `start_pool` does under the lock. -/
  | start (enabled made : Bool)
  /-- What `stop_pool` does under the lock. -/
  | stop
  /-- And what it does after it. -/
  | shutDown (pool : Nat)
  | breaks (pool : Nat)

section
variable {τ α ε : Type*} [DecidableEq τ] (caught : ε → Bool)

def Pools.turn (s : Pools τ α ε) (t : τ) (phase : Phase α ε) : Pools τ α ε :=
  { s with phases := Function.update s.phases t phase }

/-- A fresh pool in place of whatever there was. -/
def Pools.make (s : Pools τ α ε) (made : Bool) : Pools τ α ε :=
  if made then { s with current := some s.made, made := s.made + 1 } else { s with current := none }

/-- `pool.submit`: a broken pool says so, and one that is shut down refuses. -/
def Pools.submit (s : Pools τ α ε) (t : τ) (pool : Nat) : Pools τ α ε :=
  if pool ∈ s.broken then s.turn t (.failed pool)
  else if pool ∈ s.shut then s.turn t (.done .refused)
  else s.turn t (.waiting pool)

/-- The handlers take a timeout of the function itself for one of the wait. -/
def Pools.outcome (s : Pools τ α ε) (t : τ) (pool : Nat) : Waited α ε → Pools τ α ε
  | .ran (.value a) => s.turn t (.done (.own (.value a)))
  | .ran (.raised e) => s.turn t (if caught e then .failed pool else .done (.own (.raised e)))
  | .timeout => s.turn t (.failed pool)
  | .broken => if pool ∈ s.broken then s.turn t (.failed pool) else s
  | .cancelled => if pool ∈ s.cancelled then s.turn t (.done .cancelled) else s

/-- Whoever comes first swaps the pool, and a later one finds it moved on. -/
def replaceSolverPool (s : Pools τ α ε) (pool : Nat) (made : Bool) : Pools τ α ε :=
  if s.current = some pool then { s.make made with shut := pool :: s.shut, replaced := pool :: s.replaced } else s

def poolStep (s : Pools τ α ε) : Event τ α ε → Pools τ α ε
  | .call t => match s.phases t with
      | .idle | .done _ => s.turn t .called
      | _ => s
  | .read t => match s.phases t with
      | .called => s.turn t (s.current.elim .inline .holding)
      | _ => s
  | .submit t => match s.phases t with
      | .holding pool => s.submit t pool
      | _ => s
  | .outcome t w => match s.phases t with
      | .waiting pool => s.outcome caught t pool w
      | _ => s
  | .replace t made => match s.phases t with
      | .failed pool => (replaceSolverPool s pool made).turn t .inline
      | _ => s
  | .inline t r => match s.phases t with
      | .inline => s.turn t (.done (.own r))
      | _ => s
  | .start enabled made =>
      if s.current = none ∧ enabled = true then { s.make made with stopped := false } else { s with stopped := false }
  | .stop => { s with current := none, detached := s.current.toList ++ s.detached, stopRan := true, stopped := true }
  | .shutDown pool =>
      if pool ∈ s.detached then { s with shut := pool :: s.shut, cancelled := pool :: s.cancelled } else s
  | .breaks pool => { s with broken := pool :: s.broken }

/-- As long as nothing was stopped, a call comes to what its function does. -/
def NothingLost (s : Pools τ α ε) : Prop :=
  s.stopRan = false → ∀ t answer, s.phases t = .done answer → ∃ r, answer = .own r

/-- No thread submits to a pool that was shut down since it read it, unless that pool is broken. -/
def Unrefused (s : Pools τ α ε) : Event τ α ε → Prop
  | .submit t => s.stopRan = false → ∀ pool, s.phases t = .holding pool → pool ∈ s.shut → pool ∈ s.broken
  | _ => True

/-! ### The pools -/

/-- The pools that are out of use are old ones, and not the current one. -/
structure Sound (s : Pools τ α ε) : Prop where
  current : ∀ pool, s.current = some pool → pool < s.made ∧ pool ∉ s.shut ∧ pool ∉ s.detached
  old : ∀ pool ∈ s.shut ++ s.detached, pool < s.made
  replaced : s.replaced ⊆ s.shut ∧ s.replaced.Nodup
  ran : s.detached ++ s.cancelled ≠ [] → s.stopRan = true
  stopped : s.stopped = true → s.current = none

variable {caught} {s : Pools τ α ε}

/-- A number not given out yet is of no pool. -/
theorem new_pool {used : List Nat} (old : ∀ pool ∈ used ++ more, pool < made) : made < made + 1 ∧ made ∉ used ∧ made ∉ more :=
  ⟨Nat.lt_succ_self _, fun member => Nat.lt_irrefl _ (old _ (List.mem_append_left _ member)),
    fun member => Nat.lt_irrefl _ (old _ (List.mem_append_right _ member))⟩

omit [DecidableEq τ] in
theorem Sound.make (sound : Sound s) (made : Bool) : Sound { s.make made with stopped := false } := by
  cases made with
  | false =>
    exact ⟨fun pool same => (nomatch same), sound.old, sound.replaced, sound.ran, fun stopped => (nomatch stopped)⟩
  | true =>
    refine ⟨fun pool same => ?_, fun pool member => Nat.lt_succ_of_lt (sound.old pool member), sound.replaced,
      sound.ran, fun stopped => (nomatch stopped)⟩
    obtain rfl := Option.some.inj same
    exact new_pool sound.old

theorem Sound.turn (sound : Sound s) (t : τ) (phase : Phase α ε) : Sound (s.turn t phase) :=
  ⟨sound.current, sound.old, sound.replaced, sound.ran, sound.stopped⟩

omit [DecidableEq τ] in
theorem Sound.replace (sound : Sound s) (pool : Nat) (made : Bool) : Sound (replaceSolverPool s pool made) := by
  rw [replaceSolverPool]
  split
  · rename_i current
    obtain ⟨below, running, -⟩ := sound.current pool current
    have unstopped : s.stopped ≠ true := fun stopped => nomatch (sound.stopped stopped).symm.trans current
    have old : ∀ p ∈ (pool :: s.shut) ++ s.detached, p < s.made := by
      intro p member
      rcases List.mem_cons.mp member with rfl | rest
      · exact below
      · exact sound.old p rest
    have replaced : pool :: s.replaced ⊆ pool :: s.shut ∧ (pool :: s.replaced).Nodup :=
      ⟨List.cons_subset_cons _ sound.replaced.1,
        List.nodup_cons.mpr ⟨fun member => running (sound.replaced.1 member), sound.replaced.2⟩⟩
    cases made with
    | false => exact ⟨fun p same => (nomatch same), old, replaced, sound.ran, fun stopped => absurd stopped unstopped⟩
    | true =>
      refine ⟨fun p same => ?_, fun p member => Nat.lt_succ_of_lt (old p member), replaced, sound.ran,
        fun stopped => absurd stopped unstopped⟩
      obtain rfl := Option.some.inj same
      exact new_pool old
  · exact sound

omit [DecidableEq τ] in
theorem Sound.stop (sound : Sound s) :
    Sound { s with current := none, detached := s.current.toList ++ s.detached, stopRan := true, stopped := true } := by
  refine ⟨fun pool same => (nomatch same), fun pool member => ?_, sound.replaced, fun _ => rfl, fun _ => rfl⟩
  rcases List.mem_append.mp member with shut | rest
  · exact sound.old pool (List.mem_append_left _ shut)
  · rcases List.mem_append.mp rest with current | detached
    · exact (sound.current pool (Option.mem_toList.mp current)).1
    · exact sound.old pool (List.mem_append_right _ detached)

omit [DecidableEq τ] in
theorem Sound.shutDown (sound : Sound s) (detached : pool ∈ s.detached) :
    Sound { s with shut := pool :: s.shut, cancelled := pool :: s.cancelled } := by
  refine ⟨fun p same => ?_, fun p member => ?_, ⟨fun p member => List.mem_cons_of_mem _ (sound.replaced.1 member),
    sound.replaced.2⟩, fun _ => sound.ran (List.ne_nil_of_mem (List.mem_append_left _ detached)), sound.stopped⟩
  · obtain ⟨below, running, kept⟩ := sound.current p same
    refine ⟨below, fun member => ?_, kept⟩
    rcases List.mem_cons.mp member with rfl | shut
    · exact kept detached
    · exact running shut
  · rcases List.mem_cons.mp member with rfl | rest
    · exact sound.old p (List.mem_append_right _ detached)
    · exact sound.old p rest

theorem Sound.submit (sound : Sound s) (t : τ) (pool : Nat) : Sound (s.submit t pool) := by
  rw [Pools.submit]
  split_ifs <;> exact sound.turn t _

theorem Sound.outcome (sound : Sound s) (t : τ) (pool : Nat) (w : Waited α ε) : Sound (s.outcome caught t pool w) := by
  cases w with
  | ran r => cases r <;> exact sound.turn t _
  | timeout => exact sound.turn t _
  | broken =>
    rw [Pools.outcome]
    split
    · exact sound.turn t _
    · exact sound
  | cancelled =>
    rw [Pools.outcome]
    split
    · exact sound.turn t _
    · exact sound

theorem Sound.step (sound : Sound s) (e : Event τ α ε) : Sound (poolStep caught s e) := by
  cases e with
  | call t =>
    rw [poolStep]
    split <;> first | exact sound.turn t _ | exact sound
  | read t =>
    rw [poolStep]
    split <;> first | exact sound.turn t _ | exact sound
  | submit t =>
    rw [poolStep]
    split <;> first | exact sound.submit t _ | exact sound
  | outcome t w =>
    rw [poolStep]
    split <;> first | exact sound.outcome t _ w | exact sound
  | replace t made =>
    rw [poolStep]
    split <;> first | exact (sound.replace _ made).turn t _ | exact sound
  | inline t r =>
    rw [poolStep]
    split <;> first | exact sound.turn t _ | exact sound
  | start enabled made =>
    rw [poolStep]
    split
    · exact sound.make made
    · exact ⟨sound.current, sound.old, sound.replaced, sound.ran, fun stopped => (nomatch stopped)⟩
  | stop => exact sound.stop
  | shutDown pool =>
    rw [poolStep]
    split
    · rename_i detached
      exact sound.shutDown detached
    · exact sound
  | breaks pool => exact ⟨sound.current, sound.old, sound.replaced, sound.ran, sound.stopped⟩

omit [DecidableEq τ] in
theorem sound_boot : Sound (.boot : Pools τ α ε) :=
  ⟨fun _ same => (nomatch same), fun _ member => (nomatch member), ⟨List.nil_subset _, List.nodup_nil⟩,
    fun other => absurd rfl other, fun stopped => (nomatch stopped)⟩

/-! ### The calls -/

theorem phases_turn (s : Pools τ α ε) (t t' : τ) (phase : Phase α ε) :
    (s.turn t phase).phases t' = if t' = t then phase else s.phases t' := Function.update_apply _ _ _ _

theorem NothingLost.turn_iff (kept : NothingLost s) (t : τ) (phase : Phase α ε) :
    NothingLost (s.turn t phase) ↔ (s.stopRan = false → ∀ answer, phase = .done answer → ∃ r, answer = .own r) := by
  constructor
  · intro next running answer done
    refine next running t answer ?_
    rw [phases_turn, if_pos rfl, done]
  · intro own running t' answer done
    rw [phases_turn] at done
    split at done
    · exact own running answer done
    · exact kept running t' answer done

omit [DecidableEq τ] in
theorem NothingLost.of_phases {s' : Pools τ α ε} (kept : NothingLost s) (same : s'.phases = s.phases)
    (ran : s'.stopRan = false → s.stopRan = false) : NothingLost s' :=
  fun running t answer done => kept (ran running) t answer (same ▸ done)

theorem NothingLost.turn (kept : NothingLost s) (t : τ) {phase : Phase α ε} (running : ∀ answer, phase ≠ .done answer) :
    NothingLost (s.turn t phase) :=
  (kept.turn_iff t phase).mpr fun _ answer done => absurd done (running answer)

theorem NothingLost.submit_iff (kept : NothingLost s) (t : τ) (pool : Nat) :
    NothingLost (s.submit t pool) ↔ (s.stopRan = false → pool ∈ s.shut → pool ∈ s.broken) := by
  rw [Pools.submit]
  split
  · rename_i broken
    exact iff_of_true (kept.turn t (by simp)) fun _ _ => broken
  · rename_i whole
    split
    · rename_i shut
      rw [kept.turn_iff]
      constructor
      · intro own running _
        obtain ⟨r, same⟩ := own running .refused rfl
        exact nomatch same
      · intro broken running _ _
        exact absurd (broken running shut) whole
    · rename_i taking
      exact iff_of_true (kept.turn t (by simp)) fun _ shut => absurd shut taking

theorem NothingLost.outcome (kept : NothingLost s) (sound : Sound s) (t : τ) (pool : Nat) (w : Waited α ε) :
    NothingLost (s.outcome caught t pool w) := by
  cases w with
  | ran r =>
    cases r with
    | value a => exact (kept.turn_iff t _).mpr fun _ answer done => ⟨_, (Phase.done.inj done).symm⟩
    | raised e =>
      rw [Pools.outcome]
      split
      · exact kept.turn t (by simp)
      · exact (kept.turn_iff t _).mpr fun _ answer done => ⟨_, (Phase.done.inj done).symm⟩
  | timeout => exact kept.turn t (by simp)
  | broken =>
    rw [Pools.outcome]
    split
    · exact kept.turn t (by simp)
    · exact kept
  | cancelled =>
    rw [Pools.outcome]
    split
    · rename_i cancelled
      have ran := sound.ran (List.ne_nil_of_mem (List.mem_append_right _ cancelled))
      exact (kept.turn_iff t _).mpr fun running => nomatch ran.symm.trans running
    · exact kept

/-- A step loses a call where it submits to a pool that was shut down and says nothing of being broken, and nowhere else. -/
theorem NothingLost.step_iff (kept : NothingLost s) (sound : Sound s) (e : Event τ α ε) :
    Unrefused s e ↔ NothingLost (poolStep caught s e) := by
  cases e with
  | call t =>
    refine iff_of_true trivial ?_
    rw [poolStep]
    split <;> first | exact kept.turn t (by simp) | exact kept
  | read t =>
    refine iff_of_true trivial ?_
    rw [poolStep]
    split
    · cases s.current <;> exact kept.turn t (by simp)
    · exact kept
  | submit t =>
    rw [poolStep, Unrefused]
    split
    · rename_i pool holding
      rw [kept.submit_iff]
      constructor
      · exact fun unrefused running => unrefused running pool holding
      · intro unrefused running pool' holding'
        obtain rfl := Phase.holding.inj (holding.symm.trans holding')
        exact unrefused running
    · rename_i elsewhere
      exact iff_of_true (fun _ pool holding => absurd holding (elsewhere pool)) kept
  | outcome t w =>
    refine iff_of_true trivial ?_
    rw [poolStep]
    split
    · exact kept.outcome sound t _ w
    · exact kept
  | replace t made =>
    refine iff_of_true trivial ?_
    rw [poolStep]
    split
    · rename_i pool _
      have swapped : NothingLost (replaceSolverPool s pool made) := by
        rw [replaceSolverPool]
        split
        · cases made <;> exact kept.of_phases rfl fun running => running
        · exact kept
      exact swapped.turn t (by simp)
    · exact kept
  | inline t r =>
    refine iff_of_true trivial ?_
    rw [poolStep]
    split
    · exact (kept.turn_iff t _).mpr fun _ answer done => ⟨r, (Phase.done.inj done).symm⟩
    · exact kept
  | start enabled made =>
    refine iff_of_true trivial ?_
    rw [poolStep]
    split
    · cases made <;> exact kept.of_phases rfl fun running => running
    · exact kept.of_phases rfl fun running => running
  | stop => exact iff_of_true trivial fun running => nomatch running
  | shutDown pool =>
    refine iff_of_true trivial ?_
    rw [poolStep]
    split
    · exact kept.of_phases rfl fun running => running
    · exact kept
  | breaks pool => exact iff_of_true trivial (kept.of_phases rfl fun running => running)

variable (caught)

/-- Replacing a pool costs no call exactly where no thread comes to a pool that was shut down under it; no pool is
replaced twice; and none becomes the current one after a stop. -/
theorem replacing_costs_nothing_iff (events : List (Event τ α ε)) :
    (Along (poolStep caught) Unrefused .boot events ↔
        ∀ before after, events = before ++ after → NothingLost (run (poolStep caught) .boot before)) ∧
      (run (poolStep caught) .boot events).replaced.Nodup ∧
        ((run (poolStep caught) .boot events).stopped = true → (run (poolStep caught) .boot events).current = none) := by
  have always : ∀ events, Sound (run (poolStep caught) (.boot : Pools τ α ε) events) :=
    invariant_always (fun s e sound => Sound.step sound e) sound_boot
  refine ⟨?_, (always events).replaced.2, (always events).stopped⟩
  refine (along_iff_invariant (I := fun s : Pools τ α ε => Sound s ∧ NothingLost s)
    (fun s e held => (held.2.step_iff held.1 e).trans (and_iff_right (held.1.step e)).symm)
    ⟨sound_boot, fun _ _ _ done => nomatch done⟩ events).trans ?_
  exact forall_congr' fun before => forall_congr' fun after => forall_congr' fun split => and_iff_right (always before)

end

/-! ### A refused submit -/

/-- Two threads read one pool, and the first one's call times out before the second submits. -/
def overtaken : List (Event Bool Nat Unit) :=
  [.start true true, .call true, .call false, .read true, .read false, .submit true, .outcome true .timeout,
    .replace true true, .submit false]

/-- The second thread's solve is lost with an exception that is not its own. -/
theorem overtaken_submit_refused :
    ¬ ∀ events : List (Event Bool Nat Unit), NothingLost (run (poolStep fun _ => false) .boot events) := by
  intro claimed
  obtain ⟨r, same⟩ := claimed overtaken (by decide) false .refused rfl
  exact nomatch same

end Retina.SolverPool
