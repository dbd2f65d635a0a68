import RetinaServer.Limits.FixedWindowCounters

/-! Counters over whole runs: what a window admits, and what no step takes from a running window. -/
namespace Retina.Limits
open Runs FixedWindowCounters

variable {κ : Type u} [DecidableEq κ]

inductive Event (κ : Type u) where
  | request (now : ℚ) (specs : List (Spec κ))
  | reclaim (now : ℚ)

def Event.now : Event κ → ℚ
  | .request now _ => now
  | .reclaim now => now

def Event.specs : Event κ → List (Spec κ)
  | .request _ specs => specs
  | .reclaim _ => []

def counterStep (c : FixedWindowCounters κ) : Event κ → FixedWindowCounters κ
  | .request now specs => (c.admitRequest now specs).2
  | .reclaim now => c.reclaimIfCrowded now

/-- The request, with its time, when it is admitted. -/
def admittedBy (c : FixedWindowCounters κ) : Event κ → List (ℚ × List (Spec κ))
  | .request now specs => if (c.admitRequest now specs).1 = none then [(now, specs)] else []
  | .reclaim _ => []

def admissions (c : FixedWindowCounters κ) : List (Event κ) → List (ℚ × List (Spec κ))
  | [] => []
  | e :: rest => admittedBy c e ++ admissions (counterStep c e) rest

def Nondecreasing (events : List (Event κ)) : Prop := (events.map Event.now).Pairwise (· ≤ ·)

instance (events : List (Event κ)) : Decidable (Nondecreasing events) :=
  inferInstanceAs (Decidable ((events.map Event.now).Pairwise (· ≤ ·)))

/-- The request names the key, in the window of `windowS` seconds with this index. -/
def inWindow (key : κ) (windowS : Nat) (index : ℤ) (request : ℚ × List (Spec κ)) : Bool :=
  decide (index * windowS ≤ request.1) && decide (request.1 < (index + 1) * windowS) &&
    request.2.any fun spec => decide (spec.key = key)

def withinWindow (key : κ) (windowS : Nat) (index : ℤ) (admitted : List (ℚ × List (Spec κ))) :
    List (ℚ × List (Spec κ)) := admitted.filter (inWindow key windowS index)

/-- Whenever a request of the run names the key, it is under this limit and window. -/
def HeldTo (key : κ) (limit windowS : Nat) (events : List (Event κ)) : Prop :=
  ∀ e ∈ events, ∀ spec ∈ e.specs, spec.key = key → spec.limit = limit ∧ spec.windowS = windowS

instance (key : κ) (limit windowS : Nat) (events : List (Event κ)) : Decidable (HeldTo key limit windowS events) :=
  inferInstanceAs (Decidable (∀ e ∈ events, ∀ spec ∈ e.specs, spec.key = key → _))

/-- A refusal leaves every counter whose window is running as it was. -/
def RefusalKeeps (c : FixedWindowCounters κ) : Event κ → Prop
  | .request now specs => (c.admitRequest now specs).1 ≠ none →
      ∀ key counter, c.counters.get? key = some counter → counter.live now →
        (c.admitRequest now specs).2.counters.get? key = some counter
  | .reclaim _ => True

/-- A counter whose window is running stays in the map, for the same window and no lower. -/
def KeepsRunning (c : FixedWindowCounters κ) (e : Event κ) : Prop :=
  ∀ key counter, c.counters.get? key = some counter → counter.live e.now →
    ∃ count, counter.count ≤ count ∧
      (counterStep c e).counters.get? key = some ⟨counter.windowEnd, count⟩

/-! ### Steps -/

theorem refusal_keeps (c : FixedWindowCounters κ) (e : Event κ) : RefusalKeeps c e := by
  cases e with
  | reclaim now => trivial
  | request now specs =>
    intro refused key counter found live
    obtain ⟨wait, outcome⟩ | ⟨-, -, outcome⟩ := admitRequest_cases c now specs
    · rw [outcome]
      exact reclaim_get?_live c now found live
    · exact absurd (by rw [outcome]) refused

theorem keeps_running (c : FixedWindowCounters κ) (e : Event κ) : KeepsRunning c e := by
  intro key counter found live
  cases e with
  | reclaim now => exact ⟨counter.count, le_rfl, reclaim_get?_live c now found live⟩
  | request now specs =>
    have kept := reclaim_get?_live c now found live
    obtain ⟨wait, outcome⟩ | ⟨-, -, outcome⟩ := admitRequest_cases c now specs
    · exact ⟨counter.count, le_rfl, by rw [counterStep, outcome, kept]⟩
    · refine ⟨_, Nat.le_add_right _ (naming key specs).length, ?_⟩
      rw [counterStep, outcome]
      exact get?_spendAll_live now _ specs kept live

/-- The end of a window is at a multiple of its length. -/
def Aligned (windowS : Nat) (time : ℚ) : Prop := ∃ index : ℤ, time = index * windowS

theorem windowEndAfter_aligned (windowS : Nat) (now : ℚ) : Aligned windowS (windowEndAfter windowS now) :=
  ⟨⌊now / windowS⌋ + 1, by rw [windowEndAfter]; push_cast; rfl⟩

/-- A window that is running at a time in window `index` does not end before that one does. -/
theorem Aligned.end_le {time now : ℚ} {index : ℤ} (aligned : Aligned windowS time) (positive : 0 < windowS)
    (running : now < time) (begun : index * windowS ≤ now) : (index + 1) * (windowS : ℚ) ≤ time := by
  obtain ⟨last, rfl⟩ := aligned
  have window : (0 : ℚ) < windowS := by exact_mod_cast positive
  have later : (index : ℚ) < last := lt_of_mul_lt_mul_right (begun.trans_lt running) window.le
  have next : index + 1 ≤ last := by exact_mod_cast later
  have bound : ((index + 1 : ℤ) : ℚ) ≤ last := by exact_mod_cast next
  push_cast at bound
  exact mul_le_mul_of_nonneg_right bound window.le

/-! ### What a window admits -/

/-- `n` requests of the window that ends at `windowEnd` are counted under the key, if it is not over. -/
structure Counted (key : κ) (windowS : Nat) (windowEnd : ℚ) (n : Nat) (c : FixedWindowCounters κ) : Prop where
  aligned : ∀ counter, c.counters.get? key = some counter → Aligned windowS counter.windowEnd
  counted : n = 0 ∨ ∃ counter, c.counters.get? key = some counter ∧
    windowEnd ≤ counter.windowEnd ∧ n ≤ counter.count

variable {key : κ} {c : FixedWindowCounters κ} {specs : List (Spec κ)} {now windowEnd : ℚ} {n windowS limit : Nat} {index : ℤ}

theorem Counted.reclaim (counted : Counted key windowS windowEnd n c) (open_ : now < windowEnd) :
    Counted key windowS windowEnd n (c.reclaimIfCrowded now) := by
  constructor
  · intro counter found
    exact counted.aligned counter (reclaim_get?_some c now found)
  · refine counted.counted.imp_right ?_
    rintro ⟨counter, found, later, enough⟩
    exact ⟨counter, reclaim_get?_live c now found (open_.trans_le later), later, enough⟩

theorem Counted.counterOf_aligned (counted : Counted key windowS windowEnd n c) :
    Aligned windowS (counterOf c.counters key).windowEnd := by
  cases found : c.counters.get? key with
  | none => exact ⟨0, by simp [counterOf, found, noCounter]⟩
  | some counter =>
    rw [counterOf_some _ found]
    exact counted.aligned counter found

/-- A request that names the key in the window is admitted below the limit only, and is counted. -/
theorem Counted.spend_named (counted : Counted key windowS ((index + 1) * windowS) n c)
    (positive : 0 < windowS) (begun : index * windowS ≤ now) (open_ : now < (index + 1) * windowS)
    (named : ∃ spec ∈ specs, spec.key = key)
    (held : ∀ spec ∈ specs, spec.key = key → spec.limit = limit ∧ spec.windowS = windowS)
    (room : ∀ spec ∈ specs, exhausted c.counters now spec = none) :
    n < limit ∧ Counted key windowS ((index + 1) * windowS) (n + 1)
      { c with counters := specs.foldl (spend now) c.counters } := by
  obtain ⟨counter, found, live, aligned, one⟩ := get?_spendAll_named now c.counters specs named counted.counterOf_aligned
    fun spec member name => (held spec member name).2 ▸ windowEndAfter_aligned _ _
  obtain ⟨spec, member, rfl⟩ := named
  have limit_eq := (held spec member rfl).1
  have window_later := aligned.end_le positive live begun
  have aligned_after : ∀ other, (specs.foldl (spend now) c.counters).get? spec.key = some other →
      Aligned windowS other.windowEnd := by
    intro other here
    exact Option.some.inj (found.symm.trans here) ▸ aligned
  obtain rfl | ⟨before, present, later, enough⟩ := counted.counted
  · exact ⟨limit_eq ▸ spec.limit_pos, aligned_after, .inr ⟨counter, found, window_later, one⟩⟩
  · -- The counter of the requests so far is still running, so this one was checked against it.
    have running : before.live now := open_.trans_le later
    have below : before.count < spec.limit := by
      have checked := room spec member
      simp only [exhausted, counterOf_some _ present] at checked
      by_contra full
      rw [if_pos ⟨running, not_lt.mp full⟩] at checked
      cases checked
    have spent := get?_spendAll_live now c.counters specs present running
    have some_naming : 0 < (naming spec.key specs).length :=
      List.length_pos_of_mem (List.mem_filter.mpr ⟨member, by simp⟩)
    exact ⟨by omega, aligned_after, .inr ⟨_, spent, later, by dsimp only; omega⟩⟩

/-- Spending a request that does not name the key leaves what is counted under it. -/
theorem Counted.spend_unnamed (counted : Counted key windowS windowEnd n c)
    (unnamed : ∀ spec ∈ specs, spec.key ≠ key) :
    Counted key windowS windowEnd n { c with counters := specs.foldl (spend now) c.counters } := by
  constructor
  · intro counter found
    rw [get?_spendAll_unnamed now _ specs unnamed] at found
    exact counted.aligned counter found
  · rw [get?_spendAll_unnamed now _ specs unnamed]
    exact counted.counted

/-- Spending keeps the count also before the window begins, when nothing is counted yet. -/
theorem Counted.spend_before (counted : Counted key windowS windowEnd n c)
    (held : ∀ spec ∈ specs, spec.key = key → spec.windowS = windowS) (open_ : now < windowEnd) :
    Counted key windowS windowEnd n { c with counters := specs.foldl (spend now) c.counters } := by
  by_cases named : ∃ spec ∈ specs, spec.key = key
  · obtain ⟨counter, found, -, aligned, -⟩ :=
      get?_spendAll_named now c.counters specs named counted.counterOf_aligned
        fun spec member name => held spec member name ▸ windowEndAfter_aligned _ _
    constructor
    · intro other here
      exact Option.some.inj (found.symm.trans here) ▸ aligned
    · refine counted.counted.imp_right ?_
      rintro ⟨before, present, later, enough⟩
      exact ⟨_, get?_spendAll_live now _ specs present (open_.trans_le later), later,
        Nat.le_add_right_of_le enough⟩
  · exact counted.spend_unnamed fun spec member same => named ⟨spec, member, same⟩

/-- The step lemma: while its window lasts, what is admitted is counted and stays at or below the limit. -/
theorem Counted.step (counted : Counted key windowS ((index + 1) * windowS) n c)
    (positive : 0 < windowS) (e : Event κ)
    (held : ∀ spec ∈ e.specs, spec.key = key → spec.limit = limit ∧ spec.windowS = windowS)
    (open_ : e.now < (index + 1) * windowS) (within : n ≤ limit) :
    n + (withinWindow key windowS index (admittedBy c e)).length ≤ limit ∧
    Counted key windowS ((index + 1) * windowS)
      (n + (withinWindow key windowS index (admittedBy c e)).length) (counterStep c e) := by
  cases e with
  | reclaim now => exact ⟨within, counted.reclaim open_⟩
  | request now specs =>
    have reclaimed : Counted key windowS ((index + 1) * windowS) n (c.reclaimIfCrowded now) := counted.reclaim open_
    obtain ⟨wait, outcome⟩ | ⟨-, room, outcome⟩ := admitRequest_cases c now specs
    · have none_admitted : admittedBy c (.request now specs) = [] := by simp [admittedBy, outcome]
      simpa only [none_admitted, withinWindow, List.filter_nil, List.length_nil, counterStep, outcome] using
        ⟨within, reclaimed⟩
    · have one_admitted : admittedBy c (.request now specs) = [(now, specs)] := by simp [admittedBy, outcome]
      rw [one_admitted, counterStep, outcome]
      by_cases inside : inWindow key windowS index (now, specs) = true
      · rw [withinWindow, List.filter_cons_of_pos inside, List.filter_nil, List.length_singleton]
        simp only [inWindow, Bool.and_eq_true, decide_eq_true_eq, List.any_eq_true] at inside
        exact reclaimed.spend_named positive inside.1.1 open_ inside.2 held room
      · rw [withinWindow, List.filter_cons_of_neg inside, List.filter_nil, List.length_nil]
        exact ⟨within, reclaimed.spend_before (fun spec member name => (held spec member name).2) open_⟩

/-- A window that is over admits nothing more. -/
theorem withinWindow_over (events : List (Event κ)) (ended : ∀ e ∈ events, (index + 1) * windowS ≤ e.now) :
    withinWindow key windowS index (admissions c events) = [] := by
  induction events generalizing c with
  | nil => rfl
  | cons e rest ih =>
    obtain ⟨here, later⟩ := List.forall_mem_cons.mp ended
    rw [admissions, withinWindow, List.filter_append, ← withinWindow, ← withinWindow, ih later, List.append_nil]
    cases e with
    | reclaim now => rfl
    | request now specs =>
      rw [withinWindow, List.filter_eq_nil_iff]
      intro request member
      obtain ⟨-, rfl⟩ : (c.admitRequest now specs).1 = none ∧ request = (now, specs) := by
        simpa [admittedBy, apply_ite (request ∈ ·)] using member
      have late : ¬ now < (index + 1) * windowS := not_lt.mpr here
      simp [inWindow, late]

/-- The run lemma: what is counted and what the rest of the run admits stay at or below the limit. -/
theorem Counted.run (counted : Counted key windowS ((index + 1) * windowS) n c) (positive : 0 < windowS)
    (events : List (Event κ)) (clock : Nondecreasing events) (held : HeldTo key limit windowS events)
    (within : n ≤ limit) : n + (withinWindow key windowS index (admissions c events)).length ≤ limit := by
  induction events generalizing c n with
  | nil => exact within
  | cons e rest ih =>
    obtain ⟨earliest, ordered⟩ := List.pairwise_cons.mp clock
    obtain ⟨held_here, held_later⟩ := List.forall_mem_cons.mp held
    by_cases open_ : e.now < (index + 1) * windowS
    · obtain ⟨below, counted_after⟩ := counted.step positive e held_here open_ within
      have later := ih counted_after ordered held_later below
      rw [admissions, withinWindow, List.filter_append, ← withinWindow, ← withinWindow, List.length_append]
      omega
    · have all_ended : ∀ other ∈ e :: rest, (index + 1) * (windowS : ℚ) ≤ other.now := by
        intro other member
        rcases List.mem_cons.mp member with rfl | later
        · exact not_lt.mp open_
        · exact (not_lt.mp open_).trans (earliest other.now (List.mem_map_of_mem later))
      rw [withinWindow_over _ all_ended]
      exact within

/-- No window ever admits more requests that name a key than the key's limit, whatever the map's
policy when it is full; a refusal leaves each running counter as it was, and no step drops or resets one. -/
theorem fixed_windows_hold (maxTracked : Nat) (refuseWhenFull : Bool) (events : List (Event κ))
    (clock : Nondecreasing events) :
    (∀ key limit windowS, HeldTo key limit windowS events → ∀ index : ℤ,
      (withinWindow key windowS index (admissions (new maxTracked refuseWhenFull) events)).length ≤ limit) ∧
    Along counterStep RefusalKeeps (new maxTracked refuseWhenFull) events ∧
    Along counterStep KeepsRunning (new maxTracked refuseWhenFull) events := by
  refine ⟨?_, (along_iff_split _ _ _ _).mpr fun before e _ _ => refusal_keeps _ e,
    (along_iff_split _ _ _ _).mpr fun before e _ _ => keeps_running _ e⟩
  intro key limit windowS held index
  rcases Nat.eq_zero_or_pos windowS with rfl | positive
  · -- No request of the run names the key: a window of no length holds none.
    have empty : withinWindow key 0 index (admissions (new maxTracked refuseWhenFull) events) = [] := by
      rw [withinWindow, List.filter_eq_nil_iff]
      intro request _ inside
      simp only [inWindow, Nat.cast_zero, mul_zero, Bool.and_eq_true, decide_eq_true_eq] at inside
      exact absurd inside.1.2 (not_lt.mpr inside.1.1)
    rw [empty]
    exact Nat.zero_le limit
  · have none_counted : Counted key windowS ((index + 1) * windowS) 0 (new maxTracked refuseWhenFull) := by
      constructor
      · intro counter found
        cases found
      · exact .inl rfl
    have bound := none_counted.run positive events clock held (Nat.zero_le limit)
    omega

theorem minute_pos : 0 < 60 := by decide

/-- Two requests of a full minute, one too many, and the next minute's. -/
def minuteRun : List (Event String) :=
  let spec : Spec String :=
    { key := "config", limit := 2, windowS := 60, limit_pos := Nat.zero_lt_two, window_pos := minute_pos }
  [.request 3 [spec], .request 20 [spec], .request 50 [spec], .reclaim 60, .request 61 [spec]]

theorem fixed_windows_hold_minute :
    (withinWindow "config" 60 0 (admissions (new 1 true) minuteRun)).length ≤ 2 :=
  (fixed_windows_hold 1 true minuteRun (by decide +kernel)).1 "config" 2 60
    (by decide) 0

end Retina.Limits
