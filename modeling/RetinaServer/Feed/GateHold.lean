import RetinaServer.Library.Runs
import RetinaServer.Feed.TrackEntry
import RetinaServer.Multinode.Entry

/-! The position a track is emitted at: the crossing of its arc, unless the speed or the residual gate holds
it where it was, and its own position with dead reckoning where it has no arc. -/
namespace Retina.FeedBuild
open Rounding (roundTo)
open Runs

def gateMaxHoldS : ℚ := 10
def speedGateMs : ℚ := 800
def speedGateWindowS : ℚ := 60
def rmsGateUs : ℚ := 7

/-- The velocity of a track and the time of its fix, zero where it has none. -/
structure Motion where
  velEast : ℚ
  velNorth : ℚ
  posFixTs : ℚ
deriving DecidableEq

deriving instance DecidableEq for Track

/-- What one `track_entry` finds: the time, the track, and what `_cached_single_node_arc` answers. -/
structure Call where
  now : ℚ
  track : Track Motion
  arc : Option Arc
deriving DecidableEq

/-- `track_gate_hold` of an aircraft. -/
structure Hold where
  since : ℚ
  lat : ℚ
  lon : ℚ
deriving DecidableEq

/-- `track_last_emit` of an aircraft. -/
structure LastEmit where
  lat : ℚ
  lon : ℚ
  ts : ℚ
deriving DecidableEq

structure GateMemory where
  hold : Option Hold := none
  lastEmit : Option LastEmit := none
deriving DecidableEq

/-- A position written down as the last emit. `gated` is an arc's, `reverted` one that a gate put in place of
the arc's own. -/
structure Emit where
  call : Call
  lat : ℚ
  lon : ℚ
  gated : Bool
  reverted : Bool
deriving DecidableEq

def Emit.ts (e : Emit) : ℚ := e.call.now

/-! ### The gates -/

/-- The middle of an arc that is not empty. -/
def Call.midpoint (call : Call) : Option (ℚ × ℚ) :=
  call.arc.bind fun arc => arc[arc.length / 2]?.map fun mid => (roundTo 6 mid.1, roundTo 6 mid.2)

/-- A delay was measured, and no arc comes of it. -/
def Call.withheld (call : Call) : Bool :=
  call.track.latestDelayUs.any fun delay => decide (0 < delay ∧ arcMinDifferentialKm ≤ delay * cKmUs)

def speedGate (geo : Geodesy) (prev : LastEmit) (now lat lon : ℚ) : Bool :=
  let dt := now - prev.ts
  decide (0 < dt ∧ dt < speedGateWindowS ∧ speedGateMs < geo.haversineKm lat lon prev.lat prev.lon * 1000 / dt)

def rmsGate (call : Call) : Bool := decide (rmsGateUs < call.track.rmsDelay)

/-- A gate fires only where there is an emit to go back to. -/
def gateFired (geo : Geodesy) (memory : GateMemory) (call : Call) (mid : ℚ × ℚ) : Option LastEmit :=
  memory.lastEmit.filter fun prev => speedGate geo prev call.now mid.1 mid.2 || rmsGate call

def Hold.expired (hold : Hold) (now : ℚ) : Bool := decide (gateMaxHoldS < now - hold.since)

/-- The anchor, carried along for this long; short of half a second it stays where it is. -/
def coasted (geo : Geodesy) (motion : Motion) (lat lon dt : ℚ) : ℚ × ℚ :=
  if 1 / 2 < dt ∧ (motion.velEast ≠ 0 ∨ motion.velNorth ≠ 0) then
    let moved := geo.offsetLatlonM lat lon (motion.velEast * dt) (motion.velNorth * dt)
    (roundTo 6 moved.1, roundTo 6 moved.2)
  else (lat, lon)

def heldAt (geo : Geodesy) (hold : Hold) (call : Call) : ℚ × ℚ :=
  coasted geo call.track.estimate hold.lat hold.lon (min (call.now - hold.since) gateMaxHoldS)

/-- The branch of a track with an arc. -/
def arcEmit (geo : Geodesy) (memory : GateMemory) (call : Call) (mid : ℚ × ℚ) : GateMemory × Emit :=
  let accept : GateMemory × Emit :=
    ({ hold := none, lastEmit := some ⟨mid.1, mid.2, call.now⟩ }, { call, lat := mid.1, lon := mid.2, gated := true, reverted := false })
  match gateFired geo memory call mid with
  | none => accept
  | some prev =>
      if memory.hold.any fun hold => hold.expired call.now then accept
      else
        let hold := memory.hold.getD ⟨call.now, prev.lat, prev.lon⟩
        let (lat, lon) := heldAt geo hold call
        ({ hold := some hold, lastEmit := some ⟨lat, lon, call.now⟩ }, { call, lat, lon, gated := true, reverted := true })

/-- The branch of a track without one, which leaves the hold as it is. -/
def solverEmit (geo : Geodesy) (memory : GateMemory) (call : Call) : GateMemory × Emit :=
  let track := call.track
  let fixed := if track.estimate.posFixTs = 0 then track.wallClockTs else track.estimate.posFixTs
  let (lat, lon) := coasted geo track.estimate (roundTo 6 track.lat) (roundTo 6 track.lon) (min (call.now - fixed) 60)
  ({ memory with lastEmit := some ⟨lat, lon, call.now⟩ }, { call, lat, lon, gated := false, reverted := false })

/-- `track_entry`, as far as it says where the aircraft is; `none` is a track that is not drawn. -/
def gateStep (geo : Geodesy) (memory : GateMemory) (call : Call) : GateMemory × Option Emit :=
  if displayStaleTrackS < trackAge call.now call.track then (memory, none)
  else match call.midpoint with
    | some mid => ((arcEmit geo memory call mid).1, some (arcEmit geo memory call mid).2)
    | none =>
        if call.withheld then (memory, none) else ((solverEmit geo memory call).1, some (solverEmit geo memory call).2)

/-- The emits of a sequence of calls for one aircraft, in order. -/
def emits (geo : Geodesy) (memory : GateMemory) : List Call → List Emit
  | [] => []
  | call :: rest => (gateStep geo memory call).2.toList ++ emits geo (gateStep geo memory call).1 rest

/-! ### What an emit leaves behind -/

/-- The memory after an emit: an arc that was accepted ends the hold, and the first that is reverted begins
one at the emit before it. -/
def remember (memory : GateMemory) (e : Emit) : GateMemory where
  hold :=
    if !e.gated then memory.hold
    else if !e.reverted then none
    else memory.hold.orElse fun _ => memory.lastEmit.map fun prev => ⟨e.ts, prev.lat, prev.lon⟩
  lastEmit := some ⟨e.lat, e.lon, e.ts⟩

/-- A reverted emit stands where its hold does at that time, and the hold has not expired. -/
def Accounted (geo : Geodesy) (memory : GateMemory) (e : Emit) : Prop :=
  e.reverted = true → e.gated = true ∧ memory.lastEmit ≠ none ∧
    ∃ hold, (remember memory e).hold = some hold ∧ e.ts - hold.since ≤ gateMaxHoldS ∧ (e.lat, e.lon) = heldAt geo hold e.call

theorem arcEmit_spec (geo : Geodesy) (memory : GateMemory) (call : Call) (mid : ℚ × ℚ) :
    (arcEmit geo memory call mid).2.call = call ∧ (arcEmit geo memory call mid).1 = remember memory (arcEmit geo memory call mid).2 ∧
      Accounted geo memory (arcEmit geo memory call mid).2 := by
  have accepted (e : Emit) (plain : e.reverted = false) : Accounted geo memory e := fun reverted => by
    cases plain.symm.trans reverted
  unfold arcEmit
  cases fired : gateFired geo memory call mid with
  | none => exact ⟨rfl, rfl, accepted _ rfl⟩
  | some prev =>
    obtain ⟨found, -⟩ := Option.filter_eq_some_iff.mp fired
    cases held : memory.hold with
    | none =>
      have begun : (remember memory ⟨call, (heldAt geo ⟨call.now, prev.lat, prev.lon⟩ call).1, (heldAt geo ⟨call.now, prev.lat, prev.lon⟩ call).2, true, true⟩).hold =
          some ⟨call.now, prev.lat, prev.lon⟩ := by simp [remember, held, found, Emit.ts]
      refine ⟨rfl, ?_, fun _ => ⟨rfl, ?_, _, begun, ?_, rfl⟩⟩
      · simp [remember, held, found, Emit.ts]
      · rw [found]
        exact Option.some_ne_none _
      · simp [Emit.ts, gateMaxHoldS]
    | some hold =>
      by_cases expired : hold.expired call.now = true
      · simp only [Option.any_some, expired, if_true]
        exact ⟨trivial, rfl, accepted _ rfl⟩
      · have kept : (remember memory ⟨call, (heldAt geo hold call).1, (heldAt geo hold call).2, true, true⟩).hold = some hold := by
          simp [remember, held]
        simp only [Option.any_some, expired]
        refine ⟨rfl, ?_, fun _ => ⟨rfl, ?_, hold, kept, ?_, rfl⟩⟩
        · simp [remember, held, Emit.ts]
        · rw [found]
          exact Option.some_ne_none _
        · rw [Hold.expired, decide_eq_true_eq, not_lt] at expired
          exact expired

theorem solverEmit_spec (geo : Geodesy) (memory : GateMemory) (call : Call) :
    (solverEmit geo memory call).2.call = call ∧ (solverEmit geo memory call).1 = remember memory (solverEmit geo memory call).2 ∧
      Accounted geo memory (solverEmit geo memory call).2 :=
  ⟨rfl, rfl, fun reverted => by cases reverted⟩

/-- A call either emits, and the memory is what the emit leaves, or does nothing. -/
theorem gateStep_cases (geo : Geodesy) (memory : GateMemory) (call : Call) :
    gateStep geo memory call = (memory, none) ∨
      ∃ e, gateStep geo memory call = (remember memory e, some e) ∧ e.call = call ∧ Accounted geo memory e := by
  unfold gateStep
  split
  · exact .inl rfl
  · split
    · rename_i mid _
      obtain ⟨same, left, accounted⟩ := arcEmit_spec geo memory call mid
      exact .inr ⟨_, by rw [left], same, accounted⟩
    · split
      · exact .inl rfl
      · obtain ⟨same, left, accounted⟩ := solverEmit_spec geo memory call
        exact .inr ⟨_, by rw [left], same, accounted⟩

/-! ### Runs -/

/-- The memory is that of the emits so far, and each of them is accounted for. -/
theorem emits_accounted (geo : Geodesy) (memory : GateMemory) (calls : List Call) :
    Along remember (Accounted geo) memory (emits geo memory calls) := by
  induction calls generalizing memory with
  | nil => trivial
  | cons call rest ih =>
    rw [emits]
    rcases gateStep_cases geo memory call with quiet | ⟨e, step, -, accounted⟩
    · rw [quiet]
      exact ih memory
    · rw [step]
      exact ⟨accounted, ih (remember memory e)⟩

/-- The emits come at the times of the calls, in their order. -/
theorem emits_ts_sublist (geo : Geodesy) (memory : GateMemory) (calls : List Call) :
    ((emits geo memory calls).map Emit.ts).Sublist (calls.map Call.now) := by
  induction calls generalizing memory with
  | nil => exact List.Sublist.slnil
  | cons call rest ih =>
    rw [emits]
    rcases gateStep_cases geo memory call with quiet | ⟨e, step, same, -⟩
    · rw [quiet]
      exact (ih memory).cons call.now
    · rw [step, show call = e.call from same.symm]
      exact (ih (remember memory e)).cons_cons e.ts

theorem hold_kept (gated : e.gated = true) (reverted : e.reverted = true) (held : memory.hold = some hold) :
    (remember memory e).hold = some hold := by
  simp [remember, gated, reverted, held]

theorem hold_of_remember (held : hold ∈ (remember memory e).hold) : hold ∈ memory.hold ∨ hold.since = e.ts := by
  unfold remember at held
  simp only at held
  split at held
  · exact .inl held
  · split at held
    · cases held
    · cases old : memory.hold with
      | some kept =>
        rw [old] at held
        exact .inl held
      | none =>
        rw [old] at held
        obtain ⟨prev, -, rfl⟩ := Option.map_eq_some_iff.mp held
        exact .inr rfl

/-- A hold began at an emit. -/
theorem hold_since_le (ordered : (es.map Emit.ts).Pairwise (· ≤ ·)) (before : ∀ hold ∈ memory.hold, ∀ e ∈ es, hold.since ≤ e.ts) :
    Along remember (fun m e => ∀ hold ∈ (remember m e).hold, hold.since ≤ e.ts) memory es := by
  induction es generalizing memory with
  | nil => trivial
  | cons e rest ih =>
    obtain ⟨first, later⟩ := List.pairwise_cons.mp ordered
    have here : ∀ hold ∈ (remember memory e).hold, hold.since ≤ e.ts := by
      intro hold held
      rcases hold_of_remember held with old | begun
      · exact before hold old e List.mem_cons_self
      · exact begun.le
    refine ⟨here, ih later fun hold held e' listed => (here hold held).trans ?_⟩
    exact first e'.ts (List.mem_map_of_mem listed)

/-- Emits that are all reverted keep the hold they have. -/
theorem hold_of_reverted (accounted : Along remember (Accounted geo) memory es) (reverted : ∀ e ∈ es, e.reverted = true)
    (held : memory.hold = some hold) : (run remember memory es).hold = some hold := by
  induction es generalizing memory with
  | nil => exact held
  | cons e rest ih =>
    obtain ⟨here, later⟩ := List.forall_mem_cons.mp reverted
    exact ih accounted.2 later (hold_kept (accounted.1 here).1 here held)

/-- Along emits that are all reverted there is one hold, and each stands where it does. -/
theorem held_run (accounted : Along remember (Accounted geo) memory (first :: rest ++ after)) (reverted : ∀ e ∈ first :: rest, e.reverted = true) :
    ∃ hold, (remember memory first).hold = some hold ∧
      ∀ e ∈ first :: rest, e.ts - hold.since ≤ gateMaxHoldS ∧ (e.lat, e.lon) = heldAt geo hold e.call := by
  obtain ⟨here, later⟩ := List.forall_mem_cons.mp reverted
  obtain ⟨gated, -, hold, held, bound, stands⟩ := accounted.1 here
  refine ⟨hold, held, List.forall_mem_cons.mpr ⟨⟨bound, stands⟩, fun e listed => ?_⟩⟩
  obtain ⟨earlier, others, rfl⟩ := List.append_of_mem listed
  have tail := ((along_append _ _ _ _ _).mp accounted.2).1
  have kept := hold_of_reverted ((along_append _ _ _ _ _).mp tail).1 (fun e' listed' => later e' (List.mem_append_left _ listed')) held
  have last := (along_iff_split _ _ _ _).mp tail earlier e others rfl
  obtain ⟨gated', -, hold', held', bound', stands'⟩ := last (later e listed)
  obtain rfl := Option.some.inj (held'.symm.trans (hold_kept gated' (later e listed) kept))
  exact ⟨bound', stands'⟩

/-- The last emit of an arc was not a reverted one, if there was any. -/
def Settled (es : List Emit) : Prop := ∀ e ∈ (es.filter Emit.gated).getLast?, e.reverted = false

theorem hold_of_settled (settled : Settled es) : (run remember {} es).hold = none := by
  induction es using List.reverseRecOn with
  | nil => rfl
  | append_singleton es e ih =>
    rw [run_append, run_cons, run_nil]
    by_cases gated : e.gated = true
    · have plain : e.reverted = false := by
        refine settled e ?_
        rw [List.filter_append, List.filter_cons_of_pos gated, List.filter_nil, List.getLast?_concat]
        rfl
      simp [remember, gated, plain]
    · have same : (es ++ [e]).filter Emit.gated = es.filter Emit.gated := by
        rw [List.filter_append, List.filter_cons_of_neg gated, List.filter_nil, List.append_nil]
      have kept : (remember (run remember {} es) e).hold = (run remember {} es).hold := by simp [remember, gated]
      rw [kept]
      refine ih ?_
      rwa [Settled, same] at settled

/-- In a sequence of calls, emits that a gate reverted one after the other span no more than the longest hold,
and there is an emit before them. Where the last arc before them was not reverted, they stand at the emit
before them, carried along with the velocity of the track for the time since the first of them. -/
theorem gate_hold_anchored (geo : Geodesy) (calls : List Call) (ordered : (calls.map Call.now).Pairwise (· ≤ ·))
    (before : List Emit) (first : Emit) (rest after : List Emit) (split : emits geo {} calls = before ++ (first :: rest ++ after))
    (reverted : ∀ e ∈ first :: rest, e.reverted = true) :
    (∀ e ∈ first :: rest, e.ts - first.ts ≤ gateMaxHoldS) ∧ before ≠ [] ∧
      ∀ earlier last, before = earlier ++ [last] → Settled before →
        ∀ e ∈ first :: rest, (e.lat, e.lon) = coasted geo e.call.track.estimate last.lat last.lon (e.ts - first.ts) := by
  have accounted := emits_accounted geo {} calls
  have sorted := ordered.sublist (emits_ts_sublist geo {} calls)
  have since : Along remember (fun m e => ∀ hold ∈ (remember m e).hold, hold.since ≤ e.ts) {} (emits geo {} calls) :=
    hold_since_le sorted fun _ held => by cases held
  rw [split, along_append] at accounted since
  obtain ⟨hold, held, stands⟩ := held_run accounted.2 reverted
  have begun : hold.since ≤ first.ts := since.2.1 hold held
  refine ⟨fun e listed => (by linarith [(stands e listed).1]), ?_, ?_⟩
  · rintro rfl
    exact (accounted.2.1 (reverted first List.mem_cons_self)).2.1 rfl
  · rintro earlier last rfl settled e listed
    have anchored : (remember (run remember {} (earlier ++ [last])) first).hold = some ⟨first.ts, last.lat, last.lon⟩ := by
      have gated := (accounted.2.1 (reverted first List.mem_cons_self)).1
      have lastEmit : (run remember {} (earlier ++ [last])).lastEmit = some ⟨last.lat, last.lon, last.ts⟩ := by
        rw [run_append]
        rfl
      simp [remember, gated, reverted first List.mem_cons_self, hold_of_settled settled, lastEmit]
    obtain rfl := Option.some.inj (held.symm.trans anchored)
    obtain ⟨bound, place⟩ := stands e listed
    rw [place, heldAt]
    exact congrArg (coasted geo e.call.track.estimate last.lat last.lon) (min_eq_left bound)

/-- A track northbound at 111 m/s, with an arc that crosses the boresight at this latitude. -/
def northbound (now lat : ℚ) : Call where
  now := now
  track := {
    hexId := "ab12cd"
    wallClockTs := now
    altFt := .fin 0
    speedKnots := .fin 0
    trackAngle := .fin 0
    lat := lat
    lon := -84
    nDetections := 1
    estimate := ⟨0, 111, now⟩ }
  arc := some [(lat, -84)]

/-- An arc a degree away is held twice. -/
theorem gate_hold_anchored_twice :
    ∃ first second, (emits Multinode.meridian {} [northbound 100 33, northbound 101 34, northbound 106 34]).tail = [first, second] ∧
      second.reverted = true ∧ second.ts - first.ts ≤ gateMaxHoldS ∧
      (second.lat, second.lon) = coasted Multinode.meridian second.call.track.estimate 33 (-84) (second.ts - first.ts) := by
  let last : Emit := ⟨northbound 100 33, 33, -84, true, false⟩
  let first : Emit := ⟨northbound 101 34, 33, -84, true, true⟩
  let second : Emit := ⟨northbound 106 34, 33005 / 1000, -84, true, true⟩
  have split : emits Multinode.meridian {} [northbound 100 33, northbound 101 34, northbound 106 34] = [last] ++ ([first, second] ++ []) := by
    decide +kernel
  obtain ⟨bounded, -, anchored⟩ := gate_hold_anchored Multinode.meridian [northbound 100 33, northbound 101 34, northbound 106 34]
    (by decide +kernel) [last] first [second] [] split (by decide)
  refine ⟨first, second, by rw [split]; rfl, rfl, bounded second (by simp), ?_⟩
  exact anchored [] last rfl (by rintro e listed; obtain rfl := Option.some.inj listed; rfl) second (by simp)

/-- For half a second after a hold begins, the position stays where it was. -/
theorem held_in_place :
    ∃ last first second, emits Multinode.meridian {} [northbound 100 33, northbound 101 34, northbound (507 / 5) 34] = [last, first, second] ∧
      last.reverted = false ∧ first.reverted = true ∧ second.reverted = true ∧
      (second.lat, second.lon) ≠ Multinode.meridian.offsetLatlonM last.lat last.lon
        (second.call.track.estimate.velEast * (second.ts - first.ts)) (second.call.track.estimate.velNorth * (second.ts - first.ts)) := by
  refine ⟨⟨northbound 100 33, 33, -84, true, false⟩, ⟨northbound 101 34, 33, -84, true, true⟩,
    ⟨northbound (507 / 5) 34, 33, -84, true, true⟩, ?_, rfl, rfl, rfl, ?_⟩
  · decide +kernel
  · decide +kernel

end Retina.FeedBuild
