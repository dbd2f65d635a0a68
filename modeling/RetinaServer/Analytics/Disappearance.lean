import RetinaServer.Library.Dict
import RetinaServer.Library.Runs
import Mathlib.Algebra.Order.Ring.Rat

/-! The disappearance detector. A node remembers the hexes it has detected, and a remembered hex that it no longer
detects where its learned FOV says it should is a negative event against that FOV. -/
namespace Retina.Analytics.Disappearance
open Runs

def fovDisappearMemoryS : ℚ := 90
def fovEventMaxAdsbAgeS : ℚ := 30
def fovMaxEventsPerNodeCycle : Nat := 5
def fovNodeLivenessMaxAgeS : ℚ := 60

/-- A stored aircraft, as far as it is read here. -/
structure AdsbEntry where
  lat : Option ℚ
  lon : Option ℚ
  lastSeenMs : ℚ := 0
deriving DecidableEq

/-- What recording an event answers. -/
inductive Answer where
  | recorded
  | refused
  | raised
deriving DecidableEq

/-- One node's pass of one cycle, with all that it reads of the server. -/
structure Cycle where
  nodeId : String
  now : ℚ
  rxLat : ℚ
  rxLon : ℚ
  detectedHexes : List String
  lastHeartbeat : Option ℚ
  learnedFov : Option (ℚ → ℚ → Bool)
  adsbAircraft : Dict String AdsbEntry
  recordNegativeEvent : String → ℚ → ℚ → Answer

structure NegativeEvent where
  hexCode : String
  lat : ℚ
  lon : ℚ
deriving DecidableEq

structure Geodesy where
  bearingDeg : ℚ → ℚ → ℚ → ℚ → ℚ
  haversineKm : ℚ → ℚ → ℚ → ℚ → ℚ

abbrev Memory := Dict String ℚ

def Cycle.live (c : Cycle) : Bool := c.lastHeartbeat.any fun beat => decide (c.now - beat ≤ fovNodeLivenessMaxAgeS)

/-- The pass over the remembered hexes so far. An error ends it. -/
structure Pass where
  memory : Memory
  events : List NegativeEvent := []
  raised : Bool := false

section
variable (geo : Geodesy)

def Cycle.inFov (c : Cycle) (fov : ℚ → ℚ → Bool) (lat lon : ℚ) : Bool :=
  fov (geo.bearingDeg c.rxLat c.rxLon lat lon) (geo.haversineKm c.rxLat c.rxLon lat lon)

def record (c : Cycle) (p : Pass) (hexCode : String) (lat lon : ℚ) : Pass :=
  match c.recordNegativeEvent hexCode lat lon with
  | .recorded => { p with memory := p.memory.erase hexCode, events := p.events ++ [⟨hexCode, lat, lon⟩] }
  | .refused => p
  | .raised => { p with raised := true }

/-- One remembered hex. -/
def consider (c : Cycle) (fov : ℚ → ℚ → Bool) (p : Pass) (item : String × ℚ) : Pass :=
  if p.raised ∨ item.1 ∈ c.detectedHexes then p
  else if fovDisappearMemoryS < c.now - item.2 then { p with memory := p.memory.erase item.1 }
  else if fovMaxEventsPerNodeCycle ≤ p.events.length then p
  else match c.adsbAircraft.get? item.1 with
    | none => p
    | some entry =>
        match entry.lat, entry.lon with
        | some lat, some lon =>
            if fovEventMaxAdsbAgeS < c.now - entry.lastSeenMs / 1000 then p
            else if c.inFov geo fov lat lon then record c p item.1 lat lon
            else p
        | _, _ => p

def remember (c : Cycle) (memory : Memory) : Memory := c.detectedHexes.foldl (fun m hexCode => m.insert hexCode c.now) memory

/-- A node that has not been heard from is not failing to detect: nothing is scored for it. -/
def pass (c : Cycle) (memory : Memory) : Pass :=
  if memory.items = [] ∨ c.live = false then ⟨memory, [], false⟩
  else match c.learnedFov with
    | none => ⟨memory, [], false⟩
    | some fov => memory.items.foldl (consider geo c fov) ⟨memory, [], false⟩

/-- Every node's memory. -/
abbrev DetectedRecently := Dict String Memory

def memoryOf (s : DetectedRecently) (nodeId : String) : Memory := (s.get? nodeId).getD .empty

def refreshDisappearanceDetector (s : DetectedRecently) (c : Cycle) : DetectedRecently × List NegativeEvent :=
  let p := pass geo c (remember c (memoryOf s c.nodeId))
  (s.insert c.nodeId p.memory, p.events)

def step (s : DetectedRecently) (c : Cycle) : DetectedRecently := (refreshDisappearanceDetector geo s c).1

/-- The events a cycle records after a run of others. -/
def eventsAfter (before : List Cycle) (c : Cycle) : List NegativeEvent :=
  (refreshDisappearanceDetector geo (run (step geo) .empty before) c).2

end

/-! ### One pass -/

/-- What warrants an event: the hex is remembered and not detected, and a fix of it that is fresh enough is inside the
learned FOV of a node that is live. -/
structure Warranted (geo : Geodesy) (c : Cycle) (memory : Memory) (e : NegativeEvent) : Prop where
  live : c.live = true
  undetected : e.hexCode ∉ c.detectedHexes
  remembered : ∃ seen, memory.get? e.hexCode = some seen ∧ c.now - seen ≤ fovDisappearMemoryS
  fixed : ∃ entry, c.adsbAircraft.get? e.hexCode = some entry ∧ entry.lat = some e.lat ∧ entry.lon = some e.lon ∧
    c.now - entry.lastSeenMs / 1000 ≤ fovEventMaxAdsbAgeS
  inside : ∃ fov, c.learnedFov = some fov ∧ c.inFov geo fov e.lat e.lon = true

/-- A step of the pass records nothing and forgets at most its own hex, or records one warranted event for it. -/
theorem consider_cases (geo : Geodesy) {c : Cycle} {fov : ℚ → ℚ → Bool} (live : c.live = true)
    (learned : c.learnedFov = some fov) (memory : Memory) {item : String × ℚ}
    (held : memory.get? item.1 = some item.2) (p : Pass) :
    ((consider geo c fov p item).events = p.events ∧
      ∀ h seen, (consider geo c fov p item).memory.get? h = some seen → p.memory.get? h = some seen) ∨
      ∃ lat lon, Warranted geo c memory ⟨item.1, lat, lon⟩ ∧ p.events.length < fovMaxEventsPerNodeCycle ∧
        (consider geo c fov p item).events = p.events ++ [⟨item.1, lat, lon⟩] ∧
        (consider geo c fov p item).memory = p.memory.erase item.1 := by
  have same : p.events = p.events ∧ ∀ h seen, p.memory.get? h = some seen → p.memory.get? h = some seen :=
    ⟨rfl, fun _ _ found => found⟩
  rw [consider]
  split
  · exact .inl same
  · rename_i going
    obtain ⟨-, undetected⟩ := not_or.mp going
    split
    · refine .inl ⟨rfl, fun h seen found => ?_⟩
      rw [Dict.get?_erase] at found
      split at found
      · cases found
      · exact found
    · rename_i recent
      split
      · exact .inl same
      · rename_i spare
        split
        · exact .inl same
        · rename_i entry stored
          split
          · rename_i lat lon atLat atLon
            split
            · exact .inl same
            · rename_i fresh
              split
              · rename_i inside
                rw [record]
                split
                · refine .inr ⟨lat, lon, ⟨live, undetected, ⟨item.2, held, not_lt.mp recent⟩,
                    ⟨entry, stored, atLat, atLon, not_lt.mp fresh⟩, fov, learned, inside⟩, not_le.mp spare, rfl, rfl⟩
                · exact .inl same
                · exact .inl same
              · exact .inl same
          · exact .inl same

/-- What a pass keeps: each hex it has recorded is forgotten and recorded once, on its warrant, and no more are
recorded than the cap. -/
structure Scored (geo : Geodesy) (c : Cycle) (memory : Memory) (p : Pass) : Prop where
  kept : ∀ h seen, p.memory.get? h = some seen → memory.get? h = some seen
  warranted : ∀ e ∈ p.events, Warranted geo c memory e
  forgotten : ∀ e ∈ p.events, p.memory.get? e.hexCode = none
  once : (p.events.map NegativeEvent.hexCode).Nodup
  capped : p.events.length ≤ fovMaxEventsPerNodeCycle

theorem Scored.start (geo : Geodesy) (c : Cycle) (memory : Memory) : Scored geo c memory ⟨memory, [], false⟩ :=
  ⟨fun _ _ found => found, by simp, by simp, List.nodup_nil, Nat.zero_le _⟩

theorem Scored.consider (scored : Scored geo c memory p) (live : c.live = true) (learned : c.learnedFov = some fov)
    (held : memory.get? item.1 = some item.2) (new : ∀ e ∈ p.events, e.hexCode ≠ item.1) :
    Scored geo c memory (consider geo c fov p item) := by
  rcases consider_cases geo live learned memory held p with ⟨events, kept⟩ | ⟨lat, lon, warranted, spare, events, erased⟩
  · refine ⟨fun h seen found => scored.kept h seen (kept h seen found), ?_, ?_, ?_, ?_⟩
    · rw [events]
      exact scored.warranted
    · intro e member
      rw [events] at member
      refine Option.eq_none_iff_forall_ne_some.mpr fun seen found => ?_
      cases (scored.forgotten e member).symm.trans (kept _ seen found)
    · rw [events]
      exact scored.once
    · rw [events]
      exact scored.capped
  · constructor
    · intro h seen found
      rw [erased, Dict.get?_erase] at found
      split at found
      · cases found
      · exact scored.kept h seen found
    · intro e member
      rw [events, List.mem_append, List.mem_singleton] at member
      rcases member with old | rfl
      · exact scored.warranted e old
      · exact warranted
    · intro e member
      rw [events, List.mem_append, List.mem_singleton] at member
      rw [erased, Dict.get?_erase]
      rcases member with old | rfl
      · rw [if_neg (Ne.symm (new e old)), scored.forgotten e old]
      · exact if_pos rfl
    · rw [events, List.map_append, List.nodup_append]
      refine ⟨scored.once, List.nodup_singleton _, fun h earlier h' own same => ?_⟩
      obtain ⟨e, member, rfl⟩ := List.mem_map.mp earlier
      exact new e member (same.trans (List.mem_singleton.mp own))
    · rw [events, List.length_append]
      exact spare

theorem Scored.foldl (live : c.live = true) (learned : c.learnedFov = some fov) (items : List (String × ℚ))
    (distinct : (items.map Prod.fst).Nodup) (held : ∀ item ∈ items, memory.get? item.1 = some item.2)
    (scored : Scored geo c memory p) (new : ∀ e ∈ p.events, e.hexCode ∉ items.map Prod.fst) :
    Scored geo c memory (items.foldl (Disappearance.consider geo c fov) p) := by
  induction items generalizing p with
  | nil => exact scored
  | cons item rest ih =>
    obtain ⟨single, distinct⟩ := List.nodup_cons.mp distinct
    have here := held item List.mem_cons_self
    have others : ∀ e ∈ p.events, e.hexCode ≠ item.1 ∧ e.hexCode ∉ rest.map Prod.fst := fun e member =>
      not_or.mp (List.mem_cons.not.mp (new e member))
    refine ih distinct (fun i member => held i (List.mem_cons_of_mem _ member))
      (scored.consider live learned here fun e member => (others e member).1) fun e member => ?_
    rcases consider_cases geo live learned memory here p with ⟨events, -⟩ | ⟨lat, lon, -, -, events, -⟩
    · rw [events] at member
      exact (others e member).2
    · rw [events, List.mem_append, List.mem_singleton] at member
      rcases member with old | rfl
      · exact (others e old).2
      · exact single

theorem scored_pass (geo : Geodesy) (c : Cycle) (memory : Memory) : Scored geo c memory (pass geo c memory) := by
  rw [pass]
  split
  · exact .start geo c memory
  · rename_i scoring
    split
    · exact .start geo c memory
    · rename_i fov learned
      have live : c.live = true := Bool.not_eq_false _ ▸ (not_or.mp scoring).2
      exact .foldl live learned memory.items memory.nodup (fun item member => (Dict.get?_eq_some_iff ..).mpr member)
        (.start geo c memory) (by simp)

/-! ### Runs -/

/-- The node detected the hex at `seen`, and no event has been recorded for the two of them since. -/
def Sighted (geo : Geodesy) (before : List Cycle) (nodeId hexCode : String) (seen : ℚ) : Prop :=
  ∃ first sighting later, before = first ++ sighting :: later ∧ sighting.nodeId = nodeId ∧
    hexCode ∈ sighting.detectedHexes ∧ sighting.now = seen ∧
    ∀ between c rest, later = between ++ c :: rest → c.nodeId = nodeId →
      ∀ e ∈ eventsAfter geo (first ++ sighting :: between) c, e.hexCode ≠ hexCode

theorem Sighted.append (sighted : Sighted geo before nodeId hexCode seen)
    (quiet : c.nodeId = nodeId → ∀ e ∈ eventsAfter geo before c, e.hexCode ≠ hexCode) :
    Sighted geo (before ++ [c]) nodeId hexCode seen := by
  obtain ⟨first, sighting, later, rfl, own, detected, rfl, unreported⟩ := sighted
  refine ⟨first, sighting, later ++ [c], by simp, own, detected, rfl, fun between c' rest split same => ?_⟩
  rcases List.eq_nil_or_concat rest with rfl | ⟨rest, last, rfl⟩
  · obtain ⟨rfl, tail⟩ := List.append_inj' split rfl
    obtain ⟨rfl, -⟩ := List.cons.inj tail
    exact quiet same
  · rw [List.concat_eq_append, ← List.cons_append, ← List.append_assoc] at split
    exact unreported between c' rest (List.append_inj_left' split rfl) same

theorem get?_remember (c : Cycle) (memory : Memory) (hexCode : String) :
    (remember c memory).get? hexCode = if hexCode ∈ c.detectedHexes then some c.now else memory.get? hexCode :=
  Dict.get?_foldl_insert_const c.detectedHexes c.now memory hexCode

theorem memoryOf_step (geo : Geodesy) (s : DetectedRecently) (c : Cycle) (nodeId : String) :
    memoryOf (step geo s c) nodeId =
      if c.nodeId = nodeId then (pass geo c (remember c (memoryOf s c.nodeId))).memory else memoryOf s nodeId := by
  rw [memoryOf, step, refreshDisappearanceDetector, Dict.get?_insert]
  split
  · rfl
  · rfl

/-- What a node remembers it has sighted, and not lost in an event since. -/
theorem sighted_of_remembered (geo : Geodesy) (cycles : List Cycle)
    (held : (memoryOf (run (step geo) .empty cycles) nodeId).get? hexCode = some seen) :
    Sighted geo cycles nodeId hexCode seen := by
  induction cycles using List.reverseRecOn generalizing nodeId hexCode seen with
  | nil => cases held
  | append_singleton before c ih =>
    rw [run_append, run_cons, run_nil, memoryOf_step] at held
    have scored := scored_pass geo c (remember c (memoryOf (run (step geo) .empty before) c.nodeId))
    split at held
    · rename_i own
      have kept := scored.kept hexCode seen held
      rw [get?_remember] at kept
      split at kept
      · rename_i detected
        refine ⟨before, c, [], rfl, own, detected, Option.some.inj kept, fun between _ _ split => ?_⟩
        exact absurd split (by simp)
      · -- a recorded hex is forgotten, so none was recorded for this one
        refine (ih (own ▸ kept)).append fun _ e recorded same => ?_
        cases (scored.forgotten e recorded).symm.trans (same ▸ held)
    · rename_i other
      exact (ih held).append fun own => absurd own other

/-- In every run of cycles of any nodes: a cycle records at most the cap, each hex once; and each event is of a node
that is live, for a hex that the node had detected within the memory's span and does not detect now, at a fix that is
fresh enough and inside the learned FOV. After an event the node detects the hex again before the next. -/
theorem event_needs_disappearance (geo : Geodesy) (before : List Cycle) (c : Cycle) :
    (eventsAfter geo before c).length ≤ fovMaxEventsPerNodeCycle ∧
      ((eventsAfter geo before c).map NegativeEvent.hexCode).Nodup ∧
      ∀ e ∈ eventsAfter geo before c,
        c.live = true ∧
        (∃ sighting ∈ before, sighting.nodeId = c.nodeId ∧ e.hexCode ∈ sighting.detectedHexes ∧
          c.now - sighting.now ≤ fovDisappearMemoryS) ∧
        (∃ fov, c.learnedFov = some fov ∧ c.inFov geo fov e.lat e.lon = true) ∧
        (∃ entry, c.adsbAircraft.get? e.hexCode = some entry ∧ entry.lat = some e.lat ∧ entry.lon = some e.lon ∧
          c.now - entry.lastSeenMs / 1000 ≤ fovEventMaxAdsbAgeS) ∧
        ∀ first c' between, before = first ++ c' :: between → c'.nodeId = c.nodeId →
          (∃ e' ∈ eventsAfter geo first c', e'.hexCode = e.hexCode) →
          ∃ sighting ∈ between, sighting.nodeId = c.nodeId ∧ e.hexCode ∈ sighting.detectedHexes := by
  have scored := scored_pass geo c (remember c (memoryOf (run (step geo) .empty before) c.nodeId))
  refine ⟨scored.capped, scored.once, fun e recorded => ?_⟩
  have warranted := scored.warranted e recorded
  obtain ⟨seen, held, recent⟩ := warranted.remembered
  rw [get?_remember, if_neg warranted.undetected] at held
  obtain ⟨start, sighting, later, whole, own, detected, rfl, unreported⟩ := sighted_of_remembered geo before held
  refine ⟨warranted.live, ⟨sighting, whole ▸ by simp, own, detected, recent⟩, warranted.inside, warranted.fixed, ?_⟩
  rintro first c' between split same ⟨e', reported, hex⟩
  have elsewhere : ∀ start, ∀ e' ∈ eventsAfter geo start sighting, e'.hexCode ≠ e.hexCode := fun start e' reported hex =>
    ((scored_pass geo sighting _).warranted e' reported).undetected (hex ▸ detected)
  rw [whole] at split
  rcases List.append_eq_append_iff.mp split with ⟨middle, rfl, tail⟩ | ⟨middle, rfl, tail⟩
  · -- the event is recorded in the cycle of the sighting, or after it
    cases middle with
    | nil =>
      obtain ⟨rfl, -⟩ := List.cons.inj tail
      exact absurd hex (elsewhere _ e' reported)
    | cons _ middle =>
      obtain ⟨rfl, rest⟩ := List.cons.inj tail
      exact absurd hex (unreported middle c' between rest same e' reported)
  · cases middle with
    | nil =>
      obtain ⟨rfl, -⟩ := List.cons.inj tail
      exact absurd hex (elsewhere _ e' reported)
    | cons _ middle =>
      obtain ⟨rfl, rest⟩ := List.cons.inj tail
      exact ⟨sighting, rest ▸ by simp, own, detected⟩

end Retina.Analytics.Disappearance
