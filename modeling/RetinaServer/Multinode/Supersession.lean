import RetinaServer.Multinode.Keying

/-! Which existing entries a publish removes: those that are this aircraft under
another key, and the coasting key that a mint replaces. -/
namespace Retina.Multinode

def mnSupersedeBaseKm : ℚ := 4
def mnSupersedeMaxAltDiffM : ℚ := 1000
def mnStaleCoastBaseKm : ℚ := 2

structure CoastSettings where
  mnStaleCoastEnabled : Bool := true
  mnStaleCoastMinS : ℚ := 4
  mnStaleCoastMaxS : ℚ := 60
  mnStaleCoastMaxKm : ℚ := 10
  mnStaleCoastVmaxMs : ℚ := 350
  mnStaleCoastManoeuvre : ℚ := 3 / 10

/-- An unknown altitude on either side passes. -/
def altOk (oldAlt newAlt : Option ℚ) : Bool :=
  match oldAlt, newAlt with
  | some old, some new => decide (|new - old| ≤ mnSupersedeMaxAltDiffM)
  | _, _ => true

section
variable (ctx : KeyingContext)

/-- How far the solve landed from the entry at the solve's epoch, when that can be asked. -/
def drDistKm (oldKey : String) (oldR : TrackEntry) (rawLat rawLon dt : ℚ) : Option ℚ :=
  if dt < -mnAssocMaxNegDtS ∨ mnAssocMaxAgeS < dt then none
  else match oldR.lat, oldR.lon with
    | some lat, some lon =>
        let (pLat, pLon) := deadReckon ctx oldKey oldR lat lon dt
        some (ctx.geodesy.haversineKm rawLat rawLon pLat pLon)
    | _, _ => none

def supersessionMatch (oldKey : String) (oldR : TrackEntry) (newIds : List String) (rawLat rawLon tsS : ℚ)
    (altM : Option ℚ) : Bool × Option ℚ :=
  let dt := tsS - oldR.tsS
  let gate := mnAssocGateKm dt mnSupersedeBaseKm
  let dist := drDistKm ctx oldKey oldR rawLat rawLon dt
  let alike := altOk oldR.altM altM
  let near := alike && dist.any fun d => decide (d ≤ gate)
  let sameInputs := alike && !oldR.sourceTrackIds.isEmpty &&
    oldR.sourceTrackIds.all (fun tid => decide (tid ∈ newIds)) && dist.all fun d => decide (d ≤ 2 * gate)
  (near || sameInputs, dist)

/-- Why a mint retired nothing. -/
inductive CoastRefusal where
  | alt
  | evidence
  | none
deriving DecidableEq, Repr

structure CoastScan where
  best : Option (String × ℚ) := Option.none
  sawAltRefusal : Bool := false
  sawEvidenceRefusal : Bool := false

/-- The turn evidence against a candidate: it was dropped by the follow lane, or
its filter is still engaged. -/
structure TurnEvidence where
  wasDropped : String → Bool
  manoeuvreLevel : String → Option ℚ

def coastStep (cfg : CoastSettings) (evidence : TurnEvidence) (newKey : String) (rawLat rawLon tsS : ℚ)
    (altM : Option ℚ) (scan : CoastScan) (oldKey : String) (oldR : TrackEntry) : CoastScan :=
  if oldKey = newKey ∨ !oldKey.startsWith darkPrefix then scan
  else
    let dt := tsS - oldR.tsS
    if dt < cfg.mnStaleCoastMinS ∨ cfg.mnStaleCoastMaxS < dt then scan
    else match oldR.lat, oldR.lon with
      | some lat, some lon =>
          let distKm := ctx.geodesy.haversineKm rawLat rawLon lat lon
          if min cfg.mnStaleCoastMaxKm (cfg.mnStaleCoastVmaxMs * dt / 1000 + mnStaleCoastBaseKm) < distKm then scan
          else if !altOk oldR.altM altM then { scan with sawAltRefusal := true }
          else if !(evidence.wasDropped oldKey ||
              (evidence.manoeuvreLevel oldKey).any fun m => decide (cfg.mnStaleCoastManoeuvre < m))
          then { scan with sawEvidenceRefusal := true }
          else if scan.best.all fun held => decide (distKm < held.2)
          then { scan with best := some (oldKey, distKm) }
          else scan
      | _, _ => scan

def staleCoastCandidate (cfg : CoastSettings) (evidence : TurnEvidence) (tracks : Tracks) (newKey : String)
    (rawLat rawLon tsS : ℚ) (altM : Option ℚ) : Except CoastRefusal String :=
  let scan := tracks.items.foldl (fun scan item =>
    coastStep ctx cfg evidence newKey rawLat rawLon tsS altM scan item.1 item.2) {}
  match scan.best with
  | some (key, _) => .ok key
  | Option.none => .error (if scan.sawEvidenceRefusal then .evidence else if scan.sawAltRefusal then .alt else .none)

theorem coastStep_best {P : String → TrackEntry → Prop} (scan : CoastScan)
    (held : ∀ best ∈ scan.best, ∃ r, P best.1 r)
    (here : oldKey ≠ newKey → oldKey.startsWith darkPrefix = true → P oldKey oldR) :
    ∀ best ∈ (coastStep ctx cfg evidence newKey rawLat rawLon tsS altM scan oldKey oldR).best,
      ∃ r, P best.1 r := by
  unfold coastStep
  split
  · exact held
  · rename_i other
    have distinct := (not_or.mp other).1
    have dark : oldKey.startsWith darkPrefix = true := by simpa using (not_or.mp other).2
    dsimp only
    split
    · exact held
    · split
      · split
        · exact held
        · split
          · exact held
          · split
            · exact held
            · split
              · intro best same
                obtain rfl := Option.some.inj same
                exact ⟨oldR, here distinct dark⟩
              · exact held
      · exact held

/-- The retired key is another live dark one. -/
theorem staleCoastCandidate_live
    (found : staleCoastCandidate ctx cfg evidence tracks newKey rawLat rawLon tsS altM = .ok key) :
    ∃ r, key ≠ newKey ∧ key.startsWith darkPrefix = true ∧ tracks.get? key = some r := by
  have scanned (items : List (String × TrackEntry)) (live : ∀ item ∈ items, item ∈ tracks.items) (scan : CoastScan)
      (held : ∀ best ∈ scan.best, ∃ r, best.1 ≠ newKey ∧ best.1.startsWith darkPrefix = true ∧ tracks.get? best.1 = some r) :
      ∀ best ∈ (items.foldl (fun scan item =>
        coastStep ctx cfg evidence newKey rawLat rawLon tsS altM scan item.1 item.2) scan).best,
        ∃ r, best.1 ≠ newKey ∧ best.1.startsWith darkPrefix = true ∧ tracks.get? best.1 = some r := by
    induction items generalizing scan with
    | nil => exact held
    | cons item rest ih =>
      obtain ⟨here, later⟩ := List.forall_mem_cons.mp live
      refine ih later _ (coastStep_best
        (P := fun k r => k ≠ newKey ∧ k.startsWith darkPrefix = true ∧ tracks.get? k = some r) ctx scan held ?_)
      intro distinct dark
      exact ⟨distinct, dark, (Dict.get?_eq_some_iff tracks _ _).mpr here⟩
  unfold staleCoastCandidate at found
  dsimp only at found
  split at found
  · rename_i best dist chosen
    obtain rfl : best = key := by simpa using found
    exact scanned tracks.items (fun _ member => member) {} (by simp) (best, dist) chosen
  · cases found

theorem staleCoastCandidate_ok
    (found : staleCoastCandidate ctx cfg evidence tracks newKey rawLat rawLon tsS altM = .ok key) :
    key ≠ newKey ∧ ∃ r, tracks.get? key = some r := by
  obtain ⟨r, distinct, -, live⟩ := staleCoastCandidate_live ctx found
  exact ⟨distinct, r, live⟩

end

end Retina.Multinode
