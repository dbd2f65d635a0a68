import RetinaServer.Feed.Dedup
import RetinaServer.Library.Partial
import RetinaServer.Library.Runs
import RetinaServer.Feed.TrackEntry
import RetinaServer.Known.Lifetimes

/-! Claimed transponders that no solve is drawing, as entries of the map: where the
fix says the aircraft is now, under the flight that the cache has for it. -/
namespace Retina.FeedBuild
open Tcp (Json Fields get)
open Feed (FeedEntry PositionSource)
open Frames (RawNumber Trig asNum knotsToMs)
open Known (KnownClaim Fix)
open Rounding (roundTo)

def claimedDisplayMaxFixAgeS : ℚ := 10

/-- One node draws an arc under its own name, several are named together. -/
inductive Claimers where
  | single (nodeId : String) (delayUs dopplerHz : ℚ) (ambiguityArc : Option Arc)
  | multi (contributingNodeIds : List String)

structure ClaimedEntry where
  hex : String
  flight : Option String
  lat : ℚ
  lon : ℚ
  altBaro : Option RawNumber
  gs : Option RawNumber
  track : Option RawNumber
  seen : ℚ
  adsbStale : Bool
  adsbFixAgeS : ℚ
  claimers : Claimers

def RawNumber.finite? : RawNumber → Option ℚ
  | .num x => some x
  | .other _ => none

def ClaimedEntry.feedEntry (e : ClaimedEntry) : FeedEntry where
  hex := e.hex
  lat := some e.lat
  lon := some e.lon
  altBaro := e.altBaro.bind RawNumber.finite?
  positionSource := match e.claimers with
    | .single _ _ _ _ => some .adsbSingleNode
    | .multi _ => some .adsbMultiNode
  nNodes := match e.claimers with
    | .single _ _ _ _ => none
    | .multi nodes => some nodes.length
  seen := some e.seen
  multinode := false
  nodeId := match e.claimers with
    | .single nodeId _ _ _ => Json.ident? (.str nodeId)
    | .multi _ => none
  contributingNodeIds := match e.claimers with
    | .single _ _ _ _ => none
    | .multi nodes => some (nodes.filterMap fun n => Json.ident? (.str n))
  groundTruthHex := none

/-- The newer fix leads, then the newer claim. -/
def newerFix (anchor : Option (KnownClaim × Fix)) (claim : KnownClaim) : Option (KnownClaim × Fix) :=
  match claim.carried with
  | .follow _ => anchor
  | .adsb fix => match anchor with
    | none => some (claim, fix)
    | some (c, f) =>
        if f.fixTsMs < fix.fixTsMs ∨ (f.fixTsMs = fix.fixTsMs ∧ c.tsMs < claim.tsMs) then some (claim, fix) else anchor

/-- The claim that a hex is drawn by, and its fix: there is a fresh one, the lane binds, no solve of several nodes' claims is
on the map, and the fix is dated and young. -/
def anchorOf (now : ℚ) (binding : Bool) (published : List String) (hexn : String) (fresh : Dict String KnownClaim) :
    Option (KnownClaim × Fix) :=
  if fresh.size = 0 ∨ binding = false ∨ (2 ≤ fresh.size ∧ hexn ∈ published) then none
  else (fresh.values.foldl newerFix none).filter fun anchor =>
    decide (0 < anchor.2.fixTsMs ∧ now - anchor.2.fixTsMs / 1000 ≤ claimedDisplayMaxFixAgeS)

/-- The cached flight, stripped; `none` where what is cached is neither text nor nothing. -/
def flightOf (adsbAircraft : Dict String Fields) (hexn : String) : Option String :=
  let flight := get ((adsbAircraft.get? hexn).getD []) "flight" .null
  if flight.truthy then match flight with
    | .str s => some (String.ofList (Frames.stripSpaces s.toList))
    | _ => none
  else some ""

section
variable {τ σ : Type} (trig : Trig) (geo : Geodesy) (gates : Gates τ σ)

/-- The fix carried on to now along its own speed and track. -/
def reckoned (fix : Fix) (dt : ℚ) : ℚ × ℚ :=
  let gsMs := asNum (fix.gs.getD (.num 0)) * knotsToMs
  let east := gsMs * trig.sinDeg (asNum (fix.track.getD (.num 0)))
  let north := gsMs * trig.cosDeg (asNum (fix.track.getD (.num 0)))
  if 0 < dt ∧ (east ≠ 0 ∨ north ≠ 0) then geo.offsetLatlonM fix.lat fix.lon (east * dt) (north * dt) else (fix.lat, fix.lon)

def claimersOf (configs : Dict String Fields) (fresh : Dict String KnownClaim) : Claimers :=
  match fresh.items with
  | [(nodeId, claim)] => .single nodeId (roundTo 3 claim.delayUs) (roundTo 2 claim.dopplerHz)
      (((configs.get? nodeId).filter fun cfg => !cfg.isEmpty).bind fun cfg => gates.publicArc claim.delayUs cfg)
  | _ => .multi (fresh.keys.insertionSort (· ≤ ·))

/-- `_claimed_entry`; the outer `none` is an exception, the inner one no entry. -/
def claimedEntry (adsbAircraft configs : Dict String Fields) (now : ℚ) (binding : Bool) (published : List String)
    (hexn : String) (queue : List KnownClaim) : Option (Option ClaimedEntry) :=
  let fresh := Lifetimes.freshClaims now queue
  match anchorOf now binding published hexn fresh with
  | none => some none
  | some (anchor, fix) => (flightOf adsbAircraft hexn).map fun flight =>
      let ageS := max 0 (now - fix.fixTsMs / 1000)
      let at_ := reckoned trig geo fix ageS
      let newest := ((fresh.values.map KnownClaim.tsMs).max?).getD 0
      some {
        hex := hexn
        flight := if flight = "" then none else some flight
        lat := roundTo 5 at_.1
        lon := roundTo 5 at_.2
        altBaro := fix.altBaro
        gs := fix.gs
        track := fix.track
        seen := roundTo 1 (max 0 (now - newest / 1000))
        adsbStale := anchor.holdGapS.isSome
        adsbFixAgeS := roundTo 1 ageS
        claimers := claimersOf gates configs fresh }

/-- The hex is drawn by its claims, and what is cached for its flight is neither text nor nothing. -/
def SickClaim (adsbAircraft : Dict String Fields) (now : ℚ) (binding : Bool) (published : List String) (hexn : String)
    (queue : List KnownClaim) : Prop :=
  (anchorOf now binding published hexn (Lifetimes.freshClaims now queue)).isSome = true ∧
    (get ((adsbAircraft.get? hexn).getD []) "flight" .null).truthy = true ∧
    ∀ s, get ((adsbAircraft.get? hexn).getD []) "flight" .null ≠ .str s

theorem flightOf_fails_iff (adsbAircraft : Dict String Fields) (hexn : String) :
    flightOf adsbAircraft hexn = none ↔
      (get ((adsbAircraft.get? hexn).getD []) "flight" .null).truthy = true ∧
        ∀ s, get ((adsbAircraft.get? hexn).getD []) "flight" .null ≠ .str s := by
  rw [flightOf]
  generalize get ((adsbAircraft.get? hexn).getD []) "flight" .null = flight
  cases truthy : flight.truthy with
  | false => simp
  | true => cases flight <;> simp

theorem claimedEntry_fails_iff (adsbAircraft configs : Dict String Fields) (now : ℚ) (binding : Bool)
    (published : List String) (hexn : String) (queue : List KnownClaim) :
    claimedEntry trig geo gates adsbAircraft configs now binding published hexn queue = none ↔
      SickClaim adsbAircraft now binding published hexn queue := by
  rw [SickClaim, ← flightOf_fails_iff, claimedEntry]
  cases anchorOf now binding published hexn (Lifetimes.freshClaims now queue) with
  | none => simp
  | some anchor => simp

end
end Retina.FeedBuild

/-! The build of the map's aircraft: geolocated tracks, the default pipeline's own, the
solves of several nodes and the claimed transponders. Only a solve's computation is
guarded, so that its failure costs the solve alone. -/
namespace Retina.FeedBuild
open Runs Collecting
open Tcp (Json Fields PyText Listener get storePositions)
open Feed (FeedEntry dedupAircraft)
open Frames (Trig)
open Known (KnownClaim)
open Multinode (adsbPrefix mnAssistedExpiryS)

def staleTrackS : ℚ := 120
def mnN2MinSolves : Nat := 2
def mnOneshotTtlS : ℚ := 15

/-- A multinode solve as the build reads it; `record` is what only its own entry is made of. -/
structure Solve (ρ : Type) where
  timestampMs : ℚ
  solveCount : Nat
  nNodes : Nat
  record : ρ

structure SolvedEntry where
  entry : FeedEntry
  adsbHex : Option String
  recentPositions : List (List ℚ)

inductive MapEntry where
  | tracked (e : TrackEntry)
  | solved (e : SolvedEntry)
  | claimed (e : ClaimedEntry)

def MapEntry.feedEntry : MapEntry → FeedEntry
  | .tracked e => e.feedEntry
  | .solved e => e.entry
  | .claimed e => e.feedEntry

structure Setting (τ σ ρ : Type) where
  text : PyText
  trig : Trig
  geo : Geodesy
  gates : Gates τ σ
  /-- `_multinode_entry` with its `adsb_hex`, or nothing where it raises. -/
  multinodeEntry : String → Solve ρ → ℚ → Option (FeedEntry × Option String)
  mnDarkExpiryS : ℚ

structure MapState (τ σ ρ : Type) where
  adsbAircraft : Dict String Fields
  externalAdsb : Dict String Fields
  activeGeoAircraft : Dict String (Track τ × Fields)
  defaultTracks : List (Track τ)
  defaultConfig : Fields
  multinodeTracks : Dict String (Solve ρ)
  knownClaims : Dict String (List KnownClaim)
  /-- The configurations of the nodes that have a pipeline. -/
  configs : Dict String Fields
  binding : Bool
  memory : σ

/-- The entries in the order they were made in, and the aircraft that are left of them. -/
structure Payload where
  entries : List MapEntry
  aircraft : List FeedEntry

section
variable {τ σ ρ : Type} (cfg : Setting τ σ ρ) (now : ℚ) (s : MapState τ σ ρ)

/-! ### The sections -/

/-- A track under the hex it would be drawn by. -/
structure Candidate (τ : Type) where
  hex : String
  track : Track τ
  config : Fields

def isLive (track : Track τ) : Bool := decide (now - track.wallClockTs ≤ staleTrackS)

/-- `track.adsb_hex or track.hex_id`. -/
def drawnHex (track : Track τ) : String := (track.adsbHex.filter fun hex => decide (hex ≠ "")).getD track.hexId

def geoCandidates : List (Candidate τ) :=
  (s.activeGeoAircraft.items.filter fun item => isLive now item.2.1).map fun item => ⟨item.1, item.2.1, item.2.2⟩

def staleGeo : List String := (s.activeGeoAircraft.filter fun _ item => !isLive now item.1).keys

def geoHexes : List String := (geoCandidates now s).map Candidate.hex

/-- The default pipeline's tracks that are live and not drawn before. -/
def defaultCandidates : List (Candidate τ) :=
  (firsts drawnHex (geoHexes now s) (s.defaultTracks.filter (isLive now))).map fun track =>
    ⟨drawnHex track, track, s.defaultConfig⟩

def seenHexes : List String := geoHexes now s ++ (defaultCandidates now s).map Candidate.hex

def expiryS (key : String) : ℚ := if key.startsWith adsbPrefix then mnAssistedExpiryS else cfg.mnDarkExpiryS

def pruneMultinodeTracks : Dict String (Solve ρ) :=
  s.multinodeTracks.filter fun key r => decide (now - r.timestampMs / 1000 ≤ expiryS cfg key)

/-- A solve that waits for another to confirm it. -/
def isHeld (r : Solve ρ) : Bool :=
  let solveCount := if r.solveCount = 0 then 1 else r.solveCount
  decide ((r.nNodes = 2 ∧ solveCount < mnN2MinSolves) ∨
    (3 ≤ r.nNodes ∧ solveCount = 1 ∧ mnOneshotTtlS < now - r.timestampMs / 1000))

/-- A solve's entry; one that raises is passed over. -/
def readySolve (item : String × Solve ρ) : Option (FeedEntry × Option String) :=
  if isHeld now item.2 then none else cfg.multinodeEntry item.1 item.2 now

def solvedCandidates : List (FeedEntry × Option String) :=
  firsts (fun e => e.1.hex) (seenHexes now s) ((pruneMultinodeTracks cfg now s).items.filterMap (readySolve cfg now))

def publishedHexes : List String := (solvedCandidates cfg now s).filterMap fun e => e.2.filter fun hex => decide (hex ≠ "")

def drawTrack (memory : σ) (c : Candidate τ) : σ × Option (Option MapEntry) :=
  let made := trackEntry cfg.text cfg.gates s.adsbAircraft s.externalAdsb now memory c.hex c.track c.config
  (made.1, made.2.map fun entry => entry.map .tracked)

def drawSolve (memory : σ) (e : FeedEntry × Option String) : σ × Option (Option MapEntry) :=
  let made := cfg.gates.trail memory now e.1
  (made.2, some (some (.solved ⟨{ e.1 with groundTruthHex := made.1.1 }, e.2, made.1.2⟩)))

def drawClaim (published : List String) (memory : σ) (item : String × List KnownClaim) : σ × Option (Option MapEntry) :=
  (memory, (claimedEntry cfg.trig cfg.geo cfg.gates s.adsbAircraft s.configs now s.binding published item.1 item.2).map
    fun entry => entry.map .claimed)

def geoDrawn : σ × Option (List MapEntry) := collect (drawTrack cfg now s) s.memory (geoCandidates now s)

/-- What the memory is once the stale aircraft are dropped from it. -/
def sweptMemory : σ := (staleGeo now s).foldl cfg.gates.drop (geoDrawn cfg now s).1

def defaultDrawn : σ × Option (List MapEntry) :=
  collect (drawTrack cfg now s) (sweptMemory cfg now s) (defaultCandidates now s)

def solvesDrawn : σ × Option (List MapEntry) :=
  collect (drawSolve cfg now) (defaultDrawn cfg now s).1 (solvedCandidates cfg now s)

def claimsDrawn : σ × Option (List MapEntry) :=
  collect (drawClaim cfg now s (publishedHexes cfg now s)) (solvesDrawn cfg now s).1 s.knownClaims.items

def payload (entries : List MapEntry) : Payload := ⟨entries, dedupAircraft cfg.geo (entries.map MapEntry.feedEntry)⟩

/-- `build_combined_aircraft_json`, and what it leaves. Without a payload it has raised, and the sections after the one
that did have not run. -/
def build : MapState τ σ ρ × Option Payload :=
  match (geoDrawn cfg now s).2 with
  | none => ({ s with memory := (geoDrawn cfg now s).1 }, none)
  | some geo =>
      let s₁ := { s with activeGeoAircraft := s.activeGeoAircraft.filter fun _ item => isLive now item.1 }
      match (defaultDrawn cfg now s).2 with
      | none => ({ s₁ with memory := (defaultDrawn cfg now s).1 }, none)
      | some default_ =>
          let s₂ := { s₁ with
            multinodeTracks := pruneMultinodeTracks cfg now s
            memory := (solvesDrawn cfg now s).1 }
          match (solvesDrawn cfg now s).2, (claimsDrawn cfg now s).2 with
          | some solves, some claims => (s₂, some (payload cfg (geo ++ default_ ++ solves ++ claims)))
          | _, _ => (s₂, none)

/-! ### One sick aircraft -/

/-- The computation of a track's entry fails. -/
def trackFails (hex : String) (track : Track τ) (config : Fields) : Bool :=
  (drawTrack cfg now s s.memory ⟨hex, track, config⟩).2.isNone

def claimFails (item : String × List KnownClaim) : Bool :=
  (drawClaim cfg now s (publishedHexes cfg now s) s.memory item).2.isNone

/-- The state in which the entries whose own computation fails are absent. -/
def withoutFailing : MapState τ σ ρ :=
  { s with
    activeGeoAircraft := s.activeGeoAircraft.filter fun hex item => !(isLive now item.1 && trackFails cfg now s hex item.1 item.2)
    defaultTracks := s.defaultTracks.filter fun track => !(isLive now track && trackFails cfg now s (drawnHex track) track s.defaultConfig)
    multinodeTracks := s.multinodeTracks.filter fun key r => isHeld now r || (cfg.multinodeEntry key r now).isSome
    knownClaims := s.knownClaims.filter fun hexn queue => !claimFails cfg now s (hexn, queue) }

/-- The build returns what it would return without the entries that fail, and takes out the geolocated aircraft that have
not been updated for long. -/
structure CostsOnlyItself : Prop where
  returns : (build cfg now s).2 ≠ none
  same : (build cfg now s).2 = (build cfg now (withoutFailing cfg now s)).2
  swept : ∀ hex track config, (build cfg now s).1.activeGeoAircraft.get? hex = some (track, config) → isLive now track = true

/-- No track that the build comes to is sick, and no claimed aircraft that it draws. -/
structure Unharmed : Prop where
  geo : ∀ c ∈ geoCandidates now s, ¬ SickTrack cfg.text cfg.gates s.adsbAircraft s.externalAdsb now c.hex c.track c.config
  default : ∀ c ∈ defaultCandidates now s,
    ¬ SickTrack cfg.text cfg.gates s.adsbAircraft s.externalAdsb now c.hex c.track c.config
  claims : ∀ item ∈ s.knownClaims.items,
    ¬ SickClaim s.adsbAircraft now s.binding (publishedHexes cfg now s) item.1 item.2

variable {cfg now s}

theorem drawTrack_fails_iff (memory : σ) (c : Candidate τ) :
    (drawTrack cfg now s memory c).2 = none ↔
      SickTrack cfg.text cfg.gates s.adsbAircraft s.externalAdsb now c.hex c.track c.config := by
  rw [← trackEntry_fails_iff cfg.text cfg.gates s.adsbAircraft s.externalAdsb now memory]
  exact Option.map_eq_none_iff

theorem drawClaim_fails_iff (published : List String) (memory : σ) (item : String × List KnownClaim) :
    (drawClaim cfg now s published memory item).2 = none ↔
      SickClaim s.adsbAircraft now s.binding published item.1 item.2 := by
  rw [← claimedEntry_fails_iff cfg.trig cfg.geo cfg.gates s.adsbAircraft s.configs]
  exact Option.map_eq_none_iff

theorem geoDrawn_fails_iff : (geoDrawn cfg now s).2 = none ↔ ∃ c ∈ geoCandidates now s,
    SickTrack cfg.text cfg.gates s.adsbAircraft s.externalAdsb now c.hex c.track c.config :=
  collect_fails_iff drawTrack_fails_iff _ _

theorem defaultDrawn_fails_iff : (defaultDrawn cfg now s).2 = none ↔ ∃ c ∈ defaultCandidates now s,
    SickTrack cfg.text cfg.gates s.adsbAircraft s.externalAdsb now c.hex c.track c.config :=
  collect_fails_iff drawTrack_fails_iff _ _

/-- What a solve is drawn by does not raise. -/
theorem solvesDrawn_ne : (solvesDrawn cfg now s).2 ≠ none := by
  have sound (memory : σ) (e : FeedEntry × Option String) : (drawSolve cfg now memory e).2 = none ↔ False := by simp [drawSolve]
  rw [ne_eq, solvesDrawn, collect_fails_iff sound]
  simp

theorem claimsDrawn_fails_iff : (claimsDrawn cfg now s).2 = none ↔ ∃ item ∈ s.knownClaims.items,
    SickClaim s.adsbAircraft now s.binding (publishedHexes cfg now s) item.1 item.2 :=
  collect_fails_iff (drawClaim_fails_iff _) _ _

theorem returns_iff : (build cfg now s).2 ≠ none ↔ Unharmed cfg now s := by
  have unharmed_iff : Unharmed cfg now s ↔
      (geoDrawn cfg now s).2 ≠ none ∧ (defaultDrawn cfg now s).2 ≠ none ∧ (claimsDrawn cfg now s).2 ≠ none := by
    simp only [ne_eq, geoDrawn_fails_iff, defaultDrawn_fails_iff, claimsDrawn_fails_iff, not_exists, not_and]
    exact ⟨fun u => ⟨u.geo, u.default, u.claims⟩, fun u => ⟨u.1, u.2.1, u.2.2⟩⟩
  obtain ⟨solves, drawn⟩ := Option.ne_none_iff_exists'.mp (@solvesDrawn_ne _ _ _ cfg now s)
  rw [unharmed_iff, build]
  cases (geoDrawn cfg now s).2 with
  | none => simp
  | some geo =>
    cases (defaultDrawn cfg now s).2 with
    | none => simp
    | some default_ => cases (claimsDrawn cfg now s).2 <;> simp [drawn]

/-! ### Without the entries that fail -/

theorem activeGeo_withoutFailing (unharmed : Unharmed cfg now s) :
    (withoutFailing cfg now s).activeGeoAircraft = s.activeGeoAircraft := by
  have kept : (withoutFailing cfg now s).activeGeoAircraft =
      s.activeGeoAircraft.filter fun hex item => !(isLive now item.1 && trackFails cfg now s hex item.1 item.2) := rfl
  rw [kept]
  refine Dict.filter_eq_self fun hex item listed => ?_
  cases live : isLive now item.1 with
  | false => rfl
  | true =>
    have candidate : (⟨hex, item.1, item.2⟩ : Candidate τ) ∈ geoCandidates now s :=
      List.mem_map.mpr ⟨(hex, item), List.mem_filter.mpr ⟨listed, live⟩, rfl⟩
    have drawn := mt (drawTrack_fails_iff s.memory ⟨hex, item.1, item.2⟩).mp (unharmed.geo _ candidate)
    simpa [trackFails, Option.isSome_iff_ne_none] using drawn

theorem knownClaims_withoutFailing (unharmed : Unharmed cfg now s) :
    (withoutFailing cfg now s).knownClaims = s.knownClaims := by
  have kept : (withoutFailing cfg now s).knownClaims =
      s.knownClaims.filter fun hexn queue => !claimFails cfg now s (hexn, queue) := rfl
  rw [kept]
  refine Dict.filter_eq_self fun hexn queue listed => ?_
  have drawn : (drawClaim cfg now s (publishedHexes cfg now s) s.memory (hexn, queue)).2 ≠ none :=
    mt (drawClaim_fails_iff (publishedHexes cfg now s) s.memory (hexn, queue)).mp (unharmed.claims _ listed)
  simpa [claimFails, Option.isSome_iff_ne_none] using drawn

theorem geoCandidates_withoutFailing (unharmed : Unharmed cfg now s) :
    geoCandidates now (withoutFailing cfg now s) = geoCandidates now s := by
  rw [geoCandidates, activeGeo_withoutFailing unharmed, geoCandidates]

/-- A failing track that is passed over may be missing, and no other fails. -/
theorem defaultCandidates_withoutFailing (unharmed : Unharmed cfg now s) :
    defaultCandidates now (withoutFailing cfg now s) = defaultCandidates now s := by
  have sound : ∀ track ∈ firsts drawnHex (geoHexes now s) (s.defaultTracks.filter (isLive now)),
      (!(isLive now track && trackFails cfg now s (drawnHex track) track s.defaultConfig)) = true := by
    intro track listed
    have candidate : (⟨drawnHex track, track, s.defaultConfig⟩ : Candidate τ) ∈ defaultCandidates now s :=
      List.mem_map.mpr ⟨track, listed, rfl⟩
    have drawn := mt (drawTrack_fails_iff s.memory _).mp (unharmed.default _ candidate)
    have succeeds : trackFails cfg now s (drawnHex track) track s.defaultConfig = false := by
      simpa [trackFails, Option.isSome_iff_ne_none] using drawn
    simp only [succeeds, Bool.and_false, Bool.not_false]
  have tracks : (withoutFailing cfg now s).defaultTracks.filter (isLive now) =
      (s.defaultTracks.filter (isLive now)).filter fun track =>
        !(isLive now track && trackFails cfg now s (drawnHex track) track s.defaultConfig) := List.filter_comm _ _ _
  rw [defaultCandidates, geoHexes, geoCandidates_withoutFailing unharmed, tracks]
  exact congrArg (List.map _) (firsts_filter sound)

/-- A solve that fails is passed over, and so may be missing. -/
theorem readySolves_withoutFailing :
    (pruneMultinodeTracks cfg now (withoutFailing cfg now s)).items.filterMap (readySolve cfg now) =
      (pruneMultinodeTracks cfg now s).items.filterMap (readySolve cfg now) := by
  simp only [pruneMultinodeTracks, withoutFailing, Dict.filter]
  rw [List.filter_comm, List.filterMap_filter]
  refine List.filterMap_congr fun item _ => ?_
  rw [readySolve]
  cases held : isHeld now item.2 with
  | true => simp
  | false =>
    cases made : cfg.multinodeEntry item.1 item.2 now with
    | none => simp
    | some entry => simp

theorem solvedCandidates_withoutFailing (unharmed : Unharmed cfg now s) :
    solvedCandidates cfg now (withoutFailing cfg now s) = solvedCandidates cfg now s := by
  simp only [solvedCandidates, seenHexes, geoHexes, geoCandidates_withoutFailing unharmed,
    defaultCandidates_withoutFailing unharmed, readySolves_withoutFailing]

theorem same_of_unharmed (unharmed : Unharmed cfg now s) :
    (build cfg now s).2 = (build cfg now (withoutFailing cfg now s)).2 := by
  have geo : geoDrawn cfg now (withoutFailing cfg now s) = geoDrawn cfg now s := by
    rw [geoDrawn, geoCandidates_withoutFailing unharmed]
    rfl
  have memory : sweptMemory cfg now (withoutFailing cfg now s) = sweptMemory cfg now s := by
    rw [sweptMemory, staleGeo, activeGeo_withoutFailing unharmed, geo]
    rfl
  have default_ : defaultDrawn cfg now (withoutFailing cfg now s) = defaultDrawn cfg now s := by
    rw [defaultDrawn, memory, defaultCandidates_withoutFailing unharmed]
    rfl
  have solves : solvesDrawn cfg now (withoutFailing cfg now s) = solvesDrawn cfg now s := by
    rw [solvesDrawn, default_, solvedCandidates_withoutFailing unharmed]
    rfl
  have claims : claimsDrawn cfg now (withoutFailing cfg now s) = claimsDrawn cfg now s := by
    rw [claimsDrawn, solves, publishedHexes, solvedCandidates_withoutFailing unharmed, knownClaims_withoutFailing unharmed]
    rfl
  rw [build, build, geo, default_, solves, claims]
  cases (geoDrawn cfg now s).2 with
  | none => rfl
  | some geo =>
    cases (defaultDrawn cfg now s).2 with
    | none => rfl
    | some default_ =>
      cases (solvesDrawn cfg now s).2 with
      | none => rfl
      | some solves => cases (claimsDrawn cfg now s).2 <;> rfl

theorem swept_of_returns (returns : (build cfg now s).2 ≠ none) :
    (build cfg now s).1.activeGeoAircraft = s.activeGeoAircraft.filter fun _ item => isLive now item.1 := by
  revert returns
  rw [build]
  cases (geoDrawn cfg now s).2 with
  | none => exact fun raised => absurd rfl raised
  | some geo =>
    cases (defaultDrawn cfg now s).2 with
    | none => exact fun raised => absurd rfl raised
    | some default_ =>
      cases (solvesDrawn cfg now s).2 with
      | none => exact fun _ => rfl
      | some solves => cases (claimsDrawn cfg now s).2 <;> exact fun _ => rfl

/-- A failure costs the entry alone exactly when it is a solve's. -/
theorem costs_only_itself_iff : CostsOnlyItself cfg now s ↔ Unharmed cfg now s := by
  constructor
  · exact fun costs => returns_iff.mp costs.returns
  · intro unharmed
    have returns := returns_iff.mpr unharmed
    refine ⟨returns, same_of_unharmed unharmed, fun hex track config found => ?_⟩
    rw [swept_of_returns returns] at found
    exact (Dict.get?_filter_some found).2

end
end Retina.FeedBuild

/-! What reaches the map between two builds: the positions of a frame's transponders as
the sender gave them, tracks, solves and claims. -/
namespace Retina.FeedBuild
open Runs OrderedDict
open Tcp (Json Fields Listener get storePositions)
open Known (KnownClaim)

/-- `hex or icao`; for the rest an entry is read as the listener reads it. -/
def named : Json → Json
  | .dict entry =>
      let hex := get entry "hex" .null
      .dict (put "hex" (if hex.truthy then hex else get entry "icao" .null) entry)
  | other => other

/-- The ADS-B extraction of `process_one_frame`. -/
def extractAdsb (w : Listener) (tsMs recvMs : ℤ) (world : String) (adsbList : List Json) (store : Dict String Fields) :
    Dict String Fields :=
  (storePositions w tsMs recvMs world (adsbList.map named) store).1

inductive Event (τ ρ : Type) where
  | adsb (tsMs recvMs : ℤ) (world : String) (adsbList : List Json)
  | external (cache : Dict String Fields)
  | geolocated (hex : String) (track : Track τ) (config : Fields)
  | defaultPipeline (tracks : List (Track τ)) (config : Fields)
  | solved (key : String) (solve : Solve ρ)
  | claimed (knownClaims : Dict String (List KnownClaim))
  | configured (configs : Dict String Fields)
  | laneMode (binding : Bool)
  | built (now : ℚ)

section
variable {τ σ ρ : Type} (w : Listener) (cfg : Setting τ σ ρ)

def step (s : MapState τ σ ρ) : Event τ ρ → MapState τ σ ρ
  | .adsb tsMs recvMs world adsbList => { s with adsbAircraft := extractAdsb w tsMs recvMs world adsbList s.adsbAircraft }
  | .external cache => { s with externalAdsb := cache }
  | .geolocated hex track config => { s with activeGeoAircraft := s.activeGeoAircraft.insert hex (track, config) }
  | .defaultPipeline tracks config => { s with defaultTracks := tracks, defaultConfig := config }
  | .solved key solve => { s with multinodeTracks := s.multinodeTracks.insert key solve }
  | .claimed knownClaims => { s with knownClaims }
  | .configured configs => { s with configs }
  | .laneMode binding => { s with binding }
  | .built now => (build cfg now s).1

def boot (memory : σ) : MapState τ σ ρ where
  adsbAircraft := .empty
  externalAdsb := .empty
  activeGeoAircraft := .empty
  defaultTracks := []
  defaultConfig := []
  multinodeTracks := .empty
  knownClaims := .empty
  configs := .empty
  binding := false
  memory := memory

/-- Where the event is a build, it loses what fails and nothing else. -/
def KeepsTheRest (s : MapState τ σ ρ) (e : Event τ ρ) : Prop := ∀ now, e = .built now → CostsOnlyItself cfg now s

def MeetsNoSick (s : MapState τ σ ρ) (e : Event τ ρ) : Prop := ∀ now, e = .built now → Unharmed cfg now s

end

section
/-- The runtime's `float` on the texts of the example. -/
def sickText : Tcp.PyText where
  parse _ := none
  repr _ := ""
  str _ := ""

def sickWorld : Listener where
  token := none
  minIntervalS := 0
  text := sickText
  trig := ⟨fun _ => 0, fun _ => 1⟩
  registers _ _ := true
  verifies _ _ := true

def plainGates : Gates Unit Unit where
  arc _ _ := none
  place _ _ _ track _ _ _ := (⟨track.lat, track.lon, 0, 0, .solverAdsbSeed, none, none, [], false, [], false, none⟩, ())
  publicArc _ _ := none
  trail _ _ _ := ((none, []), ())
  drop _ _ := ()

def plainSetting : Setting Unit Unit Unit where
  text := sickText
  trig := ⟨fun _ => 0, fun _ => 1⟩
  geo := ⟨fun _ _ _ _ => 0, fun lat lon _ _ => (lat, lon), 111320, fun _ => 111⟩
  gates := plainGates
  multinodeEntry _ _ _ := none
  mnDarkExpiryS := 60

def overheadTrack : Track Unit where
  hexId := "trk1"
  adsbHex := some "abc123"
  wallClockTs := 1000
  altFt := .fin 30000
  speedKnots := .fin 400
  trackAngle := .fin 90
  lat := 33
  lon := -84
  nDetections := 5
  estimate := ()

/-- A transponder that reports an altitude of NaN, the track it is matched to, and the build of the next second. -/
def sickHistory : List (Event Unit Unit) :=
  [.adsb 1000000 1000000 "real" [.dict [("hex", .str "abc123"), ("lat", .int 33), ("lon", .int (-84)), ("alt_baro", .float .nan)]],
   .geolocated "abc123" overheadTrack [], .built 1001]

end
end Retina.FeedBuild
