import RetinaServer.Library.Memo
import RetinaServer.Feed.TrackEntry

/-! The ambiguity arc of one detection: the ellipse of the measured delay, clipped to what the node can
detect, and swept by bearing. -/
namespace Retina.FeedBuild

/-- Geodesy and trigonometry, and the aim of an antenna that declares none; the angles are in degrees. -/
structure ArcLibrary where
  sinDeg : ℚ → ℚ
  cosDeg : ℚ → ℚ
  hypot : ℚ → ℚ → ℚ
  enuKm : ℚ → ℚ → ℚ → ℚ → ℚ × ℚ
  offsetLatlon : ℚ → ℚ → ℚ → ℚ → ℚ × ℚ
  bearingDeg : ℚ → ℚ → ℚ → ℚ → ℚ
  yagiBeamWidthDeg : ℚ
  yagiMaxRangeKm : ℚ

/-- A node's configuration, as far as an arc is built from it; a number that is not usable is absent. -/
structure NodeCfg where
  nodeId : Option String
  rxLat : Option ℚ
  rxLon : Option ℚ
  txLat : Option ℚ
  txLon : Option ℚ
  beamAzimuthDeg : Option ℚ := none
  beamWidthDeg : Option ℚ := none
  maxRangeKm : Option ℚ := none
  maxBistaticRangeKm : Option ℚ := none
deriving DecidableEq

structure BeamParams where
  beamAzimuthDeg : ℚ
  beamWidthDeg : ℚ
  maxRangeKm : ℚ
  maxBistaticRangeKm : Option ℚ

/-- Both ends of the bistatic pair. -/
structure Baseline where
  rxLat : ℚ
  rxLon : ℚ
  txLat : ℚ
  txLon : ℚ

/-- The ends of a node that is positioned. -/
def NodeCfg.positioned (cfg : NodeCfg) : Option Baseline :=
  match cfg.rxLat, cfg.rxLon, cfg.txLat, cfg.txLon with
  | some rxLat, some rxLon, some txLat, some txLon => some ⟨rxLat, rxLon, txLat, txLon⟩
  | _, _, _, _ => none

def orDefault (value : Option ℚ) (default : ℚ) : ℚ := if value.getD 0 = 0 then default else value.getD 0

/-- `node_beam_params` of a positioned node: without an aim of its own the antenna looks broadside. -/
def nodeBeamParams (lib : ArcLibrary) (cfg : NodeCfg) (ends : Baseline) : BeamParams :=
  let broadside := lib.bearingDeg ends.rxLat ends.rxLon ends.txLat ends.txLon + 90
  { beamAzimuthDeg := cfg.beamAzimuthDeg.getD (broadside - 360 * ⌊broadside / 360⌋)
    beamWidthDeg := orDefault cfg.beamWidthDeg lib.yagiBeamWidthDeg
    maxRangeKm := orDefault cfg.maxRangeKm lib.yagiMaxRangeKm
    maxBistaticRangeKm := cfg.maxBistaticRangeKm }

/-- `_differential_at`. -/
def differentialAt (lib : ArcLibrary) (tx : ℚ × ℚ) (rangeKm bearing : ℚ) : ℚ :=
  lib.hypot (lib.sinDeg bearing * rangeKm - tx.1) (lib.cosDeg bearing * rangeKm - tx.2) + rangeKm - lib.hypot tx.1 tx.2

/-- The upper end after so many halvings. -/
def bisect (below : ℚ → Bool) : ℕ → ℚ → ℚ → ℚ
  | 0, _, hi => hi
  | n + 1, lo, hi =>
      let mid := (lo + hi) / 2
      if below mid then bisect below n mid hi else bisect below n lo mid

/-- The point of the locus at this bearing, if the node reaches it. -/
def arcPoint (lib : ArcLibrary) (ends : Baseline) (differentialKm searchMaxKm bearing : ℚ) : Option (ℚ × ℚ) :=
  let tx := lib.enuKm ends.rxLat ends.rxLon ends.txLat ends.txLon
  let below (rangeKm : ℚ) : Bool := decide (differentialAt lib tx rangeKm bearing < differentialKm)
  if below searchMaxKm then none
  else
    let range := bisect below 32 0 searchMaxKm
    some (lib.offsetLatlon ends.rxLat ends.rxLon (range * lib.sinDeg bearing) (range * lib.cosDeg bearing))

/-- The bearings of the sweep, around the boresight. -/
def sweep (beam : BeamParams) : List ℚ :=
  let (width, steps) : ℚ × ℕ := if 360 ≤ beam.beamWidthDeg then (360, 72) else (beam.beamWidthDeg, 36)
  (List.range (steps + 1)).map fun step => beam.beamAzimuthDeg - width / 2 + width * (step / steps)

/-- How far out the locus is searched; `none` is a delay beyond what the node can detect. -/
def searchMaxKm (lib : ArcLibrary) (beam : BeamParams) (ends : Baseline) (differentialKm : ℚ) : Option ℚ :=
  let tx := lib.enuKm ends.rxLat ends.rxLon ends.txLat ends.txLon
  match beam.maxBistaticRangeKm with
  | some limit => if limit < differentialKm then none else some (differentialKm / 2 + lib.hypot tx.1 tx.2)
  | none => some beam.maxRangeKm

def buildSingleNodeArc (lib : ArcLibrary) (delayUs : Option ℚ) (cfg : NodeCfg) : Option Arc := do
  let delayUs ← delayUs.filter fun delay => decide (0 < delay)
  let ends ← cfg.positioned
  let beam := nodeBeamParams lib cfg ends
  let differentialKm := delayUs * cKmUs
  guard (arcMinDifferentialKm ≤ differentialKm)
  let searchMax ← searchMaxKm lib beam ends differentialKm
  let points := (sweep beam).filterMap (arcPoint lib ends differentialKm searchMax)
  guard (2 ≤ points.length)
  return points

end Retina.FeedBuild

/-! The memos of the arcs, the one the gates look at and the one that is served: keyed by the aircraft and the
node, with the rounded delay for a fingerprint. -/
namespace Retina.FeedBuild
open Rounding (roundTo)
open Runs Memo

/-- What a memoised arc is asked for with. `fuzz` is what is put in place of a node's receiver, where the fuzz
is on. -/
structure ArcCall where
  acHex : String
  delayUs : Option ℚ
  cfg : NodeCfg
  fuzz : Option (NodeCfg → NodeCfg)

abbrev ArcKey := String × Option String

def ArcCall.key (call : ArcCall) : ArcKey := (call.acHex, call.cfg.nodeId)

def ArcCall.fingerprint (call : ArcCall) : Option ℚ := call.delayUs.map (roundTo 3)

/-- `fuzz_node_cfg`. -/
def ArcCall.publicCfg (call : ArcCall) : NodeCfg := call.fuzz.elim call.cfg fun fuzz => fuzz call.cfg

def ArcCall.build (lib : ArcLibrary) (call : ArcCall) : Option Arc := buildSingleNodeArc lib call.delayUs call.cfg

def ArcCall.buildPublic (lib : ArcLibrary) (call : ArcCall) : Option Arc := buildSingleNodeArc lib call.delayUs call.publicCfg

abbrev ArcTable := Table ArcKey (Option ℚ) (Option Arc)

/-- `_single_node_arc_cache` and `_public_arc_cache`. -/
structure ArcCaches where
  single : ArcTable := .empty
  published : ArcTable := .empty

def cachedSingleNodeArc (lib : ArcLibrary) (caches : ArcCaches) (call : ArcCall) : Option Arc × ArcCaches :=
  (answer ArcCall.key ArcCall.fingerprint (ArcCall.build lib) caches.single call,
    { caches with single := Memo.step ArcCall.key ArcCall.fingerprint (ArcCall.build lib) caches.single (.call call) })

/-- The public memo is asked only where there is an arc and the fuzz is on. -/
def cachedPublicArc (lib : ArcLibrary) (caches : ArcCaches) (call : ArcCall) : Option Arc × ArcCaches :=
  let (internal, caches) := cachedSingleNodeArc lib caches call
  if internal.isNone || call.fuzz.isNone then (internal, caches)
  else
    (answer ArcCall.key ArcCall.fingerprint (ArcCall.buildPublic lib) caches.published call,
      { caches with published := Memo.step ArcCall.key ArcCall.fingerprint (ArcCall.buildPublic lib) caches.published (.call call) })

/-! ### Runs of the feed -/

/-- A memoised arc is asked for, or a build of the feed ends and what it has not touched is evicted. -/
inductive ArcEvent where
  | single (call : ArcCall)
  | published (call : ArcCall)
  | evict (touched : List ArcKey)

def arcStep (lib : ArcLibrary) (caches : ArcCaches) : ArcEvent → ArcCaches
  | .single call => (cachedSingleNodeArc lib caches call).2
  | .published call => (cachedPublicArc lib caches call).2
  | .evict touched =>
      { single := caches.single.filter fun k _ => decide (k ∈ touched), published := caches.published.filter fun k _ => decide (k ∈ touched) }

def cachesAfter (lib : ArcLibrary) (events : List ArcEvent) : ArcCaches := run (arcStep lib) {} events

/-- What an event is to the memo of the gates. -/
def ArcEvent.single? : ArcEvent → Memo.Event ArcCall ArcKey
  | .single call => .call call
  | .published call => .call call
  | .evict touched => .evict fun k => decide (k ∈ touched)

/-- What it is to the public memo, if anything. -/
def ArcEvent.published? (lib : ArcLibrary) (caches : ArcCaches) : ArcEvent → Option (Memo.Event ArcCall ArcKey)
  | .single _ => none
  | .published call => if (cachedSingleNodeArc lib caches call).1.isNone || call.fuzz.isNone then none else some (.call call)
  | .evict touched => some (.evict fun k => decide (k ∈ touched))

def singleHistory (events : List ArcEvent) : List (Memo.Event ArcCall ArcKey) := events.map ArcEvent.single?

def publishedHistory (lib : ArcLibrary) (caches : ArcCaches) : List ArcEvent → List (Memo.Event ArcCall ArcKey)
  | [] => []
  | e :: rest => (e.published? lib caches).toList ++ publishedHistory lib (arcStep lib caches e) rest

theorem single_run (lib : ArcLibrary) (caches : ArcCaches) (events : List ArcEvent) :
    (run (arcStep lib) caches events).single =
      run (Memo.step ArcCall.key ArcCall.fingerprint (ArcCall.build lib)) caches.single (singleHistory events) := by
  induction events generalizing caches with
  | nil => rfl
  | cons e rest ih =>
    rw [run_cons, ih]
    change _ = run _ (Memo.step _ _ _ caches.single e.single?) (singleHistory rest)
    refine congrArg (fun t => run _ t _) ?_
    cases e with
    | single call => rfl
    | published call =>
      simp only [arcStep, cachedPublicArc]
      split
      · rfl
      · rfl
    | evict touched => rfl

theorem published_run (lib : ArcLibrary) (caches : ArcCaches) (events : List ArcEvent) :
    (run (arcStep lib) caches events).published =
      run (Memo.step ArcCall.key ArcCall.fingerprint (ArcCall.buildPublic lib)) caches.published (publishedHistory lib caches events) := by
  induction events generalizing caches with
  | nil => rfl
  | cons e rest ih =>
    rw [run_cons, ih, publishedHistory, run_append]
    refine congrArg (fun t => run _ t _) ?_
    cases e with
    | single call => rfl
    | published call =>
      simp only [arcStep, cachedPublicArc, ArcEvent.published?]
      split
      · rfl
      · rfl
    | evict touched => rfl

/-! ### Transparency -/

/-- The call, or an earlier one under its key and fingerprint since which its arc has stood. -/
def Standing (history : List (Memo.Event ArcCall ArcKey)) (call call' : ArcCall) : Prop :=
  call' = call ∨ Since ArcCall.key ArcCall.fingerprint history call call'

theorem Standing.fingerprint (standing : Standing history call call') : call'.fingerprint = call.fingerprint := by
  rcases standing with rfl | since
  · rfl
  · exact since.2.1

theorem singleNodeArc_answer (lib : ArcLibrary) (events : List ArcEvent) (call : ArcCall) :
    ∃ call', Standing (singleHistory events) call call' ∧
      (cachedSingleNodeArc lib (cachesAfter lib events) call).1 = buildSingleNodeArc lib call'.delayUs call'.cfg := by
  rw [cachedSingleNodeArc, cachesAfter, single_run]
  exact answer_built (singleHistory events) call

/-- The public memo serves what the gates do while the fuzz is off, nothing where they have nothing, and else
an arc around the published receiver. -/
theorem publicArc_answer (lib : ArcLibrary) (events : List ArcEvent) (call : ArcCall) :
    ∃ call', Standing (publishedHistory lib {} events) call call' ∧
      (cachedPublicArc lib (cachesAfter lib events) call).1 =
        if (cachedSingleNodeArc lib (cachesAfter lib events) call).1.isNone || call.fuzz.isNone then
          (cachedSingleNodeArc lib (cachesAfter lib events) call).1
        else buildSingleNodeArc lib call'.delayUs call'.publicCfg := by
  obtain ⟨call', standing, built⟩ :
      ∃ call', Standing (publishedHistory lib {} events) call call' ∧
        answer ArcCall.key ArcCall.fingerprint (ArcCall.buildPublic lib) (cachesAfter lib events).published call = call'.buildPublic lib := by
    rw [cachesAfter, published_run]
    exact answer_built (publishedHistory lib {} events) call
  refine ⟨call', standing, ?_⟩
  unfold cachedPublicArc
  simp only
  split
  · rfl
  · exact built

/-- In every run, and at every call whose node has the configuration that it had while the arc stood, the memo of the
gates answers with the arc of that configuration, for a delay that is the same when rounded. The public memo does so
for the published configuration wherever the gates have an arc, as long as the fuzz has not changed either. -/
theorem arc_memos_transparent (lib : ArcLibrary) (events : List ArcEvent) (call : ArcCall)
    (unchanged : ∀ call', Standing (singleHistory events) call call' → call'.cfg = call.cfg)
    (unmoved : ∀ call', Standing (publishedHistory lib {} events) call call' → call'.publicCfg = call.publicCfg) :
    ∃ call' call'', Standing (singleHistory events) call call' ∧ Standing (publishedHistory lib {} events) call call'' ∧
      call'.fingerprint = call.fingerprint ∧ call''.fingerprint = call.fingerprint ∧
      (cachedSingleNodeArc lib (cachesAfter lib events) call).1 = buildSingleNodeArc lib call'.delayUs call.cfg ∧
      (cachedPublicArc lib (cachesAfter lib events) call).1 =
        if (buildSingleNodeArc lib call'.delayUs call.cfg).isNone then none
        else if call.fuzz.isNone then buildSingleNodeArc lib call'.delayUs call.cfg
        else buildSingleNodeArc lib call''.delayUs call.publicCfg := by
  obtain ⟨call', standing, single⟩ := singleNodeArc_answer lib events call
  obtain ⟨call'', standing', published⟩ := publicArc_answer lib events call
  rw [unchanged call' standing] at single
  rw [unmoved call'' standing', single] at published
  refine ⟨call', call'', standing, standing', standing.fingerprint, standing'.fingerprint, single, published.trans ?_⟩
  cases gates : buildSingleNodeArc lib call'.delayUs call.cfg with
  | none => rfl
  | some arc =>
    cases fuzzed : call.fuzz with
    | none => rfl
    | some fuzz => rfl

/-! ### A receiver that moves -/

/-- Half a sine wave over 180 degrees, by a rational function within a few thousandths. -/
def halfWave (degrees : ℚ) : ℚ := 4 * degrees * (180 - degrees) / (40500 - degrees * (180 - degrees))

def waveSin (degrees : ℚ) : ℚ :=
  let turned := degrees - 360 * ⌊degrees / 360⌋
  if turned ≤ 180 then halfWave turned else -halfWave (turned - 180)

/-- The plane around the receiver, at 111 km to the degree of latitude, in metres. -/
def planeLibrary : ArcLibrary where
  sinDeg := waveSin
  cosDeg degrees := waveSin (degrees + 90)
  hypot x y := (Nat.sqrt ⌊(x * x + y * y) * 1000000⌋.toNat : ℚ) / 1000
  enuKm lat lon lat' lon' := ((lon' - lon) * 111 * waveSin (lat + 90), (lat' - lat) * 111)
  offsetLatlon lat lon east north := (lat + north / 111, lon + east / (111 * waveSin (lat + 90)))
  bearingDeg lat lon lat' lon' := if lat = lat' then (if lon < lon' then 90 else 270) else if lat < lat' then 0 else 180
  yagiBeamWidthDeg := 41
  yagiMaxRangeKm := 50

/-- An aircraft at 80 us, seen from a receiver at this latitude that is published a little to the north. -/
def seenFrom (rxLat : ℚ) : ArcCall where
  acHex := "ab12cd"
  delayUs := some 80
  cfg := { nodeId := some "rx-1", rxLat := some rxLat, rxLon := some (-84), txLat := some 34, txLon := some (-84) }
  fuzz := some fun cfg => { cfg with rxLat := cfg.rxLat.map (· + 1 / 50) }

theorem Standing.mem (standing : Standing history call call') : call' = call ∨ .call call' ∈ history := by
  refine standing.imp_right ?_
  rintro ⟨-, -, before, after, rfl, -⟩
  exact List.mem_append_right before List.mem_cons_self

theorem arc_memos_transparent_again :
    (cachedPublicArc planeLibrary (cachesAfter planeLibrary [.published (seenFrom 33)]) (seenFrom 33)).1 = (seenFrom 33).buildPublic planeLibrary := by
  have drawn : ((seenFrom 33).build planeLibrary).isNone = false := by decide +kernel
  have same (history : List (Memo.Event ArcCall ArcKey)) (only : ∀ e ∈ history, e = .call (seenFrom 33)) (call' : ArcCall)
      (standing : Standing history (seenFrom 33) call') : call' = seenFrom 33 :=
    standing.mem.elim id fun listed => Memo.Event.call.inj (only _ listed)
  have single := same (singleHistory [.published (seenFrom 33)]) (fun e listed => List.mem_singleton.mp listed)
  have published := same (publishedHistory planeLibrary {} [.published (seenFrom 33)]) (by
    intro e listed
    rw [publishedHistory, publishedHistory, List.append_nil, ArcEvent.published?] at listed
    split at listed
    · cases listed
    · exact List.mem_singleton.mp listed)
  obtain ⟨call', call'', standing, standing', -, -, -, answered⟩ := arc_memos_transparent planeLibrary [.published (seenFrom 33)] (seenFrom 33)
    (fun call' standing => by rw [single call' standing]) (fun call' standing => by rw [published call' standing])
  obtain rfl := single call' standing
  obtain rfl := published call'' standing'
  rw [answered, show buildSingleNodeArc planeLibrary (seenFrom 33).delayUs (seenFrom 33).cfg = (seenFrom 33).build planeLibrary from rfl, drawn]
  rfl

/-- Once its receiver has moved, a node is still given the arcs around where it was. -/
theorem moved_receiver_keeps_its_arc :
    (cachedSingleNodeArc planeLibrary (cachesAfter planeLibrary [.published (seenFrom 33)]) (seenFrom (67 / 2))).1 ≠
        (seenFrom (67 / 2)).build planeLibrary ∧
      (cachedPublicArc planeLibrary (cachesAfter planeLibrary [.published (seenFrom 33)]) (seenFrom (67 / 2))).1 ≠
        (seenFrom (67 / 2)).buildPublic planeLibrary := by
  constructor
  · decide +kernel
  · decide +kernel

end Retina.FeedBuild
