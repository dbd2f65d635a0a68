import RetinaServer.Adsb.Regions
import RetinaServer.Library.Freshest
import RetinaServer.Library.Rotation
import RetinaServer.Tracks.TaggedEvents
import RetinaServer.Frames.UntypedTracks
import RetinaServer.Solver.Input

/-! The answer to a point query of adsb-service: the aircraft of its body as rows that carry their own capture time. -/
namespace Retina.Adsb
open Tcp (Json Fields PyText get floatCeiling)
open Frames (hexKeyOf stripSpaces truncate adsbCaptureMaxSkewS)
open Solver (isTransponderHex)

/-- One aircraft of an answer. The altitude is one that arithmetic can be done on. -/
structure Row where
  hex : String
  flight : String
  lat : Json
  lon : Json
  altBaro : Json
  gs : Json
  track : Json
  capturedMs : ℤ
  measured : altBaro.isNum = some true

def isBool : Json → Bool
  | .bool _ => true
  | _ => false

/-- The value of a finite number. -/
def numeric (value : Json) : ℚ :=
  match value.number? with
  | some (.fin x) => x
  | _ => 0

/-- `isinstance` of a number other than a boolean, and `math.isfinite`; `none` is an integer it raises for. -/
def usableValue (value : Json) : Option Bool := if isBool value then some false else value.isNum

def isUsable (lat lon : Json) : Option Bool :=
  (usableValue lat).bind fun latUsable =>
    if !latUsable then some false
    else (usableValue lon).map fun lonUsable => lonUsable &&
      decide ((-90 ≤ numeric lat ∧ numeric lat ≤ 90) ∧ -180 ≤ numeric lon ∧ numeric lon ≤ 180)

def isPositionAbsent (lat lon : Json) : Bool :=
  !(isBool lat || isBool lon) && lat.eqv (.float (.fin 0)) && lon.eqv (.float (.fin 0))

/-- `(value or "").strip()`; `none` is a value that has no `strip`. -/
def stripped (value : Json) : Option String :=
  if value.truthy then
    match value with
    | .str s => some (String.ofList (stripSpaces s.toList))
    | _ => none
  else some ""

/-- The answer's own time where it can be believed, bounded by the receipt. -/
def baseMs (now : Json) (recvMs : ℚ) : Option ℚ :=
  now.isNum.map fun finite =>
    if finite && !isBool now && decide (recvMs - numeric now ≤ adsbCaptureMaxSkewS * 1000) then min (numeric now) recvMs
    else recvMs

/-- `int(base_ms - seen_pos * 1000.0)`; `none` where a product or a difference is beyond the floats. -/
def capturedMs (recvMs base seenPos : ℚ) : Option ℤ :=
  if floatCeiling ≤ |recvMs| ∨ floatCeiling ≤ |seenPos * 1000| ∨ floatCeiling ≤ |base - seenPos * 1000| then none
  else some (truncate (base - seenPos * 1000))

/-- `body.get("ac") or []`, as it is iterated; `none` is a value that cannot be. -/
def elements (body : Fields) : Option (List Json) :=
  let ac := get body "ac" .null
  if ac.truthy then
    match ac with
    | .list items => some items
    | .dict fields => some (fields.map fun field => .str field.1)
    | .str s => some (s.toList.map fun c => .str (String.singleton c))
    | _ => none
  else some []

variable (text : PyText)

/-- What the loop makes of an element: nothing, or a row; `none` is an element it raises for. -/
def parseAircraft (recvMs base : ℚ) : Json → Option (Option Row)
  | .dict ac =>
      let hexn := hexKeyOf text (get ac "hex" .null)
      let lat := get ac "lat" .null
      let lon := get ac "lon" .null
      let seenPos := get ac "seen_pos" .null
      let altBaro := get ac "alt_baro" .null
      if !isTransponderHex hexn || isBool seenPos then some none
      else seenPos.isNum.bind fun aged =>
        if !aged then some none
        else (isUsable lat lon).bind fun usable =>
          if !usable || isPositionAbsent lat lon then some none
          else match measured : altBaro.isNum with
            | none => none
            | some false => some none
            | some true =>
                if numeric altBaro ≤ 0 then some none
                else (stripped (get ac "flight" .null)).bind fun flight =>
                  (capturedMs recvMs base (numeric seenPos)).map fun captured => some {
                    hex := hexn
                    flight, lat, lon, altBaro
                    gs := get ac "gs" (.int 0)
                    track := get ac "track" (.int 0)
                    capturedMs := captured
                    measured }
  | _ => some none

def parsePointResponse (body : Fields) (recvS : ℚ) : Option (List Row) :=
  let recvMs := recvS * 1000
  (baseMs (get body "now" .null) recvMs).bind fun base => (elements body).bind fun items =>
    (items.mapM (parseAircraft text recvMs base)).map List.reduceOption

/-! ### The client -/

/-- What the service sends back. -/
inductive Reply where
  /-- A 429, with its wait. -/
  | refused (retryAfterS : ℚ)
  /-- No answer, another status, or a body that is no JSON. -/
  | broken
  | body (value : Json) (recvS : ℚ)

inductive Fetched where
  | rateLimited (retryAfterS : ℚ)
  /-- Any other exception. -/
  | failed
  | rows (rows : List Row)

def fetchPoint : Reply → Fetched
  | .refused retryAfterS => .rateLimited retryAfterS
  | .broken => .failed
  | .body (.dict body) recvS => (parsePointResponse text body recvS).elim .failed .rows
  | .body _ _ => .failed

end Retina.Adsb

/-! The poller of adsb-service: the regions of the real nodes, a cycle over them, and the candidates it keeps. -/
namespace Retina.Adsb
open OrderedDict
open Tcp (Json PyText)
open Frames (Trig ftToM knotsToMs)
open TaggedEvents (asNum)

/-! ### Regions for nodes -/

abbrev Cell := ℤ × ℤ

/-- What the lattice is measured with. -/
structure Lattice (K : Type*) where
  spacingKm : K
  kmPerDegLatNominal : K
  kmPerDegLat : K
  kmPerDegLon : K → K
  floor : K → ℤ

def ADSB_MAX_REGIONS_PER_CYCLE : Nat := 8

deriving instance DecidableEq for Box
deriving instance DecidableEq for Region

def Region.cell (region : Region K) : Cell := (region.row, region.col)

section regions
variable {K : Type*} [Field K] [LinearOrder K] (lattice : Lattice K) (geo : Geometry K) (marginKm : K)

def latStepDeg : K := lattice.spacingKm / lattice.kmPerDegLatNominal

def lonStepDeg (row : ℤ) : K :=
  let centreLat := ((row : K) + 0.5) * latStepDeg lattice - 90.0
  min 360.0 (lattice.spacingKm / (lattice.kmPerDegLon centreLat * (lattice.kmPerDegLatNominal / lattice.kmPerDegLat)))

def cellOf (lat lon : K) : Cell :=
  let row := lattice.floor ((lat + 90.0) / latStepDeg lattice)
  (row, lattice.floor ((lon + 180.0) / lonStepDeg lattice row))

/-- `is_position_absent` of a positioned node, and `is_usable`. -/
def placeable (p : K × K) : Bool :=
  !decide (p.1 = 0 ∧ p.2 = 0) && decide ((-90.0 ≤ p.1 ∧ p.1 ≤ 90.0) ∧ -180.0 ≤ p.2 ∧ p.2 ≤ 180.0)

/-- `groups.setdefault(cell_of(lat, lon), []).append((lat, lon))`. -/
def addMember (groups : Dict Cell (Members K)) (p : K × K) : Dict Cell (Members K) :=
  groups.insert (cellOf lattice p.1 p.2)
    ((groups.get? (cellOf lattice p.1 p.2)).elim ⟨[p], by simp⟩ fun m => ⟨m.positions ++ [p], by simp⟩)

/-- Busiest first, then by cell. -/
def busier (r r' : Region K) : Bool :=
  decide (r'.nNodes < r.nNodes ∨ r.nNodes = r'.nNodes ∧ (r.row < r'.row ∨ r.row = r'.row ∧ r.col ≤ r'.col))

def regionsForNodes (positions : List (K × K)) : List (Region K) :=
  let groups := (positions.filter placeable).foldl (addMember lattice) Dict.empty
  let regions := groups.items.map fun group => regionFromMembers geo marginKm group.1.1 group.1.2 group.2
  (regions.mergeSort busier).take ADSB_MAX_REGIONS_PER_CYCLE

/-- No two regions stand in one cell. -/
theorem nodup_regionsForNodes (positions : List (K × K)) :
    ((regionsForNodes lattice geo marginKm positions).map Region.cell).Nodup := by
  rw [regionsForNodes, List.map_take]
  refine List.Nodup.sublist (List.take_sublist _ _) ?_
  refine ((List.mergeSort_perm _ _).map Region.cell).nodup_iff.mpr ?_
  rw [List.map_map]
  exact ((positions.filter placeable).foldl (addMember lattice) Dict.empty).nodup

end regions

/-! ### Candidates -/

/-- A claim candidate, with the fields that `adsb_derived_fields` adds. -/
structure Candidate where
  hex : String
  flight : String
  lat : Json
  lon : Json
  altBaro : Json
  gs : Json
  track : Json
  lastSeenMs : ℤ
  world : String := "real"
  source : String := "adsb_service"
  altM : ℚ
  velEast : ℚ
  velNorth : ℚ
  timestampMs : ℤ

/-- `_as_candidate`; `none` is an integer without a float. -/
def asCandidate (trig : Trig) (row : Row) : Option Candidate := do
  let gs ← asNum row.gs
  let track ← asNum row.track
  let altBaro ← asNum row.altBaro
  let gsMs := gs * knotsToMs
  some {
    hex := row.hex
    flight := row.flight
    lat := row.lat
    lon := row.lon
    altBaro := row.altBaro
    gs := row.gs
    track := row.track
    lastSeenMs := row.capturedMs
    altM := altBaro * ftToM
    velEast := gsMs * trig.sinDeg track
    velNorth := gsMs * trig.cosDeg track
    timestampMs := row.capturedMs }

/-! ### A cycle -/

abbrev CellStore := Dict Cell (Dict String Candidate)

def INTERVAL_S : ℚ := 5
def MAX_RETRY_AFTER_S : ℚ := 60

/-- What a cycle meets: the clock since it started, read ahead of each request, the replies, and the time at its end. -/
structure Met where
  elapsedS : Nat → ℚ
  replies : Nat → Reply
  nowS : ℚ

/-- What the requests of a cycle come to. -/
structure Asked (K : Type*) where
  answers : Dict Cell (List Row)
  unasked : List (Region K)
  retryAfterS : ℚ

structure Cycle where
  retryAfterS : ℚ
  resumeAt : Nat

section cycle
variable {K : Type*} (text : PyText) (trig : Trig) (maxFixAgeS : ℚ)

def askRegions (met : Met) : Nat → List (Region K) → Dict Cell (List Row) → Asked K
  | _, [], answers => ⟨answers, [], 0⟩
  | i, region :: rest, answers =>
      if INTERVAL_S ≤ met.elapsedS i then ⟨answers, region :: rest, 0⟩
      else match fetchPoint text (met.replies i) with
        | .rateLimited retryAfterS => ⟨answers, region :: rest, min retryAfterS MAX_RETRY_AFTER_S⟩
        | .failed => askRegions met (i + 1) rest answers
        | .rows rows => askRegions met (i + 1) rest (answers.insert region.cell rows)

/-- A row that is not too old, and no older than the record of its hex, takes its place. -/
def takeRow (oldestMs : ℚ) (kept : Dict String Candidate) (row : Row) : Option (Dict String Candidate) :=
  if max oldestMs ((kept.get? row.hex).elim 0 fun rec => (rec.lastSeenMs : ℚ)) ≤ row.capturedMs then
    (asCandidate trig row).map (kept.insert row.hex)
  else some kept

/-- The records of a cell after the cycle. -/
def refreshed (oldestMs : ℚ) (previous : CellStore) (answers : Dict Cell (List Row)) (cell : Cell) :
    Option (Dict String Candidate) :=
  let kept := ((previous.get? cell).getD Dict.empty).filter fun _ rec => decide (oldestMs ≤ rec.lastSeenMs)
  ((answers.get? cell).getD []).foldlM (takeRow trig oldestMs) kept

def publish (oldestMs : ℚ) (previous : CellStore) (answers : Dict Cell (List Row)) (regions : List (Region K)) :
    Option CellStore :=
  regions.foldlM (fun store region => (refreshed trig oldestMs previous answers region.cell).map fun kept =>
    if kept.items.isEmpty then store else store.insert region.cell kept) Dict.empty

variable [DecidableEq K]

/-- `run_cycle`: the store and the cycle it returns; `none` is a row it raises for. -/
def runCycle (regions : List (Region K)) (start : Nat) (met : Met) (previous : CellStore) : Option (CellStore × Cycle) :=
  let asked := askRegions text met 0 (Rotation.order regions start) Dict.empty
  let oldestMs := (met.nowS - maxFixAgeS) * 1000
  (publish trig oldestMs previous asked.answers regions).map fun store =>
    (store, ⟨asked.retryAfterS, asked.unasked.head?.elim 0 fun first => regions.idxOf first⟩)

end cycle

/-! ### The task -/

/-- `_regions_key`, `_regions`, `state.adsb_fallback` and the task's `resume_at`. -/
structure Poller (K : Type*) where
  regionsKey : List (K × K)
  regions : List (Region K)
  store : CellStore
  resumeAt : Nat

def Poller.boot {K : Type*} : Poller K := ⟨[], [], Dict.empty, 0⟩

/-- One turn of the task: where the real nodes stand, and what its cycle meets. -/
structure Poll (K : Type*) where
  positions : List (K × K)
  met : Met

/-- The libraries and settings of the poller. -/
structure Service (K : Type*) where
  lattice : Lattice K
  geo : Geometry K
  marginKm : K
  text : PyText
  trig : Trig
  maxFixAgeS : ℚ

section task
variable {K : Type*} [Field K] [LinearOrder K] (service : Service K)

/-- `real_node_regions`: computed again only when the positions change. -/
def realNodeRegions (s : Poller K) (positions : List (K × K)) : Poller K :=
  let key := positions.mergeSort fun p q => decide (p.1 < q.1 ∨ p.1 = q.1 ∧ p.2 ≤ q.2)
  if key = s.regionsKey then s
  else { s with regionsKey := key, regions := regionsForNodes service.lattice service.geo service.marginKm positions }

/-- A cycle that raises leaves the store and the place to resume at. -/
def adsbFallbackTurn (s : Poller K) (poll : Poll K) : Poller K :=
  let s := realNodeRegions service s poll.positions
  if s.regions = [] then { s with store := Dict.empty }
  else
    (runCycle service.text service.trig service.maxFixAgeS s.regions (s.resumeAt % s.regions.length) poll.met s.store).elim s
      fun out => { s with store := out.1, resumeAt := out.2.resumeAt }

end task

end Retina.Adsb
