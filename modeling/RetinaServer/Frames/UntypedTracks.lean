import RetinaServer.Frames.NodeTracks
import RetinaServer.Tcp.Json

/-! The track store on a frame that arrived untyped: what each subscript and each conversion raises, and
which of it the store catches. A track is read in full before anything is filed of it. -/
namespace Retina.Frames
open Tcp OrderedDict Window

inductive PyError where
  | key
  | index
  | type
  | value
  | attribute
  | overflow
deriving DecidableEq, Repr

/-- `except (KeyError, IndexError, TypeError, ValueError)`. -/
def PyError.caught : PyError → Bool
  | .key | .index | .type | .value => true
  | .attribute | .overflow => false

/-- `value[key]` for a string. -/
def item (value : Json) (key : String) : Except PyError Json :=
  match value with
  | .dict fields => match lookup key fields with
    | some member => .ok member
    | none => .error .key
  | _ => .error .type

/-- `value.get(key)`. -/
def getItem (value : Json) (key : String) : Except PyError Json :=
  match value with
  | .dict fields => .ok (get fields key .null)
  | _ => .error .attribute

/-- `value[i]`: a dictionary of an object has no integer key. -/
def itemAt (value : Json) (i : Nat) : Except PyError Json :=
  match value with
  | .list items => match items[i]? with
    | some item => .ok item
    | none => .error .index
  | .str s => match s.toList[i]? with
    | some c => .ok (.str (String.singleton c))
    | none => .error .index
  | .dict _ => .error .key
  | _ => .error .type

/-- What `for item in value` goes through. -/
def iterate : Json → Except PyError (List Json)
  | .list items => .ok items
  | .str s => .ok (s.toList.map fun c => .str (String.singleton c))
  | .dict fields => .ok (fields.map fun field => .str field.1)
  | _ => .error .type

/-- `for item in value or ()`. -/
def iterateOrNone (value : Json) : Except PyError (List Json) := if value.truthy then iterate value else .ok []

structure UntypedPoint where
  timestamp : ℤ
  delay : Json
  doppler : Json
  snr : Json
  adsb : Json

structure UntypedUpdate where
  id : String
  state : TrackState
  nAssociated : Json
  nMissed : Json
  adsbHex : Json
  isAnomalous : Json
  anomalyTypes : List Json
  maxVelocityMs : Json
  bornT : Json
  avgSnr : Json
  shadowFraction : Json
  interferenceFraction : Json

structure UntypedTrack where
  run : String
  id : String
  state : TrackState := .active
  closed : Option Closure := none
  nAssociated : Json := .int 0
  nMissed : Json := .int 0
  adsbHex : Json := .null
  isAnomalous : Json := .bool false
  anomalyTypes : List Json := []
  maxVelocityMs : Json := .float (.fin 0)
  bornT : Json := .null
  avgSnr : Json := .null
  shadowFraction : Json := .null
  interferenceFraction : Json := .null
  window : List UntypedPoint := []
  unclaimed : Nat := 0
  unclaimedTags : Finset String := ∅
  lastNamedMs : ℤ := 0

abbrev UntypedTracks := Dict TrackKey UntypedTrack

structure UntypedNode where
  run : Option String := none
  tracks : UntypedTracks := Dict.empty

variable (text : PyText) (parseInt : String → Option ℤ)

def textOf : Json → String
  | .str s => s
  | other => text.str other

/-- `normalize_hex_key`. -/
def hexKeyOf (value : Json) : String := if value.truthy then normalizeHexKey (some (textOf text value)) else ""

def stateOf : Json → Option TrackState
  | .str "active" => some .active
  | .str "coasting" => some .coasting
  | .str "deleted" => some .deleted
  | _ => none

def readHit (frame : Json) (nowMs : ℤ) : Json → Except PyError (Option UntypedPoint)
  | .null => .ok none
  | .int i =>
      if i < 0 then .error .value
      else do
        let adsb ← getItem frame "adsb"
        let delay ← itemAt (← item frame "delay") i.toNat
        let doppler ← itemAt (← item frame "doppler") i.toNat
        let snr ← itemAt (← item frame "snr") i.toNat
        let adsb ← if adsb.truthy then itemAt adsb i.toNat else .ok .null
        return some ⟨nowMs, delay, doppler, snr, adsb⟩
  | _ => .error .value

/-- One wire track's values and the detection it hit. -/
def readWire (frame : Json) (nowMs : ℤ) (wire : Json) : Except PyError (UntypedUpdate × Option UntypedPoint) := do
  let state ← item wire "state"
  match stateOf state with
  | none => .error .value
  | some state =>
    let id ← item wire "id"
    let nAssociated ← item wire "n_associated"
    let nMissed ← item wire "n_missed"
    let adsbHex ← getItem wire "adsb_hex"
    let isAnomalous ← item wire "is_anomalous"
    let anomalyTypes ← iterateOrNone (← getItem wire "anomaly_types")
    let maxVelocityMs ← item wire "max_velocity_ms"
    let bornT ← getItem wire "born_t"
    let avgSnr ← getItem wire "avg_snr"
    let shadowFraction ← getItem wire "shadow_fraction"
    let interferenceFraction ← getItem wire "interference_fraction"
    let point ← readHit frame nowMs (← getItem wire "hit")
    let update : UntypedUpdate := ⟨textOf text id, state, nAssociated, nMissed, adsbHex, isAnomalous, anomalyTypes,
      maxVelocityMs, bornT, avgSnr, shadowFraction, interferenceFraction⟩
    return (update, point)

/-- `wire.get("hit") in claimed`, once the wire is read. -/
def isClaimed (claimed : Finset ℤ) : Json → Bool
  | .dict fields => match get fields "hit" .null with
    | .int i => decide (i ∈ claimed)
    | _ => false
  | _ => false

def pointTag (point : UntypedPoint) : String :=
  match point.adsb with
  | .dict fields => hexKeyOf text (get fields "hex" .null)
  | _ => ""

def UntypedTrack.addHit (track : UntypedTrack) (point : UntypedPoint) (claimed : Bool) : UntypedTrack :=
  let track := { track with window := newest n2TrackHistoryMax (track.window ++ [point]) }
  if claimed then { track with unclaimed := 0, unclaimedTags := ∅ }
  else
    let tagHex := pointTag text point
    { track with
      unclaimed := track.unclaimed + 1
      unclaimedTags := if tagHex = "" then track.unclaimedTags else insert tagHex track.unclaimedTags }

def UntypedTrack.apply (nowMs : ℤ) (claimed : Bool) (track : UntypedTrack) (update : UntypedUpdate)
    (point : Option UntypedPoint) : UntypedTrack :=
  let track := { track with
    state := update.state
    nAssociated := update.nAssociated
    nMissed := update.nMissed
    adsbHex := update.adsbHex
    isAnomalous := update.isAnomalous
    anomalyTypes := update.anomalyTypes
    maxVelocityMs := update.maxVelocityMs
    bornT := update.bornT
    avgSnr := update.avgSnr
    shadowFraction := update.shadowFraction
    interferenceFraction := update.interferenceFraction
    lastNamedMs := nowMs }
  let track := match point with
    | none => track
    | some point => track.addHit text point claimed
  if track.state = .deleted then { track with closed := some .deleted } else track

/-- `_file`: a closed key is left as it is. -/
def fileUpdate (run : String) (nowMs : ℤ) (claimed : Bool) (tracks : UntypedTracks) (update : UntypedUpdate)
    (point : Option UntypedPoint) : UntypedTracks :=
  let key := (run, update.id)
  match tracks.get? key with
  | none => tracks.insert key (UntypedTrack.apply text nowMs claimed { run, id := update.id } update point)
  | some track => if track.closed.isSome then tracks else tracks.insert key (track.apply text nowMs claimed update point)

/-- One wire track: the tracks as they then stand, and how many were refused. What is not caught leaves the loop. -/
def fileWires (run : String) (frame : Json) (nowMs : ℤ) (claimed : Finset ℤ) :
    List Json → UntypedTracks → Nat → UntypedTracks × Except PyError Nat
  | [], tracks, refused => (tracks, .ok refused)
  | wire :: rest, tracks, refused =>
      match readWire text frame nowMs wire with
      | .ok (update, point) => fileWires run frame nowMs claimed rest
          (fileUpdate text run nowMs (isClaimed claimed wire) tracks update point) refused
      | .error e => if e.caught then fileWires run frame nowMs claimed rest tracks (refused + 1) else (tracks, .error e)

def forgetStale (nowMs : ℤ) (tracks : UntypedTracks) : UntypedTracks :=
  tracks.filter fun _ track => decide (nowMs - track.lastNamedMs ≤ forgetMs)

def UntypedTrack.closeOpen (track : UntypedTrack) : UntypedTrack :=
  if track.closed.isNone then { track with closed := some .trackerRestart } else track

def UntypedNode.startRun (node : UntypedNode) (run : String) : UntypedNode :=
  if node.run = some run then node else ⟨some run, node.tracks.mapValues UntypedTrack.closeOpen⟩

/-- `tracker_run`. -/
def runNamed (frame : Fields) : Option String :=
  match get frame "tracker" .null with
  | .dict tracker =>
      let run := get tracker "run" .null
      if run.truthy then some (textOf text run) else none
  | _ => none

/-- `int(frame["timestamp"])`. -/
def timestampOf (frame : Fields) : Except PyError ℤ := do
  match (← item (.dict frame) "timestamp").toInt parseInt with
  | .converted n => .ok n
  | .invalid => .error .value
  | .overflow => .error .overflow

abbrev TrackStore := Dict String UntypedNode

/-- A frame without a tracker run ages the node's tracks, and forgets a node that is left with none. -/
def ageNode (store : TrackStore) (nodeId : String) (frame : Fields) : TrackStore × Except PyError Nat :=
  match store.get? nodeId with
  | none => (store, .ok 0)
  | some node => match timestampOf parseInt frame with
    | .error e => (store, .error e)
    | .ok nowMs =>
        let tracks := forgetStale nowMs node.tracks
        (if tracks.items.isEmpty then store.erase nodeId else store.insert nodeId { node with tracks }, .ok 0)

/-- `for wire in frame.get("tracks") or ()`. -/
def wiresOf (frame : Fields) : Except PyError (List Json) := iterateOrNone (get frame "tracks" .null)

/-- `NodeTrackStore.ingest`: the store as it is left, and how many tracks were refused or what was raised. -/
def ingestUntyped (store : TrackStore) (nodeId : String) (frame : Fields) (claimed : Finset ℤ) :
    TrackStore × Except PyError Nat :=
  match runNamed text frame with
  | none => ageNode parseInt store nodeId frame
  | some run => match timestampOf parseInt frame with
    | .error e => (store, .error e)
    | .ok nowMs =>
        let node := ((store.get? nodeId).getD {}).startRun run
        match wiresOf frame with
        | .error e => (store.insert nodeId node, .error e)
        | .ok wires =>
            match fileWires text run (.dict frame) nowMs claimed wires node.tracks 0 with
            | (tracks, .ok refused) => (store.insert nodeId { node with tracks := forgetStale nowMs tracks }, .ok refused)
            | (tracks, .error e) => (store.insert nodeId { node with tracks }, .error e)

/-! ### What can be read -/

/-- `value[i]` is in range. -/
def indexes (value : Json) (i : Nat) : Bool :=
  match value with
  | .list items => decide (i < items.length)
  | .str s => decide (i < s.toList.length)
  | _ => false

/-- Null, or the index of a detection in each of the frame's arrays; an empty `adsb` is no array. -/
def namesDetection (frame : Fields) : Json → Bool
  | .null => true
  | .int i => decide (0 ≤ i) &&
      (has frame "delay" && (indexes (get frame "delay" .null) i.toNat &&
        (has frame "doppler" && (indexes (get frame "doppler" .null) i.toNat &&
          (has frame "snr" && (indexes (get frame "snr" .null) i.toNat &&
            (!(get frame "adsb" .null).truthy || indexes (get frame "adsb" .null) i.toNat)))))))
  | _ => false

def isIterable : Json → Bool
  | .list _ | .str _ | .dict _ => true
  | _ => false

/-- An object with one of the three states, with every required field, whose anomaly types can be gone
through and whose hit names a detection. -/
def readable (frame : Fields) : Json → Bool
  | .dict wire => (stateOf (get wire "state" .null)).isSome && (has wire "id" && (has wire "n_associated" &&
      (has wire "n_missed" && (has wire "is_anomalous" &&
        ((!(get wire "anomaly_types" .null).truthy || isIterable (get wire "anomaly_types" .null)) &&
          (has wire "max_velocity_ms" && namesDetection frame (get wire "hit" .null)))))))
  | _ => false

/-- A step gives a value exactly when `ok` says so, and what it raises instead is caught. -/
def Reads (step : Except PyError α) (ok : Bool) : Prop :=
  ok = true ∧ (∃ value, step = .ok value) ∨ ok = false ∧ ∃ e, step = .error e ∧ e.caught = true

theorem Reads.bind {step : Except PyError α} {next : α → Except PyError β} (first : Reads step ok)
    (then_ : ∀ value, step = .ok value → Reads (next value) ok') : Reads (step >>= next) (ok && ok') := by
  rcases first with ⟨rfl, value, reads⟩ | ⟨rfl, e, raises, caught⟩
  · rw [reads, Bool.true_and]
    exact then_ value reads
  · exact .inr ⟨rfl, e, by rw [raises]; rfl, caught⟩

theorem reads_ok (value : α) : Reads (.ok value : Except PyError α) true := .inl ⟨rfl, value, rfl⟩

/-- A member that is there is what `get` finds. -/
theorem reads_item (fields : Fields) (key : String) :
    Reads (item (.dict fields) key) (has fields key) ∧
      ∀ value, item (.dict fields) key = .ok value → value = get fields key .null := by
  cases found : lookup key fields with
  | some value =>
    have read : item (.dict fields) key = .ok value := by simp only [item, found]
    rw [read, Tcp.get, has, found]
    exact ⟨reads_ok value, fun value' same => (Except.ok.inj same).symm⟩
  | none =>
    have raises : item (.dict fields) key = .error .key := by simp only [item, found]
    rw [raises, has, found]
    exact ⟨.inr ⟨rfl, .key, rfl, rfl⟩, fun value same => by cases same⟩

theorem reads_itemAt (value : Json) (i : Nat) : Reads (itemAt value i) (indexes value i) := by
  cases value with
  | list items =>
    by_cases inside : i < items.length
    · exact .inl ⟨decide_eq_true inside, items[i], by simp [itemAt, List.getElem?_eq_getElem inside]⟩
    · exact .inr ⟨decide_eq_false inside, .index, by simp [itemAt, List.getElem?_eq_none (not_lt.mp inside)], rfl⟩
  | str s =>
    by_cases inside : i < s.toList.length
    · refine .inl ⟨decide_eq_true inside, .str (String.singleton s.toList[i]), ?_⟩
      simp only [itemAt, List.getElem?_eq_getElem inside]
    · exact .inr ⟨decide_eq_false inside, .index, by simp only [itemAt, List.getElem?_eq_none (not_lt.mp inside)], rfl⟩
  | dict _ => exact .inr ⟨rfl, .key, rfl, rfl⟩
  | null | bool _ | int _ | float _ => exact .inr ⟨rfl, .type, rfl, rfl⟩

theorem reads_iterateOrNone (value : Json) : Reads (iterateOrNone value) (!value.truthy || isIterable value) := by
  rw [iterateOrNone]
  cases full : value.truthy with
  | false => exact reads_ok _
  | true =>
    rw [if_pos rfl]
    cases value with
    | list _ | str _ | dict _ => exact reads_ok _
    | null | bool _ | int _ | float _ => exact .inr ⟨rfl, .type, rfl, rfl⟩

theorem reads_hit (frame : Fields) (nowMs : ℤ) (hit : Json) : Reads (readHit (.dict frame) nowMs hit) (namesDetection frame hit) := by
  cases hit with
  | null => exact reads_ok _
  | int i =>
    rw [readHit, namesDetection]
    by_cases negative : i < 0
    · rw [if_pos negative, decide_eq_false (not_le.mpr negative)]
      exact .inr ⟨rfl, .value, rfl, rfl⟩
    · rw [if_neg negative, decide_eq_true (not_lt.mp negative)]
      refine (reads_ok (get frame "adsb" .null)).bind fun adsb same => ?_
      obtain rfl := Except.ok.inj same
      -- Each array is read under its name, then at the index.
      refine (reads_item frame "delay").1.bind fun delays named => ?_
      obtain rfl := (reads_item frame "delay").2 delays named
      refine (reads_itemAt _ _).bind fun delay _ => ?_
      refine (reads_item frame "doppler").1.bind fun dopplers named => ?_
      obtain rfl := (reads_item frame "doppler").2 dopplers named
      refine (reads_itemAt _ _).bind fun doppler _ => ?_
      refine (reads_item frame "snr").1.bind fun snrs named => ?_
      obtain rfl := (reads_item frame "snr").2 snrs named
      refine (reads_itemAt _ _).bind fun snr _ => ?_
      cases full : (get frame "adsb" .null).truthy with
      | false => exact reads_ok _
      | true =>
        rw [Bool.not_true, Bool.false_or, ← Bool.and_true (indexes _ _)]
        exact (reads_itemAt _ _).bind fun _ _ => reads_ok _
  | bool _ | float _ | str _ | list _ | dict _ => exact .inr ⟨rfl, .value, rfl, rfl⟩

/-- A track is read exactly when it is readable, and what reading it raises otherwise is caught. -/
theorem reads_wire (frame : Fields) (nowMs : ℤ) (wire : Json) :
    Reads (readWire text (.dict frame) nowMs wire) (readable frame wire) := by
  cases wire with
  | dict wire =>
    rw [readWire, readable]
    have member (key : String) : Reads (getItem (.dict wire) key) true := reads_ok _
    cases present : has wire "state" with
    | false =>
      have absent : stateOf (get wire "state" .null) = none := by
        rw [has, Option.isSome_eq_false_iff, Option.isNone_iff_eq_none] at present
        rw [Tcp.get, present, Option.getD_none]
        rfl
      obtain ⟨unread, -⟩ := reads_item wire "state"
      rw [present] at unread
      rw [absent]
      rcases unread with ⟨impossible, -⟩ | ⟨-, e, raises, caught⟩
      · cases impossible
      · exact .inr ⟨rfl, e, by rw [raises]; rfl, caught⟩
    | true =>
      have read := (reads_item wire "state").1
      rw [present] at read
      rw [← Bool.true_and (Option.isSome _ && _)]
      refine read.bind fun state named => ?_
      obtain rfl := (reads_item wire "state").2 state named
      cases stateOf (get wire "state" .null) with
      | none => exact .inr ⟨rfl, .value, rfl, rfl⟩
      | some state =>
        rw [Option.isSome_some, Bool.true_and]
        refine (reads_item wire "id").1.bind fun id _ => ?_
        refine (reads_item wire "n_associated").1.bind fun nAssociated _ => ?_
        refine (reads_item wire "n_missed").1.bind fun nMissed _ => ?_
        rw [← Bool.true_and (has wire "is_anomalous" && _)]
        refine (member "adsb_hex").bind fun adsbHex _ => ?_
        refine (reads_item wire "is_anomalous").1.bind fun isAnomalous _ => ?_
        rw [← Bool.true_and ((_ || _) && _)]
        refine (member "anomaly_types").bind fun types named => ?_
        obtain rfl := Except.ok.inj named
        refine (reads_iterateOrNone _).bind fun anomalyTypes _ => ?_
        refine (reads_item wire "max_velocity_ms").1.bind fun maxVelocityMs _ => ?_
        -- What is left is the optional members and the hit.
        rw [← Bool.true_and (namesDetection _ _)]
        refine (member "born_t").bind fun bornT _ => ?_
        rw [← Bool.true_and (namesDetection _ _)]
        refine (member "avg_snr").bind fun avgSnr _ => ?_
        rw [← Bool.true_and (namesDetection _ _)]
        refine (member "shadow_fraction").bind fun shadowFraction _ => ?_
        rw [← Bool.true_and (namesDetection _ _)]
        refine (member "interference_fraction").bind fun interferenceFraction _ => ?_
        rw [← Bool.true_and (namesDetection _ _)]
        refine (member "hit").bind fun hit named => ?_
        obtain rfl := Except.ok.inj named
        rw [← Bool.and_true (namesDetection _ _)]
        exact (reads_hit frame nowMs _).bind fun _ _ => reads_ok _
  | null | bool _ | int _ | float _ | str _ | list _ => exact .inr ⟨rfl, .type, rfl, rfl⟩

/-! ### The loop and the frame -/

/-- The loop files what is readable, counts the rest, and is never left. -/
theorem fileWires_readable (run : String) (frame : Fields) (nowMs : ℤ) (claimed : Finset ℤ) (wires : List Json)
    (tracks : UntypedTracks) (refused : Nat) :
    ∃ filed, fileWires text run (.dict frame) nowMs claimed (wires.filter (readable frame)) tracks refused = (filed, .ok refused) ∧
      ∀ refused, fileWires text run (.dict frame) nowMs claimed wires tracks refused =
        (filed, .ok (refused + wires.countP fun wire => !readable frame wire)) := by
  induction wires generalizing tracks with
  | nil => exact ⟨tracks, rfl, fun _ => rfl⟩
  | cons wire rest ih =>
    rcases reads_wire text frame nowMs wire with ⟨well, ⟨update, point⟩, reads⟩ | ⟨ill, e, raises, caught⟩
    · obtain ⟨filed, alone, counted⟩ := ih (fileUpdate text run nowMs (isClaimed claimed wire) tracks update point)
      refine ⟨filed, ?_, fun refused => ?_⟩
      · rw [List.filter_cons_of_pos well, fileWires, reads]
        exact alone
      · rw [fileWires, reads, List.countP_cons_of_neg (by simp [well])]
        exact counted refused
    · obtain ⟨filed, alone, counted⟩ := ih tracks
      refine ⟨filed, ?_, fun refused => ?_⟩
      · rw [List.filter_cons_of_neg (by simp [ill])]
        exact alone
      · rw [fileWires, raises, List.countP_cons_of_pos (by simp [ill])]
        simp only [caught, if_true]
        rw [counted, Nat.add_right_comm, Nat.add_assoc]

/-- The frame with other tracks in place of its own. -/
def withTracks (frame : Fields) (wires : List Json) : Fields := put "tracks" (.list wires) frame

theorem lookup_withTracks (frame : Fields) (wires : List Json) (other : key ≠ "tracks") :
    lookup key (withTracks frame wires) = lookup key frame := by
  rw [withTracks, lookup_put, if_neg (Ne.symm other)]

theorem get_withTracks (frame : Fields) (wires : List Json) (other : key ≠ "tracks") (default : Json) :
    get (withTracks frame wires) key default = get frame key default := by
  rw [Tcp.get, lookup_withTracks frame wires other, Tcp.get]

theorem item_withTracks (frame : Fields) (wires : List Json) (other : key ≠ "tracks") :
    item (.dict (withTracks frame wires)) key = item (.dict frame) key := by
  simp only [item, lookup_withTracks frame wires other]

theorem wiresOf_withTracks (frame : Fields) (wires : List Json) : wiresOf (withTracks frame wires) = .ok wires := by
  rw [wiresOf, Tcp.get, withTracks, lookup_put, if_pos rfl, Option.getD_some]
  cases wires <;> rfl

theorem readWire_withTracks (frame : Fields) (wires : List Json) :
    readWire text (.dict (withTracks frame wires)) = readWire text (.dict frame) := by
  have same_hit : readHit (.dict (withTracks frame wires)) = readHit (.dict frame) := by
    funext nowMs hit
    cases hit with
    | int i => simp only [readHit, getItem, get_withTracks frame wires (show "adsb" ≠ "tracks" by decide),
        item_withTracks frame wires (show "delay" ≠ "tracks" by decide),
        item_withTracks frame wires (show "doppler" ≠ "tracks" by decide),
        item_withTracks frame wires (show "snr" ≠ "tracks" by decide)]
    | null | bool _ | float _ | str _ | list _ | dict _ => rfl
  funext nowMs wire
  simp only [readWire, same_hit]

theorem fileWires_withTracks (run : String) (frame : Fields) (others : List Json) (nowMs : ℤ) (claimed : Finset ℤ)
    (wires : List Json) (tracks : UntypedTracks) (refused : Nat) :
    fileWires text run (.dict (withTracks frame others)) nowMs claimed wires tracks refused =
      fileWires text run (.dict frame) nowMs claimed wires tracks refused := by
  induction wires generalizing tracks refused with
  | nil => rfl
  | cons wire rest ih =>
    rw [fileWires, fileWires, readWire_withTracks]
    split
    · exact ih _ _
    · simp only [ih]

theorem runNamed_withTracks (frame : Fields) (wires : List Json) : runNamed text (withTracks frame wires) = runNamed text frame := by
  rw [runNamed, get_withTracks frame wires (by decide), runNamed]

theorem timestampOf_withTracks (frame : Fields) (wires : List Json) :
    timestampOf parseInt (withTracks frame wires) = timestampOf parseInt frame := by
  rw [timestampOf, item_withTracks frame wires (by decide), timestampOf]

theorem ageNode_withTracks (store : TrackStore) (nodeId : String) (frame : Fields) (wires : List Json) :
    ageNode parseInt store nodeId (withTracks frame wires) = ageNode parseInt store nodeId frame := by
  simp only [ageNode, timestampOf_withTracks]

/-- Aging refuses nothing. -/
theorem ageNode_refuses (aged : (ageNode parseInt store nodeId frame).2 = .ok count) : count = 0 := by
  rw [ageNode] at aged
  split at aged
  · exact (Except.ok.inj aged).symm
  · split at aged
    · cases aged
    · exact (Except.ok.inj aged).symm

/-- Aging raises what the timestamp raises. -/
theorem ageNode_raises (aged : (ageNode parseInt store nodeId frame).2 = .error e) : timestampOf parseInt frame = .error e := by
  rw [ageNode] at aged
  split at aged
  · cases aged
  · split at aged
    · rename_i raised
      rw [raised, Except.error.inj aged]
    · cases aged

theorem ingestUntyped_unnamed (store : TrackStore) (nodeId : String) (claimed : Finset ℤ) (named : runNamed text frame = none) :
    ingestUntyped text parseInt store nodeId frame claimed = ageNode parseInt store nodeId frame := by
  simp only [ingestUntyped, named]

theorem ingestUntyped_unstamped (store : TrackStore) (nodeId : String) (claimed : Finset ℤ)
    (named : runNamed text frame = some run) (stamped : timestampOf parseInt frame = .error e) :
    ingestUntyped text parseInt store nodeId frame claimed = (store, .error e) := by
  simp only [ingestUntyped, named, stamped]

/-- A frame that names a run, has a timestamp and has tracks to go through is filed. -/
theorem ingestUntyped_named (store : TrackStore) (nodeId : String) {frame : Fields} (claimed : Finset ℤ)
    (named : runNamed text frame = some run) (stamped : timestampOf parseInt frame = .ok nowMs)
    (listed : wiresOf frame = .ok wires)
    (filed : fileWires text run (.dict frame) nowMs claimed wires (((store.get? nodeId).getD {}).startRun run).tracks 0 =
      (tracks, .ok count)) :
    ingestUntyped text parseInt store nodeId frame claimed =
      (store.insert nodeId { ((store.get? nodeId).getD {}).startRun run with tracks := forgetStale nowMs tracks }, .ok count) := by
  simp only [ingestUntyped, named, stamped, listed, filed]

/-- A track that cannot be read is refused alone. The store is left as the readable tracks of the frame
leave it, and where the frame names a tracker run as many are refused as cannot be read; no track makes
the call raise, only a timestamp that is no number or tracks that cannot be gone through. -/
theorem ingest_refuses_alone (store : TrackStore) (nodeId : String) (frame : Fields) (claimed : Finset ℤ) :
    (∀ wires, wiresOf frame = .ok wires →
      (ingestUntyped text parseInt store nodeId frame claimed).1 =
          (ingestUntyped text parseInt store nodeId (withTracks frame (wires.filter (readable frame))) claimed).1 ∧
        ∀ refused, (ingestUntyped text parseInt store nodeId frame claimed).2 = .ok refused →
          refused = if (runNamed text frame).isSome then wires.countP (fun wire => !readable frame wire) else 0) ∧
    ∀ e, (ingestUntyped text parseInt store nodeId frame claimed).2 = .error e →
      timestampOf parseInt frame = .error e ∨ wiresOf frame = .error e := by
  cases named : runNamed text frame with
  | none =>
    rw [ingestUntyped_unnamed text parseInt store nodeId claimed named]
    constructor
    · intro wires _
      rw [ingestUntyped_unnamed text parseInt store nodeId claimed ((runNamed_withTracks text frame _).trans named),
        ageNode_withTracks]
      exact ⟨rfl, fun refused aged => ageNode_refuses parseInt aged⟩
    · intro e aged
      exact .inl (ageNode_raises parseInt aged)
  | some run =>
    cases stamped : timestampOf parseInt frame with
    | error e =>
      rw [ingestUntyped_unstamped text parseInt store nodeId claimed named stamped]
      constructor
      · intro wires _
        rw [ingestUntyped_unstamped text parseInt store nodeId claimed ((runNamed_withTracks text frame _).trans named)
          ((timestampOf_withTracks parseInt frame _).trans stamped)]
        refine ⟨rfl, fun refused impossible => ?_⟩
        cases impossible
      · intro e' same
        rw [Except.error.inj same]
        exact .inl rfl
    | ok nowMs =>
      cases listed : wiresOf frame with
      | error e =>
        have stopped : (ingestUntyped text parseInt store nodeId frame claimed).2 = .error e := by
          simp only [ingestUntyped, named, stamped, listed]
        rw [stopped]
        constructor
        · intro wires impossible
          cases impossible
        · intro e' raises
          rw [Except.error.inj raises]
          exact .inr rfl
      | ok wires =>
        obtain ⟨filed, alone, counted⟩ := fileWires_readable text run frame nowMs claimed wires
          (((store.get? nodeId).getD {}).startRun run).tracks 0
        have whole := ingestUntyped_named text parseInt store nodeId claimed named stamped listed (counted 0)
        rw [← fileWires_withTracks text run frame (wires.filter (readable frame))] at alone
        have cleaned := ingestUntyped_named text parseInt store nodeId claimed
          ((runNamed_withTracks text frame _).trans named) ((timestampOf_withTracks parseInt frame _).trans stamped)
          (wiresOf_withTracks frame _) alone
        rw [whole]
        constructor
        · rintro _ ⟨⟩
          rw [cleaned]
          refine ⟨rfl, fun refused same => ?_⟩
          rw [← Except.ok.inj same, Nat.zero_add]
          rfl
        · intro e impossible
          cases impossible

/-! ### A track of the wrong types -/

def isFiniteNumber : Json → Bool
  | .int n => decide (|n| < floatCeiling)
  | .float x => x.isFinite
  | _ => false

def isText : Json → Bool
  | .str _ => true
  | _ => false

def isInteger : Json → Bool
  | .int _ => true
  | _ => false

def isFlag : Json → Bool
  | .bool _ => true
  | _ => false

def isTexts : Json → Bool
  | .list items => items.all isText
  | _ => false

/-- Every value is of the type that `NodeTrack` declares for it, and every number is finite. -/
def wellTyped : Json → Bool
  | .dict wire =>
      let optional (key : String) (typed : Json → Bool) := (get wire key .null).isNull || typed (get wire key .null)
      isText (get wire "id" .null) && isInteger (get wire "n_associated" .null) && isInteger (get wire "n_missed" .null) &&
        optional "adsb_hex" isText && isFlag (get wire "is_anomalous" .null) && optional "anomaly_types" isTexts &&
        isFiniteNumber (get wire "max_velocity_ms" .null) &&
        ["born_t", "avg_snr", "shadow_fraction", "interference_fraction"].all (optional · isFiniteNumber)
  | _ => false

def malformed (frame : Fields) (wire : Json) : Bool := !(readable frame wire && wellTyped wire)

/-- The malformed tracks of a frame are refused, all of them and alone. -/
def RefusedAlone (store : TrackStore) (nodeId : String) (frame : Fields) (claimed : Finset ℤ) : Prop :=
  ∀ wires, wiresOf frame = .ok wires →
    (ingestUntyped text parseInt store nodeId frame claimed).1 =
        (ingestUntyped text parseInt store nodeId (withTracks frame (wires.filter fun wire => !malformed frame wire)) claimed).1 ∧
      (ingestUntyped text parseInt store nodeId frame claimed).2 = .ok (wires.countP (malformed frame))

/-- A track whose velocity is not finite. -/
def boundless : Json := .dict [("id", .str "t1"), ("state", .str "active"), ("n_associated", .int 5), ("n_missed", .int 0),
  ("is_anomalous", .bool false), ("max_velocity_ms", .float .nan)]

def boundlessFrame : Fields := [("timestamp", .int 1000), ("tracker", .dict [("run", .str "r1")]), ("tracks", .list [boundless])]

/-- It can be read, so it is filed. -/
theorem boundless_is_filed :
    ¬ RefusedAlone ⟨fun _ => none, fun _ => "", fun _ => ""⟩ (fun _ => none) Dict.empty "n1" boundlessFrame ∅ := by
  intro alone
  have counted := (alone [boundless] rfl).2
  have none_refused : (ingestUntyped ⟨fun _ => none, fun _ => "", fun _ => ""⟩ (fun _ => none) Dict.empty "n1" boundlessFrame ∅).2 =
      .ok 0 := rfl
  rw [none_refused] at counted
  have one_malformed : [boundless].countP (malformed boundlessFrame) = 1 := by decide +kernel
  rw [one_malformed] at counted
  cases counted

end Retina.Frames
