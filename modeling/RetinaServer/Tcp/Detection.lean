import RetinaServer.Tcp.Server

/-! Detections on the wire: the frame a message carries, the ADS-B positions taken
out of it at once, and the limit on what reaches the frame queue. -/
namespace Retina.Tcp
open OrderedDict
open Frames (Ingress QueueShape Trig ingressStep truncate ftToM knotsToMs adsbCaptureMaxSkewS adsbCaptureMaxLeadS
  normalizeHexKey)

/-- `value[key] = item`; `none` is a value that takes no such item. -/
def Json.setItem (value : Json) (key : String) (item : Json) : Option Json :=
  match value with
  | .dict fields => some (.dict (put key item fields))
  | _ => none

/-- `value[key]`. -/
def Json.item (key : String) : Json → Option Json
  | .dict fields => lookup key fields
  | _ => none

/-- A frame that both signs itself and names its hash is verified later on. -/
def flagSigned (frame : Json) : Option Json := do
  let hashed ← if ← frame.contains "signature" then frame.contains "payload_hash" else some false
  if hashed then frame.setItem "_needs_sig_verify" (.bool true) else some frame

/-- The stamp in milliseconds stands in for a missing one. -/
def stampFrame (frame : Json) : Option Json := do
  if ← frame.contains "timestamp" then some frame
  else if ← frame.contains "timestamp_ms" then frame.setItem "timestamp" (← frame.item "timestamp_ms")
  else some frame

inductive Prepared where
  | raised
  /-- The frame has no stamp. -/
  | skipped
  | ready (frame : Json)

/-- The frame as it is queued: under the connection's node where there is one. -/
def prepareFrame (msg : Fields) (nodeId : Json) : Prepared :=
  match (flagSigned (get msg "data" (.dict msg))).bind stampFrame with
  | none => .raised
  | some frame => match frame.contains "timestamp" with
    | none => .raised
    | some false => .skipped
    | some true =>
        if nodeId.truthy then (frame.setItem "_node_id" nodeId).elim .raised .ready else .ready frame

example : prepareFrame [("data", .dict [("timestamp_ms", .int 5)])] (.str "node-A") =
    .ready (.dict [("timestamp_ms", .int 5), ("timestamp", .int 5), ("_node_id", .str "node-A")]) := rfl

/-! ### ADS-B positions -/

/-- `as_num`; `none` is an integer without a float. -/
def asNum (value : Json) : Option ℚ :=
  (value.isNum).map fun usable => match usable, value.number? with
    | true, some (.fin x) => x
    | _, _ => 0

/-- The capture stamp, unless it is missing or out of step with the clock. -/
def adsbCaptureTsMs (frame : Fields) (nowS : ℚ) : Option ℤ :=
  let stamp := get frame "timestamp" .null
  (stamp.isNum).map fun usable => match usable, stamp.number? with
    | true, some (.fin tsMs) =>
        let offsetS := nowS - tsMs / 1000
        if 0 < tsMs ∧ -adsbCaptureMaxLeadS ≤ offsetS ∧ offsetS ≤ adsbCaptureMaxSkewS then truncate tsMs
        else truncate (nowS * 1000)
    | _, _ => truncate (nowS * 1000)

/-- The handshake's verdict where the node has one, the prefix rule otherwise. -/
def worldOf {q : QueueShape} (s : Server q) (nodeId : Json) : Option String :=
  match nodeId with
  | .str id => some (if (get (knownRecord s id) "is_synthetic" (.bool (Registry.isSyntheticNode id))).truthy then "sim"
      else "real")
  | _ => none

def validLatlon (lat lon : Json) : Bool := !lat.isNull && !lon.isNull && (lat.truthy || lon.truthy)

/-- `normalize_hex_key`: any value has a text. -/
def hexKey (text : PyText) (value : Json) : String :=
  if value.truthy then match value with
    | .str s => normalizeHexKey (some s)
    | other => normalizeHexKey (some (text.str other))
  else ""

/-- What is read of an entry that names an aircraft and places it. -/
structure Position where
  hexCode : String
  entry : Fields
  gs : ℚ
  track : ℚ
  alt : ℚ

/-- The outer `none` is an exception, the inner one an entry that is passed over. -/
def readPosition (text : PyText) : Json → Option (Option Position)
  | .dict entry =>
      let hexCode := hexKey text (get entry "hex" .null)
      let lat := get entry "lat" .null
      let lon := get entry "lon" .null
      if hexCode = "" || !validLatlon lat lon then some none
      else do
        let placed ← if ← lat.isFinite then lon.isFinite else some false
        if !placed then some none
        else
          let gs ← asNum (get entry "gs" (.int 0))
          let track ← asNum (get entry "track" (.int 0))
          let alt ← asNum (get entry "alt_baro" (.int 0))
          some (some { hexCode, entry, gs, track, alt })
  | _ => some none

def adsbRecord (trig : Trig) (tsMs recvMs : ℤ) (world : String) (p : Position) : Fields :=
  [("hex", .str p.hexCode), ("flight", get p.entry "flight" (.str "")), ("lat", get p.entry "lat" .null),
   ("lon", get p.entry "lon" .null), ("alt_baro", get p.entry "alt_baro" (.int 0)),
   ("gs", get p.entry "gs" (.int 0)), ("track", get p.entry "track" (.int 0)), ("last_seen_ms", .int tsMs),
   ("recv_ms", .int recvMs), ("world", .str world), ("alt_m", .float (.fin (p.alt * ftToM))),
   ("vel_east", .float (.fin (p.gs * knotsToMs * trig.sinDeg p.track))),
   ("vel_north", .float (.fin (p.gs * knotsToMs * trig.cosDeg p.track))), ("timestamp_ms", .int tsMs)]

/-- A newer fix of the same transponder stands. -/
def adsbStore (store : Dict String Fields) (hexCode : String) (rec : Fields) : Dict String Fields :=
  let seen (fields : Fields) := ((get fields "last_seen_ms" (.int 0)).number?).getD (.fin 0)
  if (store.get? hexCode).any fun existing => (seen rec).lt (seen existing) then store else store.insert hexCode rec

/-- The entries before one that raises are stored. -/
def storePositions (w : Listener) (tsMs recvMs : ℤ) (world : String) :
    List Json → Dict String Fields → Dict String Fields × Bool
  | [], store => (store, true)
  | entry :: rest, store => match readPosition w.text entry with
    | none => (store, false)
    | some none => storePositions w tsMs recvMs world rest store
    | some (some p) =>
        storePositions w tsMs recvMs world rest (adsbStore store p.hexCode (adsbRecord w.trig tsMs recvMs world p))

/-- What iterating over the value yields; `none` is a value that is not iterable. -/
def Json.elements : Json → Option (List Json)
  | .list items => some items
  | .dict fields => some (fields.map fun entry => .str entry.1)
  | .str s => some (s.toList.map fun c => .str (String.ofList [c]))
  | _ => none

/-- The positions of a frame, and whether the call returns. -/
def applySyntheticAdsb {q : QueueShape} (w : Listener) (s : Server q) (frame : Fields) (nodeId : Json) (now : Clock) :
    Server q × Bool :=
  let adsbList := get frame "adsb" .null
  if !adsbList.truthy then (s, true)
  else match adsbCaptureTsMs frame now.time, worldOf s nodeId, adsbList.elements with
    | some tsMs, some world, some entries =>
        let (store, returned) := storePositions w tsMs (truncate (now.time * 1000)) world entries s.adsbAircraft
        ({ s with adsbAircraft := store }, returned)
    | _, _, _ => (s, false)

/-! ### The queue -/

section
variable {q : QueueShape}

/-- `node_id or "tcp-unknown"`. -/
def queueName (nodeId : Json) : Json := if nodeId.truthy then nodeId else .str "tcp-unknown"

/-- `str(item[0])` picks the shard. -/
def shardName (w : Listener) : Json → String
  | .str id => id
  | other => w.text.str other

/-- A full queue drops the frame. -/
def putFrame (w : Listener) (s : Server q) (nodeId frame : Json) : Server q :=
  { s with frameQueue :=
      ingressStep q s.frameQueue (.put (shardName w (queueName nodeId), (queueName nodeId, frame))) }

/-- A node's frame within the interval is discarded; its positions are stored by then. -/
def enqueueLimited (w : Listener) (s : Server q) (nodeId frame : Json) (now : Clock) : Handled q :=
  if nodeId.truthy then match nodeId.hashKey with
    | none => raised s
    | some key =>
        if now.monotonic - (s.perNodeLastEnqueue.get? key).getD 0 < w.minIntervalS then { server := s }
        else { server :=
          putFrame w { s with perNodeLastEnqueue := s.perNodeLastEnqueue.insert key now.monotonic } nodeId frame }
  else { server := putFrame w s nodeId frame }

/-- Positions are taken of the frames of a named connection. -/
def extractPositions (w : Listener) (s : Server q) (frame nodeId : Json) (now : Clock) : Server q × Bool :=
  match frame with
  | .dict fields => if nodeId.truthy then applySyntheticAdsb w s fields nodeId now else (s, true)
  | _ => (s, true)

def enqueueDetection (w : Listener) (s : Server q) (msg : Fields) (nodeId : Json) (now : Clock) : Handled q :=
  match prepareFrame msg nodeId with
  | .raised => raised s
  | .skipped => { server := s }
  | .ready frame =>
      let got := extractPositions w s frame nodeId now
      if got.2 then enqueueLimited w got.1 nodeId frame now else raised got.1

/-- A bare frame, as it came or under the connection's node. -/
def bareFrame (msg : Fields) (nodeId : Json) : Json := .dict (if nodeId.truthy then put "_node_id" nodeId msg else msg)

/-- Taking the positions out of a frame writes the ADS-B store alone. -/
theorem extractPositions_server (w : Listener) (s : Server q) (frame nodeId : Json) (now : Clock) :
    ∃ store, (extractPositions w s frame nodeId now).1 = { s with adsbAircraft := store } := by
  cases frame with
  | dict fields =>
    simp only [extractPositions]
    split
    · rw [applySyntheticAdsb]
      split
      · exact ⟨_, rfl⟩
      · split
        · exact ⟨_, rfl⟩
        · exact ⟨_, rfl⟩
    · exact ⟨_, rfl⟩
  | null | bool _ | int _ | float _ | str _ | list _ => exact ⟨_, rfl⟩

/-- What neither the stamp nor the queued frame changes, a limited frame leaves as it was. -/
theorem enqueueLimited_kept (view : Server q → β) (w : Listener) (s : Server q) (nodeId frame : Json) (now : Clock)
    (stamped : ∀ stamps, view (putFrame w { s with perNodeLastEnqueue := stamps } nodeId frame) = view s)
    (queued : view (putFrame w s nodeId frame) = view s) :
    view (enqueueLimited w s nodeId frame now).server = view s := by
  rw [enqueueLimited]
  split
  · split
    · rfl
    · split
      · rfl
      · exact stamped _
  · exact queued

/-- What neither the positions nor the limited frame change, a detection leaves as it was. -/
theorem enqueueDetection_kept (view : Server q → β) (w : Listener) (s : Server q) (msg : Fields) (nodeId : Json) (now : Clock)
    (taken : ∀ store, view { s with adsbAircraft := store } = view s)
    (limited : ∀ s' frame, view (enqueueLimited w s' nodeId frame now).server = view s') :
    view (enqueueDetection w s msg nodeId now).server = view s := by
  rw [enqueueDetection]
  cases prepareFrame msg nodeId with
  | raised | skipped => rfl
  | ready frame =>
    obtain ⟨store, stored⟩ := extractPositions_server w s frame nodeId now
    simp only [stored]
    split
    · exact (limited _ frame).trans (taken store)
    · exact taken store

theorem enqueueDetection_connectedNodes (w : Listener) (s : Server q) (msg : Fields) (nodeId : Json) (now : Clock) :
    (enqueueDetection w s msg nodeId now).server.connectedNodes = s.connectedNodes :=
  enqueueDetection_kept Server.connectedNodes w s msg nodeId now (fun _ => rfl) fun s' frame =>
    enqueueLimited_kept Server.connectedNodes w s' nodeId frame now (fun _ => rfl) rfl

end
end Retina.Tcp
