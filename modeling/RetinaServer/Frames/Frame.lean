import RetinaServer.Library.Dict
import RetinaServer.Library.Rounding

/-! Detection frames, and the ADS-B records their tags are stored as. -/
namespace Retina.Frames

/-- A numeric field as a feed sends it: a finite number, or anything else, such
as the word "ground". -/
inductive RawNumber where
  | num (x : ℚ)
  | other (text : String)
deriving DecidableEq, Repr

def asNum : RawNumber → ℚ
  | .num x => x
  | .other _ => 0

/-- One tag of a frame's ADS-B list. A coordinate that is absent or not finite is `none`. -/
structure AdsbTag where
  hex : Option String := none
  icao : Option String := none
  flight : Option String := none
  lat : Option ℚ := none
  lon : Option ℚ := none
  altBaro : Option RawNumber := none
  gs : Option RawNumber := none
  track : Option RawNumber := none
deriving DecidableEq, Repr

/-- A frame, as far as it is aligned by detection. An item of the ADS-B list that
tags nothing is `none`. -/
structure Frame where
  delay : Option (List ℚ)
  doppler : Option (List ℚ)
  snr : Option (List ℚ)
  adsb : Option (List (Option AdsbTag))
  timestamp : Option ℚ
deriving DecidableEq, Repr

inductive World where
  | sim
  | real
deriving DecidableEq, Repr

structure AdsbRecord where
  hex : String
  flight : String
  lat : ℚ
  lon : ℚ
  altBaro : RawNumber
  gs : RawNumber
  track : RawNumber
  lastSeenMs : ℤ
  recvMs : Option ℤ
  world : Option World
  altM : ℚ
  velEast : ℚ
  velNorth : ℚ
deriving DecidableEq, Repr

abbrev AdsbStore := Dict String AdsbRecord

def ftToM : ℚ := 3048 / 10000
def knotsToMs : ℚ := 514444 / 1000000
def adsbCaptureMaxSkewS : ℚ := 300
def adsbCaptureMaxLeadS : ℚ := 2
def adsbNodeFixPrecedenceS : ℚ := 10

/-- Sine and cosine of an angle in degrees. -/
structure Trig where
  sinDeg : ℚ → ℚ
  cosDeg : ℚ → ℚ

/-- `int(x)`, towards zero. -/
def truncate (x : ℚ) : ℤ := if 0 ≤ x then ⌊x⌋ else ⌈x⌉

/-- The capture stamp, unless it is missing or out of step with the clock. -/
def adsbCaptureTsMs (frame : Frame) (nowS : ℚ) : ℤ :=
  match frame.timestamp with
  | some tsMs =>
      let offsetS := nowS - tsMs / 1000
      if 0 < tsMs ∧ -adsbCaptureMaxLeadS ≤ offsetS ∧ offsetS ≤ adsbCaptureMaxSkewS then truncate tsMs
      else truncate (nowS * 1000)
  | none => truncate (nowS * 1000)

/-- A newer fix of the same transponder stands. -/
def adsbStore (store : AdsbStore) (hexCode : String) (rec : AdsbRecord) : AdsbStore :=
  if (store.get? hexCode).any fun existing => decide (rec.lastSeenMs < existing.lastSeenMs) then store
  else store.insert hexCode rec

def stripSpaces (text : List Char) : List Char :=
  ((text.dropWhile Char.isWhitespace).reverse.dropWhile Char.isWhitespace).reverse

/-- `str(hex_code or "").strip().lower()`. -/
def normalizeHexKey (hexCode : Option String) : String :=
  String.ofList ((stripSpaces (hexCode.getD "").toList).map Char.toLower)

/-- `(0, 0)` is the broken configuration's position, a zero on one axis is not. -/
def validLatlon (lat lon : ℚ) : Bool := decide (lat ≠ 0 ∨ lon ≠ 0)

/-- `hex or icao`: an empty name gives way. -/
def tagHex (tag : AdsbTag) : String := normalizeHexKey ((tag.hex.filter fun h => decide (h ≠ "")).or tag.icao)

/-- The record a tag is stored as, if it names an aircraft and places it. -/
def adsbRecord (trig : Trig) (tsMs recvMs : ℤ) (world : World) (tag : AdsbTag) : Option AdsbRecord :=
  if tagHex tag = "" then none
  else match tag.lat, tag.lon with
    | some lat, some lon =>
        if !validLatlon lat lon then none
        else
          let gs := tag.gs.getD (.num 0)
          let track := tag.track.getD (.num 0)
          let gsMs := asNum gs * knotsToMs
          some {
            hex := tagHex tag
            flight := tag.flight.getD ""
            lat, lon, gs, track
            altBaro := tag.altBaro.getD (.num 0)
            lastSeenMs := tsMs
            recvMs := some recvMs
            world := some world
            altM := asNum (tag.altBaro.getD (.num 0)) * ftToM
            velEast := gsMs * trig.sinDeg (asNum track)
            velNorth := gsMs * trig.cosDeg (asNum track) }
    | _, _ => none

/-- The ADS-B extraction of a frame. -/
def extractAdsb (trig : Trig) (recvS : ℚ) (world : World) (frame : Frame) (store : AdsbStore) : AdsbStore :=
  ((frame.adsb.getD []).filterMap fun item => item.bind
    (adsbRecord trig (adsbCaptureTsMs frame recvS) (truncate (recvS * 1000)) world)).foldl
      (fun store rec => adsbStore store rec.hex rec) store

/-- What seeding is offered: the stored fixes over the polled ones, except where
the polled fix of an aircraft is the newer by more than the precedence allows. -/
def adsbForSeeding (polled store : AdsbStore) : AdsbStore :=
  store.items.foldl (fun out item =>
    let nodeMs := item.2.recvMs.getD item.2.lastSeenMs
    if (out.get? item.1).any fun rec => decide (adsbNodeFixPrecedenceS * 1000 < rec.lastSeenMs - nodeMs) then out
    else out.insert item.1 item.2) polled

def keepIndices (keep : List Nat) (values : List α) : List α := keep.filterMap fun i => values[i]?

/-- A copy without the claimed detections. -/
def stripClaimedDetections (frame : Frame) (claimed : Finset Nat) : Frame :=
  let keep := (List.range (frame.delay.getD []).length).filter fun i => decide (i ∉ claimed)
  { frame with
    delay := frame.delay.map (keepIndices keep)
    doppler := frame.doppler.map (keepIndices keep)
    snr := frame.snr.map (keepIndices keep)
    adsb := frame.adsb.map (keepIndices keep) }

end Retina.Frames
