import RetinaServer.Tcp.Detection

/-! A detection frame as it comes in over the wire, and as the frame queue's readers expect it. -/
namespace Retina.Mirror
open OrderedDict
open Frames (truncate)
open Tcp (Fields Json)

structure AdsbTag where
  hex : String
  lat : ℚ
  lon : ℚ
  alt : Option ℚ := none
  gs : Option ℚ := none
  track : Option ℚ := none
  expectedDelay : Option ℚ := none
  expectedDoppler : Option ℚ := none
  delayResidual : Option ℚ := none
  dopplerResidual : Option ℚ := none

structure DetectionFrame where
  t : ℚ
  seq : Nat
  bootId : String
  configVersion : ℤ
  delay : List ℚ
  doppler : List ℚ
  snr : List ℚ
  adsbHex : Option (List (Option String)) := none
  adsb : Option (List (Option AdsbTag)) := none
  /-- The run of the node's own tracker. -/
  tracker : Option String := none
  /-- Each track as its model is dumped. -/
  tracks : Option (List Fields) := none

def number (x : ℚ) : Json := .float (.fin x)

def numbers (xs : List ℚ) : Json := .list (xs.map number)

def textOrNull (text : Option String) : Json := text.elim .null .str

/-- A key the node left null is omitted. -/
def tagRecord (tag : AdsbTag) : Fields :=
  let optional : List (String × Option ℚ) :=
    [("alt_baro", tag.alt), ("gs", tag.gs), ("track", tag.track), ("expected_delay", tag.expectedDelay),
     ("expected_doppler", tag.expectedDoppler), ("delay_residual", tag.delayResidual),
     ("doppler_residual", tag.dopplerResidual)]
  [("hex", .str tag.hex), ("lat", number tag.lat), ("lon", number tag.lon)] ++
    optional.filterMap fun item => item.2.map fun value => (item.1, number value)

/-- One hex or none for each detection. -/
def hexes (frame : DetectionFrame) : List (Option String) :=
  match frame.adsbHex, frame.adsb with
  | some hexes, _ => hexes
  | none, some tags => tags.map fun tag => tag.map AdsbTag.hex
  | none, none => List.replicate frame.delay.length none

def pipelineFrame (frame : DetectionFrame) : Fields :=
  [("timestamp", .int (truncate (frame.t * 1000))),
   ("delay", numbers frame.delay),
   ("doppler", numbers frame.doppler),
   ("snr", numbers frame.snr),
   ("adsb_hex", .list ((hexes frame).map textOrNull)),
   ("seq", .int frame.seq),
   ("boot_id", .str frame.bootId),
   ("config_version", .int frame.configVersion)] ++
  (frame.adsb.elim [] fun tags => [("adsb", .list (tags.map fun tag => tag.elim .null fun tag => .dict (tagRecord tag)))]) ++
  (frame.tracker.elim [] fun run => [("tracker", .dict [("run", .str run)])] ++
    frame.tracks.elim [] fun tracks => [("tracks", .list (tracks.map .dict))])

end Retina.Mirror
