import RetinaServer.Library.Dict
import RetinaServer.Library.Rounding
import RetinaServer.Feed.Entry

/-! Multinode results and the entries they are stored as. The source passes one
dictionary from the solve to the store and stamps it on the way, so both are one
record here, and only the store's view of it has an optional position. -/
namespace Retina.Multinode

/-- A position covariance, east before north, in square kilometres. -/
structure Cov where
  ee : ℚ
  en : ℚ
  ne : ℚ
  nn : ℚ
deriving DecidableEq, Repr

/-- The branch of the filter a published position came from. -/
inductive KfAction where
  | init
  | smoothed
  | manoeuvreRescued
  | reanchored
  | passthroughHeld
deriving DecidableEq, Repr

/-- A numeric field that is absent or not finite is `none`. -/
structure TrackRecord (C : Type) where
  lat : C
  lon : C
  timestampMs : ℤ
  altM : Option ℚ
  velEast : Option ℚ
  velNorth : Option ℚ
  nNodes : Nat
  covEnKm2 : Option Cov := none
  adsbHex : Option String := none
  isAnomalous : Bool := false
  anomalyTypes : List String := []
  sourceTrackIds : List String := []
  solveCount : Nat := 0
  maxNNodes : Nat := 0
  recentTrackIds : Option (Dict String ℚ) := none
  predecessorKey : Option String := none
  smoother : Option String := none
  kfPosSigmaM : Option ℚ := none
  kfAction : Option KfAction := none
  kfD2 : Option ℚ := none
  kfInnovM : Option ℚ := none
deriving DecidableEq

/-- A solve on its way to the store: it has a position. -/
abbrev Solve := TrackRecord ℚ

/-- An entry as the readers of the store take it. -/
abbrev TrackEntry := TrackRecord (Option ℚ)

namespace TrackRecord

/-- The epoch of the measurement, in seconds. -/
def tsS (r : TrackRecord C) : ℚ := r.timestampMs / 1000

def stored (s : Solve) : TrackEntry := { s with lat := some s.lat, lon := some s.lon }

@[simp] theorem stored_lat (s : Solve) : s.stored.lat = some s.lat := rfl

@[simp] theorem stored_lon (s : Solve) : s.stored.lon = some s.lon := rfl

@[simp] theorem stored_timestampMs (s : Solve) : s.stored.timestampMs = s.timestampMs := rfl

@[simp] theorem stored_tsS (s : Solve) : s.stored.tsS = s.tsS := rfl

end TrackRecord

/-- The store of live multinode tracks, by key. -/
abbrev Tracks := Dict String TrackEntry

def darkPrefix : String := "mn-dark-"
def adsbPrefix : String := "mn-adsb-"

/-- `f"mn-dark-{ts}-{lat:.3f}-{lon:.3f}"`, the name a key is minted under. -/
def birthName (s : Solve) : String :=
  darkPrefix ++ toString s.timestampMs ++ "-" ++ Rounding.formatFixed 3 s.lat ++ "-" ++
    Rounding.formatFixed 3 s.lon

/-- Distance along a meridian, at 111 km to the degree. -/
def meridian : Geodesy where
  haversineKm := fun lat₁ _ lat₂ _ => 111 * |lat₁ - lat₂|
  offsetLatlonM := fun lat lon _ north => (lat + north / 111000, lon)
  mPerDegLat := 111000
  kmPerDegLon := fun _ => 111

/-- A solve or an entry without velocity. -/
def still (lat : C) (lon : C) (timestampMs : ℤ) : TrackRecord C where
  lat := lat
  lon := lon
  timestampMs := timestampMs
  altM := none
  velEast := none
  velNorth := none
  nNodes := 3

end Retina.Multinode
