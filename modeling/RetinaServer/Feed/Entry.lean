import Mathlib.Data.Rat.Defs
import Mathlib.Algebra.Order.Ring.Rat
import Mathlib.Data.Finset.Basic
import Mathlib.Order.WithBot
import Mathlib.Data.Prod.Lex

/-! The aircraft feed's entries and payloads, as far as de-duplication, the
private-node redaction and the node filter read them. -/
namespace Retina

/-- An identifier. The feed code tests identifiers for truth, so the empty
string stands for no identifier at all and is not one of these. -/
abbrev Ident := {name : String // name ≠ ""}

/-- The geodesy primitives the backend re-exports from its analytics library:
great-circle distance, the point an east and a north offset in metres away, and
the two scales of a degree. -/
structure Geodesy where
  haversineKm : ℚ → ℚ → ℚ → ℚ → ℚ
  offsetLatlonM : ℚ → ℚ → ℚ → ℚ → ℚ × ℚ
  mPerDegLat : ℚ
  kmPerDegLon : ℚ → ℚ

/-- Offsetting a point by nothing leaves it where it is. -/
def Geodesy.Anchored (geo : Geodesy) : Prop := ∀ lat lon, geo.offsetLatlonM lat lon 0 0 = (lat, lon)

namespace Feed

inductive PositionSource where
  | multinodeSolve
  | adsbSingleNode
  | adsbMultiNode
  | solverAdsbSeed
  | solverSingleNode
  | singleNodeEllipseArc
deriving DecidableEq, Repr

/-- One entry of the feed. A numeric field that is absent or not a number is
`none`, and so is a position source outside the ranked ones. -/
structure FeedEntry where
  hex : String
  lat : Option ℚ
  lon : Option ℚ
  altBaro : Option ℚ
  positionSource : Option PositionSource
  nNodes : Option ℚ
  seen : Option ℚ
  multinode : Bool
  nodeId : Option Ident
  contributingNodeIds : Option (List Ident)
  groundTruthHex : Option Ident
deriving DecidableEq, Repr

namespace FeedEntry

/-- `contributing_node_ids or []`. -/
def contributors (ac : FeedEntry) : List Ident := ac.contributingNodeIds.getD []

/-- The entry's own node, then its contributors. -/
def nodes (ac : FeedEntry) : List Ident := ac.nodeId.toList ++ ac.contributors

/-- The feed shows the aircraft under node `n`. -/
def Carries (ac : FeedEntry) (n : Ident) : Prop := ac.nodeId = some n ∨ n ∈ ac.contributors

instance (ac : FeedEntry) (n : Ident) : Decidable (ac.Carries n) := inferInstanceAs (Decidable (_ ∨ _))

theorem mem_nodes_iff (ac : FeedEntry) (n : Ident) : n ∈ ac.nodes ↔ ac.Carries n := by
  simp [nodes, Carries]

end FeedEntry

structure DetectionArc where
  hex : String
  nodeId : Option Ident
  delayUs : ℚ
deriving DecidableEq, Repr

/-- A feed payload. A field is `none` when its key is absent; `τ` is the
simulator's ground truth, which carries no node identity. -/
structure Payload (τ : Type) where
  now : Option ℚ
  messages : Option Nat
  aircraft : Option (List FeedEntry)
  detectionArcs : Option (List DetectionArc)
  detectingNodes : Option (List (String × List Ident))
  groundTruth : Option (List (String × τ))
  groundTruthMeta : Option (List (String × τ))
  anomalyHexes : Option (List String)

end Feed
end Retina
