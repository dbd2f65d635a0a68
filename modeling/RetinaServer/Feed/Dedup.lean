import RetinaServer.Library.FirstFit
import RetinaServer.Feed.Entry
import Mathlib.Data.List.Sort

/-! Collapse of the entries that describe one physical aircraft. Entries are
grouped by ground-truth hex or else by proximity; a group's best entry survives,
takes over the nodes of what is folded into it, and loses only those multinode
solves of a ground-truth group that are too far off to be the same aircraft. -/
namespace Retina.Feed
open FirstFit

def dedupSourceRank : PositionSource → Nat
  | .multinodeSolve => 0
  | .adsbSingleNode => 1
  | .adsbMultiNode => 1
  | .solverAdsbSeed => 2
  | .solverSingleNode => 3
  | .singleNodeEllipseArc => 4

def dedupProximityKm : ℚ := 3
def dedupAltGateFt : ℚ := 2000

/-- Proximity and altitude test for entries with no shared identity. -/
def looksLikeSameAircraft (geo : Geodesy) (a b : FeedEntry) : Bool :=
  match a.lat, a.lon, b.lat, b.lon with
  | some latA, some lonA, some latB, some lonB =>
      if dedupProximityKm < geo.haversineKm latA lonA latB lonB then false
      else match a.altBaro, b.altBaro with
        | some altA, some altB => decide (|altA - altB| ≤ dedupAltGateFt)
        | _, _ => true
  | _, _, _, _ => false

/-- Best first: source rank, then more nodes, then the fresher fix. -/
def dedupQualityKey (entry : FeedEntry) : Nat ×ₗ ℚ ×ₗ WithTop ℚ :=
  toLex ((entry.positionSource.map dedupSourceRank).getD 99,
    toLex (-entry.nNodes.getD 0, match entry.seen with
      | some seen => (seen : WithTop ℚ)
      | none => ⊤))

/-- A group in the order it was filled. `truth` is the ground-truth hex that
formed it, and `none` for a group formed by proximity. -/
structure Group where
  first : FeedEntry
  rest : List FeedEntry
  truth : Option Ident

def Group.members (g : Group) : List FeedEntry := g.first :: g.rest

def Group.push (g : Group) (ac : FeedEntry) : Group := { g with rest := g.rest ++ [ac] }

def groupStep (geo : Geodesy) (groups : List Group) (ac : FeedEntry) : List Group :=
  match ac.groundTruthHex with
  | some gt => place (fun g => decide (g.truth = some gt)) (·.push ac) ⟨ac, [], some gt⟩ groups
  | none => place (fun g => looksLikeSameAircraft geo ac g.first) (·.push ac) ⟨ac, [], none⟩ groups

def groupAircraft (geo : Geodesy) (aircraft : List FeedEntry) : List Group :=
  aircraft.foldl (groupStep geo) []

/-- A survivor with everything folded into it, itself included. -/
structure Fold where
  winner : FeedEntry
  members : List FeedEntry

def Fold.push (f : Fold) (m : FeedEntry) : Fold := { f with members := f.members ++ [m] }

/-- Only a multinode member of a ground-truth group is tested again; every other
member goes to the group's best entry, wherever it stands. -/
def foldStep (geo : Geodesy) (byIdentity : Bool) (folds : List Fold) (m : FeedEntry) : List Fold :=
  place (fun f => if byIdentity && decide (m.positionSource = some .multinodeSolve)
    then looksLikeSameAircraft geo m f.winner else true) (·.push m) ⟨m, [m]⟩ folds

def collapse (geo : Geodesy) (g : Group) : List Fold :=
  (g.members.insertionSort (fun a b => dedupQualityKey a ≤ dedupQualityKey b)).foldl
    (foldStep geo g.truth.isSome) []

/-- The nodes of a list of entries, each once, in order of first appearance. -/
def gatherNodes (members : List FeedEntry) : List Ident :=
  (members.flatMap FeedEntry.nodes).foldl (fun nodes nid => if nid ∈ nodes then nodes else nodes ++ [nid]) []

def inheritNodes (f : Fold) : FeedEntry :=
  let nodes := gatherNodes f.members
  if nodes = [] then f.winner else { f.winner with contributingNodeIds := some nodes }

/-- An entry grouped with no other passes through untouched. -/
def survivors (geo : Geodesy) (g : Group) : List FeedEntry :=
  if g.rest = [] then [g.first] else (collapse geo g).map inheritNodes

def dedupAircraft (geo : Geodesy) (aircraft : List FeedEntry) : List FeedEntry :=
  (groupAircraft geo aircraft).flatMap (survivors geo)

theorem groupStep_perm (geo : Geodesy) (groups : List Group) (ac : FeedEntry) :
    ((groupStep geo groups ac).flatMap Group.members).Perm (ac :: groups.flatMap Group.members) := by
  have joined (g : Group) : (g.push ac).members.Perm (ac :: g.members) := by
    simpa [Group.members, Group.push] using List.perm_append_singleton ac (g.first :: g.rest)
  simp only [groupStep]
  split
  · exact place_perm Group.members rfl joined groups
  · exact place_perm Group.members rfl joined groups

/-- The groups partition the feed's entries. -/
theorem groupAircraft_perm (geo : Geodesy) (aircraft : List FeedEntry) :
    ((groupAircraft geo aircraft).flatMap Group.members).Perm aircraft := by
  simpa [groupAircraft] using fill_perm (groupStep_perm geo) aircraft []

theorem foldStep_perm (geo : Geodesy) (byIdentity : Bool) (folds : List Fold) (m : FeedEntry) :
    ((foldStep geo byIdentity folds m).flatMap Fold.members).Perm (m :: folds.flatMap Fold.members) :=
  place_perm Fold.members rfl (fun f : Fold => List.perm_append_singleton m f.members) folds

/-- The folds of a group partition its members. -/
theorem collapse_perm (geo : Geodesy) (g : Group) :
    ((collapse geo g).flatMap Fold.members).Perm g.members := by
  have filled := fill_perm (foldStep_perm geo g.truth.isSome)
    (g.members.insertionSort (fun a b => dedupQualityKey a ≤ dedupQualityKey b)) []
  exact filled.trans (by simpa using List.perm_insertionSort _ g.members)

theorem mem_addNode_iff (nodes : List Ident) (found : List Ident) (n : Ident) :
    n ∈ nodes.foldl (fun nodes nid => if nid ∈ nodes then nodes else nodes ++ [nid]) found ↔
      n ∈ found ∨ n ∈ nodes := by
  induction nodes generalizing found with
  | nil => simp
  | cons nid rest ih =>
    rw [List.foldl_cons, ih]
    split
    · constructor
      · rintro (already | later)
        · exact .inl already
        · exact .inr (List.mem_cons_of_mem _ later)
      · rintro (already | member)
        · exact .inl already
        · rcases List.mem_cons.mp member with rfl | later
          · exact .inl ‹_›
          · exact .inr later
    · simp [or_assoc]

theorem mem_gatherNodes_iff (members : List FeedEntry) (n : Ident) :
    n ∈ gatherNodes members ↔ ∃ m ∈ members, m.Carries n := by
  simp [gatherNodes, mem_addNode_iff, FeedEntry.mem_nodes_iff]

@[simp] theorem inheritNodes_nodeId (f : Fold) : (inheritNodes f).nodeId = f.winner.nodeId := by
  simp only [inheritNodes]
  split <;> rfl

@[simp] theorem inheritNodes_multinode (f : Fold) : (inheritNodes f).multinode = f.winner.multinode := by
  simp only [inheritNodes]
  split <;> rfl

@[simp] theorem inheritNodes_positionSource (f : Fold) :
    (inheritNodes f).positionSource = f.winner.positionSource := by
  simp only [inheritNodes]
  split <;> rfl

end Retina.Feed
