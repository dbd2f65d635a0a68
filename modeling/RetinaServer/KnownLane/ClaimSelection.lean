import RetinaServer.Known.Claim
import RetinaServer.Library.Freshest
import Mathlib.Algebra.Order.Group.Abs

/-! The claims of one aircraft that are solved together: the newest usable claim of
each node, as far as it is close in time to the newest of all. -/
namespace Retina.KnownLane
open Known Latest

def claimMaxAgeS : ℤ := 45

def claimSpreadS : ℤ := 5

/-- What the scan takes up: a claim of the lane's kind under a node's name that is
neither stale nor contested. A claim that is stamped ahead of the clock is not stale. -/
def usable (nowMs : ℤ) (follow : Bool) (c : KnownClaim) : Bool :=
  c.follow == follow && c.nodeId != "" && decide (nowMs - c.tsMs ≤ claimMaxAgeS * 1000) && !c.contested

def selectClaims (nowMs : ℤ) (follow : Bool) (dq : List KnownClaim) : Dict String KnownClaim :=
  let best := latest KnownClaim.nodeId KnownClaim.tsMs (dq.filter (usable nowMs follow))
  if best.size < 2 then .empty
  else
    let newestTs := ((best.values.map KnownClaim.tsMs).max?).getD 0
    let best := best.filter fun _ c => decide (newestTs - c.tsMs ≤ claimSpreadS * 1000)
    if 2 ≤ best.size then best else .empty

/-- Two usable claims by different nodes that lie within the spread of each other. -/
structure Pair (nowMs : ℤ) (follow : Bool) (dq : List KnownClaim) (a b : KnownClaim) : Prop where
  left : a ∈ dq.filter (usable nowMs follow)
  right : b ∈ dq.filter (usable nowMs follow)
  nodes : a.nodeId ≠ b.nodeId
  close : |a.tsMs - b.tsMs| ≤ claimSpreadS * 1000

/-- Claims of at least two nodes, one each, all within the spread of each other. -/
structure Solvable (nowMs : ℤ) (follow : Bool) (dq : List KnownClaim) (best : Dict String KnownClaim) : Prop where
  two : 2 ≤ best.size
  own : ∀ node c, best.get? node = some c → c.nodeId = node ∧ c ∈ dq.filter (usable nowMs follow)
  close : ∀ node c node' c', best.get? node = some c → best.get? node' = some c' → |c.tsMs - c'.tsMs| ≤ claimSpreadS * 1000

/-- The claim lies within the spread of the newest usable one, whichever node made that. -/
def NearNewest (nowMs : ℤ) (follow : Bool) (dq : List KnownClaim) (a : KnownClaim) : Prop :=
  ∀ c ∈ dq.filter (usable nowMs follow), c.tsMs - a.tsMs ≤ claimSpreadS * 1000

variable {nowMs : ℤ} {follow : Bool} {dq : List KnownClaim}

/-! ### The window -/

section
variable {best : Dict String KnownClaim} {newestTs : ℤ}
  (held : ∀ node c, best.get? node = some c → IsLatest KnownClaim.nodeId KnownClaim.tsMs (dq.filter (usable nowMs follow)) node c)
include held

/-- The newest claim of a dictionary of two nodes or more. -/
theorem newest_spec (complete : ∀ c ∈ dq.filter (usable nowMs follow), ∃ b, best.get? c.nodeId = some b ∧ c.tsMs ≤ b.tsMs)
    (two : 2 ≤ best.size) (newest : ((best.values.map KnownClaim.tsMs).max?).getD 0 = newestTs) :
    (∃ c ∈ dq.filter (usable nowMs follow), c.tsMs = newestTs) ∧ ∀ c ∈ dq.filter (usable nowMs follow), c.tsMs ≤ newestTs := by
  obtain ⟨node, c, -, -, -, found, -⟩ := (Dict.two_le_size_iff best).mp two
  have stored (node : String) (c : KnownClaim) (found : best.get? node = some c) : c.tsMs ∈ best.values.map KnownClaim.tsMs :=
    List.mem_map.mpr ⟨c, List.mem_map.mpr ⟨(node, c), (Dict.get?_eq_some_iff best node c).mp found, rfl⟩, rfl⟩
  obtain ⟨highest, at_top⟩ := Option.isSome_iff_exists.mp (List.isSome_max?_of_mem (stored node c found))
  obtain rfl : highest = newestTs := by simpa [at_top] using newest
  obtain ⟨listed, bound⟩ := List.max?_eq_some_iff.mp at_top
  constructor
  · obtain ⟨top, member, rfl⟩ := List.mem_map.mp listed
    obtain ⟨⟨node, top'⟩, entry, rfl⟩ := List.mem_map.mp member
    exact ⟨_, (held node _ ((Dict.get?_eq_some_iff best node _).mpr entry)).mem, rfl⟩
  · intro a member
    obtain ⟨b, found, le⟩ := complete a member
    exact le.trans (bound b.tsMs (stored _ b found))

/-- What the window leaves is one usable claim a node, all within the spread. -/
theorem window_solvable (top : ∀ c ∈ dq.filter (usable nowMs follow), c.tsMs ≤ newestTs)
    (two : 2 ≤ (best.filter fun _ c => decide (newestTs - c.tsMs ≤ claimSpreadS * 1000)).size) :
    Solvable nowMs follow dq (best.filter fun _ c => decide (newestTs - c.tsMs ≤ claimSpreadS * 1000)) := by
  have inside (node : String) (c : KnownClaim)
      (found : (best.filter fun _ c => decide (newestTs - c.tsMs ≤ claimSpreadS * 1000)).get? node = some c) :
      IsLatest KnownClaim.nodeId KnownClaim.tsMs (dq.filter (usable nowMs follow)) node c ∧
        newestTs - c.tsMs ≤ claimSpreadS * 1000 := by
    obtain ⟨was, near⟩ := Dict.get?_filter_some found
    exact ⟨held node c was, of_decide_eq_true near⟩
  refine ⟨two, fun node c found => ?_, fun node c node' c' found found' => ?_⟩
  · obtain ⟨latest, -⟩ := inside node c found
    exact ⟨latest.named, latest.mem⟩
  · obtain ⟨latest, near⟩ := inside node c found
    obtain ⟨latest', near'⟩ := inside node' c' found'
    have under := top c latest.mem
    have under' := top c' latest'.mem
    rw [abs_le]
    omega

end

/-- The best claims of the nodes are usable ones, and every usable claim has one of its node that is no older. -/
theorem best_spec (nowMs : ℤ) (follow : Bool) (dq : List KnownClaim) :
    (∀ node c, (latest KnownClaim.nodeId KnownClaim.tsMs (dq.filter (usable nowMs follow))).get? node = some c →
        IsLatest KnownClaim.nodeId KnownClaim.tsMs (dq.filter (usable nowMs follow)) node c) ∧
      ∀ c ∈ dq.filter (usable nowMs follow),
        ∃ b, (latest KnownClaim.nodeId KnownClaim.tsMs (dq.filter (usable nowMs follow))).get? c.nodeId = some b ∧
          c.tsMs ≤ b.tsMs :=
  ⟨fun _ _ found => isLatest_of_latest found, fun _ member => exists_latest member⟩

/-- Nothing is selected, or a solvable set is. -/
theorem selectClaims_cases (nowMs : ℤ) (follow : Bool) (dq : List KnownClaim) :
    selectClaims nowMs follow dq = .empty ∨ Solvable nowMs follow dq (selectClaims nowMs follow dq) := by
  obtain ⟨held, complete⟩ := best_spec nowMs follow dq
  unfold selectClaims
  dsimp only
  split
  · exact .inl rfl
  · rename_i two
    split
    · rename_i enough
      have top := (newest_spec held complete (not_lt.mp two) rfl).2
      exact .inr (window_solvable held top enough)
    · exact .inl rfl

/-- A selection of two is made whenever two nodes have claims near the newest one. -/
theorem two_le_size_of_near (pair : Pair nowMs follow dq a b) (near : NearNewest nowMs follow dq a)
    (near' : NearNewest nowMs follow dq b) : 2 ≤ (selectClaims nowMs follow dq).size := by
  obtain ⟨held, complete⟩ := best_spec nowMs follow dq
  obtain ⟨x, found, newer⟩ := complete a pair.left
  obtain ⟨y, found', newer'⟩ := complete b pair.right
  have two := (Dict.two_le_size_iff _).mpr ⟨_, x, _, y, pair.nodes, found, found'⟩
  obtain ⟨⟨top, member, at_top⟩, -⟩ := newest_spec held complete two rfl
  have kept (node : String) (c a : KnownClaim) (found : (latest KnownClaim.nodeId KnownClaim.tsMs
      (dq.filter (usable nowMs follow))).get? node = some c) (near : NearNewest nowMs follow dq a) (newer : a.tsMs ≤ c.tsMs) :
      ((latest KnownClaim.nodeId KnownClaim.tsMs (dq.filter (usable nowMs follow))).filter
        fun _ c => decide (top.tsMs - c.tsMs ≤ claimSpreadS * 1000)).get? node = some c := by
    have close := near top member
    rw [Dict.get?_filter, found, Option.filter_some, if_pos]
    exact decide_eq_true (by omega)
  have window := (Dict.two_le_size_iff _).mpr
    ⟨_, x, _, y, pair.nodes, kept _ x a found near newer, kept _ y b found' near' newer'⟩
  simp only [selectClaims, not_lt.mpr two, if_false, ← at_top, window, if_true]

/-- A selected claim is near the newest one: no usable claim is later by more than the spread. -/
theorem near_of_selected (found : (selectClaims nowMs follow dq).get? node = some c) : NearNewest nowMs follow dq c := by
  obtain ⟨held, complete⟩ := best_spec nowMs follow dq
  intro a member
  unfold selectClaims at found
  dsimp only at found
  split at found
  · cases found
  · rename_i two
    split at found
    · have near := of_decide_eq_true (Dict.get?_filter_some found).2
      have top := (newest_spec held complete (not_lt.mp two) rfl).2 a member
      omega
    · cases found

/-- Selection serves the aircraft whenever two nodes have claims within the spread of
each other exactly when, wherever there are two such, there are two that the newest
usable claim has not left behind: one stamp ahead of the others by more than the spread
leaves no second node in the window. -/
theorem never_starves_iff (nowMs : ℤ) (follow : Bool) (dq : List KnownClaim) :
    ((∃ a b, Pair nowMs follow dq a b) → Solvable nowMs follow dq (selectClaims nowMs follow dq)) ↔
      ((∃ a b, Pair nowMs follow dq a b) →
        ∃ a b, Pair nowMs follow dq a b ∧ NearNewest nowMs follow dq a ∧ NearNewest nowMs follow dq b) := by
  constructor
  · intro served exists_pair
    have solvable := served exists_pair
    obtain ⟨node, a, node', b, other, found, found'⟩ := (Dict.two_le_size_iff _).mp solvable.two
    obtain ⟨named, left⟩ := solvable.own node a found
    obtain ⟨named', right⟩ := solvable.own node' b found'
    refine ⟨a, b, ⟨left, right, ?_, solvable.close node a node' b found found'⟩, near_of_selected found, near_of_selected found'⟩
    rwa [named, named']
  · intro near exists_pair
    obtain ⟨a, b, pair, close, close'⟩ := near exists_pair
    have two := two_le_size_of_near pair close close'
    rcases selectClaims_cases nowMs follow dq with none_selected | solvable
    · rw [none_selected] at two
      cases two
    · exact solvable

/-- A claim by a node, for the runs on fixed inputs. -/
def claimBy (nodeId : String) (tsMs : ℤ) : KnownClaim :=
  ⟨nodeId, 10, 0, 10, 0, tsMs, .adsb ⟨50, 14, none, none, none, 0⟩, false, none, false, false⟩

/-- Two nodes agree on the time, the clock of a third is six seconds ahead. -/
theorem fast_clock_starves :
    ¬ ((∃ a b, Pair 1000 false [claimBy "north" 0, claimBy "south" 0, claimBy "fast" 6000] a b) →
        Solvable 1000 false [claimBy "north" 0, claimBy "south" 0, claimBy "fast" 6000]
          (selectClaims 1000 false [claimBy "north" 0, claimBy "south" 0, claimBy "fast" 6000])) := by
  intro served
  have pair : Pair 1000 false [claimBy "north" 0, claimBy "south" 0, claimBy "fast" 6000] (claimBy "north" 0) (claimBy "south" 0) :=
    ⟨by decide, by decide, by decide, by decide⟩
  have two := (served ⟨_, _, pair⟩).two
  revert two
  decide

end Retina.KnownLane
