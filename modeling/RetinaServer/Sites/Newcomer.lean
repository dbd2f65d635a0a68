import RetinaServer.Sites.Placement
import RetinaServer.Sites.PublicLocation
import Mathlib.Order.WellFoundedSet

/-! What one more node does to the sites of the others, near and far. -/
namespace Retina.Sites

variable (geo : Geodesy) (positions : Dict String Position) (radiusKm : ℚ)

theorem grouped_at (many : 1 < (members positions key).length) (member : nodeId ∈ members positions key) :
    (cluster geo positions radiusKm).identities.get? nodeId = some (lowestId (members positions key)) ∧
      (cluster geo positions radiusKm).joined.get? nodeId = none := by
  obtain ⟨done, sites⟩ := cluster_placed geo positions radiusKm
  exact sites.grouped key many nodeId member

theorem not_single_of_many (many : 1 < (members positions key).length) (member : nodeId ∈ members positions key) :
    nodeId ∉ singles positions := by
  intro lone
  obtain ⟨key', alone⟩ := (mem_singles positions).mp lone
  have there : nodeId ∈ members positions key' := by simp [alone]
  rw [members_key_unique positions member there, alone] at many
  exact absurd many (by simp)

/-- A placed node that is not alone is one of many at its key. -/
theorem many_of_not_single (placed : positions.get? nodeId = some p) (company : nodeId ∉ singles positions) :
    1 < (members positions (siteKey p)).length := by
  have member : nodeId ∈ members positions (siteKey p) := (mem_members positions).mpr ⟨p, placed, rfl⟩
  by_contra few
  exact company ((mem_singles positions).mpr ⟨siteKey p, eq_singleton_of_few few member⟩)

/-- The anchor of a group is the lowest of those at its key. -/
theorem groupAnchor_iff (company : a.1 ∉ singles positions) : IsAnchor positions (cluster geo positions radiusKm) a ↔
    positions.get? a.1 = some a.2 ∧ a.1 = lowestId (members positions (siteKey a.2)) := by
  refine and_congr_right fun placed => ?_
  have member : a.1 ∈ members positions (siteKey a.2) := (mem_members positions).mpr ⟨a.2, placed, rfl⟩
  rw [(grouped_at geo positions radiusKm (many_of_not_single positions placed company) member).1, Option.some_inj, eq_comm]

theorem joined_none_of_self (own : (cluster geo positions radiusKm).identities.get? nodeId = some nodeId) :
    (cluster geo positions radiusKm).joined.get? nodeId = none :=
  ((cluster_canonical geo positions radiusKm).fixed nodeId nodeId own).2

theorem Ahead.below (ahead : Ahead positions a b) (lone : a ∈ singles positions) : a < b := by
  rcases ahead with ⟨group, -⟩ | ⟨-, below⟩
  · exact absurd lone group
  · exact below

/-- A lone node is its own anchor exactly when it can join none. -/
theorem single_own_iff (lone : nodeId ∈ singles positions) (placed : positions.get? nodeId = some p) :
    (cluster geo positions radiusKm).identities.get? nodeId = some nodeId ↔
      ∀ a, ¬ Candidate geo positions radiusKm (cluster geo positions radiusKm) nodeId p a := by
  rcases single_decided geo positions radiusKm lone placed with ⟨own, -, alone⟩ | ⟨a, candidate, under, -⟩
  · exact iff_of_true own alone
  · refine iff_of_false ?_ fun alone => alone a candidate
    intro own
    have itself : a.1 = nodeId := Option.some.inj (under.symm.trans own)
    exact Ahead.irrefl positions nodeId (itself ▸ candidate.2.1)

/-! ### Nodes that one run and another treat alike -/

variable (positions' : Dict String Position)

/-- A set of lone nodes, at the same positions in both runs, whose possible anchors are in it too or
are the anchors of groups of both runs. -/
structure Untouched (U : String → Prop) : Prop where
  lone : ∀ z, U z → z ∈ singles positions ∧ z ∈ singles positions' ∧ positions.get? z = positions'.get? z
  forward : ∀ z p b, U z → positions.get? z = some p →
    Candidate geo positions' radiusKm (cluster geo positions' radiusKm) z p b →
      U b.1 ∨ b.1 ∉ singles positions ∧ b.1 ∉ singles positions' ∧ IsAnchor positions (cluster geo positions radiusKm) b
  backward : ∀ z p a, U z → positions.get? z = some p →
    Candidate geo positions radiusKm (cluster geo positions radiusKm) z p a →
    (cluster geo positions radiusKm).identities.get? z = some a.1 →
      U a.1 ∨ a.1 ∉ singles positions ∧ a.1 ∉ singles positions' ∧ IsAnchor positions' (cluster geo positions' radiusKm) a

/-- Between nodes that are lone in both runs or in neither, the order of placement is the same. -/
theorem ahead_congr (first : a ∈ singles positions ↔ a ∈ singles positions')
    (second : b ∈ singles positions ↔ b ∈ singles positions') : Ahead positions a b ↔ Ahead positions' a b := by
  rw [Ahead, Ahead, first, second]

variable {positions positions'}

/-- Each is decided as its candidates are, and they are the same. -/
theorem Untouched.step {U : String → Prop} (same : Untouched geo positions radiusKm positions' U) (inside : U z)
    (earlier : ∀ b ∈ singles positions, b < z → U b →
      (cluster geo positions' radiusKm).identities.get? b = (cluster geo positions radiusKm).identities.get? b) :
    (cluster geo positions' radiusKm).identities.get? z = (cluster geo positions radiusKm).identities.get? z ∧
      (cluster geo positions' radiusKm).joined.get? z = (cluster geo positions radiusKm).joined.get? z := by
  obtain ⟨lone, lone', at_same⟩ := same.lone z inside
  obtain ⟨p, placed⟩ := exists_position_of_single positions lone
  have kept : ∀ b, U b → (b ∈ singles positions ↔ b ∈ singles positions') :=
    fun b inside => iff_of_true (same.lone b inside).1 (same.lone b inside).2.1
  have forward : ∀ b, Candidate geo positions' radiusKm (cluster geo positions' radiusKm) z p b →
      Candidate geo positions radiusKm (cluster geo positions radiusKm) z p b ∧
        (b.1 ∈ singles positions ↔ b.1 ∈ singles positions') := by
    intro b candidate
    have ⟨⟨at_b, own⟩, ahead, within⟩ := candidate
    rcases same.forward z p b inside placed candidate with inside_b | ⟨company, company', anchor⟩
    · obtain ⟨lone_b, lone_b', at_same_b⟩ := same.lone b.1 inside_b
      have kept_b := kept b.1 inside_b
      rw [earlier b.1 lone_b (ahead.below positions' lone_b') inside_b] at own
      exact ⟨⟨⟨at_same_b.trans at_b, own⟩, (ahead_congr positions positions' kept_b (kept z inside)).mpr ahead, within⟩, kept_b⟩
    · have kept_b := iff_of_false company company'
      exact ⟨⟨anchor, (ahead_congr positions positions' kept_b (kept z inside)).mpr ahead, within⟩, kept_b⟩
  have backward : ∀ a, (cluster geo positions radiusKm).identities.get? z = some a.1 →
      Candidate geo positions radiusKm (cluster geo positions radiusKm) z p a →
      Candidate geo positions' radiusKm (cluster geo positions' radiusKm) z p a := by
    intro a under candidate
    have ⟨⟨at_a, own⟩, ahead, within⟩ := candidate
    rcases same.backward z p a inside placed candidate under with inside_a | ⟨company, company', anchor⟩
    · obtain ⟨lone_a, lone_a', at_same_a⟩ := same.lone a.1 inside_a
      rw [← earlier a.1 lone_a (ahead.below positions lone_a) inside_a] at own
      exact ⟨⟨at_same_a.symm.trans at_a, own⟩, (ahead_congr positions positions' (kept a.1 inside_a) (kept z inside)).mp ahead, within⟩
    · exact ⟨anchor, (ahead_congr positions positions' (iff_of_false company company') (kept z inside)).mp ahead, within⟩
  rcases single_decided geo positions radiusKm lone placed with ⟨own, free, alone⟩ | ⟨a, candidate, under, joined, least⟩
  · rcases single_decided geo positions' radiusKm lone' (at_same.symm.trans placed) with
      ⟨own', free', -⟩ | ⟨a', candidate', -⟩
    · exact ⟨own'.trans own.symm, free'.trans free.symm⟩
    · exact absurd (forward a' candidate').1 (alone a')
  · have candidate_after := backward a under candidate
    rcases single_decided geo positions' radiusKm lone' (at_same.symm.trans placed) with
      ⟨-, -, alone'⟩ | ⟨a', candidate', under', joined', least'⟩
    · exact absurd candidate_after (alone' a)
    · obtain ⟨candidate_before, kept_a'⟩ := forward a' candidate'
      have kept_a := (forward a candidate_after).2
      have one : a' = a := by
        rcases least a' candidate_before with one | preferred
        · exact one
        · rcases least' a candidate_after with one | preferred'
          · exact one.symm
          · rw [Preferred, ← ahead_congr positions positions' kept_a' kept_a] at preferred'
            exact absurd preferred' (preferred.asymm geo positions)
      rw [under, under', joined, joined', one]
      exact ⟨rfl, rfl⟩

/-- The lone nodes are finitely many, so the induction on the lower ids is well founded. -/
theorem Untouched.agree {U : String → Prop} (same : Untouched geo positions radiusKm positions' U) (inside : U z) :
    (cluster geo positions' radiusKm).identities.get? z = (cluster geo positions radiusKm).identities.get? z ∧
      (cluster geo positions' radiusKm).joined.get? z = (cluster geo positions radiusKm).joined.get? z := by
  have founded : Set.WellFoundedOn {b | b ∈ singles positions} (· < ·) := (List.finite_toSet (singles positions)).wellFoundedOn
  refine founded.induction (same.lone z inside).1 (P := fun z => U z →
    (cluster geo positions' radiusKm).identities.get? z = (cluster geo positions radiusKm).identities.get? z ∧
      (cluster geo positions' radiusKm).joined.get? z = (cluster geo positions radiusKm).joined.get? z) ?_ inside
  intro b _ earlier inside_b
  exact same.step geo radiusKm inside_b fun b' single below inside' => (earlier b' single below inside').1

/-- A distance is no shorter than its latitudes apart, to the margin the gate leaves. -/
def LatitudeBound : Prop :=
  0 < geo.kmPerDegLat ∧ ∀ p q : Position, geo.kmPerDegLat * |q.1 - p.1| ≤ 101 / 100 * kmBetween geo p q

/-- The gate then passes by no anchor within the radius. -/
theorem reached_iff (bounded : LatitudeBound geo) (reach : 0 < radiusKm) :
    Reached geo radiusKm p q ↔ kmBetween geo p q ≤ radiusKm := by
  refine and_iff_right_of_imp fun near => ?_
  rw [latGate, if_pos reach, div_mul_eq_mul_div, le_div_iff₀ bounded.1]
  calc |q.1 - p.1| * geo.kmPerDegLat = geo.kmPerDegLat * |q.1 - p.1| := mul_comm _ _
    _ ≤ 101 / 100 * kmBetween geo p q := bounded.2 p q
    _ ≤ 101 / 100 * radiusKm := by gcongr
    _ = radiusKm * (101 / 100) := mul_comm _ _

/-! ### The newcomer -/

variable (before : Dict String Position) (newcomer : String) (q : Position) (fuzz : Fuzz)

/-- The nodes already at the newcomer's coordinates. -/
def siteMates : List String := members before (siteKey q)

/-- The anchor of the newcomer's coordinates, should they have one, and where it stands. -/
def seatId : String := lowestId (siteMates before q ++ [newcomer])

def seatPosition : Position := if seatId before newcomer q = newcomer then q else positionOf before (seatId before newcomer q)

/-- No anchor placed before the newcomer's turn is within the radius of it. -/
def Opens : Prop :=
  ∀ a, IsAnchor before (cluster geo before radiusKm) a → (a.1 ∉ singles before ∨ a.1 < newcomer) →
    ¬ (0 < radiusKm ∧ kmBetween geo q a.2 ≤ radiusKm)

/-- The anchor of the newcomer's coordinates is placed before the lone node `nodeId`. -/
def SeatedBefore (nodeId : String) : Prop :=
  siteMates before q ≠ [] ∨ Opens geo radiusKm before newcomer q ∧ newcomer < nodeId

/-- The lone node `nodeId` finds the anchor of the newcomer's coordinates within the radius. -/
def Reseated (nodeId : String) : Prop :=
  nodeId ∈ singles before ∧ nodeId ∉ siteMates before q ∧ SeatedBefore geo radiusKm before newcomer q nodeId ∧
    0 < radiusKm ∧ kmBetween geo (positionOf before nodeId) (seatPosition before newcomer q) ≤ radiusKm

/-- The newcomer replaces the anchor of the node's coordinates, replaces the node's anchor at its
own coordinates, or takes the node's anchor, a lone node, into its site. -/
def Displaces (nodeId : String) : Prop :=
  ∃ a, (cluster geo before radiusKm).identities.get? nodeId = some a ∧
    ((nodeId ∈ siteMates before q ∨ a ∈ siteMates before q) ∧ a ≠ seatId before newcomer q ∨
      Reseated geo radiusKm before newcomer q a)

def Far (nodeId : String) (p : Position) : Prop :=
  before.get? nodeId = some p ∧ radiusKm < kmBetween geo p q

/-- The newcomer displaces no node beyond the radius. -/
def Undisplaced : Prop := ∀ nodeId p, Far geo radiusKm before q nodeId p → ¬ Displaces geo radiusKm before newcomer q nodeId

/-- A lone node of lower id at the newcomer's coordinates, which anchors the two, reaches the nodes the newcomer does. -/
def SeatAligned : Prop :=
  siteMates before q = [seatId before newcomer q] → 0 < radiusKm → ∀ nodeId p, before.get? nodeId = some p →
    (kmBetween geo p (seatPosition before newcomer q) ≤ radiusKm ↔ kmBetween geo p q ≤ radiusKm)

/-- The newcomer changes nothing for a node beyond the radius. -/
def NewcomerLocal : Prop :=
  ∀ nodeId p, Far geo radiusKm before q nodeId p →
    (cluster geo (before.insert newcomer q) radiusKm).identities.get? nodeId =
        (cluster geo before radiusKm).identities.get? nodeId ∧
      publishedPoint geo fuzz (before.insert newcomer q) radiusKm nodeId p = publishedPoint geo fuzz before radiusKm nodeId p

theorem publishedPoint_congr {d d' : Dict String Position}
    (identity : (cluster geo d radiusKm).identities.get? nodeId = (cluster geo d' radiusKm).identities.get? nodeId)
    (joined : (cluster geo d radiusKm).joined.get? nodeId = (cluster geo d' radiusKm).joined.get? nodeId) :
    publishedPoint geo fuzz d radiusKm nodeId p = publishedPoint geo fuzz d' radiusKm nodeId p := by
  simp only [publishedPoint, publicLatlon, displaced, publicOffsetKm, frameMessage, siteIdentity, sitePosition, identity, joined]

/-! ### The positions with the newcomer -/

variable {before newcomer} (new : before.get? newcomer = none)
include new

theorem members_insert (key : Position) : members (before.insert newcomer q) key =
    members before key ++ if siteKey q = key then [newcomer] else [] := by
  rw [members, members, Dict.items_insert_new q new, List.filter_append, List.map_append]
  congr 1
  by_cases here : siteKey q = key <;> simp [here]

theorem not_member : newcomer ∉ members before key := by
  intro member
  obtain ⟨p, placed, -⟩ := (mem_members before).mp member
  cases new.symm.trans placed

theorem get?_insert_placed (placed : before.get? nodeId = some p) : (before.insert newcomer q).get? nodeId = some p := by
  rw [Dict.get?_insert_ne, placed]
  rintro rfl
  cases new.symm.trans placed

/-- The lone nodes are those that were, but for one the newcomer pairs up with, and the newcomer where it is alone. -/
theorem mem_singles_insert : z ∈ singles (before.insert newcomer q) ↔
    z ∈ singles before ∧ z ∉ siteMates before q ∨ z = newcomer ∧ siteMates before q = [] := by
  rw [mem_singles, mem_singles]
  simp only [members_insert q new]
  constructor
  · rintro ⟨key, alone⟩
    by_cases here : siteKey q = key
    · rw [if_pos here] at alone
      cases mates : members before key with
      | nil =>
        rw [mates] at alone
        exact .inr ⟨(List.cons.inj alone).1.symm, by rw [siteMates, here, mates]⟩
      | cons first rest =>
        have length := congrArg List.length alone
        simp [mates] at length
    · rw [if_neg here, List.append_nil] at alone
      refine .inl ⟨⟨key, alone⟩, fun mate => here (members_key_unique before mate (by simp [alone]))⟩
  · rintro (⟨⟨key, alone⟩, apart⟩ | ⟨rfl, empty⟩)
    · have elsewhere : siteKey q ≠ key := by
        rintro rfl
        exact apart (by simp [siteMates, alone])
      exact ⟨key, by rw [if_neg elsewhere, List.append_nil, alone]⟩
    · exact ⟨siteKey q, by rw [if_pos rfl, ← siteMates, empty, List.nil_append]⟩

theorem members_insert_here : members (before.insert newcomer q) (siteKey q) = siteMates before q ++ [newcomer] := by
  rw [members_insert q new, if_pos rfl, siteMates]

theorem members_insert_elsewhere (elsewhere : siteKey q ≠ key) : members (before.insert newcomer q) key = members before key := by
  rw [members_insert q new, if_neg elsewhere, List.append_nil]

omit new in
theorem seatId_mem : seatId before newcomer q ∈ siteMates before q ++ [newcomer] := lowestId_mem (by simp)

omit new in
theorem seat_placed : (before.insert newcomer q).get? (seatId before newcomer q) = some (seatPosition before newcomer q) := by
  rw [seatPosition]
  split
  · rename_i own
    rw [own, Dict.get?_insert_self]
  · rename_i other
    rw [Dict.get?_insert_ne _ _ (Ne.symm other)]
    have mate : seatId before newcomer q ∈ siteMates before q :=
      (List.mem_append.mp (seatId_mem q)).resolve_right fun last => other (List.mem_singleton.mp last)
    exact get?_of_member before mate

omit new in
/-- Whoever anchors under the seat's id stands at the seat. -/
theorem eq_seat (placed : (before.insert newcomer q).get? b.1 = some b.2) (seat : b.1 = seatId before newcomer q) :
    b = (seatId before newcomer q, seatPosition before newcomer q) := by
  rw [seat, seat_placed q] at placed
  exact Prod.ext seat (Option.some.inj placed).symm

/-- With company at its coordinates the newcomer and they are under the lowest id. -/
theorem seated_at (company : siteMates before q ≠ []) (here : nodeId ∈ siteMates before q ++ [newcomer]) :
    (cluster geo (before.insert newcomer q) radiusKm).identities.get? nodeId = some (seatId before newcomer q) ∧
      (cluster geo (before.insert newcomer q) radiusKm).joined.get? nodeId = none ∧
      nodeId ∉ singles (before.insert newcomer q) := by
  rw [← members_insert_here q new] at here
  have many : 1 < (members (before.insert newcomer q) (siteKey q)).length := by
    rw [members_insert_here q new]
    simpa using List.length_pos_of_ne_nil company
  have grouped := grouped_at geo (before.insert newcomer q) radiusKm many here
  rw [members_insert_here q new] at grouped
  exact ⟨grouped.1, grouped.2, not_single_of_many _ many here⟩

theorem seat_anchored (company : siteMates before q ≠ []) :
    IsAnchor (before.insert newcomer q) (cluster geo (before.insert newcomer q) radiusKm)
      (seatId before newcomer q, seatPosition before newcomer q) :=
  ⟨seat_placed q, (seated_at geo radiusKm q new company (seatId_mem q)).1⟩

/-- The anchors of the other groups were anchors of groups. -/
theorem groupAnchor_before (company : b.1 ∉ singles (before.insert newcomer q))
    (anchor : IsAnchor (before.insert newcomer q) (cluster geo (before.insert newcomer q) radiusKm) b)
    (other : b.1 ≠ seatId before newcomer q) :
    b.1 ∉ singles before ∧ IsAnchor before (cluster geo before radiusKm) b := by
  obtain ⟨placed, lowest⟩ := (groupAnchor_iff geo _ radiusKm company).mp anchor
  have elsewhere : siteKey q ≠ siteKey b.2 := by
    intro here
    rw [← here, members_insert_here q new] at lowest
    exact other lowest
  have known : before.get? b.1 = some b.2 := by
    rw [Dict.get?_insert] at placed
    split at placed
    · exact absurd (congrArg siteKey (Option.some.inj placed)) elsewhere
    · exact placed
  rw [members_insert_elsewhere q new elsewhere] at lowest
  have company_before : b.1 ∉ singles before := by
    intro lone
    refine company ((mem_singles_insert q new).mpr (.inl ⟨lone, fun mate => ?_⟩))
    exact elsewhere (members_key_unique before mate ((mem_members before).mpr ⟨b.2, known, rfl⟩))
  exact ⟨company_before, (groupAnchor_iff geo before radiusKm company_before).mpr ⟨known, lowest⟩⟩

/-- The anchors of the groups at other coordinates remain. -/
theorem groupAnchor_after (company : a.1 ∉ singles before) (anchor : IsAnchor before (cluster geo before radiusKm) a)
    (elsewhere : a.1 ∉ siteMates before q) :
    a.1 ∉ singles (before.insert newcomer q) ∧
      IsAnchor (before.insert newcomer q) (cluster geo (before.insert newcomer q) radiusKm) a := by
  obtain ⟨placed, lowest⟩ := (groupAnchor_iff geo before radiusKm company).mp anchor
  have other_key : siteKey q ≠ siteKey a.2 :=
    fun here => elsewhere ((mem_members before).mpr ⟨a.2, placed, here.symm⟩)
  have company_after : a.1 ∉ singles (before.insert newcomer q) := by
    intro lone
    rcases (mem_singles_insert q new).mp lone with ⟨lone_before, -⟩ | ⟨itself, -⟩
    · exact company lone_before
    · rw [itself, new] at placed
      cases placed
  refine ⟨company_after, (groupAnchor_iff geo _ radiusKm company_after).mpr ⟨get?_insert_placed q new placed, ?_⟩⟩
  rw [members_insert_elsewhere q new other_key, lowest]

/-! ### Before the newcomer's turn -/

omit new in
theorem seatId_alone (empty : siteMates before q = []) : seatId before newcomer q = newcomer := by
  rw [seatId, empty]
  rfl

omit new in
theorem seatPosition_alone (empty : siteMates before q = []) : seatPosition before newcomer q = q := if_pos (seatId_alone q empty)

theorem lone_insert (lone : z ∈ singles before) (apart : z ∉ siteMates before q) :
    z ∈ singles (before.insert newcomer q) := (mem_singles_insert q new).mpr (.inl ⟨lone, apart⟩)

/-- A lone node elsewhere stays alone, and where it is. -/
theorem lone_kept (lone : z ∈ singles before) (apart : z ∉ siteMates before q) :
    z ∈ singles before ∧ z ∈ singles (before.insert newcomer q) ∧ before.get? z = (before.insert newcomer q).get? z := by
  obtain ⟨p, placed⟩ := exists_position_of_single before lone
  exact ⟨lone, lone_insert q new lone apart, by rw [placed, get?_insert_placed q new placed]⟩

theorem untouched_earlier (empty : siteMates before q = []) :
    Untouched geo before radiusKm (before.insert newcomer q) fun z => z ∈ singles before ∧ z < newcomer := by
  constructor
  · rintro z ⟨lone, -⟩
    exact lone_kept q new lone (by simp [empty])
  · rintro z p b ⟨lone, below⟩ placed ⟨anchor, ahead, -⟩
    by_cases lone_b : b.1 ∈ singles (before.insert newcomer q)
    · have earlier := (ahead.below _ lone_b).trans below
      rcases (mem_singles_insert q new).mp lone_b with ⟨lone_before, -⟩ | ⟨itself, -⟩
      · exact .inl ⟨lone_before, earlier⟩
      · exact absurd itself earlier.ne
    · have other : b.1 ≠ seatId before newcomer q := by
        rw [seatId_alone q empty]
        rintro same
        exact lone_b (same ▸ (mem_singles_insert q new).mpr (.inr ⟨rfl, empty⟩))
      obtain ⟨company, anchored⟩ := groupAnchor_before geo radiusKm q new lone_b anchor other
      exact .inr ⟨company, lone_b, anchored⟩
  · rintro z p a ⟨lone, below⟩ placed ⟨anchor, ahead, -⟩ -
    by_cases lone_a : a.1 ∈ singles before
    · exact .inl ⟨lone_a, (ahead.below _ lone_a).trans below⟩
    · exact .inr ⟨lone_a, groupAnchor_after geo radiusKm q new lone_a anchor (by simp [empty])⟩

/-- Alone at its coordinates, the newcomer becomes an anchor exactly when none placed before it is within the radius. -/
theorem opens_iff (bounded : LatitudeBound geo) (empty : siteMates before q = []) :
    Opens geo radiusKm before newcomer q ↔
      (cluster geo (before.insert newcomer q) radiusKm).identities.get? newcomer = some newcomer := by
  have lone : newcomer ∈ singles (before.insert newcomer q) := (mem_singles_insert q new).mpr (.inr ⟨rfl, empty⟩)
  have earlier := untouched_earlier geo radiusKm q new empty
  rw [single_own_iff geo _ radiusKm lone (Dict.get?_insert_self _ _ _)]
  constructor
  · rintro opens a ⟨⟨placed, own⟩, ahead, reach, reached⟩
    by_cases lone_a : a.1 ∈ singles (before.insert newcomer q)
    · have below := ahead.below _ lone_a
      rcases (mem_singles_insert q new).mp lone_a with ⟨lone_before, -⟩ | ⟨itself, -⟩
      · rw [(earlier.agree geo radiusKm ⟨lone_before, below⟩).1] at own
        rw [Dict.get?_insert_ne _ _ (Ne.symm below.ne)] at placed
        exact opens a ⟨placed, own⟩ (.inr below) ⟨reach, reached.2⟩
      · exact below.ne itself
    · have other : a.1 ≠ seatId before newcomer q := by
        rw [seatId_alone q empty]
        rintro same
        exact lone_a (same ▸ lone)
      obtain ⟨company, anchor⟩ := groupAnchor_before geo radiusKm q new lone_a ⟨placed, own⟩ other
      exact opens a anchor (.inl company) ⟨reach, reached.2⟩
  · rintro alone a anchor placed_before ⟨reach, near⟩
    have remains : IsAnchor (before.insert newcomer q) (cluster geo (before.insert newcomer q) radiusKm) a ∧
        Ahead (before.insert newcomer q) a.1 newcomer := by
      by_cases lone_a : a.1 ∈ singles before
      · have below := placed_before.resolve_left (not_not.mpr lone_a)
        have agree := (earlier.agree geo radiusKm ⟨lone_a, below⟩).1
        have lone_after := lone_insert q new lone_a (by simp [empty])
        exact ⟨⟨get?_insert_placed q new anchor.1, agree.trans anchor.2⟩, .inr ⟨iff_of_true lone_after lone, below⟩⟩
      · obtain ⟨company, anchored⟩ := groupAnchor_after geo radiusKm q new lone_a anchor (by simp [empty])
        exact ⟨anchored, .inl ⟨company, lone⟩⟩
    exact alone a ⟨remains.1, remains.2, reach, (reached_iff geo radiusKm bounded reach).mpr near⟩

/-- A lone node can join the anchor of the newcomer's coordinates exactly when that reseats it. -/
theorem reseated_iff (bounded : LatitudeBound geo) (lone : z ∈ singles before) (apart : z ∉ siteMates before q)
    (placed : before.get? z = some p) :
    Candidate geo (before.insert newcomer q) radiusKm (cluster geo (before.insert newcomer q) radiusKm) z p
        (seatId before newcomer q, seatPosition before newcomer q) ↔
      Reseated geo radiusKm before newcomer q z := by
  have lone_after := lone_insert q new lone apart
  have seated : IsAnchor (before.insert newcomer q) (cluster geo (before.insert newcomer q) radiusKm)
        (seatId before newcomer q, seatPosition before newcomer q) ∧ Ahead (before.insert newcomer q) (seatId before newcomer q) z ↔
      SeatedBefore geo radiusKm before newcomer q z := by
    by_cases empty : siteMates before q = []
    · have lone_newcomer : newcomer ∈ singles (before.insert newcomer q) := (mem_singles_insert q new).mpr (.inr ⟨rfl, empty⟩)
      rw [seatId_alone q empty, seatPosition_alone q empty, SeatedBefore, opens_iff geo radiusKm q new bounded empty]
      constructor
      · rintro ⟨anchor, ahead⟩
        exact .inr ⟨anchor.2, ahead.below _ lone_newcomer⟩
      · rintro (company | ⟨own, below⟩)
        · exact absurd empty company
        · exact ⟨⟨Dict.get?_insert_self _ _ _, own⟩, .inr ⟨iff_of_true lone_newcomer lone_after, below⟩⟩
    · refine iff_of_true ⟨seat_anchored geo radiusKm q new empty, .inl ⟨?_, lone_after⟩⟩ (.inl empty)
      exact (seated_at geo radiusKm q new empty (seatId_mem q)).2.2
  rw [Candidate, ← and_assoc, seated, Reseated, get?_positionOf before placed]
  constructor
  · rintro ⟨ahead, reach, reached⟩
    exact ⟨lone, apart, ahead, reach, reached.2⟩
  · rintro ⟨-, -, ahead, reach, near⟩
    exact ⟨ahead, reach, (reached_iff geo radiusKm bounded reach).mpr near⟩

/-! ### The nodes the newcomer leaves alone -/

omit new in
theorem lowestId_le (member : nodeId ∈ ids) : lowestId ids ≤ nodeId := by
  obtain ⟨least, found⟩ := Option.isSome_iff_exists.mp (List.isSome_min?_of_ne_nil (List.ne_nil_of_mem member))
  rw [lowestId, found]
  exact (List.min?_eq_some_iff.mp found).2 nodeId member

omit new in
theorem lowestId_eq (member : a ∈ ids) (least : ∀ nodeId ∈ ids, a ≤ nodeId) : lowestId ids = a :=
  le_antisymm (lowestId_le member) (least _ (lowestId_mem (List.ne_nil_of_mem member)))

omit new in
/-- Where an earlier node anchors the newcomer's coordinates, it is the lowest of the earlier ones. -/
theorem seatId_of_mate (mate : seatId before newcomer q ∈ siteMates before q) :
    lowestId (siteMates before q) = seatId before newcomer q :=
  lowestId_eq mate fun _ member => lowestId_le (List.mem_append_left _ member)

/-- The newcomer's seat is its own, or that of the one node it pairs up with; then where nobody beyond the
radius is displaced, nobody is displaced at all but those the seat takes in. -/
theorem untouched_unseated (bounded : LatitudeBound geo) (undisplaced : Undisplaced geo radiusKm before newcomer q)
    (near : 0 < radiusKm → ∀ nodeId p, before.get? nodeId = some p →
      (kmBetween geo p (seatPosition before newcomer q) ≤ radiusKm ↔ kmBetween geo p q ≤ radiusKm)) :
    Untouched geo before radiusKm (before.insert newcomer q) fun z =>
      z ∈ singles before ∧ z ∉ siteMates before q ∧ ¬ Reseated geo radiusKm before newcomer q z := by
  constructor
  · rintro z ⟨lone, apart, -⟩
    exact lone_kept q new lone apart
  · rintro z p b ⟨lone, apart, unseated⟩ placed candidate
    by_cases seat : b.1 = seatId before newcomer q
    · have stands := eq_seat q candidate.1.1 seat
      exact absurd ((reseated_iff geo radiusKm q new bounded lone apart placed).mp (stands ▸ candidate)) unseated
    · by_cases lone_b : b.1 ∈ singles (before.insert newcomer q)
      · rcases (mem_singles_insert q new).mp lone_b with ⟨lone_before, apart_b⟩ | ⟨itself, empty⟩
        · refine .inl ⟨lone_before, apart_b, fun reseated => ?_⟩
          obtain ⟨pb, at_b⟩ := exists_position_of_single before lone_before
          exact (single_own_iff geo _ radiusKm lone_b (get?_insert_placed q new at_b)).mp candidate.1.2 _
            ((reseated_iff geo radiusKm q new bounded lone_before apart_b at_b).mpr reseated)
        · exact absurd (itself.trans (seatId_alone q empty).symm) seat
      · obtain ⟨company, anchored⟩ := groupAnchor_before geo radiusKm q new lone_b candidate.1 seat
        exact .inr ⟨company, lone_b, anchored⟩
  · rintro z p a ⟨lone, apart, unseated⟩ placed ⟨anchor, ahead, reach, reached⟩ under
    -- A node within the radius that the seat precedes would be reseated.
    have beyond : SeatedBefore geo radiusKm before newcomer q z → Far geo radiusKm before q z p := by
      intro seated
      refine ⟨placed, lt_of_not_ge fun within => unseated ⟨lone, apart, seated, reach, ?_⟩⟩
      rw [get?_positionOf before placed]
      exact (near reach z p placed).mpr within
    by_cases mate : a.1 ∈ siteMates before q
    · have seated : SeatedBefore geo radiusKm before newcomer q z := .inl (List.ne_nil_of_mem mate)
      by_cases seat : a.1 = seatId before newcomer q
      · refine absurd ⟨lone, apart, seated, reach, ?_⟩ unseated
        have position : a.2 = seatPosition before newcomer q :=
          congrArg Prod.snd (eq_seat q (get?_insert_placed q new anchor.1) seat)
        rw [get?_positionOf before placed, ← position]
        exact reached.2
      · exact absurd ⟨a.1, under, .inl ⟨.inr mate, seat⟩⟩ (undisplaced z p (beyond seated))
    · by_cases lone_a : a.1 ∈ singles before
      · refine .inl ⟨lone_a, mate, fun reseated => ?_⟩
        have seated : SeatedBefore geo radiusKm before newcomer q z :=
          reseated.2.2.1.imp_right fun opened => ⟨opened.1, opened.2.trans (ahead.below _ lone_a)⟩
        exact undisplaced z p (beyond seated) ⟨a.1, under, .inr reseated⟩
      · exact .inr ⟨lone_a, groupAnchor_after geo radiusKm q new lone_a anchor mate⟩

/-- A newcomer at a group's coordinates, not the lowest there, changes no lone node. -/
theorem untouched_group (many : 1 < (siteMates before q).length) (mate : seatId before newcomer q ∈ siteMates before q) :
    Untouched geo before radiusKm (before.insert newcomer q) fun z => z ∈ singles before := by
  have company : siteMates before q ≠ [] := List.ne_nil_of_mem mate
  have apart : ∀ z ∈ singles before, z ∉ siteMates before q := fun z lone member => not_single_of_many before many member lone
  have at_seat : before.get? (seatId before newcomer q) = some (seatPosition before newcomer q) := by
    have other : newcomer ≠ seatId before newcomer q := by
      rintro same
      rw [← same, siteMates] at mate
      exact not_member new mate
    rw [← Dict.get?_insert_ne before q other, seat_placed q]
  constructor
  · intro z lone
    exact lone_kept q new lone (apart z lone)
  · rintro z p b lone placed ⟨anchor, -⟩
    by_cases lone_b : b.1 ∈ singles (before.insert newcomer q)
    · rcases (mem_singles_insert q new).mp lone_b with ⟨lone_before, -⟩ | ⟨-, empty⟩
      · exact .inl lone_before
      · exact absurd empty company
    · by_cases seat : b.1 = seatId before newcomer q
      · refine .inr ⟨seat ▸ not_single_of_many before many mate, lone_b, ?_⟩
        rw [eq_seat q anchor.1 seat]
        exact ⟨at_seat, by rw [(grouped_at geo before radiusKm many mate).1, ← siteMates, seatId_of_mate q mate]⟩
      · obtain ⟨company_b, anchored⟩ := groupAnchor_before geo radiusKm q new lone_b anchor seat
        exact .inr ⟨company_b, lone_b, anchored⟩
  · rintro z p a lone placed ⟨anchor, -⟩ -
    by_cases lone_a : a.1 ∈ singles before
    · exact .inl lone_a
    · by_cases mate_a : a.1 ∈ siteMates before q
      · have seat : a.1 = seatId before newcomer q := by
          rw [← seatId_of_mate q mate]
          have grouped := (grouped_at geo before radiusKm many mate_a).1
          exact Option.some.inj (anchor.2.symm.trans grouped)
        have stands := eq_seat q (get?_insert_placed q new anchor.1) seat
        refine .inr ⟨lone_a, ?_, stands ▸ seat_anchored geo radiusKm q new company⟩
        rw [seat]
        exact (seated_at geo radiusKm q new company (seatId_mem q)).2.2
      · exact .inr ⟨lone_a, groupAnchor_after geo radiusKm q new lone_a anchor mate_a⟩

/-! ### Near and far -/

/-- Whoever the newcomer displaces has another identity. -/
theorem displaced_moves (bounded : LatitudeBound geo) (displaces : Displaces geo radiusKm before newcomer q nodeId) :
    (cluster geo (before.insert newcomer q) radiusKm).identities.get? nodeId ≠
      (cluster geo before radiusKm).identities.get? nodeId := by
  intro same
  obtain ⟨a, under, reason⟩ := displaces
  rw [under] at same
  -- Its anchor would still be its own anchor.
  have own := ((cluster_canonical geo (before.insert newcomer q) radiusKm).fixed nodeId a same).1
  rcases reason with ⟨mate | mate, other⟩ | ⟨lone, apart, reseated⟩
  · have seated := (seated_at geo radiusKm q new (List.ne_nil_of_mem mate) (List.mem_append_left _ mate)).1
    exact other (Option.some.inj (same.symm.trans seated))
  · have seated := (seated_at geo radiusKm q new (List.ne_nil_of_mem mate) (List.mem_append_left _ mate)).1
    exact other (Option.some.inj (own.symm.trans seated))
  · obtain ⟨p, placed⟩ := exists_position_of_single before lone
    exact (single_own_iff geo _ radiusKm (lone_insert q new lone apart) (get?_insert_placed q new placed)).mp own _
      ((reseated_iff geo radiusKm q new bounded lone apart placed).mpr ⟨lone, apart, reseated⟩)

theorem mate_agrees (mate : nodeId ∈ siteMates before q) (undisplaced : ¬ Displaces geo radiusKm before newcomer q nodeId) :
    (cluster geo (before.insert newcomer q) radiusKm).identities.get? nodeId =
        (cluster geo before radiusKm).identities.get? nodeId ∧
      (cluster geo (before.insert newcomer q) radiusKm).joined.get? nodeId =
        (cluster geo before radiusKm).joined.get? nodeId := by
  have seated := seated_at geo radiusKm q new (List.ne_nil_of_mem mate) (List.mem_append_left _ mate)
  obtain ⟨a, pa, under, at_a, -⟩ :=
    (cluster_canonical geo before radiusKm).anchored nodeId _ (get?_of_member before mate)
  have seat : a = seatId before newcomer q := by
    by_contra other
    exact undisplaced ⟨a, under, .inl ⟨.inl mate, other⟩⟩
  have listed : seatId before newcomer q ∈ siteMates before q ++ [newcomer] := seatId_mem q
  have seat_mate : a ∈ siteMates before q := by
    rcases List.mem_append.mp listed with mate' | last
    · exact seat ▸ mate'
    · rw [seat, List.mem_singleton.mp last, new] at at_a
      cases at_a
  have free : (cluster geo before radiusKm).joined.get? nodeId = none := by
    by_cases many : 1 < (siteMates before q).length
    · exact (grouped_at geo before radiusKm many mate).2
    · rw [eq_singleton_of_few many mate, List.mem_singleton] at seat_mate
      exact joined_none_of_self geo before radiusKm (under.trans (by rw [seat_mate]))
  exact ⟨by rw [seated.1, under, seat], by rw [seated.2.1, free]⟩

theorem elsewhere_agrees (placed : before.get? nodeId = some p) (company : nodeId ∉ singles before)
    (apart : nodeId ∉ siteMates before q) :
    (cluster geo (before.insert newcomer q) radiusKm).identities.get? nodeId =
        (cluster geo before radiusKm).identities.get? nodeId ∧
      (cluster geo (before.insert newcomer q) radiusKm).joined.get? nodeId =
        (cluster geo before radiusKm).joined.get? nodeId := by
  have elsewhere : siteKey q ≠ siteKey p := fun here => apart ((mem_members before).mpr ⟨p, placed, here.symm⟩)
  have member : nodeId ∈ members before (siteKey p) := (mem_members before).mpr ⟨p, placed, rfl⟩
  have many := many_of_not_single before placed company
  have same := members_insert_elsewhere q new elsewhere
  have grouped := grouped_at geo before radiusKm many member
  have grouped_after := grouped_at geo (before.insert newcomer q) radiusKm (by rwa [same]) (by rwa [same])
  rw [same] at grouped_after
  exact ⟨grouped_after.1.trans grouped.1.symm, grouped_after.2.trans grouped.2.symm⟩

theorem far_agrees (bounded : LatitudeBound geo) (aligned : SeatAligned geo radiusKm before newcomer q)
    (undisplaced : Undisplaced geo radiusKm before newcomer q) (far : Far geo radiusKm before q nodeId p) :
    (cluster geo (before.insert newcomer q) radiusKm).identities.get? nodeId =
        (cluster geo before radiusKm).identities.get? nodeId ∧
      (cluster geo (before.insert newcomer q) radiusKm).joined.get? nodeId =
        (cluster geo before radiusKm).joined.get? nodeId := by
  by_cases mate : nodeId ∈ siteMates before q
  · exact mate_agrees geo radiusKm q new mate (undisplaced nodeId p far)
  by_cases lone : nodeId ∈ singles before
  · by_cases group : 1 < (siteMates before q).length ∧ seatId before newcomer q ∈ siteMates before q
    · exact (untouched_group geo radiusKm q new group.1 group.2).agree geo radiusKm lone
    · have near : 0 < radiusKm → ∀ other p', before.get? other = some p' →
          (kmBetween geo p' (seatPosition before newcomer q) ≤ radiusKm ↔ kmBetween geo p' q ≤ radiusKm) := by
        have listed : seatId before newcomer q ∈ siteMates before q ++ [newcomer] := seatId_mem q
        rcases List.mem_append.mp listed with seat_mate | last
        · exact aligned (eq_singleton_of_few (fun many => group ⟨many, seat_mate⟩) seat_mate)
        · intro _ other p' _
          rw [seatPosition, if_pos (List.mem_singleton.mp last)]
      refine (untouched_unseated geo radiusKm q new bounded undisplaced near).agree geo radiusKm ⟨lone, mate, ?_⟩
      rintro ⟨-, -, -, reach, within⟩
      rw [get?_positionOf before far.1] at within
      exact absurd ((near reach nodeId p far.1).mp within) (not_le.mpr far.2)
  · exact elsewhere_agrees geo radiusKm q new far.1 lone mate

omit new

def street : Dict String Position := ⟨[("node-b", (40701 / 1000, -74)), ("node-c", (40702 / 1000, -74))], by decide⟩

theorem flat_latitude_bound : LatitudeBound flatGeodesy := by
  constructor
  · norm_num [flatGeodesy]
  · intro p q
    have lat : 0 ≤ |p.1 - q.1| := abs_nonneg _
    have lon : 0 ≤ |p.2 - q.2| := abs_nonneg _
    rw [abs_sub_comm]
    simp only [flatGeodesy, kmBetween]
    linarith

end Retina.Sites
