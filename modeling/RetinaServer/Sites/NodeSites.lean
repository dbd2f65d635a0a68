import RetinaServer.Library.Dict
import RetinaServer.Library.Rounding
import Mathlib.Data.List.Sort
import Mathlib.Data.String.Basic

/-! Which nodes sit at one receive site: groups of equal positions first, then
the lone nodes, each at the nearest anchor within reach or an anchor itself. -/
namespace Retina.Sites
open Rounding

abbrev Position := ℚ × ℚ

/-- What the published coordinates take from the geodesy library. -/
structure Geodesy where
  kmPerDegLat : ℚ
  haversineKm : ℚ → ℚ → ℚ → ℚ → ℚ
  offsetLatlon : ℚ → ℚ → ℚ → ℚ → Position

def SITE_DECIMALS : Nat := 6

def siteKey (position : Position) : Position :=
  (roundTo SITE_DECIMALS position.1, roundTo SITE_DECIMALS position.2)

/-- The two results of `_cluster`, and the anchors placed so far, in order. -/
structure Clustering where
  identities : Dict String String
  joined : Dict String Position
  anchors : List (String × Position)

variable (geo : Geodesy) (positions : Dict String Position) (radiusKm : ℚ)

def kmBetween (a b : Position) : ℚ := geo.haversineKm a.1 a.2 b.1 b.2

/-- `by_site.setdefault(_site_key(position), []).append(node_id)`. -/
def fileUnder (bySite : Dict Position (List String)) (item : String × Position) : Dict Position (List String) :=
  bySite.insert (siteKey item.2) ((bySite.get? (siteKey item.2)).getD [] ++ [item.1])

def bySite : Dict Position (List String) := positions.items.foldl fileUnder Dict.empty

def lowestId (ids : List String) : String := ids.min?.getD ""

/-- The groups of two or more, each under its lowest id, in the order of those. -/
def exactGroups : List (String × List String) :=
  (((bySite positions).values.filter fun ids => decide (1 < ids.length)).map fun ids => (lowestId ids, ids)).insertionSort
    fun g g' => g.1 ≤ g'.1

/-- `ids[0]` of a key with one node. -/
def onlyId : List String → List String
  | [nodeId] => [nodeId]
  | _ => []

def singles : List String := ((bySite positions).values.flatMap onlyId).insertionSort (· ≤ ·)

def positionOf (nodeId : String) : Position := (positions.get? nodeId).getD (0, 0)

def placeGroup (c : Clustering) (group : String × List String) : Clustering :=
  { c with
    anchors := c.anchors ++ [(group.1, positionOf positions group.1)]
    identities := group.2.foldl (fun identities nodeId => identities.insert nodeId group.1) c.identities }

def latGate : ℚ := if 0 < radiusKm then radiusKm / geo.kmPerDegLat * (101 / 100) else -1

structure Nearest where
  gap : ℚ
  anchor : String
  position : Position

/-- One anchor of the scan: an equally near one placed earlier keeps its place. -/
def nearer (position : Position) (best : Option Nearest) (anchor : String × Position) : Option Nearest :=
  if latGate geo radiusKm < |anchor.2.1 - position.1| then best
  else
    let gap := kmBetween geo position anchor.2
    if gap ≤ radiusKm ∧ best.all fun b => decide (gap < b.gap) then some ⟨gap, anchor.1, anchor.2⟩ else best

def nearestAnchor (anchors : List (String × Position)) (position : Position) : Option Nearest :=
  if 0 < radiusKm then anchors.foldl (nearer geo radiusKm position) none else none

def placeSingle (c : Clustering) (nodeId : String) : Clustering :=
  let position := positionOf positions nodeId
  match nearestAnchor geo radiusKm c.anchors position with
  | none => { c with
      anchors := c.anchors ++ [(nodeId, position)]
      identities := c.identities.insert nodeId nodeId }
  | some best => { c with
      identities := c.identities.insert nodeId best.anchor
      joined := c.joined.insert nodeId best.position }

/-- The exact rule's groups, before any lone node is placed. -/
def placeGroups : Clustering := (exactGroups positions).foldl (placeGroup positions) ⟨Dict.empty, Dict.empty, []⟩

def cluster : Clustering := (singles positions).foldl (placeSingle geo positions radiusKm) (placeGroups positions)

/-- The id a node's public offset is keyed on. -/
def siteIdentity (c : Clustering) (nodeId : String) : String :=
  if nodeId = "" then nodeId else (c.identities.get? nodeId).getD nodeId

/-- Where a node is published from, when that is not its own position. -/
def sitePosition (c : Clustering) (nodeId : String) : Option Position :=
  if nodeId = "" then none else c.joined.get? nodeId

/-! ### Exact groups -/

/-- The nodes at one key, in the order of the positions. -/
def members (key : Position) : List String :=
  (positions.items.filter fun item => decide (siteKey item.2 = key)).map Prod.fst

theorem mem_members : nodeId ∈ members positions key ↔ ∃ p, positions.get? nodeId = some p ∧ siteKey p = key := by
  simp [members, Dict.get?_eq_some_iff]

theorem get?_foldl_fileUnder (items : List (String × Position)) (d : Dict Position (List String)) (key : Position) :
    ((items.foldl fileUnder d).get? key).getD [] =
      (d.get? key).getD [] ++ (items.filter fun item => decide (siteKey item.2 = key)).map Prod.fst := by
  induction items generalizing d with
  | nil => simp
  | cons item rest ih =>
    rw [List.foldl_cons, ih, fileUnder, Dict.get?_insert]
    by_cases here : siteKey item.2 = key
    · simp [here]
    · simp [here]

/-- The list filed under a key is the nodes at it. -/
theorem bySite_get? (filed : (bySite positions).get? key = some ids) : ids = members positions key := by
  have all := get?_foldl_fileUnder positions.items Dict.empty key
  rw [← bySite, filed] at all
  simpa [members] using all

theorem mem_bySite_values (key : Position) (many : members positions key ≠ []) : members positions key ∈ (bySite positions).values := by
  cases filed : (bySite positions).get? key with
  | none =>
    have all := get?_foldl_fileUnder positions.items Dict.empty key
    rw [← bySite, filed] at all
    exact absurd (by simpa [members] using all.symm) many
  | some ids =>
    rw [bySite_get? positions filed] at filed
    exact List.mem_map.mpr ⟨_, (Dict.get?_eq_some_iff _ _ _).mp filed, rfl⟩

theorem of_mem_bySite_values (listed : ids ∈ (bySite positions).values) : ∃ key, ids = members positions key := by
  obtain ⟨item, member, rfl⟩ := List.mem_map.mp listed
  exact ⟨item.1, bySite_get? positions ((Dict.get?_eq_some_iff _ _ _).mpr member)⟩

theorem mem_exactGroups : g ∈ exactGroups positions ↔
    ∃ key, 1 < (members positions key).length ∧ g = (lowestId (members positions key), members positions key) := by
  rw [exactGroups, List.mem_insertionSort, List.mem_map]
  constructor
  · rintro ⟨ids, listed, rfl⟩
    obtain ⟨listed, many⟩ := List.mem_filter.mp listed
    obtain ⟨key, rfl⟩ := of_mem_bySite_values positions listed
    exact ⟨key, of_decide_eq_true many, rfl⟩
  · rintro ⟨key, many, rfl⟩
    have nonempty : members positions key ≠ [] := List.ne_nil_of_length_pos (Nat.zero_lt_of_lt many)
    exact ⟨_, List.mem_filter.mpr ⟨mem_bySite_values positions key nonempty, decide_eq_true many⟩, rfl⟩

theorem mem_onlyId : nodeId ∈ onlyId ids ↔ ids = [nodeId] := by
  rw [onlyId.eq_def]
  split
  · simp [eq_comm]
  · rename_i several
    simp only [List.not_mem_nil, false_iff]
    exact several nodeId

theorem mem_singles : nodeId ∈ singles positions ↔ ∃ key, members positions key = [nodeId] := by
  rw [singles, List.mem_insertionSort, List.mem_flatMap]
  constructor
  · rintro ⟨ids, listed, single⟩
    obtain ⟨key, rfl⟩ := of_mem_bySite_values positions listed
    exact ⟨key, mem_onlyId.mp single⟩
  · rintro ⟨key, alone⟩
    have listed := mem_bySite_values positions key (by simp [alone])
    exact ⟨_, listed, mem_onlyId.mpr alone⟩

theorem lowestId_mem (many : ids ≠ []) : lowestId ids ∈ ids := by
  obtain ⟨least, found⟩ := Option.isSome_iff_exists.mp (List.isSome_min?_of_ne_nil many)
  rw [lowestId, found]
  exact List.min?_mem found

theorem eq_empty_of_le {name : String} (below : name ≤ "") : name = "" := by
  by_contra nonempty
  have characters : name.toList ≠ [] := fun none_left => nonempty (String.toList_inj.mp none_left)
  obtain ⟨c, rest, split⟩ := List.exists_cons_of_ne_nil characters
  have above : "" < name := by
    rw [String.lt_iff_toList_lt, split]
    exact List.nil_lt_cons c rest
  exact absurd below (not_le.mpr above)

theorem lowestId_empty (member : "" ∈ ids) : lowestId ids = "" := by
  obtain ⟨least, found⟩ := Option.isSome_iff_exists.mp (List.isSome_min?_of_ne_nil (List.ne_nil_of_mem member))
  have below := (List.le_min?_iff found (x := least)).mp le_rfl "" member
  rw [lowestId, found]
  exact eq_empty_of_le below

/-- A node is at one key. -/
theorem members_key_unique (here : nodeId ∈ members positions key) (there : nodeId ∈ members positions key') :
    key = key' := by
  obtain ⟨p, at_p, rfl⟩ := (mem_members positions).mp here
  obtain ⟨q, at_q, rfl⟩ := (mem_members positions).mp there
  rw [Option.some.inj (at_p.symm.trans at_q)]

theorem get?_positionOf (placed : positions.get? nodeId = some p) : positionOf positions nodeId = p := by
  rw [positionOf, placed, Option.getD_some]

theorem get?_of_member (member : nodeId ∈ members positions key) :
    positions.get? nodeId = some (positionOf positions nodeId) := by
  obtain ⟨p, placed, -⟩ := (mem_members positions).mp member
  rw [placed, get?_positionOf positions placed]

/-! ### What the first pass places -/

/-- The groups so far have their anchors, and nobody else has one. -/
structure GroupsPlaced (groups : List (String × List String)) (c : Clustering) : Prop where
  identified : ∀ nodeId a, c.identities.get? nodeId = some a → ∃ g ∈ groups, nodeId ∈ g.2 ∧ a = g.1
  placed : ∀ g ∈ groups, ∀ nodeId ∈ g.2, (c.identities.get? nodeId).isSome
  unjoined : c.joined = Dict.empty
  anchored : ∀ anchor ∈ c.anchors, ∃ g ∈ groups, anchor = (g.1, positionOf positions g.1)

theorem GroupsPlaced.group (before : GroupsPlaced positions groups c) (g : String × List String) :
    GroupsPlaced positions (groups ++ [g]) (placeGroup positions c g) := by
  constructor
  · intro nodeId a found
    simp only [placeGroup, Dict.get?_foldl_insert_const] at found
    split at found
    · rename_i here
      exact ⟨g, by simp, here, (Option.some.inj found).symm⟩
    · obtain ⟨g', earlier, rest⟩ := before.identified nodeId a found
      exact ⟨g', List.mem_append_left _ earlier, rest⟩
  · intro g' listed nodeId member
    simp only [placeGroup, Dict.get?_foldl_insert_const]
    split
    · rfl
    · rename_i absent
      rcases List.mem_append.mp listed with earlier | last
      · exact before.placed g' earlier nodeId member
      · exact absurd (List.mem_singleton.mp last ▸ member) absent
  · exact before.unjoined
  · intro anchor listed
    rcases List.mem_append.mp listed with earlier | last
    · obtain ⟨g', member, same⟩ := before.anchored anchor earlier
      exact ⟨g', List.mem_append_left _ member, same⟩
    · exact ⟨g, by simp, List.mem_singleton.mp last⟩

theorem GroupsPlaced.foldl (before : GroupsPlaced positions groups c) (rest : List (String × List String)) :
    GroupsPlaced positions (groups ++ rest) (rest.foldl (placeGroup positions) c) := by
  induction rest generalizing groups c with
  | nil => simpa using before
  | cons g rest ih =>
    have next := ih (before.group positions g)
    rwa [List.append_assoc, List.singleton_append] at next

theorem groups_placed : GroupsPlaced positions (exactGroups positions) (placeGroups positions) := by
  have empty : GroupsPlaced positions [] ⟨Dict.empty, Dict.empty, []⟩ := by
    constructor
    · intro nodeId a found
      cases found
    · simp
    · rfl
    · simp
  exact empty.foldl positions (exactGroups positions)

/-! ### What the second pass places -/

/-- A node of a group is under the group's lowest id and published from its own position; any other
node is its own anchor, or one of the lone nodes `done`, joined to an anchor and published from there. -/
structure Placed (done : List String) (c : Clustering) : Prop where
  anchored : ∀ anchor ∈ c.anchors, positions.get? anchor.1 = some anchor.2
  grouped : ∀ key, 1 < (members positions key).length → ∀ nodeId ∈ members positions key,
    c.identities.get? nodeId = some (lowestId (members positions key)) ∧ c.joined.get? nodeId = none
  others : ∀ nodeId, (∀ key, 1 < (members positions key).length → nodeId ∉ members positions key) →
    (c.identities.get? nodeId = none ∨ c.identities.get? nodeId = some nodeId) ∧ c.joined.get? nodeId = none ∨
    nodeId ∈ done ∧ ∃ a p, c.identities.get? nodeId = some a ∧ c.joined.get? nodeId = some p ∧
      positions.get? a = some p

theorem groups_placed_only : Placed positions [] (placeGroups positions) := by
  have groups := groups_placed positions
  constructor
  · intro anchor listed
    obtain ⟨g, member, rfl⟩ := groups.anchored anchor listed
    obtain ⟨key, many, rfl⟩ := (mem_exactGroups positions).mp member
    exact get?_of_member positions (lowestId_mem (List.ne_nil_of_length_pos (Nat.zero_lt_of_lt many)))
  · intro key many nodeId member
    rw [groups.unjoined]
    obtain ⟨a, found⟩ := Option.isSome_iff_exists.mp
      (groups.placed _ ((mem_exactGroups positions).mpr ⟨key, many, rfl⟩) nodeId member)
    obtain ⟨g, listed, here, rfl⟩ := groups.identified nodeId a found
    obtain ⟨key', -, rfl⟩ := (mem_exactGroups positions).mp listed
    rw [found, members_key_unique positions member here]
    exact ⟨rfl, rfl⟩
  · intro nodeId alone
    rw [groups.unjoined]
    refine .inl ⟨.inl ?_, rfl⟩
    rw [Option.eq_none_iff_forall_ne_some]
    intro a found
    obtain ⟨g, listed, here, -⟩ := groups.identified nodeId a found
    obtain ⟨key, many, rfl⟩ := (mem_exactGroups positions).mp listed
    exact alone key many here

theorem nearer_from {start : Option Nearest} (anchors : List (String × Position)) (position : Position)
    (found : anchors.foldl (nearer geo radiusKm position) start = some best) :
    start = some best ∨ (best.anchor, best.position) ∈ anchors := by
  induction anchors generalizing start with
  | nil => exact .inl found
  | cons anchor rest ih =>
    rw [List.foldl_cons] at found
    rcases ih found with here | later
    · simp only [nearer] at here
      split at here
      · exact .inl here
      · split at here
        · rw [← Option.some.inj here]
          exact .inr List.mem_cons_self
        · exact .inl here
    · exact .inr (List.mem_cons_of_mem anchor later)

theorem nearestAnchor_mem (found : nearestAnchor geo radiusKm anchors position = some best) :
    (best.anchor, best.position) ∈ anchors := by
  rw [nearestAnchor] at found
  split at found
  · exact (nearer_from geo radiusKm anchors position found).resolve_left (fun none_yet => by cases none_yet)
  · cases found

/-- A lone node joins the nearest anchor, or becomes one. -/
theorem Placed.single (before : Placed positions done c) (alone : members positions key = [nodeId])
    (first : nodeId ∉ done) : Placed positions (nodeId :: done) (placeSingle geo positions radiusKm c nodeId) := by
  have member : nodeId ∈ members positions key := by simp [alone]
  have ungrouped : ∀ key', 1 < (members positions key').length → nodeId ∉ members positions key' := by
    intro key' many there
    rw [← members_key_unique positions member there, alone] at many
    exact absurd many (by simp)
  have apart : ∀ key', 1 < (members positions key').length → ∀ other ∈ members positions key', nodeId ≠ other :=
    fun key' many other there same => ungrouped key' many (same ▸ there)
  simp only [placeSingle]
  cases nearest : nearestAnchor geo radiusKm c.anchors (positionOf positions nodeId) with
  | none =>
    constructor
    · intro anchor listed
      rcases List.mem_append.mp listed with earlier | last
      · exact before.anchored anchor earlier
      · rw [List.mem_singleton.mp last]
        exact get?_of_member positions member
    · intro key' many other there
      rw [Dict.get?_insert_ne _ _ (apart key' many other there)]
      exact before.grouped key' many other there
    · intro other alone'
      by_cases same : nodeId = other
      · subst same
        rw [Dict.get?_insert_self]
        rcases before.others nodeId alone' with ⟨-, unjoined⟩ | ⟨again, -⟩
        · exact .inl ⟨.inr rfl, unjoined⟩
        · exact absurd again first
      · rw [Dict.get?_insert_ne _ _ same]
        exact (before.others other alone').imp_right fun ⟨earlier, at_anchor⟩ =>
          ⟨List.mem_cons_of_mem _ earlier, at_anchor⟩
  | some best =>
    have anchored := before.anchored _ (nearestAnchor_mem geo radiusKm nearest)
    constructor
    · exact before.anchored
    · intro key' many other there
      rw [Dict.get?_insert_ne _ _ (apart key' many other there), Dict.get?_insert_ne _ _ (apart key' many other there)]
      exact before.grouped key' many other there
    · intro other alone'
      by_cases same : nodeId = other
      · subst same
        exact .inr ⟨List.mem_cons_self, best.anchor, best.position, Dict.get?_insert_self _ _ _, Dict.get?_insert_self _ _ _, anchored⟩
      · rw [Dict.get?_insert_ne _ _ same, Dict.get?_insert_ne _ _ same]
        exact (before.others other alone').imp_right fun ⟨earlier, at_anchor⟩ =>
          ⟨List.mem_cons_of_mem _ earlier, at_anchor⟩

theorem Placed.singles (before : Placed positions done c) (rest : List String) (distinct : rest.Nodup)
    (new : ∀ nodeId ∈ rest, nodeId ∉ done) (lone : ∀ nodeId ∈ rest, ∃ key, members positions key = [nodeId]) :
    ∃ done', Placed positions done' (rest.foldl (placeSingle geo positions radiusKm) c) := by
  induction rest generalizing done c with
  | nil => exact ⟨done, before⟩
  | cons nodeId rest ih =>
    obtain ⟨unlisted, distinct⟩ := List.nodup_cons.mp distinct
    obtain ⟨new_here, new_later⟩ := List.forall_mem_cons.mp new
    obtain ⟨⟨key, alone⟩, lone_later⟩ := List.forall_mem_cons.mp lone
    refine ih (before.single geo positions radiusKm alone new_here) distinct ?_ lone_later
    intro other listed member
    rcases List.mem_cons.mp member with rfl | earlier
    · exact unlisted listed
    · exact new_later other listed earlier

theorem singles_nodup : (singles positions).Nodup := by
  rw [singles, (List.perm_insertionSort _ _).nodup_iff, Dict.values, List.flatMap_map, List.nodup_flatMap]
  constructor
  · intro item _
    rw [onlyId.eq_def]
    split
    · exact List.nodup_singleton _
    · exact List.nodup_nil
  · refine (List.pairwise_map.mp (bySite positions).nodup).imp_of_mem ?_
    intro item item' listed listed' other_key nodeId here there
    have group := bySite_get? positions ((Dict.get?_eq_some_iff _ _ _).mpr listed)
    have group' := bySite_get? positions ((Dict.get?_eq_some_iff _ _ _).mpr listed')
    have member : nodeId ∈ members positions item.1 := by simp [← group, mem_onlyId.mp here]
    have member' : nodeId ∈ members positions item'.1 := by simp [← group', mem_onlyId.mp there]
    exact other_key (members_key_unique positions member member')

theorem cluster_placed : ∃ done, Placed positions done (cluster geo positions radiusKm) :=
  (groups_placed_only positions).singles geo positions radiusKm (singles positions) (singles_nodup positions)
    (fun _ _ => List.not_mem_nil) fun _ listed => (mem_singles positions).mp listed

/-! ### What a site's members are published from -/

theorem siteIdentity_of (c : Clustering) (found : c.identities.get? nodeId = some a) (named : nodeId ≠ "") :
    siteIdentity c nodeId = a := by
  rw [siteIdentity, if_neg named, found, Option.getD_some]

theorem sitePosition_of (c : Clustering) (named : nodeId ≠ "") : sitePosition c nodeId = c.joined.get? nodeId :=
  if_neg named

/-- A node is published from its own position, at its anchor's key, or from its anchor's position. -/
theorem published_from_anchor (placed : positions.get? nodeId = some p) :
    ∃ q, positions.get? (siteIdentity (cluster geo positions radiusKm) nodeId) = some q ∧
      (sitePosition (cluster geo positions radiusKm) nodeId = none ∧ siteKey p = siteKey q ∨
        sitePosition (cluster geo positions radiusKm) nodeId = some q) := by
  obtain ⟨done, sites⟩ := cluster_placed geo positions radiusKm
  generalize cluster geo positions radiusKm = c at sites
  by_cases unnamed : nodeId = ""
  · subst unnamed
    exact ⟨p, placed, .inl ⟨rfl, rfl⟩⟩
  rw [sitePosition_of c unnamed]
  by_cases grouped : ∃ key, 1 < (members positions key).length ∧ nodeId ∈ members positions key
  · obtain ⟨key, many, member⟩ := grouped
    obtain ⟨identified, unjoined⟩ := sites.grouped key many nodeId member
    obtain ⟨q, at_q, key_q⟩ := (mem_members positions).mp (lowestId_mem (List.ne_nil_of_mem member))
    obtain ⟨p', at_p, key_p⟩ := (mem_members positions).mp member
    refine ⟨q, by rw [siteIdentity_of c identified unnamed, at_q], .inl ⟨unjoined, ?_⟩⟩
    rw [key_q, ← key_p, Option.some.inj (placed.symm.trans at_p)]
  · have ungrouped : ∀ key, 1 < (members positions key).length → nodeId ∉ members positions key :=
      fun key many member => grouped ⟨key, many, member⟩
    rcases sites.others nodeId ungrouped with ⟨own, unjoined⟩ | ⟨-, a, q, identified, joined, at_q⟩
    · have itself : siteIdentity c nodeId = nodeId := by
        rcases own with missing | own
        · rw [siteIdentity, if_neg unnamed, missing, Option.getD_none]
        · exact siteIdentity_of c own unnamed
      exact ⟨p, by rw [itself, placed], .inl ⟨unjoined, rfl⟩⟩
    · exact ⟨q, by rw [siteIdentity_of c identified unnamed, at_q], .inr joined⟩

/-- Nodes at one key are at one site, each published from its own position. -/
theorem exact_site (other : i ≠ j) (at_i : positions.get? i = some p) (at_j : positions.get? j = some q)
    (same : siteKey p = siteKey q) :
    siteIdentity (cluster geo positions radiusKm) i = siteIdentity (cluster geo positions radiusKm) j ∧
      sitePosition (cluster geo positions radiusKm) i = none ∧
      sitePosition (cluster geo positions radiusKm) j = none := by
  obtain ⟨done, sites⟩ := cluster_placed geo positions radiusKm
  generalize cluster geo positions radiusKm = c at sites
  have member_i : i ∈ members positions (siteKey p) := (mem_members positions).mpr ⟨p, at_i, rfl⟩
  have member_j : j ∈ members positions (siteKey p) := (mem_members positions).mpr ⟨q, at_j, same.symm⟩
  have many : 1 < (members positions (siteKey p)).length := by
    by_contra few
    have single : (members positions (siteKey p)).length = 1 :=
      Nat.le_antisymm (Nat.le_of_not_lt few) (List.length_pos_of_mem member_i)
    obtain ⟨k, alone⟩ := List.length_eq_one_iff.mp single
    rw [alone, List.mem_singleton] at member_i member_j
    exact other (member_i.trans member_j.symm)
  -- An id the lookups refuse is the lowest of its group, so it is its own anchor anyway.
  have resolved : ∀ k ∈ members positions (siteKey p),
      siteIdentity c k = lowestId (members positions (siteKey p)) ∧ sitePosition c k = none := by
    intro k member
    obtain ⟨identified, unjoined⟩ := sites.grouped _ many k member
    by_cases unnamed : k = ""
    · subst unnamed
      exact ⟨(lowestId_empty member).symm, rfl⟩
    · exact ⟨siteIdentity_of c identified unnamed, by rw [sitePosition_of c unnamed, unjoined]⟩
  exact ⟨(resolved i member_i).1.trans (resolved j member_j).1.symm, (resolved i member_i).2, (resolved j member_j).2⟩

end Retina.Sites
