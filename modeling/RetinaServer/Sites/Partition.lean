import RetinaServer.Sites.NodeSites

/-! The sites are a partition of the placed nodes: each under one anchor, which is its own, at the
anchor's key or within the radius of it, whatever order the positions are listed in. -/
namespace Retina.Sites

variable (geo : Geodesy) (positions : Dict String Position) (radiusKm : ℚ)

/-- A node at `p` is published from there, at its anchor's key, or from `q` itself, within the radius. -/
def PublishedFrom (c : Clustering) (nodeId : String) (p q : Position) : Prop :=
  c.joined.get? nodeId = none ∧ siteKey p = siteKey q ∨
    c.joined.get? nodeId = some q ∧ kmBetween geo p q ≤ radiusKm

/-- The anchors stand where they are configured, each under its own id, and a node with an identity
is published from its anchor. -/
structure Seated (c : Clustering) : Prop where
  seat : ∀ anchor ∈ c.anchors, positions.get? anchor.1 = some anchor.2 ∧
    c.identities.get? anchor.1 = some anchor.1 ∧ c.joined.get? anchor.1 = none
  identified : ∀ nodeId a, c.identities.get? nodeId = some a → ∃ p q, positions.get? nodeId = some p ∧
    (a, q) ∈ c.anchors ∧ PublishedFrom geo radiusKm c nodeId p q
  unidentified : ∀ nodeId, c.identities.get? nodeId = none → c.joined.get? nodeId = none

/-- What `_cluster` promises of a set of placed nodes. -/
structure CanonicalPartition : Prop where
  order_free : ∀ positions' : Dict String Position, positions.items.Perm positions'.items → ∀ nodeId,
    (cluster geo positions radiusKm).identities.get? nodeId = (cluster geo positions' radiusKm).identities.get? nodeId ∧
      (cluster geo positions radiusKm).joined.get? nodeId = (cluster geo positions' radiusKm).joined.get? nodeId
  anchored : ∀ nodeId p, positions.get? nodeId = some p → ∃ a q,
    (cluster geo positions radiusKm).identities.get? nodeId = some a ∧ positions.get? a = some q ∧
      PublishedFrom geo radiusKm (cluster geo positions radiusKm) nodeId p q
  unmapped : ∀ nodeId, positions.get? nodeId = none →
    (cluster geo positions radiusKm).identities.get? nodeId = none ∧
      (cluster geo positions radiusKm).joined.get? nodeId = none
  fixed : ∀ nodeId a, (cluster geo positions radiusKm).identities.get? nodeId = some a →
    (cluster geo positions radiusKm).identities.get? a = some a ∧
      (cluster geo positions radiusKm).joined.get? a = none
  together : ∀ i j p q, positions.get? i = some p → positions.get? j = some q → siteKey p = siteKey q →
    (cluster geo positions radiusKm).identities.get? i = (cluster geo positions radiusKm).identities.get? j

/-! ### The nearest anchor is within the radius -/

theorem nearer_within {start : Option Nearest} (anchors : List (String × Position)) (position : Position)
    (within : ∀ b, start = some b → kmBetween geo position b.position ≤ radiusKm)
    (found : anchors.foldl (nearer geo radiusKm position) start = some best) :
    kmBetween geo position best.position ≤ radiusKm := by
  induction anchors generalizing start with
  | nil => exact within best found
  | cons anchor rest ih =>
    refine ih ?_ found
    intro b here
    simp only [nearer] at here
    split at here
    · exact within b here
    · split at here
      · rename_i closer
        rw [← Option.some.inj here]
        exact closer.1
      · exact within b here

theorem nearestAnchor_within (found : nearestAnchor geo radiusKm anchors position = some best) :
    kmBetween geo position best.position ≤ radiusKm := by
  rw [nearestAnchor] at found
  split at found
  · exact nearer_within geo radiusKm anchors position (fun _ none_yet => by cases none_yet) found
  · cases found

/-! ### The first pass -/

theorem anchors_foldl_placeGroup (groups : List (String × List String)) (c : Clustering) :
    (groups.foldl (placeGroup positions) c).anchors =
      c.anchors ++ groups.map fun g => (g.1, positionOf positions g.1) := by
  induction groups generalizing c with
  | nil => simp
  | cons g rest ih => simp [ih, placeGroup]

theorem placeGroups_anchors :
    (placeGroups positions).anchors = (exactGroups positions).map fun g => (g.1, positionOf positions g.1) := by
  rw [placeGroups, anchors_foldl_placeGroup, List.nil_append]

theorem placeGroups_joined : (placeGroups positions).joined = Dict.empty := (groups_placed positions).unjoined

/-- After the first pass the nodes of the groups, and they alone, are under their lowest ids. -/
theorem placeGroups_identities : (placeGroups positions).identities.get? nodeId = some a ↔
    ∃ key, 1 < (members positions key).length ∧ nodeId ∈ members positions key ∧ a = lowestId (members positions key) := by
  constructor
  · intro found
    obtain ⟨g, listed, here, rfl⟩ := (groups_placed positions).identified nodeId a found
    obtain ⟨key, many, rfl⟩ := (mem_exactGroups positions).mp listed
    exact ⟨key, many, here, rfl⟩
  · rintro ⟨key, many, here, rfl⟩
    exact ((groups_placed_only positions).grouped key many nodeId here).1

theorem placeGroups_seated : Seated geo positions radiusKm (placeGroups positions) := by
  constructor
  · intro anchor listed
    rw [placeGroups_anchors] at listed
    obtain ⟨g, member, rfl⟩ := List.mem_map.mp listed
    obtain ⟨key, many, rfl⟩ := (mem_exactGroups positions).mp member
    have lowest := lowestId_mem (List.ne_nil_of_length_pos (Nat.zero_lt_of_lt many))
    refine ⟨get?_of_member positions lowest, (placeGroups_identities positions).mpr ⟨key, many, lowest, rfl⟩, ?_⟩
    rw [placeGroups_joined]
    rfl
  · intro nodeId a found
    obtain ⟨key, many, here, rfl⟩ := (placeGroups_identities positions).mp found
    obtain ⟨p, at_p, key_p⟩ := (mem_members positions).mp here
    have lowest := lowestId_mem (List.ne_nil_of_mem here)
    obtain ⟨q, at_q, key_q⟩ := (mem_members positions).mp lowest
    refine ⟨p, q, at_p, ?_, .inl ⟨by rw [placeGroups_joined]; rfl, key_p.trans key_q.symm⟩⟩
    rw [placeGroups_anchors, List.mem_map]
    exact ⟨_, (mem_exactGroups positions).mpr ⟨key, many, rfl⟩, by rw [get?_positionOf positions at_q]⟩
  · intro nodeId _
    rw [placeGroups_joined]
    rfl

/-! ### The second pass -/

theorem ne_of_unidentified {c : Clustering} (new : c.identities.get? nodeId = none) (found : c.identities.get? other = some a) :
    nodeId ≠ other := by
  rintro rfl
  cases new.symm.trans found

/-- A node with no anchor to join becomes one. -/
theorem Seated.opened (before : Seated geo positions radiusKm c) (placed : positions.get? nodeId = some p)
    (new : c.identities.get? nodeId = none) :
    Seated geo positions radiusKm
      { c with anchors := c.anchors ++ [(nodeId, p)], identities := c.identities.insert nodeId nodeId } := by
  have unjoined := before.unidentified nodeId new
  constructor
  · intro anchor listed
    rcases List.mem_append.mp listed with earlier | last
    · obtain ⟨at_anchor, own, free⟩ := before.seat anchor earlier
      exact ⟨at_anchor, by rw [Dict.get?_insert_ne _ _ (ne_of_unidentified new own), own], free⟩
    · rw [List.mem_singleton.mp last]
      exact ⟨placed, Dict.get?_insert_self _ _ _, unjoined⟩
  · intro other a found
    rw [Dict.get?_insert] at found
    split at found
    · rename_i same
      subst same
      rw [← Option.some.inj found]
      exact ⟨p, p, placed, by simp, .inl ⟨unjoined, rfl⟩⟩
    · obtain ⟨p', q, at_p', listed, published⟩ := before.identified other a found
      exact ⟨p', q, at_p', List.mem_append_left _ listed, published⟩
  · intro other missing
    rw [Dict.get?_insert] at missing
    split at missing
    · cases missing
    · exact before.unidentified other missing

/-- A node may join an anchor within the radius. -/
theorem Seated.joining (before : Seated geo positions radiusKm c) (placed : positions.get? nodeId = some p)
    (new : c.identities.get? nodeId = none) (anchored : (a, q) ∈ c.anchors) (within : kmBetween geo p q ≤ radiusKm) :
    Seated geo positions radiusKm
      { c with identities := c.identities.insert nodeId a, joined := c.joined.insert nodeId q } := by
  constructor
  · intro anchor listed
    obtain ⟨at_anchor, own, free⟩ := before.seat anchor listed
    exact ⟨at_anchor, by rw [Dict.get?_insert_ne _ _ (ne_of_unidentified new own), own],
      by rw [Dict.get?_insert_ne _ _ (ne_of_unidentified new own), free]⟩
  · intro other a' found
    rw [Dict.get?_insert] at found
    split at found
    · rename_i same
      subst same
      rw [← Option.some.inj found]
      exact ⟨p, q, placed, anchored, .inr ⟨Dict.get?_insert_self _ _ _, within⟩⟩
    · rename_i other_node
      obtain ⟨p', q', at_p', listed, published⟩ := before.identified other a' found
      refine ⟨p', q', at_p', listed, ?_⟩
      rwa [PublishedFrom, Dict.get?_insert_ne _ _ other_node]
  · intro other missing
    rw [Dict.get?_insert] at missing
    split at missing
    · cases missing
    · rename_i other_node
      rw [Dict.get?_insert_ne _ _ other_node]
      exact before.unidentified other missing

/-- A node no anchor holds yet joins the nearest one, or becomes one. -/
theorem Seated.single (before : Seated geo positions radiusKm c) (placed : positions.get? nodeId = some p)
    (new : c.identities.get? nodeId = none) :
    Seated geo positions radiusKm (placeSingle geo positions radiusKm c nodeId) := by
  simp only [placeSingle, get?_positionOf positions placed]
  cases nearest : nearestAnchor geo radiusKm c.anchors p with
  | none => exact before.opened geo positions radiusKm placed new
  | some best =>
    exact before.joining geo positions radiusKm placed new (nearestAnchor_mem geo radiusKm nearest)
      (nearestAnchor_within geo radiusKm nearest)

theorem placeSingle_identifies (c : Clustering) (nodeId other : String) :
    (placeSingle geo positions radiusKm c nodeId).identities.get? other = none ↔
      nodeId ≠ other ∧ c.identities.get? other = none := by
  have insert (a : String) : (c.identities.insert nodeId a).get? other = none ↔
      nodeId ≠ other ∧ c.identities.get? other = none := by
    rw [Dict.get?_insert]
    split <;> simp_all
  simp only [placeSingle]
  split
  · exact insert nodeId
  · exact insert _

/-- The nodes without an identity after lone nodes are placed: not among those, and without one before. -/
theorem identifies_foldl (nodeIds : List String) (c : Clustering) (other : String) :
    (nodeIds.foldl (placeSingle geo positions radiusKm) c).identities.get? other = none ↔
      other ∉ nodeIds ∧ c.identities.get? other = none := by
  induction nodeIds generalizing c with
  | nil => simp
  | cons nodeId rest ih =>
    rw [List.foldl_cons, ih, placeSingle_identifies, List.mem_cons, not_or, eq_comm (a := other)]
    exact ⟨fun ⟨later, here, missing⟩ => ⟨⟨here, later⟩, missing⟩, fun ⟨⟨here, later⟩, missing⟩ => ⟨later, here, missing⟩⟩

theorem Seated.foldl (before : Seated geo positions radiusKm c) (nodeIds : List String) (distinct : nodeIds.Nodup)
    (placed : ∀ nodeId ∈ nodeIds, positions.get? nodeId ≠ none)
    (new : ∀ nodeId ∈ nodeIds, c.identities.get? nodeId = none) :
    Seated geo positions radiusKm (nodeIds.foldl (placeSingle geo positions radiusKm) c) := by
  induction nodeIds generalizing c with
  | nil => exact before
  | cons nodeId rest ih =>
    obtain ⟨unlisted, distinct⟩ := List.nodup_cons.mp distinct
    obtain ⟨placed_here, placed_later⟩ := List.forall_mem_cons.mp placed
    obtain ⟨new_here, new_later⟩ := List.forall_mem_cons.mp new
    obtain ⟨p, at_p⟩ := Option.ne_none_iff_exists'.mp placed_here
    refine ih (before.single geo positions radiusKm at_p new_here) distinct placed_later ?_
    intro other listed
    refine (placeSingle_identifies geo positions radiusKm c nodeId other).mpr ⟨?_, new_later other listed⟩
    rintro rfl
    exact unlisted listed

theorem single_ungrouped (lone : nodeId ∈ singles positions) : (placeGroups positions).identities.get? nodeId = none := by
  obtain ⟨key, alone⟩ := (mem_singles positions).mp lone
  rw [Option.eq_none_iff_forall_ne_some]
  intro a found
  obtain ⟨key', many, here, -⟩ := (placeGroups_identities positions).mp found
  have member : nodeId ∈ members positions key := by simp [alone]
  rw [← members_key_unique positions member here, alone] at many
  exact absurd many (by simp)

theorem single_placed (lone : nodeId ∈ singles positions) : positions.get? nodeId ≠ none := by
  obtain ⟨key, alone⟩ := (mem_singles positions).mp lone
  have member : nodeId ∈ members positions key := by simp [alone]
  rw [get?_of_member positions member]
  simp

theorem exists_position_of_single (lone : nodeId ∈ singles positions) : ∃ p, positions.get? nodeId = some p :=
  Option.ne_none_iff_exists'.mp (single_placed positions lone)

theorem cluster_seated : Seated geo positions radiusKm (cluster geo positions radiusKm) :=
  (placeGroups_seated geo positions radiusKm).foldl geo positions radiusKm (singles positions) (singles_nodup positions)
    (fun _ lone => single_placed positions lone) fun _ lone => single_ungrouped positions lone

/-- A node that is not one of many is by itself. -/
theorem eq_singleton_of_few {ids : List String} (few : ¬ 1 < ids.length) (member : nodeId ∈ ids) : ids = [nodeId] := by
  obtain ⟨only, alone⟩ := List.length_eq_one_iff.mp (Nat.le_antisymm (Nat.le_of_not_lt few) (List.length_pos_of_mem member))
  rw [alone, List.mem_singleton] at member
  rw [alone, member]

/-- A placed node is in a group or alone at its key. -/
theorem grouped_or_single (placed : positions.get? nodeId = some p) :
    (placeGroups positions).identities.get? nodeId = some (lowestId (members positions (siteKey p))) ∨
      nodeId ∈ singles positions := by
  have member : nodeId ∈ members positions (siteKey p) := (mem_members positions).mpr ⟨p, placed, rfl⟩
  by_cases many : 1 < (members positions (siteKey p)).length
  · exact .inl ((placeGroups_identities positions).mpr ⟨siteKey p, many, member, rfl⟩)
  · exact .inr ((mem_singles positions).mpr ⟨siteKey p, eq_singleton_of_few many member⟩)

theorem cluster_identified (placed : positions.get? nodeId = some p) :
    (cluster geo positions radiusKm).identities.get? nodeId ≠ none := by
  rw [cluster, ne_eq, identifies_foldl]
  rintro ⟨not_single, ungrouped⟩
  rcases grouped_or_single positions placed with grouped | lone
  · cases ungrouped.symm.trans grouped
  · exact not_single lone

/-! ### The order of the positions -/

variable {positions} {positions' : Dict String Position}

theorem members_perm (perm : positions.items.Perm positions'.items) (key : Position) :
    (members positions key).Perm (members positions' key) :=
  (perm.filter _).map _

theorem lowestId_perm (perm : ids.Perm ids') : lowestId ids = lowestId ids' := by
  have same : ids.min? = ids'.min? := by
    apply Option.ext
    intro least
    simp only [List.min?_eq_some_iff, perm.mem_iff]
  rw [lowestId, lowestId, same]

theorem positionOf_perm (perm : positions.items.Perm positions'.items) (nodeId : String) :
    positionOf positions nodeId = positionOf positions' nodeId := by
  rw [positionOf, positionOf, Dict.get?_of_perm perm]

/-- A list in order without repeats is its members. -/
theorem eq_of_sorted {l l' : List String} (sorted : l.Pairwise (· ≤ ·)) (sorted' : l'.Pairwise (· ≤ ·))
    (distinct : l.Nodup) (distinct' : l'.Nodup) (same : ∀ x, x ∈ l ↔ x ∈ l') : l = l' :=
  ((List.perm_ext_iff_of_nodup distinct distinct').mpr same).eq_of_pairwise' sorted sorted'

theorem singles_perm (perm : positions.items.Perm positions'.items) : singles positions = singles positions' := by
  apply eq_of_sorted
  · exact List.pairwise_insertionSort _ _
  · exact List.pairwise_insertionSort _ _
  · exact singles_nodup positions
  · exact singles_nodup positions'
  · intro nodeId
    rw [mem_singles, mem_singles]
    apply exists_congr
    intro key
    constructor
    · intro alone
      exact List.perm_singleton.mp (alone ▸ (members_perm perm key).symm)
    · intro alone
      exact List.perm_singleton.mp (alone ▸ members_perm perm key)

theorem groupIds_nodup (positions : Dict String Position) : ((exactGroups positions).map Prod.fst).Nodup := by
  rw [exactGroups, ((List.perm_insertionSort _ _).map Prod.fst).nodup_iff, List.map_map, Dict.values, List.filter_map,
    List.map_map]
  refine List.pairwise_map.mpr (((List.pairwise_map.mp (bySite positions).nodup).filter _).imp_of_mem ?_)
  intro item item' listed listed' other_key same
  -- Two groups with one lowest id would both hold it.
  have inside : ∀ {item : Position × List String}, item ∈ (bySite positions).items.filter
      ((fun ids => decide (1 < ids.length)) ∘ Prod.snd) → lowestId item.2 ∈ members positions item.1 := by
    intro item listed
    obtain ⟨listed, many⟩ := List.mem_filter.mp listed
    have filed := bySite_get? positions ((Dict.get?_eq_some_iff _ _ _).mpr listed)
    rw [← filed]
    exact lowestId_mem (List.ne_nil_of_length_pos (Nat.zero_lt_of_lt (of_decide_eq_true many)))
  have here := inside listed
  simp only [Function.comp_apply] at same
  rw [same] at here
  exact other_key (members_key_unique positions here (inside listed'))

theorem groupIds_sorted (positions : Dict String Position) : ((exactGroups positions).map Prod.fst).Pairwise (· ≤ ·) :=
  List.pairwise_map.mpr (List.pairwise_insertionSort _ _)

theorem groupIds_mem : a ∈ (exactGroups positions).map Prod.fst ↔
    ∃ key, 1 < (members positions key).length ∧ a = lowestId (members positions key) := by
  constructor
  · intro listed
    obtain ⟨g, member, rfl⟩ := List.mem_map.mp listed
    obtain ⟨key, many, rfl⟩ := (mem_exactGroups positions).mp member
    exact ⟨key, many, rfl⟩
  · rintro ⟨key, many, rfl⟩
    exact List.mem_map.mpr ⟨_, (mem_exactGroups positions).mpr ⟨key, many, rfl⟩, rfl⟩

theorem groupIds_perm (perm : positions.items.Perm positions'.items) :
    (exactGroups positions).map Prod.fst = (exactGroups positions').map Prod.fst := by
  refine eq_of_sorted (groupIds_sorted _) (groupIds_sorted _) (groupIds_nodup _) (groupIds_nodup _) ?_
  intro a
  simp only [groupIds_mem, (members_perm perm _).length_eq, lowestId_perm (members_perm perm _)]

/-- Two runs that agree on every node, and on the anchors in their order. -/
structure SameSites (c c' : Clustering) : Prop where
  identities : ∀ nodeId, c.identities.get? nodeId = c'.identities.get? nodeId
  joined : ∀ nodeId, c.joined.get? nodeId = c'.joined.get? nodeId
  anchors : c.anchors = c'.anchors

theorem placeGroups_perm (perm : positions.items.Perm positions'.items) :
    SameSites (placeGroups positions) (placeGroups positions') := by
  constructor
  · intro nodeId
    apply Option.ext
    intro a
    simp only [placeGroups_identities, (members_perm perm _).length_eq, (members_perm perm _).mem_iff,
      lowestId_perm (members_perm perm _)]
  · intro nodeId
    rw [placeGroups_joined, placeGroups_joined]
  · have anchors : ∀ p : Dict String Position, (placeGroups p).anchors =
        ((exactGroups p).map Prod.fst).map fun a => (a, positionOf p a) := by
      intro p
      rw [placeGroups_anchors, List.map_map]
      rfl
    rw [anchors, anchors, groupIds_perm perm]
    simp only [positionOf_perm perm]

theorem SameSites.single (same : SameSites c c') (perm : positions.items.Perm positions'.items) (nodeId : String) :
    SameSites (placeSingle geo positions radiusKm c nodeId) (placeSingle geo positions' radiusKm c' nodeId) := by
  simp only [placeSingle, ← positionOf_perm perm, ← same.anchors]
  split
  · constructor
    · intro other
      simp only [Dict.get?_insert, same.identities]
    · exact same.joined
    · rfl
  · constructor
    · intro other
      simp only [Dict.get?_insert, same.identities]
    · intro other
      simp only [Dict.get?_insert, same.joined]
    · rfl

theorem SameSites.foldl (same : SameSites c c') (perm : positions.items.Perm positions'.items) (nodeIds : List String) :
    SameSites (nodeIds.foldl (placeSingle geo positions radiusKm) c)
      (nodeIds.foldl (placeSingle geo positions' radiusKm) c') := by
  induction nodeIds generalizing c c' with
  | nil => exact same
  | cons nodeId rest ih => exact ih (same.single geo radiusKm perm nodeId)

theorem cluster_perm (perm : positions.items.Perm positions'.items) :
    SameSites (cluster geo positions radiusKm) (cluster geo positions' radiusKm) := by
  rw [cluster, cluster, singles_perm perm]
  exact (placeGroups_perm perm).foldl geo radiusKm perm (singles positions')

/-! ### The partition -/

variable (positions)

/-- The clusters do not depend on the order of the positions; every placed node has one anchor, placed
and its own, within the radius where the node was joined to it; nodes at one key share theirs. -/
theorem cluster_canonical : CanonicalPartition geo positions radiusKm := by
  have seated := cluster_seated geo positions radiusKm
  constructor
  · intro positions' perm nodeId
    have same := cluster_perm geo radiusKm perm
    exact ⟨same.identities nodeId, same.joined nodeId⟩
  · intro nodeId p placed
    obtain ⟨a, found⟩ := Option.ne_none_iff_exists'.mp (cluster_identified geo positions radiusKm placed)
    obtain ⟨p', q, at_p', listed, published⟩ := seated.identified nodeId a found
    rw [← Option.some.inj (placed.symm.trans at_p')] at published
    exact ⟨a, q, found, (seated.seat _ listed).1, published⟩
  · intro nodeId unplaced
    have missing : (cluster geo positions radiusKm).identities.get? nodeId = none := by
      rw [Option.eq_none_iff_forall_ne_some]
      intro a found
      obtain ⟨p, -, placed, -⟩ := seated.identified nodeId a found
      cases unplaced.symm.trans placed
    exact ⟨missing, seated.unidentified nodeId missing⟩
  · intro nodeId a found
    obtain ⟨-, q, -, listed, -⟩ := seated.identified nodeId a found
    exact (seated.seat _ listed).2
  · intro i j p q at_i at_j same_key
    by_cases same : i = j
    · rw [same]
    · obtain ⟨done, sites⟩ := cluster_placed geo positions radiusKm
      have member_i : i ∈ members positions (siteKey p) := (mem_members positions).mpr ⟨p, at_i, rfl⟩
      have member_j : j ∈ members positions (siteKey p) := (mem_members positions).mpr ⟨q, at_j, same_key.symm⟩
      have many : 1 < (members positions (siteKey p)).length := by
        by_contra few
        rw [eq_singleton_of_few few member_i, List.mem_singleton] at member_j
        exact same member_j.symm
      rw [(sites.grouped _ many i member_i).1, (sites.grouped _ many j member_j).1]

end Retina.Sites
