import RetinaServer.Sites.Partition

/-! What the second pass decides for a lone node, said of the finished sites: it is under the
preferred one of the anchors ahead of it within the radius, or its own anchor where there is none. -/
namespace Retina.Sites

variable (geo : Geodesy) (positions : Dict String Position) (radiusKm : ℚ)

/-- The order of placement: the anchors of groups, then the lone nodes, each kind by id. -/
def Ahead (a b : String) : Prop :=
  a ∉ singles positions ∧ b ∈ singles positions ∨ (a ∈ singles positions ↔ b ∈ singles positions) ∧ a < b

/-- An anchor at `q` that the scan for a node at `p` does not pass by. -/
def Reached (p q : Position) : Prop := |q.1 - p.1| ≤ latGate geo radiusKm ∧ kmBetween geo p q ≤ radiusKm

/-- The scan for a node at `p` takes the first of these two anchors before the second. -/
def Preferred (p : Position) (a b : String × Position) : Prop :=
  kmBetween geo p a.2 < kmBetween geo p b.2 ∨
    kmBetween geo p a.2 = kmBetween geo p b.2 ∧ Ahead positions a.1 b.1

/-- An anchor of the sites. -/
def IsAnchor (c : Clustering) (a : String × Position) : Prop :=
  positions.get? a.1 = some a.2 ∧ c.identities.get? a.1 = some a.1

/-- An anchor a lone node at `p` can join. -/
def Candidate (c : Clustering) (nodeId : String) (p : Position) (a : String × Position) : Prop :=
  IsAnchor positions c a ∧ Ahead positions a.1 nodeId ∧ 0 < radiusKm ∧ Reached geo radiusKm p a.2

/-- The rule of a lone node. -/
def Decided (c : Clustering) (nodeId : String) (p : Position) : Prop :=
  (c.identities.get? nodeId = some nodeId ∧ c.joined.get? nodeId = none ∧
    ∀ a, ¬ Candidate geo positions radiusKm c nodeId p a) ∨
  ∃ a, Candidate geo positions radiusKm c nodeId p a ∧ c.identities.get? nodeId = some a.1 ∧
    c.joined.get? nodeId = some a.2 ∧
    ∀ b, Candidate geo positions radiusKm c nodeId p b → b = a ∨ Preferred geo positions p a b

theorem Ahead.irrefl (a : String) : ¬ Ahead positions a a := by
  rintro (⟨group, lone⟩ | ⟨-, below⟩)
  · exact group lone
  · exact lt_irrefl a below

theorem Ahead.trans (first : Ahead positions a b) (second : Ahead positions b c) : Ahead positions a c := by
  rcases first with ⟨group, lone⟩ | ⟨kind, below⟩ <;> rcases second with ⟨group', lone'⟩ | ⟨kind', below'⟩
  · exact absurd lone group'
  · exact .inl ⟨group, kind'.mp lone⟩
  · exact .inl ⟨fun lone => group' (kind.mp lone), lone'⟩
  · exact .inr ⟨kind.trans kind', below.trans below'⟩

theorem Preferred.asymm (first : Preferred geo positions p a b) : ¬ Preferred geo positions p b a := by
  rintro (nearer | ⟨tie, ahead⟩)
  · rcases first with nearer' | ⟨tie', -⟩
    · exact lt_asymm nearer nearer'
    · exact nearer.ne tie'.symm
  · rcases first with nearer' | ⟨-, ahead'⟩
    · exact nearer'.ne tie.symm
    · exact Ahead.irrefl positions _ (ahead.trans positions ahead')

/-! ### The scan -/

/-- What the scan holds after the anchors `scanned`: the one reached that is preferred to the others. -/
def BestOf (S : String × Position → String × Position → Prop) (p : Position) (scanned : List (String × Position)) :
    Option Nearest → Prop
  | none => ∀ a ∈ scanned, ¬ Reached geo radiusKm p a.2
  | some best => (best.anchor, best.position) ∈ scanned ∧ best.gap = kmBetween geo p best.position ∧
      Reached geo radiusKm p best.position ∧ ∀ a ∈ scanned, Reached geo radiusKm p a.2 →
        a = (best.anchor, best.position) ∨ best.gap < kmBetween geo p a.2 ∨
          best.gap = kmBetween geo p a.2 ∧ S (best.anchor, best.position) a

variable {S : String × Position → String × Position → Prop}

/-- An anchor that is passed by, or no nearer, leaves the best. -/
theorem BestOf.keep (before : BestOf geo radiusKm S p scanned best) (later : ∀ a ∈ scanned, S a anchor)
    (no_nearer : Reached geo radiusKm p anchor.2 → ∃ b, best = some b ∧ b.gap ≤ kmBetween geo p anchor.2) :
    BestOf geo radiusKm S p (scanned ++ [anchor]) best := by
  cases best with
  | none =>
    intro a listed reached
    rcases List.mem_append.mp listed with earlier | last
    · exact before a earlier reached
    · obtain ⟨b, some_best, -⟩ := no_nearer (List.mem_singleton.mp last ▸ reached)
      cases some_best
  | some b =>
    obtain ⟨listed, gap, reached, least⟩ := before
    refine ⟨List.mem_append_left _ listed, gap, reached, ?_⟩
    intro a listed' reached'
    rcases List.mem_append.mp listed' with earlier | last
    · exact least a earlier reached'
    · rw [List.mem_singleton.mp last] at reached' ⊢
      obtain ⟨b', same, below⟩ := no_nearer reached'
      rw [← Option.some.inj same] at below
      rcases below.lt_or_eq with nearer | tie
      · exact .inr (.inl nearer)
      · exact .inr (.inr ⟨tie, later _ listed⟩)

theorem BestOf.take (before : BestOf geo radiusKm S p scanned best) (reached : Reached geo radiusKm p anchor.2)
    (nearer : ∀ b, best = some b → kmBetween geo p anchor.2 < b.gap) :
    BestOf geo radiusKm S p (scanned ++ [anchor]) (some ⟨kmBetween geo p anchor.2, anchor.1, anchor.2⟩) := by
  refine ⟨by simp, rfl, reached, ?_⟩
  intro a listed reached'
  rcases List.mem_append.mp listed with earlier | last
  · cases best with
    | none => exact absurd reached' (before a earlier)
    | some b =>
      obtain ⟨-, gap, -, least⟩ := before
      refine .inr (.inl ((nearer b rfl).trans_le ?_))
      rcases least a earlier reached' with rfl | further | ⟨tie, -⟩
      · exact gap.le
      · exact further.le
      · exact tie.le
  · exact .inl (List.mem_singleton.mp last)

theorem BestOf.step (before : BestOf geo radiusKm S p scanned best) (later : ∀ a ∈ scanned, S a anchor) :
    BestOf geo radiusKm S p (scanned ++ [anchor]) (nearer geo radiusKm p best anchor) := by
  simp only [nearer]
  split
  · rename_i gated
    exact before.keep geo radiusKm later fun reached => absurd reached.1 (not_le.mpr gated)
  · rename_i open_gate
    split
    · rename_i closer
      refine before.take geo radiusKm ⟨not_lt.mp open_gate, closer.1⟩ ?_
      rintro b rfl
      exact of_decide_eq_true closer.2
    · rename_i no_closer
      refine before.keep geo radiusKm later fun reached => ?_
      cases best with
      | none => exact absurd ⟨reached.2, rfl⟩ no_closer
      | some b =>
        refine ⟨b, rfl, le_of_not_gt fun below => no_closer ⟨reached.2, decide_eq_true below⟩⟩

theorem BestOf.foldl (before : BestOf geo radiusKm S p scanned best) (rest : List (String × Position))
    (ordered : (scanned ++ rest).Pairwise S) :
    BestOf geo radiusKm S p (scanned ++ rest) (rest.foldl (nearer geo radiusKm p) best) := by
  induction rest generalizing scanned best with
  | nil => simpa using before
  | cons anchor rest ih =>
    have later : ∀ a ∈ scanned, S a anchor :=
      fun a listed => (List.pairwise_append.mp ordered).2.2 a listed anchor List.mem_cons_self
    have next := ih (before.step geo radiusKm later) (by simpa using ordered)
    rwa [List.append_assoc, List.singleton_append] at next

/-- Over anchors in order, the scan finds the preferred one of those it reaches. -/
theorem nearestAnchor_best (reach : 0 < radiusKm) (anchors : List (String × Position)) (ordered : anchors.Pairwise S) :
    BestOf geo radiusKm S p anchors (nearestAnchor geo radiusKm anchors p) := by
  rw [nearestAnchor, if_pos reach]
  have nothing : BestOf geo radiusKm S p [] none := by simp [BestOf]
  exact nothing.foldl geo radiusKm anchors (by simpa using ordered)

/-! ### The anchors ahead of a lone node -/

theorem anchors_foldl (nodeIds : List String) (c : Clustering) :
    ∃ later, (nodeIds.foldl (placeSingle geo positions radiusKm) c).anchors = c.anchors ++ later ∧
      (later.map Prod.fst).Sublist nodeIds := by
  induction nodeIds generalizing c with
  | nil => exact ⟨[], by simp, List.Sublist.slnil⟩
  | cons nodeId rest ih =>
    obtain ⟨later, anchors, listed⟩ := ih (placeSingle geo positions radiusKm c nodeId)
    rw [List.foldl_cons, anchors]
    simp only [placeSingle]
    split
    · exact ⟨(nodeId, positionOf positions nodeId) :: later, by simp, listed.cons_cons nodeId⟩
    · exact ⟨later, rfl, listed.cons nodeId⟩

theorem placeSingle_unmoved (c : Clustering) (other : nodeId ≠ z) :
    (placeSingle geo positions radiusKm c nodeId).identities.get? z = c.identities.get? z ∧
      (placeSingle geo positions radiusKm c nodeId).joined.get? z = c.joined.get? z := by
  simp only [placeSingle]
  split
  · exact ⟨Dict.get?_insert_ne _ _ other, rfl⟩
  · exact ⟨Dict.get?_insert_ne _ _ other, Dict.get?_insert_ne _ _ other⟩

theorem unmoved_foldl (nodeIds : List String) (c : Clustering) (unlisted : z ∉ nodeIds) :
    (nodeIds.foldl (placeSingle geo positions radiusKm) c).identities.get? z = c.identities.get? z ∧
      (nodeIds.foldl (placeSingle geo positions radiusKm) c).joined.get? z = c.joined.get? z := by
  induction nodeIds generalizing c with
  | nil => exact ⟨rfl, rfl⟩
  | cons nodeId rest ih =>
    obtain ⟨here, later⟩ := not_or.mp (mt List.mem_cons.mpr unlisted)
    have step := placeSingle_unmoved geo positions radiusKm c (Ne.symm here)
    have run := ih (placeSingle geo positions radiusKm c nodeId) later
    exact ⟨run.1.trans step.1, run.2.trans step.2⟩

theorem isAnchor_iff : IsAnchor positions (cluster geo positions radiusKm) a ↔ a ∈ (cluster geo positions radiusKm).anchors := by
  have seated := cluster_seated geo positions radiusKm
  constructor
  · rintro ⟨placed, own⟩
    obtain ⟨-, q, -, listed, -⟩ := seated.identified _ _ own
    have same := Option.some.inj ((seated.seat _ listed).1.symm.trans placed)
    rw [show a = (a.1, q) from Prod.ext rfl same.symm]
    exact listed
  · intro listed
    exact ⟨(seated.seat a listed).1, (seated.seat a listed).2.1⟩

theorem singles_sorted : (singles positions).Pairwise (· < ·) :=
  ((List.pairwise_insertionSort (· ≤ ·) _).and (singles_nodup positions)).imp fun both => lt_of_le_of_ne both.1 both.2

theorem groupId_not_single (listed : g ∈ exactGroups positions) : g.1 ∉ singles positions := by
  intro lone
  obtain ⟨key, many, rfl⟩ := (mem_exactGroups positions).mp listed
  have lowest := lowestId_mem (List.ne_nil_of_length_pos (Nat.zero_lt_of_lt many))
  cases (single_ungrouped positions lone).symm.trans
    ((placeGroups_identities positions).mpr ⟨key, many, lowest, rfl⟩)

theorem groupAnchor_not_single (listed : a ∈ (placeGroups positions).anchors) : a.1 ∉ singles positions := by
  rw [placeGroups_anchors] at listed
  obtain ⟨g, member, rfl⟩ := List.mem_map.mp listed
  exact groupId_not_single positions member

/-- The anchors of groups, in the order of their ids. -/
theorem placeGroups_ordered : (placeGroups positions).anchors.Pairwise fun a b => Ahead positions a.1 b.1 := by
  have ascending : (exactGroups positions).Pairwise fun g g' => g.1 < g'.1 :=
    ((List.pairwise_map.mp (groupIds_sorted positions)).and (List.pairwise_map.mp (groupIds_nodup positions))).imp
      fun both => lt_of_le_of_ne both.1 both.2
  rw [placeGroups_anchors]
  refine List.pairwise_map.mpr (ascending.imp_of_mem ?_)
  intro g g' listed listed' below
  exact .inr ⟨iff_of_false (groupId_not_single positions listed) (groupId_not_single positions listed'), below⟩

theorem anchors_ordered : (cluster geo positions radiusKm).anchors.Pairwise fun a b => Ahead positions a.1 b.1 := by
  obtain ⟨later, anchors, listed⟩ := anchors_foldl geo positions radiusKm (singles positions) (placeGroups positions)
  have lone : ∀ a ∈ later, a.1 ∈ singles positions := fun a member => listed.subset (List.mem_map_of_mem member)
  rw [cluster, anchors, List.pairwise_append]
  refine ⟨placeGroups_ordered positions, ?_, ?_⟩
  · refine (List.pairwise_map.mp ((singles_sorted positions).sublist listed)).imp_of_mem ?_
    intro a b member member' below
    exact .inr ⟨iff_of_true (lone a member) (lone b member'), below⟩
  · intro a member b member'
    exact .inl ⟨groupAnchor_not_single positions member, lone b member'⟩

/-- At a lone node's turn the anchors placed are those ahead of it. -/
theorem mem_anchors_at_turn (turn : singles positions = earlier ++ nodeId :: later) :
    a ∈ (earlier.foldl (placeSingle geo positions radiusKm) (placeGroups positions)).anchors ↔
      a ∈ (cluster geo positions radiusKm).anchors ∧ Ahead positions a.1 nodeId := by
  obtain ⟨before, anchors_before, listed_before⟩ := anchors_foldl geo positions radiusKm earlier (placeGroups positions)
  obtain ⟨after, anchors_after, listed_after⟩ := anchors_foldl geo positions radiusKm (nodeId :: later)
    (earlier.foldl (placeSingle geo positions radiusKm) (placeGroups positions))
  have sorted := singles_sorted positions
  rw [turn, List.pairwise_append] at sorted
  obtain ⟨-, sorted_later, across⟩ := sorted
  have lone : nodeId ∈ singles positions := by simp [turn]
  rw [cluster, turn, List.foldl_append, anchors_after]
  constructor
  · intro placed
    refine ⟨List.mem_append_left _ placed, ?_⟩
    rw [anchors_before] at placed
    rcases List.mem_append.mp placed with group | single
    · exact .inl ⟨groupAnchor_not_single positions group, lone⟩
    · have member : a.1 ∈ earlier := listed_before.subset (List.mem_map_of_mem single)
      exact .inr ⟨iff_of_true (by simp [turn, member]) lone, across _ member _ List.mem_cons_self⟩
  · rintro ⟨placed, ahead⟩
    rcases List.mem_append.mp placed with at_turn | behind
    · exact at_turn
    · have member : a.1 ∈ nodeId :: later := listed_after.subset (List.mem_map_of_mem behind)
      have own : a.1 ∈ singles positions := by simp [turn, List.mem_cons.mp member]
      rcases ahead with ⟨group, -⟩ | ⟨-, below⟩
      · exact absurd own group
      · rcases List.mem_cons.mp member with same | further
        · exact absurd same below.ne
        · exact absurd below (lt_asymm (List.rel_of_pairwise_cons sorted_later further))

theorem candidate_iff (turn : singles positions = earlier ++ nodeId :: later) :
    Candidate geo positions radiusKm (cluster geo positions radiusKm) nodeId p a ↔
      a ∈ (earlier.foldl (placeSingle geo positions radiusKm) (placeGroups positions)).anchors ∧
        0 < radiusKm ∧ Reached geo radiusKm p a.2 := by
  rw [Candidate, isAnchor_iff, mem_anchors_at_turn geo positions radiusKm turn, and_assoc]

/-- One turn, over the anchors it finds. -/
theorem placeSingle_decides (ordered : c.anchors.Pairwise fun a b => Ahead positions a.1 b.1)
    (placed : positions.get? nodeId = some p) (unjoined : c.joined.get? nodeId = none) :
    ((placeSingle geo positions radiusKm c nodeId).identities.get? nodeId = some nodeId ∧
      (placeSingle geo positions radiusKm c nodeId).joined.get? nodeId = none ∧
      ∀ a, ¬ (a ∈ c.anchors ∧ 0 < radiusKm ∧ Reached geo radiusKm p a.2)) ∨
    ∃ a, (a ∈ c.anchors ∧ 0 < radiusKm ∧ Reached geo radiusKm p a.2) ∧
      (placeSingle geo positions radiusKm c nodeId).identities.get? nodeId = some a.1 ∧
      (placeSingle geo positions radiusKm c nodeId).joined.get? nodeId = some a.2 ∧
      ∀ b, b ∈ c.anchors ∧ 0 < radiusKm ∧ Reached geo radiusKm p b.2 → b = a ∨ Preferred geo positions p a b := by
  simp only [placeSingle, get?_positionOf positions placed]
  by_cases reach : 0 < radiusKm
  · have best := nearestAnchor_best geo radiusKm (p := p) reach c.anchors ordered
    cases nearest : nearestAnchor geo radiusKm c.anchors p with
    | none =>
      rw [nearest] at best
      exact .inl ⟨Dict.get?_insert_self _ _ _, unjoined, fun a candidate => best a candidate.1 candidate.2.2⟩
    | some b =>
      rw [nearest] at best
      obtain ⟨listed, gap, reached, least⟩ := best
      refine .inr ⟨(b.anchor, b.position), ⟨listed, reach, reached⟩, Dict.get?_insert_self _ _ _, Dict.get?_insert_self _ _ _, ?_⟩
      intro a candidate
      simpa only [Preferred, gap] using least a candidate.1 candidate.2.2
  · rw [nearestAnchor, if_neg reach]
    exact .inl ⟨Dict.get?_insert_self _ _ _, unjoined, fun a candidate => reach candidate.2.1⟩

/-- Every lone node is under the preferred one of the anchors ahead of it within the radius. -/
theorem single_decided (lone : nodeId ∈ singles positions) (placed : positions.get? nodeId = some p) :
    Decided geo positions radiusKm (cluster geo positions radiusKm) nodeId p := by
  obtain ⟨earlier, later, turn⟩ := List.append_of_mem lone
  have distinct := singles_nodup positions
  rw [turn, List.nodup_append] at distinct
  obtain ⟨-, distinct_later, apart⟩ := distinct
  have ordered : (earlier.foldl (placeSingle geo positions radiusKm) (placeGroups positions)).anchors.Pairwise
      fun a b => Ahead positions a.1 b.1 := by
    obtain ⟨after, anchors, -⟩ := anchors_foldl geo positions radiusKm (nodeId :: later)
      (earlier.foldl (placeSingle geo positions radiusKm) (placeGroups positions))
    have all := anchors_ordered geo positions radiusKm
    rw [cluster, turn, List.foldl_append, anchors] at all
    exact (List.pairwise_append.mp all).1
  have unjoined : (earlier.foldl (placeSingle geo positions radiusKm) (placeGroups positions)).joined.get? nodeId = none := by
    rw [(unmoved_foldl geo positions radiusKm earlier (placeGroups positions)
      fun member => apart _ member _ List.mem_cons_self rfl).2, placeGroups_joined]
    rfl
  have here := placeSingle_decides geo positions radiusKm ordered placed unjoined
  have unmoved := unmoved_foldl geo positions radiusKm later
    (placeSingle geo positions radiusKm (earlier.foldl (placeSingle geo positions radiusKm) (placeGroups positions)) nodeId)
    (List.nodup_cons.mp distinct_later).1
  have final : cluster geo positions radiusKm = later.foldl (placeSingle geo positions radiusKm)
      (placeSingle geo positions radiusKm (earlier.foldl (placeSingle geo positions radiusKm) (placeGroups positions)) nodeId) := by
    rw [cluster, turn, List.foldl_append, List.foldl_cons]
  rw [← unmoved.1, ← unmoved.2, ← final] at here
  simpa only [Decided, candidate_iff geo positions radiusKm turn] using here

end Retina.Sites
