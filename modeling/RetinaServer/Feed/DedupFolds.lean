import RetinaServer.Feed.Dedup

/-! What the collapse keeps: every entry is folded into one survivor, which ranks best among those
folded into it and is seen by exactly their nodes. -/
namespace Retina.Feed
open FirstFit

/-- The survivors of a group with what is folded into each. -/
def foldings (geo : Geodesy) (g : Group) : List Fold :=
  if g.rest = [] then [⟨g.first, [g.first]⟩] else collapse geo g

/-- Everything the feed's entries are folded into. -/
def aircraftFolds (geo : Geodesy) (aircraft : List FeedEntry) : List Fold :=
  (groupAircraft geo aircraft).flatMap (foldings geo)

/-- The winner is one of the entries folded into it, and none of them ranks before it. -/
structure Led (f : Fold) : Prop where
  own : f.winner ∈ f.members
  best : ∀ m ∈ f.members, dedupQualityKey f.winner ≤ dedupQualityKey m

/-- An entry of the output for a fold: its best-ranked entry, under the nodes of all that are folded into it. -/
structure Survives (out : FeedEntry) (f : Fold) : Prop extends Led f where
  entry : ∃ nodes, out = { f.winner with contributingNodeIds := nodes }
  nodes : ∀ n, out.Carries n ↔ ∃ m ∈ f.members, m.Carries n

theorem Led.push (led : Led f) (after : dedupQualityKey f.winner ≤ dedupQualityKey m) : Led (f.push m) := by
  constructor
  · exact List.mem_append_left _ led.own
  · intro m' member
    rcases List.mem_append.mp member with earlier | last
    · exact led.best m' earlier
    · rw [List.mem_singleton.mp last]
      exact after

/-- Entries that come best first leave each fold led by its winner. -/
theorem foldl_foldStep_led (geo : Geodesy) (byIdentity : Bool) {members : List FeedEntry} {folds : List Fold}
    (sorted : members.Pairwise fun a b => dedupQualityKey a ≤ dedupQualityKey b) (led : ∀ f ∈ folds, Led f) (before : ∀ f ∈ folds, ∀ m ∈ members, dedupQualityKey f.winner ≤ dedupQualityKey m) :
    ∀ f ∈ members.foldl (foldStep geo byIdentity) folds, Led f := by
  induction members generalizing folds with
  | nil => exact led
  | cons m rest ih =>
    obtain ⟨first, sorted⟩ := List.pairwise_cons.mp sorted
    have here : ∀ f ∈ folds, dedupQualityKey f.winner ≤ dedupQualityKey m := fun f listed =>
      before f listed m List.mem_cons_self
    refine ih sorted ?_ ?_
    · have both : ∀ f ∈ foldStep geo byIdentity folds m, Led f ∧ dedupQualityKey f.winner ≤ dedupQualityKey m := by
        refine place_forall ⟨⟨List.mem_singleton_self m, ?_⟩, le_rfl⟩ ?_ fun f listed => ⟨led f listed, here f listed⟩
        · intro m' member
          rw [List.mem_singleton.mp member]
        · exact fun f ⟨led, after⟩ => ⟨led.push after, after⟩
      exact fun f listed => (both f listed).1
    · refine place_forall first (fun f ordered => ordered) fun f listed m' member => ?_
      exact before f listed m' (List.mem_cons_of_mem m member)

theorem collapse_led (geo : Geodesy) (g : Group) : ∀ f ∈ collapse geo g, Led f := by
  have total : Std.Total fun a b : FeedEntry => dedupQualityKey a ≤ dedupQualityKey b :=
    ⟨fun a b => le_total (dedupQualityKey a) (dedupQualityKey b)⟩
  have trans : IsTrans FeedEntry fun a b => dedupQualityKey a ≤ dedupQualityKey b := ⟨fun _ _ _ => le_trans⟩
  exact foldl_foldStep_led geo g.truth.isSome (List.pairwise_insertionSort _ g.members) (by simp) (by simp)

theorem foldings_led (geo : Geodesy) (g : Group) : ∀ f ∈ foldings geo g, Led f := by
  rw [foldings]
  split
  · intro f listed
    rw [List.mem_singleton.mp listed]
    refine ⟨List.mem_singleton_self _, fun m member => ?_⟩
    rw [List.mem_singleton.mp member]
  · exact collapse_led geo g

theorem inheritNodes_survives (led : Led f) : Survives (inheritNodes f) f := by
  refine ⟨led, ?_, ?_⟩
  · rw [inheritNodes]
    split
    · exact ⟨f.winner.contributingNodeIds, rfl⟩
    · exact ⟨_, rfl⟩
  · intro n
    rw [inheritNodes]
    by_cases unseen : gatherNodes f.members = []
    · have no_node : ¬ ∃ m ∈ f.members, m.Carries n := by
        rw [← mem_gatherNodes_iff, unseen]
        exact List.not_mem_nil
      rw [if_pos unseen, iff_false_right no_node]
      exact fun carries => no_node ⟨f.winner, led.own, carries⟩
    · rw [if_neg unseen, ← mem_gatherNodes_iff]
      constructor
      · rintro (node | contributing)
        · exact (mem_gatherNodes_iff _ _).mpr ⟨f.winner, led.own, .inl node⟩
        · exact contributing
      · exact .inr

/-- The survivors of a group stand for its folds, in order. -/
theorem survivors_survive (geo : Geodesy) (g : Group) : List.Forall₂ Survives (survivors geo g) (foldings geo g) := by
  have led := foldings_led geo g
  rw [foldings] at led
  rw [survivors, foldings]
  split
  · rw [if_pos ‹_›] at led
    exact .cons ⟨led _ (List.mem_singleton_self _), ⟨g.first.contributingNodeIds, rfl⟩, by simp⟩ .nil
  · rw [if_neg ‹_›] at led
    rw [List.forall₂_map_left_iff, List.forall₂_same]
    exact fun f listed => inheritNodes_survives (led f listed)

theorem foldings_perm (geo : Geodesy) (g : Group) : ((foldings geo g).flatMap Fold.members).Perm g.members := by
  rw [foldings]
  split
  · rename_i alone
    simp [Group.members, alone]
  · exact collapse_perm geo g

/-- The folds partition the feed's entries. -/
theorem aircraftFolds_perm (geo : Geodesy) (aircraft : List FeedEntry) :
    ((aircraftFolds geo aircraft).flatMap Fold.members).Perm aircraft := by
  rw [aircraftFolds, List.flatMap_assoc]
  exact (List.Perm.flatMap_left _ fun g _ => foldings_perm geo g).trans (groupAircraft_perm geo aircraft)

/-- Every winner is one of the feed's entries. -/
theorem aircraftFolds_winner_mem (geo : Geodesy) (aircraft : List FeedEntry) : ∀ f ∈ aircraftFolds geo aircraft, f.winner ∈ aircraft := by
  intro f listed
  obtain ⟨g, -, inside⟩ := List.mem_flatMap.mp listed
  exact (aircraftFolds_perm geo aircraft).mem_iff.mp (List.mem_flatMap.mpr ⟨f, listed, (foldings_led geo g f inside).own⟩)

theorem forall₂_flatMap {R : α → β → Prop} {f : γ → List α} {g : γ → List β} {cs : List γ} (pairs : ∀ c ∈ cs, List.Forall₂ R (f c) (g c)) :
    List.Forall₂ R (cs.flatMap f) (cs.flatMap g) := by
  induction cs with
  | nil => exact .nil
  | cons c rest ih =>
    obtain ⟨first, later⟩ := List.forall_mem_cons.mp pairs
    exact List.rel_append first (ih later)

/-- A member of a list without repetition is in one of the parts it is cut into, and in no other. -/
theorem existsUnique_part {parts : List (List α)} (distinct : parts.flatten.Nodup) (member : x ∈ parts.flatten) :
    ∃! i : Nat, ∃ part : List α, parts[i]? = some part ∧ x ∈ part := by
  obtain ⟨part, listed, here⟩ := List.mem_flatten.mp member
  obtain ⟨i, bound, rfl⟩ := List.mem_iff_getElem.mp listed
  refine ⟨i, ⟨parts[i], List.getElem?_eq_getElem bound, here⟩, ?_⟩
  rintro j ⟨part, at_j, there⟩
  obtain ⟨bound', rfl⟩ := List.getElem?_eq_some_iff.mp at_j
  by_contra other
  have apart := (List.nodup_flatten.mp distinct).2
  rw [List.pairwise_iff_getElem] at apart
  rcases Nat.lt_or_gt_of_ne other with before | after
  · exact apart j i bound' bound before there here
  · exact apart i j bound bound' after here there

/-- De-duplication conserves entries and nodes. Each entry of a feed of distinct entries is folded into
exactly one entry of the output; and each of those is the best-ranked of the entries folded into it, seen
by exactly their nodes. -/
theorem dedup_conserves (geo : Geodesy) (aircraft : List FeedEntry) (distinct : aircraft.Nodup) :
    List.Forall₂ Survives (dedupAircraft geo aircraft) (aircraftFolds geo aircraft) ∧
      (∀ ac ∈ aircraft, ∃! i : Nat, ∃ f : Fold, (aircraftFolds geo aircraft)[i]? = some f ∧ ac ∈ f.members) ∧
      ∀ f ∈ aircraftFolds geo aircraft, ∀ m ∈ f.members, m ∈ aircraft := by
  have partitioned := aircraftFolds_perm geo aircraft
  refine ⟨forall₂_flatMap fun g _ => survivors_survive geo g, ?_, ?_⟩
  · intro ac listed
    have parts : ((aircraftFolds geo aircraft).map Fold.members).flatten.Nodup := by
      rw [← List.flatMap_def]
      exact partitioned.nodup_iff.mpr distinct
    obtain ⟨i, ⟨part, at_i, here⟩, only⟩ := existsUnique_part parts
      (by rw [← List.flatMap_def]; exact partitioned.mem_iff.mpr listed)
    rw [List.getElem?_map, Option.map_eq_some_iff] at at_i
    obtain ⟨f, at_i, rfl⟩ := at_i
    refine ⟨i, ⟨f, at_i, here⟩, ?_⟩
    rintro j ⟨f', at_j, there⟩
    exact only j ⟨f'.members, by rw [List.getElem?_map, at_j, Option.map_some], there⟩
  · exact fun f listed m member => partitioned.mem_iff.mp (List.mem_flatMap.mpr ⟨f, listed, member⟩)

/-! ### Three entries along a meridian -/

/-- Distance along a meridian, at 111 km to the degree. -/
def alongMeridian : Geodesy where
  haversineKm lat _ lat' _ := 111 * |lat - lat'|
  offsetLatlonM lat lon _ north := (lat + north / 111000, lon)
  mPerDegLat := 111000
  kmPerDegLon _ := 111

def entryAt (hex : String) (lat : ℚ) (source : PositionSource) : FeedEntry where
  hex := hex
  lat := some lat
  lon := some 0
  altBaro := none
  positionSource := some source
  nNodes := none
  seen := none
  multinode := decide (source = .multinodeSolve)
  nodeId := none
  contributingNodeIds := none
  groundTruthHex := none

/-- An arc; two and a half kilometres north of it a solve; and as far again another arc. -/
def convoy : List FeedEntry := [
  entryAt "pr0001" 0 .singleNodeEllipseArc,
  entryAt "mn0001" (5 / 222) .multinodeSolve,
  entryAt "pr0002" (10 / 222) .singleNodeEllipseArc]

theorem convoy_conserved :
    List.Forall₂ Survives (dedupAircraft alongMeridian convoy) (aircraftFolds alongMeridian convoy) ∧
      (∀ ac ∈ convoy, ∃! i : Nat, ∃ f : Fold, (aircraftFolds alongMeridian convoy)[i]? = some f ∧ ac ∈ f.members) ∧
      ∀ f ∈ aircraftFolds alongMeridian convoy, ∀ m ∈ f.members, m ∈ convoy :=
  dedup_conserves alongMeridian convoy (by decide +kernel)

end Retina.Feed
