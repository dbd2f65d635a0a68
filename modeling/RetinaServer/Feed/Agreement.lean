import RetinaServer.Feed.Dedup
import RetinaServer.Feed.Publication

/-! How de-duplication composes with the two passes behind it. Both judge a
survivor partly by fields of the winner alone, so what a folded entry keeps of
its place in a feed depends on which entry won its fold. -/
namespace Retina.Feed

/-- The folds of a group, an entry alone in its group being its own fold. -/
def Group.folds (geo : Geodesy) (g : Group) : List Fold :=
  if g.rest = [] then [⟨g.first, [g.first]⟩] else collapse geo g

/-- What stands for a fold in the feed: only a real group passes its nodes on. -/
def Group.survivor (g : Group) (f : Fold) : FeedEntry := if g.rest = [] then f.winner else inheritNodes f

theorem survivors_eq_map (geo : Geodesy) (g : Group) :
    survivors geo g = (g.folds geo).map g.survivor := by
  by_cases alone : g.rest = []
  · simp [survivors, Group.folds, Group.survivor, alone]
  · simp [survivors, Group.folds, Group.survivor, alone]

theorem mem_dedupAircraft_iff (geo : Geodesy) (aircraft : List FeedEntry) (ac : FeedEntry) :
    ac ∈ dedupAircraft geo aircraft ↔
      ∃ g ∈ groupAircraft geo aircraft, ∃ f ∈ g.folds geo, g.survivor f = ac := by
  simp [dedupAircraft, survivors_eq_map]

theorem folds_perm (geo : Geodesy) (g : Group) :
    ((g.folds geo).flatMap Fold.members).Perm g.members := by
  simp only [Group.folds]
  split
  · rename_i alone
    simp [Group.members, alone]
  · exact collapse_perm geo g

/-- `e` is one of the entries that `ac` stands for. -/
def FoldedInto (geo : Geodesy) (aircraft : List FeedEntry) (e ac : FeedEntry) : Prop :=
  ∃ g ∈ groupAircraft geo aircraft, ∃ f ∈ g.folds geo, e ∈ f.members ∧ g.survivor f = ac

/-- Every entry of the feed is folded into a survivor, and nothing else is. -/
theorem exists_foldedInto_iff (geo : Geodesy) (aircraft : List FeedEntry) (e : FeedEntry) :
    (∃ ac, FoldedInto geo aircraft e ac) ↔ e ∈ aircraft := by
  have grouped : e ∈ aircraft ↔ ∃ g ∈ groupAircraft geo aircraft, e ∈ g.members := by
    rw [← (groupAircraft_perm geo aircraft).mem_iff, List.mem_flatMap]
  have folded (g : Group) : e ∈ g.members ↔ ∃ f ∈ g.folds geo, e ∈ f.members := by
    rw [← (folds_perm geo g).mem_iff, List.mem_flatMap]
  simp only [grouped, folded, FoldedInto]
  constructor
  · rintro ⟨_, g, opened, f, collapsed, member, -⟩
    exact ⟨g, opened, f, collapsed, member⟩
  · rintro ⟨g, opened, f, collapsed, member⟩
    exact ⟨g.survivor f, g, opened, f, collapsed, member, rfl⟩

@[simp] theorem survivor_nodeId (g : Group) (f : Fold) : (g.survivor f).nodeId = f.winner.nodeId := by
  simp only [Group.survivor]
  split <;> simp

@[simp] theorem survivor_multinode (g : Group) (f : Fold) :
    (g.survivor f).multinode = f.winner.multinode := by
  simp only [Group.survivor]
  split <;> simp

@[simp] theorem survivor_positionSource (g : Group) (f : Fold) :
    (g.survivor f).positionSource = f.winner.positionSource := by
  simp only [Group.survivor]
  split <;> simp

/-- Every fold holds its own winner. -/
theorem winner_mem (geo : Geodesy) (g : Group) : ∀ f ∈ g.folds geo, f.winner ∈ f.members := by
  simp only [Group.folds]
  split
  · simp
  · have folded (sorted : List FeedEntry) (folds : List Fold)
        (held : ∀ f ∈ folds, f.winner ∈ f.members) :
        ∀ f ∈ sorted.foldl (foldStep geo g.truth.isSome) folds, f.winner ∈ f.members := by
      induction sorted generalizing folds with
      | nil => exact held
      | cons m rest ih =>
        apply ih
        exact FirstFit.place_forall (by simp) (fun f member => List.mem_append_left _ member) held
    exact folded _ [] (by simp)

theorem inheritNodes_carries_iff (f : Fold) (won : f.winner ∈ f.members) (n : Ident) :
    (inheritNodes f).Carries n ↔ ∃ m ∈ f.members, m.Carries n := by
  have listed := mem_gatherNodes_iff f.members n
  by_cases none : gatherNodes f.members = []
  · have unlisted : ¬ ∃ m ∈ f.members, m.Carries n := by simpa [none] using listed
    have winner : ¬ f.winner.Carries n := fun carried => unlisted ⟨f.winner, won, carried⟩
    simp only [inheritNodes, none, if_true, unlisted, winner]
  · have same : inheritNodes f = { f.winner with contributingNodeIds := some (gatherNodes f.members) } := by
      simp only [inheritNodes, if_neg none]
    rw [← listed, same]
    constructor
    · rintro (own | member)
      · exact listed.mpr ⟨f.winner, won, .inl own⟩
      · simpa [FeedEntry.contributors] using member
    · intro member
      exact .inr (by simpa [FeedEntry.contributors] using member)

/-- A survivor is shown under every node of the entries folded into it. -/
theorem survivor_carries_iff (geo : Geodesy) (g : Group) (f : Fold) (folded : f ∈ g.folds geo) (n : Ident) :
    (g.survivor f).Carries n ↔ ∃ m ∈ f.members, m.Carries n := by
  simp only [Group.survivor]
  split
  · rename_i alone
    have only : f = ⟨g.first, [g.first]⟩ := by simpa [Group.folds, alone] using folded
    simp [only]
  · exact inheritNodes_carries_iff f (winner_mem geo g f folded) n

/-! ### De-duplication before the redaction -/

/-- The public feed of a de-duplicated list shows node `n` at some entry. -/
def PublicFeedCarries (geo : Geodesy) (P : PrivateNodeIds) (data : Payload τ)
    (aircraft : List FeedEntry) (n : Ident) : Prop :=
  ∃ ac ∈ (publicAircraftPayload (some P)
    { data with aircraft := some (dedupAircraft geo aircraft) }).aircraft.getD [], ac.Carries n

/-- Some fold has an entry of node `n` and a winner whose own node is not
private. An entry alone in its group has to keep a contributor, if it lists any. -/
def SparedFold (geo : Geodesy) (P : PrivateNodeIds) (aircraft : List FeedEntry) (n : Ident) : Prop :=
  ∃ g ∈ groupAircraft geo aircraft, ∃ f ∈ g.folds geo, (∃ m ∈ f.members, m.Carries n) ∧
    P.Spares f.winner ∧
    (g.rest = [] → f.winner.contributors = [] ∨ ∃ c ∈ f.winner.contributors, P.contains c = false)

/-- A real group's survivor lists every node of its fold, its own included. -/
theorem inheritNodes_contributors (f : Fold) (carried : ∃ m ∈ f.members, m.Carries n) :
    n ∈ (inheritNodes f).contributors := by
  have listed := (mem_gatherNodes_iff f.members n).mpr carried
  have nonempty : gatherNodes f.members ≠ [] := List.ne_nil_of_mem listed
  simpa [inheritNodes, nonempty, FeedEntry.contributors] using listed

theorem publicFeedCarries_iff (geo : Geodesy) (P : PrivateNodeIds) (data : Payload τ)
    (aircraft : List FeedEntry) (published : P.contains n = false) :
    PublicFeedCarries geo P data aircraft n ↔ SparedFold geo P aircraft n := by
  simp only [PublicFeedCarries, publicAircraftPayload_aircraft, Option.getD_some, List.mem_filterMap,
    mem_dedupAircraft_iff]
  constructor
  · rintro ⟨out, ⟨_, ⟨g, opened, f, folded, rfl⟩, kept⟩, carried⟩
    have held := (redactEntry_carries published kept).mp carried
    obtain ⟨spared, lists, -⟩ := (redactEntry_eq_some_iff P _ out).mp kept
    refine ⟨g, opened, f, folded, (survivor_carries_iff geo g f folded n).mp held, ?_, ?_⟩
    · simpa [PrivateNodeIds.Spares] using spared
    · intro alone
      simpa [Group.survivor, alone] using lists
  · rintro ⟨g, opened, f, folded, member, spared, lists⟩
    have carried := (survivor_carries_iff geo g f folded n).mpr member
    have listed : (g.survivor f).contributors = [] ∨
        ∃ c ∈ (g.survivor f).contributors, P.contains c = false := by
      by_cases alone : g.rest = []
      · simpa [Group.survivor, alone] using lists alone
      · right
        refine ⟨n, ?_, published⟩
        simpa [Group.survivor, alone] using inheritNodes_contributors f member
    have kept := (redactEntry_eq_some_iff P (g.survivor f) _).mpr
      ⟨by simpa [PrivateNodeIds.Spares] using spared, listed, rfl⟩
    exact ⟨_, ⟨g.survivor f, ⟨g, opened, f, folded, rfl⟩, kept⟩, (redactEntry_carries published kept).mpr carried⟩

/-- De-duplication followed by the redaction keeps every public node of the
feed exactly when each has a fold whose winner is not itself private. -/
theorem public_nodes_survive_redaction_iff (geo : Geodesy) (P : PrivateNodeIds) (data : Payload τ)
    (aircraft : List FeedEntry) :
    (∀ n, P.contains n = false → (∃ e ∈ aircraft, e.nodeId = some n) →
      PublicFeedCarries geo P data aircraft n) ↔
    (∀ n, P.contains n = false → (∃ e ∈ aircraft, e.nodeId = some n) →
      SparedFold geo P aircraft n) := by
  constructor
  · intro kept n published named
    exact (publicFeedCarries_iff geo P data aircraft published).mp (kept n published named)
  · intro spared n published named
    exact (publicFeedCarries_iff geo P data aircraft published).mpr (spared n published named)

/-- A claimed ADS-B fix of one node. -/
def singleNodeFix (hex : String) (node : Ident) (seen : ℚ) : FeedEntry where
  hex := hex
  lat := some 0
  lon := some 0
  altBaro := none
  positionSource := some .adsbSingleNode
  nNodes := none
  seen := some seen
  multinode := false
  nodeId := some node
  contributingNodeIds := none
  groundTruthHex := none

/-- A geodesy in which everything is in one place. -/
def onePlace : Geodesy := ⟨fun _ _ _ _ => 0, fun lat lon _ _ => (lat, lon), 1, fun _ => 1⟩

/-- A private node's fresher fix wins over a public node's, and the redaction
then drops them both. -/
theorem private_winner_deletes_public_node :
    ¬ ∀ n, (PrivateNodeIds.ofRegistered {⟨"a", by decide⟩}).contains n = false →
      (∃ e ∈ [singleNodeFix "4ca1" ⟨"a", by decide⟩ 1, singleNodeFix "4ca2" ⟨"b", by decide⟩ 2],
        e.nodeId = some n) →
      PublicFeedCarries onePlace (PrivateNodeIds.ofRegistered {⟨"a", by decide⟩})
        (⟨none, none, none, none, none, none, none, none⟩ : Payload Unit)
        [singleNodeFix "4ca1" ⟨"a", by decide⟩ 1, singleNodeFix "4ca2" ⟨"b", by decide⟩ 2] n := by
  intro kept
  have served := kept ⟨"b", by decide⟩ (by decide +kernel) (by decide +kernel)
  revert served
  simp only [PublicFeedCarries]
  decide +kernel

/-! ### De-duplication before the node filter -/

theorem mem_filterPayloadToNodes_iff (data : Payload τ) (nodeIds : Finset Ident) (ac : FeedEntry) :
    ac ∈ (filterPayloadToNodes data nodeIds).aircraft.getD [] ↔
      ac ∈ data.aircraft.getD [] ∧
      ((∃ n ∈ nodeIds, ac.nodeId = some n) ∨
        (ac.multinode = true ∨ ac.positionSource = some .adsbMultiNode) ∧
          ∃ c ∈ ac.contributors, c ∈ nodeIds) := by
  have own : (∃ n ∈ nodeIds, ac.nodeId = some n) ↔
      ac.nodeId.any (fun nid => decide (nid ∈ nodeIds)) = true := by
    cases ac.nodeId <;> simp
  rw [own]
  simp [filterPayloadToNodes, matchesNodes]

/-- The filtered feed keeps the survivor of every fold that holds an entry of
one of the caller's nodes. -/
def FilterSeesFolded (geo : Geodesy) (data : Payload τ) (aircraft : List FeedEntry)
    (nodeIds : Finset Ident) : Prop :=
  ∀ e ∈ aircraft, (∃ n ∈ nodeIds, e.nodeId = some n) → ∀ ac, FoldedInto geo aircraft e ac →
    ac ∈ (filterPayloadToNodes { data with aircraft := some (dedupAircraft geo aircraft) }
      nodeIds).aircraft.getD []

/-- The filter agrees with de-duplication exactly when every fold that holds an
entry of one of the caller's nodes was won by a multinode entry, by a claimed
target of several nodes, or by an entry of one of those nodes. -/
theorem filter_sees_folded_iff (geo : Geodesy) (data : Payload τ) (aircraft : List FeedEntry)
    (nodeIds : Finset Ident) :
    FilterSeesFolded geo data aircraft nodeIds ↔
      ∀ g ∈ groupAircraft geo aircraft, ∀ f ∈ g.folds geo,
        (∃ e ∈ f.members, ∃ n ∈ nodeIds, e.nodeId = some n) →
        f.winner.multinode = true ∨ f.winner.positionSource = some .adsbMultiNode ∨
          ∃ n ∈ nodeIds, f.winner.nodeId = some n := by
  constructor
  · rintro sees g opened f folded ⟨e, member, owned⟩
    have into : FoldedInto geo aircraft e (g.survivor f) := ⟨g, opened, f, folded, member, rfl⟩
    have listed := (exists_foldedInto_iff geo aircraft e).mp ⟨_, into⟩
    have kept := sees e listed owned (g.survivor f) into
    rw [mem_filterPayloadToNodes_iff] at kept
    simp only [survivor_nodeId, survivor_multinode, survivor_positionSource] at kept
    rcases kept.2 with own | ⟨multi | claimed, -⟩
    · exact .inr (.inr own)
    · exact .inl multi
    · exact .inr (.inl claimed)
  · rintro judged e - ⟨n, mine, named⟩ _ ⟨g, opened, f, folded, member, rfl⟩
    rw [mem_filterPayloadToNodes_iff]
    refine ⟨(mem_dedupAircraft_iff geo aircraft _).mpr ⟨g, opened, f, folded, rfl⟩, ?_⟩
    have carried : (g.survivor f).Carries n :=
      (survivor_carries_iff geo g f folded n).mpr ⟨e, member, .inl named⟩
    have seen : (∃ n ∈ nodeIds, (g.survivor f).nodeId = some n) ∨
        ∃ c ∈ (g.survivor f).contributors, c ∈ nodeIds := by
      rcases carried with own | contributor
      · exact .inl ⟨n, mine, own⟩
      · exact .inr ⟨n, contributor, mine⟩
    rcases judged g opened f folded ⟨e, member, n, mine, named⟩ with multi | claimed | own
    · rcases seen with own | contributor
      · exact .inl own
      · exact .inr ⟨.inl (by simpa using multi), contributor⟩
    · rcases seen with own | contributor
      · exact .inl own
      · exact .inr ⟨.inr (by simpa using claimed), contributor⟩
    · exact .inl (by simpa using own)

/-- Another node's fresher fix wins, and the caller's own node loses the aircraft. -/
theorem filter_misses_folded_node :
    ¬ FilterSeesFolded onePlace (⟨none, none, none, none, none, none, none, none⟩ : Payload Unit)
      [singleNodeFix "4ca1" ⟨"a", by decide⟩ 1, singleNodeFix "4ca2" ⟨"b", by decide⟩ 2]
      {⟨"b", by decide⟩} := by
  intro sees
  have served := sees (singleNodeFix "4ca2" ⟨"b", by decide⟩ 2) (by decide +kernel) (by decide +kernel)
    { singleNodeFix "4ca1" ⟨"a", by decide⟩ 1 with
      contributingNodeIds := some [⟨"a", by decide⟩, ⟨"b", by decide⟩] }
    (by unfold FoldedInto; decide +kernel)
  revert served
  decide +kernel

end Retina.Feed
