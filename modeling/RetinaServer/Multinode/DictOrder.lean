import RetinaServer.Multinode.KeyDecision

/-! Whether the keying rule depends on the order of the store. Of the four entries
that its scan keeps three are the best of their kind, which is the same in every
order where there are no ties; the weakly linked one is the first that the scan
comes to. -/
namespace Retina.Multinode
open Selection

section
variable (ctx : KeyingContext) (tracks : Tracks) (result : Solve)

/-- No two candidates tie in the score or the distance that they compete on. -/
structure Untied (shadowScan : Bool) (cands : List Scanned) : Prop where
  joinable : ∀ c ∈ cands.filter (joinable shadowScan), ∀ c' ∈ cands.filter (Multinode.joinable shadowScan),
    c.score = c'.score → c = c'
  linkable : ∀ c ∈ cands.filter (linkable ctx shadowScan), ∀ c' ∈ cands.filter (Multinode.linkable ctx shadowScan),
    c.linkScore = c'.linkScore → c = c'
  owned : ∀ c ∈ cands.filter (owned shadowScan), ∀ c' ∈ cands.filter (Multinode.owned shadowScan),
    c.distKm = c'.distKm → c = c'

/-- Every store of the same entries decides alike. -/
def OrderFree (adsbHex anchorKey : Option String) (anchorDr : Bool) (trackIds : List String) : Prop :=
  ∀ tracks' : Tracks, tracks.items.Perm tracks'.items →
    multinodeKeyDecision ctx tracks' result adsbHex anchorKey anchorDr trackIds =
      multinodeKeyDecision ctx tracks result adsbHex anchorKey anchorDr trackIds

/-! ### The candidates in another order -/

theorem scanCandidates_perm {tracks tracks' : Tracks} (perm : tracks.items.Perm tracks'.items) (solveIds : List String) :
    (scanCandidates ctx tracks result solveIds).Perm (scanCandidates ctx tracks' result solveIds) :=
  perm.filterMap _

theorem honoredAnchor_perm {tracks tracks' : Tracks} (perm : tracks.items.Perm tracks'.items) (anchorKey : Option String)
    (anchorDr : Bool) :
    honoredAnchor ctx tracks' result anchorKey anchorDr = honoredAnchor ctx tracks result anchorKey anchorDr := by
  simp only [honoredAnchor, Dict.get?_of_perm perm]

/-- A candidate is known by its key. -/
theorem scanCandidates_key (listed : c ∈ scanCandidates ctx tracks result solveIds)
    (listed' : c' ∈ scanCandidates ctx tracks result solveIds) (same : c.key = c'.key) : c = c' := by
  obtain ⟨⟨key, entry⟩, member, found⟩ := List.mem_filterMap.mp listed
  obtain ⟨⟨key', entry'⟩, member', found'⟩ := List.mem_filterMap.mp listed'
  obtain ⟨rfl, -⟩ := scanEntry_spec ctx result found
  obtain ⟨rfl, -⟩ := scanEntry_spec ctx result found'
  have held := (Dict.get?_eq_some_iff tracks _ _).mpr member
  have held' := (Dict.get?_eq_some_iff tracks _ _).mpr member'
  rw [same, held'] at held
  obtain rfl := Option.some.inj held
  rw [← same] at found'
  exact Option.some.inj (found.symm.trans found')

/-- A candidate can be the first. -/
theorem candidate_first (listed : c ∈ scanCandidates ctx tracks result solveIds) :
    ∃ tracks' : Tracks, tracks.items.Perm tracks'.items ∧
      (scanCandidates ctx tracks' result solveIds).head? = some c := by
  obtain ⟨item, member, found⟩ := List.mem_filterMap.mp listed
  have perm := List.perm_cons_erase member
  refine ⟨tracks.reorder _ perm, perm, ?_⟩
  simp only [scanCandidates, Dict.reorder, List.filterMap_cons, found, List.head?_cons]

/-! ### What is chosen -/

variable {ctx result}

/-- At most one entry is weakly linked, or a strong link outranks them. -/
def FewWeakLinks (ctx : KeyingContext) (shadowScan : Bool) (cands : List Scanned) : Prop :=
  (∃ c ∈ cands, linkable ctx shadowScan c = true) ∨
    ∀ c ∈ cands, ∀ c' ∈ cands, weaklyLinkable ctx shadowScan c = true → weaklyLinkable ctx shadowScan c' = true → c = c'

theorem head?_perm {items items' : List Scanned} (perm : items.Perm items')
    (single : ∀ c ∈ items, ∀ c' ∈ items, c = c') : items.head? = items'.head? := by
  cases items with
  | nil => rw [List.nil_perm.mp perm]
  | cons c rest =>
    cases items' with
    | nil => exact absurd perm.length_eq (by simp)
    | cons c' rest' =>
      have here : c' ∈ c :: rest := perm.mem_iff.mpr List.mem_cons_self
      rw [List.head?_cons, List.head?_cons, single c List.mem_cons_self c' here]

theorem chosen_perm {cands cands' : List Scanned} (perm : cands.Perm cands') (untied : Untied ctx shadowScan cands)
    (few : FewWeakLinks ctx shadowScan cands) : chosen ctx result cands' shadowScan = chosen ctx result cands shadowScan := by
  have best := firstMin_perm (perm.filter (joinable shadowScan)) untied.joinable
  have link := firstMin_perm (perm.filter (linkable ctx shadowScan)) untied.linkable
  have shadow := firstMin_perm (perm.filter (owned shadowScan)) untied.owned
  simp only [chosen]
  rw [scan_spec, scan_spec, ← best, ← link, ← shadow]
  simp only [scanDecision]
  cases linked : firstMin Scanned.linkScore (cands.filter (linkable ctx shadowScan)) with
  | some c => rfl
  | none =>
    have unlinked := (firstMin_eq_none_iff _ _).mp linked
    have weak : (cands.filter (weaklyLinkable ctx shadowScan)).head? =
        (cands'.filter (weaklyLinkable ctx shadowScan)).head? := by
      refine head?_perm (perm.filter _) fun c member c' member' => ?_
      obtain ⟨listed, weak⟩ := List.mem_filter.mp member
      obtain ⟨listed', weak'⟩ := List.mem_filter.mp member'
      rcases few with ⟨strong, member, link⟩ | single
      · exact absurd link (List.filter_eq_nil_iff.mp unlinked strong member)
      · exact single c listed c' listed' weak weak'
    rw [weak]

/-- The weak link that comes first is the one the solve is refused for. -/
theorem chosen_weak {cands : List Scanned} (unlinked : ∀ c ∈ cands, linkable ctx shadowScan c = false)
    (first : (cands.filter (weaklyLinkable ctx shadowScan)).head? = some c) :
    chosen ctx result cands shadowScan = verdict .shadowed c := by
  have linked : firstMin Scanned.linkScore (cands.filter (linkable ctx shadowScan)) = none := by
    rw [firstMin_eq_none_iff, List.filter_eq_nil_iff]
    exact fun c member => by simp [unlinked c member]
  simp only [chosen]
  rw [scan_spec]
  simp only [scanDecision, linked, first]

theorem fewWeakLinks_of_orderFree {solveIds : List String}
    (free : ∀ tracks' : Tracks, tracks.items.Perm tracks'.items →
      chosen ctx result (scanCandidates ctx tracks' result solveIds) shadowScan =
        chosen ctx result (scanCandidates ctx tracks result solveIds) shadowScan) :
    FewWeakLinks ctx shadowScan (scanCandidates ctx tracks result solveIds) := by
  by_contra many
  simp only [FewWeakLinks, not_or, not_exists, not_and, not_forall, Bool.not_eq_true] at many
  obtain ⟨unlinked, c, listed, c', listed', weak, weak', other⟩ := many
  -- Each of the two can be the first that the scan comes to.
  have refused {d : Scanned} (member : d ∈ scanCandidates ctx tracks result solveIds)
      (weak : weaklyLinkable ctx shadowScan d = true) :
      chosen ctx result (scanCandidates ctx tracks result solveIds) shadowScan = verdict .shadowed d := by
    obtain ⟨tracks', perm, first⟩ := candidate_first ctx tracks result member
    have reordered := scanCandidates_perm ctx result perm solveIds
    rw [← free tracks' perm]
    refine chosen_weak (fun e there => unlinked e (reordered.mem_iff.mpr there)) ?_
    obtain ⟨rest, split⟩ := List.head?_eq_some_iff.mp first
    rw [split, List.filter_cons_of_pos weak, List.head?_cons]
  have same : (verdict .shadowed c).key = (verdict .shadowed c').key :=
    congrArg KeyDecision.key ((refused listed weak).symm.trans (refused listed' weak'))
  exact other (scanCandidates_key ctx tracks result listed listed' same)

variable (ctx result)

/-- Without ties, the key, the verdict, the distance and the age do not depend on the order of the store exactly when the
solve is tagged or anchored, or an entry is strongly linked to it, or no more than one is weakly linked. -/
theorem order_free_iff (untied : Untied ctx (shadowScans ctx anchorKey) (scanCandidates ctx tracks result trackIds.dedup)) :
    OrderFree ctx tracks result adsbHex anchorKey anchorDr trackIds ↔
      ¬ Untagged adsbHex ∨ (honoredAnchor ctx tracks result anchorKey anchorDr).isSome ∨
        FewWeakLinks ctx (shadowScans ctx anchorKey) (scanCandidates ctx tracks result trackIds.dedup) := by
  by_cases untagged : Untagged adsbHex
  · simp only [OrderFree, decision_untagged ctx _ result untagged, untagged, not_true_eq_false, false_or]
    cases honored : honoredAnchor ctx tracks result anchorKey anchorDr with
    | some d =>
      refine iff_of_true (fun tracks' perm => ?_) (.inl rfl)
      rw [honoredAnchor_perm ctx result perm, honored]
      rfl
    | none =>
      simp only [Option.isSome_none, Bool.false_eq_true, false_or, Option.getD_none]
      constructor
      · intro free
        refine fewWeakLinks_of_orderFree tracks fun tracks' perm => ?_
        have decided := free tracks' perm
        rwa [honoredAnchor_perm ctx result perm, honored, Option.getD_none] at decided
      · intro few tracks' perm
        rw [honoredAnchor_perm ctx result perm, honored, Option.getD_none]
        exact chosen_perm (scanCandidates_perm ctx result perm _) untied few
  · refine iff_of_true (fun tracks' perm => ?_) (.inl untagged)
    obtain ⟨hex, tagged⟩ := Option.ne_none_iff_exists'.mp untagged
    simp only [multinodeKeyDecision, tagged]

end

/-- A dark entry that has seen the track `t1`. -/
def sharing (lat : ℚ) : TrackEntry := { still (some lat) (some 0) 0 with recentTrackIds := some (Dict.empty.insert "t1" 0) }

/-- Binding mode, with two keys the follow lane published on a second ago. -/
def followingBoth : KeyingContext := { followingB with lastFollowPublish := (Dict.empty.insert "mn-dark-a" 0).insert "mn-dark-b" 0 }

def weakLinks : Tracks := (Dict.empty.insert "mn-dark-a" (sharing (1 / 100))).insert "mn-dark-b" (sharing (2 / 100))

def weakLinksReordered : Tracks := (Dict.empty.insert "mn-dark-b" (sharing (2 / 100))).insert "mn-dark-a" (sharing (1 / 100))

theorem weakLinks_untied :
    Untied followingBoth (shadowScans followingBoth none) (scanCandidates followingBoth weakLinks (still 0 0 1000) ["t1"].dedup) :=
  ⟨by decide +kernel, by decide +kernel, by decide +kernel⟩

/-- A solve that shares one track with each of two followed entries is refused for the one the store lists first. -/
theorem first_weak_link_decides :
    Untied followingBoth (shadowScans followingBoth none)
        (scanCandidates followingBoth weakLinks (still 0 0 1000) ["t1"].dedup) ∧
      ¬ OrderFree followingBoth weakLinks (still 0 0 1000) none none false ["t1"] := by
  refine ⟨weakLinks_untied, fun free => ?_⟩
  have decided := congrArg KeyDecision.key (free weakLinksReordered (by decide +kernel))
  exact absurd decided (by decide +kernel)

theorem order_free_without_shared_tracks :
    OrderFree followingBoth weakLinks (still 0 0 1000) none none false [] :=
  (order_free_iff followingBoth weakLinks (still 0 0 1000)
    ⟨by decide +kernel, by decide +kernel, by decide +kernel⟩).mpr (.inr (.inr (.inr (by decide +kernel))))

end Retina.Multinode
