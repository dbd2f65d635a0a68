import RetinaServer.Multinode.Keying

/-! When the keying rule joins, and when it mints. An untagged solve is given its
birth name exactly when no anchor is honoured and no entry of the store claims it;
a key the follow lane answers for is joined on shared node tracks alone, except
by a solve that names an anchor and is not granted it. -/
namespace Retina.Multinode
open Selection

section
variable (ctx : KeyingContext) (tracks : Tracks) (result : Solve)

/-- The solve carries no transponder's hex. -/
def Untagged (adsbHex : Option String) : Prop := adsbHex.filter Solver.isTransponderHex = none

instance (adsbHex : Option String) : Decidable (Untagged adsbHex) := inferInstanceAs (Decidable (_ = _))

theorem scanEntry_spec (found : scanEntry ctx result solveIds key entry = some c) :
    c.key = key ∧ c.followed = recentlyFollowed ctx key result.tsS ∧
      c.shared = sharedRecentTracks ctx entry solveIds result.tsS ∧ key.startsWith darkPrefix = true := by
  unfold scanEntry at found
  split at found
  · cases found
  · rename_i dark
    dsimp only at found
    split at found
    · cases found
    · split at found
      · obtain rfl := Option.some.inj found
        exact ⟨rfl, rfl, rfl, by simpa using dark⟩
      · cases found

theorem mem_scanCandidates (member : c ∈ scanCandidates ctx tracks result solveIds) :
    ∃ entry, tracks.get? c.key = some entry ∧
      c.followed = recentlyFollowed ctx c.key result.tsS ∧
      c.shared = sharedRecentTracks ctx entry solveIds result.tsS := by
  obtain ⟨⟨key, entry⟩, listed, found⟩ := List.mem_filterMap.mp member
  obtain ⟨rfl, followed, shared, -⟩ := scanEntry_spec ctx result found
  exact ⟨entry, (Dict.get?_eq_some_iff tracks _ entry).mpr listed, followed, shared⟩

/-- An honoured anchor is a dark key. -/
theorem honoredAnchor_spec (honored : honoredAnchor ctx tracks result anchorKey anchorDr = some d) :
    d.how = .anchor ∧ d.key.startsWith darkPrefix = true := by
  unfold honoredAnchor at honored
  split at honored
  · cases honored
  · split at honored
    · cases honored
    · rename_i dark
      split at honored
      · cases honored
      · split at honored
        · dsimp only at honored
          split at honored
          · obtain rfl := Option.some.inj honored
            exact ⟨rfl, by simpa using dark⟩
          · cases honored
        · cases honored

/-- The candidate decides the solve's key, or refuses the solve. -/
def claims (shadowScan : Bool) (c : Scanned) : Bool :=
  joinable shadowScan c || linkable ctx shadowScan c || weaklyLinkable ctx shadowScan c ||
    owned shadowScan c && decide (c.distKm ≤ ctx.settings.darkFollowShadowKm)

/-- The decision on the candidates of an untagged solve that no anchor keyed. -/
def chosen (cands : List Scanned) (shadowScan : Bool) : KeyDecision :=
  scanDecision ctx (cands.foldl (scanStep ctx shadowScan) {}) result

theorem decision_untagged (untagged : Untagged adsbHex) :
    multinodeKeyDecision ctx tracks result adsbHex anchorKey anchorDr trackIds =
      (honoredAnchor ctx tracks result anchorKey anchorDr).getD
        (chosen ctx result (scanCandidates ctx tracks result trackIds.dedup) (shadowScans ctx anchorKey)) := by
  simp only [multinodeKeyDecision]
  rw [show adsbHex.filter Solver.isTransponderHex = none from untagged]
  cases honoredAnchor ctx tracks result anchorKey anchorDr <;> rfl

/-- No followed candidate is near when the nearest one is not. -/
theorem no_shadow_of_nearest {cands : List Scanned} {own : Scanned → Bool} {radius : ℚ}
    (far : (firstMin Scanned.distKm (cands.filter own)).filter (fun c => decide (c.distKm ≤ radius)) = none)
    (c : Scanned) (member : c ∈ cands) : own c = true → radius < c.distKm := by
  intro mine
  have listed : c ∈ cands.filter own := List.mem_filter.mpr ⟨member, mine⟩
  cases nearest : firstMin Scanned.distKm (cands.filter own) with
  | none =>
    rw [(firstMin_eq_none_iff _ _).mp nearest] at listed
    cases listed
  | some n =>
    have least := ((firstMin_eq_some_iff _ _ n).mp nearest).le c listed
    rw [nearest, Option.filter_eq_none_iff] at far
    have beyond : radius < n.distKm := by simpa using far n rfl
    exact lt_of_lt_of_le beyond least

/-- Where a decision on the candidates comes from. -/
theorem chosen_cases (cands : List Scanned) (shadowScan : Bool) :
    (∃ c, c ∈ cands ∧ linkable ctx shadowScan c = true ∧ chosen ctx result cands shadowScan = verdict .tracks c) ∨
    (∃ c, c ∈ cands ∧ owned shadowScan c = true ∧ claims ctx shadowScan c = true ∧
      chosen ctx result cands shadowScan = verdict .shadowed c) ∨
    (∃ c, IsFirstMin Scanned.score (cands.filter (joinable shadowScan)) c ∧
      chosen ctx result cands shadowScan = verdict (if 1 ≤ c.shared then .tracks else .proximity) c) ∨
    (∀ c ∈ cands, claims ctx shadowScan c = false) ∧
      chosen ctx result cands shadowScan = ⟨birthName result, .minted, none, none⟩ := by
  simp only [chosen]
  rw [scan_spec]
  simp only [scanDecision]
  cases linked : firstMin Scanned.linkScore (cands.filter (linkable ctx shadowScan)) with
  | some c =>
    obtain ⟨member, link⟩ := List.mem_filter.mp (firstMin_mem linked)
    exact .inl ⟨c, member, link, rfl⟩
  | none =>
    cases weak : (cands.filter (weaklyLinkable ctx shadowScan)).head? with
    | some c =>
      obtain ⟨member, link⟩ := List.mem_filter.mp (List.mem_of_mem_head? weak)
      have own : owned shadowScan c = true := (Bool.and_eq_true_iff.mp link).1
      exact .inr (.inl ⟨c, member, own, by simp [claims, link], rfl⟩)
    | none =>
      cases near : (firstMin Scanned.distKm (cands.filter (owned shadowScan))).filter
          fun c => decide (c.distKm ≤ ctx.settings.darkFollowShadowKm) with
      | some c =>
        obtain ⟨nearest, close⟩ := Option.filter_eq_some_iff.mp near
        obtain ⟨member, own⟩ := List.mem_filter.mp (firstMin_mem nearest)
        have within : c.distKm ≤ ctx.settings.darkFollowShadowKm := by simpa using close
        exact .inr (.inl ⟨c, member, own, by simp [claims, own, within], rfl⟩)
      | none =>
        cases best : firstMin Scanned.score (cands.filter (joinable shadowScan)) with
        | some c => exact .inr (.inr (.inl ⟨c, (firstMin_eq_some_iff _ _ c).mp best, rfl⟩))
        | none =>
          refine .inr (.inr (.inr ⟨fun c member => ?_, rfl⟩))
          have noLink := List.filter_eq_nil_iff.mp ((firstMin_eq_none_iff _ _).mp linked) c member
          have noWeak := List.filter_eq_nil_iff.mp (List.head?_eq_none_iff.mp weak) c member
          have noJoin := List.filter_eq_nil_iff.mp ((firstMin_eq_none_iff _ _).mp best) c member
          have noShadow := no_shadow_of_nearest near c member
          simpa [claims, noJoin, noLink, noWeak] using noShadow

theorem birthName_dark (result : Solve) : (birthName result).startsWith darkPrefix = true := by
  rw [String.startsWith_string_iff]
  simp only [birthName, String.toList_append, List.append_assoc]
  exact List.prefix_append _ _

theorem scanCandidates_dark (member : c ∈ scanCandidates ctx tracks result solveIds) :
    c.key.startsWith darkPrefix = true := by
  obtain ⟨⟨key, entry⟩, -, found⟩ := List.mem_filterMap.mp member
  obtain ⟨rfl, -, -, dark⟩ := scanEntry_spec ctx result found
  exact dark

/-- Without a transponder's hex, the decided key is a dark one. -/
theorem decision_dark (untagged : Untagged adsbHex) :
    (multinodeKeyDecision ctx tracks result adsbHex anchorKey anchorDr trackIds).key.startsWith darkPrefix = true := by
  rw [decision_untagged ctx tracks result untagged]
  cases honored : honoredAnchor ctx tracks result anchorKey anchorDr with
  | some d => exact (honoredAnchor_spec ctx tracks result honored).2
  | none =>
    rw [Option.getD_none]
    rcases chosen_cases ctx result (scanCandidates ctx tracks result trackIds.dedup)
      (shadowScans ctx anchorKey) with ⟨c, member, -, same⟩ | ⟨c, member, -, -, same⟩ | ⟨c, best, same⟩ | ⟨-, same⟩
    · rw [same]
      exact scanCandidates_dark ctx tracks result member
    · rw [same]
      exact scanCandidates_dark ctx tracks result member
    · rw [same]
      exact scanCandidates_dark ctx tracks result (List.mem_filter.mp best.mem).1
    · rw [same]
      exact birthName_dark result

/-- A solve anchored to the entry it stands in, at no distance from itself, is
keyed to that entry. -/
theorem honoredAnchor_own (solve : Solve) (dark : key.startsWith darkPrefix = true)
    (held : tracks.get? key = some solve.stored)
    (here : ctx.geodesy.haversineKm solve.lat solve.lon solve.lat solve.lon = 0) (anchorDr : Bool) :
    ∃ d, honoredAnchor ctx tracks solve (some key) anchorDr = some d ∧ d.key = key := by
  have still : anchorReach ctx key solve.stored solve.lat solve.lon 0 anchorDr =
      ((solve.lat, solve.lon), mnAssocMaxDistKm) := by
    simp [anchorReach]
  have near : (0 : ℚ) ≤ mnAssocMaxDistKm := by norm_num [mnAssocMaxDistKm]
  simp [honoredAnchor, dark, held, still, here, near]

/-- A decided key is a fixed point: the entry stored under it, decided again with
its key for an anchor, keeps the key. -/
theorem decision_fixed (ctx' : KeyingContext) (tracks' : Tracks) (solve : Solve)
    (decided : (multinodeKeyDecision ctx tracks result adsbHex anchorKey anchorDr trackIds).key = key)
    (held : tracks'.get? key = some solve.stored)
    (here : ctx'.geodesy.haversineKm solve.lat solve.lon solve.lat solve.lon = 0) (anchorDr' : Bool)
    (trackIds' : List String) :
    (multinodeKeyDecision ctx' tracks' solve adsbHex (some key) anchorDr' trackIds').key = key := by
  by_cases untagged : Untagged adsbHex
  · have dark : key.startsWith darkPrefix = true := decided ▸ decision_dark ctx tracks result untagged
    obtain ⟨d, honored, same⟩ := honoredAnchor_own ctx' tracks' solve dark held here anchorDr'
    rw [decision_untagged ctx' tracks' solve untagged, honored, Option.getD_some, same]
  · obtain ⟨hex, tagged⟩ := Option.ne_none_iff_exists'.mp untagged
    simp only [multinodeKeyDecision, tagged] at decided ⊢
    exact decided

/-- An untagged solve is minted exactly when no anchor keys it and no entry claims it. -/
theorem minted_iff (untagged : Untagged adsbHex) :
    (multinodeKeyDecision ctx tracks result adsbHex anchorKey anchorDr trackIds).how = .minted ↔
      honoredAnchor ctx tracks result anchorKey anchorDr = none ∧
      ∀ c ∈ scanCandidates ctx tracks result trackIds.dedup, claims ctx (shadowScans ctx anchorKey) c = false := by
  rw [decision_untagged ctx tracks result untagged]
  cases honored : honoredAnchor ctx tracks result anchorKey anchorDr with
  | some d => simp [(honoredAnchor_spec ctx tracks result honored).1]
  | none =>
    rw [Option.getD_none]
    rcases chosen_cases ctx result (scanCandidates ctx tracks result trackIds.dedup)
      (shadowScans ctx anchorKey) with ⟨c, member, link, same⟩ | ⟨c, member, -, claim, same⟩ |
      ⟨c, best, same⟩ | ⟨unclaimed, same⟩
    · have claim : claims ctx (shadowScans ctx anchorKey) c = true := by simp [claims, link]
      simpa [same, verdict] using ⟨c, member, claim⟩
    · simpa [same, verdict] using ⟨c, member, claim⟩
    · obtain ⟨member, join⟩ := List.mem_filter.mp best.mem
      have claim : claims ctx (shadowScans ctx anchorKey) c = true := by simp [claims, join]
      rw [same]
      simp only [verdict]
      constructor
      · intro minted
        split at minted <;> cases minted
      · intro unclaimed
        rw [unclaimed.2 c member] at claim
        cases claim
    · simpa [same] using unclaimed

theorem minted_key (untagged : Untagged adsbHex)
    (minted : (multinodeKeyDecision ctx tracks result adsbHex anchorKey anchorDr trackIds).how = .minted) :
    (multinodeKeyDecision ctx tracks result adsbHex anchorKey anchorDr trackIds).key = birthName result := by
  obtain ⟨unanchored, unclaimed⟩ := (minted_iff ctx tracks result untagged).mp minted
  rw [decision_untagged ctx tracks result untagged, unanchored, Option.getD_none]
  rcases chosen_cases ctx result (scanCandidates ctx tracks result trackIds.dedup)
    (shadowScans ctx anchorKey) with ⟨c, member, link, -⟩ | ⟨c, member, -, claim, -⟩ | ⟨c, best, -⟩ | ⟨-, same⟩
  · have claim := unclaimed c member
    simp [claims, link] at claim
  · rw [unclaimed c member] at claim
    cases claim
  · obtain ⟨member, join⟩ := List.mem_filter.mp best.mem
    have claim := unclaimed c member
    simp [claims, join] at claim
  · rw [same]

/-- A joined key that the follow lane answers for shares enough node tracks with the solve. -/
def OwnershipRespected (adsbHex anchorKey : Option String) (anchorDr : Bool) (trackIds : List String) : Prop :=
  let decision := multinodeKeyDecision ctx tracks result adsbHex anchorKey anchorDr trackIds
  decision.how = .proximity ∨ decision.how = .tracks → recentlyFollowed ctx decision.key result.tsS = true →
    ∃ entry, tracks.get? decision.key = some entry ∧
      ctx.settings.trackLinkMinSharedJoin ≤ sharedRecentTracks ctx entry trackIds.dedup result.tsS

/-- The decision joins a key the follow lane answers for only on enough shared node tracks. -/
def JoinsBySharing (solveIds : List String) (d : KeyDecision) : Prop :=
  d.how = .proximity ∨ d.how = .tracks → recentlyFollowed ctx d.key result.tsS = true →
    ∃ entry, tracks.get? d.key = some entry ∧
      ctx.settings.trackLinkMinSharedJoin ≤ sharedRecentTracks ctx entry solveIds result.tsS

/-- A solve whose scan asks about ownership joins a followed key through its link alone. -/
theorem joinsBySharing_of_scanning (solveIds : List String) :
    JoinsBySharing ctx tracks result solveIds
      (chosen ctx result (scanCandidates ctx tracks result solveIds) true) := by
  intro joined followed
  rcases chosen_cases ctx result (scanCandidates ctx tracks result solveIds) true with
    ⟨c, member, link, same⟩ | ⟨c, member, own, -, same⟩ | ⟨c, best, same⟩ | ⟨unclaimed, same⟩
  · simp only [linkable, links, Bool.and_eq_true, decide_eq_true_eq] at link
    obtain ⟨entry, held, -, count⟩ := mem_scanCandidates ctx tracks result member
    rw [same]
    exact ⟨entry, held, count ▸ link.2.1⟩
  · simp [same, verdict] at joined
  · obtain ⟨member, join⟩ := List.mem_filter.mp best.mem
    obtain ⟨entry, held, asked, -⟩ := mem_scanCandidates ctx tracks result member
    rw [same] at followed
    have contradiction : c.followed = true := asked.trans followed
    simp [joinable, owned, contradiction] at join
  · simp [same] at joined

/-- One whose scan does not ask joins the best candidate of all, followed or not. -/
theorem joinsBySharing_blind_iff (solveIds : List String) :
    JoinsBySharing ctx tracks result solveIds
        (chosen ctx result (scanCandidates ctx tracks result solveIds) false) ↔
      ∀ c, IsFirstMin Scanned.score ((scanCandidates ctx tracks result solveIds).filter (joinable false)) c →
        c.followed = true → ctx.settings.trackLinkMinSharedJoin ≤ c.shared := by
  rcases chosen_cases ctx result (scanCandidates ctx tracks result solveIds) false with
    ⟨c, member, link, same⟩ | ⟨c, member, own, -, same⟩ | ⟨c, best, same⟩ | ⟨unclaimed, same⟩
  · simp [linkable, owned] at link
  · simp [owned] at own
  · obtain ⟨member, join⟩ := List.mem_filter.mp best.mem
    obtain ⟨entry, held, followed, count⟩ := mem_scanCandidates ctx tracks result member
    have joined : (verdict (if 1 ≤ c.shared then .tracks else .proximity) c).how = .proximity ∨
        (verdict (if 1 ≤ c.shared then .tracks else .proximity) c).how = .tracks := by
      simp only [verdict]
      split <;> simp
    rw [same]
    constructor
    · intro respected other best' owned_key
      rw [isFirstMin_unique best' best] at owned_key ⊢
      obtain ⟨entry', held', shared⟩ := respected joined (followed ▸ owned_key)
      rw [count, Option.some.inj (held.symm.trans held')]
      exact shared
    · intro respected _ owned_key
      exact ⟨entry, held, count ▸ respected c best (followed.trans owned_key)⟩
  · rw [same]
    simp only [JoinsBySharing, reduceCtorEq, or_self, false_implies, true_iff]
    intro c best
    obtain ⟨member, join⟩ := List.mem_filter.mp best.mem
    have claim := unclaimed c member
    simp [claims, join] at claim

/-- In binding mode ownership holds of every untagged solve that names no
anchor or has it honoured; of one whose anchor is refused it holds exactly when
the best candidate of the whole scan is not a followed key it shares too few
node tracks with. -/
theorem ownership_respected_iff (untagged : Untagged adsbHex)
    (binding : ctx.settings.darkFollowMode = .binding) :
    OwnershipRespected ctx tracks result adsbHex anchorKey anchorDr trackIds ↔
      namesAnchor anchorKey = false ∨ (honoredAnchor ctx tracks result anchorKey anchorDr).isSome ∨
      ∀ c, IsFirstMin Scanned.score ((scanCandidates ctx tracks result trackIds.dedup).filter fun c =>
          decide (c.distKm < c.gateKm)) c →
        c.followed = true → ctx.settings.trackLinkMinSharedJoin ≤ c.shared := by
  have joins : OwnershipRespected ctx tracks result adsbHex anchorKey anchorDr trackIds ↔
      JoinsBySharing ctx tracks result trackIds.dedup
        (multinodeKeyDecision ctx tracks result adsbHex anchorKey anchorDr trackIds) := Iff.rfl
  have inside : (fun c : Scanned => decide (c.distKm < c.gateKm)) = joinable false := by
    funext c
    simp [joinable, owned]
  rw [joins, inside, decision_untagged ctx tracks result untagged]
  cases honored : honoredAnchor ctx tracks result anchorKey anchorDr with
  | some d => simp [JoinsBySharing, (honoredAnchor_spec ctx tracks result honored).1]
  | none =>
    rw [Option.getD_none]
    cases named : namesAnchor anchorKey with
    | false =>
      have scanning : shadowScans ctx anchorKey = true := by simp [shadowScans, named, binding]
      rw [scanning]
      exact iff_of_true (joinsBySharing_of_scanning ctx tracks result _) (.inl rfl)
    | true =>
      have blind : shadowScans ctx anchorKey = false := by simp [shadowScans, named]
      rw [blind, joinsBySharing_blind_iff]
      simp

end

/-- Binding mode, with one key the follow lane published on a second ago. -/
def followingB : KeyingContext where
  geodesy := meridian
  settings := { darkFollowMode := .binding }
  learnedVel := fun _ => none
  lastFollowPublish := Dict.empty.insert "mn-dark-b" 0

def twoDarkTracks : Tracks :=
  (Dict.empty.insert "mn-dark-a" (still (some 1) (some 0) 0)).insert "mn-dark-b" (still (some 0) (some 0) 0)

theorem unanchored_solve_respects_ownership :
    OwnershipRespected followingB twoDarkTracks (still 0 0 1000) none none false [] :=
  (ownership_respected_iff followingB twoDarkTracks (still 0 0 1000) (by decide) rfl).mpr (.inl rfl)

/-- A solve refused by its own anchor, 111 km off, joins another followed key
with which it shares no track. -/
theorem refused_anchor_joins_followed_key :
    ¬ OwnershipRespected followingB twoDarkTracks (still 0 0 1000) none (some "mn-dark-a") false [] := by
  intro respected
  obtain ⟨entry, -, shared⟩ := respected (by decide +kernel) (by decide +kernel)
  have unshared : sharedRecentTracks followingB entry ([] : List String).dedup (still 0 0 1000 : Solve).tsS = 0 := by
    simp only [sharedRecentTracks]
    split <;> rfl
  rw [unshared] at shared
  exact absurd shared (by decide)

end Retina.Multinode
