import RetinaServer.Library.Selection
import RetinaServer.Multinode.Stores

/-! What exactly a solver publish absorbs. The supersession loop judges every
entry as it stood before the loop, since removing other keys changes nothing it
reads, so the removed entries are a filter of the store. -/
namespace Retina.Multinode
open HighWater

/-- Smoothing moves a solve and stamps it, and leaves the rest. -/
structure SmoothedFrom (smoothed result : Solve) : Prop where
  altM : smoothed.altM = result.altM
  nNodes : smoothed.nNodes = result.nNodes
  isAnomalous : smoothed.isAnomalous = result.isAnomalous
  anomalyTypes : smoothed.anomalyTypes = result.anomalyTypes
  maxNNodes : smoothed.maxNNodes = result.maxNNodes

theorem smoothSolve_smoothedFrom (env : SmootherEnv) (memory : Memory) (result : Solve) (trackKey : String)
    (adsbHex : Option String) (fix : Option AdsbFix) :
    SmoothedFrom (smoothSolve env memory result trackKey adsbHex fix).1 result := by
  obtain ⟨lat, lon, smoother, sigma, action, d2, innov, same⟩ := smoothSolve_writes env memory result trackKey adsbHex fix
  rw [same]
  exact ⟨rfl, rfl, rfl, rfl, rfl⟩

/-! ### Supersession -/

section
variable (cfg : Config)

/-- Of the context, the match reads the geodesy, the settings and the velocity
learned for the entry's own key. -/
theorem supersessionMatch_congr (ctx : KeyingContext) (learnedVel : String → Option (ℚ × ℚ))
    (same : learnedVel oldKey = ctx.learnedVel oldKey) (oldR : TrackEntry) (newIds : List String)
    (rawLat rawLon tsS : ℚ) (altM : Option ℚ) :
    supersessionMatch { ctx with learnedVel } oldKey oldR newIds rawLat rawLon tsS altM =
      supersessionMatch ctx oldKey oldR newIds rawLat rawLon tsS altM := by
  simp only [supersessionMatch, drDistKm, deadReckon, entryDrVelocity, same]

/-- An entry shares a source track with the solve, and the two match. -/
def isSuperseded (p : PublishInput) (key : String) (acc : Absorbed) (old : String × TrackEntry) : Bool :=
  decide (old.1 ≠ key) && (acc.result.sourceTrackIds.any fun tid => decide (tid ∈ old.2.sourceTrackIds)) &&
    (supersessionMatch (keyingContext cfg acc.stores p.lastFollowPublish) old.1 old.2 acc.result.sourceTrackIds
      p.result.lat p.result.lon p.result.tsS acc.result.altM).1

theorem supersedeStep_eq (p : PublishInput) (key : String) (acc : Absorbed) (old : String × TrackEntry) :
    supersedeStep cfg p key acc old = if isSuperseded cfg p key acc old then acc.forget cfg old.1 old.2 else acc := by
  by_cases own : old.1 = key
  · simp [supersedeStep, isSuperseded, own]
  · by_cases shared : acc.result.sourceTrackIds.any fun tid => decide (tid ∈ old.2.sourceTrackIds)
    · simp [supersedeStep, isSuperseded, own, shared]
    · simp only [Bool.not_eq_true] at shared
      simp [supersedeStep, isSuperseded, own, shared]

def forgetAll (acc : Absorbed) (items : List (String × TrackEntry)) : Absorbed :=
  items.foldl (fun acc old => acc.forget cfg old.1 old.2) acc

theorem isSuperseded_forget (p : PublishInput) (key : String) (acc : Absorbed) (forgotten : String × TrackEntry)
    (other : forgotten.1 ≠ old.1) :
    isSuperseded cfg p key (acc.forget cfg forgotten.1 forgotten.2) old = isSuperseded cfg p key acc old := by
  have learned : (forgetMnKey cfg acc.stores forgotten.1).memory.filters.learnedVelocity old.1 =
      acc.stores.memory.filters.learnedVelocity old.1 := by
    simp only [KfStore.learnedVelocity, forgetMnKey, Memory.drop, KfStore.dropKey, Dict.get?_erase_ne _ other]
  simp only [isSuperseded, Absorbed.forget]
  rw [← supersessionMatch_congr (keyingContext cfg acc.stores p.lastFollowPublish)
    (forgetMnKey cfg acc.stores forgotten.1).memory.filters.learnedVelocity learned]
  rfl

theorem foldl_supersedeStep (p : PublishInput) (key : String) (items : List (String × TrackEntry))
    (distinct : (items.map Prod.fst).Nodup) (acc : Absorbed) :
    items.foldl (supersedeStep cfg p key) acc = forgetAll cfg acc (items.filter (isSuperseded cfg p key acc)) := by
  induction items generalizing acc with
  | nil => rfl
  | cons old rest ih =>
    rw [List.map_cons, List.nodup_cons] at distinct
    rw [List.foldl_cons, supersedeStep_eq, List.filter_cons]
    by_cases removed : isSuperseded cfg p key acc old = true
    · have unaffected : ∀ later ∈ rest, isSuperseded cfg p key (acc.forget cfg old.1 old.2) later =
          isSuperseded cfg p key acc later := by
        intro later member
        apply isSuperseded_forget
        intro same
        exact distinct.1 (same ▸ List.mem_map_of_mem member)
      rw [if_pos removed, if_pos removed, ih distinct.2, List.filter_congr unaffected]
      rfl
    · rw [if_neg removed, if_neg removed, ih distinct.2]

theorem supersede_eq (p : PublishInput) (key : String) (acc : Absorbed) :
    supersede cfg p key acc =
      forgetAll cfg acc (acc.stores.tracks.items.filter (isSuperseded cfg p key acc)) := by
  simp only [supersede]
  split
  · rename_i untracked
    have kept : acc.stores.tracks.items.filter (isSuperseded cfg p key acc) = [] := by
      simp [isSuperseded, untracked]
    rw [kept]
    rfl
  · exact foldl_supersedeStep cfg p key _ acc.stores.tracks.nodup acc

/-! ### The retired entry -/

/-- The coasting entry that a mint replaces. -/
def retiredBy (p : PublishInput) (decision : KeyDecision) (acc : Absorbed) : Option (String × TrackEntry) :=
  if cfg.coast.mnStaleCoastEnabled ∧ decision.how = .minted ∧ decision.key.startsWith darkPrefix then
    match staleCoastCandidate (keyingContext cfg acc.stores p.lastFollowPublish) cfg.coast
        ⟨p.wasDropped, acc.stores.memory.filters.manoeuvreLevel⟩ acc.stores.tracks decision.key
        p.result.lat p.result.lon p.result.tsS acc.result.altM with
    | .error _ => none
    | .ok coastKey => (acc.stores.tracks.get? coastKey).map fun coastR => (coastKey, coastR)
  else none

def Absorbed.retire (acc : Absorbed) (coast : String × TrackEntry) : Absorbed :=
  { acc.forget cfg coast.1 coast.2 with
    result := { latch (some coast.2) acc.result with predecessorKey := some coast.1 }
    coastRecentIds := coast.2.recentTrackIds }

theorem retireCoast_eq (p : PublishInput) (decision : KeyDecision) (acc : Absorbed) :
    retireCoast cfg p decision acc = ((retiredBy cfg p decision acc).map (acc.retire cfg)).getD acc := by
  simp only [retireCoast, retiredBy]
  split
  · split
    · rename_i refused
      simp [refused]
    · rename_i coastKey found
      split
      · rename_i gone
        simp [found, gone]
      · rename_i live
        simp [found, live, Absorbed.retire]
  · rfl

theorem retiredBy_live (retired : retiredBy cfg p decision acc = some coast) :
    coast.1 ≠ decision.key ∧ coast.1.startsWith darkPrefix = true ∧ acc.stores.tracks.get? coast.1 = some coast.2 := by
  simp only [retiredBy] at retired
  split at retired
  · split at retired
    · cases retired
    · rename_i coastKey found
      obtain ⟨r, distinct, dark, -⟩ := staleCoastCandidate_live _ found
      obtain ⟨coastR, live, rfl⟩ := Option.map_eq_some_iff.mp retired
      exact ⟨distinct, dark, live⟩
  · cases retired

/-! ### The whole publish -/

theorem forgetAll_spec (acc : Absorbed) (items : List (String × TrackEntry)) :
    (forgetAll cfg acc items).stores = (items.map Prod.fst).foldl (forgetMnKey cfg) acc.stores ∧
    (forgetAll cfg acc items).result = acc.result ∧
    (forgetAll cfg acc items).solveCount = max acc.solveCount (peak (items.map fun old => old.2.solveCount)) ∧
    (forgetAll cfg acc items).nNodes =
      max acc.nNodes (peak (items.map fun old => max old.2.maxNNodes old.2.nNodes)) := by
  induction items generalizing acc with
  | nil => simp [forgetAll]
  | cons old rest ih =>
    obtain ⟨stores, result, solveCount, nNodes⟩ := ih (acc.forget cfg old.1 old.2)
    have unfolded : forgetAll cfg acc (old :: rest) = forgetAll cfg (acc.forget cfg old.1 old.2) rest := rfl
    rw [unfolded]
    refine ⟨stores, result, ?_, ?_⟩
    · rw [solveCount, List.map_cons, peak_cons, ← max_assoc]
      rfl
    · rw [nNodes, List.map_cons, peak_cons, ← max_assoc]
      rfl

/-- The publish before it absorbs anything: smoothed, latched to its own entry and named. -/
def begun (p : PublishInput) (s : Stores) : Absorbed :=
  let (smoothed, memory) := smoothedSolve cfg p (publishDecision cfg p s) s
  { stores := { s with memory }, result := smoothed }

/-- The entries that supersession removes. -/
def supersededBy (p : PublishInput) (s : Stores) : List (String × TrackEntry) :=
  s.tracks.items.filter (isSuperseded cfg p (publishDecision cfg p s).key (begun cfg p s))

/-- The entry that the mint retires, of those supersession left. -/
def retiredFor (p : PublishInput) (s : Stores) : Option (String × TrackEntry) :=
  retiredBy cfg p (publishDecision cfg p s) (forgetAll cfg (begun cfg p s) (supersededBy cfg p s))

/-- The entries of other keys that the publish takes in. -/
def takenIn (p : PublishInput) (s : Stores) : List (String × TrackEntry) :=
  supersededBy cfg p s ++ (retiredFor cfg p s).toList

def storedEntry (p : PublishInput) (s : Stores) : TrackEntry :=
  publishedEntry cfg p (s.tracks.get? (publishDecision cfg p s).key) (absorb cfg p (publishDecision cfg p s) s) s

theorem absorb_eq (p : PublishInput) (s : Stores) :
    absorb cfg p (publishDecision cfg p s) s =
      ((retiredFor cfg p s).map ((forgetAll cfg (begun cfg p s) (supersededBy cfg p s)).retire cfg)).getD
        (forgetAll cfg (begun cfg p s) (supersededBy cfg p s)) := by
  simp only [absorb, retireCoast_eq, supersede_eq, retiredFor]
  rfl

theorem absorb_stores (p : PublishInput) (s : Stores) :
    (absorb cfg p (publishDecision cfg p s) s).stores =
      ((takenIn cfg p s).map Prod.fst).foldl (forgetMnKey cfg) (begun cfg p s).stores := by
  rw [absorb_eq, takenIn, List.map_append, List.foldl_append]
  cases retired : retiredFor cfg p s with
  | none => exact (forgetAll_spec cfg _ _).1
  | some coast =>
    simp only [Option.map_some, Option.getD_some, Absorbed.retire, Absorbed.forget, Option.toList_some,
      List.map_cons, List.map_nil, List.foldl_cons, List.foldl_nil, (forgetAll_spec cfg _ _).1]

theorem published_tracks (p : PublishInput) (s : Stores) (kept : (publishDecision cfg p s).how ≠ .shadowed)
    (k : String) :
    (publishSolve cfg p s).tracks.get? k =
      if (publishDecision cfg p s).key = k then some (storedEntry cfg p s)
      else if k ∈ (takenIn cfg p s).map Prod.fst then none else s.tracks.get? k := by
  simp only [publishSolve, if_neg kept, Dict.get?_insert, absorb_stores,
    (forgetMnKey_removes cfg).foldl_tracks]
  rfl

theorem published_shadowed (p : PublishInput) (s : Stores) (shadowed : (publishDecision cfg p s).how = .shadowed) :
    publishSolve cfg p s = s := by
  simp only [publishSolve, if_pos shadowed]

/-! What the stored entry carries of the solve, of the entry it replaces and of
those it takes in. -/

theorem storedEntry_alarms (p : PublishInput) (s : Stores) :
    (storedEntry cfg p s).isAnomalous = (p.result.isAnomalous ||
        (s.tracks.get? (publishDecision cfg p s).key).any TrackRecord.isAnomalous ||
        (retiredFor cfg p s).any fun coast => coast.2.isAnomalous) ∧
    ∀ kind, kind ∈ (storedEntry cfg p s).anomalyTypes ↔ kind ∈ p.result.anomalyTypes ∨
      (∃ prev ∈ s.tracks.get? (publishDecision cfg p s).key, kind ∈ prev.anomalyTypes) ∨
      ∃ coast ∈ retiredFor cfg p s, kind ∈ coast.2.anomalyTypes := by
  have smoothed := smoothSolve_smoothedFrom cfg.smoother s.memory p.result (publishDecision cfg p s).key p.adsbHex p.fix
  have absorbed := (forgetAll_spec cfg (begun cfg p s) (supersededBy cfg p s)).2.1
  have own : (begun cfg p s).result.isAnomalous = (p.result.isAnomalous ||
        (s.tracks.get? (publishDecision cfg p s).key).any TrackRecord.isAnomalous) ∧
      ∀ kind, kind ∈ (begun cfg p s).result.anomalyTypes ↔ kind ∈ p.result.anomalyTypes ∨
        ∃ prev ∈ s.tracks.get? (publishDecision cfg p s).key, kind ∈ prev.anomalyTypes := by
    simp only [begun, smoothedSolve]
    cases s.tracks.get? (publishDecision cfg p s).key with
    | none => simp [latch, smoothed.isAnomalous, smoothed.anomalyTypes]
    | some prev => simp [latch, smoothed.isAnomalous, smoothed.anomalyTypes]
  simp only [storedEntry, publishedEntry, TrackRecord.stored, absorb_eq]
  cases retiredFor cfg p s with
  | none => simp [absorbed, own]
  | some coast => simp [Absorbed.retire, latch, absorbed, own, or_assoc]

theorem storedEntry_marks (p : PublishInput) (s : Stores) :
    (storedEntry cfg p s).nNodes = p.result.nNodes ∧
    (storedEntry cfg p s).maxNNodes =
      max (((s.tracks.get? (publishDecision cfg p s).key).map fun prev => max prev.maxNNodes prev.nNodes).getD 0)
        (max (peak ((takenIn cfg p s).map fun old => max old.2.maxNNodes old.2.nNodes)) p.result.nNodes) ∧
    (storedEntry cfg p s).solveCount =
      max (((s.tracks.get? (publishDecision cfg p s).key).map TrackRecord.solveCount).getD 0)
        (peak ((takenIn cfg p s).map fun old => old.2.solveCount)) + 1 := by
  have smoothed := smoothSolve_smoothedFrom cfg.smoother s.memory p.result (publishDecision cfg p s).key p.adsbHex p.fix
  obtain ⟨-, result, solveCount, nNodes⟩ := forgetAll_spec cfg (begun cfg p s) (supersededBy cfg p s)
  have own : (begun cfg p s).result.nNodes = p.result.nNodes := by
    simp only [begun, smoothedSolve, latch]
    split <;> exact smoothed.nNodes
  have zeroes : (begun cfg p s).solveCount = 0 ∧ (begun cfg p s).nNodes = 0 := ⟨rfl, rfl⟩
  have prior : max (((s.tracks.get? (publishDecision cfg p s).key).map TrackRecord.maxNNodes).getD 0)
      (((s.tracks.get? (publishDecision cfg p s).key).map TrackRecord.nNodes).getD 0) =
      ((s.tracks.get? (publishDecision cfg p s).key).map fun prev => max prev.maxNNodes prev.nNodes).getD 0 := by
    cases s.tracks.get? (publishDecision cfg p s).key <;> simp
  simp only [storedEntry, publishedEntry, TrackRecord.stored, absorb_eq, prior, takenIn]
  cases retiredFor cfg p s with
  | none => simp [result, solveCount, nNodes, own, zeroes]
  | some coast => simp [Absorbed.retire, Absorbed.forget, latch, result, solveCount, nNodes, own, zeroes]

/-! ### The entries a publication absorbs -/

/-- The entries that a publication replaces or removes. -/
def absorbedBy (s : Stores) (pub : Publication) : List (String × TrackEntry) :=
  match pub.target cfg s with
  | none => []
  | some key => s.tracks.items.filter fun item =>
      decide (item.1 = key) || ((pub.apply cfg s).tracks.get? item.1).isNone

theorem live_of_absorbedBy (absorbed : old ∈ absorbedBy cfg s pub) : s.tracks.get? old.1 = some old.2 := by
  simp only [absorbedBy] at absorbed
  split at absorbed
  · simp at absorbed
  · exact (Dict.get?_eq_some_iff _ _ _).mpr (List.mem_filter.mp absorbed).1

theorem takenIn_live (p : PublishInput) (s : Stores) (taken : old ∈ takenIn cfg p s) :
    old.1 ≠ (publishDecision cfg p s).key ∧ s.tracks.get? old.1 = some old.2 := by
  rcases List.mem_append.mp taken with superseded | retired
  · obtain ⟨listed, matched⟩ := List.mem_filter.mp superseded
    simp only [isSuperseded, Bool.and_eq_true, decide_eq_true_eq] at matched
    exact ⟨matched.1.1, (Dict.get?_eq_some_iff s.tracks old.1 old.2).mpr listed⟩
  · obtain ⟨other, -, live⟩ := retiredBy_live cfg (Option.mem_toList.mp retired)
    rw [(forgetAll_spec cfg _ _).1, (forgetMnKey_removes cfg).foldl_tracks] at live
    split at live
    · cases live
    · exact ⟨other, live⟩

/-- A solver publish absorbs its key's entry and those it takes in. -/
theorem mem_absorbedBy_solver (p : PublishInput) (s : Stores) (kept : (publishDecision cfg p s).how ≠ .shadowed)
    (old : String × TrackEntry) :
    old ∈ absorbedBy cfg s (.solver p) ↔
      old.1 = (publishDecision cfg p s).key ∧ s.tracks.get? (publishDecision cfg p s).key = some old.2 ∨
        old ∈ takenIn cfg p s := by
  simp only [absorbedBy, Publication.target, if_neg kept, List.mem_filter, Bool.or_eq_true, decide_eq_true_eq,
    Option.isNone_iff_eq_none, Publication.apply, published_tracks cfg p s kept]
  rw [← Dict.get?_eq_some_iff s.tracks old.1 old.2]
  constructor
  · rintro ⟨live, own | gone⟩
    · exact .inl ⟨own, own ▸ live⟩
    · split at gone
      · cases gone
      · split at gone
        · rename_i member
          obtain ⟨taken, listed, same⟩ := List.mem_map.mp member
          have entry := (takenIn_live cfg p s listed).2
          rw [same, live] at entry
          have equal : taken = old := Prod.ext same (Option.some.inj entry).symm
          exact .inr (equal ▸ listed)
        · rw [live] at gone
          cases gone
  · rintro (⟨own, live⟩ | taken)
    · exact ⟨own ▸ live, .inl own⟩
    · obtain ⟨other, live⟩ := takenIn_live cfg p s taken
      exact ⟨live, .inr (by rw [if_neg (Ne.symm other), if_pos (List.mem_map_of_mem taken)])⟩

theorem absorbedBy_shadowed (p : PublishInput) (s : Stores) (shadowed : (publishDecision cfg p s).how = .shadowed) :
    absorbedBy cfg s (.solver p) = [] := by
  simp only [absorbedBy, Publication.target, if_pos shadowed]

/-- A known-lane publish absorbs its key's entry only. -/
theorem mem_absorbedBy_known (hexn : String) (result : Solve) (fix : Option AdsbFix) (lastFollowPublish : Dict String ℚ)
    (s : Stores) (old : String × TrackEntry) :
    old ∈ absorbedBy cfg s (.known hexn result fix lastFollowPublish) ↔
      old.1 = (knownDecision cfg hexn (knownResult hexn result) lastFollowPublish s).key ∧
        s.tracks.get? (knownDecision cfg hexn (knownResult hexn result) lastFollowPublish s).key = some old.2 := by
  simp only [absorbedBy, Publication.target, Publication.decision, List.mem_filter, Bool.or_eq_true, decide_eq_true_eq,
    Option.isNone_iff_eq_none, Publication.apply, publishKnown, Dict.get?_insert]
  rw [← Dict.get?_eq_some_iff s.tracks old.1 old.2]
  constructor
  · rintro ⟨live, own | gone⟩
    · exact ⟨own, own ▸ live⟩
    · split at gone
      · cases gone
      · rw [live] at gone
        cases gone
  · rintro ⟨own, live⟩
    exact ⟨own ▸ live, .inl own⟩

/-! ### Transponders -/

/-- The key names a transponder, and not the solve's own. -/
def OtherTransponder (adsbHex : Option String) (key : String) : Prop :=
  ∃ hex, key = adsbPrefix ++ hex ∧ adsbHex ≠ some hex

theorem OtherTransponder.not_dark (other : OtherTransponder adsbHex key) : key.startsWith darkPrefix = false := by
  obtain ⟨hex, rfl, -⟩ := other
  rw [String.startsWith_string_eq_false_iff]
  rw [String.toList_append]
  rintro ⟨rest, split⟩
  simp [adsbPrefix, darkPrefix] at split

def SparesTransponders (p : PublishInput) (s : Stores) : Prop :=
  ∀ k r, s.tracks.get? k = some r → OtherTransponder p.adsbHex k → (publishSolve cfg p s).tracks.get? k ≠ none

/-- Of the smoothed and named solve, supersession reads its node tracks and its altitude. -/
theorem isSuperseded_begun (p : PublishInput) (s : Stores) (old : String × TrackEntry)
    (other : old.1 ≠ (publishDecision cfg p s).key) :
    isSuperseded cfg p (publishDecision cfg p s).key (begun cfg p s) old =
      ((p.trackIds.insertionSort (· ≤ ·)).any (fun tid => decide (tid ∈ old.2.sourceTrackIds)) &&
        (supersessionMatch (keyingContext cfg (begun cfg p s).stores p.lastFollowPublish) old.1 old.2
          (p.trackIds.insertionSort (· ≤ ·)) p.result.lat p.result.lon p.result.tsS p.result.altM).1) := by
  have altitude : (begun cfg p s).result.altM = p.result.altM := by
    have smoothed :=
      smoothSolve_smoothedFrom cfg.smoother s.memory p.result (publishDecision cfg p s).key p.adsbHex p.fix
    simp only [begun, smoothedSolve, latch]
    split <;> exact smoothed.altM
  have named : (begun cfg p s).result.sourceTrackIds = p.trackIds.insertionSort (· ≤ ·) := rfl
  simp only [isSuperseded, other, named, altitude, ne_eq, not_false_eq_true, decide_true, Bool.true_and]

/-- A publish takes no other transponder's entry exactly when it is withheld, or
no such entry shares a source track with the solve and matches it. -/
theorem spares_transponders_iff (p : PublishInput) (s : Stores) :
    SparesTransponders cfg p s ↔ (publishDecision cfg p s).how = .shadowed ∨
      ∀ k r, s.tracks.get? k = some r → OtherTransponder p.adsbHex k → k ≠ (publishDecision cfg p s).key →
        (∃ tid ∈ p.trackIds, tid ∈ r.sourceTrackIds) →
        (supersessionMatch (keyingContext cfg (begun cfg p s).stores p.lastFollowPublish) k r
          (p.trackIds.insertionSort (· ≤ ·)) p.result.lat p.result.lon p.result.tsS p.result.altM).1 = false := by
  by_cases shadowed : (publishDecision cfg p s).how = .shadowed
  · refine iff_of_true ?_ (.inl shadowed)
    intro k r live _
    rw [published_shadowed cfg p s shadowed, live]
    simp
  · have taken (k : String) (r : TrackEntry) (live : s.tracks.get? k = some r)
        (other : k ≠ (publishDecision cfg p s).key) :
        (k, r) ∈ supersededBy cfg p s ↔ (∃ tid ∈ p.trackIds, tid ∈ r.sourceTrackIds) ∧
          (supersessionMatch (keyingContext cfg (begun cfg p s).stores p.lastFollowPublish) k r
            (p.trackIds.insertionSort (· ≤ ·)) p.result.lat p.result.lon p.result.tsS p.result.altM).1 = true := by
      rw [supersededBy, List.mem_filter, isSuperseded_begun cfg p s (k, r) other]
      simp [(Dict.get?_eq_some_iff s.tracks k r).mp live]
    simp only [shadowed, false_or]
    constructor
    · intro spares k r live foreign other shared
      by_contra matched
      rw [Bool.not_eq_false] at matched
      have gone : k ∈ (takenIn cfg p s).map Prod.fst := by
        rw [takenIn, List.map_append, List.mem_append]
        exact .inl (List.mem_map_of_mem ((taken k r live other).mpr ⟨shared, matched⟩))
      have absent := spares k r live foreign
      rw [published_tracks cfg p s shadowed, if_neg (Ne.symm other), if_pos gone] at absent
      exact absent rfl
    · intro unmatched k r live foreign
      rw [published_tracks cfg p s shadowed]
      split
      · simp
      · rename_i other
        rw [if_neg, live]
        · simp
        intro gone
        obtain ⟨⟨_, r'⟩, member, rfl⟩ := List.mem_map.mp gone
        rcases List.mem_append.mp member with superseded | retired
        · have listed := (Dict.get?_eq_some_iff s.tracks _ _).mpr (List.mem_filter.mp superseded).1
          obtain ⟨shared, matched⟩ := (taken _ _ listed (Ne.symm other)).mp superseded
          rw [unmatched _ _ listed foreign (Ne.symm other) shared] at matched
          cases matched
        · have coasting := (retiredBy_live cfg (Option.mem_toList.mp retired)).2.1
          rw [foreign.not_dark] at coasting
          cases coasting

end

/-- A transponder's aircraft is solved, and a second later a solve without one
lands beside it, from a node track of the first. -/
def taggedSolve : PublishInput where
  result := still 0 0 0
  adsbHex := some "abc123"
  trackIds := ["a", "b"]

def untaggedSolve : PublishInput where
  result := still (1 / 100) 0 1000
  trackIds := ["b", "c"]

theorem untagged_solve_takes_transponder :
    ¬ ∀ cfg p s, SparesTransponders cfg p s := by
  intro spares
  have live : ((publishSolve meridianConfig taggedSolve Stores.boot).tracks.get? "mn-adsb-abc123").isSome := by
    decide +kernel
  have gone : (publishSolve meridianConfig untaggedSolve
      (publishSolve meridianConfig taggedSolve Stores.boot)).tracks.get? "mn-adsb-abc123" = none := by
    decide +kernel
  obtain ⟨r, found⟩ := Option.isSome_iff_exists.mp live
  exact spares meridianConfig untaggedSolve (publishSolve meridianConfig taggedSolve Stores.boot) "mn-adsb-abc123" r
    found ⟨"abc123", rfl, by decide⟩ gone

end Retina.Multinode
