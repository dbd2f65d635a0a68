import RetinaServer.Known.Lifetimes

/-! What a node currently detects, as the miss rate and the disappearance detector read it: the hexes of its
tracker's tracks that were hit on the latest frame, and the keys it holds a fresh claim on. -/
namespace Retina.Analytics
open Lifetimes Known
open Frames (AdsbTag)

/-- A track of a node's tracker, as far as it is read here. `recent` is the tag of its newest detection. -/
structure TrackerTrack where
  nMissed : ℤ
  recent : Option AdsbTag
  adsbHex : Option String

def lower (text : String) : String := String.ofList (text.toList.map Char.toLower)

/-- A text that counts: neither absent nor empty. -/
def truthy (text : Option String) : Option String := text.filter fun t => decide (t ≠ "")

/-- The tag of the newest detection outranks the track's own hex, which goes stale when the track swaps. -/
def TrackerTrack.hexVal (track : TrackerTrack) : Option String :=
  (truthy (track.recent.bind (·.hex))).or (truthy track.adsbHex)

/-- The hex of a track that was hit on the latest frame. A coasting track is not a detection. -/
def TrackerTrack.detectedHex (track : TrackerTrack) : Option String :=
  if track.nMissed ≠ 0 then none else track.hexVal.map lower

def trackHexes (tracks : List TrackerTrack) : Finset String := (tracks.filterMap TrackerTrack.detectedHex).toFinset

section
variable (nodeId : String) (nowS : ℚ)

/-- One key of the registry. The claims of a key that is already counted are not looked at. -/
def countKey (detected : Finset String) (item : String × List KnownClaim) : Finset String :=
  if item.1 = "" ∨ lower item.1 ∈ detected then detected
  else if (creditedClaim nowS nodeId item.2).isSome then insert (lower item.1) detected
  else detected

/-- A node without a pipeline has no tracks. -/
def detectedHexesFor (tracks : List TrackerTrack) (knownClaims : Dict String (List KnownClaim)) : Finset String :=
  knownClaims.items.foldl (countKey nodeId nowS) (trackHexes tracks)

end

/-! ### What the set is for -/

/-- A claim of the node that is no older than the window the map draws a claimed aircraft in. -/
def FreshClaim (nodeId : String) (nowS : ℚ) (claim : KnownClaim) : Prop :=
  claim.nodeId = nodeId ∧ freshCutoffMs nowS ≤ claim.tsMs

/-- Follow claims are in the registry under the dark track's key. -/
def isDarkKey (hexn : String) : Bool := hexn.startsWith Multinode.darkPrefix

/-- The hexes a node detects: those of the tracks hit on the latest frame, and every ADS-B hex that some fresh claim
of the node is on. -/
def Detects (nodeId : String) (nowS : ℚ) (tracks : List TrackerTrack) (knownClaims : Dict String (List KnownClaim))
    (hexn : String) : Prop :=
  hexn ∈ trackHexes tracks ∨
    isDarkKey hexn = false ∧ ∃ key queue, knownClaims.get? key = some queue ∧ key ≠ "" ∧ lower key = hexn ∧
      ∃ claim ∈ queue, FreshClaim nodeId nowS claim

/-- A fresh claim of the node such that no claim appended after it, by any node, is older than the cutoff. -/
def Reached (nodeId : String) (nowS : ℚ) (queue : List KnownClaim) : Prop :=
  ∃ older claim newer, queue = older ++ claim :: newer ∧ FreshClaim nodeId nowS claim ∧
    ∀ later ∈ newer, freshCutoffMs nowS ≤ later.tsMs

/-! ### The scan of one queue -/

theorem creditNewest_isSome_iff (cutoffMs : ℚ) (nodeId : String) (queue : List KnownClaim) :
    (creditNewest cutoffMs nodeId queue).isSome ↔
      ∃ newer claim older, queue = newer ++ claim :: older ∧ claim.nodeId = nodeId ∧ cutoffMs ≤ claim.tsMs ∧
        ∀ later ∈ newer, cutoffMs ≤ later.tsMs := by
  induction queue with
  | nil => simp [creditNewest]
  | cons first rest ih =>
    rw [creditNewest]
    split
    · rename_i old
      -- the first claim is too old: it is in `newer`, or it is the claim itself
      simp only [Option.isSome_none, Bool.false_eq_true, false_iff]
      rintro ⟨newer, claim, older, split, -, fresh, reached⟩
      cases newer with
      | nil =>
        obtain ⟨rfl, -⟩ := List.cons.inj split
        exact absurd old (not_lt.mpr fresh)
      | cons last newer =>
        obtain ⟨rfl, -⟩ := List.cons.inj split
        exact absurd old (not_lt.mpr (reached first (by simp)))
    · rename_i late
      have fresh := not_lt.mp late
      split
      · rename_i own
        simp only [Option.isSome_some, true_iff]
        exact ⟨[], first, rest, rfl, own, fresh, by simp⟩
      · rename_i other
        rw [ih]
        constructor
        · rintro ⟨newer, claim, older, rfl, own, late, reached⟩
          refine ⟨first :: newer, claim, older, rfl, own, late, ?_⟩
          intro later member
          rcases List.mem_cons.mp member with rfl | member
          · exact fresh
          · exact reached later member
        · rintro ⟨newer, claim, older, split, own, late, reached⟩
          cases newer with
          | nil =>
            obtain ⟨rfl, -⟩ := List.cons.inj split
            exact absurd own other
          | cons last newer =>
            obtain ⟨rfl, rfl⟩ := List.cons.inj split
            exact ⟨newer, claim, older, rfl, own, late, fun later member => reached later (by simp [member])⟩

theorem creditedClaim_isSome_iff (nodeId : String) (nowS : ℚ) (queue : List KnownClaim) :
    (creditedClaim nowS nodeId queue).isSome ↔ Reached nodeId nowS queue := by
  rw [creditedClaim, creditNewest_isSome_iff]
  constructor
  · rintro ⟨newer, claim, older, split, own, fresh, reached⟩
    refine ⟨older.reverse, claim, newer.reverse, ?_, ⟨own, fresh⟩, by simpa using reached⟩
    have whole := congrArg List.reverse split
    simpa using whole
  · rintro ⟨older, claim, newer, rfl, ⟨own, fresh⟩, reached⟩
    exact ⟨newer.reverse, claim, older.reverse, by simp, own, fresh, by simpa using reached⟩

theorem Reached.fresh (reached : Reached nodeId nowS queue) : ∃ claim ∈ queue, FreshClaim nodeId nowS claim := by
  obtain ⟨older, claim, newer, rfl, fresh, -⟩ := reached
  exact ⟨claim, by simp, fresh⟩

/-- Where claims are appended in the order of their stamps, as the scan takes them to be, it misses no fresh one. -/
theorem reached_of_ordered (ordered : queue.Pairwise fun first later : KnownClaim => first.tsMs ≤ later.tsMs)
    (member : claim ∈ queue) (fresh : FreshClaim nodeId nowS claim) : Reached nodeId nowS queue := by
  obtain ⟨older, newer, rfl⟩ := List.append_of_mem member
  refine ⟨older, claim, newer, rfl, fresh, fun later after => ?_⟩
  have inOrder := (List.pairwise_cons.mp (List.pairwise_append.mp ordered).2.1).1 later after
  exact fresh.2.trans (by exact_mod_cast inOrder)

/-! ### The whole registry -/

theorem mem_countKey (nodeId : String) (nowS : ℚ) (detected : Finset String) (item : String × List KnownClaim)
    (hexn : String) :
    hexn ∈ countKey nodeId nowS detected item ↔
      hexn ∈ detected ∨ item.1 ≠ "" ∧ lower item.1 = hexn ∧ Reached nodeId nowS item.2 := by
  rw [countKey]
  split
  · rename_i skipped
    refine ⟨Or.inl, ?_⟩
    rintro (counted | ⟨named, rfl, -⟩)
    · exact counted
    · exact skipped.resolve_left named
  · rename_i looked
    obtain ⟨named, -⟩ := not_or.mp looked
    split
    · rename_i credited
      have reached := (creditedClaim_isSome_iff nodeId nowS item.2).mp credited
      rw [Finset.mem_insert]
      constructor
      · rintro (rfl | counted)
        · exact .inr ⟨named, rfl, reached⟩
        · exact .inl counted
      · rintro (counted | ⟨-, rfl, -⟩)
        · exact .inr counted
        · exact .inl rfl
    · rename_i uncredited
      have unreached : ¬ Reached nodeId nowS item.2 := fun h =>
        uncredited ((creditedClaim_isSome_iff nodeId nowS item.2).mpr h)
      exact ⟨Or.inl, fun h => h.resolve_right fun found => unreached found.2.2⟩

theorem mem_foldl_countKey (nodeId : String) (nowS : ℚ) (items : List (String × List KnownClaim))
    (detected : Finset String) (hexn : String) :
    hexn ∈ items.foldl (countKey nodeId nowS) detected ↔
      hexn ∈ detected ∨ ∃ item ∈ items, item.1 ≠ "" ∧ lower item.1 = hexn ∧ Reached nodeId nowS item.2 := by
  induction items generalizing detected with
  | nil => simp
  | cons item rest ih =>
    rw [List.foldl_cons, ih, mem_countKey]
    simp only [List.mem_cons, exists_eq_or_imp, or_assoc]

theorem mem_detectedHexesFor (nodeId : String) (nowS : ℚ) (tracks : List TrackerTrack)
    (knownClaims : Dict String (List KnownClaim)) (hexn : String) :
    hexn ∈ detectedHexesFor nodeId nowS tracks knownClaims ↔
      hexn ∈ trackHexes tracks ∨ ∃ key queue, knownClaims.get? key = some queue ∧ key ≠ "" ∧ lower key = hexn ∧
        Reached nodeId nowS queue := by
  rw [detectedHexesFor, mem_foldl_countKey]
  simp only [Prod.exists, Dict.get?_eq_some_iff]

/-- No hit track and no queue with a reached claim is of a dark track, and every ADS-B hex that has a fresh claim of
the node and no hit track has a reached one. -/
structure ScanSees (nodeId : String) (nowS : ℚ) (tracks : List TrackerTrack)
    (knownClaims : Dict String (List KnownClaim)) : Prop where
  tracksTagged : ∀ hexn ∈ trackHexes tracks, isDarkKey hexn = false
  darkUnreached : ∀ key queue, knownClaims.get? key = some queue → key ≠ "" → isDarkKey (lower key) = true →
    ¬ Reached nodeId nowS queue
  freshReached : ∀ key queue, knownClaims.get? key = some queue → key ≠ "" → isDarkKey (lower key) = false →
    (∃ claim ∈ queue, FreshClaim nodeId nowS claim) → lower key ∉ trackHexes tracks →
    ∃ key' queue', knownClaims.get? key' = some queue' ∧ key' ≠ "" ∧ lower key' = lower key ∧ Reached nodeId nowS queue'

/-- The set is exact just when the scan sees what it should and no more. -/
theorem detected_exact_iff (nodeId : String) (nowS : ℚ) (tracks : List TrackerTrack)
    (knownClaims : Dict String (List KnownClaim)) :
    (∀ hexn, (hexn ∈ detectedHexesFor nodeId nowS tracks knownClaims ↔
        Detects nodeId nowS tracks knownClaims hexn) ∧
      (hexn ∈ detectedHexesFor nodeId nowS tracks knownClaims → isDarkKey hexn = false)) ↔
      ScanSees nodeId nowS tracks knownClaims := by
  constructor
  · intro exact
    refine ⟨fun hexn hit => (exact hexn).2 ((mem_detectedHexesFor ..).mpr (.inl hit)), ?_, ?_⟩
    · intro key queue found named dark reached
      have counted := (mem_detectedHexesFor nodeId nowS tracks knownClaims (lower key)).mpr
        (.inr ⟨key, queue, found, named, rfl, reached⟩)
      have adsb := (exact (lower key)).2 counted
      exact absurd (dark.symm.trans adsb) (by decide)
    · intro key queue found named adsb fresh untracked
      have counted := (exact (lower key)).1.mpr (.inr ⟨adsb, key, queue, found, named, rfl, fresh⟩)
      exact ((mem_detectedHexesFor ..).mp counted).resolve_left untracked
  · intro sees hexn
    have adsb : hexn ∈ detectedHexesFor nodeId nowS tracks knownClaims → isDarkKey hexn = false := by
      intro counted
      rcases (mem_detectedHexesFor ..).mp counted with hit | ⟨key, queue, found, named, rfl, reached⟩
      · exact sees.tracksTagged hexn hit
      · exact Bool.eq_false_iff.mpr fun dark => sees.darkUnreached key queue found named dark reached
    refine ⟨⟨fun counted => ?_, fun detects => ?_⟩, adsb⟩
    · rcases (mem_detectedHexesFor ..).mp counted with hit | ⟨key, queue, found, named, same, reached⟩
      · exact .inl hit
      · exact .inr ⟨adsb counted, key, queue, found, named, same, reached.fresh⟩
    · rw [mem_detectedHexesFor]
      rcases detects with hit | ⟨notDark, key, queue, found, named, rfl, fresh⟩
      · exact .inl hit
      · by_cases hit : lower key ∈ trackHexes tracks
        · exact .inl hit
        · exact .inr (sees.freshReached key queue found named notDark fresh hit)

def claimAt (nodeId : String) (tsMs : ℤ) : KnownClaim where
  nodeId := nodeId
  delayUs := 20
  dopplerHz := 10
  predDelayUs := 20
  predDopplerHz := 10
  tsMs := tsMs
  carried := .adsb ⟨34, -82, none, none, none, tsMs⟩
  contested := false

/-- A fresh claim of one node, and after it a claim that arrived from a node whose clock runs six seconds behind. -/
def lateArrival : Dict String (List KnownClaim) :=
  (appendClaim (appendClaim .empty "abc123" (claimAt "node-1" 100000)) "abc123" (claimAt "node-2" 94000))

theorem fresh_claim_missed :
    ¬ ∀ (nodeId : String) (nowS : ℚ) (tracks : List TrackerTrack) (knownClaims : Dict String (List KnownClaim)),
      ∀ hexn, (hexn ∈ detectedHexesFor nodeId nowS tracks knownClaims ↔
          Detects nodeId nowS tracks knownClaims hexn) ∧
        (hexn ∈ detectedHexesFor nodeId nowS tracks knownClaims → isDarkKey hexn = false) := by
  intro exact
  have detects : Detects "node-1" 100 [] lateArrival "abc123" :=
    .inr ⟨by decide +kernel, "abc123", [claimAt "node-1" 100000, claimAt "node-2" 94000], by decide +kernel, by decide,
      by decide +kernel, claimAt "node-1" 100000, by simp, rfl, by decide +kernel⟩
  have missed : "abc123" ∉ detectedHexesFor "node-1" 100 [] lateArrival := by decide +kernel
  exact missed ((exact "node-1" 100 [] lateArrival "abc123").1.mpr detects)

end Retina.Analytics
