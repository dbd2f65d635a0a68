import RetinaServer.Library.Runs
import RetinaServer.Multinode.Publish
import RetinaServer.Multinode.KeyDecision

/-! The four stores of a key over whole runs. Supersession and coast retirement
forget a key everywhere; pruning takes out the entry and its anomaly hex only, so
a key it evicts is erased exactly when the smoothers had forgotten it already. -/
namespace Retina.Multinode
open Runs

def mnAssistedExpiryS : ℚ := 60

section
variable (cfg : Config)

def expiryS (key : String) : ℚ := if key.startsWith adsbPrefix then mnAssistedExpiryS else cfg.mnDarkExpiryS

def expired (now : ℚ) (key : String) (r : TrackEntry) : Bool := decide (expiryS cfg key < now - r.tsS)

def staleKeys (now : ℚ) (snapshot : Tracks) : List String :=
  (snapshot.filter (expired cfg now)).keys

def evict (s : Stores) (k : String) : Stores :=
  { s with anomalyHexes := s.anomalyHexes.erase (cfg.multinodeHexFromKey k), tracks := s.tracks.erase k }

def pruneMultinodeTracks (now : ℚ) (s : Stores) : Stores := (staleKeys cfg now s.tracks).foldl (evict cfg) s

/-- What drawing a live entry does to the anomaly hexes. -/
def flagAnomaly (s : Stores) (key : String) : Stores :=
  match s.tracks.get? key with
  | none => s
  | some r =>
      let hex := cfg.multinodeHexFromKey key
      { s with anomalyHexes := if r.isAnomalous then insert hex s.anomalyHexes else s.anomalyHexes.erase hex }

inductive StoreStep where
  | publish (pub : Publication)
  | forget (key : String)
  | prune (now : ℚ)
  | flag (key : String)

def storeStep (s : Stores) : StoreStep → Stores
  | .publish pub => pub.apply cfg s
  | .forget key => forgetMnKey cfg s key
  | .prune now => pruneMultinodeTracks cfg now s
  | .flag key => flagAnomaly cfg s key

/-- Of the smoothers' memory, an absent key has none; of the anomaly hexes, each
is a live key's. -/
structure Clean (s : Stores) : Prop where
  memory : ∀ key, s.tracks.get? key = none → s.memory.Forgets key
  hexes : ∀ h ∈ s.anomalyHexes, ∃ key entry, s.tracks.get? key = some entry ∧ cfg.multinodeHexFromKey key = h

/-- Every key the step prunes is one the smoothers have forgotten. -/
def PrunesForgotten (s : Stores) : StoreStep → Prop
  | .prune now => ∀ key ∈ staleKeys cfg now s.tracks, s.memory.Forgets key
  | _ => True

theorem evict_removes : Removes cfg (evict cfg) :=
  ⟨fun s k k' => Dict.get?_erase s.tracks k k', fun _ _ => rfl⟩

theorem evictKeys_memory (keys : List String) (s : Stores) : (keys.foldl (evict cfg) s).memory = s.memory := by
  induction keys generalizing s with
  | nil => rfl
  | cons first rest ih => exact ih (evict cfg s first)

theorem boot_clean : Clean cfg Stores.boot := ⟨fun _ _ => ⟨rfl, rfl⟩, by simp [Stores.boot]⟩

variable {cfg}

/-- A removal keeps every flag that a surviving key answers for. -/
theorem Removes.hexes_live {f : Stores → String → Stores} (removes : Removes cfg f) (clean : Clean cfg s)
    (keys : List String) (memory : Memory) :
    ∀ h ∈ (keys.foldl f { s with memory }).anomalyHexes,
      ∃ key entry, key ∉ keys ∧ s.tracks.get? key = some entry ∧ cfg.multinodeHexFromKey key = h := by
  intro h flagged
  obtain ⟨before, others⟩ := removes.of_mem_hexes flagged
  obtain ⟨key, entry, live, hex⟩ := clean.hexes h before
  exact ⟨key, entry, fun gone => others key gone hex, live, hex⟩

theorem forget_clean (clean : Clean cfg s) (key : String) : Clean cfg (forgetMnKey cfg s key) := by
  have removes := forgetMnKey_removes cfg
  constructor
  · intro k absent
    apply forgetKeys_forgets cfg [key] s
    rw [removes.tracks] at absent
    split at absent
    · rename_i same
      exact .inl (by simp [same])
    · exact .inr (clean.memory k absent)
  · intro h flagged
    obtain ⟨k, entry, kept, live, hex⟩ := removes.hexes_live clean [key] s.memory h flagged
    refine ⟨k, entry, ?_, hex⟩
    rw [removes.tracks, if_neg (fun same => kept (by simp [same])), live]

theorem commit_clean (clean : Clean cfg s) (forgotten : List String) (entry : TrackEntry)
    (others : ∀ k, k ≠ key → s.memory.Forgets k → memory.Forgets k) :
    Clean cfg (commit cfg s memory forgotten key entry) := by
  constructor
  · intro k absent
    rw [commit_tracks] at absent
    apply forgetKeys_forgets
    split at absent
    · cases absent
    · rename_i distinct
      split at absent
      · rename_i gone
        exact .inl gone
      · exact .inr (others k (Ne.symm distinct) (clean.memory k absent))
  · intro h flagged
    obtain ⟨k, old, kept, live, hex⟩ := (forgetMnKey_removes cfg).hexes_live clean forgotten memory h flagged
    by_cases same : key = k
    · exact ⟨k, entry, by rw [commit_tracks, if_pos same], hex⟩
    · exact ⟨k, old, by rw [commit_tracks, if_neg same, if_neg kept, live], hex⟩

theorem publish_clean (clean : Clean cfg s) (pub : Publication) : Clean cfg (pub.apply cfg s) := by
  rcases apply_cases cfg pub s with ⟨-, same⟩ | ⟨key, forgotten, entry, -, -, -, same⟩
  · rw [same]
    exact clean
  · rw [same]
    apply commit_clean clean
    intro k distinct forgets
    exact smoothSolve_forgets cfg.smoother s.memory pub.result pub.adsbHex pub.fix (Ne.symm distinct) forgets

theorem prune_clean (clean : Clean cfg s) (now : ℚ)
    (forgotten : ∀ key ∈ staleKeys cfg now s.tracks, s.memory.Forgets key) :
    Clean cfg (pruneMultinodeTracks cfg now s) := by
  have removes := evict_removes cfg
  constructor
  · intro k absent
    rw [pruneMultinodeTracks, evictKeys_memory]
    rw [pruneMultinodeTracks, removes.foldl_tracks] at absent
    split at absent
    · rename_i stale
      exact forgotten k stale
    · exact clean.memory k absent
  · intro h flagged
    obtain ⟨k, entry, kept, live, hex⟩ := removes.hexes_live clean _ s.memory h flagged
    exact ⟨k, entry, by rw [pruneMultinodeTracks, removes.foldl_tracks, if_neg kept, live], hex⟩

theorem flag_clean (clean : Clean cfg s) (key : String) : Clean cfg (flagAnomaly cfg s key) := by
  simp only [flagAnomaly]
  split
  · exact clean
  · rename_i r live
    refine ⟨clean.memory, ?_⟩
    intro h flagged
    dsimp only at flagged
    split at flagged
    · rcases Finset.mem_insert.mp flagged with rfl | before
      · exact ⟨key, r, live, rfl⟩
      · exact clean.hexes h before
    · exact clean.hexes h (Finset.mem_of_mem_erase flagged)

theorem storeStep_clean (s : Stores) (step : StoreStep) (clean : Clean cfg s)
    (admitted : PrunesForgotten cfg s step) : Clean cfg (storeStep cfg s step) := by
  cases step with
  | publish pub => exact publish_clean clean pub
  | forget key => exact forget_clean clean key
  | prune now => exact prune_clean clean now admitted
  | flag key => exact flag_clean clean key

variable (cfg)

/-- A key without an entry has no filter and no position history, is flagged only
on account of a live key of the same hex, and when it is published starts a
fresh filter. -/
def ErasedEverywhere (s : Stores) (key : String) : Prop :=
  s.memory.Forgets key ∧
  (cfg.multinodeHexFromKey key ∈ s.anomalyHexes →
    ∃ other entry, s.tracks.get? other = some entry ∧
      cfg.multinodeHexFromKey other = cfg.multinodeHexFromKey key) ∧
  ∀ pub : Publication, pub.target cfg s = some key → cfg.smoother.trackSmoother = .kf →
    (pub.apply cfg s).memory.filters.tracks.get? key =
      some (initEntry cfg.smoother pub.result (adsbVelocity cfg.smoother pub.fix pub.result.timestampMs)
        (measurementR cfg.smoother pub.result pub.adsbHex))

theorem publish_fresh (pub : Publication) (targeted : pub.target cfg s = some key)
    (kf : cfg.smoother.trackSmoother = .kf) (absent : s.memory.filters.tracks.get? key = none) :
    (pub.apply cfg s).memory.filters.tracks.get? key =
      some (initEntry cfg.smoother pub.result (adsbVelocity cfg.smoother pub.fix pub.result.timestampMs)
        (measurementR cfg.smoother pub.result pub.adsbHex)) := by
  rcases apply_cases cfg pub s with ⟨skipped, -⟩ | ⟨k, forgotten, entry, written, kept, -, same⟩
  · simp [skipped] at targeted
  · obtain rfl : k = key := Option.some.inj (written.symm.trans targeted)
    rw [same, commit_filter cfg s _ entry kept]
    exact (smoothSolve_fresh cfg.smoother s.memory pub.result k pub.adsbHex pub.fix kf absent).2

/-- Every state a run reaches has its absent keys erased everywhere exactly when
no prune of the run evicts a key the smoothers remember. -/
theorem absent_erased_iff (steps : List StoreStep) :
    (∀ before after, steps = before ++ after → ∀ key,
      (run (storeStep cfg) Stores.boot before).tracks.get? key = none →
        ErasedEverywhere cfg (run (storeStep cfg) Stores.boot before) key) ↔
    Along (storeStep cfg) (PrunesForgotten cfg) Stores.boot steps := by
  constructor
  · intro erased
    rw [along_iff_split]
    intro before step after split
    cases step with
    | prune now =>
      intro key stale
      have gone := erased (before ++ [.prune now]) after (by simp [split]) key
      rw [run_append] at gone
      have absent : (pruneMultinodeTracks cfg now (run (storeStep cfg) Stores.boot before)).tracks.get? key = none := by
        rw [pruneMultinodeTracks, (evict_removes cfg).foldl_tracks, if_pos stale]
      have forgets := (gone absent).1
      rwa [run_cons, run_nil, storeStep, pruneMultinodeTracks, evictKeys_memory] at forgets
    | _ => trivial
  · rintro admitted before after rfl key absent
    have clean := invariant storeStep_clean (boot_clean cfg) ((along_append _ _ _ _ _).mp admitted).1
    have forgets := clean.memory key absent
    refine ⟨forgets, clean.hexes _, ?_⟩
    intro pub targeted kf
    exact publish_fresh cfg pub targeted kf forgets.1

end

/-- A transponder's entry expires at a minute; its filter outlives it. -/
def publishedThenPruned : List StoreStep :=
  [.publish (.known "abc123" (still 0 0 0) none Dict.empty), .prune 61]

theorem pruned_key_keeps_filter :
    (run (storeStep meridianConfig) Stores.boot publishedThenPruned).tracks.get? "mn-adsb-abc123" = none ∧
    ¬ ErasedEverywhere meridianConfig (run (storeStep meridianConfig) Stores.boot publishedThenPruned)
      "mn-adsb-abc123" := by
  refine ⟨by decide +kernel, ?_⟩
  intro erased
  have remembered : ¬ (run (storeStep meridianConfig) Stores.boot publishedThenPruned).memory.Forgets
    "mn-adsb-abc123" := by decide +kernel
  exact remembered erased.1

end Retina.Multinode

/-! The names keys are born under. A name is read off the solve's epoch and its
rounded position, so an entry that still bears the name of a solve has to claim
it, or the solve is stored over that entry. -/
namespace Retina.Multinode
open Runs

section
variable (ctx : KeyingContext) (tracks : Tracks) (result : Solve)

/-- A minted key is new exactly when the store does not hold the solve's birth
name, or holds it together with an entry or an anchor that keeps the solve from
being minted at all. -/
theorem minted_key_new_iff (untagged : Untagged adsbHex) :
    ((multinodeKeyDecision ctx tracks result adsbHex anchorKey anchorDr trackIds).how = .minted →
      (multinodeKeyDecision ctx tracks result adsbHex anchorKey anchorDr trackIds).key ∉ tracks.keys) ↔
    (birthName result ∈ tracks.keys → (honoredAnchor ctx tracks result anchorKey anchorDr).isSome ∨
      ∃ c ∈ scanCandidates ctx tracks result trackIds.dedup, claims ctx (shadowScans ctx anchorKey) c = true) := by
  constructor
  · intro fresh taken
    by_contra unclaimed
    obtain ⟨unanchored, free⟩ := not_or.mp unclaimed
    have minted := (minted_iff ctx tracks result untagged).mpr
      ⟨by simpa using unanchored, fun c member => by
        by_contra claim
        exact free ⟨c, member, by simpa using claim⟩⟩
    apply fresh minted
    rwa [minted_key ctx tracks result untagged minted]
  · intro claimed minted taken
    rw [minted_key ctx tracks result untagged minted] at taken
    obtain ⟨unanchored, unclaimed⟩ := (minted_iff ctx tracks result untagged).mp minted
    rcases claimed taken with honored | ⟨c, member, claim⟩
    · simp [unanchored] at honored
    · rw [unclaimed c member] at claim
      cases claim

end

/-- An untagged solve on the prime meridian. -/
def dark (lat : ℚ) (timestampMs : ℤ) : PublishInput := { result := still lat 0 timestampMs }

/-- A key is born at 100 s and joined a kilometre on at 111 s. -/
def bornAndJoined : Stores :=
  run (storeStep meridianConfig) Stores.boot
    [.publish (.solver (dark 0 100000)), .publish (.solver (dark (1 / 100) 111000))]

theorem distant_solve_minted_new :
    (publishDecision meridianConfig (dark 2 100000) bornAndJoined).how = .minted ∧
    (publishDecision meridianConfig (dark 2 100000) bornAndJoined).key ∉ bornAndJoined.tracks.keys := by
  have minted : (publishDecision meridianConfig (dark 2 100000) bornAndJoined).how = .minted := by decide +kernel
  have new : (publishDecision meridianConfig (dark 2 100000) bornAndJoined).how = .minted →
      (publishDecision meridianConfig (dark 2 100000) bornAndJoined).key ∉ bornAndJoined.tracks.keys :=
    (minted_key_new_iff (keyingContext meridianConfig bornAndJoined Dict.empty) bornAndJoined.tracks
      (dark 2 100000).result (by decide)).mpr fun taken => absurd taken (by decide +kernel)
  exact ⟨minted, new minted⟩

/-- A late solve of the birth's own epoch and place: the entry has moved more than
ten seconds on and does not claim it, so it is born under the same name again. -/
theorem late_solve_minted_over_entry :
    (publishDecision meridianConfig (dark 0 100000) bornAndJoined).how = .minted ∧
    (publishDecision meridianConfig (dark 0 100000) bornAndJoined).key ∈ bornAndJoined.tracks.keys := by
  decide +kernel

end Retina.Multinode
