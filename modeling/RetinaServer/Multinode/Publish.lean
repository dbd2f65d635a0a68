import RetinaServer.Multinode.Supersession

/-! The publish blocks of the solver and of the known lane, and the removal of a
key. A publish smooths its solve, forgets the keys it absorbs and stores one
entry; everything proved about the stores follows from that. -/
namespace Retina.Multinode

structure Config where
  smoother : SmootherEnv
  keying : KeyingSettings := {}
  coast : CoastSettings := {}
  multinodeHexFromKey : String → String
  mnDarkExpiryS : ℚ := 30

/-- The four stores of a multinode key. Of the anomaly hexes only the
multinode ones are kept here. -/
structure Stores where
  tracks : Tracks
  memory : Memory
  anomalyHexes : Finset String

def Stores.boot : Stores := ⟨Dict.empty, ⟨⟨Dict.empty, 0⟩, ⟨Dict.empty, 0⟩⟩, ∅⟩

/-- A solve that passed the gates, with what its publish reads of the input and
of the other lanes at that moment. -/
structure PublishInput where
  result : Solve
  adsbHex : Option String := none
  anchorKey : Option String := none
  followed : Bool := false
  trackIds : List String := []
  fix : Option AdsbFix := none
  lastFollowPublish : Dict String ℚ := Dict.empty
  wasDropped : String → Bool := fun _ => false

section
variable (cfg : Config)

def keyingContext (s : Stores) (lastFollowPublish : Dict String ℚ) : KeyingContext where
  geodesy := cfg.smoother.geodesy
  settings := cfg.keying
  learnedVel := s.memory.filters.learnedVelocity
  lastFollowPublish := lastFollowPublish

def forgetMnKey (s : Stores) (oldKey : String) : Stores where
  tracks := s.tracks.erase oldKey
  memory := s.memory.drop oldKey
  anomalyHexes := s.anomalyHexes.erase (cfg.multinodeHexFromKey oldKey)

def publishDecision (p : PublishInput) (s : Stores) : KeyDecision :=
  multinodeKeyDecision (keyingContext cfg s p.lastFollowPublish) s.tracks p.result p.adsbHex p.anchorKey
    p.followed p.trackIds

/-- A flag raised on an earlier solve holds. -/
def latch (prev : Option TrackEntry) (result : Solve) : Solve :=
  match prev with
  | none => result
  | some e => { result with
      isAnomalous := result.isAnomalous || e.isAnomalous
      anomalyTypes := (result.anomalyTypes ++ e.anomalyTypes).dedup.insertionSort (· ≤ ·) }

/-- What a publish has absorbed so far: the high-water marks of the removed
entries and the node tracks of the retired one. -/
structure Absorbed where
  stores : Stores
  result : Solve
  solveCount : Nat := 0
  nNodes : Nat := 0
  coastRecentIds : Option (Dict String ℚ) := none

def Absorbed.forget (acc : Absorbed) (oldKey : String) (oldR : TrackEntry) : Absorbed :=
  { acc with
    stores := forgetMnKey cfg acc.stores oldKey
    solveCount := max acc.solveCount oldR.solveCount
    nNodes := max acc.nNodes (max oldR.maxNNodes oldR.nNodes) }

def supersedeStep (p : PublishInput) (key : String) (acc : Absorbed) (old : String × TrackEntry) : Absorbed :=
  if old.1 = key then acc
  else if !acc.result.sourceTrackIds.any fun tid => decide (tid ∈ old.2.sourceTrackIds) then acc
  else if (supersessionMatch (keyingContext cfg acc.stores p.lastFollowPublish) old.1 old.2
      acc.result.sourceTrackIds p.result.lat p.result.lon p.result.tsS acc.result.altM).1
  then acc.forget cfg old.1 old.2
  else acc

/-- The loop is over a snapshot of the store. -/
def supersede (p : PublishInput) (key : String) (acc : Absorbed) : Absorbed :=
  if acc.result.sourceTrackIds = [] then acc
  else acc.stores.tracks.items.foldl (supersedeStep cfg p key) acc

def retireCoast (p : PublishInput) (decision : KeyDecision) (acc : Absorbed) : Absorbed :=
  if cfg.coast.mnStaleCoastEnabled ∧ decision.how = .minted ∧ decision.key.startsWith darkPrefix then
    match staleCoastCandidate (keyingContext cfg acc.stores p.lastFollowPublish) cfg.coast
        ⟨p.wasDropped, acc.stores.memory.filters.manoeuvreLevel⟩ acc.stores.tracks decision.key
        p.result.lat p.result.lon p.result.tsS acc.result.altM with
    | .error _ => acc
    | .ok coastKey => match acc.stores.tracks.get? coastKey with
      | none => acc
      | some coastR =>
          { acc.forget cfg coastKey coastR with
            result := { latch (some coastR) acc.result with predecessorKey := some coastKey }
            coastRecentIds := coastR.recentTrackIds }
  else acc

/-- `(prev or {}).get("recent_track_ids") or coast`: an empty memory gives way too. -/
def inheritedIds (prev : Option TrackEntry) (coast : Option (Dict String ℚ)) : Option (Dict String ℚ) :=
  match prev.bind TrackRecord.recentTrackIds with
  | some recent => if recent.items = [] then coast else some recent
  | none => coast

def publishedEntry (p : PublishInput) (prev : Option TrackEntry) (acc : Absorbed) (s : Stores) : TrackEntry :=
  TrackRecord.stored { acc.result with
    solveCount := max ((prev.map TrackRecord.solveCount).getD 0) acc.solveCount + 1
    maxNNodes := max (max ((prev.map TrackRecord.maxNNodes).getD 0) ((prev.map TrackRecord.nNodes).getD 0))
      (max acc.nNodes acc.result.nNodes)
    recentTrackIds := some (mergeRecentTrackIds (keyingContext cfg s p.lastFollowPublish)
      (inheritedIds prev acc.coastRecentIds) p.trackIds acc.result.tsS) }

/-- The solve as its publish smooths, latches and names it, before anything is absorbed. -/
def smoothedSolve (p : PublishInput) (decision : KeyDecision) (s : Stores) : Solve × Memory :=
  let (smoothed, memory) := smoothSolve cfg.smoother s.memory p.result decision.key p.adsbHex p.fix
  ({ latch (s.tracks.get? decision.key) smoothed with sourceTrackIds := p.trackIds.insertionSort (· ≤ ·) }, memory)

def absorb (p : PublishInput) (decision : KeyDecision) (s : Stores) : Absorbed :=
  let (smoothed, memory) := smoothedSolve cfg p decision s
  retireCoast cfg p decision (supersede cfg p decision.key { stores := { s with memory }, result := smoothed })

def publishSolve (p : PublishInput) (s : Stores) : Stores :=
  let decision := publishDecision cfg p s
  if decision.how = .shadowed then s
  else
    let acc := absorb cfg p decision s
    let entry := publishedEntry cfg p (s.tracks.get? decision.key) acc s
    { acc.stores with tracks := acc.stores.tracks.insert decision.key entry }

def knownDecision (hexn : String) (result : Solve) (lastFollowPublish : Dict String ℚ) (s : Stores) : KeyDecision :=
  multinodeKeyDecision (keyingContext cfg s lastFollowPublish) s.tracks result (some hexn) none false []

def knownResult (hexn : String) (result : Solve) : Solve :=
  { result with adsbHex := some hexn, sourceTrackIds := [] }

/-- The known lane's publish: the transponder's key, no source tracks, and no
removal of other keys. -/
def publishKnown (hexn : String) (result : Solve) (fix : Option AdsbFix) (lastFollowPublish : Dict String ℚ)
    (s : Stores) : Stores :=
  let decision := knownDecision cfg hexn (knownResult hexn result) lastFollowPublish s
  let (smoothed, memory) := smoothSolve cfg.smoother s.memory (knownResult hexn result) decision.key (some hexn) fix
  let prev := s.tracks.get? decision.key
  let entry := TrackRecord.stored { latch prev smoothed with
    solveCount := (prev.map TrackRecord.solveCount).getD 0 + 1 }
  { s with memory, tracks := s.tracks.insert decision.key entry }

/-- A publish of either lane. -/
inductive Publication where
  | solver (p : PublishInput)
  | known (hexn : String) (result : Solve) (fix : Option AdsbFix) (lastFollowPublish : Dict String ℚ)

namespace Publication

def result : Publication → Solve
  | solver p => p.result
  | known hexn result _ _ => knownResult hexn result

def adsbHex : Publication → Option String
  | solver p => p.adsbHex
  | known hexn _ _ _ => some hexn

def fix : Publication → Option AdsbFix
  | solver p => p.fix
  | known _ _ fix _ => fix

def decision (s : Stores) : Publication → KeyDecision
  | solver p => publishDecision cfg p s
  | known hexn result _ lastFollowPublish => knownDecision cfg hexn (knownResult hexn result) lastFollowPublish s

/-- The key that is written. A solver publish on a followed key writes none. -/
def target (s : Stores) (pub : Publication) : Option String :=
  match pub with
  | solver p => if (publishDecision cfg p s).how = .shadowed then none else some (publishDecision cfg p s).key
  | known _ _ _ _ => some (pub.decision cfg s).key

def apply (s : Stores) : Publication → Stores
  | solver p => publishSolve cfg p s
  | known hexn result fix lastFollowPublish => publishKnown cfg hexn result fix lastFollowPublish s

def smoothed (s : Stores) (pub : Publication) (key : String) : Solve × Memory :=
  smoothSolve cfg.smoother s.memory pub.result key pub.adsbHex pub.fix

end Publication

/-! ### What a publish does to the stores -/

/-- A smoothed solve is stored under `key` after the keys in `forgotten` are erased. -/
def commit (s : Stores) (memory : Memory) (forgotten : List String) (key : String) (entry : TrackEntry) : Stores :=
  let left := forgotten.foldl (forgetMnKey cfg) { s with memory }
  { left with tracks := left.tracks.insert key entry }

/-- The entry stands where and when the smoothed solve does, and came about the same way. -/
def Carries (entry : TrackEntry) (smoothed : Solve) : Prop :=
  entry.lat = some smoothed.lat ∧ entry.lon = some smoothed.lon ∧
    entry.timestampMs = smoothed.timestampMs ∧ entry.kfAction = smoothed.kfAction

/-- The solve is as the publish smoothed it, up to flags and carried marks. -/
structure Absorbed.From (acc : Absorbed) (start : Stores) (key : String) (smoothed : Solve) : Prop where
  forgotten : ∃ keys : List String, key ∉ keys ∧ acc.stores = keys.foldl (forgetMnKey cfg) start
  carries : Carries acc.result.stored smoothed

theorem latch_carries (prev : Option TrackEntry) (carried : Carries r.stored smoothed) :
    Carries (latch prev r).stored smoothed := by
  cases prev <;> exact carried

theorem forget_from {acc : Absorbed} (started : acc.From cfg start key smoothed) (other : oldKey ≠ key) (oldR : TrackEntry) :
    (acc.forget cfg oldKey oldR).From cfg start key smoothed := by
  obtain ⟨keys, absent, same⟩ := started.forgotten
  refine ⟨⟨keys ++ [oldKey], ?_, ?_⟩, started.carries⟩
  · simpa [absent] using Ne.symm other
  · simp [Absorbed.forget, same]

theorem supersede_from {acc : Absorbed} (p : PublishInput) (started : acc.From cfg start key smoothed) :
    (supersede cfg p key acc).From cfg start key smoothed := by
  have stepped (old : List (String × TrackEntry)) (acc : Absorbed) (started : acc.From cfg start key smoothed) :
      (old.foldl (supersedeStep cfg p key) acc).From cfg start key smoothed := by
    induction old generalizing acc with
    | nil => exact started
    | cons item rest ih =>
      apply ih
      simp only [supersedeStep]
      split
      · exact started
      · rename_i other
        split
        · exact started
        · split
          · exact forget_from cfg started other item.2
          · exact started
  simp only [supersede]
  split
  · exact started
  · exact stepped _ acc started

theorem retireCoast_from {acc : Absorbed} (p : PublishInput) (decision : KeyDecision)
    (started : acc.From cfg start decision.key smoothed) :
    (retireCoast cfg p decision acc).From cfg start decision.key smoothed := by
  simp only [retireCoast]
  split
  · split
    · exact started
    · rename_i coastKey found
      split
      · exact started
      · rename_i coastR live
        have other := (staleCoastCandidate_ok _ found).1
        have dropped := forget_from cfg started other coastR
        exact ⟨dropped.forgotten, latch_carries (some coastR) started.carries⟩
  · exact started

theorem absorb_from (p : PublishInput) (decision : KeyDecision) (s : Stores) :
    (absorb cfg p decision s).From cfg
      { s with memory := (smoothSolve cfg.smoother s.memory p.result decision.key p.adsbHex p.fix).2 }
      decision.key (smoothSolve cfg.smoother s.memory p.result decision.key p.adsbHex p.fix).1 := by
  apply retireCoast_from
  apply supersede_from
  refine ⟨⟨[], by simp, rfl⟩, ?_⟩
  exact latch_carries (s.tracks.get? decision.key) ⟨rfl, rfl, rfl, rfl⟩

/-- All that a publish can do: nothing, or store its smoothed solve under its
key after forgetting other keys. -/
theorem apply_cases (pub : Publication) (s : Stores) :
    pub.target cfg s = none ∧ pub.apply cfg s = s ∨
    ∃ key forgotten entry, pub.target cfg s = some key ∧ key ∉ forgotten ∧
      Carries entry (pub.smoothed cfg s key).1 ∧
      pub.apply cfg s = commit cfg s (pub.smoothed cfg s key).2 forgotten key entry := by
  cases pub with
  | solver p =>
    simp only [Publication.target, Publication.apply, publishSolve]
    split
    · exact .inl ⟨rfl, rfl⟩
    · obtain ⟨⟨forgotten, absent, same⟩, carries⟩ := absorb_from cfg p (publishDecision cfg p s) s
      let entry := publishedEntry cfg p (s.tracks.get? (publishDecision cfg p s).key)
        (absorb cfg p (publishDecision cfg p s) s) s
      refine .inr ⟨_, forgotten, entry, rfl, absent, carries, ?_⟩
      rw [same]
      rfl
  | known hexn result fix lastFollowPublish =>
    refine .inr ⟨_, [], _, rfl, List.not_mem_nil, ?_, rfl⟩
    exact latch_carries (s.tracks.get? _) ⟨rfl, rfl, rfl, rfl⟩

/-- Taking a key out of the entries and of the anomaly hexes, whatever else goes with it. -/
structure Removes (f : Stores → String → Stores) : Prop where
  tracks : ∀ s k k', (f s k).tracks.get? k' = if k = k' then none else s.tracks.get? k'
  anomalyHexes : ∀ s k, (f s k).anomalyHexes = s.anomalyHexes.erase (cfg.multinodeHexFromKey k)

theorem forgetMnKey_removes : Removes cfg (forgetMnKey cfg) :=
  ⟨fun s k k' => Dict.get?_erase s.tracks k k', fun _ _ => rfl⟩

variable {cfg}

theorem Removes.foldl_tracks {f : Stores → String → Stores} (removes : Removes cfg f) (keys : List String)
    (s : Stores) (k : String) :
    (keys.foldl f s).tracks.get? k = if k ∈ keys then none else s.tracks.get? k := by
  induction keys generalizing s with
  | nil => rfl
  | cons first rest ih =>
    rw [List.foldl_cons, ih, removes.tracks]
    by_cases same : first = k
    · simp [same]
    · simp [same, Ne.symm same]

theorem Removes.of_mem_hexes {f : Stores → String → Stores} (removes : Removes cfg f) {keys : List String}
    {s : Stores} (flagged : h ∈ (keys.foldl f s).anomalyHexes) :
    h ∈ s.anomalyHexes ∧ ∀ k ∈ keys, cfg.multinodeHexFromKey k ≠ h := by
  induction keys generalizing s with
  | nil => exact ⟨flagged, by simp⟩
  | cons first rest ih =>
    obtain ⟨before, others⟩ := ih flagged
    rw [removes.anomalyHexes, Finset.mem_erase] at before
    exact ⟨before.2, List.forall_mem_cons.mpr ⟨Ne.symm before.1, others⟩⟩

variable (cfg)

theorem forgetKeys_filter (keys : List String) (s : Stores) (absent : k ∉ keys) :
    (keys.foldl (forgetMnKey cfg) s).memory.filters.tracks.get? k = s.memory.filters.tracks.get? k := by
  induction keys generalizing s with
  | nil => rfl
  | cons first rest ih =>
    rw [List.mem_cons, not_or] at absent
    rw [List.foldl_cons, ih _ absent.2]
    exact Dict.get?_erase_ne _ (Ne.symm absent.1)

theorem forgetKeys_forgets (keys : List String) (s : Stores) (gone : k ∈ keys ∨ s.memory.Forgets k) :
    (keys.foldl (forgetMnKey cfg) s).memory.Forgets k := by
  induction keys generalizing s with
  | nil => simpa using gone
  | cons first rest ih =>
    apply ih
    rcases gone with member | forgets
    · rcases List.mem_cons.mp member with rfl | later
      · exact .inr (drop_forgets s.memory k)
      · exact .inl later
    · exact .inr (drop_forgets_of forgets first)

theorem commit_tracks (s : Stores) (memory : Memory) (forgotten : List String) (key k : String)
    (entry : TrackEntry) :
    (commit cfg s memory forgotten key entry).tracks.get? k =
      if key = k then some entry else if k ∈ forgotten then none else s.tracks.get? k := by
  simp only [commit, Dict.get?_insert, (forgetMnKey_removes cfg).foldl_tracks]

theorem commit_filter (s : Stores) (memory : Memory) (entry : TrackEntry) (absent : k ∉ forgotten) :
    (commit cfg s memory forgotten key entry).memory.filters.tracks.get? k = memory.filters.tracks.get? k :=
  forgetKeys_filter cfg forgotten { s with memory } absent

end

/-- Roots exact on squares of whole numbers, and the rest at the angle zero. -/
def exactRoots : Libm where
  sqrt := fun x => Nat.sqrt x.floor.toNat
  hypot := fun x y => Nat.sqrt (x ^ 2 + y ^ 2).floor.toNat
  exp := fun _ => 1
  sinDeg := fun _ => 0
  cosDeg := fun _ => 1

/-- The source's defaults on a meridian, with one transponder's display hex. -/
def meridianConfig : Config where
  smoother := { geodesy := meridian, libm := exactRoots }
  multinodeHexFromKey := fun _ => "mna1d7899a45"

end Retina.Multinode
