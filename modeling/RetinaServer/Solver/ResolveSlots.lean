import RetinaServer.Library.Runs
import RetinaServer.Solver.Input

/-! Re-solve suppression. Each published solve leaves one claim for every track
it was built from, and a candidate is skipped while all of its tracks hold a
claim that is recent and wide enough. -/
namespace Retina.Solver
open Runs

structure Claim where
  solvedAt : ℚ
  nNodes : Nat
deriving DecidableEq, Repr

structure ResolveSettings where
  resolveIntervalS : ℚ := 12
  resolveRefreshS : ℚ := 6

structure ResolveSlots where
  recentSolves : Dict String Claim
  lastSweep : ℚ

def ResolveSlots.initial : ResolveSlots := ⟨Dict.empty, 0⟩

structure Blocking where
  trackId : String
  heldTs : ℚ
  heldN : Nat
deriving DecidableEq, Repr

structure SlotState where
  covered : Bool
  blocking : List Blocking
  refreshed : Bool
deriving DecidableEq, Repr

def ResolveSettings.cutoff (cfg : ResolveSettings) (nowS : ℚ) : ℚ := nowS - cfg.resolveIntervalS

def sweepRecentSolves (cfg : ResolveSettings) (nowS : ℚ) (slots : ResolveSlots) : ResolveSlots :=
  if nowS - slots.lastSweep < cfg.resolveIntervalS then slots
  else ⟨slots.recentSolves.filter fun _ claim => decide (cfg.cutoff nowS < claim.solvedAt), nowS⟩

/-- The loop over the candidate's tracks: `none` once a track is not covered. -/
def slotLoop (cfg : ResolveSettings) (recentSolves : Dict String Claim) (nNodes : Nat) (nowS : ℚ) :
    List String → Bool → List Blocking → Option (Bool × List Blocking)
  | [], refreshed, blocking => some (refreshed, blocking)
  | tid :: rest, refreshed, blocking =>
      match recentSolves.get? tid with
      | none => none
      | some held =>
          if held.solvedAt ≤ cfg.cutoff nowS ∨ held.nNodes < nNodes then none
          else slotLoop cfg recentSolves nNodes nowS rest
            (if nowS - cfg.resolveRefreshS < held.solvedAt then false else refreshed)
            (blocking ++ [⟨tid, Rounding.roundTo 3 held.solvedAt, held.nNodes⟩])

def resolveSlotState (cfg : ResolveSettings) (slots : ResolveSlots) (sIn : SolverInput) (nowS : ℚ) : SlotState :=
  if cfg.resolveIntervalS ≤ 0 ∨ sIn.trackIds = [] then ⟨false, [], false⟩
  else match slotLoop cfg slots.recentSolves sIn.nNodes nowS sIn.trackIds
      (decide (0 < cfg.resolveRefreshS) && decide (3 ≤ sIn.nNodes)) [] with
    | none => ⟨false, [], false⟩
    | some (true, _) => ⟨false, [], true⟩
    | some (false, blocking) => ⟨true, blocking, false⟩

/-- The width a new claim inherits from the one it replaces. -/
def heldNodes (cfg : ResolveSettings) (nowS : ℚ) (held : Option Claim) : Nat :=
  match held with
  | some claim => if cfg.cutoff nowS < claim.solvedAt then claim.nNodes else 0
  | none => 0

def claimTrack (cfg : ResolveSettings) (nNodes : Nat) (nowS : ℚ) (recentSolves : Dict String Claim)
    (tid : String) : Dict String Claim :=
  recentSolves.insert tid ⟨nowS, max nNodes (heldNodes cfg nowS (recentSolves.get? tid))⟩

def recordResolveSlot (cfg : ResolveSettings) (trackIds : List String) (nNodes : Nat) (nowS : ℚ)
    (slots : ResolveSlots) : ResolveSlots :=
  if cfg.resolveIntervalS ≤ 0 ∨ trackIds = [] then slots
  else sweepRecentSolves cfg nowS
    { slots with recentSolves := trackIds.foldl (claimTrack cfg nNodes nowS) slots.recentSolves }

/-- A solve that reached the map. -/
structure Publication where
  trackIds : List String
  nNodes : Nat
  nowS : ℚ
deriving DecidableEq, Repr

def publish (cfg : ResolveSettings) (slots : ResolveSlots) (p : Publication) : ResolveSlots :=
  recordResolveSlot cfg p.trackIds p.nNodes p.nowS slots

theorem slotLoop_covers (found : slotLoop cfg recentSolves nNodes nowS tids refreshed blocking = some out) :
    ∀ tid ∈ tids, ∃ held, recentSolves.get? tid = some held ∧ cfg.cutoff nowS < held.solvedAt ∧
      nNodes ≤ held.nNodes := by
  induction tids generalizing refreshed blocking with
  | nil => simp
  | cons tid rest ih =>
    simp only [slotLoop] at found
    split at found
    · cases found
    · rename_i held present
      split at found
      · cases found
      · rename_i covers
        obtain ⟨recent, wide⟩ := not_or.mp covers
        refine List.forall_mem_cons.mpr ⟨⟨held, present, not_le.mp recent, not_lt.mp wide⟩, ih found⟩

/-- What a skipped candidate has behind it, in the store. -/
theorem covered_spec (covered : (resolveSlotState cfg slots sIn nowS).covered = true) :
    ∀ tid ∈ sIn.trackIds, ∃ held, slots.recentSolves.get? tid = some held ∧
      cfg.cutoff nowS < held.solvedAt ∧ sIn.nNodes ≤ held.nNodes := by
  simp only [resolveSlotState] at covered
  split at covered
  · cases covered
  · split at covered
    · cases covered
    · cases covered
    · rename_i found
      exact slotLoop_covers found

/-- One publish dates the claims of all its tracks and touches no others. -/
theorem claimTracks_get? (cfg : ResolveSettings) (enabled : 0 < cfg.resolveIntervalS) (nNodes : Nat)
    (nowS : ℚ) (tids : List String) (recentSolves : Dict String Claim) (tid : String) :
    (tids.foldl (claimTrack cfg nNodes nowS) recentSolves).get? tid =
      if tid ∈ tids then some ⟨nowS, max nNodes (heldNodes cfg nowS (recentSolves.get? tid))⟩
      else recentSolves.get? tid := by
  induction tids generalizing recentSolves with
  | nil => simp
  | cons first rest ih =>
    rw [List.foldl_cons, ih, claimTrack, Dict.get?_insert]
    by_cases same : first = tid
    · subst same
      -- A repeated track finds its own fresh claim, which is inside the window.
      have fresh : cfg.cutoff nowS < nowS := sub_lt_self nowS enabled
      simp [heldNodes, fresh]
    · simp [same, Ne.symm same]

/-- Every claim is that of a publish as wide, made when the claim says. -/
def Justified (published : List Publication) (slots : ResolveSlots) : Prop :=
  ∀ tid claim, slots.recentSolves.get? tid = some claim →
    ∃ p ∈ published, tid ∈ p.trackIds ∧ claim.nNodes ≤ p.nNodes ∧ p.nowS = claim.solvedAt

/-- The publish meets no live claim that is wider than itself and older. -/
def Unpreceded (cfg : ResolveSettings) (slots : ResolveSlots) (p : Publication) : Prop :=
  ∀ tid ∈ p.trackIds, ∀ held ∈ slots.recentSolves.get? tid,
    cfg.cutoff p.nowS < held.solvedAt → held.nNodes ≤ p.nNodes ∨ held.solvedAt = p.nowS

instance (cfg : ResolveSettings) (slots : ResolveSlots) (p : Publication) :
    Decidable (Unpreceded cfg slots p) :=
  inferInstanceAs (Decidable (∀ tid ∈ p.trackIds, ∀ held ∈ slots.recentSolves.get? tid,
    cfg.cutoff p.nowS < held.solvedAt → held.nNodes ≤ p.nNodes ∨ held.solvedAt = p.nowS))

theorem sweep_justified (justified : Justified published slots) :
    Justified published (sweepRecentSolves cfg nowS slots) := by
  simp only [sweepRecentSolves]
  split
  · exact justified
  · intro tid claim found
    exact justified tid claim (Dict.get?_filter_some found).1

theorem publish_justified (cfg : ResolveSettings) (published : List Publication) (slots : ResolveSlots)
    (p : Publication) (justified : Justified published slots) (unpreceded : Unpreceded cfg slots p) :
    Justified (published ++ [p]) (publish cfg slots p) := by
  have earlier (tid : String) (claim : Claim) (found : slots.recentSolves.get? tid = some claim) :
      ∃ q ∈ published ++ [p], tid ∈ q.trackIds ∧ claim.nNodes ≤ q.nNodes ∧ q.nowS = claim.solvedAt := by
    obtain ⟨q, member, rest⟩ := justified tid claim found
    exact ⟨q, List.mem_append_left _ member, rest⟩
  unfold publish recordResolveSlot
  split
  · exact earlier
  · rename_i active
    have enabled := not_le.mp (not_or.mp active).1
    apply sweep_justified
    intro tid claim found
    rw [claimTracks_get? cfg enabled] at found
    split at found
    · rename_i carried
      obtain rfl := Option.some.inj found
      have own : ∃ q ∈ published ++ [p], tid ∈ q.trackIds ∧ p.nNodes ≤ q.nNodes ∧ q.nowS = p.nowS :=
        ⟨p, by simp, carried, le_refl _, rfl⟩
      -- The merged width is the publish's own or that of a claim it found.
      rcases max_choice p.nNodes (heldNodes cfg p.nowS (slots.recentSolves.get? tid)) with new | old
      · rwa [new]
      · rw [old]
        simp only [heldNodes]
        split
        · rename_i held present
          split
          · rename_i live
            rcases unpreceded tid carried held present live with narrower | simultaneous
            · obtain ⟨q, member, carries, wide, dated⟩ := own
              exact ⟨q, member, carries, narrower.trans wide, dated⟩
            · obtain ⟨q, member, carries, wide, dated⟩ := earlier tid held present
              exact ⟨q, member, carries, wide, dated.trans simultaneous⟩
          · obtain ⟨q, member, carries, -, dated⟩ := own
            exact ⟨q, member, carries, Nat.zero_le _, dated⟩
        · obtain ⟨q, member, carries, -, dated⟩ := own
          exact ⟨q, member, carries, Nat.zero_le _, dated⟩
    · exact earlier tid claim found

/-- A skipped candidate's tracks are all on the map at its width. -/
def CoveredSoundly (cfg : ResolveSettings) (events : List Publication) (sIn : SolverInput) (nowS : ℚ) : Prop :=
  (resolveSlotState cfg (run (publish cfg) .initial events) sIn nowS).covered = true →
    ∀ tid ∈ sIn.trackIds, ∃ p ∈ events, tid ∈ p.trackIds ∧ sIn.nNodes ≤ p.nNodes ∧
      cfg.cutoff nowS < p.nowS ∧ p.nowS ≤ nowS

/-- Along every run in which no publish meets a wider, older live claim, a
later candidate is skipped only if each of its tracks was solved within the
interval at no fewer nodes. -/
theorem covered_soundly_of_unpreceded (cfg : ResolveSettings) (events : List Publication)
    (sIn : SolverInput) (nowS : ℚ) (later : ∀ p ∈ events, p.nowS ≤ nowS)
    (unpreceded : Along (publish cfg) (Unpreceded cfg) .initial events) :
    CoveredSoundly cfg events sIn nowS := by
  have justified : Justified events (run (publish cfg) .initial events) := by
    have start : Justified [] ResolveSlots.initial := by
      intro tid claim found
      cases found
    simpa using invariant_of_history (publish_justified cfg) start unpreceded
  intro covered tid member
  obtain ⟨held, found, recent, wide⟩ := covered_spec covered tid member
  obtain ⟨p, published, carries, wider, dated⟩ := justified tid held found
  exact ⟨p, published, carries, wide.trans wider, dated ▸ recent, later p published⟩

/-- A candidate of four nodes on one track. -/
def fourNodes : SolverInput where
  measurements := []
  nNodes := 4
  timestampMs := none
  trackIds := ["a1"]
  trackIdsByNode := Dict.empty
  initialGuess := none
  initialVelocity := none
  adsbHex := none
  anchorKey := none
  poolNNodes := none
  poolMeasurements := []

theorem widening_publishes_cover :
    CoveredSoundly {} [⟨["a1"], 2, 0⟩, ⟨["a1"], 5, 10⟩] fourNodes 15 :=
  covered_soundly_of_unpreceded {} _ fourNodes 15 (by decide +kernel) (by decide +kernel)

/-- A narrow publish re-dates a wide claim, and a wide candidate is then held
back fifteen seconds after the only wide solve of its track. -/
theorem narrow_publish_redates_wide_claim :
    ¬ CoveredSoundly {} [⟨["a1"], 5, 0⟩, ⟨["a1"], 2, 10⟩] fourNodes 15 := by
  intro sound
  have solved := sound (by decide +kernel) "a1" (by decide +kernel)
  revert solved
  decide +kernel

end Retina.Solver
