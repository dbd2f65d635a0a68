import RetinaServer.Retirement.Messages
import RetinaServer.Retirement.Coverage
import RetinaServer.Retirement.NodeRecords
import RetinaServer.Retirement.ClaimMemory

/-! Retiring a node. The stores that are keyed by a node stand in as many modules,
and a retirement lists the ones it goes through; what follows under the node's id
is served from all of them. -/
namespace Retina.Retirement
open Machines Runs Tcp Frames Known

inductive Store where
  | messages
  | coverage
  | bias
  | archive
  | tracks
  | detector
  | holds
  | streaks
deriving DecidableEq

@[reducible] def Contents (q : QueueShape) (A F : Type) : Store → Type
  | .messages => Server q
  | .coverage => Coverage A
  | .bias => Dict String NodeBiasState
  | .archive => Archive Unit F
  | .tracks => Dict String TrackedNode
  | .detector => Dict String Detected
  | .holds => Dict String Holds
  | .streaks => Streaks

@[reducible] def StoreEvent (A F : Type) : Store → Type
  | .messages => Arrival
  | .coverage => CoverageEvent A
  | .bias => BiasEvent
  | .archive => ArchiveEvent F
  | .tracks => TrackEvent
  | .detector => DetectorPass
  | .holds => HoldEvent
  | .streaks => StreakEvent

@[reducible] def Sight (F : Type) : Store → Type
  | .messages => Answer
  | .coverage => CoverageSight
  | .bias => BiasSight
  | .archive => ArchiveSight F
  | .tracks => TrackSight
  | .detector => List NegativeEvent
  | .holds => HoldSight
  | .streaks => Nat

structure Setting (A : Type) where
  listener : Listener
  /-- `NODE_FORCE_RETIRE_PREFIXES`. -/
  forceRetirePrefixes : List String
  digestOf : A → Option (List (Option DigestBin))
  gates : BiasGates
  archiveBufferFailTtlS : ℚ
  claims : ClaimSettings

/-- What a process finds when it starts: the nodes it primes, and of its snapshot the custody and what the analytics had
observed. -/
structure Startup (A : Type) where
  primed : Dict String Fields
  format : SnapshotFormat
  custody : Snapshot
  areas : Dict String A
  conditionActive : Dict String (List String)

section
variable {q : QueueShape} {A F : Type} (cfg : Setting A)

abbrev World (q : QueueShape) (A F : Type) := ∀ i, Contents q A F i

def machines : ∀ i, Machine (Contents q A F i) (StoreEvent A F i) (Sight F i)
  | .messages => messages cfg.listener
  | .coverage => coverage cfg.digestOf
  | .bias => bias cfg.gates
  | .archive => archive cfg.archiveBufferFailTtlS
  | .tracks => tracks
  | .detector => detector
  | .holds => holds cfg.claims
  | .streaks => streaks

abbrev server : Machine (World q A F) (Σ i, StoreEvent A F i) (Σ i, Sight F i) := beside (machines cfg)

def booted (startup : Startup A) : World q A F
  | .messages => restoreSnapshot startup.format (Server.primed startup.primed) startup.custody
  | .coverage => { (Coverage.empty : Coverage A) with areas := startup.areas, conditionActive := startup.conditionActive }
  | .bias => .empty
  | .archive => .empty
  | .tracks => .empty
  | .detector => .empty
  | .holds => .empty
  | .streaks => .empty

/-- `_clear` after the registry: what it does not name it leaves. -/
def forgetAll (n : String) (s : World q A F) : World q A F
  | .messages => forgetMessages n (s .messages)
  | .coverage => forgetCoverage n (s .coverage)
  | .bias => s .bias
  | .archive => s .archive
  | .tracks => s .tracks
  | .detector => s .detector
  | .holds => s .holds
  | .streaks => s .streaks

/-- The server that has never seen the node, and has otherwise seen what this one has. -/
def unseenAll (n : String) (s : World q A F) : World q A F
  | .messages => unseenMessages n (s .messages)
  | .coverage => unseenCoverage n (s .coverage)
  | .bias => (s .bias).erase n
  | .archive => unseenArchive n (s .archive)
  | .tracks => (s .tracks).erase n
  | .detector => (s .detector).erase n
  | .holds => (s .holds).erase n
  | .streaks => unseenStreaks n (s .streaks)

/-- What the server does next: serve, `forget_node` or `retire_node`. -/
inductive Turn (A F : Type) where
  | served (e : Σ i, StoreEvent A F i)
  | forgotten (n : String)
  | retired (n : String) (force : Bool)

def take (s : World q A F) : Turn A F → World q A F
  | .served e => (server cfg).step s e
  | .forgotten n => forgetAll n s
  | .retired n force => if mayRetire cfg.forceRetirePrefixes (s .messages) n force then forgetAll n s else s

/-- The turn removes the node: it is `forget_node`, or a `retire_node` that is not refused. -/
def Removes (s : World q A F) (n : String) : Turn A F → Prop
  | .served _ => False
  | .forgotten m => m = n
  | .retired m force => m = n ∧ mayRetire cfg.forceRetirePrefixes (s .messages) n force = true

instance (s : World q A F) (n : String) : ∀ turn, Decidable (Removes cfg s n turn)
  | .served _ => inferInstanceAs (Decidable False)
  | .forgotten _ => inferInstanceAs (Decidable (_ = _))
  | .retired _ _ => inferInstanceAs (Decidable (_ ∧ _))

theorem take_of_removes {s : World q A F} (removes : Removes cfg s n turn) : take cfg s turn = forgetAll n s := by
  cases turn with
  | served e => exact removes.elim
  | forgotten m =>
    obtain rfl : m = n := removes
    rfl
  | retired m force =>
    obtain ⟨rfl, allowed⟩ := removes
    exact if_pos allowed

/-! ### What is held of the stores in every run -/

def Sound : ∀ i, Contents q A F i → Prop
  | .messages => SoundMessages cfg.listener
  | .coverage => SoundCoverage cfg.digestOf
  | .bias => fun _ => True
  | .archive => SoundArchive
  | .tracks => SoundTracks
  | .detector => fun _ => True
  | .holds => SoundHolds cfg.claims
  | .streaks => SoundStreaks

theorem sound_booted (startup : Startup A) (i : Store) : Sound cfg i ((booted startup : World q A F) i) := by
  cases i with
  | messages => exact ⟨fun _ _ found => (by cases found), rfl, rfl⟩
  | coverage => exact ⟨(sound_empty cfg.digestOf).built, (sound_empty cfg.digestOf).owed,
      (sound_empty cfg.digestOf).checked, (sound_empty cfg.digestOf).waiting⟩
  | bias => trivial
  | archive => exact soundArchive_empty
  | tracks => exact fun _ _ found => by cases found
  | detector => trivial
  | holds => exact fun _ _ => rfl
  | streaks => exact fun _ _ found => by cases found

theorem sound_machine (i : Store) (s : Contents q A F i) (e : StoreEvent A F i) (sound : Sound cfg i s) :
    Sound cfg i ((machines cfg i).step s e) := by
  cases i with
  | messages => exact sound_messages sound e
  | coverage => exact sound_coverage sound e
  | bias => trivial
  | archive => exact sound_archive cfg.archiveBufferFailTtlS sound e
  | tracks => exact sound_tracks sound e
  | detector => trivial
  | holds => exact sound_holds sound e
  | streaks => exact sound_streaks sound e

theorem sound_forgetAll {s : World q A F} (sound : ∀ i, Sound cfg i (s i)) (n : String) (i : Store) :
    Sound cfg i (forgetAll n s i) := by
  cases i with
  | messages => exact sound_forgetMessages (sound .messages) n
  | coverage => exact sound_forgetCoverage (sound .coverage) n
  | bias | archive | tracks | detector | holds | streaks => exact sound _

theorem sound_take {s : World q A F} (turn : Turn A F) (sound : ∀ i, Sound cfg i (s i)) :
    ∀ i, Sound cfg i (take cfg s turn i) := by
  cases turn with
  | served e => exact invariant_beside (machines cfg) (fun i s e => sound_machine cfg i s e) sound e
  | forgotten n => exact sound_forgetAll cfg sound n
  | retired n force =>
    simp only [take]
    split
    · exact sound_forgetAll cfg sound n
    · exact sound

theorem sound_reached (startup : Startup A) (history : List (Turn A F)) :
    ∀ i, Sound cfg i (run (take cfg) (booted startup : World q A F) history i) :=
  invariant_always (I := fun s : World q A F => ∀ i, Sound cfg i (s i)) (fun _ turn sound => sound_take cfg turn sound)
    (sound_booted cfg startup) history

/-! ### Nothing left behind -/

/-- The events from `start` on, on the clock of the connections. -/
def Later (start : ℚ) : (Σ i, StoreEvent A F i) → Prop
  | ⟨.messages, e⟩ => start ≤ e.now.monotonic
  | _ => True

/-- What a store has of every other node. -/
def SameBut {α : Type} (n : String) (store store' : Dict String α) : Prop := ∀ m, m ≠ n → store'.get? m = store.get? m

/-- Every other node's state is as it was, but for the flags and the overlap pairs that name the node. -/
structure OthersKept (n : String) (s s' : World q A F) : Prop where
  messages : unseenMessages n (s' .messages) = unseenMessages n (s .messages)
  geometries : SameBut n (s .coverage).nodeGeometries (s' .coverage).nodeGeometries
  areas : SameBut n (s .coverage).areas (s' .coverage).areas
  flags : ∀ m, m ≠ n → (s' .coverage).conditionActive.get? m =
    ((s .coverage).conditionActive.get? m).map fun flags => flags.filter fun m => decide (m ≠ n)
  pairs : (s' .coverage).overlapPairs = (s .coverage).overlapPairs.filter fun pair => decide (pair.1 ≠ n ∧ pair.2 ≠ n)
  digests : SameBut n (s .coverage).coverageDigests (s' .coverage).coverageDigests
  nextCheck : SameBut n (s .coverage).coverageNextCheck (s' .coverage).coverageNextCheck
  pending : SameBut n (s .coverage).coveragePending (s' .coverage).coveragePending
  pendingSince : SameBut n (s .coverage).coveragePendingSince (s' .coverage).coveragePendingSince
  elsewhere : ∀ i, i ≠ .messages → i ≠ .coverage → s' i = s i

/-- Whatever comes from `start` on, under the node's id or another's, is served as by a server that has never seen the
node, and the other nodes have kept what they had. -/
def LeavesNothing (start : ℚ) (n : String) (s s' : World q A F) : Prop :=
  Alike (server cfg) (Later start) s' (unseenAll n s) ∧ OthersKept n s s'

/-- The stores that a retirement does not go through have nothing of the node's. -/
structure Spotless (start : ℚ) (n : String) (s : World q A F) : Prop where
  messages : SpotlessMessages cfg.listener start n (s .messages)
  coverage : SpotlessCoverage n (s .coverage)
  bias : (s .bias).get? n = none
  archive : (s .archive).buffer.get? n = none
  tracks : (s .tracks).get? n = none
  detector : SpotlessDetector n (s .detector)
  holds : (s .holds).get? n = none
  streaks : SpotlessStreaks n (s .streaks)

theorem unseenMessages_forgetMessages (n : String) (s : Server q) :
    unseenMessages n (forgetMessages n s) = unseenMessages n s := by
  have twice {κ α : Type} [DecidableEq κ] (store : Dict κ α) (k : κ) : (store.erase k).erase k = store.erase k :=
    Dict.erase_of_absent (Dict.get?_erase_self store k)
  simp only [unseenMessages, forgetMessages, forgetNode, clearNode, if_true, twice]

theorem others_kept (n : String) (s : World q A F) : OthersKept n s (forgetAll n s) where
  messages := unseenMessages_forgetMessages n (s .messages)
  geometries _ other := Dict.get?_erase_ne _ (Ne.symm other)
  areas _ other := Dict.get?_erase_ne _ (Ne.symm other)
  flags m other := by
    simp only [forgetAll, forgetCoverage, Dict.get?_mapValues, Dict.get?_erase_ne _ (Ne.symm other)]
  pairs := rfl
  digests _ _ := rfl
  nextCheck _ _ := rfl
  pending _ _ := rfl
  pendingSince _ _ := rfl
  elsewhere i noMessages noCoverage := by
    cases i with
    | messages => exact absurd rfl noMessages
    | coverage => exact absurd rfl noCoverage
    | bias | archive | tracks | detector | holds | streaks => rfl

theorem alike_iff_spotless (custodial : Custodial cfg.listener) {s : World q A F} (sound : ∀ i, Sound cfg i (s i))
    (start : ℚ) (n : String) :
    Alike (server cfg) (Later start) (forgetAll n s) (unseenAll n s) ↔ Spotless cfg start n s := by
  rw [alike_beside_iff]
  constructor
  · intro each
    exact {
      messages := (messages_alike_iff custodial (sound .messages) n).mp (each .messages)
      coverage := (coverage_alike_iff (sound .coverage) n).mp (each .coverage)
      bias := (bias_alike_iff cfg.gates (s .bias) n).mp (each .bias)
      archive := (archive_alike_iff cfg.archiveBufferFailTtlS (sound .archive) n).mp (each .archive)
      tracks := (tracks_alike_iff (sound .tracks) n).mp (each .tracks)
      detector := (detector_alike_iff (s .detector) n).mp (each .detector)
      holds := (holds_alike_iff (sound .holds) n).mp (each .holds)
      streaks := (streaks_alike_iff (sound .streaks) n).mp (each .streaks) }
  · intro spotless i
    cases i with
    | messages => exact (messages_alike_iff custodial (sound .messages) n).mpr spotless.messages
    | coverage => exact (coverage_alike_iff (sound .coverage) n).mpr spotless.coverage
    | bias => exact (bias_alike_iff cfg.gates (s .bias) n).mpr spotless.bias
    | archive => exact (archive_alike_iff cfg.archiveBufferFailTtlS (sound .archive) n).mpr spotless.archive
    | tracks => exact (tracks_alike_iff (sound .tracks) n).mpr spotless.tracks
    | detector => exact (detector_alike_iff (s .detector) n).mpr spotless.detector
    | holds => exact (holds_alike_iff (sound .holds) n).mpr spotless.holds
    | streaks => exact (streaks_alike_iff (sound .streaks) n).mpr spotless.streaks

end

/-! ### A key that outlives its node -/

/-- A custody library that takes any text for a key but one, and whose signatures are the texts of the keys. -/
def custodian : Listener :=
  { guardedListener with
    registers := fun _ pem => match pem with
      | .str text => decide (text ≠ "garbled")
      | _ => false
    verifies := fun keys entry => match get entry "node_id" .null, get entry "signature" .null with
      | .str n, .str signature => match keys (.text n) with
          | some (.str text) => decide (text = signature)
          | _ => false
      | _, _ => false }

theorem custodial_custodian : Custodial custodian where
  refuses _ := ⟨.str "garbled", rfl, rfl⟩
  signs n pem taken := by
    cases pem with
    | str text =>
      refine ⟨[("node_id", .str n), ("signature", .str text)], fun keys held => ?_, fun keys missing => ?_, rfl⟩
      · show (match keys (.text n) with
          | some (.str text') => decide (text' = text)
          | _ => false) = true
        rw [held]
        exact decide_eq_true rfl
      · show (match keys (.text n) with
          | some (.str text') => decide (text' = text)
          | _ => false) = false
        rw [missing]
    | null | bool _ | int _ | float _ | list _ | dict _ => cases taken

def keptNothing : Setting Unit where
  listener := custodian
  forceRetirePrefixes := []
  digestOf _ := some [none]
  gates := ⟨1, 1, id⟩
  archiveBufferFailTtlS := 3600
  claims := {}

def oneNode : Startup Unit where
  primed := Dict.empty.insert "ret1a2b3c4d" [("status", .str "active")]
  format := ⟨fun _ => "", id⟩
  custody := ⟨[], [], []⟩
  areas := .empty
  conditionActive := .empty

/-- The node registers a key. -/
def keyed : World twoShards Unit Unit :=
  run (take keptNothing) (booted oneNode) [.served ⟨.messages, keyOf "ret1a2b3c4d" (.str "pem") 50⟩]

end Retina.Retirement
