import RetinaServer.Multinode.Stores

/-! The pruner against the publishers. A prune reads the store in one locked
section and evicts each stale key in a section of its own; publishes happen
between them. What a running prune still has to evict is its pending list. -/
namespace Retina.Multinode
open Runs

/-- A prune in progress. -/
structure Pruner where
  now : ℚ
  snapshot : Tracks
  pending : List String

/-- The stores, and the prunes running on them by thread. -/
structure Shared where
  stores : Stores
  pruners : Dict Nat Pruner

def Shared.boot : Shared := ⟨Stores.boot, Dict.empty⟩

/-- The locked sections. A pop also discards its key's anomaly hex. -/
inductive LockedSection where
  | snapshot (thread : Nat) (now : ℚ)
  | pop (thread : Nat)
  | publish (pub : Publication)

section
variable (cfg : Config)

def Pruner.start (now : ℚ) (snapshot : Tracks) : Pruner := ⟨now, snapshot, staleKeys cfg now snapshot⟩

/-- A thread begins a prune only when its last one has nothing left to evict. -/
def sectionStep (s : Shared) : LockedSection → Shared
  | .snapshot thread now =>
      if (s.pruners.get? thread).any fun p => decide (p.pending ≠ []) then s
      else { s with pruners := s.pruners.insert thread (Pruner.start cfg now s.stores.tracks) }
  | .pop thread =>
      match s.pruners.get? thread with
      | some ⟨now, snapshot, key :: rest⟩ =>
          ⟨evict cfg s.stores key, s.pruners.insert thread ⟨now, snapshot, rest⟩⟩
      | _ => s
  | .publish pub => { s with stores := pub.apply cfg s.stores }

/-- What a thread's next pop takes out of the store, and for which prune. -/
def popped (s : Shared) (thread : Nat) : Option (Pruner × String × TrackEntry) :=
  match s.pruners.get? thread with
  | some ⟨now, snapshot, key :: rest⟩ =>
      (s.stores.tracks.get? key).map fun entry => (⟨now, snapshot, key :: rest⟩, key, entry)
  | _ => none

/-- The popped entry is past its expiry, and is the one its prune has seen. -/
def PopsExpired (s : Shared) : LockedSection → Prop
  | .pop thread => ∀ taken ∈ popped s thread,
      expired cfg taken.1.now taken.2.1 taken.2.2 = true ∧ taken.1.snapshot.get? taken.2.1 = some taken.2.2
  | _ => True

/-- No publish writes a key that a running prune is about to evict. -/
def SparesPending (s : Shared) : LockedSection → Prop
  | .publish pub => ∀ key ∈ pub.target cfg s.stores, ∀ running ∈ s.pruners.items, key ∉ running.2.pending
  | _ => True

instance (s : Shared) : ∀ e, Decidable (PopsExpired cfg s e)
  | .pop _ => inferInstanceAs (Decidable (∀ taken ∈ popped s _, _))
  | .snapshot _ _ | .publish _ => inferInstanceAs (Decidable True)

instance (s : Shared) : ∀ e, Decidable (SparesPending cfg s e)
  | .publish _ => inferInstanceAs (Decidable (∀ key ∈ _, _))
  | .snapshot _ _ | .pop _ => inferInstanceAs (Decidable True)

/-- Whatever a running prune is about to evict is as it was in its snapshot, or gone. -/
def PendingSeen (s : Shared) : Prop :=
  ∀ thread p, s.pruners.get? thread = some p → ∀ key ∈ p.pending, ∀ entry,
    s.stores.tracks.get? key = some entry →
      expired cfg p.now key entry = true ∧ p.snapshot.get? key = some entry

theorem boot_seen : PendingSeen cfg Shared.boot := by
  intro thread p running
  cases running

theorem start_seen (found : tracks.get? key = some entry) (stale : key ∈ (Pruner.start cfg now tracks).pending) :
    expired cfg now key entry = true := by
  by_contra fresh
  have absent : (tracks.filter (expired cfg now)).get? key = none := by
    rw [Dict.get?_filter, found, Option.filter_some, if_neg fresh]
  exact (Dict.get?_eq_none_iff _ _).mp absent stale

theorem snapshot_seen (seen : PendingSeen cfg s) (thread : Nat) (now : ℚ) :
    PendingSeen cfg (sectionStep cfg s (.snapshot thread now)) := by
  simp only [sectionStep]
  split
  · exact seen
  · intro other p running key waiting entry found
    dsimp only at running found
    rw [Dict.get?_insert] at running
    split at running
    · obtain rfl := Option.some.inj running
      exact ⟨start_seen cfg found waiting, found⟩
    · exact seen other p running key waiting entry found

theorem pop_seen (seen : PendingSeen cfg s) (thread : Nat) : PendingSeen cfg (sectionStep cfg s (.pop thread)) := by
  simp only [sectionStep]
  split
  · rename_i now snapshot first rest owner
    intro other p running key waiting entry found
    have before : s.stores.tracks.get? key = some entry := by
      rw [(evict_removes cfg).tracks] at found
      split at found
      · cases found
      · exact found
    dsimp only at running
    rw [Dict.get?_insert] at running
    split at running
    · obtain rfl := Option.some.inj running
      exact seen thread ⟨now, snapshot, first :: rest⟩ owner key (List.mem_cons_of_mem _ waiting) entry before
    · exact seen other p running key waiting entry before
  · exact seen

theorem publish_seen (seen : PendingSeen cfg s) (pub : Publication) (spares : SparesPending cfg s (.publish pub)) :
    PendingSeen cfg (sectionStep cfg s (.publish pub)) := by
  intro thread p running key waiting entry found
  apply seen thread p running key waiting
  simp only [sectionStep] at running found
  rcases apply_cases cfg pub s.stores with ⟨-, same⟩ | ⟨target, forgotten, written, targeted, -, -, same⟩
  · rwa [same] at found
  · have member := (Dict.get?_eq_some_iff s.pruners thread p).mp running
    have other : target ≠ key := by
      rintro rfl
      exact spares target targeted (thread, p) member waiting
    rw [same, commit_tracks, if_neg other] at found
    split at found
    · cases found
    · exact found

theorem sectionStep_seen (s : Shared) (e : LockedSection) (seen : PendingSeen cfg s)
    (spares : SparesPending cfg s e) : PendingSeen cfg (sectionStep cfg s e) := by
  cases e with
  | snapshot thread now => exact snapshot_seen cfg seen thread now
  | pop thread => exact pop_seen cfg seen thread
  | publish pub => exact publish_seen cfg seen pub spares

theorem pops_expired (s : Shared) (e : LockedSection) (seen : PendingSeen cfg s) : PopsExpired cfg s e := by
  cases e with
  | pop thread =>
    intro taken next
    simp only [popped] at next
    split at next
    · rename_i now snapshot key rest running
      obtain ⟨entry, found, rfl⟩ := Option.map_eq_some_iff.mp next
      exact seen thread _ running key List.mem_cons_self entry found
    · cases next
  | snapshot | publish => trivial

/-- In every interleaving whose publishes spare what the running prunes are about
to evict, each pop takes out an expired entry, the one its prune has seen. -/
theorem pops_expired_of_spared (sections : List LockedSection)
    (spared : Along (sectionStep cfg) (SparesPending cfg) Shared.boot sections) :
    Along (sectionStep cfg) (PopsExpired cfg) Shared.boot sections :=
  along_of_invariant (sectionStep_seen cfg) (fun s e seen _ => pops_expired cfg s e seen) (boot_seen cfg) spared

end

/-- A known-lane publish of an aircraft standing still. -/
def seenAt (hexn : String) (timestampMs : ℤ) : LockedSection :=
  .publish (.known hexn (still 0 0 timestampMs) none Dict.empty)

/-- Another aircraft is published while the stale one is evicted. -/
theorem stale_entry_evicted_beside_publish :
    Along (sectionStep meridianConfig) (PopsExpired meridianConfig) Shared.boot
      [seenAt "abc123" 0, .snapshot 0 61, seenAt "def456" 61000, .pop 0] :=
  pops_expired_of_spared meridianConfig _ (by decide +kernel)

/-- The aircraft is published again between the snapshot and the pop. -/
theorem live_entry_evicted :
    ¬ Along (sectionStep meridianConfig) (PopsExpired meridianConfig) Shared.boot
      [seenAt "abc123" 0, .snapshot 0 61, seenAt "abc123" 61000, .pop 0] := by
  decide +kernel

end Retina.Multinode
