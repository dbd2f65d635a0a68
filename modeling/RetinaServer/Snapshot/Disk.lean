import RetinaServer.Library.Runs
import RetinaServer.Tcp.Json

/-! The snapshot's files. A save writes its text beside the file, renames it into place and has it copied to the
object store, and may be cut off after any of its steps. -/
namespace Retina.Snapshot
open Runs
open Tcp (Json Fields)

/-- What a file reads as. An envelope carries its payload's checksum, and a bare snapshot is from before there were
envelopes. -/
inductive Text where
  | broken
  | bare (snap : Json)
  | envelope (sha256 : String) (payload : Json)

/-- The local files, and the copy in the object store. -/
structure Disk where
  snapshot : Option Text
  tmp : Option Text
  shaFile : Option String
  shaTmp : Option String
  remote : Option Text

def Disk.fresh : Disk := ⟨none, none, none, none, none⟩

/-- A step of a save. -/
inductive FileOp where
  | writeTmp (text : Text)
  | replace
  | writeShaTmp (text : String)
  | replaceSha
  | upload

def Disk.perform (disk : Disk) : FileOp → Disk
  | .writeTmp text => { disk with tmp := some text }
  | .replace => { disk with snapshot := disk.tmp, tmp := none }
  | .writeShaTmp text => { disk with shaTmp := some text }
  | .replaceSha => { disk with shaFile := disk.shaTmp, shaTmp := none }
  | .upload => { disk with remote := disk.snapshot }

/-- `null` is as good as no snapshot. -/
def present : Json → Option Json
  | .null => none
  | snap => some snap

theorem eq_of_present (there : present json = some snap) : json = snap := by
  cases json <;> cases there <;> rfl

section
variable (sha256 : Json → String)

def envelopeOf (snapshot : Json) : Text := .envelope (sha256 snapshot) snapshot

/-- `save_snapshot`. A file that is being written is there before its text is complete. -/
def saveSnapshot (snapshot : Json) (uploaded : Bool) : List FileOp :=
  [.writeTmp .broken, .writeTmp (envelopeOf sha256 snapshot), .replace,
    .writeShaTmp "", .writeShaTmp (sha256 snapshot), .replaceSha] ++ if uploaded then [.upload] else []

/-- How many steps of a save there are up to its rename, and up to its copy. -/
def stepsToRename : Nat := 3
def stepsToCopy : Nat := 7

/-- What becomes of the files. -/
inductive Event where
  /-- A save that gets as far as some of its steps. -/
  | save (snapshot : Fields) (uploaded : Bool) (steps : Nat)
  /-- The local files are gone with their container. -/
  | lost
  /-- The local file reads as no JSON, or as an envelope whose payload does not have its checksum. -/
  | damaged (mismatch : Option (String × Json))

def Disk.step (disk : Disk) : Event → Disk
  | .save snapshot uploaded steps => ((saveSnapshot sha256 (.dict snapshot) uploaded).take steps).foldl Disk.perform disk
  | .lost => { Disk.fresh with remote := disk.remote }
  | .damaged none => { disk with snapshot := some .broken }
  | .damaged (some (sha, payload)) =>
      if sha256 payload = sha then disk else { disk with snapshot := some (.envelope sha payload) }

/-- A payload under its own checksum. -/
def verified (sha : String) (payload : Json) : Option Json := if sha256 payload = sha then present payload else none

/-- The local snapshot, where there is one that is not corrupt. -/
def Disk.readLocal (disk : Disk) : Option Json :=
  match disk.snapshot with
  | none | some .broken => none
  | some (.envelope sha payload) => verified sha256 sha payload
  | some (.bare snap) => match disk.shaFile with
      | some expected => verified sha256 expected snap
      | none => present snap

/-- The copy in the object store. -/
def Disk.readRemote (disk : Disk) : Option Json :=
  match disk.remote with
  | none | some .broken => none
  | some (.envelope sha payload) => verified sha256 sha payload
  | some (.bare snap) => present snap

/-- What `restore_snapshot` goes by. -/
def Disk.load (disk : Disk) (r2Enabled : Bool) : Option Json :=
  match disk.readLocal sha256 with
  | some snap => some snap
  | none => if r2Enabled then disk.readRemote sha256 else none

end

/-- The snapshots whose saves have reached their rename. -/
def renamed (events : List Event) : List Json :=
  events.filterMap fun e => match e with
    | .save snapshot _ steps => if stepsToRename ≤ steps then some (Json.dict snapshot) else none
    | _ => none

/-- The snapshots that have been copied. -/
def replicated (events : List Event) : List Json :=
  events.filterMap fun e => match e with
    | .save snapshot true steps => if stepsToCopy ≤ steps then some (Json.dict snapshot) else none
    | _ => none

variable {sha256 : Json → String}

/-- A file holds a whole payload of one of the saves, or what no reader accepts. -/
def Sealed (sha256 : Json → String) (saves : List Json) (file : Option Text) : Prop :=
  ∀ text ∈ file, text = .broken ∨ (∃ sha payload, text = .envelope sha payload ∧ sha256 payload ≠ sha) ∨
    ∃ snapshot ∈ saves, text = envelopeOf sha256 snapshot

theorem Sealed.mono (held : Sealed sha256 saves file) (more : saves ⊆ saves') : Sealed sha256 saves' file := by
  intro text present
  rcases held text present with broken | mismatch | ⟨snapshot, member, same⟩
  · exact .inl broken
  · exact .inr (.inl mismatch)
  · exact .inr (.inr ⟨snapshot, more member, same⟩)

/-- All that a save leaves of its steps: the file once it is renamed, and the copy once it is made. -/
theorem step_save (sha256 : Json → String) (disk : Disk) (snapshot : Fields) (uploaded : Bool) (steps : Nat) :
    (disk.step sha256 (.save snapshot uploaded steps)).snapshot =
        (if stepsToRename ≤ steps then some (envelopeOf sha256 (.dict snapshot)) else disk.snapshot) ∧
      (disk.step sha256 (.save snapshot uploaded steps)).remote =
        if uploaded = true ∧ stepsToCopy ≤ steps then some (envelopeOf sha256 (.dict snapshot)) else disk.remote := by
  match steps with
  | 0 | 1 | 2 | 3 | 4 | 5 | 6 => simp [Disk.step, saveSnapshot, Disk.perform, stepsToRename, stepsToCopy]
  | steps + 7 => cases uploaded <;> simp [Disk.step, saveSnapshot, Disk.perform, stepsToRename, stepsToCopy]

theorem sealed_step (before : List Event) (disk : Disk) (e : Event)
    (held : Sealed sha256 (renamed before) disk.snapshot ∧ Sealed sha256 (replicated before) disk.remote) :
    Sealed sha256 (renamed (before ++ [e])) (disk.step sha256 e).snapshot ∧
      Sealed sha256 (replicated (before ++ [e])) (disk.step sha256 e).remote := by
  have localMore : renamed before ⊆ renamed (before ++ [e]) := by
    rw [renamed, renamed, List.filterMap_append]
    exact List.subset_append_left _ _
  have remoteMore : replicated before ⊆ replicated (before ++ [e]) := by
    rw [replicated, replicated, List.filterMap_append]
    exact List.subset_append_left _ _
  cases e with
  | save snapshot uploaded steps =>
    obtain ⟨here, there⟩ := step_save sha256 disk snapshot uploaded steps
    rw [here, there]
    constructor
    · split
      · rename_i reached
        rintro _ ⟨⟩
        exact .inr (.inr ⟨.dict snapshot, by simp [renamed, reached], rfl⟩)
      · exact held.1.mono localMore
    · split
      · rename_i reached
        rintro _ ⟨⟩
        exact .inr (.inr ⟨.dict snapshot, by simp [replicated, reached.1, reached.2], rfl⟩)
      · exact held.2.mono remoteMore
  | lost => exact ⟨fun _ absent => (by cases absent), held.2.mono remoteMore⟩
  | damaged mismatch =>
    refine ⟨?_, ?_⟩
    · cases mismatch with
      | none =>
        rintro _ ⟨⟩
        exact .inl rfl
      | some pair =>
        simp only [Disk.step]
        split
        · exact held.1.mono localMore
        · rename_i differs
          rintro _ ⟨⟩
          exact .inr (.inl ⟨pair.1, pair.2, rfl, differs⟩)
    · have kept := held.2.mono remoteMore
      cases mismatch with
      | none => exact kept
      | some pair =>
        simp only [Disk.step]
        split <;> exact kept

theorem sealed_run (sha256 : Json → String) (events : List Event) :
    Sealed sha256 (renamed events) (run (Disk.step sha256) .fresh events).snapshot ∧
      Sealed sha256 (replicated events) (run (Disk.step sha256) .fresh events).remote := by
  have initial : Sealed sha256 (renamed []) Disk.fresh.snapshot ∧ Sealed sha256 (replicated []) Disk.fresh.remote :=
    ⟨fun _ absent => (by cases absent), fun _ absent => (by cases absent)⟩
  have admitted : Along (Disk.step sha256) (fun _ _ => True) .fresh events :=
    along_of_always (I := fun _ => True) (fun _ _ _ => trivial) (fun _ _ _ => trivial) trivial events
  exact invariant_of_history (J := fun before disk =>
      Sealed sha256 (renamed before) disk.snapshot ∧ Sealed sha256 (replicated before) disk.remote)
    (fun before disk e held _ => sealed_step before disk e held) initial admitted

/-- What is loaded is one whole payload: of a save that reached its rename, or of one that was copied, where the local
file is missing or corrupt. -/
def LoadsWhole (sha256 : Json → String) (events : List Event) (disk : Disk) (r2Enabled : Bool) : Prop :=
  ∀ snap, disk.load sha256 r2Enabled = some snap →
    disk.readLocal sha256 = some snap ∧ snap ∈ renamed events ∨
      disk.readLocal sha256 = none ∧ snap ∈ replicated events

theorem mem_of_verified (held : Sealed sha256 saves (some (.envelope sha payload)))
    (read : verified sha256 sha payload = some snap) : snap ∈ saves := by
  simp only [verified] at read
  split at read
  · rename_i matching
    obtain rfl := eq_of_present read
    rcases held _ rfl with broken | ⟨sha', payload', same, mismatch⟩ | ⟨snapshot, member, same⟩
    · cases broken
    · cases same
      exact absurd matching mismatch
    · cases same
      exact member
  · cases read

theorem loads_whole (sha256 : Json → String) (events : List Event) (r2Enabled : Bool) :
    LoadsWhole sha256 events (run (Disk.step sha256) .fresh events) r2Enabled := by
  obtain ⟨here, there⟩ := sealed_run sha256 events
  intro snap loaded
  generalize run (Disk.step sha256) .fresh events = disk at here there loaded ⊢
  simp only [Disk.load] at loaded
  split at loaded
  · rename_i snap' read
    obtain rfl := Option.some.inj loaded
    refine .inl ⟨read, ?_⟩
    simp only [Disk.readLocal] at read
    split at read
    · cases read
    · cases read
    · rename_i present
      exact mem_of_verified (present ▸ here) read
    · rename_i present
      rcases here _ present with broken | ⟨_, _, same, _⟩ | ⟨_, _, same⟩
      · cases broken
      · cases same
      · cases same
  · rename_i nothing
    refine .inr ⟨nothing, ?_⟩
    split at loaded
    · simp only [Disk.readRemote] at loaded
      split at loaded
      · cases loaded
      · cases loaded
      · rename_i present
        exact mem_of_verified (present ▸ there) loaded
      · rename_i present
        rcases there _ present with broken | ⟨_, _, same, _⟩ | ⟨_, _, same⟩
        · cases broken
        · cases same
        · cases same
    · cases loaded

end Retina.Snapshot
