import RetinaServer.Archive.Backups

/-! The archive's files and their copies in the object store. A cycle walks the two local trees, uploads what is old
enough and marks it with a sentinel beside it, and removes what is marked and past its retention. Between any two of its
calls the writers publish new files, the accounts database and the state snapshot are copied, and the process may end. -/
namespace Retina.Archive
open Runs Calendar
open Numerals (Text)

variable {β : Type u}

def archiveOffloadAgeDays : ℚ := 1
def archiveRetentionDays : ℚ := 3

def offloadCutoff (now : ℚ) : ℚ := now - archiveOffloadAgeDays * daySeconds

def deletionEnabled : Bool := decide (0 < archiveRetentionDays)

def deleteCutoff (now : ℚ) : ℚ := if deletionEnabled then now - archiveRetentionDays * daySeconds else 0

/-- Caps on the work of one cycle. -/
def maxUploadPerCycle : ℕ := 500
def maxDeletePerCycle : ℕ := 2000

inductive Root where
  | archive
  | tracks
deriving DecidableEq

def Root.r2Prefix : Root → Text
  | .archive => "archive".toList
  | .tracks => "tracks".toList

/-- A file of one of the trees, by its path below the tree's root. -/
structure Path where
  root : Root
  rel : Text
deriving DecidableEq

def uploadedSuffix : Text := ".uploaded".toList

def sentinelPath (file : Path) : Path := { file with rel := file.rel ++ uploadedSuffix }

def r2Key (file : Path) : Text := file.root.r2Prefix ++ '/' :: file.rel

def parquetSuffix : Text := ".parquet".toList
def jsonSuffix : Text := ".json".toList

/-- The globs of `_iter_archive_files`. -/
def isArchived (file : Path) : Bool :=
  parquetSuffix.isSuffixOf file.rel || (decide (file.root = .archive) && jsonSuffix.isSuffixOf file.rel)

structure LocalFile (β : Type u) where
  content : β
  mtime : ℚ

structure Stats where
  uploaded : ℕ
  deleted : ℕ
  errors : ℕ
  skipped : ℕ
deriving DecidableEq

/-- Where a cycle is with the file in hand. -/
inductive Stage where
  | next
  /-- Its age is known. -/
  | found (file : Path) (mtime : ℚ)
  | sending (file : Path) (mtime : ℚ)
  | marking (file : Path) (mtime : ℚ)
  /-- It is known whether the file counts as uploaded. -/
  | judged (file : Path) (mtime : ℚ) (alreadyUploaded : Bool)
  | removing (file : Path)
  | unmarking (file : Path)

structure Cycle where
  now : ℚ
  useR2 : Bool
  /-- The files that it has still to come to. -/
  rest : List Path
  stats : Stats
  stage : Stage

/-- The two trees, the object store, and the cycle that is under way. -/
structure World (β : Type u) where
  disk : Dict Path (LocalFile β)
  bucket : Bucket β
  cycle : Option Cycle

def World.boot : World β := ⟨Dict.empty, Dict.empty, none⟩

section
variable [Inhabited β]

/-- One call of a cycle to the file system or the object store, and what the code makes of its outcome. -/
def World.advance (w : World β) (cycle : Cycle) (answer : Answer) : World β :=
  match cycle.stage with
  | .next => match cycle.rest with
    | [] => { w with cycle := none }
    | file :: rest =>
      if maxDeletePerCycle ≤ cycle.stats.uploaded + cycle.stats.deleted then
        { w with cycle := some { cycle with
            rest := rest, stats := { cycle.stats with skipped := cycle.stats.skipped + 1 } } }
      else match w.disk.get? file, answer with
        | some held, .done => { w with cycle := some { cycle with rest := rest, stage := .found file held.mtime } }
        | _, _ => { w with cycle := some { cycle with rest := rest } }
  | .found file mtime =>
      let alreadyUploaded := (w.disk.get? (sentinelPath file)).isSome
      if cycle.useR2 ∧ mtime < offloadCutoff cycle.now ∧ !alreadyUploaded ∧ cycle.stats.uploaded < maxUploadPerCycle then
        { w with cycle := some { cycle with stage := .sending file mtime } }
      else { w with cycle := some { cycle with stage := .judged file mtime alreadyUploaded } }
  | .sending file mtime => match w.disk.get? file with
    | none => { w with cycle := some { cycle with
        stats := { cycle.stats with errors := cycle.stats.errors + 1 }, stage := .judged file mtime false } }
    | some held =>
      let upload := uploadFile answer (r2Key file) held.content w.bucket
      if upload.2 then { w with bucket := upload.1, cycle := some { cycle with stage := .marking file mtime } }
      else { w with bucket := upload.1, cycle := some { cycle with
        stats := { cycle.stats with errors := cycle.stats.errors + 1 }, stage := .judged file mtime false } }
  | .marking file mtime =>
      let stats := { cycle.stats with uploaded := cycle.stats.uploaded + 1 }
      match answer with
      | .done => { w with
          disk := w.disk.insert (sentinelPath file) ⟨default, cycle.now⟩
          cycle := some { cycle with stats := stats, stage := .judged file mtime true } }
      | _ => { w with cycle := some { cycle with stats := stats, stage := .judged file mtime false } }
  | .judged file mtime alreadyUploaded =>
      if deletionEnabled ∧ mtime < deleteCutoff cycle.now ∧ alreadyUploaded then
        { w with cycle := some { cycle with stage := .removing file } }
      else { w with cycle := some { cycle with stage := .next } }
  | .removing file => match w.disk.get? file, answer with
    | some _, .done => { w with disk := w.disk.erase file, cycle := some { cycle with stage := .unmarking file } }
    | _, _ => { w with cycle := some { cycle with
        stats := { cycle.stats with errors := cycle.stats.errors + 1 }, stage := .next } }
  | .unmarking file =>
      let cycle := { cycle with stats := { cycle.stats with deleted := cycle.stats.deleted + 1 }, stage := .next }
      match answer with
      | .done => { w with disk := w.disk.erase (sentinelPath file), cycle := some cycle }
      | _ => { w with cycle := some cycle }

def snapshotKey : Text := "snapshots/state_snapshot.json".toList

inductive Event (β : Type u) where
  /-- A writer renames a finished batch into its tree. -/
  | publish (file : Path) (content : β) (mtime : ℚ)
  /-- A cycle starts. What the walk comes to is whatever is there by then, of the shape the walk looks for. -/
  | begin (now : ℚ) (useR2 : Bool) (walk : List Path)
  | advance (answer : Answer)
  /-- The process ends, and with it the cycle. -/
  | crash
  | backup (call : BackupCall β)
  | saveSnapshot (content : β) (answer : Answer)

def World.step (w : World β) : Event β → World β
  | .publish file content mtime => { w with disk := w.disk.insert file ⟨content, mtime⟩ }
  | .begin now useR2 walk => match w.cycle with
    | some _ => w
    | none => { w with cycle := some ⟨now, useR2, walk.filter isArchived, ⟨0, 0, 0, 0⟩, .next⟩ }
  | .advance answer => match w.cycle with
    | none => w
    | some cycle => w.advance cycle answer
  | .crash => { w with cycle := none }
  | .backup call => { w with bucket := backupStep w.bucket call }
  | .saveSnapshot content answer => { w with bucket := (uploadFile answer snapshotKey content w.bucket).1 }

end

/-! ### Names -/

theorem head?_r2Key (file : Path) : (r2Key file).head? = file.root.r2Prefix.head? := by
  cases h : file.root <;> rw [r2Key, h] <;> rfl

theorem head?_r2Prefix_inj (same : (Root.r2Prefix root).head? = (Root.r2Prefix root').head?) : root = root' := by
  cases root <;> cases root'
  · rfl
  · exact absurd same (by decide)
  · exact absurd same (by decide)
  · rfl

theorem r2Key_inj (same : r2Key file = r2Key other) : file = other := by
  have roots : file.root = other.root := head?_r2Prefix_inj (by rw [← head?_r2Key, ← head?_r2Key, same])
  obtain ⟨root, rel⟩ := file
  obtain ⟨root', rel'⟩ := other
  cases roots
  exact congrArg (Path.mk root) (List.cons.inj (List.append_cancel_left same)).2

theorem sentinelPath_inj (same : sentinelPath file = sentinelPath other) : file = other := by
  obtain ⟨root, rel⟩ := file
  obtain ⟨root', rel'⟩ := other
  obtain ⟨roots, rels⟩ := Path.mk.inj same
  cases roots
  exact congrArg (Path.mk root) (List.append_cancel_right rels)

theorem not_suffix_of_last {tail text : Text} (last : tail.getLast? ≠ text.getLast?) (some_tail : tail ≠ []) :
    tail.isSuffixOf text = false := by
  rw [Bool.eq_false_iff, ne_eq, List.isSuffixOf_iff_suffix]
  rintro ⟨before, rfl⟩
  rw [List.getLast?_append_of_ne_nil _ some_tail] at last
  exact last rfl

theorem getLast?_sentinelPath (file : Path) : (sentinelPath file).rel.getLast? = uploadedSuffix.getLast? :=
  List.getLast?_append_of_ne_nil _ (by decide)

/-- A sentinel is not a file of the archive. -/
theorem isArchived_sentinelPath (file : Path) : isArchived (sentinelPath file) = false := by
  have parquet : parquetSuffix.isSuffixOf (sentinelPath file).rel = false :=
    not_suffix_of_last (by rw [getLast?_sentinelPath]; decide) (by decide)
  have json : jsonSuffix.isSuffixOf (sentinelPath file).rel = false :=
    not_suffix_of_last (by rw [getLast?_sentinelPath]; decide) (by decide)
  rw [isArchived, parquet, json, Bool.and_false, Bool.or_false]

theorem ne_sentinelPath (archived : isArchived file = true) : file ≠ sentinelPath other := by
  rintro rfl
  rw [isArchived_sentinelPath] at archived
  cases archived

theorem keyDate_r2Key (file : Path) : keyDate (r2Key file) = none := by
  cases dated : keyDate (r2Key file) with
  | none => rfl
  | some d =>
    obtain ⟨rest, same⟩ := prefix_of_keyDate dated
    have heads : backupPrefix.head? = file.root.r2Prefix.head? := by
      rw [← head?_r2Key, ← same]
      rfl
    cases root : file.root <;> rw [root] at heads <;> exact absurd heads (by decide)

theorem r2Key_ne_snapshotKey (file : Path) : snapshotKey ≠ r2Key file := by
  intro same
  have heads : snapshotKey.head? = file.root.r2Prefix.head? := by rw [← head?_r2Key, same]
  cases root : file.root <;> rw [root] at heads <;> exact absurd heads (by decide)

/-! ### What is published stays -/

/-- The files that the writers have published, with what was in them. -/
def published (events : List (Event β)) : List (Path × β) :=
  events.filterMap fun e => match e with
    | .publish file content _ => some (file, content)
    | _ => none

/-- Every batch has a name of its own, of the archive's shape. -/
structure FreshNames (events : List (Event β)) : Prop where
  distinct : ((published events).map Prod.fst).Nodup
  archived : ∀ item ∈ published events, isArchived item.1 = true

/-- The object store has the file as it was published. -/
def Stored (batches : List (Path × β)) (bucket : Bucket β) (file : Path) : Prop :=
  ∃ content, (file, content) ∈ batches ∧ bucket.get? (r2Key file) = some content

structure Kept (batches : List (Path × β)) (disk : Dict Path (LocalFile β)) (bucket : Bucket β) : Prop where
  safe : ∀ file content, (file, content) ∈ batches →
    (∃ held, disk.get? file = some held ∧ held.content = content) ∨ bucket.get? (r2Key file) = some content
  known : ∀ file held, isArchived file = true → disk.get? file = some held → (file, held.content) ∈ batches
  marked : ∀ file, disk.get? (sentinelPath file) ≠ none → isArchived file = true → Stored batches bucket file

section
variable {batches : List (Path × β)} {disk : Dict Path (LocalFile β)} {bucket bucket' : Bucket β} {file : Path}

theorem content_unique (distinct : (batches.map Prod.fst).Nodup) (one : (file, content) ∈ batches)
    (other : (file, content') ∈ batches) : content = content' := by
  have first := (OrderedDict.lookup_eq_some_iff file content batches distinct).mpr one
  have second := (OrderedDict.lookup_eq_some_iff file content' batches distinct).mpr other
  exact Option.some.inj (first.symm.trans second)

/-- Whatever leaves the archive's keys alone. -/
theorem Kept.elsewhere (kept : Kept batches disk bucket) (same : ∀ file, bucket'.get? (r2Key file) = bucket.get? (r2Key file)) :
    Kept batches disk bucket' where
  safe file content listed := by rw [same]; exact kept.safe file content listed
  known := kept.known
  marked file there archived := by
    obtain ⟨content, listed, stored⟩ := kept.marked file there archived
    exact ⟨content, listed, (same file).trans stored⟩

theorem stored_insert (distinct : (batches.map Prod.fst).Nodup) (listed : (file, content) ∈ batches)
    (stored : Stored batches bucket other) : Stored batches (bucket.insert (r2Key file) content) other := by
  obtain ⟨content', listed', held⟩ := stored
  refine ⟨content', listed', ?_⟩
  rw [Dict.get?_insert]
  split
  · rename_i same
    cases r2Key_inj same
    rw [content_unique distinct listed listed']
  · exact held

/-- A file goes up as it was published. -/
theorem Kept.upload (kept : Kept batches disk bucket) (distinct : (batches.map Prod.fst).Nodup)
    (listed : (file, content) ∈ batches) : Kept batches disk (bucket.insert (r2Key file) content) where
  safe other content' listed' := by
    rcases kept.safe other content' listed' with here | up
    · exact .inl here
    · obtain ⟨content'', listed'', held⟩ := stored_insert distinct listed ⟨content', listed', up⟩
      rw [content_unique distinct listed' listed'']
      exact .inr held
  known := kept.known
  marked other there archived := stored_insert distinct listed (kept.marked other there archived)

/-- A sentinel stands for a copy. -/
theorem Kept.mark (kept : Kept batches disk bucket) (shaped : ∀ item ∈ batches, isArchived item.1 = true)
    (stored : Stored batches bucket file) (blank : LocalFile β) :
    Kept batches (disk.insert (sentinelPath file) blank) bucket where
  safe other content listed := by
    rw [Dict.get?_insert_ne _ _ (ne_sentinelPath (shaped _ listed)).symm]
    exact kept.safe other content listed
  known other held archived found := by
    rw [Dict.get?_insert_ne _ _ (ne_sentinelPath archived).symm] at found
    exact kept.known other held archived found
  marked other there archived := by
    rw [Dict.get?_insert] at there
    split at there
    · rename_i same
      rw [← sentinelPath_inj same]
      exact stored
    · exact kept.marked other there archived

/-- A file goes once the store has it. -/
theorem Kept.remove (kept : Kept batches disk bucket) (distinct : (batches.map Prod.fst).Nodup)
    (archived : isArchived file = true) (stored : Stored batches bucket file) : Kept batches (disk.erase file) bucket where
  safe other content listed := by
    by_cases same : file = other
    · subst same
      obtain ⟨content', listed', held⟩ := stored
      rw [content_unique distinct listed listed']
      exact .inr held
    · rw [Dict.get?_erase_ne _ same]
      exact kept.safe other content listed
  known other held there found := by
    rw [Dict.get?_erase] at found
    split at found
    · cases found
    · exact kept.known other held there found
  marked other there shaped := by
    rw [Dict.get?_erase_ne _ (ne_sentinelPath archived)] at there
    exact kept.marked other there shaped

theorem Kept.unmark (kept : Kept batches disk bucket) (shaped : ∀ item ∈ batches, isArchived item.1 = true) :
    Kept batches (disk.erase (sentinelPath file)) bucket where
  safe other content listed := by
    rw [Dict.get?_erase_ne _ (ne_sentinelPath (shaped _ listed)).symm]
    exact kept.safe other content listed
  known other held archived found := by
    rw [Dict.get?_erase_ne _ (ne_sentinelPath archived).symm] at found
    exact kept.known other held archived found
  marked other there archived := by
    rw [Dict.get?_erase] at there
    split at there
    · exact absurd rfl there
    · exact kept.marked other there archived

theorem Stored.append (stored : Stored batches bucket file) (more : List (Path × β)) : Stored (batches ++ more) bucket file := by
  obtain ⟨content, listed, held⟩ := stored
  exact ⟨content, List.mem_append_left more listed, held⟩

/-- A new batch is on the disk, and its name meets no sentinel of an earlier one. -/
theorem Kept.publish (kept : Kept batches disk bucket) (fresh : file ∉ batches.map Prod.fst)
    (archived : isArchived file = true) (held : LocalFile β) :
    Kept (batches ++ [(file, held.content)]) (disk.insert file held) bucket where
  safe other content listed := by
    rcases List.mem_append.mp listed with early | last
    · have apart : file ≠ other := by
        rintro rfl
        exact fresh (List.mem_map_of_mem early)
      rw [Dict.get?_insert_ne _ _ apart]
      exact kept.safe other content early
    · cases List.mem_singleton.mp last
      exact .inl ⟨held, Dict.get?_insert_self _ _ _, rfl⟩
  known other held' there found := by
    rw [Dict.get?_insert] at found
    split at found
    · rename_i same
      cases Option.some.inj found
      rw [← same]
      exact List.mem_append_right _ (List.mem_singleton_self _)
    · exact List.mem_append_left _ (kept.known other held' there found)
  marked other there shaped := by
    rw [Dict.get?_insert_ne _ _ (ne_sentinelPath archived)] at there
    exact (kept.marked other there shaped).append _

end

/-! ### The cycle -/

/-- What a cycle has made sure of about the file in hand. -/
def Stage.Sound (batches : List (Path × β)) (bucket : Bucket β) : Stage → Prop
  | .next => True
  | .found file _ | .sending file _ => isArchived file = true
  | .judged file _ alreadyUploaded => isArchived file = true ∧ (alreadyUploaded = true → Stored batches bucket file)
  | .marking file _ | .removing file | .unmarking file => isArchived file = true ∧ Stored batches bucket file

def Cycle.Sound (batches : List (Path × β)) (bucket : Bucket β) (cycle : Cycle) : Prop :=
  (∀ file ∈ cycle.rest, isArchived file = true) ∧ cycle.stage.Sound batches bucket

structure Sound (batches : List (Path × β)) (w : World β) : Prop where
  kept : Kept batches w.disk w.bucket
  underWay : ∀ cycle ∈ w.cycle, cycle.Sound batches w.bucket

theorem Stage.Sound.mono (more : ∀ file, Stored batches bucket file → Stored batches' bucket' file)
    (sound : Stage.Sound batches bucket stage) : Stage.Sound batches' bucket' stage := by
  cases stage with
  | next => trivial
  | found | sending => exact sound
  | judged => exact ⟨sound.1, fun already => more _ (sound.2 already)⟩
  | marking | removing | unmarking => exact ⟨sound.1, more _ sound.2⟩

section
variable [Inhabited β] {batches : List (Path × β)} {w : World β} {cycle : Cycle}

/-- What a cycle does to the file in hand, it has the right to. -/
theorem Sound.advance (sound : Sound batches w) (distinct : (batches.map Prod.fst).Nodup)
    (shaped : ∀ item ∈ batches, isArchived item.1 = true) (running : w.cycle = some cycle) (answer : Answer) :
    Sound batches (w.advance cycle answer) := by
  obtain ⟨rest, staged⟩ := sound.underWay cycle running
  have kept := sound.kept
  -- The files are left as they are: only the cycle's own record moves on.
  have on (next : Cycle) (later : ∀ file ∈ next.rest, isArchived file = true)
      (known : next.stage.Sound batches w.bucket) : Sound batches { w with cycle := some next } :=
    ⟨kept, fun _ same => Option.some.inj same ▸ ⟨later, known⟩⟩
  unfold World.advance
  cases stage : cycle.stage with
  | next =>
    cases ahead : cycle.rest with
    | nil => exact ⟨kept, fun _ none_left => by cases none_left⟩
    | cons file later =>
      rw [ahead] at rest
      obtain ⟨here, others⟩ := List.forall_mem_cons.mp rest
      dsimp only
      split
      · exact on _ others trivial
      · split
        · exact on _ others here
        · exact on _ others trivial
  | found file mtime =>
    rw [stage] at staged
    dsimp only
    split
    · exact on _ rest staged
    · refine on _ rest ⟨staged, fun already => kept.marked file ?_ staged⟩
      exact Option.isSome_iff_ne_none.mp already
  | sending file mtime =>
    rw [stage] at staged
    dsimp only
    cases here : w.disk.get? file with
    | none => exact on _ rest ⟨staged, fun already => by cases already⟩
    | some held =>
      have listed := kept.known file held staged here
      have sent : Stored batches (w.bucket.insert (r2Key file) held.content) file :=
        ⟨held.content, listed, Dict.get?_insert_self _ _ _⟩
      have up := kept.upload distinct listed
      cases answer with
      | done => exact ⟨up, fun _ same => Option.some.inj same ▸ ⟨rest, staged, sent⟩⟩
      | failed => exact on _ rest ⟨staged, fun already => by cases already⟩
      | unheard => exact ⟨up, fun _ same => Option.some.inj same ▸ ⟨rest, staged, fun already => by cases already⟩⟩
  | marking file mtime =>
    rw [stage] at staged
    cases answer with
    | done => exact ⟨kept.mark shaped staged.2 _, fun _ same => Option.some.inj same ▸ ⟨rest, staged.1, fun _ => staged.2⟩⟩
    | failed | unheard => exact on _ rest ⟨staged.1, fun already => by cases already⟩
  | judged file mtime alreadyUploaded =>
    rw [stage] at staged
    dsimp only
    split
    · rename_i due
      exact on _ rest ⟨staged.1, staged.2 due.2.2⟩
    · exact on _ rest trivial
  | removing file =>
    rw [stage] at staged
    dsimp only
    split
    · exact ⟨kept.remove distinct staged.1 staged.2, fun _ same => Option.some.inj same ▸ ⟨rest, staged⟩⟩
    · exact on _ rest trivial
  | unmarking file =>
    cases answer with
    | done => exact ⟨kept.unmark shaped, fun _ same => Option.some.inj same ▸ ⟨rest, trivial⟩⟩
    | failed | unheard => exact on _ rest trivial

omit [Inhabited β] in
/-- Nothing else that uses the store writes or drops the key of a file of the archive. -/
theorem Sound.elsewhere (sound : Sound batches w) (same : ∀ file, bucket.get? (r2Key file) = w.bucket.get? (r2Key file)) :
    Sound batches { w with bucket := bucket } := by
  refine ⟨sound.kept.elsewhere same, fun cycle running => ⟨(sound.underWay cycle running).1, ?_⟩⟩
  refine (sound.underWay cycle running).2.mono fun file stored => ?_
  obtain ⟨content, listed, held⟩ := stored
  exact ⟨content, listed, (same file).trans held⟩

theorem Sound.step (sound : Sound (published before) w) (fresh : FreshNames (before ++ [e])) :
    Sound (published (before ++ [e])) (w.step e) := by
  obtain ⟨distinct, shaped⟩ := fresh
  have grown : published (before ++ [e]) = published before ++ published [e] := List.filterMap_append
  rw [grown] at distinct shaped ⊢
  cases e with
  | publish file content mtime =>
    rw [List.map_append, List.nodup_append] at distinct
    have unused : file ∉ (published before).map Prod.fst := fun listed =>
      distinct.2.2 file listed file (List.mem_singleton_self file) rfl
    have archived : isArchived file = true := shaped (file, content) (List.mem_append_right _ (List.mem_singleton_self _))
    refine ⟨sound.kept.publish unused archived ⟨content, mtime⟩, fun cycle running => ?_⟩
    obtain ⟨rest, staged⟩ := sound.underWay cycle running
    exact ⟨rest, staged.mono fun file stored => stored.append _⟩
  | begin now useR2 walk =>
    rw [show published [Event.begin now useR2 walk] = ([] : List (Path × β)) from rfl, List.append_nil]
    simp only [World.step]
    split
    · exact sound
    · refine ⟨sound.kept, fun cycle same => ?_⟩
      cases Option.some.inj same
      exact ⟨fun file listed => (List.mem_filter.mp listed).2, trivial⟩
  | advance answer =>
    rw [show published [Event.advance answer] = ([] : List (Path × β)) from rfl, List.append_nil] at distinct shaped ⊢
    simp only [World.step]
    cases running : w.cycle with
    | none => exact sound
    | some cycle => exact sound.advance distinct shaped running answer
  | crash =>
    rw [show published [Event.crash] = ([] : List (Path × β)) from rfl, List.append_nil]
    exact ⟨sound.kept, fun _ none_left => by cases none_left⟩
  | backup call =>
    rw [show published [Event.backup call] = ([] : List (Path × β)) from rfl, List.append_nil]
    exact sound.elsewhere fun file => backupStep_undated call w.bucket (keyDate_r2Key file)
  | saveSnapshot content answer =>
    rw [show published [Event.saveSnapshot content answer] = ([] : List (Path × β)) from rfl, List.append_nil]
    refine sound.elsewhere fun file => ?_
    rcases uploadFile_cases answer snapshotKey content w.bucket with same | same
    · rw [same]
    · rw [same, Dict.get?_insert_ne _ _ (r2Key_ne_snapshotKey file)]

omit [Inhabited β] in
theorem freshNames_before {before : List (Event β)} (fresh : FreshNames (before ++ [e])) : FreshNames before := by
  obtain ⟨distinct, shaped⟩ := fresh
  have grown : published (before ++ [e]) = published before ++ published [e] := List.filterMap_append
  rw [grown] at distinct shaped
  rw [List.map_append] at distinct
  exact ⟨(List.nodup_append.mp distinct).1, fun item listed => shaped item (List.mem_append_left _ listed)⟩

theorem sound_run {events : List (Event β)} (fresh : FreshNames events) : Sound (published events) (run World.step (World.boot : World β) events) := by
  induction events using List.reverseRecOn with
  | nil =>
    refine ⟨⟨fun _ _ listed => ?_, fun _ _ _ found => ?_, fun _ there => ?_⟩, fun _ running => ?_⟩
    · cases listed
    · cases found
    · exact absurd rfl there
    · cases running
  | append_singleton before e ih =>
    rw [run_append, run_cons, run_nil]
    exact (ih (freshNames_before fresh)).step fresh

/-- Where every batch has a name of its own, no order of writers, cycles, copies, failures and crashes loses one: what
was published is in its tree or, byte for byte, in the object store; and what has a sentinel, or has been removed, is in
the store. -/
theorem archived_never_lost (events : List (Event β)) (fresh : FreshNames events) (file : Path) (content : β)
    (listed : (file, content) ∈ published events) :
    let w := run World.step (World.boot : World β) events
    ((∃ held, w.disk.get? file = some held ∧ held.content = content) ∨ w.bucket.get? (r2Key file) = some content) ∧
      (w.disk.get? file = none ∨ w.disk.get? (sentinelPath file) ≠ none → w.bucket.get? (r2Key file) = some content) := by
  intro w
  have kept := (sound_run fresh).kept
  refine ⟨kept.safe file content listed, fun gone => ?_⟩
  rcases gone with absent | marked
  · rcases kept.safe file content listed with ⟨held, here, -⟩ | stored
    · rw [absent] at here
      cases here
    · exact stored
  · obtain ⟨content', listed', stored⟩ := kept.marked file marked (fresh.archived _ listed)
    rw [content_unique fresh.distinct listed listed']
    exact stored
end

/-- A batch four days old goes up, is marked and is removed, all in one cycle. -/
def fourDaysOn : List (Event ℕ) :=
  .publish ⟨.tracks, "a.parquet".toList⟩ 7 0 :: .begin 345600 true [⟨.tracks, "a.parquet".toList⟩] ::
    List.replicate 8 (.advance .done)

theorem four_days_on :
    (run World.step World.boot fourDaysOn).bucket.get? "tracks/a.parquet".toList = some 7 :=
  (archived_never_lost fourDaysOn ⟨by decide, by decide⟩ ⟨.tracks, "a.parquet".toList⟩ 7 (by decide)).2
    (.inl (by decide +kernel))

/-! ### Caps -/

def Cycle.uploads (cycle : Cycle) : ℕ := cycle.stats.uploaded
def Cycle.work (cycle : Cycle) : ℕ := cycle.stats.uploaded + cycle.stats.deleted

/-- What the caps leave room for at each stage. -/
def Cycle.Capped (cycle : Cycle) : Prop :=
  match cycle.stage with
  | .next => cycle.uploads ≤ maxUploadPerCycle ∧ cycle.work ≤ maxDeletePerCycle + 1
  | .found _ _ => cycle.uploads ≤ maxUploadPerCycle ∧ cycle.work < maxDeletePerCycle
  | .sending _ _ | .marking _ _ => cycle.uploads < maxUploadPerCycle ∧ cycle.work < maxDeletePerCycle
  | .judged _ _ _ | .removing _ | .unmarking _ => cycle.uploads ≤ maxUploadPerCycle ∧ cycle.work ≤ maxDeletePerCycle

section
variable [Inhabited β] {w : World β} {cycle : Cycle}

/-- The caps hold at every stage. -/
theorem capped_advance (capped : cycle.Capped) (answer : Answer) : ∀ next ∈ (w.advance cycle answer).cycle, next.Capped := by
  intro next after
  unfold World.advance at after
  unfold Cycle.Capped Cycle.uploads Cycle.work at *
  cases stage : cycle.stage with
  | next =>
    simp only [stage] at after capped
    split at after
    · cases after
    split at after
    · cases Option.some.inj after
      exact capped
    split at after
    · cases Option.some.inj after
      dsimp only
      omega
    · cases Option.some.inj after
      exact capped
  | found file mtime =>
    simp only [stage] at after capped
    split at after
    · rename_i due
      cases Option.some.inj after
      exact ⟨due.2.2.2, capped.2⟩
    · cases Option.some.inj after
      exact ⟨capped.1, capped.2.le⟩
  | sending file mtime =>
    simp only [stage] at after capped
    split at after
    · cases Option.some.inj after
      exact ⟨capped.1.le, capped.2.le⟩
    split at after
    · cases Option.some.inj after
      exact capped
    · cases Option.some.inj after
      exact ⟨capped.1.le, capped.2.le⟩
  | marking file mtime =>
    simp only [stage] at after capped
    split at after
    · cases Option.some.inj after
      dsimp only
      omega
    · cases Option.some.inj after
      dsimp only
      omega
  | judged file mtime alreadyUploaded =>
    simp only [stage] at after capped
    split at after
    · cases Option.some.inj after
      exact capped
    · cases Option.some.inj after
      exact ⟨capped.1, by dsimp only; omega⟩
  | removing file =>
    simp only [stage] at after capped
    split at after
    · cases Option.some.inj after
      exact capped
    · cases Option.some.inj after
      exact ⟨capped.1, by dsimp only; omega⟩
  | unmarking file =>
    simp only [stage] at after capped
    split at after
    · cases Option.some.inj after
      dsimp only
      omega
    · cases Option.some.inj after
      dsimp only
      omega

theorem capped_step (capped : ∀ cycle ∈ w.cycle, cycle.Capped) (e : Event β) : ∀ cycle ∈ (w.step e).cycle, cycle.Capped := by
  cases e with
  | publish file content mtime => exact capped
  | begin now useR2 walk =>
    simp only [World.step]
    split
    · exact capped
    · intro cycle same
      cases Option.some.inj same
      exact ⟨Nat.zero_le _, Nat.zero_le _⟩
  | advance answer =>
    simp only [World.step]
    cases running : w.cycle with
    | none => simp [running]
    | some cycle => exact capped_advance (capped cycle running) answer
  | crash => exact fun _ none_left => by cases none_left
  | backup call => exact capped
  | saveSnapshot content answer => exact capped

end

end Retina.Archive
