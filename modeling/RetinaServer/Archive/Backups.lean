import RetinaServer.Library.Calendar
import RetinaServer.Library.Dict
import RetinaServer.Library.Runs
import Mathlib.Data.Char
import Mathlib.Data.List.Lex

/-! The daily copies of the accounts database in the object store. A call uploads the day's snapshot under the day's key
and then drops the copies that are past their retention, a thousand at most. -/
namespace Retina.Archive
open Runs Calendar
open Numerals (Text)

variable {β : Type u}

/-- The objects of the store under their keys. -/
abbrev Bucket (β : Type u) := Dict Text β

/-- How a request to the store ends: done, not done, or done without its answer being heard. -/
inductive Answer where
  | done
  | failed
  | unheard
deriving DecidableEq

/-- `upload_file`: the store after it, and whether it is known to be done. -/
def uploadFile (answer : Answer) (key : Text) (content : β) (bucket : Bucket β) : Bucket β × Bool :=
  match answer with
  | .done => (bucket.insert key content, true)
  | .failed => (bucket, false)
  | .unheard => (bucket.insert key content, false)

def backupPrefix : Text := "backups/users-db/".toList

def backupSuffix : Text := ".db".toList

def backupRetentionDays : ℚ := 30

/-- As many keys as one bulk deletion takes. -/
def deleteBatch : ℕ := 1000

def dayKey (d : Date) : Text := backupPrefix ++ (d.isoformat ++ backupSuffix)

/-- What `_KEY_DATE_RE` finds in a key, where it is a date. The pattern's end also matches before a last line break. -/
def keyDate (key : Text) : Option Date :=
  let rest := key.drop backupPrefix.length
  let tail := rest.drop isoLength
  if backupPrefix.isPrefixOf key ∧ (tail = backupSuffix ∨ tail = backupSuffix ++ ['\n']) then
    fromIsoformat (rest.take isoLength)
  else none

theorem keyDate_dayKey (d : Date) : keyDate (dayKey d) = some d := by
  have rest : (dayKey d).drop backupPrefix.length = d.isoformat ++ backupSuffix := List.drop_left
  have tail : (d.isoformat ++ backupSuffix).drop isoLength = backupSuffix := List.drop_left' d.length_isoformat
  have text : (d.isoformat ++ backupSuffix).take isoLength = d.isoformat := List.take_left' d.length_isoformat
  have under : backupPrefix.isPrefixOf (dayKey d) = true := List.isPrefixOf_iff_prefix.mpr (List.prefix_append _ _)
  rw [keyDate, rest, tail, text, if_pos ⟨under, .inl rfl⟩, fromIsoformat_isoformat]

theorem prefix_of_keyDate (dated : keyDate key = some d) : backupPrefix <+: key := by
  rw [keyDate] at dated
  split at dated
  · rename_i shaped
    exact List.isPrefixOf_iff_prefix.mp shaped.1
  · cases dated

/-- What a call meets: the clock, the database file, and how the object store answers. -/
structure BackupCall (β : Type u) where
  enabled : Bool
  dbPresent : Bool
  /-- The copy that SQLite makes, unless it raises. -/
  snapshot : Option β
  upload : Answer
  lists : Bool
  /-- Whether the store drops a key that it is asked to drop, and whether it gets to say so. -/
  drops : Text → Bool
  answers : Bool
  started : Moment
  pruned : Moment

structure BackupStats where
  uploaded : Option Text
  deleted : ℕ
  skipped : Option String
deriving DecidableEq

/-- The keys under the prefix, in the store's order. -/
def listKeys (bucket : Bucket β) (start : Text) : List Text :=
  (bucket.keys.filter fun key => start.isPrefixOf key).mergeSort fun a b => decide (a ≤ b)

def cutoff (now : Moment) : ℚ := now.timestamp - backupRetentionDays * daySeconds

def isExpired (now : Moment) (key : Text) : Bool :=
  match keyDate key with
  | none => false
  | some d => decide (d.timestamp < cutoff now)

def expired (bucket : Bucket β) (now : Moment) : List Text :=
  (listKeys bucket backupPrefix).filter (isExpired now)

/-- What a call asks to drop. A listing that fails lists nothing. -/
def oldCopies (call : BackupCall β) (stored : Bucket β) : List Text :=
  if call.lists then expired stored call.pruned else []

def deleteKeys (call : BackupCall β) (keys : List Text) (bucket : Bucket β) : Bucket β × ℕ :=
  let batch := keys.take deleteBatch
  let gone := batch.filter call.drops
  (bucket.filter fun key _ => !gone.contains key, if call.answers then gone.length else 0)

/-- `run_users_db_backup`: the store after it, and its statistics unless it raises. -/
def runUsersDbBackup (call : BackupCall β) (bucket : Bucket β) : Bucket β × Option BackupStats :=
  if !call.enabled then (bucket, some ⟨none, 0, some "r2-disabled"⟩)
  else if !call.dbPresent then (bucket, some ⟨none, 0, some "db-missing"⟩)
  else match call.snapshot with
    | none => (bucket, none)
    | some snapshot =>
      let key := dayKey call.started.date
      let upload := uploadFile call.upload key snapshot bucket
      if !upload.2 then (upload.1, some ⟨none, 0, some "upload-failed"⟩)
      else
        let old := oldCopies call upload.1
        if old.isEmpty then (upload.1, some ⟨some key, 0, none⟩)
        else
          let deletion := deleteKeys call old upload.1
          (deletion.1, some ⟨some key, deletion.2, none⟩)

theorem uploadFile_cases (answer : Answer) (key : Text) (content : β) (bucket : Bucket β) :
    (uploadFile answer key content bucket).1 = bucket ∨
      (uploadFile answer key content bucket).1 = bucket.insert key content := by
  cases answer with
  | failed => exact .inl rfl
  | done | unheard => exact .inr rfl

theorem filter_nothing (bucket : Bucket β) : (bucket.filter fun key _ => !([] : List Text).contains key) = bucket :=
  Dict.filter_eq_self fun _ _ _ => rfl

theorem oldCopies_subset (call : BackupCall β) (stored : Bucket β) : oldCopies call stored ⊆ expired stored call.pruned := by
  unfold oldCopies
  split
  · exact List.Subset.refl _
  · exact List.nil_subset _

/-- What a call may have stored before it drops anything: a copy under its own day, or nothing. -/
def Copied (call : BackupCall β) (bucket stored : Bucket β) : Prop :=
  stored = bucket ∨ ∃ snapshot, call.snapshot = some snapshot ∧ stored = bucket.insert (dayKey call.started.date) snapshot

/-- A call copies, and then drops a part of what has expired. -/
theorem runUsersDbBackup_cases (call : BackupCall β) (bucket : Bucket β) :
    ∃ stored gone, Copied call bucket stored ∧ gone ⊆ expired stored call.pruned ∧
      (runUsersDbBackup call bucket).1 = stored.filter fun key _ => !gone.contains key := by
  have untouched : ∃ stored gone, Copied call bucket stored ∧ gone ⊆ expired stored call.pruned ∧
      bucket = stored.filter fun key _ => !gone.contains key :=
    ⟨bucket, [], .inl rfl, List.nil_subset _, (filter_nothing bucket).symm⟩
  unfold runUsersDbBackup
  split
  · exact untouched
  split
  · exact untouched
  split
  · exact untouched
  rename_i snapshot made
  have copied : Copied call bucket (uploadFile call.upload (dayKey call.started.date) snapshot bucket).1 :=
    (uploadFile_cases call.upload (dayKey call.started.date) snapshot bucket).imp_right fun same => ⟨snapshot, made, same⟩
  refine ⟨(uploadFile call.upload (dayKey call.started.date) snapshot bucket).1, ?_⟩
  dsimp only
  split
  · exact ⟨[], copied, List.nil_subset _, (filter_nothing _).symm⟩
  split
  · exact ⟨[], copied, List.nil_subset _, (filter_nothing _).symm⟩
  · refine ⟨_, copied, fun key dropped => ?_, rfl⟩
    exact oldCopies_subset _ _ (List.mem_of_mem_take (List.mem_of_mem_filter dropped))

theorem expired_dated (old : key ∈ expired bucket now) : ∃ d, keyDate key = some d ∧ d.timestamp < cutoff now := by
  have passed := (List.mem_filter.mp old).2
  unfold isExpired at passed
  split at passed
  · cases passed
  · rename_i d dated
    exact ⟨d, dated, of_decide_eq_true passed⟩

def backupStep (bucket : Bucket β) (call : BackupCall β) : Bucket β := (runUsersDbBackup call bucket).1

/-- A key that names no date is neither written nor dropped. -/
theorem backupStep_undated (call : BackupCall β) (bucket : Bucket β) (undated : keyDate key = none) :
    (backupStep bucket call).get? key = bucket.get? key := by
  obtain ⟨stored, gone, copied, old, same⟩ := runUsersDbBackup_cases call bucket
  have kept : key ∉ gone := by
    intro dropped
    obtain ⟨d, dated, -⟩ := expired_dated (old dropped)
    rw [undated] at dated
    cases dated
  have left : (backupStep bucket call).get? key = stored.get? key := by
    rw [backupStep, same, Dict.get?_filter]
    cases stored.get? key <;> simp [kept]
  rw [left]
  rcases copied with rfl | ⟨snapshot, -, rfl⟩
  · rfl
  · refine Dict.get?_insert_ne bucket snapshot ?_
    rintro rfl
    rw [keyDate_dayKey] at undated
    cases undated

/-- A copy that a call drops is past its retention. -/
theorem backupStep_gone (call : BackupCall β) (bucket : Bucket β) (held : bucket.get? key ≠ none)
    (absent : (backupStep bucket call).get? key = none) :
    ∃ d, keyDate key = some d ∧ d.timestamp < cutoff call.pruned := by
  obtain ⟨stored, gone, copied, old, same⟩ := runUsersDbBackup_cases call bucket
  have standing : stored.get? key ≠ none := by
    rcases copied with rfl | ⟨snapshot, -, rfl⟩
    · exact held
    · rw [Dict.get?_insert]
      split
      · exact Option.some_ne_none _
      · exact held
  have dropped : key ∈ gone := by
    by_contra kept
    rw [backupStep, same, Dict.get?_filter] at absent
    cases found : stored.get? key with
    | none => exact standing found
    | some content => simp [found, kept] at absent
  exact expired_dated (old dropped)

/-- What a call leaves under a key was there, or is its own copy under its own day. -/
theorem backupStep_content (call : BackupCall β) (bucket : Bucket β)
    (found : (backupStep bucket call).get? key = some content) :
    bucket.get? key = some content ∨ (key = dayKey call.started.date ∧ call.snapshot = some content) := by
  obtain ⟨stored, gone, copied, -, same⟩ := runUsersDbBackup_cases call bucket
  rw [backupStep, same] at found
  have standing := (Dict.get?_filter_some found).1
  rcases copied with rfl | ⟨snapshot, made, rfl⟩
  · exact .inl standing
  · rw [Dict.get?_insert] at standing
    split at standing
    · rename_i here
      exact .inr ⟨here.symm, made.trans standing⟩
    · exact .inl standing

/-! ### Calls that go through -/

structure BackupCall.Complete (call : BackupCall β) (snapshot : β) : Prop where
  enabled : call.enabled = true
  dbPresent : call.dbPresent = true
  made : call.snapshot = some snapshot
  uploaded : call.upload = .done
  listed : call.lists = true
  dropped : ∀ key, call.drops key = true
  /-- It reads the clock the second time within a day of the first. -/
  prompt : call.pruned.timestamp ≤ call.started.timestamp + daySeconds

variable {call : BackupCall β} {snapshot : β}

theorem not_isExpired_today (through : call.Complete snapshot) : isExpired call.pruned (dayKey call.started.date) = false := by
  have late := call.started.inDay.2
  have prompt := through.prompt
  unfold isExpired
  rw [keyDate_dayKey]
  refine decide_eq_false (not_lt.mpr ?_)
  unfold cutoff backupRetentionDays
  unfold Moment.timestamp at prompt ⊢
  unfold daySeconds at *
  linarith

theorem perm_expired (bucket : Bucket β) (now : Moment) : (expired bucket now).Perm (bucket.keys.filter (isExpired now)) := by
  have sorted := (List.mergeSort_perm (bucket.keys.filter fun key => backupPrefix.isPrefixOf key)
    fun a b => decide (a ≤ b)).filter (isExpired now)
  refine sorted.trans (List.Perm.of_eq ?_)
  rw [List.filter_filter]
  refine List.filter_congr fun key _ => ?_
  cases old : isExpired now key with
  | false => rfl
  | true =>
    unfold isExpired at old
    split at old
    · cases old
    · rename_i d dated
      simp [List.isPrefixOf_iff_prefix.mpr (prefix_of_keyDate dated)]

theorem expired_insert_today (through : call.Complete snapshot) (bucket : Bucket β) (content : β) :
    (expired (bucket.insert (dayKey call.started.date) content) call.pruned).Perm (expired bucket call.pruned) := by
  refine (perm_expired _ _).trans (List.Perm.trans (List.Perm.of_eq ?_) (perm_expired _ _).symm)
  rw [Dict.keys_insert]
  split
  · rfl
  · rw [List.filter_append, List.filter_singleton, not_isExpired_today through]
    simp

theorem backupStep_complete (through : call.Complete snapshot) (bucket : Bucket β) :
    backupStep bucket call =
      (bucket.insert (dayKey call.started.date) snapshot).filter fun key _ =>
        !((expired (bucket.insert (dayKey call.started.date) snapshot) call.pruned).take deleteBatch).contains key := by
  have batch (keys : List Text) : keys.filter call.drops = keys := List.filter_eq_self.mpr fun key _ => through.dropped key
  simp only [backupStep, runUsersDbBackup, through.enabled, through.dbPresent, through.made, through.uploaded, uploadFile,
    oldCopies, through.listed, deleteKeys, batch, Bool.not_true, Bool.false_eq_true, if_false, if_true]
  split
  · rename_i none_old
    rw [List.isEmpty_iff.mp none_old]
    exact (filter_nothing _).symm
  · rfl

/-- A call that goes through leaves the day's copy. -/
theorem get?_complete (through : call.Complete snapshot) (bucket : Bucket β) :
    (backupStep bucket call).get? (dayKey call.started.date) = some snapshot := by
  have fresh : dayKey call.started.date ∉
      (expired (bucket.insert (dayKey call.started.date) snapshot) call.pruned).take deleteBatch := by
    intro listed
    have old := (List.mem_filter.mp (List.mem_of_mem_take listed)).2
    rw [not_isExpired_today through] at old
    cases old
  rw [backupStep_complete through, Dict.get?_filter, Dict.get?_insert_self]
  simp [fresh]

theorem filter_not_mem_take [BEq κ] [LawfulBEq κ] {items : List κ} (distinct : items.Nodup) (n : ℕ) :
    items.filter (fun k => !(items.take n).contains k) = items.drop n := by
  have apart : ∀ k ∈ items.drop n, k ∉ items.take n := by
    rw [← List.take_append_drop n items] at distinct
    exact fun k later first => (List.nodup_append.mp distinct).2.2 k first k later rfl
  calc items.filter (fun k => !(items.take n).contains k)
      = (items.take n ++ items.drop n).filter (fun k => !(items.take n).contains k) := by rw [List.take_append_drop]
    _ = [] ++ items.drop n := by
        rw [List.filter_append, List.filter_eq_nil_iff.mpr fun k first => by simpa using first,
          List.filter_eq_self.mpr fun k later => by simpa using apart k later]

/-- A call that goes through drops a thousand of the copies that have expired, or all of them. -/
theorem length_expired_complete (through : call.Complete snapshot) (bucket : Bucket β) :
    (expired (backupStep bucket call) call.pruned).length = (expired bucket call.pruned).length - deleteBatch := by
  rw [← (expired_insert_today through bucket snapshot).length_eq, backupStep_complete through]
  set stored := bucket.insert (dayKey call.started.date) snapshot
  set old := expired stored call.pruned with listed
  have distinct : old.Nodup := (perm_expired stored call.pruned).nodup_iff.mpr (stored.nodup.filter _)
  have left : (expired (stored.filter fun key _ => !(old.take deleteBatch).contains key) call.pruned).Perm
      (old.filter fun key => !(old.take deleteBatch).contains key) := by
    refine (perm_expired _ _).trans ?_
    have keys : (stored.filter fun key _ => !(old.take deleteBatch).contains key).keys =
        stored.keys.filter fun key => !(old.take deleteBatch).contains key := by
      rw [Dict.keys, Dict.keys, Dict.filter, List.filter_map]
      rfl
    rw [keys, List.filter_comm]
    exact ((perm_expired stored call.pruned).filter _).symm
  rw [left.length_eq, filter_not_mem_take distinct, List.length_drop]

/-! ### Runs -/

/-- Over any run of calls, whatever the store answers: a key that is not a dated copy is left alone; a copy goes only
once a call finds it past its retention; what stands under a key stood there before or was copied on that day; and a call
that goes through leaves its own copy and a thousand expired ones fewer. -/
theorem backups_retained (calls : List (BackupCall β)) (bucket : Bucket β) :
    (∀ key, keyDate key = none → (run backupStep bucket calls).get? key = bucket.get? key) ∧
    (∀ key, bucket.get? key ≠ none → (run backupStep bucket calls).get? key = none →
      ∃ d, keyDate key = some d ∧ ∃ call ∈ calls, d.timestamp < cutoff call.pruned) ∧
    (∀ key content, (run backupStep bucket calls).get? key = some content →
      bucket.get? key = some content ∨ ∃ call ∈ calls, key = dayKey call.started.date ∧ call.snapshot = some content) ∧
    ∀ last snapshot, last.Complete snapshot →
      (run backupStep bucket (calls ++ [last])).get? (dayKey last.started.date) = some snapshot ∧
      (expired (run backupStep bucket (calls ++ [last])) last.pruned).length =
        (expired (run backupStep bucket calls) last.pruned).length - deleteBatch := by
  refine ⟨fun key undated => ?_, fun key held absent => ?_, fun key content found => ?_, fun last snapshot through => ?_⟩
  · induction calls generalizing bucket with
    | nil => rfl
    | cons call rest ih => rw [run_cons, ih, backupStep_undated call bucket undated]
  · induction calls generalizing bucket with
    | nil => exact absurd absent held
    | cons call rest ih =>
      by_cases here : (backupStep bucket call).get? key = none
      · obtain ⟨d, dated, late⟩ := backupStep_gone call bucket held here
        exact ⟨d, dated, call, List.mem_cons_self, late⟩
      · obtain ⟨d, dated, other, listed, late⟩ := ih (backupStep bucket call) here absent
        exact ⟨d, dated, other, List.mem_cons_of_mem _ listed, late⟩
  · induction calls generalizing bucket with
    | nil => exact .inl found
    | cons call rest ih =>
      rcases ih (backupStep bucket call) found with here | ⟨other, listed, copied⟩
      · exact (backupStep_content call bucket here).imp_right fun copied => ⟨call, List.mem_cons_self, copied⟩
      · exact .inr ⟨other, List.mem_cons_of_mem _ listed, copied⟩
  · rw [run_append, run_cons, run_nil]
    exact ⟨get?_complete through _, length_expired_complete through _⟩

end Retina.Archive
