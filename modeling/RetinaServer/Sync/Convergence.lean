import RetinaServer.Sync.Mirroring

/-! What a full push that landed leaves of the rows the mirror wrote: production's own,
or rows that arrived after the receiver last wrote down production's keys. -/
namespace Retina.Sync
open OrderedDict

section Statements
variable (schema : Schema) (size : Row → Nat) (limit : Nat)

/-- After a full push that landed, a row of a listed table that the mirror wrote is
production's, with production's values. -/
def LandedConverged (m : Mirror) : Event → Prop
  | .pushed now outcomes =>
      let after := (step schema size limit m (.pushed now outcomes)).receiver
      m.target.fullDue now = true → (m.push schema size limit now outcomes).ok = true →
        ∀ row values, after.db.get row = some values → row ∈ after.mirrored → row.1.listed = true →
          ∃ sent, m.registry.get row = some sent ∧ Holds schema after.db row sent
  | _ => True

/-- A full push that leaves out no row the mirror wrote, at a receiver whose list has
every such row that production dropped, or the dropped node it hangs on. -/
def Reclaims (m : Mirror) (now : ℚ) : Prop :=
  (∀ row ∈ skippedIn schema m.receiver (chunksOf size limit m.target m.registry now), row ∉ m.receiver.mirrored) ∧
  ∀ row ∈ m.receiver.mirrored, row.1.listed = true → m.registry.get row = none →
    row.2 ∈ m.receiver.held row.1 ∨
      row.1 ≠ .nodes ∧ ∃ key ∈ m.receiver.held .nodes, m.registry.get (.nodes, key) = none ∧ key.node = row.2.node

def LandedReclaims (m : Mirror) : Event → Prop
  | .pushed now outcomes =>
      m.target.fullDue now = true → (m.push schema size limit now outcomes).ok = true →
        Reclaims schema size limit m now
  | _ => True

/-- A full push leaves a row alone where production neither has it nor listed it or its node. -/
def OwnLeftAlone (m : Mirror) : Event → Prop
  | .pushed now outcomes =>
      let after := (step schema size limit m (.pushed now outcomes)).receiver
      m.target.fullDue now = true → (m.push schema size limit now outcomes).ok = true →
        ∀ row, m.registry.get row = none → row.2 ∉ m.receiver.held row.1 →
          (∀ key ∈ m.receiver.held .nodes, key.node ≠ row.2.node) → after.db.get row = m.receiver.db.get row
  | _ => True

end Statements

variable {schema : Schema} {size : Row → Nat} {limit : Nat}

/-- What a full push removes: what was listed and is production's no longer, and the
rows of such a node. -/
theorem gone_full_iff (target : Target) (registry : Registry) (receiver : Receiver) (row : RowId) :
    gone ((planPush target registry true).removals receiver) row = true ↔
      (row.1.listed = true ∧ row.2 ∈ receiver.held row.1 ∧ registry.get row = none) ∨
      row.1 ≠ .nodes ∧ ∃ key ∈ receiver.held .nodes, registry.get (.nodes, key) = none ∧ key.node = row.2.node := by
  have listed (other : RowId) : other ∈ (planPush target registry true).removals receiver ↔
      other.1.listed = true ∧ other.2 ∈ receiver.held other.1 ∧ registry.get other = none := by
    rw [Push.removals, removals, List.mem_append, mem_deleted, mem_unlisted rfl]
    constructor
    · rintro (deleted | ⟨keys, listed, held, absent⟩)
      · cases deleted
      · by_cases kept : other.1.listed = true
        · rw [if_pos kept] at listed
          obtain rfl := Option.some.inj listed
          exact ⟨kept, held, ((registry other.1).get?_eq_none_iff other.2).mpr absent⟩
        · rw [if_neg kept] at listed
          cases listed
    · rintro ⟨kept, held, absent⟩
      exact .inr ⟨_, if_pos kept, held, ((registry other.1).get?_eq_none_iff other.2).mp absent⟩
  simp only [gone, List.any_eq_true, decide_eq_true_eq]
  constructor
  · rintro ⟨other, member, same | ⟨node, dependent, owner⟩⟩
    · exact .inl ((listed row).mp (same ▸ member))
    · obtain ⟨-, held, absent⟩ := (listed other).mp member
      obtain ⟨table, key⟩ := other
      obtain rfl := node
      exact .inr ⟨dependent, key, held, absent, owner⟩
  · rintro (own | ⟨dependent, key, held, absent, owner⟩)
    · exact ⟨row, (listed row).mpr own, .inl rfl⟩
    · exact ⟨(.nodes, key), (listed _).mpr ⟨rfl, held, absent⟩, .inr ⟨rfl, dependent, owner⟩⟩

/-- A full push sends all of the registry. -/
theorem lookup_upserts_full (target : Target) (registry : Registry) (row : RowId) :
    lookup row (planPush target registry true).upserts = registry.get row := by
  refine Option.ext fun values => ?_
  rw [lookup_eq_some_iff row values _ (nodup_upserts target registry true), mem_upserts]
  simp

theorem registry_of_skipped {m : Mirror} (out : row ∈ skippedIn schema m.receiver (chunksOf size limit m.target m.registry now)) :
    row.1 = .nodes ∧ ∃ sent, m.registry.get row = some sent := by
  obtain ⟨node, member⟩ := mem_skippedIn out
  rw [itemsOf_chunksOf] at member
  obtain ⟨⟨row, sent⟩, listed, rfl⟩ := List.mem_map.mp member
  exact ⟨node, sent, ((mem_upserts _ _ _ row sent).mp listed).1⟩

/-- Everything a full push that landed leaves of a row. -/
theorem get_full_push {m : Mirror} (full : m.target.fullDue now = true)
    (ok : (m.push schema size limit now outcomes).ok = true) (row : RowId) :
    (m.push schema size limit now outcomes).receiver.db.get row =
      if gone ((planPush m.target m.registry true).removals m.receiver) row then none
      else (m.registry.get row).elim (m.receiver.db.get row) fun values =>
        if row ∈ skippedIn schema m.receiver (chunksOf size limit m.target m.registry now) then m.receiver.db.get row
        else some (schema.write row (m.receiver.db.get row) (schema.decode row.1 values)) := by
  have after := get_pushToTarget ok row
  rwa [full, lookup_upserts_full] at after

theorem mirrored_full_push {m : Mirror} (full : m.target.fullDue now = true)
    (ok : (m.push schema size limit now outcomes).ok = true) (row : RowId) :
    row ∈ (m.push schema size limit now outcomes).receiver.mirrored ↔
      gone ((planPush m.target m.registry true).removals m.receiver) row = false ∧
        (row ∈ m.receiver.mirrored ∨ (m.registry.get row).isSome ∧
          row ∉ skippedIn schema m.receiver (chunksOf size limit m.target m.registry now)) := by
  have after := mirrored_pushToTarget ok row
  rwa [full, lookup_upserts_full] at after

/-- A row the mirror wrote that a full push neither removes nor overwrites stays, and stays the mirror's. -/
theorem mirrored_stays {m : Mirror} (full : m.target.fullDue now = true)
    (ok : (m.push schema size limit now outcomes).ok = true) (present : m.receiver.Present)
    (old : row ∈ m.receiver.mirrored)
    (stays : gone ((planPush m.target m.registry true).removals m.receiver) row = false)
    (unwritten : m.registry.get row = none ∨
      row ∈ skippedIn schema m.receiver (chunksOf size limit m.target m.registry now)) :
    ∃ kept, (m.push schema size limit now outcomes).receiver.db.get row = some kept ∧
      row ∈ (m.push schema size limit now outcomes).receiver.mirrored := by
  obtain ⟨kept, here⟩ := Option.isSome_iff_exists.mp (present row old)
  refine ⟨kept, ?_, (mirrored_full_push full ok row).mpr ⟨stays, .inl old⟩⟩
  rw [get_full_push full ok, stays, if_neg Bool.false_ne_true]
  cases listed : m.registry.get row with
  | none => exact here
  | some sent => rw [Option.elim_some, if_pos (unwritten.resolve_left (by simp [listed])), here]

theorem landedConverged_iff (m : Mirror) (e : Event) (present : m.receiver.Present) :
    LandedConverged schema size limit m e ↔ LandedReclaims schema size limit m e := by
  cases e with
  | changed registry => exact Iff.rfl
  | restarted => exact Iff.rfl
  | created row values => exact Iff.rfl
  | referred node => exact Iff.rfl
  | pushed now outcomes =>
    refine imp_congr_right fun full => imp_congr_right fun ok => ?_
    change (∀ row values, (m.push schema size limit now outcomes).receiver.db.get row = some values →
      row ∈ (m.push schema size limit now outcomes).receiver.mirrored → _ → ∃ sent, _ ∧
        Holds schema (m.push schema size limit now outcomes).receiver.db row sent) ↔ _
    constructor
    · intro converged
      constructor
      · intro row out old
        obtain ⟨node, sent, listed⟩ := registry_of_skipped out
        have stays : gone ((planPush m.target m.registry true).removals m.receiver) row = false := by
          rw [Bool.eq_false_iff, ne_eq, gone_full_iff]
          rintro (⟨-, -, absent⟩ | ⟨dependent, -⟩)
          · cases absent.symm.trans listed
          · exact dependent node
        obtain ⟨kept, still, written⟩ := mirrored_stays full ok present old stays (.inr out)
        obtain ⟨sent', listed', held⟩ := converged row kept still written (by rw [node]; rfl)
        exact not_holds_of_skipped ok listed' out held
      · intro row old table dropped
        by_contra unreached
        rw [not_or] at unreached
        have stays : gone ((planPush m.target m.registry true).removals m.receiver) row = false := by
          rw [Bool.eq_false_iff, ne_eq, gone_full_iff]
          rintro (⟨-, held, -⟩ | hangs)
          · exact unreached.1 held
          · exact unreached.2 hangs
        obtain ⟨kept, still, written⟩ := mirrored_stays full ok present old stays (.inl dropped)
        obtain ⟨sent, listed, -⟩ := converged row kept still written table
        cases dropped.symm.trans listed
    · rintro ⟨unskipped, reached⟩ row values there written table
      obtain ⟨stays, before⟩ := (mirrored_full_push full ok row).mp written
      cases listed : m.registry.get row with
      | none =>
        rw [listed] at before
        have old : row ∈ m.receiver.mirrored := before.resolve_right (by simp)
        have removed : gone ((planPush m.target m.registry true).removals m.receiver) row = true :=
          (gone_full_iff _ _ _ row).mpr ((reached row old table listed).imp (fun held => ⟨table, held, listed⟩) id)
        cases stays.symm.trans removed
      | some sent =>
        have kept : row ∉ skippedIn schema m.receiver (chunksOf size limit m.target m.registry now) := fun out =>
          unskipped row out (before.resolve_right fun sent => sent.2 out)
        refine ⟨sent, rfl, holds_write (m.receiver.db.get row) ?_⟩
        rw [get_full_push full ok, stays, if_neg Bool.false_ne_true, listed, Option.elim_some, if_neg kept]

theorem ownLeftAlone (m : Mirror) (e : Event) : OwnLeftAlone schema size limit m e := by
  cases e with
  | changed registry => trivial
  | restarted => trivial
  | created row values => trivial
  | referred node => trivial
  | pushed now outcomes =>
    intro full ok row absent unlisted apart
    have stays : gone ((planPush m.target m.registry true).removals m.receiver) row = false := by
      rw [Bool.eq_false_iff, ne_eq, gone_full_iff]
      rintro (⟨-, held, -⟩ | ⟨-, key, held, -, owner⟩)
      · exact unlisted held
      · exact apart key held owner
    change (m.push schema size limit now outcomes).receiver.db.get row = _
    rw [get_full_push full ok row, stays, if_neg Bool.false_ne_true, absent, Option.elim_none]

/-- Over every run: the rows the mirror wrote are production's after each full push that
lands exactly when each such push leaves out none of them and finds in the receiver's
list those that production dropped; and the receiver's own rows are left alone. -/
theorem converges_iff (schema : Schema) (size : Row → Nat) (limit : Nat) (registry : Registry) (db : Db)
    (held : TableName → List Key) (events : List Event) :
    (Runs.Along (step schema size limit) (LandedConverged schema size limit) (start registry db held) events ↔
      Runs.Along (step schema size limit) (LandedReclaims schema size limit) (start registry db held) events) ∧
    Runs.Along (step schema size limit) (OwnLeftAlone schema size limit) (start registry db held) events := by
  refine ⟨Runs.along_congr (I := fun m : Mirror => m.receiver.Present) (fun m e => present_step m e)
    landedConverged_iff (by simp [start, Receiver.Present]) events, ?_⟩
  exact Runs.along_of_always (I := fun _ => True) (fun _ _ _ => trivial) (fun m e _ => ownLeftAlone m e) trivial events

def nodesOnly (nodes : Dict Key Values) : Registry
  | .nodes => nodes
  | _ => Dict.empty

def emptyDb : Db := ⟨{ rows := fun _ => Dict.empty }, by decide⟩

def firstNode : Registry := nodesOnly (Dict.ofList [(nodeKey "ret1a2b3c4d", publishes "ndeaaaaaaaa0001")])

def bothNodes : Registry := nodesOnly
  (Dict.ofList [(nodeKey "ret1a2b3c4d", publishes "ndeaaaaaaaa0001"), (nodeKey "retdeadbeef", publishes "ndebbbbbbbb0002")])

/-- The second node comes by a diff and goes, and the sender restarts before it says so. -/
def passingNode : List Event := [.pushed 0 [], .changed bothNodes, .pushed 60 [], .changed firstNode, .restarted]

def afterPassing : Mirror := Runs.run (step plainSchema (fun _ => 1) 10) (start firstNode emptyDb fun _ => []) passingNode

/-- The restarted sender's full push removes what was listed, and the node never was. -/
theorem passing_node_stays : ¬ Runs.Along (step plainSchema (fun _ => 1) 10) (LandedConverged plainSchema (fun _ => 1) 10)
    (start firstNode emptyDb fun _ => []) (passingNode ++ [.pushed 120 []]) := by
  rw [Runs.along_append]
  rintro ⟨-, last, -⟩
  have full : afterPassing.target.fullDue 120 = true := by decide +kernel
  have ok : (afterPassing.push plainSchema (fun _ => 1) 10 120 []).ok = true := by decide +kernel
  have kept : (afterPassing.push plainSchema (fun _ => 1) 10 120 []).receiver.db.get (.nodes, nodeKey "retdeadbeef") =
      some (publishes "ndebbbbbbbb0002") := by decide +kernel
  have written : (.nodes, nodeKey "retdeadbeef") ∈
      (afterPassing.push plainSchema (fun _ => 1) 10 120 []).receiver.mirrored := by decide +kernel
  have dropped : afterPassing.registry.get (.nodes, nodeKey "retdeadbeef") = none := by decide +kernel
  obtain ⟨sent, listed, -⟩ := last full ok (.nodes, nodeKey "retdeadbeef") (publishes "ndebbbbbbbb0002") kept written rfl
  exact nomatch dropped.symm.trans listed

end Retina.Sync
