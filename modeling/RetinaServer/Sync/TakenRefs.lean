import RetinaServer.Sync.Mirroring

/-! A node whose ref another node at the receiver has: what else of its chunk lands,
and whether the sender goes on thinking that it did. -/
namespace Retina.Sync
open OrderedDict

/-- Where a node's ref is taken, the rows of the other nodes are written. -/
def Contained (schema : Schema) (receiver : Receiver) (chunk : Chunk) : Prop :=
  skipped schema receiver.db chunk ≠ [] → ∃ receiver', apply schema receiver chunk = some receiver' ∧
    ∀ row values, chunk.upserts.get? row = some values →
      (∀ out ∈ skipped schema receiver.db chunk, out.1.2.node ≠ row.2.node) →
      gone (removals receiver chunk) row = false → Holds schema receiver'.db row values

/-- The receiver holds every row that its sender counts as accepted. -/
def AcceptedHeld (schema : Schema) (m : Mirror) : Prop :=
  ∀ row values, m.target.accepted.get row = some values → Holds schema m.receiver.db row values

section Statements
variable (schema : Schema) (size : Row → Nat) (limit : Nat)

/-- After a push that the sender counts as landed. -/
def LandedHeld (m : Mirror) : Event → Prop
  | .pushed now outcomes =>
      (m.push schema size limit now outcomes).ok = true →
        AcceptedHeld schema (step schema size limit m (.pushed now outcomes))
  | _ => True

/-- A push that leaves out no row it has to send, removes no node from under one,
and passes over no row that the receiver lacks. -/
def Offered (m : Mirror) (now : ℚ) : Prop :=
  let full := m.target.fullDue now
  ∀ row values, m.registry.get row = some values →
    gone ((planPush m.target m.registry full).removals m.receiver) row = false ∧
    if full = true ∨ m.target.accepted.get row ≠ some values then
      row ∉ skippedIn schema m.receiver (chunksOf size limit m.target m.registry now)
    else Holds schema m.receiver.db row values

def LandedOffered (m : Mirror) : Event → Prop
  | .pushed now outcomes => (m.push schema size limit now outcomes).ok = true → Offered schema size limit m now
  | _ => True

end Statements

variable {schema : Schema} {size : Row → Nat} {limit : Nat}

theorem contained_iff (receiver : Receiver) (chunk : Chunk) :
    Contained schema receiver chunk ↔ (skipped schema receiver.db chunk ≠ [] → Clean schema receiver chunk) := by
  refine imp_congr_right fun _ => ?_
  rw [← transact_isSome_iff]
  constructor
  · rintro ⟨receiver', done, -⟩
    obtain ⟨db, through, -⟩ := Option.map_eq_some_iff.mp done
    rw [through]
    rfl
  · intro through
    obtain ⟨db, through⟩ := Option.isSome_iff_exists.mp through
    refine ⟨_, Option.map_eq_some_iff.mpr ⟨db, through, rfl⟩, ?_⟩
    intro row values listed other stays
    have kept : row ∉ (skipped schema receiver.db chunk).map Prod.fst := by
      intro member
      obtain ⟨out, refused, same⟩ := List.mem_map.mp member
      exact other out refused (congrArg (fun row : RowId => row.2.node) same)
    refine holds_write (receiver.db.get row) ?_
    refine (get_transact through row).trans ?_
    rw [stays, if_neg Bool.false_ne_true, incoming_eq, if_neg kept, listed]
    rfl

/-- One row of a push that landed: the receiver holds it exactly when it was sent and
not left out, or passed over and held before, and its node stayed. -/
theorem holds_pushed_iff {m : Mirror} (ok : (m.push schema size limit now outcomes).ok = true)
    (present : m.registry.get row = some values) :
    Holds schema (m.push schema size limit now outcomes).receiver.db row values ↔
      gone ((planPush m.target m.registry (m.target.fullDue now)).removals m.receiver) row = false ∧
      if m.target.fullDue now = true ∨ m.target.accepted.get row ≠ some values then
        row ∉ skippedIn schema m.receiver (chunksOf size limit m.target m.registry now)
      else Holds schema m.receiver.db row values := by
  have after := get_pushToTarget ok row
  cases removed : gone ((planPush m.target m.registry (m.target.fullDue now)).removals m.receiver) row with
  | true =>
    rw [removed, if_pos rfl] at after
    refine ⟨?_, fun both => nomatch both.1⟩
    rintro ⟨held, there, -⟩
    exact nomatch after.symm.trans there
  | false =>
    rw [removed, if_neg Bool.false_ne_true] at after
    rw [and_iff_right rfl]
    split
    · rename_i due
      have found : lookup row (planPush m.target m.registry (m.target.fullDue now)).upserts = some values :=
        (lookup_eq_some_iff row values _ (nodup_upserts _ _ _)).mpr ((mem_upserts _ _ _ row values).mpr ⟨present, due⟩)
      rw [found, Option.elim_some] at after
      constructor
      · exact fun held out => not_holds_of_skipped ok present out held
      · intro kept
        rw [if_neg kept] at after
        exact holds_write _ after
    · rename_i passed
      have unsent : lookup row (planPush m.target m.registry (m.target.fullDue now)).upserts = none := by
        by_contra found
        obtain ⟨sent, found⟩ := Option.ne_none_iff_exists'.mp found
        obtain ⟨same, due⟩ := (mem_upserts _ _ _ row sent).mp
          ((lookup_eq_some_iff row sent _ (nodup_upserts _ _ _)).mp found)
        obtain rfl := Option.some.inj (same.symm.trans present)
        exact passed due
      rw [unsent, Option.elim_none] at after
      simp only [Holds, Mirror.push, after]

theorem landedHeld_iff (m : Mirror) (e : Event) :
    LandedHeld schema size limit m e ↔ LandedOffered schema size limit m e := by
  cases e with
  | pushed now outcomes =>
    refine imp_congr_right fun ok => ?_
    have accepted (row : RowId) :
        (m.push schema size limit now outcomes).target.accepted.get row = m.registry.get row :=
      accepted_pushToTarget ok row
    refine forall₂_congr fun row values => ?_
    change (m.push schema size limit now outcomes).target.accepted.get row = _ → _ ↔ _
    rw [accepted row]
    exact imp_congr_right fun present => holds_pushed_iff ok present
  | changed registry => exact Iff.rfl
  | restarted => exact Iff.rfl
  | created row values => exact Iff.rfl
  | referred node => exact Iff.rfl

/-- A taken ref keeps to its node exactly when no row of the chunk hangs on the row left
out, no two kept rows share a ref and no node it removes is referred to; and over any
run, what the sender counts as accepted is held exactly when no push that landed left
a row out, or passed over one the receiver lacked. -/
theorem taken_ref_contained_iff (schema : Schema) (size : Row → Nat) (limit : Nat) :
    (∀ receiver chunk, Contained schema receiver chunk ↔
      (skipped schema receiver.db chunk ≠ [] → Clean schema receiver chunk)) ∧
    ∀ m events, Runs.Along (step schema size limit) (LandedHeld schema size limit) m events ↔
      Runs.Along (step schema size limit) (LandedOffered schema size limit) m events :=
  ⟨contained_iff, fun _ events =>
    Runs.along_congr (I := fun _ => True) (fun _ _ _ => trivial) (fun m e _ => landedHeld_iff m e) trivial events⟩

def localTables : Tables where
  rows := fun
    | .nodes => Dict.ofList [(nodeKey "synth-LOCAL-0001", publishes "ndeaaaaaaaa0001")]
    | _ => Dict.empty

/-- A receiver with a node of its own. -/
def localDb : Db := ⟨localTables, by decide +kernel⟩

/-- Two nodes of production, the first under the ref of the receiver's own. -/
def twoNodes (configs : Dict Key Values) : Registry
  | .nodes => Dict.ofList
      [(nodeKey "ret1a2b3c4d", publishes "ndeaaaaaaaa0001"), (nodeKey "ret9f8e7d6c", publishes "ndecccccccc0003")]
  | .nodeConfigs => configs
  | _ => Dict.empty

def oneConfig : Dict Key Values :=
  Dict.ofList [({ node := "ret1a2b3c4d", rest := [.int 1] }, Dict.ofList [("fc_hz", .real 599000000)])]

/-- With its config in the chunk, the node left out takes the other node with it;
without, it is counted as accepted. -/
theorem taken_ref_fails_chunk :
    (∃ chunk ∈ chunksOf (fun _ => 1) 10 {} (twoNodes oneConfig) 0, ¬ Contained plainSchema { db := localDb } chunk) ∧
    ¬ LandedHeld plainSchema (fun _ => 1) 10 (start (twoNodes Dict.empty) localDb fun _ => []) (.pushed 0 []) := by
  constructor
  · have some_chunk : chunksOf (fun _ => 1) 10 {} (twoNodes oneConfig) 0 ≠ [] := by simp [chunksOf, chunkPush]
    have refused : ∀ chunk ∈ chunksOf (fun _ => 1) 10 {} (twoNodes oneConfig) 0,
        (apply plainSchema { db := localDb } chunk).isSome = false ∧
          (skipped plainSchema localDb chunk).isEmpty = false := by decide +kernel
    refine ⟨_, List.getLast_mem some_chunk, fun contained => ?_⟩
    obtain ⟨rolled_back, out⟩ := refused _ (List.getLast_mem some_chunk)
    obtain ⟨receiver', done, -⟩ := contained fun none_out => by
      rw [none_out] at out
      cases out
    rw [done] at rolled_back
    cases rolled_back
  · intro held
    have landed : ((start (twoNodes Dict.empty) localDb fun _ => []).push plainSchema (fun _ => 1) 10 0 []).ok = true := by
      decide +kernel
    have absent : (((start (twoNodes Dict.empty) localDb fun _ => []).push plainSchema (fun _ => 1) 10 0 []).receiver.db.get
        (.nodes, nodeKey "ret1a2b3c4d")).isSome = false := by decide +kernel
    obtain ⟨kept, there, -⟩ := held landed (.nodes, nodeKey "ret1a2b3c4d") (publishes "ndeaaaaaaaa0001")
      ((accepted_pushToTarget landed _).trans (by decide +kernel))
    change Db.get (Pushed.receiver _).db _ = _ at there
    rw [show _ = some kept from there] at absent
    cases absent

end Retina.Sync
