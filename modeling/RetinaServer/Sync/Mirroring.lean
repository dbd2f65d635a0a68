import RetinaServer.Sync.Push
import RetinaServer.Library.Runs

/-! One receiver and the sender that feeds it, over their runs: the registry
changes, pushes go out and land or fail on the way, the sender restarts, and the
receiver makes rows of its own. -/
namespace Retina.Sync
open OrderedDict

structure Mirror where
  registry : Registry
  target : Target := {}
  receiver : Receiver

inductive Event where
  | changed (registry : Registry)
  | pushed (now : ℚ) (outcomes : List Outcome)
  | restarted
  /-- The receiver inserts a row of its own. -/
  | created (row : RowId) (values : Values)
  /-- The receiver gives a node a row outside the mirrored tables. -/
  | referred (node : String)

section Step
variable (schema : Schema) (size : Row → Nat) (limit : Nat)

def Mirror.push (m : Mirror) (now : ℚ) (outcomes : List Outcome) : Pushed :=
  pushToTarget schema size limit m.target m.receiver m.registry now outcomes

def Receiver.writeOwn (receiver : Receiver) (tables : Tables) : Receiver :=
  (exec tables).elim receiver fun db => { receiver with db }

def step (m : Mirror) : Event → Mirror
  | .changed registry => { m with registry }
  | .pushed now outcomes =>
      let sent := m.push schema size limit now outcomes
      { m with target := sent.target, receiver := sent.receiver }
  | .restarted => { m with target := {} }
  | .created row values =>
      if m.receiver.db.get row = none then
        { m with receiver := m.receiver.writeOwn (m.receiver.db.tables.put row values) }
      else m
  | .referred node =>
      let tables := m.receiver.db.tables
      { m with receiver := m.receiver.writeOwn { tables with pinned := node :: tables.pinned } }

end Step

/-- A sender that has just started, and a receiver the mirror has not written to. -/
def start (registry : Registry) (db : Db) (held : TableName → List Key) : Mirror :=
  { registry, receiver := { db, held } }

/-- What the mirror wrote and did not remove is still here. -/
def Receiver.Present (receiver : Receiver) : Prop := ∀ row ∈ receiver.mirrored, (receiver.db.get row).isSome

variable {schema : Schema}

theorem present_committed (present : receiver.Present) (through : transact schema receiver chunk = some db) :
    (committed schema receiver chunk db).Present := by
  intro row member
  obtain ⟨stays, before⟩ := (mem_committed receiver chunk db row).mp member
  change (db.get row).isSome
  rw [get_transact through, stays, if_neg Bool.false_ne_true]
  rcases before with old | ⟨listed, kept⟩
  · cases incoming schema receiver.db chunk row with
    | none => exact present row old
    | some values => rfl
  · obtain ⟨sent, found⟩ := Option.isSome_iff_exists.mp listed
    rw [incoming_eq, if_neg kept, show chunk.upserts.get? row = some sent from found]
    rfl

theorem present_post (present : receiver.Present) (chunk : Chunk) (outcome : Outcome) :
    (post schema receiver chunk outcome).1.Present := by
  have taken {next : Receiver} (done : apply schema receiver chunk = some next) : next.Present := by
    obtain ⟨db, through, rfl⟩ := Option.map_eq_some_iff.mp done
    exact present_committed present through
  cases outcome with
  | landed =>
    cases done : apply schema receiver chunk with
    | none => simpa [post, done] using present
    | some next => simpa [post, done] using taken done
  | lost =>
    cases done : apply schema receiver chunk with
    | none => simpa [post, done] using present
    | some next => simpa [post, done] using taken done
  | refused => exact present
  | unheld =>
    cases through : transact schema receiver chunk with
    | none => simpa [post, through] using present
    | some db => simpa [post, through] using present_committed present through

theorem present_postAll (present : receiver.Present) (chunks : List Chunk) (outcomes : List Outcome) :
    (postAll schema receiver chunks outcomes).1.Present := by
  induction chunks generalizing receiver outcomes with
  | nil => exact present
  | cons chunk rest ih =>
    have first : (post schema receiver chunk (outcomes.headD .landed)).1.Present := present_post present chunk _
    simp only [postAll]
    split
    · exact ih first _
    · exact first

theorem present_writeOwn {receiver : Receiver} (present : receiver.Present) {tables : Tables}
    (kept : ∀ row, (receiver.db.get row).isSome → (tables.get row).isSome) : (receiver.writeOwn tables).Present := by
  rw [Receiver.writeOwn]
  cases done : exec tables with
  | none => exact present
  | some db =>
    intro row member
    change (db.tables.get row).isSome
    rw [tables_exec done]
    exact kept row (present row member)

theorem present_step {size : Row → Nat} {limit : Nat} (m : Mirror) (e : Event) (present : m.receiver.Present) :
    (step schema size limit m e).receiver.Present := by
  cases e with
  | changed registry => exact present
  | restarted => exact present
  | pushed now outcomes =>
    have sent : (postAll schema m.receiver (chunksOf size limit m.target m.registry now) outcomes).1.Present :=
      present_postAll present _ outcomes
    simp only [step, Mirror.push, pushToTarget]
    split
    · exact present
    · split <;> exact sent
  | created row values =>
    simp only [step]
    split
    · refine present_writeOwn present fun other there => ?_
      rw [Tables.get_put]
      split
      · rfl
      · exact there
    · exact present
  | referred node => exact present_writeOwn present fun row there => there

/-- A receiver of the same version as production. -/
def plainSchema : Schema where
  known := fun _ _ => true
  defaults := fun _ => Dict.empty
  owner := some
  unnamed := rfl

def publishes (ref : String) : Values := Dict.ofList [("node_ref", .text ref)]

end Retina.Sync
