import RetinaServer.Sync.Sender
import RetinaServer.Library.Grouping
import Mathlib.Data.List.Sort

/-! The receiver: one chunk in one transaction. Nodes whose ref another node here
has are left out, the rest of its rows are upserted table by table, and what it
deletes or no longer lists is removed, a node with its dependents. -/
namespace Retina.Sync
open OrderedDict

/-- What the receiver brings of its own: the columns it has, the values an insert
leaves to it, and its account at an address, if that may be bound. -/
structure Schema where
  known : TableName → String → Bool
  defaults : TableName → Values
  owner : String → Option String
  unnamed : refOf (defaults .nodes) = none

variable (schema : Schema)

def Schema.ownerOf (row : Values) : Value :=
  match row.get? "owner_email" with
  | some (.text email) => if email = "" then .null else (schema.owner email).elim .null .text
  | _ => .null

/-- A row as the receiver stores it. A claim's owner comes as an address. -/
def Schema.decode (table : TableName) (row : Values) : Values :=
  let row := if table = .nodeClaims then (row.erase "owner_email").insert "user_id" (schema.ownerOf row) else row
  row.filter fun column _ => schema.known table column

def Schema.write (row : RowId) (old : Option Values) (new : Values) : Values :=
  overlay (old.getD (schema.defaults row.1)) new

def names (row : Row) : List String := row.2.keys.insertionSort (· ≤ ·)

def rowsOf (chunk : Chunk) (table : TableName) : List Row :=
  (chunk.upserts.items.filter fun row => decide (row.1.1 = table)).map fun row => (row.1, schema.decode table row.2)

/-- Grouped by the columns each row carries. -/
def groups (chunk : Chunk) (table : TableName) : List (List Row) :=
  (Grouping.group ((rowsOf schema chunk table).map fun row => (names row, row))).values

/-- A different node here already publishes under the row's ref. -/
def taken (db : Db) (row : Row) : Bool :=
  (refOf row.2).isSome &&
    (db.tables.rows .nodes).items.any fun item => decide (refOf item.2 = refOf row.2 ∧ item.1 ≠ row.1.2)

/-- The rows a chunk leaves out for their refs. -/
def skipped (db : Db) (chunk : Chunk) : List Row := (rowsOf schema chunk .nodes).filter (taken db)

def withoutTakenRefs (db : Db) (groups : List (List Row)) : List (List Row) :=
  groups.map fun rows => rows.filter fun row => !taken db row

/-- The batches that a table's turn writes. -/
def batches (db : Db) (chunk : Chunk) (table : TableName) : List (List Row) :=
  if table = .nodes then withoutTakenRefs db (groups schema chunk table) else groups schema chunk table

def writeTable (chunk : Chunk) (db : Db) (table : TableName) : Option Db :=
  Upsert.upsertAll store schema.write db (batches schema db chunk table)

def writeRows (chunk : Chunk) (db : Db) : Option Db := TABLES.foldlM (writeTable schema chunk) db

/-- A node's dependent rows go before it. Nothing refers to them. -/
def Db.dropDependents (db : Db) (node : String) : Db where
  tables := db.tables.remove fun table key => decide (table ≠ .nodes ∧ key.node = node)
  valid := by
    obtain ⟨owned, pinned, unique⟩ := (valid_iff db.tables).mp db.valid
    have kept (key : Key) : (db.tables.remove fun table key => decide (table ≠ .nodes ∧ key.node = node)).get
        (.nodes, key) = db.tables.get (.nodes, key) := by
      rw [Tables.get_remove, if_neg (by simp)]
    refine (valid_iff _).mpr ⟨?_, ?_, ?_⟩
    · intro row dependent present
      rw [kept]
      rw [Tables.get_remove] at present
      split at present
      · exact nomatch present
      · exact owned row dependent present
    · intro node listed
      rw [kept]
      exact pinned node listed
    · intro key key' values values' r here there
      rw [kept] at here there
      exact unique key key' values values' r here there

def delete (db : Db) (row : RowId) : Option Db :=
  let db := if row.1 = .nodes then db.dropDependents row.2.node else db
  exec (db.tables.remove fun table key => decide ((table, key) = row))

/-- What a list of deletions takes with it. -/
def gone (removed : List RowId) (row : RowId) : Bool :=
  removed.any fun target => decide (target = row ∨ target.1 = .nodes ∧ row.1 ≠ .nodes ∧ target.2.node = row.2.node)

structure Receiver where
  db : Db
  /-- The keys production last listed, per table: the rows a full push may remove. -/
  held : TableName → List Key := fun _ => []
  /-- Nothing reads it: the rows that the mirror wrote and that were not removed since. -/
  mirrored : List RowId := []

def deleted (chunk : Chunk) : List RowId :=
  TABLES.reverse.flatMap fun table => (chunk.deletes table).map fun key => (table, key)

def unlisted (held : TableName → List Key) (chunk : Chunk) : List RowId :=
  chunk.fullKeys.elim [] fun fullKeys => TABLES.reverse.flatMap fun table =>
    (fullKeys table).elim [] fun listed =>
      ((held table).filter fun key => decide (key ∉ listed)).map fun key => (table, key)

def removals (receiver : Receiver) (chunk : Chunk) : List RowId := deleted chunk ++ unlisted receiver.held chunk

/-- The transaction. A statement that is refused rolls all of it back. -/
def transact (receiver : Receiver) (chunk : Chunk) : Option Db :=
  (writeRows schema chunk receiver.db).bind fun db => (removals receiver chunk).foldlM delete db

def committed (receiver : Receiver) (chunk : Chunk) (db : Db) : Receiver :=
  let kept := chunk.upserts.keys.filter fun row => decide (row ∉ (skipped schema receiver.db chunk).map Prod.fst)
  { receiver with
    db
    mirrored := (receiver.mirrored ++ kept).filter fun row => !gone (removals receiver chunk) row }

/-- `_apply`: the transaction, then the keys listed are written down. -/
def apply (receiver : Receiver) (chunk : Chunk) : Option Receiver :=
  (transact schema receiver chunk).map fun db =>
    { committed schema receiver chunk db with
      held := chunk.fullKeys.elim receiver.held fun fullKeys table => (fullKeys table).getD [] }

/-- The row a chunk writes under a key. -/
def incoming (db : Db) (chunk : Chunk) (row : RowId) : Option Values :=
  ((chunk.upserts.get? row).map (schema.decode row.1)).filter fun values =>
    !(decide (row.1 = .nodes) && taken db (row, values))

variable {schema}

theorem nodup_rowsOf (chunk : Chunk) (table : TableName) : ((rowsOf schema chunk table).map Prod.fst).Nodup := by
  rw [rowsOf, List.map_map]
  exact chunk.upserts.nodup.sublist (List.filter_sublist.map Prod.fst)

theorem lookup_rowsOf (chunk : Chunk) (table : TableName) (row : RowId) :
    lookup row (rowsOf schema chunk table) =
      if row.1 = table then (chunk.upserts.get? row).map (schema.decode table) else none := by
  rw [rowsOf, lookup_map, lookup_filter (fun row : Row => decide (row.1.1 = table)) row _ chunk.upserts.nodup, Dict.get?]
  by_cases here : row.1 = table
  · cases lookup row chunk.upserts.items <;> simp [here]
  · cases lookup row chunk.upserts.items <;> simp [here]

theorem nodup_groups (chunk : Chunk) (table : TableName) :
    ((groups schema chunk table).flatten.map Prod.fst).Nodup :=
  Grouping.nodup_group names (nodup_rowsOf chunk table)

theorem lookup_groups (chunk : Chunk) (table : TableName) (row : RowId) :
    lookup row (groups schema chunk table).flatten = lookup row (rowsOf schema chunk table) :=
  Grouping.lookup_group names (nodup_rowsOf chunk table) row

theorem flatten_withoutTakenRefs (db : Db) (groups : List (List Row)) :
    (withoutTakenRefs db groups).flatten = groups.flatten.filter fun row => !taken db row :=
  List.filter_flatten.symm

theorem nodup_batches (db : Db) (chunk : Chunk) (table : TableName) :
    ((batches schema db chunk table).flatten.map Prod.fst).Nodup := by
  rw [batches]
  split
  · rw [flatten_withoutTakenRefs]
    exact (nodup_groups chunk table).sublist (List.filter_sublist.map Prod.fst)
  · exact nodup_groups chunk table

theorem lookup_batches (db : Db) (chunk : Chunk) (table : TableName) (row : RowId) :
    lookup row (batches schema db chunk table).flatten = if row.1 = table then incoming schema db chunk row else none := by
  rw [batches]
  split
  · rename_i nodes
    subst nodes
    rw [flatten_withoutTakenRefs, lookup_filter (fun row => !taken db row) row _ (nodup_groups chunk _), lookup_groups,
      lookup_rowsOf, incoming]
    by_cases here : row.1 = .nodes
    · simp [here]
    · simp [here]
  · rename_i dependent
    rw [lookup_groups, lookup_rowsOf, incoming]
    by_cases here : row.1 = table
    · subst here
      cases chunk.upserts.get? row <;> simp [dependent, Option.filter]
    · simp [here]

theorem incoming_dependent {row : RowId} (dependent : row.1 ≠ .nodes) (db db' : Db) (chunk : Chunk) :
    incoming schema db chunk row = incoming schema db' chunk row := by
  simp [incoming, dependent]

theorem get_writeTable (done : writeTable schema chunk db table = some db') (row : RowId) :
    db'.get row = (if row.1 = table then incoming schema db chunk row else none).elim (db.get row) fun values =>
      some (schema.write row (db.get row) values) := by
  have written := Upsert.get_upsertAll (nodup_batches db chunk table) done row
  rwa [lookup_batches] at written

theorem get_writeTables {tables : List TableName} (dependents : ∀ table ∈ tables, table ≠ .nodes)
    (distinct : tables.Nodup) (done : tables.foldlM (writeTable schema chunk) db = some db') (row : RowId) :
    db'.get row = (if row.1 ∈ tables then incoming schema db chunk row else none).elim (db.get row) fun values =>
      some (schema.write row (db.get row) values) := by
  induction tables generalizing db with
  | nil =>
    obtain rfl := Option.some.inj done
    rfl
  | cons table rest ih =>
    obtain ⟨unlisted, distinct⟩ := List.nodup_cons.mp distinct
    obtain ⟨middle, first, later⟩ := Option.bind_eq_some_iff.mp done
    rw [ih (fun table listed => dependents table (List.mem_cons_of_mem _ listed)) distinct later, get_writeTable first]
    by_cases here : row.1 = table
    · have once : row.1 ∉ rest := here ▸ unlisted
      simp [here, here ▸ once]
    · by_cases listed : row.1 ∈ rest
      · have dependent := dependents row.1 (List.mem_cons_of_mem table listed)
        simp [here, listed, incoming_dependent dependent middle db]
      · simp [here, listed]

theorem TABLES_eq : TABLES = .nodes :: TABLES.tail := rfl

theorem dependent_of_mem_tail : ∀ table ∈ TABLES.tail, table ≠ .nodes := by decide

/-- A chunk's rows land over what was there, each once; the rest is untouched. -/
theorem get_writeRows (done : writeRows schema chunk db = some db') (row : RowId) :
    db'.get row = (incoming schema db chunk row).elim (db.get row) fun values =>
      some (schema.write row (db.get row) values) := by
  rw [writeRows, TABLES_eq, List.foldlM_cons] at done
  obtain ⟨middle, first, later⟩ := Option.bind_eq_some_iff.mp done
  rw [get_writeTables dependent_of_mem_tail (by decide) later, get_writeTable first]
  by_cases here : row.1 = .nodes
  · simp [here, TABLES]
  · have listed : row.1 ∈ TABLES.tail := (List.mem_cons.mp (mem_TABLES row.1)).resolve_left here
    simp [here, listed, incoming_dependent here middle db]

theorem get_delete (done : delete db target = some db') (row : RowId) :
    db'.get row = if gone [target] row then none else db.get row := by
  have tables := tables_exec done
  rw [Db.get, tables, Tables.get_remove]
  by_cases same : row = target
  · subst same
    simp [gone]
  · simp only [same, decide_false, Bool.false_eq_true, if_false]
    by_cases node : target.1 = .nodes
    · rw [if_pos node, Db.dropDependents, Tables.get_remove]
      simp [gone, Ne.symm same, node, eq_comm (a := row.2.node), Db.get]
    · rw [if_neg node]
      simp [gone, Ne.symm same, node, Db.get]

theorem gone_cons (target : RowId) (rest : List RowId) (row : RowId) :
    gone (target :: rest) row = (gone [target] row || gone rest row) := by
  simp [gone]

theorem get_deletes {removed : List RowId} (done : removed.foldlM delete db = some db') (row : RowId) :
    db'.get row = if gone removed row then none else db.get row := by
  induction removed generalizing db with
  | nil =>
    obtain rfl := Option.some.inj done
    rfl
  | cons target rest ih =>
    obtain ⟨middle, first, later⟩ := Option.bind_eq_some_iff.mp done
    rw [ih later, get_delete first, gone_cons target rest]
    cases gone rest row <;> simp

theorem mem_deleted (chunk : Chunk) (row : RowId) : row ∈ deleted chunk ↔ row.2 ∈ chunk.deletes row.1 := by
  obtain ⟨table, key⟩ := row
  simp only [deleted, List.mem_flatMap, List.mem_reverse, List.mem_map]
  constructor
  · rintro ⟨_, -, _, member, same⟩
    obtain ⟨rfl, rfl⟩ := Prod.mk.injEq .. ▸ same
    exact member
  · exact fun member => ⟨table, mem_TABLES table, key, member, rfl⟩

theorem mem_unlisted {chunk : Chunk} (full : chunk.fullKeys = some fullKeys) (held : TableName → List Key)
    (row : RowId) : row ∈ unlisted held chunk ↔
      ∃ listed, fullKeys row.1 = some listed ∧ row.2 ∈ held row.1 ∧ row.2 ∉ listed := by
  obtain ⟨table, key⟩ := row
  simp only [unlisted, full, Option.elim_some, List.mem_flatMap, List.mem_reverse]
  constructor
  · rintro ⟨table', -, member⟩
    cases keys : fullKeys table' with
    | none =>
      rw [keys] at member
      exact nomatch member
    | some listed =>
      rw [keys] at member
      obtain ⟨_, chosen, same⟩ := List.mem_map.mp member
      obtain ⟨rfl, rfl⟩ := Prod.mk.injEq .. ▸ same
      exact ⟨listed, keys, (List.mem_filter.mp chosen).1, of_decide_eq_true (List.mem_filter.mp chosen).2⟩
  · rintro ⟨listed, keys, member, absent⟩
    refine ⟨table, mem_TABLES table, ?_⟩
    rw [keys]
    exact List.mem_map.mpr ⟨key, List.mem_filter.mpr ⟨member, decide_eq_true absent⟩, rfl⟩

/-- What a chunk that goes through leaves of every row. -/
theorem get_transact (done : transact schema receiver chunk = some db') (row : RowId) :
    db'.get row = if gone (removals receiver chunk) row then none
      else (incoming schema receiver.db chunk row).elim (receiver.db.get row) fun values =>
        some (schema.write row (receiver.db.get row) values) := by
  obtain ⟨written, first, second⟩ := Option.bind_eq_some_iff.mp done
  rw [get_deletes second, get_writeRows first]

end Retina.Sync
