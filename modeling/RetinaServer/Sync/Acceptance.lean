import RetinaServer.Sync.Receiver

/-! When a chunk goes through: each dependent row finds its node, no two of the
node rows it keeps share a ref, and no node it removes is still referred to. -/
namespace Retina.Sync
open OrderedDict

variable {schema : Schema}

def Clean (schema : Schema) (receiver : Receiver) (chunk : Chunk) : Prop :=
  (∀ row values, chunk.upserts.get? row = some values → row.1 ≠ .nodes →
    (receiver.db.get (.nodes, nodeKey row.2.node)).isSome ∨
      (incoming schema receiver.db chunk (.nodes, nodeKey row.2.node)).isSome) ∧
  (∀ key key' values values' r, incoming schema receiver.db chunk (.nodes, key) = some values →
    incoming schema receiver.db chunk (.nodes, key') = some values' →
    refOf values = some r → refOf values' = some r → key = key') ∧
  ∀ node ∈ receiver.db.tables.pinned, (.nodes, nodeKey node) ∉ removals receiver chunk

theorem taken_iff (db : Db) (row : Row) : taken db row = true ↔
    ∃ key values r, db.get (.nodes, key) = some values ∧ refOf values = some r ∧ refOf row.2 = some r ∧ key ≠ row.1.2 := by
  simp only [taken, Bool.and_eq_true, List.any_eq_true, decide_eq_true_eq, Option.isSome_iff_exists]
  constructor
  · rintro ⟨⟨r, named⟩, item, member, same, other⟩
    exact ⟨item.1, item.2, r, ((db.tables.rows .nodes).get?_eq_some_iff item.1 item.2).mpr member, same.trans named, named, other⟩
  · rintro ⟨key, values, r, held, ref, named, other⟩
    exact ⟨⟨r, named⟩, (key, values), ((db.tables.rows .nodes).get?_eq_some_iff key values).mp held,
      ref.trans named.symm, other⟩

theorem incoming_eq_some_iff (db : Db) (chunk : Chunk) (row : RowId) (values : Values) :
    incoming schema db chunk row = some values ↔
      (∃ sent, chunk.upserts.get? row = some sent ∧ schema.decode row.1 sent = values) ∧
        (row.1 = .nodes → taken db (row, values) = false) := by
  rw [incoming, Option.filter_eq_some_iff, Option.map_eq_some_iff]
  by_cases node : row.1 = .nodes <;> simp [node]

/-- A kept row's ref is nobody else's. -/
theorem kept_ref_free {db : Db} (kept : incoming schema db chunk (.nodes, key) = some values)
    (named : refOf values = some r) (held : db.get (.nodes, key') = some other) (ref : refOf other = some r) :
    key' = key := by
  by_contra apart
  have free := ((incoming_eq_some_iff db chunk (.nodes, key) values).mp kept).2 rfl
  rw [(taken_iff db _).mpr ⟨key', other, r, held, ref, named, apart⟩] at free
  exact nomatch free

theorem refOf_write {old : Option Values} (named : refOf (schema.write (.nodes, key) old new) = some r) :
    refOf new = some r ∨ ∃ held, old = some held ∧ refOf held = some r := by
  rcases refOf_overlay_or (old.getD (schema.defaults .nodes)) new with same | same
  · exact .inl (same ▸ named)
  · refine .inr ?_
    have before : refOf (old.getD (schema.defaults .nodes)) = some r := same ▸ named
    cases old with
    | none => exact nomatch schema.unnamed.symm.trans before
    | some held => exact ⟨held, rfl, before⟩

/-- Of two kept rows, and of a kept row and one that is here, no two names meet. -/
theorem refs_apart {db : Db} (unshared : ∀ key key' values values' r, incoming schema db chunk (.nodes, key) = some values →
      incoming schema db chunk (.nodes, key') = some values' → refOf values = some r → refOf values' = some r → key = key')
    (kept : incoming schema db chunk (.nodes, key) = some values)
    (named : refOf (schema.write (.nodes, key) (db.get (.nodes, key)) values) = some r)
    (there : (∃ other, db.get (.nodes, key') = some other ∧ refOf other = some r) ∨
      ∃ values', incoming schema db chunk (.nodes, key') = some values' ∧ refOf values' = some r) : key' = key := by
  rcases refOf_write named with own | ⟨held, present, ref⟩
  · rcases there with ⟨other, present, ref⟩ | ⟨values', kept', own'⟩
    · exact kept_ref_free kept own present ref
    · exact (unshared key key' values values' r kept kept' own own').symm
  · rcases there with ⟨other, present', ref'⟩ | ⟨values', kept', own'⟩
    · exact db.unique present' present ref' ref
    · exact (kept_ref_free kept' own' present ref).symm

theorem mem_batches {db : Db} {row : Row} (member : row ∈ (batches schema db chunk table).flatten) :
    row.1.1 = table ∧ incoming schema db chunk row.1 = some row.2 := by
  have found := (lookup_eq_some_iff row.1 row.2 _ (nodup_batches db chunk table)).mpr member
  rw [lookup_batches] at found
  split at found
  · rename_i here
    exact ⟨here, found⟩
  · exact nomatch found

theorem writeTable_nodes_isSome (db : Db) (unshared : ∀ key key' values values' r,
    incoming schema db chunk (.nodes, key) = some values → incoming schema db chunk (.nodes, key') = some values' →
    refOf values = some r → refOf values' = some r → key = key') : (writeTable schema chunk db .nodes).isSome := by
  refine Upsert.upsertAll_isSome (nodup_batches db chunk .nodes) ?_
  rintro partway so_far ⟨⟨table, key⟩, values⟩ member -
  obtain ⟨rfl, kept⟩ := mem_batches member
  refine set_node_isSome partway key ?_
  intro key' values' r present named ref
  rcases so_far (.nodes, key') with same | ⟨values₁, member', written⟩
  · exact refs_apart unshared kept named (.inl ⟨values', same.symm.trans present, ref⟩)
  · obtain ⟨-, kept'⟩ := mem_batches member'
    obtain rfl := Option.some.inj (written.symm.trans present)
    rcases refOf_write ref with own | ⟨held, here, before⟩
    · exact refs_apart unshared kept named (.inr ⟨values₁, kept', own⟩)
    · exact refs_apart unshared kept named (.inl ⟨held, here, before⟩)

theorem isSome_writeTable (done : writeTable schema chunk db table = some db') {row : RowId}
    (present : (db.get row).isSome) : (db'.get row).isSome := by
  rw [get_writeTable done]
  cases (if row.1 = table then incoming schema db chunk row else none) with
  | none => exact present
  | some values => rfl

theorem writeTables_isSome {tables : List TableName} (dependents : ∀ table ∈ tables, table ≠ .nodes) (db : Db)
    (owned : ∀ row values, chunk.upserts.get? row = some values → row.1 ≠ .nodes →
      (db.get (.nodes, nodeKey row.2.node)).isSome) :
    (tables.foldlM (writeTable schema chunk) db).isSome := by
  induction tables generalizing db with
  | nil => rfl
  | cons table rest ih =>
    have first : (writeTable schema chunk db table).isSome := by
      refine Upsert.upsertAll_isSome (nodup_batches db chunk table) ?_
      intro partway so_far row member _
      obtain ⟨rfl, arrives⟩ := mem_batches member
      obtain ⟨⟨sent, listed, -⟩, -⟩ := (incoming_eq_some_iff db chunk row.1 row.2).mp arrives
      have dependent := dependents row.1.1 List.mem_cons_self
      have present := owned row.1 sent listed dependent
      refine set_dependent_isSome partway dependent ?_ _
      rcases so_far (.nodes, nodeKey row.1.2.node) with same | ⟨_, -, written⟩
      · exact (congrArg Option.isSome same).trans present
      · exact congrArg Option.isSome written
    obtain ⟨next, done⟩ := Option.isSome_iff_exists.mp first
    rw [List.foldlM_cons, done]
    exact ih (fun table listed => dependents table (List.mem_cons_of_mem _ listed)) next
      fun row values listed dependent => isSome_writeTable done (owned row values listed dependent)

theorem writeRows_isSome_iff (db : Db) (chunk : Chunk) : (writeRows schema chunk db).isSome ↔
    (∀ row values, chunk.upserts.get? row = some values → row.1 ≠ .nodes →
      (db.get (.nodes, nodeKey row.2.node)).isSome ∨ (incoming schema db chunk (.nodes, nodeKey row.2.node)).isSome) ∧
    ∀ key key' values values' r, incoming schema db chunk (.nodes, key) = some values →
      incoming schema db chunk (.nodes, key') = some values' → refOf values = some r → refOf values' = some r →
      key = key' := by
  constructor
  · intro through
    obtain ⟨written, done⟩ := Option.isSome_iff_exists.mp through
    have after := get_writeRows done
    constructor
    · intro row values listed dependent
      have arrives : incoming schema db chunk row = some (schema.decode row.1 values) :=
        (incoming_eq_some_iff db chunk row _).mpr ⟨⟨values, listed, rfl⟩, fun node => absurd node dependent⟩
      have present := written.owned dependent (by rw [after row, arrives]; rfl)
      rw [after] at present
      cases found : incoming schema db chunk (.nodes, nodeKey row.2.node) with
      | none =>
        rw [found] at present
        exact .inl present
      | some node => exact .inr rfl
    · intro key key' values values' r kept kept' named named'
      have here := after (.nodes, key)
      have there := after (.nodes, key')
      rw [kept] at here
      rw [kept'] at there
      exact written.unique here there (refOf_overlay named) (refOf_overlay named')
  · rintro ⟨owned, unshared⟩
    obtain ⟨middle, first⟩ := Option.isSome_iff_exists.mp (writeTable_nodes_isSome db unshared)
    rw [writeRows, TABLES_eq, List.foldlM_cons, first]
    refine writeTables_isSome dependent_of_mem_tail middle fun row values listed dependent => ?_
    rcases owned row values listed dependent with present | kept
    · exact isSome_writeTable first present
    · obtain ⟨values', arrives⟩ := Option.isSome_iff_exists.mp kept
      rw [get_writeTable first, if_pos rfl, arrives]
      rfl

theorem dropDependents_get_node (db : Db) (node : String) (key : Key) :
    (db.dropDependents node).get (.nodes, key) = db.get (.nodes, key) := by
  rw [Db.get, Db.dropDependents, Tables.get_remove, if_neg (by simp)]
  rfl

theorem dropDependents_get (db : Db) {row : RowId} (dependent : row.1 ≠ .nodes) :
    (db.dropDependents row.2.node).get row = none := by
  rw [Db.get, Db.dropDependents, Tables.get_remove, if_pos (by simp [dependent])]

/-- A row may go unless it is a node that something outside the mirror refers to. -/
theorem delete_isSome_iff (db : Db) (target : RowId) :
    (delete db target).isSome ↔ ∀ node ∈ db.tables.pinned, (.nodes, nodeKey node) ≠ target := by
  obtain ⟨cleared, equal⟩ : ∃ cleared, cleared = if target.1 = .nodes then db.dropDependents target.2.node else db :=
    ⟨_, rfl⟩
  have nodes (key : Key) : cleared.get (.nodes, key) = db.get (.nodes, key) := by
    rw [equal]
    split
    · exact dropDependents_get_node db target.2.node key
    · rfl
  have pinned : cleared.tables.pinned = db.tables.pinned := by
    rw [equal]
    split <;> rfl
  have after (row : RowId) : (cleared.tables.remove fun table key => decide ((table, key) = target)).get row =
      if row = target then none else cleared.get row := by
    rw [Tables.get_remove]
    simp [Db.get]
  rw [delete, ← equal, exec_isSome_iff, valid_iff]
  constructor
  · rintro ⟨-, still, -⟩ node listed rfl
    have present := still node (pinned ▸ listed)
    rw [after, if_pos rfl] at present
    cases present
  · intro free
    refine ⟨?_, ?_, ?_⟩
    · intro row dependent present
      rw [after] at present
      split at present
      · cases present
      · rw [after, if_neg ?_]
        · exact cleared.owned dependent present
        · rintro rfl
          rw [equal, if_pos rfl] at present
          have dropped := dropDependents_get db dependent
          rw [show (nodeKey row.2.node).node = row.2.node from rfl, dropped] at present
          cases present
    · intro node listed
      have known : node ∈ db.tables.pinned := pinned ▸ listed
      rw [after, if_neg (free node known), nodes]
      exact ((valid_iff db.tables).mp db.valid).2.1 node known
    · intro key key' values values' r here there
      rw [after] at here there
      split at here
      · cases here
      · split at there
        · cases there
        · exact cleared.unique here there

theorem pinned_delete (done : delete db target = some db') : db'.tables.pinned = db.tables.pinned := by
  rw [tables_exec done]
  show (if target.1 = .nodes then db.dropDependents target.2.node else db).tables.pinned = _
  split <;> rfl

theorem deletes_isSome_iff (removed : List RowId) (db : Db) :
    (removed.foldlM delete db).isSome ↔ ∀ node ∈ db.tables.pinned, (.nodes, nodeKey node) ∉ removed := by
  induction removed generalizing db with
  | nil => simp
  | cons target rest ih =>
    rw [List.foldlM_cons]
    cases first : delete db target with
    | none =>
      have refused := (delete_isSome_iff db target).not.mp (by rw [first]; exact nofun)
      simp only [not_forall, not_not] at refused
      obtain ⟨node, listed, same⟩ := refused
      refine ⟨nofun, fun free => absurd List.mem_cons_self (same ▸ free node listed)⟩
    | some next =>
      have free := (delete_isSome_iff db target).mp (by rw [first]; rfl)
      refine (ih next).trans ?_
      rw [pinned_delete first]
      refine forall₂_congr fun node listed => ?_
      rw [List.mem_cons, not_or]
      exact (and_iff_right (free node listed)).symm

theorem pinned_writeRows (done : writeRows schema chunk db = some db') : db'.tables.pinned = db.tables.pinned := by
  have each {db db' : Db} {table : TableName} (done : writeTable schema chunk db table = some db') :
      db'.tables.pinned = db.tables.pinned := by
    refine Upsert.upsertAll_invariant (I := fun s : Db => s.tables.pinned = db.tables.pinned) ?_ rfl done
    intro s s' row values held taken
    rw [tables_exec taken]
    exact held
  have all (tables : List TableName) : ∀ {db db' : Db}, tables.foldlM (writeTable schema chunk) db = some db' →
      db'.tables.pinned = db.tables.pinned := by
    induction tables with
    | nil =>
      intro db db' done
      rw [Option.some.inj done]
    | cons table rest ih =>
      intro db db' done
      obtain ⟨middle, first, later⟩ := Option.bind_eq_some_iff.mp done
      exact (ih later).trans (each first)
  exact all TABLES done

theorem transact_isSome_iff (receiver : Receiver) (chunk : Chunk) :
    (transact schema receiver chunk).isSome ↔ Clean schema receiver chunk := by
  rw [transact, Clean, ← and_assoc, ← writeRows_isSome_iff]
  cases written : writeRows schema chunk receiver.db with
  | none => simp
  | some db =>
    rw [Option.bind_some, deletes_isSome_iff, pinned_writeRows written]
    simp

end Retina.Sync
