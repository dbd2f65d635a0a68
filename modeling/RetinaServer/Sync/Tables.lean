import RetinaServer.Library.Upsert
import Mathlib.Data.Rat.Defs

/-! The registry's tables, and a database that holds them: a row of any table but
`nodes` has its node, two nodes never share a ref, and a statement that would
leave it otherwise is refused. -/
namespace Retina.Sync
open OrderedDict

/-- A column's value as it goes on the wire: an instant is its ISO text, a JSON
column its dump. -/
inductive Value where
  | null
  | text (s : String)
  | int (n : ℤ)
  | real (x : ℚ)
  | bool (b : Bool)
  | json (dump : String)
deriving DecidableEq

/-- A natural key. Every table's begins with the node. -/
structure Key where
  node : String
  rest : List Value := []
deriving DecidableEq

inductive TableName where
  | nodes
  | nodeConfigs
  | nodeClaims
  | nodeReports
  | nodeEvents
deriving DecidableEq, Repr

/-- In foreign-key order. -/
def TABLES : List TableName := [.nodes, .nodeConfigs, .nodeClaims, .nodeReports, .nodeEvents]

/-- In the complete key list a full push sends. -/
def TableName.listed : TableName → Bool
  | .nodeEvents => false
  | _ => true

theorem mem_TABLES (t : TableName) : t ∈ TABLES := by cases t <;> decide

/-- The columns of a row, its key's apart. -/
abbrev Values := Dict String Value

abbrev RowId := TableName × Key

abbrev Row := RowId × Values

def nodeKey (id : String) : Key := { node := id }

/-- `row.get("node_ref")`. A ref is never empty. -/
def refOf (values : Values) : Option String :=
  (values.get? "node_ref").bind fun
    | .text s => if s = "" then none else some s
    | _ => none

/-- What a statement sets, over what it leaves. -/
def overlay (old new : Values) : Values := new.items.foldl (fun values item => values.insert item.1 item.2) old

theorem get?_overlay (old new : Values) (column : String) :
    (overlay old new).get? column = (new.get? column).or (old.get? column) :=
  Dict.get?_foldl_insert new.items old column new.nodup

theorem refOf_overlay {old new : Values} (found : refOf new = some r) : refOf (overlay old new) = some r := by
  obtain ⟨value, held, text⟩ := Option.bind_eq_some_iff.mp found
  rw [refOf, get?_overlay, held]
  exact text

theorem refOf_overlay_or (old new : Values) :
    refOf (overlay old new) = refOf new ∨ refOf (overlay old new) = refOf old := by
  rw [refOf, get?_overlay]
  cases held : new.get? "node_ref" with
  | none => exact .inr rfl
  | some value => exact .inl (by rw [refOf, held]; rfl)

/-- `pinned` are the nodes that rows outside the mirrored tables refer to: a
contact, a token, a challenge, a polled radar. -/
structure Tables where
  rows : TableName → Dict Key Values
  pinned : List String := []

def Tables.get (t : Tables) (row : RowId) : Option Values := (t.rows row.1).get? row.2

def Tables.put (t : Tables) (row : RowId) (values : Values) : Tables :=
  { t with rows := Function.update t.rows row.1 ((t.rows row.1).insert row.2 values) }

def Tables.remove (t : Tables) (gone : TableName → Key → Bool) : Tables :=
  { t with rows := fun name => (t.rows name).filter fun key _ => !gone name key }

/-- The foreign keys, and the one unique column beside the keys. -/
def Valid (t : Tables) : Prop :=
  (∀ name ∈ TABLES, name ≠ .nodes → ∀ key ∈ (t.rows name).keys, (t.get (.nodes, nodeKey key.node)).isSome) ∧
  (∀ node ∈ t.pinned, (t.get (.nodes, nodeKey node)).isSome) ∧
  ∀ a ∈ (t.rows .nodes).items, ∀ b ∈ (t.rows .nodes).items, refOf a.2 ≠ none → refOf a.2 = refOf b.2 → a.1 = b.1

instance (t : Tables) : Decidable (Valid t) := by unfold Valid; infer_instance

theorem Tables.get_put (t : Tables) (row other : RowId) (values : Values) :
    (t.put row values).get other = if row = other then some values else t.get other := by
  simp only [get, put, Function.update_apply]
  by_cases table : other.1 = row.1
  · rw [if_pos table, Dict.get?_insert]
    by_cases key : row.2 = other.2
    · rw [if_pos key, if_pos (Prod.ext table.symm key)]
    · rw [if_neg key, if_neg (fun same => key (congrArg Prod.snd same)), table]
  · rw [if_neg table, if_neg (fun same => table (congrArg Prod.fst same).symm)]

theorem Tables.get_remove (t : Tables) (gone : TableName → Key → Bool) (row : RowId) :
    (t.remove gone).get row = if gone row.1 row.2 then none else t.get row := by
  simp only [get, remove, Dict.get?_filter]
  cases found : (t.rows row.1).get? row.2 <;> cases gone row.1 row.2 <;> rfl

theorem valid_iff (t : Tables) : Valid t ↔
    (∀ row : RowId, row.1 ≠ .nodes → (t.get row).isSome → (t.get (.nodes, nodeKey row.2.node)).isSome) ∧
    (∀ node ∈ t.pinned, (t.get (.nodes, nodeKey node)).isSome) ∧
    ∀ key key' values values' r, t.get (.nodes, key) = some values → t.get (.nodes, key') = some values' →
      refOf values = some r → refOf values' = some r → key = key' := by
  refine and_congr ?_ (and_congr Iff.rfl ?_)
  · constructor
    · intro owned row dependent present
      refine owned row.1 (mem_TABLES row.1) dependent row.2 ?_
      by_contra absent
      have missing := ((t.rows row.1).get?_eq_none_iff row.2).mpr absent
      rw [Tables.get, missing] at present
      exact nomatch present
    · intro owned name _ dependent key member
      refine owned (name, key) dependent ?_
      rw [Option.isSome_iff_ne_none]
      exact fun missing => ((t.rows name).get?_eq_none_iff key).mp missing member
  · constructor
    · intro unique key key' values values' r here there first second
      exact unique (key, values) (((t.rows .nodes).get?_eq_some_iff key values).mp here) (key', values')
        (((t.rows .nodes).get?_eq_some_iff key' values').mp there) (by rw [first]; exact nofun) (first.trans second.symm)
    · intro unique a first b second named same
      obtain ⟨r, ref⟩ := Option.ne_none_iff_exists'.mp named
      exact unique a.1 b.1 a.2 b.2 r (((t.rows .nodes).get?_eq_some_iff a.1 a.2).mpr first)
        (((t.rows .nodes).get?_eq_some_iff b.1 b.2).mpr second) ref (same ▸ ref)

structure Db where
  tables : Tables
  valid : Valid tables

def Db.get (db : Db) (row : RowId) : Option Values := db.tables.get row

/-- A statement, refused where it would break a constraint. -/
def exec (tables : Tables) : Option Db := if valid : Valid tables then some ⟨tables, valid⟩ else none

theorem tables_exec (done : exec tables = some db) : db.tables = tables := by
  rw [exec] at done
  split at done
  · rw [← Option.some.inj done]
  · exact nomatch done

theorem exec_isSome_iff : (exec tables).isSome ↔ Valid tables := by
  rw [exec]
  split <;> simp [*]

theorem Db.owned (db : Db) {row : RowId} (dependent : row.1 ≠ .nodes) (present : (db.get row).isSome) :
    (db.get (.nodes, nodeKey row.2.node)).isSome :=
  ((valid_iff db.tables).mp db.valid).1 row dependent present

theorem Db.unique (db : Db) (here : db.get (.nodes, key) = some values) (there : db.get (.nodes, key') = some values')
    (first : refOf values = some r) (second : refOf values' = some r) : key = key' :=
  ((valid_iff db.tables).mp db.valid).2.2 key key' values values' r here there first second

/-- The tables as a store of checked assignments. -/
def store : Upsert.Store Db RowId Values where
  get := Db.get
  set := fun db row values => exec (db.tables.put row values)
  get_set := by
    intro db db' row other values done
    rw [Db.get, tables_exec done, Tables.get_put]
    rfl

/-- A dependent row may be written where its node is. -/
theorem set_dependent_isSome (db : Db) {row : RowId} (dependent : row.1 ≠ .nodes)
    (present : (db.get (.nodes, nodeKey row.2.node)).isSome) (values : Values) :
    (store.set db row values).isSome := by
  have kept (key : Key) : (db.tables.put row values).get (.nodes, key) = db.get (.nodes, key) := by
    rw [Tables.get_put, if_neg fun same => dependent (congrArg Prod.fst same)]
    rfl
  obtain ⟨owned, pinned, unique⟩ := (valid_iff db.tables).mp db.valid
  refine exec_isSome_iff.mpr ((valid_iff _).mpr ⟨?_, ?_, ?_⟩)
  · intro other apart there
    rw [kept]
    rw [Tables.get_put] at there
    split at there
    · rename_i same
      exact same ▸ present
    · exact owned other apart there
  · intro node listed
    rw [kept]
    exact pinned node listed
  · intro key key' values values' r here there
    rw [kept] at here there
    exact unique key key' values values' r here there

/-- A node's row may be written where no other node has its ref. -/
theorem set_node_isSome (db : Db) (key : Key) {values : Values}
    (free : ∀ key' values' r, db.get (.nodes, key') = some values' → refOf values = some r → refOf values' = some r →
      key' = key) : (store.set db (.nodes, key) values).isSome := by
  obtain ⟨owned, pinned, unique⟩ := (valid_iff db.tables).mp db.valid
  have still {node : String} (there : (db.tables.get (.nodes, nodeKey node)).isSome) :
      ((db.tables.put (.nodes, key) values).get (.nodes, nodeKey node)).isSome := by
    rw [Tables.get_put]
    split
    · rfl
    · exact there
  refine exec_isSome_iff.mpr ((valid_iff _).mpr ⟨?_, ?_, ?_⟩)
  · intro other apart there
    rw [Tables.get_put, if_neg fun same => apart (congrArg Prod.fst same).symm] at there
    exact still (owned other apart there)
  · exact fun node listed => still (pinned node listed)
  · intro first second values₁ values₂ r here there ref₁ ref₂
    rw [Tables.get_put] at here there
    split at here
    · rename_i same
      obtain rfl := congrArg Prod.snd same
      obtain rfl := Option.some.inj here
      split at there
      · rename_i same'
        exact congrArg Prod.snd same'
      · exact (free second values₂ r there ref₁ ref₂).symm
    · split at there
      · rename_i same
        obtain rfl := congrArg Prod.snd same
        obtain rfl := Option.some.inj there
        exact free first values₁ r here ref₂ ref₁
      · exact unique first second values₁ values₂ r here there ref₁ ref₂

end Retina.Sync
