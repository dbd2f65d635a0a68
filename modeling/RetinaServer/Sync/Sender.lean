import RetinaServer.Sync.Tables
import Mathlib.Algebra.Order.Ring.Rat

/-! The sender: what a target has not accepted yet, cut into bodies of a bounded
size, and what it remembers of a push that landed. -/
namespace Retina.Sync
open OrderedDict

/-- Every mirrored row, per table and natural key, as it goes on the wire. -/
abbrev Registry := TableName → Dict Key Values

def Registry.get (registry : Registry) (row : RowId) : Option Values := (registry row.1).get? row.2

def REGISTRY_MIRROR_FULL_INTERVAL_S : ℚ := 6 * 3600

/-- A row's digest is the row itself. -/
structure Target where
  accepted : Registry := fun _ => Dict.empty
  fullAt : Option ℚ := none
  pushes : Nat := 0
  rowsSent : Nat := 0
  failed : Nat := 0
  healthy : Bool := true

def Target.fullDue (target : Target) (now : ℚ) : Bool :=
  target.fullAt.elim true fun at_ => decide (REGISTRY_MIRROR_FULL_INTERVAL_S ≤ now - at_)

structure Push where
  upserts : List Row
  deletes : TableName → List Key
  fullKeys : Option (TableName → Option (List Key))

/-- What `target` has not accepted yet: changed rows, vanished keys and, when
full, every key. -/
def planPush (target : Target) (registry : Registry) (full : Bool) : Push where
  upserts := TABLES.flatMap fun table =>
    let held := if full then Dict.empty else target.accepted table
    ((registry table).items.filter fun item => decide (held.get? item.1 ≠ some item.2)).map
      fun item => ((table, item.1), item.2)
  deletes := fun table =>
    if full then [] else (target.accepted table).keys.filter fun key => decide (key ∉ (registry table).keys)
  fullKeys := if full then some fun table => if table.listed then some (registry table).keys else none else none

structure Chunk where
  upserts : Dict RowId Values
  deletes : TableName → List Key := fun _ => []
  fullKeys : Option (TableName → Option (List Key)) := none

section Chunks
variable (size : Row → Nat) (limit : Nat)

def cut : Dict RowId Values → Nat → List Row → List (Dict RowId Values) × Dict RowId Values
  | current, _, [] => ([], current)
  | current, total, row :: rest =>
      if current.items ≠ [] ∧ limit < total + size row then
        let later := cut (Dict.empty.insert row.1 row.2) (size row) rest
        (current :: later.1, later.2)
      else cut (current.insert row.1 row.2) (total + size row) rest

/-- Deletes and the full key list ride on the last chunk. -/
def chunkPush (push : Push) : List Chunk :=
  let bodies := cut size limit Dict.empty 0 push.upserts
  bodies.1.map (fun upserts => { upserts : Chunk }) ++
    [{ upserts := bodies.2, deletes := push.deletes, fullKeys := push.fullKeys }]

/-- The cut loses no row, doubles none and keeps their order. -/
theorem items_cut {current : Dict RowId Values} {total : Nat} {rows : List Row}
    (distinct : ((current.items ++ rows).map Prod.fst).Nodup) :
    ((cut size limit current total rows).1.map Dict.items).flatten ++ (cut size limit current total rows).2.items =
      current.items ++ rows := by
  induction rows generalizing current total with
  | nil => simp [cut]
  | cons row rest ih =>
    have apart : current.get? row.1 = none := by
      refine (current.get?_eq_none_iff row.1).mpr fun member => ?_
      rw [List.map_append] at distinct
      exact (List.nodup_append.mp distinct).2.2 row.1 member row.1 List.mem_cons_self rfl
    have extended : (current.insert row.1 row.2).items ++ rest = current.items ++ row :: rest := by
      rw [Dict.items_insert_new row.2 apart]
      simp
    simp only [cut]
    split
    · have alone : (Dict.empty.insert row.1 row.2 : Dict RowId Values).items = [row] := rfl
      have onward : (((Dict.empty.insert row.1 row.2 : Dict RowId Values).items ++ rest).map Prod.fst).Nodup := by
        rw [alone]
        exact distinct.sublist ((List.sublist_append_right current.items (row :: rest)).map Prod.fst)
      simp only [List.map_cons, List.flatten_cons, List.append_assoc]
      rw [ih onward, alone]
      rfl
    · rw [ih (by rw [extended]; exact distinct), extended]

end Chunks

theorem mem_upserts (target : Target) (registry : Registry) (full : Bool) (row : RowId) (values : Values) :
    (row, values) ∈ (planPush target registry full).upserts ↔
      registry.get row = some values ∧ (full = true ∨ target.accepted.get row ≠ some values) := by
  obtain ⟨table, key⟩ := row
  simp only [planPush, List.mem_flatMap, List.mem_map, List.mem_filter, Prod.mk.injEq, Registry.get,
    Dict.get?_eq_some_iff, decide_eq_true_eq]
  constructor
  · rintro ⟨_, -, ⟨_, _⟩, ⟨member, changed⟩, ⟨rfl, rfl⟩, rfl⟩
    refine ⟨member, ?_⟩
    cases full with
    | true => exact .inl rfl
    | false => exact .inr changed
  · rintro ⟨member, changed⟩
    refine ⟨table, mem_TABLES table, (key, values), ⟨member, ?_⟩, ⟨rfl, rfl⟩, rfl⟩
    cases full with
    | true => exact nofun
    | false => exact changed.resolve_left nofun

theorem nodup_upserts (target : Target) (registry : Registry) (full : Bool) :
    ((planPush target registry full).upserts.map Prod.fst).Nodup := by
  rw [planPush, List.map_flatMap, List.nodup_flatMap]
  constructor
  · intro table _
    rw [List.map_map]
    have keyed := (registry table).nodup.sublist ((List.filter_sublist (p := fun item : Key × Values =>
      decide ((if full then Dict.empty else target.accepted table).get? item.1 ≠ some item.2))).map Prod.fst)
    have filed := keyed.map (f := Prod.mk table) fun _ _ same => congrArg Prod.snd same
    simpa only [List.map_map, Function.comp_def] using filed
  · have tables : TABLES.Nodup := by decide
    refine tables.imp ?_
    intro table other apart row here there
    simp only [List.mem_map] at here there
    obtain ⟨_, ⟨_, -, rfl⟩, rfl⟩ := here
    obtain ⟨_, ⟨_, -, rfl⟩, same⟩ := there
    exact apart (congrArg Prod.fst same).symm

/-- The rows of a push over its chunks, each in one of them. -/
theorem rows_chunkPush (size : Row → Nat) (limit : Nat) {push : Push} (distinct : (push.upserts.map Prod.fst).Nodup) :
    ((chunkPush size limit push).map fun chunk => chunk.upserts.items).flatten = push.upserts := by
  have whole := @items_cut size limit Dict.empty 0 push.upserts distinct
  simp only [chunkPush, List.map_append, List.map_map, List.flatten_append, Function.comp_def, List.map_cons,
    List.map_nil, List.flatten_cons, List.flatten_nil, List.append_nil]
  exact whole

end Retina.Sync
