import RetinaServer.Library.Replacement
import RetinaServer.Registry.Identity
import Mathlib.Data.List.Sort
import Mathlib.Data.List.Dedup

/-! A diagnostic payload under published identities: a walk over dictionaries, lists and tuples, with the
ids of the vocabulary replaced where they are a whole string, a whole key, or part of a longer string.
A set is no container of the walk. -/
namespace Retina.Registry
open Replacement OrderedDict

inductive Scalar where
  | null
  | bool (value : Bool)
  | num (value : ℚ)

inductive Payload where
  | scalar (value : Scalar)
  | str (text : String)
  | list (items : List Payload)
  | tuple (items : List Payload)
  | set (items : List Payload)
  | dict (entries : List (String × Payload))

def REDACTED : String := "[unpublished node]"

/-- `key.endswith(tail)`. -/
def endsWith (key tail : String) : Bool := tail.toList.isSuffixOf key.toList

def dropEnd (key : String) (n : Nat) : String := String.ofList (key.toList.take (key.toList.length - n))

/-- The published name of a field that holds node identities. -/
def publishedKey (key : String) : String :=
  if endsWith key "node_ids" then dropEnd key 3 ++ "refs"
  else if endsWith key "node_id" then dropEnd key 2 ++ "ref"
  else key

/-- What each id is published as, and the ids with the longest first. -/
structure Vocabulary where
  byId : Dict String (Option String)
  longestFirst : List (String × Option String)
  complete : longestFirst.Perm byId.items
  descending : longestFirst.Pairwise fun p q => q.1.length ≤ p.1.length
  named : ∀ item ∈ byId.items, item.1 ≠ ""

/-- The non-empty strings under one identity field. -/
def identityStrings : Payload → List String
  | .str text => if text = "" then [] else [text]
  | .list items | .tuple items => items.filterMap fun item => match item with
    | .str text => if text = "" then none else some text
    | _ => none
  | _ => []

mutual
/-- Every node id a payload names under an identity field, however deep. -/
def namedNodeIds : Payload → List String
  | .dict entries => namedInEntries entries
  | .list items | .tuple items => namedInItems items
  | _ => []

def namedInItems : List Payload → List String
  | [] => []
  | item :: rest => namedNodeIds item ++ namedInItems rest

def namedInEntries : List (String × Payload) → List String
  | [] => []
  | (key, value) :: rest =>
      (if publishedKey key ≠ key then identityStrings value else []) ++ namedNodeIds value ++ namedInEntries rest
end

/-- The registry and whatever ids the caller names, without the synthetic nodes. -/
def vocabulary (s : Handles) (knownIds : List String) : Vocabulary :=
  let ids := ((s.forward.keys ++ knownIds).filter fun id => decide (id ≠ "") && !isSyntheticNode id).dedup
  { byId :=
      { items := ids.map fun id => (id, publicIdentity s id)
        nodup := by
          have keys : (ids.map fun id => (id, publicIdentity s id)).map Prod.fst = ids := by
            rw [List.map_map]
            exact List.map_id ids
          rw [keys]
          exact List.nodup_dedup _ }
    longestFirst := (ids.map fun id => (id, publicIdentity s id)).insertionSort fun p q => q.1.length ≤ p.1.length
    complete := List.perm_insertionSort _ _
    descending := by
      have : Std.Total fun p q : String × Option String => q.1.length ≤ p.1.length :=
        ⟨fun p q => Nat.le_total q.1.length p.1.length⟩
      have : IsTrans (String × Option String) fun p q => q.1.length ≤ p.1.length :=
        ⟨fun _ _ _ first second => second.trans first⟩
      exact List.pairwise_insertionSort _ _
    named := by
      intro item listed
      obtain ⟨id, member, rfl⟩ := List.mem_map.mp listed
      have kept := (List.mem_filter.mp (List.mem_dedup.mp member)).2
      exact of_decide_eq_true (Bool.and_eq_true_iff.mp kept).1 }

/-- `ref or _REDACTED`. -/
def spelledOut : Option String → String
  | none => REDACTED
  | some ref => if ref = "" then REDACTED else ref

section
variable (vocab : Vocabulary)

/-- The ids inside a longer string are rewritten in place. -/
def rewritten (text : String) : String :=
  String.ofList (replaceEach (vocab.longestFirst.map fun item => (item.1.toList, (spelledOut item.2).toList))
    text.toList)

/-- `none` is a string that names a node which must not be published. -/
def publishedText (text : String) : Option String :=
  match vocab.byId.get? text with
  | some ref => ref
  | none => some (rewritten vocab text)

/-- `none` is a key whose entry is left out. -/
def entryKey (key : String) : Option String :=
  match vocab.byId.get? (publishedKey key) with
  | some ref => ref
  | none => some (publishedKey key)

/-- `v == owner_id`. -/
def isOwner (owner : Option String) : Payload → Bool
  | .str text => decide (owner = some text)
  | .scalar .null => owner.isNone
  | _ => false

mutual
def republished (owner : Option String) : Payload → Option Payload
  | .scalar value => some (.scalar value)
  | .str text => (publishedText vocab text).map .str
  | .list items => some (.list (republishedItems owner items))
  | .tuple items => some (.list (republishedItems owner items))
  | .set items => some (.set items)
  | .dict entries => (republishedEntries owner entries []).map .dict

def republishedItems (owner : Option String) : List Payload → List Payload
  | [] => []
  | item :: rest => match republished owner item with
    | none => republishedItems owner rest
    | some r => r :: republishedItems owner rest

/-- `out` holds the entries so far. A value that must not be published takes the whole dictionary with it. -/
def republishedEntries (owner : Option String) :
    List (String × Payload) → List (String × Payload) → Option (List (String × Payload))
  | [], out => some out
  | (key, value) :: rest, out =>
      if key = "node_id" ∧ isOwner owner value then republishedEntries owner rest out
      else match entryKey vocab key with
        | none => republishedEntries owner rest out
        | some name => match republished owner value with
          | none => none
          | some r => republishedEntries owner rest (put name r out)
end

end

def publicRecords (s : Handles) (records : List Payload) (knownIds : List String) : List Payload :=
  let vocab := vocabulary s (knownIds ++ namedInItems records)
  records.filterMap (republished vocab none)

def publicAnalytics (s : Handles) (summaries : List (String × Payload)) (crossNode : Payload)
    (knownIds : List String) : List (String × Payload) × Payload :=
  let vocab := vocabulary s knownIds
  (summaries.foldl (fun nodes summary => match publicIdentity s summary.1 with
      | none => nodes
      | some ref => match republished vocab (some summary.1) summary.2 with
        | none => nodes
        | some r => put ref r nodes) [],
    (republished vocab none crossNode).getD (.dict []))

/-! ### What a payload names -/

/-- The id is part of the text, or all of it. -/
def Within (nodeId text : String) : Prop := nodeId.toList <:+: text.toList

instance (nodeId text : String) : Decidable (Within nodeId text) :=
  inferInstanceAs (Decidable (nodeId.toList <:+: text.toList))

mutual
/-- The id is in a string or a key of the payload, at any depth. -/
def names (nodeId : String) : Payload → Bool
  | .scalar _ => false
  | .str text => decide (Within nodeId text)
  | .list items | .tuple items | .set items => namesInItems nodeId items
  | .dict entries => namesInEntries nodeId entries

def namesInItems (nodeId : String) : List Payload → Bool
  | [] => false
  | item :: rest => names nodeId item || namesInItems nodeId rest

def namesInEntries (nodeId : String) : List (String × Payload) → Bool
  | [] => false
  | (key, value) :: rest => decide (Within nodeId key) || names nodeId value || namesInEntries nodeId rest
end

/-- A node of the vocabulary that is not published under its own id. -/
def Private (vocab : Vocabulary) (nodeId : String) : Prop :=
  ∃ ref, vocab.byId.get? nodeId = some ref ∧ ref ≠ some nodeId

def IdentitiesWithheld (vocab : Vocabulary) (owner : Option String) (payload : Payload) : Prop :=
  ∀ out, republished vocab owner payload = some out → ∀ nodeId, Private vocab nodeId → names nodeId out = false

/-- A key, a string or a set of the payload, as it comes in. -/
inductive Leaf where
  | key (name : String)
  | text (content : String)
  | set (items : List Payload)

section
variable (vocab : Vocabulary)

mutual
/-- What of a payload is published in some form; `none` is a payload that is withheld. -/
def leaves (owner : Option String) : Payload → Option (List Leaf)
  | .scalar _ => some []
  | .str text => if vocab.byId.get? text = some none then none else some [.text text]
  | .list items | .tuple items => some (leavesOfItems owner items)
  | .set items => some [.set items]
  | .dict entries => (leavesOfEntries owner entries []).map fun out =>
      out.flatMap fun entry => .key entry.2.1 :: entry.2.2

def leavesOfItems (owner : Option String) : List Payload → List Leaf
  | [] => []
  | item :: rest => (leaves owner item).getD [] ++ leavesOfItems owner rest

/-- A later entry takes the place of an earlier one that is published under the same key. -/
def leavesOfEntries (owner : Option String) : List (String × Payload) → List (String × String × List Leaf) →
    Option (List (String × String × List Leaf))
  | [], out => some out
  | (key, value) :: rest, out =>
      if key = "node_id" ∧ isOwner owner value then leavesOfEntries owner rest out
      else match entryKey vocab key with
        | none => leavesOfEntries owner rest out
        | some name => match leaves owner value with
          | none => none
          | some below => leavesOfEntries owner rest (put name (key, below) out)
end

/-- What a leaf is published as names the node. -/
def Leaf.Names (nodeId : String) : Leaf → Prop
  | .key name => ∃ shown, entryKey vocab name = some shown ∧ Within nodeId shown
  | .text content => ∃ shown, publishedText vocab content = some shown ∧ Within nodeId shown
  | .set items => namesInItems nodeId items = true

/-- The id is published through one of the leaves. -/
def NamedBy (nodeId : String) (found : List Leaf) : Prop := ∃ leaf ∈ found, leaf.Names vocab nodeId

/-- Output and leaves of one payload name the same nodes. -/
def Agree : Option Payload → Option (List Leaf) → Prop :=
  Option.Rel fun out found => ∀ nodeId, names nodeId out = true ↔ NamedBy vocab nodeId found

/-- An entry as it is published, and as it came in. -/
def EntryAgree (entry : String × Payload) (found : String × String × List Leaf) : Prop :=
  entry.1 = found.1 ∧ entryKey vocab found.2.1 = some found.1 ∧
    ∀ nodeId, names nodeId entry.2 = true ↔ NamedBy vocab nodeId found.2.2

theorem namedBy_append (nodeId : String) (first second : List Leaf) :
    NamedBy vocab nodeId (first ++ second) ↔ NamedBy vocab nodeId first ∨ NamedBy vocab nodeId second := by
  simp only [NamedBy, List.mem_append, or_and_right, exists_or]

theorem namedBy_single (nodeId : String) (leaf : Leaf) : NamedBy vocab nodeId [leaf] ↔ leaf.Names vocab nodeId := by
  simp only [NamedBy, List.mem_singleton, exists_eq_left]

theorem not_namedBy_nil (nodeId : String) : ¬ NamedBy vocab nodeId [] := by
  simp only [NamedBy, List.not_mem_nil, false_and, exists_false, not_false_eq_true]

theorem names_of_entries (agree : List.Forall₂ (EntryAgree vocab) out found) (nodeId : String) :
    namesInEntries nodeId out = true ↔
      NamedBy vocab nodeId (found.flatMap fun entry => .key entry.2.1 :: entry.2.2) := by
  induction agree with
  | nil => simp [namesInEntries, not_namedBy_nil]
  | @cons entry f rest rest' here later ih =>
    obtain ⟨name, value⟩ := entry
    obtain ⟨same, keyed, below⟩ := here
    have key_named : (Leaf.key f.2.1).Names vocab nodeId ↔ Within nodeId name := by
      simp only [Leaf.Names, keyed, ← same, Option.some.injEq, exists_eq_left']
    have head := namedBy_append vocab nodeId [.key f.2.1] f.2.2
    rw [List.singleton_append, namedBy_single, key_named] at head
    rw [List.flatMap_cons, namedBy_append, ← ih, head, ← below]
    simp only [namesInEntries, Bool.or_eq_true, decide_eq_true_eq]

mutual
/-- The nodes an output names are those its leaves are published as. -/
theorem agree (owner : Option String) : ∀ payload,
    Agree vocab (republished vocab owner payload) (leaves vocab owner payload)
  | .scalar value => by
      simp only [republished, leaves]
      exact .some fun nodeId => by simp [names, not_namedBy_nil]
  | .str text => by
      simp only [republished, leaves]
      cases published : publishedText vocab text with
      | none =>
        have withheld : vocab.byId.get? text = some none := by
          rw [publishedText] at published
          split at published
          · rename_i held
            rw [held, published]
          · cases published
        rw [if_pos withheld]
        exact .none
      | some out =>
        have kept : vocab.byId.get? text ≠ some none := by
          intro withheld
          rw [publishedText, withheld] at published
          cases published
        rw [if_neg kept]
        refine .some fun nodeId => ?_
        simp only [namedBy_single, Leaf.Names, published, names, Option.some.injEq, exists_eq_left', decide_eq_true_eq]
  | .list items => by
      simp only [republished, leaves]
      exact .some (agree_items owner items)
  | .tuple items => by
      simp only [republished, leaves]
      exact .some (agree_items owner items)
  | .set items => by
      simp only [republished, leaves]
      exact .some fun nodeId => by simp only [names, namedBy_single, Leaf.Names]
  | .dict entries => by
      simp only [republished, leaves]
      have walked := agree_entries owner entries [] [] .nil
      generalize republishedEntries vocab owner entries [] = out at walked
      generalize leavesOfEntries vocab owner entries [] = found at walked
      cases walked with
      | none => exact .none
      | some related => exact .some fun nodeId => names_of_entries vocab related nodeId

theorem agree_items (owner : Option String) : ∀ items nodeId,
    namesInItems nodeId (republishedItems vocab owner items) = true ↔
      NamedBy vocab nodeId (leavesOfItems vocab owner items)
  | [], nodeId => by simp [republishedItems, leavesOfItems, namesInItems, not_namedBy_nil]
  | item :: rest, nodeId => by
      have here := agree owner item
      have later := agree_items owner rest nodeId
      simp only [republishedItems, leavesOfItems, namedBy_append]
      generalize republished vocab owner item = out at here
      generalize leaves vocab owner item = found at here
      cases here with
      | none => simpa [not_namedBy_nil] using later
      | some related => simp only [namesInItems, Bool.or_eq_true, related nodeId, later, Option.getD_some]

theorem agree_entries (owner : Option String) : ∀ entries out found, List.Forall₂ (EntryAgree vocab) out found →
    Option.Rel (List.Forall₂ (EntryAgree vocab)) (republishedEntries vocab owner entries out)
      (leavesOfEntries vocab owner entries found)
  | [], out, found, before => .some before
  | (key, value) :: rest, out, found, before => by
      have here := agree owner value
      simp only [republishedEntries, leavesOfEntries]
      split
      · exact agree_entries owner rest out found before
      · cases keyed : entryKey vocab key with
        | none => exact agree_entries owner rest out found before
        | some name =>
          generalize republished vocab owner value = published at here
          generalize leaves vocab owner value = below at here
          cases here with
          | none => exact .none
          | some related =>
            exact agree_entries owner rest _ _
              (forall₂_put (fun _ _ entry => entry.1) before ⟨rfl, keyed, related⟩)
end

/-! ### When no id survives -/

/-- The leaf is published in some form. -/
def Survives (owner : Option String) (payload : Payload) (leaf : Leaf) : Prop :=
  ∃ found, leaves vocab owner payload = some found ∧ leaf ∈ found

/-- What the leaf is published as names no private node. -/
def Leaf.Clear (leaf : Leaf) : Prop := ∀ nodeId, Private vocab nodeId → ¬ leaf.Names vocab nodeId

/-- No handle, nor the marker of a withheld node, overlaps an id. -/
def ReplacementsApart : Prop :=
  ∀ item ∈ vocab.byId.items, ∀ item' ∈ vocab.byId.items, Apart (spelledOut item'.2).toList item.1.toList

variable {vocab} in
/-- The handle a whole string or key is replaced with holds no id. -/
theorem not_within_ref (apart : ReplacementsApart vocab) (listed : (nodeId, ref) ∈ vocab.byId.items)
    (held : vocab.byId.get? text = some (some shown)) : ¬ Within nodeId shown := by
  intro inside
  have outside := (apart _ listed _ ((Dict.get?_eq_some_iff _ _ _).mp held)).outside
  by_cases empty : shown = ""
  · -- Only an empty id is part of an empty handle.
    subst empty
    exact vocab.named _ listed (String.toList_inj.mp (List.infix_nil.mp inside))
  · rw [spelledOut, if_neg empty] at outside
    exact outside inside

theorem withheld_iff_clear (owner : Option String) (payload : Payload) :
    IdentitiesWithheld vocab owner payload ↔ ∀ leaf, Survives vocab owner payload leaf → leaf.Clear vocab := by
  have walked := agree vocab owner payload
  simp only [IdentitiesWithheld, Survives]
  generalize republished vocab owner payload = published at walked
  generalize leaves vocab owner payload = below at walked
  cases walked with
  | none => simp
  | @some out found related =>
    simp only [Option.some.injEq, exists_eq_left', forall_eq']
    constructor
    · intro withheld leaf listed nodeId hidden shown
      have named := (related nodeId).mpr ⟨leaf, listed, shown⟩
      rw [withheld nodeId hidden] at named
      cases named
    · intro clear nodeId hidden
      rw [Bool.eq_false_iff]
      intro named
      obtain ⟨leaf, listed, shown⟩ := (related nodeId).mp named
      exact clear leaf listed nodeId hidden shown

/-- With handles that keep clear of the ids, rewriting leaves no id in a string. -/
theorem text_clear_of_apart (apart : ReplacementsApart vocab) (text : String) : (Leaf.text text).Clear vocab := by
  rintro nodeId ⟨ref, known, -⟩ ⟨out, shown, inside⟩
  have listed := (Dict.get?_eq_some_iff _ _ _).mp known
  rw [publishedText] at shown
  split at shown
  · rename_i held
    subst shown
    exact not_within_ref apart listed held inside
  · obtain rfl := Option.some.inj shown
    have each : ∀ r ∈ vocab.longestFirst.map fun item => (item.1.toList, (spelledOut item.2).toList),
        ∃ item ∈ vocab.byId.items, r = (item.1.toList, (spelledOut item.2).toList) := by
      intro r member
      obtain ⟨item, ordered, rfl⟩ := List.mem_map.mp member
      exact ⟨item, vocab.complete.mem_iff.mp ordered, rfl⟩
    rw [Within, rewritten, String.toList_ofList] at inside
    refine not_infix_replaceEach ?_ ?_ text.toList (nodeId.toList, (spelledOut ref).toList)
      (List.mem_map.mpr ⟨_, vocab.complete.mem_iff.mpr listed, rfl⟩) inside
    · intro r member
      obtain ⟨item, present, rfl⟩ := each r member
      exact fun empty => vocab.named item present (String.toList_inj.mp empty)
    · intro r member r' member'
      obtain ⟨item, present, rfl⟩ := each r member
      obtain ⟨item', present', rfl⟩ := each r' member'
      exact apart item present item' present'

/-- With handles that keep clear of the ids, a key is published without one when it is one, and only then
when it holds one. -/
theorem key_clear_iff_of_apart (apart : ReplacementsApart vocab) (key : String) :
    (Leaf.key key).Clear vocab ↔ (vocab.byId.get? (publishedKey key)).isSome ∨
      ∀ nodeId, Private vocab nodeId → ¬ Within nodeId (publishedKey key) := by
  simp only [Leaf.Clear, Leaf.Names, entryKey]
  cases held : vocab.byId.get? (publishedKey key) with
  | none => simp only [Option.some.injEq, exists_eq_left', Option.isSome_none, Bool.false_eq_true, false_or]
  | some ref =>
    simp only [Option.isSome_some, true_or, iff_true]
    rintro nodeId ⟨ref', known, -⟩ ⟨shown, same, inside⟩
    subst same
    exact not_within_ref apart ((Dict.get?_eq_some_iff _ _ _).mp known) held inside

/-- No private id is published exactly when every key, string and set that is published is clear of them. With
handles that keep clear of the ids, the strings always are, and so are the keys that are ids as a whole. -/
theorem identities_withheld_iff (owner : Option String) (payload : Payload) :
    (IdentitiesWithheld vocab owner payload ↔ ∀ leaf, Survives vocab owner payload leaf → leaf.Clear vocab) ∧
    (ReplacementsApart vocab → (IdentitiesWithheld vocab owner payload ↔
      (∀ key, Survives vocab owner payload (.key key) → (vocab.byId.get? (publishedKey key)).isSome ∨
        ∀ nodeId, Private vocab nodeId → ¬ Within nodeId (publishedKey key)) ∧
      ∀ items, Survives vocab owner payload (.set items) →
        ∀ nodeId, Private vocab nodeId → namesInItems nodeId items = false)) := by
  refine ⟨withheld_iff_clear vocab owner payload, fun apart => ?_⟩
  rw [withheld_iff_clear]
  constructor
  · intro clear
    constructor
    · exact fun key survives => (key_clear_iff_of_apart vocab apart key).mp (clear (.key key) survives)
    · exact fun items survives nodeId hidden => Bool.eq_false_iff.mpr (clear (.set items) survives nodeId hidden)
  · rintro ⟨keys_clear, sets_clear⟩ leaf survives
    cases leaf with
    | key key => exact (key_clear_iff_of_apart vocab apart key).mpr (keys_clear key survives)
    | text content => exact text_clear_of_apart vocab apart content
    | set items => exact fun nodeId hidden => Bool.eq_false_iff.mp (sets_clear items survives nodeId hidden)

end

/-- The records are published without an id exactly when the walk withholds it in each of them. -/
theorem publicRecords_withheld_iff (s : Handles) (records : List Payload) (knownIds : List String) :
    (∀ out ∈ publicRecords s records knownIds, ∀ nodeId,
      Private (vocabulary s (knownIds ++ namedInItems records)) nodeId → names nodeId out = false) ↔
    ∀ record ∈ records, IdentitiesWithheld (vocabulary s (knownIds ++ namedInItems records)) none record := by
  simp only [publicRecords, List.mem_filterMap, IdentitiesWithheld]
  constructor
  · exact fun withheld record listed out shown => withheld out ⟨record, listed, shown⟩
  · rintro withheld out ⟨record, listed, shown⟩
    exact withheld record listed out shown

/-- Two registered nodes, each published under a handle. -/
def twoRegistered : Handles :=
  Runs.run handleStep Handles.boot
    [.insertRow "ret1a2b3c4d" porchRef, .insertRow "ret0badcafe" atticRef, .refresh 0 true]

instance (vocab : Vocabulary) : Decidable (ReplacementsApart vocab) :=
  inferInstanceAs (Decidable (∀ item ∈ vocab.byId.items, ∀ item' ∈ vocab.byId.items,
    Apart (spelledOut item'.2).toList item.1.toList))

theorem identities_withheld_iff_pair :
    IdentitiesWithheld (vocabulary twoRegistered []) none (.dict [("ret1a2b3c4d", .str "near ret0badcafe")]) :=
  ((identities_withheld_iff (vocabulary twoRegistered []) none
      (.dict [("ret1a2b3c4d", .str "near ret0badcafe")])).2 (by decide +kernel)).mpr <| by
    have below : leaves (vocabulary twoRegistered []) none (.dict [("ret1a2b3c4d", .str "near ret0badcafe")]) =
        some [.key "ret1a2b3c4d", .text "near ret0badcafe"] := by rfl
    constructor
    · rintro key ⟨found, kept, listed⟩
      rw [below, Option.some.injEq] at kept
      subst kept
      simp only [List.mem_cons, Leaf.key.injEq, reduceCtorEq, List.not_mem_nil, or_false] at listed
      subst listed
      exact .inl (by decide +kernel)
    · rintro items ⟨found, kept, listed⟩
      rw [below, Option.some.injEq] at kept
      subst kept
      simp at listed

/-- A map of node pairs keeps both ids of its keys. -/
theorem pair_key_published :
    ¬ IdentitiesWithheld (vocabulary twoRegistered []) none
      (.dict [("ret0badcafe|ret1a2b3c4d", .scalar (.num 3))]) := by
  intro withheld
  have out : republished (vocabulary twoRegistered []) none
      (.dict [("ret0badcafe|ret1a2b3c4d", .scalar (.num 3))]) =
        some (.dict [("ret0badcafe|ret1a2b3c4d", .scalar (.num 3))]) := by rfl
  have hidden : Private (vocabulary twoRegistered []) "ret1a2b3c4d" :=
    ⟨some porchRef.1, by decide +kernel, by decide +kernel⟩
  have free := withheld _ out "ret1a2b3c4d" hidden
  exact absurd free (by decide +kernel)

end Retina.Registry
