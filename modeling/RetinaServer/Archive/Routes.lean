import RetinaServer.Feed.Publication
import RetinaServer.Library.FileTree
import RetinaServer.Registry.Identity
import RetinaServer.Tcp.Json

/-! The public routes of the archive. A file is listed and fetched under a key in which its node's published identity
stands for the id that the directories on disk are named by. -/
namespace Retina.Archive
open Registry FileTree
open Feed (PrivateNodeIds)
open Tcp (Json Fields)
open OrderedDict (lookup put)
open Numerals (Text)

variable {β : Type u} {μ : Type v}

/-! ### Keys -/

/-- The node segment's Hive name on disk. -/
def storedHive : Text := "node_id=".toList
/-- And the one that it is published under. -/
def publishedHive : Text := "node_ref=".toList

/-- `key.strip("/")`. -/
def stripSlashes (key : Text) : Text := (key.dropWhile fun c => decide (c = '/')).rdropWhile fun c => decide (c = '/')

/-- `text.removeprefix(p)`. -/
def removePrefix (p text : Text) : Text := if p.isPrefixOf text then text.drop p.length else text

/-- A segment with its Hive name, or without one. -/
def hiveSegment (p : Text) (hive : Bool) (value : Text) : Text := if hive then p ++ value else value

def joinSegments (place : List Text) : Text := ['/'].intercalate place

/-- The segments of a key around the one that names its node, where it has one. -/
def keyParts (key : Text) : Option (List Text × Text × Text) :=
  match (segments (stripSlashes key)).reverse with
  | last :: node :: front => some (front.reverse, node, last)
  | _ => none

/-- `segment.split("=", 1)[-1]`. -/
def partitionValue (segment : Text) : Text := if '=' ∈ segment then (segment.dropWhile fun c => decide (c ≠ '=')).tail else segment

def keyNodeId (key : Text) : Text :=
  match keyParts key with
  | none => []
  | some (_, node, _) => partitionValue node

def publishedKey (s : Handles) (key : Text) : Option Text :=
  match keyParts key with
  | none => some key
  | some (front, node, last) =>
      (publicIdentity s (String.ofList (removePrefix storedHive node))).map fun ref =>
        joinSegments (front ++ [hiveSegment publishedHive (storedHive.isPrefixOf node) ref.toList, last])

/-- The stored key and its node, `""` where the key names none. -/
def storedKey (s : Handles) (key : Text) : Option (Text × String) :=
  match keyParts key with
  | none => some (key, "")
  | some (front, node, last) =>
      if '=' ∈ node ∧ publishedHive.isPrefixOf node = false then none
      else (idForIdentity s (String.ofList (removePrefix publishedHive node))).map fun nodeId =>
        (joinSegments (front ++ [hiveSegment storedHive (publishedHive.isPrefixOf node) nodeId.toList, last]), nodeId)

/-! ### The store -/

structure ArchiveTree (β : Type u) where
  tree : FileTree.Tree β
  base : List Text
  proper : base ≠ []
  named : ∀ c ∈ base, IsName c

/-- What the two formats make of a file's content; `none` is an exception. -/
structure Reader (β : Type u) where
  parquet : β → Option Json
  json : β → Option Json

/-- `os.path.join(base, key)`. -/
def joinPath (base : List Text) (key : Text) : Text := if key.head? = some '/' then key else render base ++ '/' :: key

def Reader.parse (r : Reader β) (key : Text) (content : β) : Option Json :=
  if ".parquet".toList.isSuffixOf key then r.parquet content else r.json content

/-- `none` is `None`; inside it, an exception. -/
def readArchivedFile (a : ArchiveTree β) (r : Reader β) (key : Text) : Option (Option Json) :=
  match a.tree.read (joinPath a.base key) with
  | none => none
  | some content =>
      if (render a.base ++ ['/']).isPrefixOf (realpath (joinPath a.base key)) then some (r.parse key content) else none

/-! ### The routes -/

inductive Response where
  | unavailable
  | notFound
  | raised
  | ok (data : Json)

/-- `node_id in private`. -/
def withheld (P : PrivateNodeIds) (nodeId : String) : Bool :=
  if named : nodeId ≠ "" then P.contains ⟨nodeId, named⟩ else false

def identityJson (s : Handles) (nodeId : String) : Json := (publicIdentity s nodeId).elim .null .str

/-- The body with the node's published identity for its id. A list or a dictionary is no member of a set, and a number
that is not zero has no prefix. -/
def renameBody (s : Handles) (P : PrivateNodeIds) (nodeId : String) (fields : Fields) : Response :=
  match lookup "node_id" fields with
  | none => .ok (.dict fields)
  | some bodyId =>
      let rest := fields.filter fun field => decide (field.1 ≠ "node_id")
      if nodeId ≠ "" then
        if withheld P nodeId then .notFound else .ok (.dict (put "node_ref" (identityJson s nodeId) rest))
      else match bodyId with
        | .str named => if withheld P named then .notFound else .ok (.dict (put "node_ref" (identityJson s named) rest))
        | .list _ | .dict _ => .raised
        | other => if other.truthy then .raised else .ok (.dict (put "node_ref" .null rest))

/-- `s` and `s'` are the handles when the key is resolved and when the body is renamed. -/
def downloadArchiveFile (a : ArchiveTree β) (r : Reader β) (s s' : Handles) (policy : Option PrivateNodeIds) (key : Text) :
    Response :=
  match policy with
  | none => .unavailable
  | some P => match storedKey s key with
    | none => .notFound
    | some (stored, nodeId) =>
        if withheld P nodeId then .notFound
        else match readArchivedFile a r stored with
          | none => .notFound
          | some none => .raised
          | some (some (.dict fields)) => renameBody s' P nodeId fields
          | some (some other) => .ok other

/-- The entries of a page, each with its key as it is published. -/
def publishListed (P : PrivateNodeIds) (s : Handles) (files : List (Text × μ)) : List (Text × μ) :=
  files.filterMap fun f =>
    if withheld P (String.ofList (keyNodeId f.1)) then none else (publishedKey s f.1).map fun key => (key, f.2)

/-- `listed` is `list_archived_files` for the date and the page asked for, of one node or of all. -/
def listArchive (policy : Option PrivateNodeIds) (s : Handles) (nodeRef : String) (listed : Option String → List (Text × μ)) :
    Option (List (Text × μ)) :=
  policy.map fun P =>
    if nodeRef = "" then publishListed P s (listed none)
    else match idForIdentity s nodeRef with
      | none => []
      | some nodeId => if withheld P nodeId then [] else publishListed P s (listed (some nodeId))

/-! ### Segments -/

theorem segments_ne_nil (text : Text) : segments text ≠ [] := List.splitOn_ne_nil _ _

theorem slash_free_of_segments (listed : c ∈ segments text) : '/' ∉ c := by
  induction text generalizing c with
  | nil =>
    rw [segments, List.splitOn_nil, List.mem_singleton] at listed
    rw [listed]
    exact List.not_mem_nil
  | cons x text ih =>
    rw [segments, List.splitOn_cons_eq_if_modifyHead] at listed
    obtain ⟨first, rest, parts⟩ := List.exists_cons_of_ne_nil (segments_ne_nil text)
    rw [segments] at parts
    rw [parts] at listed
    have inner : ∀ c' ∈ first :: rest, '/' ∉ c' := fun c' inside => ih (by rw [segments, parts]; exact inside)
    split at listed
    · rcases List.mem_cons.mp listed with rfl | later
      · exact List.not_mem_nil
      · exact inner c later
    · rename_i other
      rw [List.modifyHead_cons] at listed
      rcases List.mem_cons.mp listed with rfl | later
      · intro slash
        rcases List.mem_cons.mp slash with same | inside
        · exact other (by rw [same]; exact beq_self_eq_true _)
        · exact inner first List.mem_cons_self inside
      · exact inner c (List.mem_cons_of_mem _ later)

theorem segments_joinSegments (free : ∀ c ∈ place, '/' ∉ c) (proper : place ≠ []) : segments (joinSegments place) = place :=
  List.splitOn_intercalate '/' free proper

/-- The segments of a key are those of what is left without the slashes around it, and blanks. -/
theorem filter_segments_strip (key : Text) :
    (segments key).filter (· ≠ []) = (segments (stripSlashes key)).filter (· ≠ []) := by
  have front (key : Text) : (segments key).filter (· ≠ []) =
      (segments (key.dropWhile fun c => decide (c = '/'))).filter (· ≠ []) := by
    induction key with
    | nil => rfl
    | cons x key ih =>
      by_cases slash : x = '/'
      · rw [List.dropWhile_cons_of_pos (by simpa using slash), ← ih, slash, segments,
          show '/' :: key = [] ++ '/' :: key from rfl, List.splitOn_append_cons_self_of_not_mem List.not_mem_nil]
        rfl
      · rw [List.dropWhile_cons_of_neg (by simpa using slash)]
  rw [front key, stripSlashes]
  generalize key.dropWhile (fun c => decide (c = '/')) = text
  induction text using List.reverseRecOn with
  | nil => rfl
  | append_singleton text x ih =>
    by_cases slash : x = '/'
    · rw [List.rdropWhile_concat_pos _ _ _ (by simpa using slash), ← ih, slash, segments,
        show text ++ ['/'] = text ++ '/' :: [] from rfl, List.splitOn_append_cons_self, List.splitOn_nil, List.filter_append]
      exact List.append_nil _
    · rw [List.rdropWhile_concat_neg _ _ _ (by simpa using slash)]

theorem keyParts_eq_some (parts : keyParts key = some (front, node, last)) :
    segments (stripSlashes key) = front ++ [node, last] := by
  rw [keyParts] at parts
  split at parts
  · rename_i last' node' front' reversed
    cases Option.some.inj parts
    rw [← List.reverse_reverse (segments _), reversed]
    simp
  · cases parts

theorem keyParts_eq_none (parts : keyParts key = none) : ((segments key).filter (· ≠ [])).length ≤ 1 := by
  rw [filter_segments_strip]
  refine (List.length_filter_le _ _).trans ?_
  rw [← List.length_reverse]
  rw [keyParts] at parts
  split at parts
  · cases parts
  · rename_i short
    match listed : (segments (stripSlashes key)).reverse with
    | [] => simp
    | [_] => simp
    | last :: node :: front => exact absurd listed (short last node front)

theorem joinSegments_cons (c : Text) (proper : rest ≠ []) : joinSegments (c :: rest) = c ++ '/' :: joinSegments rest := by
  obtain ⟨next, rest, rfl⟩ := List.exists_cons_of_ne_nil proper
  rw [joinSegments, List.intercalate_cons_cons, List.append_assoc]
  rfl

theorem suffix_joinSegments (front : List Text) (last : Text) : last <:+ joinSegments (front ++ [last]) := by
  induction front with
  | nil =>
    rw [List.nil_append, joinSegments, List.intercalate_singleton]
  | cons c front ih =>
    rw [List.cons_append, joinSegments_cons c (by simp)]
    exact ih.trans ((List.suffix_cons _ _).trans (List.suffix_append _ _))

theorem stripSlashes_eq_self {text : Text} (opens : text.head? ≠ some '/') (ends : text.getLast? ≠ some '/') : stripSlashes text = text := by
  have front : text.dropWhile (fun c => decide (c = '/')) = text := by
    cases text with
    | nil => rfl
    | cons x rest => exact List.dropWhile_cons_of_neg (by simpa using fun same : x = '/' => opens (by rw [same]; rfl))
  rw [stripSlashes, front, List.rdropWhile_eq_self_iff]
  intro proper slash
  exact ends (by rw [List.getLast?_eq_some_getLast proper, of_decide_eq_true slash])

theorem head?_joinSegments (named : c ≠ []) : (joinSegments (c :: rest)).head? = c.head? := by
  cases rest with
  | nil => rw [joinSegments, List.intercalate_singleton]
  | cons next rest => rw [joinSegments_cons _ (by simp), List.head?_append_of_ne_nil _ named]

/-- A text of segments that begins and ends with one that is not empty has no slashes around it. -/
theorem stripSlashes_joinSegments (free : ∀ c ∈ place, '/' ∉ c) (named : ∀ c ∈ place, c ≠ []) :
    stripSlashes (joinSegments place) = joinSegments place := by
  cases place using List.reverseRecOn with
  | nil => rfl
  | append_singleton front last =>
    have inside : last ∈ front ++ [last] := by simp
    refine stripSlashes_eq_self (fun opens => ?_) fun ends => ?_
    · obtain ⟨c, rest, parts⟩ := List.exists_cons_of_ne_nil (show front ++ [last] ≠ [] by simp)
      rw [parts] at opens free named
      rw [head?_joinSegments (named c List.mem_cons_self)] at opens
      exact free c List.mem_cons_self (List.mem_of_mem_head? opens)
    · obtain ⟨before, same⟩ := suffix_joinSegments front last
      rw [← same, List.getLast?_append_of_ne_nil _ (named last inside)] at ends
      exact free last inside (List.mem_of_getLast? ends)

theorem keyParts_join (free : ∀ c ∈ front ++ [node, last], '/' ∉ c) (named : ∀ c ∈ front ++ [node, last], c ≠ []) :
    keyParts (joinSegments (front ++ [node, last])) = some (front, node, last) := by
  rw [keyParts, stripSlashes_joinSegments free named, segments_joinSegments free (by simp)]
  simp

/-! ### What is served -/

/-- The file lies in a directory of the node, of either layout. -/
def FiledUnder (nodeId : String) (place : List Text) : Prop :=
  ∃ above x, place = above ++ [storedHive ++ nodeId.toList, x] ∨ place = above ++ [nodeId.toList, x]

/-- An id that no path or partition name is made of. -/
structure Plain (nodeId : String) : Prop where
  named : nodeId ≠ ""
  slash : '/' ∉ nodeId.toList
  equals : '=' ∉ nodeId.toList
  dots : nodeId.toList ≠ ['.'] ∧ nodeId.toList ≠ ['.', '.']

/-- The nodes that a handle leads to have plain ids. -/
structure PlainNodes (s : Handles) : Prop where
  registered : ∀ ref n, s.reverse.get? ref = some n → Plain n
  mirrored : ∀ n ref, s.connected.get? n = some (some ref) → Plain n

theorem idForIdentity_cases {s : Handles} (plain : PlainNodes s) (found : idForIdentity s identity = some n) :
    (isSyntheticNode n = true ∧ n = identity) ∨ Plain n := by
  rw [idForIdentity] at found
  split at found
  · cases found
  split at found
  · rename_i synthetic
    cases Option.some.inj found
    exact .inl ⟨synthetic, rfl⟩
  · refine .inr ?_
    rw [Option.or_eq_some_iff] at found
    rcases found with registered | ⟨-, mirrored⟩
    · rw [idForRef] at registered
      split at registered
      · cases registered
      · exact plain.registered _ _ registered
    · rw [mirroredId, Option.map_eq_some_iff] at mirrored
      obtain ⟨item, met, rfl⟩ := mirrored
      have holds := List.find?_some met
      rw [Bool.and_eq_true, decide_eq_true_eq, Option.map_eq_some_iff] at holds
      obtain ⟨⟨ref, sent, -⟩, -⟩ := holds
      have listed := (Dict.get?_eq_some_iff _ _ _).mpr (List.mem_of_find?_eq_some met)
      rw [sent] at listed
      exact plain.mirrored _ _ listed

theorem synthetic_head (synthetic : isSyntheticNode n = true) : n.toList.head? ≠ some '.' ∧ n ≠ "" := by
  simp only [isSyntheticNode, SYNTHETIC_NODE_PREFIXES, List.any_cons, List.any_nil, Bool.or_false, Bool.or_eq_true,
    List.isPrefixOf_iff_prefix] at synthetic
  constructor
  · intro dot
    rcases synthetic with ⟨tail, same⟩ | ⟨tail, same⟩ | ⟨tail, same⟩ | ⟨tail, same⟩ <;> simp [← same] at dot
  · rintro rfl
    rcases synthetic with under | under | under | under <;> simp at under

theorem isName_hive (free : '/' ∉ n) : IsName (storedHive ++ n) := by
  have head : (storedHive ++ n).head? = some 'n' := rfl
  refine ⟨fun empty => ?_, fun dot => ?_, fun dots => ?_, fun slash => (List.mem_append.mp slash).elim (by decide) free⟩
  · rw [empty] at head
    cases head
  · rw [dot] at head
    cases head
  · rw [dots] at head
    cases head

theorem storedKey_parts {s : Handles} (plain : PlainNodes s) (parts : keyParts key = some (front, node, last))
    (found : storedKey s key = some (stored, n)) :
    n ≠ "" ∧ ∃ hive, stored = joinSegments (front ++ [hiveSegment storedHive hive n.toList, last]) ∧ IsName (hiveSegment storedHive hive n.toList) ∧
      (hive = false → '=' ∉ n.toList) ∧ '/' ∉ n.toList := by
  have listed : node ∈ segments (stripSlashes key) := by
    rw [keyParts_eq_some parts]
    simp
  have free := slash_free_of_segments listed
  rw [storedKey, parts] at found
  dsimp only at found
  split at found
  · cases found
  rename_i allowed
  obtain ⟨n', resolved, same⟩ := Option.map_eq_some_iff.mp found
  cases same
  have free_value : '/' ∉ removePrefix publishedHive node := by
    rw [removePrefix]
    split
    · exact fun slash => free (List.mem_of_mem_drop slash)
    · exact free
  rcases idForIdentity_cases plain resolved with ⟨synthetic, own⟩ | plain
  · have head := synthetic_head synthetic
    have text : n.toList = removePrefix publishedHive node := by rw [own, String.toList_ofList]
    have slash : '/' ∉ n.toList := text ▸ free_value
    refine ⟨head.2, publishedHive.isPrefixOf node, rfl, ?_, fun bare => ?_, slash⟩
    · rw [hiveSegment]
      split
      · exact isName_hive slash
      · refine ⟨fun empty => head.2 (String.toList_inj.mp (empty.trans rfl)), fun dot => head.1 (by rw [dot]; rfl),
          fun dots => head.1 (by rw [dots]; rfl), slash⟩
    · rw [text, removePrefix, if_neg (by rw [bare]; exact Bool.false_ne_true)]
      exact fun equals => allowed ⟨equals, bare⟩
  · refine ⟨plain.named, publishedHive.isPrefixOf node, rfl, ?_, fun _ => plain.equals, plain.slash⟩
    rw [hiveSegment]
    split
    · exact isName_hive plain.slash
    · exact ⟨fun empty => plain.named (String.toList_inj.mp (empty.trans rfl)), plain.dots.1, plain.dots.2, plain.slash⟩

theorem segments_joinPath (a : ArchiveTree β) (key : Text) :
    segments (joinPath a.base key) = segments key ∨ segments (joinPath a.base key) = [] :: (a.base ++ segments key) := by
  rw [joinPath]
  split
  · exact .inl rfl
  · exact .inr (segments_render_append a.base (fun c listed => (a.named c listed).2.2.2) key)

/-- What is read lies below the archive's directory. -/
theorem readArchivedFile_place {a : ArchiveTree β} {r : Reader β} (read : readArchivedFile a r key = some answer) :
    ∃ place content, place ≠ [] ∧ a.tree.resolve (joinPath a.base key) = some (a.base ++ place) ∧
      a.tree.fileAt (a.base ++ place) = some content ∧ answer = r.parse key content := by
  rw [readArchivedFile] at read
  split at read
  · cases read
  rename_i content found
  split at read
  · rename_i guarded
    obtain ⟨full, resolved, held⟩ := Option.bind_eq_some_iff.mp found
    have entry : a.tree.entries full ≠ none := by
      intro absent
      rw [FileTree.Tree.fileAt, absent] at held
      cases held
    rw [List.isPrefixOf_iff_prefix, realpath, normalize_of_walk resolved] at guarded
    obtain ⟨place, proper, rfl⟩ := below_of_render_prefix (fun c listed => (a.named c listed).2.2.2)
      (fun c listed => (names_of_entries entry c listed).2.2.2) guarded
    exact ⟨place, content, proper, resolved, held, (Option.some.inj read).symm⟩
  · cases read

/-- A key without a node segment leads to a file of the archive's own directory. -/
theorem place_length {a : ArchiveTree β} (parts : keyParts key = none)
    (resolved : a.tree.resolve (joinPath a.base key) = some (a.base ++ place)) : place.length ≤ 1 := by
  have short := keyParts_eq_none parts
  have bound := length_normalize [] (segments (joinPath a.base key))
  rw [normalize_of_walk resolved, List.length_append, List.length_nil, Nat.zero_add] at bound
  have proper := List.length_pos_iff.mpr a.proper
  rcases segments_joinPath a key with same | same
  · rw [same] at bound
    omega
  · have base := List.length_filter_le (fun c => decide (c ≠ [])) a.base
    rw [same, List.filter_cons_of_neg (by simp), List.filter_append, List.length_append] at bound
    omega

theorem append_pair_inj (same : above ++ [d, x] = above' ++ [d', x']) : d = d' := by
  have reversed := congrArg List.reverse same
  simp only [List.reverse_append, List.reverse_cons, List.reverse_nil, List.nil_append, List.cons_append, List.cons.injEq] at reversed
  exact reversed.2.1

/-- No file of a node that is withheld is reached under the key of another. -/
theorem not_filedUnder {a : ArchiveTree β} {s : Handles} {P : PrivateNodeIds} (plain : PlainNodes s)
    (found : storedKey s key = some (stored, n)) (spared : withheld P n = false)
    (resolved : a.tree.resolve (joinPath a.base stored) = some (a.base ++ place)) (held : a.tree.fileAt (a.base ++ place) ≠ none)
    (hidden : P.contains m = true) (equals : '=' ∉ m.1.toList) : ¬ FiledUnder m.1 place := by
  rintro ⟨above, x, filed⟩
  cases parts : keyParts key with
  | none =>
    rw [storedKey, parts] at found
    cases Option.some.inj found
    have short := place_length parts resolved
    rcases filed with rfl | rfl <;> simp at short
  | some found_parts =>
    obtain ⟨front, node, last⟩ := found_parts
    obtain ⟨named, hive, rfl, name, bare, slash⟩ := storedKey_parts plain parts found
    have free : ∀ c ∈ front ++ [hiveSegment storedHive hive n.toList, last], '/' ∉ c := by
      have inner : ∀ c ∈ front ++ [node, last], '/' ∉ c := fun c listed =>
        slash_free_of_segments (show c ∈ segments (stripSlashes key) by rw [keyParts_eq_some parts]; exact listed)
      intro c listed
      rcases List.mem_append.mp listed with before | after
      · exact inner c (List.mem_append_left _ before)
      · rcases List.mem_cons.mp after with rfl | last_one
        · exact name.2.2.2
        · exact inner c (List.mem_append_right _ (List.mem_cons_of_mem _ last_one))
    obtain ⟨front', ends⟩ : ∃ front', segments (joinPath a.base (joinSegments (front ++ [hiveSegment storedHive hive n.toList, last]))) =
        front' ++ [hiveSegment storedHive hive n.toList, last] := by
      rcases segments_joinPath a (joinSegments (front ++ [hiveSegment storedHive hive n.toList, last])) with same | same
      · exact ⟨front, by rw [same, segments_joinSegments free (by simp)]⟩
      · exact ⟨[] :: (a.base ++ front), by rw [same, segments_joinSegments free (by simp)]; simp⟩
    rw [FileTree.Tree.resolve, ends] at resolved
    obtain ⟨reached, -, same, -⟩ := walk_last_two resolved held name
    have spared_other : n ≠ m.1 := by
      rintro rfl
      rw [withheld, dif_pos named] at spared
      rw [hidden] at spared
      cases spared
    rcases filed with rfl | rfl
    · rw [← List.append_assoc] at same
      have directory := append_pair_inj same
      cases hive with
      | true => exact spared_other (String.toList_inj.mp (List.append_cancel_left directory).symm)
      | false =>
        refine bare rfl ?_
        rw [show n.toList = storedHive ++ m.1.toList from directory.symm]
        exact List.mem_append_left _ (by decide)
    · rw [← List.append_assoc] at same
      have directory := append_pair_inj same
      cases hive with
      | true =>
        refine equals ?_
        rw [show m.1.toList = storedHive ++ n.toList from directory]
        exact List.mem_append_left _ (by decide)
      | false => exact spared_other (String.toList_inj.mp directory.symm)

theorem renameBody_dict (s : Handles) (P : PrivateNodeIds) (nodeId : String) (fields : Fields)
    (renamed : renameBody s P nodeId fields = .ok data) : ∃ out, data = .dict out ∧ lookup "node_id" out = none := by
  have dropped (value : Json) : lookup "node_id" (put "node_ref" value (fields.filter fun field => decide (field.1 ≠ "node_id"))) = none := by
    rw [OrderedDict.lookup_put, if_neg (by decide), OrderedDict.lookup_eq_none_iff]
    intro listed
    obtain ⟨field, kept, same⟩ := List.mem_map.mp listed
    exact of_decide_eq_true (List.mem_filter.mp kept).2 same
  rw [renameBody] at renamed
  split at renamed
  · rename_i absent
    cases renamed
    exact ⟨fields, rfl, absent⟩
  dsimp only at renamed
  split at renamed
  · split at renamed
    · cases renamed
    · cases renamed
      exact ⟨_, rfl, dropped _⟩
  split at renamed
  · split at renamed
    · cases renamed
    · cases renamed
      exact ⟨_, rfl, dropped _⟩
  · cases renamed
  · cases renamed
  · split at renamed
    · cases renamed
    · cases renamed
      exact ⟨_, rfl, dropped _⟩

theorem renameBody_spares {s : Handles} {P : PrivateNodeIds} {fields : Fields} (renamed : renameBody s P "" fields = .ok data)
    (hidden : P.contains m = true) : lookup "node_id" fields ≠ some (.str m.1) := by
  intro body
  have kept : withheld P m.1 = true := by
    rw [withheld, dif_pos m.2]
    exact hidden
  simp [renameBody, body, kept] at renamed

/-- A directory of a private node is on the way. -/
def Touches (P : PrivateNodeIds) (place : List Text) : Prop :=
  ∃ m, P.contains m = true ∧ (storedHive ++ m.1.toList ∈ place ∨ m.1.toList ∈ place)

/-- The stores differ in the directories of private nodes only. -/
structure SamePublic (P : PrivateNodeIds) (a a' : ArchiveTree β) : Prop where
  base : a'.base = a.base
  entries : ∀ full, (∃ place, full = a.base ++ place ∧ Touches P place) ∨ a'.tree.entries full = a.tree.entries full

/-- The directories of private nodes hold their files and no directories. -/
structure Partitioned (P : PrivateNodeIds) (a : ArchiveTree β) : Prop where
  flat : ∀ m, P.contains m = true → ∀ d, d = storedHive ++ m.1.toList ∨ d = m.1.toList → ∀ above below content,
    a.tree.fileAt (a.base ++ (above ++ d :: below)) = some content → below.length = 1

theorem SamePublic.symm {P : PrivateNodeIds} {a a' : ArchiveTree β} (same : SamePublic P a a') : SamePublic P a' a :=
  ⟨same.base.symm, fun full => by
    rw [same.base]
    exact (same.entries full).imp id Eq.symm⟩

theorem filedUnder_of_touches {P : PrivateNodeIds} {a : ArchiveTree β} (parted : Partitioned P a) (touches : Touches P place)
    (held : a.tree.fileAt (a.base ++ (place ++ below)) = some content) :
    ∃ m, P.contains m = true ∧ FiledUnder m.1 (place ++ below) := by
  obtain ⟨m, hidden, directory⟩ := touches
  obtain ⟨d, which, listed⟩ : ∃ d, (d = storedHive ++ m.1.toList ∨ d = m.1.toList) ∧ d ∈ place := by
    rcases directory with hive | bare
    · exact ⟨_, .inl rfl, hive⟩
    · exact ⟨_, .inr rfl, bare⟩
  obtain ⟨above, rest, rfl⟩ := List.append_of_mem listed
  rw [List.append_assoc, List.cons_append] at held
  obtain ⟨x, one⟩ := List.length_eq_one_iff.mp (parted.flat m hidden d which above _ content held)
  refine ⟨m, hidden, above, x, ?_⟩
  rw [List.append_assoc, List.cons_append, one]
  rcases which with rfl | rfl
  · exact .inl rfl
  · exact .inr rfl

/-- What is read of one store outside the private directories is read of the other. -/
theorem read_of_same {P : PrivateNodeIds} {a a' : ArchiveTree β} {r : Reader β} (same : SamePublic P a a')
    (parted : Partitioned P a) (down : ['.', '.'] ∉ segments key)
    (spares : ∀ place, a.tree.resolve (joinPath a.base key) = some (a.base ++ place) → a.tree.fileAt (a.base ++ place) ≠ none →
      ∀ m, P.contains m = true → ¬ FiledUnder m.1 place)
    (read : readArchivedFile a r key = some answer) : readArchivedFile a' r key = some answer := by
  obtain ⟨place, content, proper, resolved, held, parsed⟩ := readArchivedFile_place read
  have down' : ['.', '.'] ∉ segments (joinPath a.base key) := by
    rcases segments_joinPath a key with plain | joined
    · rwa [plain]
    · rw [joined]
      intro listed
      rcases List.mem_cons.mp listed with blank | listed
      · cases blank
      rcases List.mem_append.mp listed with above | later
      · exact (a.named _ above).2.2.1 rfl
      · exact down later
  have agree (above below : List Text) (parts : a.base ++ place = above ++ below) : a'.tree.entries above = a.tree.entries above := by
    refine (same.entries above).resolve_left ?_
    rintro ⟨inner, rfl, touches⟩
    rw [List.append_assoc] at parts
    obtain rfl := List.append_cancel_left parts
    obtain ⟨m, hidden, filed⟩ := filedUnder_of_touches parted touches held
    exact spares _ resolved (by rw [held]; exact Option.some_ne_none _) m hidden filed
  have there : a'.tree.read (joinPath a'.base key) = some content := by
    rw [FileTree.Tree.read, same.base, FileTree.Tree.resolve, walk_of_agree down' resolved agree, Option.bind_some,
      FileTree.Tree.fileAt, agree _ [] (List.append_nil _).symm]
    exact held
  have here : a.tree.read (joinPath a.base key) = some content := by
    rw [FileTree.Tree.read, resolved]
    exact held
  rw [readArchivedFile, here] at read
  rw [readArchivedFile, there, same.base]
  exact read

/-- A registered node, and another that is private. -/
def twoHandles : Handles :=
  { Handles.boot with
    forward := Dict.ofList [("ret1a2b3c4d", "nde4k2m9x7qp1zt"), ("ret0badcafe", "nde8w3c5v0rj6ha")]
    reverse := Dict.ofList [("nde4k2m9x7qp1zt", "ret1a2b3c4d"), ("nde8w3c5v0rj6ha", "ret0badcafe")] }

def onePrivate : PrivateNodeIds := .ofRegistered {⟨"ret0badcafe", by decide⟩}

def archiveBase : List Text := ["srv".toList, "archive".toList]
def publicPlace : List Text := archiveBase ++ ["node_id=ret1a2b3c4d".toList, "part.parquet".toList]
def privateDirectory : List Text := archiveBase ++ ["node_id=ret0badcafe".toList]

/-- The archive of the public node, with or without a directory of the private one. -/
def smallArchive (dirs : List (List Text)) (names : ∀ place ∈ [publicPlace] ++ dirs, ∀ c ∈ place, IsName c)
    (apart : publicPlace ≠ [] ∧ ∀ place ∈ [publicPlace] ++ dirs, publicPlace <+: place → place = publicPlace) : ArchiveTree ℕ where
  tree := .ofList [(publicPlace, 7)] dirs names (by simpa using apart)
  base := archiveBase
  proper := by decide
  named := by decide

def withoutPrivate : ArchiveTree ℕ := smallArchive [] (by decide) (by decide)
def withPrivate : ArchiveTree ℕ := smallArchive [privateDirectory] (by decide) (by decide)

def oneRow : Reader ℕ := ⟨fun _ => some (.dict [("node_id", .str "ret1a2b3c4d"), ("count", .int 1)]), fun _ => none⟩

def Response.isOk : Response → Bool
  | .ok _ => true
  | _ => false

theorem onePrivate_only (hidden : onePrivate.contains m = true) : m.1 = "ret0badcafe" := by
  have member : m ∈ ({⟨"ret0badcafe", by decide⟩} : Finset Ident) := by
    simpa [onePrivate, PrivateNodeIds.ofRegistered, PrivateNodeIds.contains] using hidden
  rw [Finset.mem_singleton.mp member]

theorem onePrivate_ids (m : Ident) (hidden : onePrivate.contains m = true) : '=' ∉ m.1.toList := by
  rw [onePrivate_only hidden]
  decide

theorem twoHandles_forward : twoHandles.forward.get? n = some ref ↔
    n = "ret1a2b3c4d" ∧ ref = "nde4k2m9x7qp1zt" ∨ n = "ret0badcafe" ∧ ref = "nde8w3c5v0rj6ha" := by
  rw [show twoHandles.forward = Dict.ofList [("ret1a2b3c4d", "nde4k2m9x7qp1zt"), ("ret0badcafe", "nde8w3c5v0rj6ha")] from rfl,
    Dict.get?_ofList_eq_some_iff _ (by decide)]
  simp

theorem twoHandles_reverse : twoHandles.reverse.get? ref = some n ↔
    n = "ret1a2b3c4d" ∧ ref = "nde4k2m9x7qp1zt" ∨ n = "ret0badcafe" ∧ ref = "nde8w3c5v0rj6ha" := by
  rw [show twoHandles.reverse = Dict.ofList [("nde4k2m9x7qp1zt", "ret1a2b3c4d"), ("nde8w3c5v0rj6ha", "ret0badcafe")] from rfl,
    Dict.get?_ofList_eq_some_iff _ (by decide)]
  simp [and_comm]

theorem twoHandles_plain : PlainNodes twoHandles where
  registered ref n found := by
    rcases twoHandles_reverse.mp found with ⟨rfl, -⟩ | ⟨rfl, -⟩ <;> exact ⟨by decide, by decide, by decide, by decide⟩
  mirrored n ref found := by cases found

theorem twoHandles_consistent : Consistent twoHandles where
  inverse r n := by rw [twoHandles_reverse, twoHandles_forward]
  shaped n r found := by rcases twoHandles_forward.mp found with ⟨-, rfl⟩ | ⟨-, rfl⟩ <;> decide
  named := by decide
  distinct n n' ref found := by cases found
  apart m ref _ _ _ found := by cases found

theorem smallArchive_files {dirs : List (List Text)} {names apart}
    (held : (smallArchive dirs names apart).tree.fileAt full = some content) : full = publicPlace := by
  simp only [smallArchive, FileTree.Tree.ofList, FileTree.Tree.fileAt] at held
  split at held
  · rename_i entry
    split at entry
    · rename_i file found
      have same := List.find?_some found
      rw [List.mem_singleton.mp (List.mem_of_find?_eq_some found)] at same
      exact (of_decide_eq_true same).symm
    · split at entry <;> cases entry
  · cases held

theorem smallArchive_partitioned (dirs : List (List Text)) (names apart) :
    Partitioned onePrivate (smallArchive dirs names apart) where
  flat m hidden d which above below content held := by
    have inside : d ∈ ["node_id=ret1a2b3c4d".toList, "part.parquet".toList] := by
      have same : archiveBase ++ (above ++ d :: below) = archiveBase ++ ["node_id=ret1a2b3c4d".toList, "part.parquet".toList] :=
        smallArchive_files held
      rw [← List.append_cancel_left same]
      simp
    rw [onePrivate_only hidden] at which
    rcases which with rfl | rfl <;> exact absurd inside (by decide)

theorem samePublic_small : SamePublic onePrivate withPrivate withoutPrivate where
  base := rfl
  entries full := by
    by_cases directory : full = privateDirectory
    · exact .inl ⟨["node_id=ret0badcafe".toList], directory, ⟨"ret0badcafe", by decide⟩, by decide +kernel, by decide⟩
    · refine .inr ?_
      have above (under : full <+: privateDirectory) : full <+: publicPlace := by
        rcases List.prefix_concat_iff.mp (show full <+: archiveBase ++ ["node_id=ret0badcafe".toList] from under) with same | short
        · exact absurd same directory
        · exact short.trans (List.prefix_append _ _)
      simp only [withPrivate, withoutPrivate, smallArchive, FileTree.Tree.ofList]
      split
      · rfl
      · by_cases under : full <+: publicPlace
        · simp [List.isPrefixOf_iff_prefix, under]
        · have outside : ¬ full <+: privateDirectory := fun inner => under (above inner)
          simp [List.isPrefixOf_iff_prefix, under, outside]

/-- With `..` a key tells whether a private node has a directory. -/
theorem dots_reveal_directory :
    let key := "node_id=ret0badcafe/../node_ref=nde4k2m9x7qp1zt/part.parquet".toList
    (downloadArchiveFile withPrivate oneRow twoHandles twoHandles (some onePrivate) key).isOk = true ∧
      (downloadArchiveFile withoutPrivate oneRow twoHandles twoHandles (some onePrivate) key).isOk = false := by
  decide +kernel

/-! ### From the listing to the file -/

theorem isNodeRef_free (shaped : isNodeRef ref = true) : ref ≠ "" ∧ '/' ∉ ref.toList ∧ '=' ∉ ref.toList := by
  simp only [isNodeRef, Bool.and_eq_true, beq_iff_eq, Bool.or_eq_true, List.isPrefixOf_iff_prefix] at shaped
  obtain ⟨⟨length, head⟩, tail⟩ := shaped
  have parts : ref.toList = ref.toList.take 3 ++ ref.toList.drop 3 := (List.take_append_drop 3 _).symm
  have front : ref.toList.take 3 = "nde".toList ∨ ref.toList.take 3 = "sim".toList := by
    rcases head with ⟨rest, same⟩ | ⟨rest, same⟩
    · exact .inl (by rw [← same]; rfl)
    · exact .inr (by rw [← same]; rfl)
  have free (c : Char) (odd : c.isDigit = false ∧ c.isLower = false) (apart : c ∉ "nde".toList ∧ c ∉ "sim".toList) : c ∉ ref.toList := by
    rw [parts, List.mem_append]
    rintro (before | after)
    · rcases front with same | same
      · exact apart.1 (same ▸ before)
      · exact apart.2 (same ▸ before)
    · have kept := List.all_eq_true.mp tail c after
      rw [odd.1, odd.2] at kept
      cases kept
  refine ⟨?_, free '/' (by decide) (by decide), free '=' (by decide) (by decide)⟩
  rintro rfl
  cases length

theorem publicIdentity_shape {s : Handles} (consistent : Consistent s) (published : publicIdentity s n = some ref) :
    ref = n ∨ isNodeRef ref = true := by
  obtain ⟨-, ⟨-, same⟩ | ⟨-, row | ⟨-, sent, -, rfl⟩⟩⟩ := publicIdentity_cases published
  · exact .inl same
  · exact .inr (consistent.shaped n ref row)
  · exact .inr sent.2

/-- A node's directory, of one layout or the other. -/
def Layout (d : Text) : Prop := storedHive.isPrefixOf d = true ∨ '=' ∉ d

/-- What is made of a segment that was put together. -/
theorem read_hiveSegment (p : Text) (equals : '=' ∈ p) (bare : hive = false → '=' ∉ value) :
    p.isPrefixOf (hiveSegment p hive value) = hive ∧ removePrefix p (hiveSegment p hive value) = value := by
  cases hive with
  | true =>
    have under : p.isPrefixOf (p ++ value) = true := List.isPrefixOf_iff_prefix.mpr (List.prefix_append _ _)
    exact ⟨under, by rw [hiveSegment, if_pos rfl, removePrefix, if_pos under]; exact List.drop_left⟩
  | false =>
    have apart : p.isPrefixOf value = false :=
      Bool.eq_false_iff.mpr fun under => bare rfl ((List.isPrefixOf_iff_prefix.mp under).subset equals)
    exact ⟨apart, by rw [hiveSegment, if_neg Bool.false_ne_true, removePrefix, if_neg (by rw [apart]; exact Bool.false_ne_true)]⟩

theorem partitionValue_hiveSegment (bare : hive = false → '=' ∉ value) : partitionValue (hiveSegment storedHive hive value) = value := by
  cases hive with
  | true => exact if_pos (List.mem_append_left _ (by decide))
  | false => exact if_neg (bare rfl)

theorem slash_free_hiveSegment (p : Text) (hive : Bool) (under : '/' ∉ p) (free : '/' ∉ value) : '/' ∉ hiveSegment p hive value := by
  rw [hiveSegment]
  split
  · exact fun inside => (List.mem_append.mp inside).elim under free
  · exact free

/-- A stored key that is published leads back to itself, and to the node that its listing was checked for. -/
theorem storedKey_publishedKey {s : Handles} (consistent : Consistent s) (names : ∀ c ∈ front ++ [d, last], IsName c)
    (layout : Layout d) (published : publishedKey s (joinSegments (front ++ [d, last])) = some key) :
    storedKey s key = some (joinSegments (front ++ [d, last]), String.ofList (partitionValue d)) := by
  have parts := keyParts_join (fun c listed => (names c listed).2.2.2) (fun c listed => (names c listed).1)
  obtain ⟨hive, value, rfl, bare⟩ : ∃ hive value, d = hiveSegment storedHive hive value ∧ (hive = false → '=' ∉ value) := by
    rcases layout with under | plain
    · obtain ⟨value, rfl⟩ := List.isPrefixOf_iff_prefix.mp under
      exact ⟨true, value, rfl, fun no => by cases no⟩
    · exact ⟨false, d, rfl, fun _ => plain⟩
  obtain ⟨is_hive, stripped⟩ := read_hiveSegment storedHive (by decide) bare
  rw [publishedKey, parts] at published
  dsimp only at published
  rw [stripped, is_hive] at published
  obtain ⟨ref, identity, rfl⟩ := Option.map_eq_some_iff.mp published
  have slash : '/' ∉ value := by
    have whole := (names (hiveSegment storedHive hive value) (by simp)).2.2.2
    rw [hiveSegment] at whole
    split at whole
    · exact fun inside => whole (List.mem_append_right _ inside)
    · exact whole
  have free : ref ≠ "" ∧ '/' ∉ ref.toList ∧ (hive = false → '=' ∉ ref.toList) := by
    rcases publicIdentity_shape consistent identity with rfl | node
    · rw [String.toList_ofList]
      exact ⟨(publicIdentity_cases identity).1, slash, bare⟩
    · exact ⟨(isNodeRef_free node).1, (isNodeRef_free node).2.1, fun _ => (isNodeRef_free node).2.2⟩
  obtain ⟨is_hive', stripped'⟩ := read_hiveSegment publishedHive (by decide) free.2.2
  have parts' : keyParts (joinSegments (front ++ [hiveSegment publishedHive hive ref.toList, last])) =
      some (front, hiveSegment publishedHive hive ref.toList, last) := by
    have each : ∀ c ∈ front ++ [hiveSegment publishedHive hive ref.toList, last], '/' ∉ c ∧ c ≠ [] := by
      intro c listed
      have other (listed : c ∈ front ∨ c = last) : '/' ∉ c ∧ c ≠ [] :=
        have name := names c (by rcases listed with before | rfl <;> simp [*])
        ⟨name.2.2.2, name.1⟩
      rcases List.mem_append.mp listed with before | after
      · exact other (.inl before)
      rcases List.mem_cons.mp after with rfl | last_one
      · refine ⟨slash_free_hiveSegment _ _ (by decide) free.2.1, fun empty => ?_⟩
        rw [empty] at stripped'
        refine free.1 (String.toList_inj.mp ?_)
        rw [← stripped', removePrefix]
        split <;> rfl
      · exact other (.inr (List.mem_singleton.mp last_one))
    exact keyParts_join (fun c listed => (each c listed).1) fun c listed => (each c listed).2
  have allowed : ¬ ('=' ∈ hiveSegment publishedHive hive ref.toList ∧
      publishedHive.isPrefixOf (hiveSegment publishedHive hive ref.toList) = false) := by
    rintro ⟨inside, plain⟩
    obtain rfl : hive = false := is_hive'.symm.trans plain
    exact free.2.2 rfl inside
  rw [storedKey, parts']
  dsimp only
  rw [if_neg allowed, stripped', is_hive', String.ofList_toList, consistent.resolves identity, Option.map_some, String.toList_ofList,
    partitionValue_hiveSegment bare]

/-- A file of the archive is read under its own key. -/
theorem readArchivedFile_own (a : ArchiveTree β) (r : Reader β) (proper : place ≠ [])
    (held : a.tree.fileAt (a.base ++ place) = some content) :
    readArchivedFile a r (joinSegments place) = some (r.parse (joinSegments place) content) := by
  have entry : a.tree.entries (a.base ++ place) ≠ none := by
    intro absent
    rw [FileTree.Tree.fileAt, absent] at held
    cases held
  have names : ∀ c ∈ place, IsName c := fun c listed => names_of_entries entry c (List.mem_append_right _ listed)
  have relative : (joinSegments place).head? ≠ some '/' := by
    obtain ⟨c, rest, rfl⟩ := List.exists_cons_of_ne_nil proper
    obtain ⟨named, -, -, free⟩ := names c List.mem_cons_self
    rw [head?_joinSegments named]
    exact fun slash => free (List.mem_of_mem_head? slash)
  have joined : joinPath a.base (joinSegments place) = render a.base ++ '/' :: joinSegments place := if_neg relative
  have resolved : a.tree.resolve (joinPath a.base (joinSegments place)) = some (a.base ++ place) := by
    rw [FileTree.Tree.resolve, joined, segments_render_append a.base (fun c listed => (a.named c listed).2.2.2),
      segments_joinSegments (fun c listed => (names c listed).2.2.2) proper, FileTree.Tree.walk, a.tree.top]
    exact (if_pos (.inl rfl)).trans (walk_names (by rw [List.nil_append]; exact entry))
  have found : a.tree.read (joinPath a.base (joinSegments place)) = some content := by
    rw [FileTree.Tree.read, resolved]
    exact held
  have guarded : (render a.base ++ ['/']).isPrefixOf (realpath (joinPath a.base (joinSegments place))) = true := by
    rw [List.isPrefixOf_iff_prefix, realpath, normalize_of_walk resolved]
    exact render_prefix_of_below a.base proper
  rw [readArchivedFile, found]
  exact if_pos guarded

/-- The listing that a page comes from: keys of files of the archive, each in a node's directory of one layout or in the
archive's own. -/
def ListsFiles (a : ArchiveTree β) (files : List (Text × μ)) : Prop :=
  ∀ f ∈ files, ∃ place content, f.1 = joinSegments place ∧ place ≠ [] ∧ a.tree.fileAt (a.base ++ place) = some content ∧
    ∀ above d x, place = above ++ [d, x] → Layout d

theorem mem_publishListed {P : PrivateNodeIds} {s : Handles} {files : List (Text × μ)} (shown : entry ∈ publishListed P s files) :
    ∃ f ∈ files, withheld P (String.ofList (keyNodeId f.1)) = false ∧ publishedKey s f.1 = some entry.1 ∧ f.2 = entry.2 := by
  obtain ⟨f, listed, kept⟩ := List.mem_filterMap.mp shown
  split at kept
  · cases kept
  · rename_i spared
    obtain ⟨key, published, rfl⟩ := Option.map_eq_some_iff.mp kept
    exact ⟨f, listed, by simpa using spared, published, rfl⟩

end Retina.Archive
