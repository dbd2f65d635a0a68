import RetinaServer.Registry.Republication

/-! The payloads the refresh computes for unauthenticated clients: the node list, the
overlap summary, and the node analytics with the cross-node analysis. The list and the
summaries leave private nodes out. The overlaps and the cross-node analysis only ask for
a handle. -/
namespace Retina.Registry
open OrderedDict

abbrev Entries := List (String × Payload)

namespace Payload

/-- `bool(value)`. -/
def truthy : Payload → Bool
  | .scalar .null => false
  | .scalar (.bool b) => b
  | .scalar (.num x) => decide (x ≠ 0)
  | .str text => decide (text ≠ "")
  | .list items | .tuple items | .set items => !items.isEmpty
  | .dict entries => !entries.isEmpty

def isNull : Payload → Bool
  | .scalar .null => true
  | _ => false

def entries : Payload → Entries
  | .dict entries => entries
  | _ => []

end Payload

/-- `entries.get(key, default)`. -/
def field (entries : Entries) (key : String) (default : Payload) : Payload := (lookup key entries).getD default

/-- A pair of nodes the associator has looked at. -/
structure Zone where
  nodeA : String
  nodeB : String
  hasOverlap : Bool
  /-- The grid-point count and the gates. -/
  rest : Entries

/-- What one refresh reads. The functions rewrite a summary for a public client, place a
node and say whether it is placed. -/
structure Fleet where
  handles : Handles
  isPrivate : String → Bool
  connected : Dict String Entries
  summaries : Dict String Entries
  crossNode : Entries
  overlapSummary : List Zone
  nodeGeometries : List String
  fuzzEnabled : Bool
  publicNodeSummary : String → Entries → Entries
  publicLocationBlock : String → Entries → Payload
  positionStatus : Entries → String

variable (w : Fleet)

def Fleet.record (nodeId : String) : Entries := (w.connected.get? nodeId).getD []

/-- A handle that is not empty. -/
def Fleet.handle (nodeId : String) : Option String := (publicIdentity w.handles nodeId).filter fun ref => decide (ref ≠ "")

/-! ### Analytics -/

/-- `public_summaries`, `public_node_summaries` and the flag that goes on each. -/
def Fleet.publicSummaries : List (String × Entries) :=
  (w.summaries.items.filter fun item => !w.isPrivate item.1).map fun item =>
    (item.1, put "is_synthetic" (field (w.record item.1) "is_synthetic" (.scalar (.bool (isSyntheticNode item.1))))
      (w.publicNodeSummary item.1 item.2))

def Fleet.publicCrossNode : Entries :=
  if w.fuzzEnabled then put "coverage_suggestions" (.list []) w.crossNode else w.crossNode

structure Analytics where
  nodes : Entries
  crossNode : Payload

/-- Each entry names the handle it stands under. -/
def handlesPublished (published : Entries × Payload) : Analytics where
  nodes := published.1.map fun node => (node.1, .dict (put "node_ref" (.str node.1) node.2.entries))
  crossNode := published.2

def Fleet.analyticsOf (summaries : List (String × Entries)) : Analytics :=
  handlesPublished (publicAnalytics w.handles (summaries.map fun summary => (summary.1, .dict summary.2))
    (.dict w.publicCrossNode) w.summaries.keys)

def Fleet.realNode (nodeId : String) : Bool :=
  (w.connected.get? nodeId).any fun info => !(field info "is_synthetic" (.scalar (.bool true))).truthy

def Fleet.analytics : Analytics := w.analyticsOf w.publicSummaries

/-- The variant without synthetic nodes. -/
def Fleet.analyticsReal : Analytics := w.analyticsOf (w.publicSummaries.filter fun summary => w.realNode summary.1)

/-! ### The node list -/

/-- A string that is the private id of a node. -/
def Fleet.namesANode (value : String) : Bool :=
  !isSyntheticNode value && ((w.handles.forward.get? value).isSome || decide (value ∈ w.connected.keys))

/-- A name equal to a node's id gives way to the handle. -/
def Fleet.publicName (name : Payload) (fallback : String) : String :=
  match name with
  | .str text => if text = "" ∨ w.namesANode text then fallback else text
  | _ => fallback

def carrierHz (config : Entries) : Payload :=
  ((["fc_hz", "FC", "frequency"].map fun key => field config key (.scalar .null)).find? fun value => !value.isNull).getD
    (.scalar .null)

def Fleet.nodeEntry (ref nodeId : String) (info : Entries) : Payload :=
  let config := (field info "config" (.dict [])).entries
  let fs := field config "Fs" (.scalar .null)
  .dict [
    ("status", field info "status" (.scalar .null)),
    ("node_ref", .str ref),
    ("name", .str (w.publicName (field config "name" (.scalar .null)) ref)),
    ("config_hash", field info "config_hash" (.scalar .null)),
    ("last_heartbeat", field info "last_heartbeat" (.scalar .null)),
    ("peer", field info "peer" (.scalar .null)),
    ("is_synthetic", field info "is_synthetic" (.scalar (.bool (isSyntheticNode nodeId)))),
    ("capabilities", field info "capabilities" (.dict [])),
    ("frequency", carrierHz config),
    ("sample_rate", if fs.truthy then fs else field config "fs_hz" (.scalar .null)),
    ("location", w.publicLocationBlock nodeId config),
    ("position_status", .str (w.positionStatus config))]

/-- The nodes that are listed, under their handles. -/
def Fleet.publishedNodes : List (String × String × Entries) :=
  w.connected.items.filterMap fun item =>
    if w.isPrivate item.1 then none else (w.handle item.1).map fun ref => (ref, item.1, item.2)

structure NodeList where
  nodes : Entries
  connected : Nat
  total : Nat
  synthetic : Nat

def isDisconnected (info : Entries) : Bool :=
  match field info "status" (.scalar .null) with
  | .str status => decide (status = "disconnected")
  | _ => false

def Fleet.nodesData : NodeList where
  nodes := w.publishedNodes.foldl (fun out node => put node.1 (w.nodeEntry node.1 node.2.1 node.2.2) out) []
  connected := w.publishedNodes.countP fun node => !isDisconnected node.2.2
  total := w.publishedNodes.length
  synthetic := w.publishedNodes.countP fun node => (field node.2.2 "is_synthetic" (.scalar .null)).truthy

/-! ### The overlap summary -/

/-- A zone goes out only when both of its nodes have a handle. -/
def Fleet.publicZone (z : Zone) : Option Zone :=
  if z.hasOverlap then do
    let a ← publicIdentity w.handles z.nodeA
    let b ← publicIdentity w.handles z.nodeB
    return { z with nodeA := a, nodeB := b }
  else none

def Fleet.overlaps : List Zone := w.overlapSummary.filterMap w.publicZone

def Fleet.registeredNodes : List String := w.nodeGeometries.filterMap w.handle

/-! ### What a payload gives away -/

def Zone.Names (z : Zone) (ref : String) : Prop :=
  Within ref z.nodeA ∨ Within ref z.nodeB ∨ namesInEntries ref z.rest = true

def Analytics.Names (a : Analytics) (ref : String) : Prop :=
  namesInEntries ref a.nodes = true ∨ names ref a.crossNode = true

/-- The same fleet without the private nodes' records. -/
def Fleet.publicPart : Fleet := { w with connected := w.connected.filter fun nodeId _ => !w.isPrivate nodeId }

/-- No payload contains the public identity of a private node, and the node counts are those of the others. -/
structure Fleet.Undisclosed : Prop where
  counts : w.nodesData.connected = w.publicPart.nodesData.connected ∧ w.nodesData.total = w.publicPart.nodesData.total ∧
    w.nodesData.synthetic = w.publicPart.nodesData.synthetic
  payloads : ∀ p, w.isPrivate p = true → ∀ ref, publicIdentity w.handles p = some ref →
    namesInEntries ref w.nodesData.nodes = false ∧ (∀ z ∈ w.overlaps, ¬ z.Names ref) ∧
    (∀ shown ∈ w.registeredNodes, ¬ Within ref shown) ∧ ¬ w.analytics.Names ref ∧ ¬ w.analyticsReal.Names ref

/-- The items of a dictionary built item by item: a later one takes the place of an earlier one under its key. -/
def standing {α : Type} (items : List (String × α)) : List (String × α) :=
  items.foldl (fun out item => put item.1 item.2 out) []

def Fleet.vocab : Vocabulary := vocabulary w.handles w.summaries.keys

/-- The summaries that are published, each under its node's handle. -/
def Fleet.shownSummaries (summaries : List (String × Entries)) : List (String × String × Entries) :=
  standing (summaries.filterMap fun summary => (publicIdentity w.handles summary.1).bind fun ref =>
    (leavesOfEntries w.vocab (some summary.1) summary.2 []).map fun _ => (ref, summary.1, summary.2))

/-- The published summary holds the text: in its handle, or in a key or a string as it is republished. The
handle is written over whatever is republished as `node_ref`. -/
def Fleet.SummaryNames (ref' : String) (summary : String × String × Entries) : Prop :=
  (Within ref' "node_ref" ∨ Within ref' summary.1) ∨
  ∃ found, leavesOfEntries w.vocab (some summary.2.1) summary.2.2 [] = some found ∧
    ∃ entry ∈ found, entry.1 ≠ "node_ref" ∧ NamedBy w.vocab ref' (.key entry.2.1 :: entry.2.2)

/-- What keeps one private node's handle out of the payloads. -/
structure Fleet.Spares (ref : String) : Prop where
  nodeList : ∀ node ∈ standing w.publishedNodes,
    ¬ Within ref node.1 ∧ names ref (w.nodeEntry node.1 node.2.1 node.2.2) = false
  zones : ∀ z ∈ w.overlapSummary, z.hasOverlap = true → ∀ a b, publicIdentity w.handles z.nodeA = some a →
    publicIdentity w.handles z.nodeB = some b → ¬ Within ref a ∧ ¬ Within ref b ∧ namesInEntries ref z.rest = false
  registered : ∀ n ∈ w.nodeGeometries, ∀ shown, w.handle n = some shown → ¬ Within ref shown
  summaries : ∀ summary ∈ w.shownSummaries w.publicSummaries, ¬ w.SummaryNames ref summary
  summariesReal : ∀ summary ∈ w.shownSummaries (w.publicSummaries.filter fun s => w.realNode s.1),
    ¬ w.SummaryNames ref summary
  crossNode : ∀ leaf, Survives w.vocab none (.dict w.publicCrossNode) leaf → ¬ leaf.Names w.vocab ref

/-! ### Dictionaries built item by item -/

theorem map_put {α β : Type} (f : String → α → β) (key : String) (a : α) (items : List (String × α)) :
    (put key a items).map (fun item => (item.1, f item.1 item.2)) =
      put key (f key a) (items.map fun item => (item.1, f item.1 item.2)) := by
  induction items with
  | nil => rfl
  | cons item rest ih =>
    obtain ⟨key₀, a₀⟩ := item
    by_cases here : key₀ = key
    · simp [put, here]
    · simp [put, here, ih]

theorem map_foldl_put {α β : Type} (f : String → α → β) (items : List (String × α)) (out : List (String × α)) :
    (items.foldl (fun out item => put item.1 item.2 out) out).map (fun item => (item.1, f item.1 item.2)) =
      items.foldl (fun out item => put item.1 (f item.1 item.2) out) (out.map fun item => (item.1, f item.1 item.2)) := by
  induction items generalizing out with
  | nil => rfl
  | cons item rest ih => rw [List.foldl_cons, List.foldl_cons, ih, map_put]

theorem standing_map {α β : Type} (f : String → α → β) (items : List (String × α)) :
    items.foldl (fun out item => put item.1 (f item.1 item.2) out) [] =
      (standing items).map fun item => (item.1, f item.1 item.2) := (map_foldl_put f items []).symm

theorem nodup_put {α : Type} {items : List (String × α)} (distinct : (items.map Prod.fst).Nodup) (key : String) (a : α) :
    ((put key a items).map Prod.fst).Nodup := by
  rw [keys_put]
  split
  · exact distinct
  · rename_i absent
    rw [List.nodup_append]
    exact ⟨distinct, List.nodup_singleton _, fun k member k' new same => absent (by simp_all)⟩

theorem mem_put {α : Type} {items : List (String × α)} (distinct : (items.map Prod.fst).Nodup) (key : String) (a : α)
    (item : String × α) : item ∈ put key a items ↔ item = (key, a) ∨ item.1 ≠ key ∧ item ∈ items := by
  obtain ⟨key', a'⟩ := item
  rw [← lookup_eq_some_iff key' a' _ (nodup_put distinct key a), lookup_put]
  by_cases same : key = key'
  · subst same
    simp [eq_comm]
  · rw [if_neg same, lookup_eq_some_iff key' a' _ distinct]
    simp [Ne.symm same]

theorem namesInEntries_iff (nodeId : String) (entries : Entries) :
    namesInEntries nodeId entries = true ↔ ∃ entry ∈ entries, Within nodeId entry.1 ∨ names nodeId entry.2 = true := by
  induction entries with
  | nil => simp [namesInEntries]
  | cons entry rest ih =>
    obtain ⟨key, value⟩ := entry
    simp only [namesInEntries, Bool.or_eq_true, decide_eq_true_eq, ih, List.mem_cons, exists_eq_or_imp]

/-- The walk over a dictionary gives distinct keys. -/
theorem nodup_republishedEntries (vocab : Vocabulary) (owner : Option String) : ∀ (entries out out' : Entries),
    (out.map Prod.fst).Nodup → republishedEntries vocab owner entries out = some out' → (out'.map Prod.fst).Nodup
  | [], out, out', distinct, walked => by
      simp only [republishedEntries, Option.some.injEq] at walked
      exact walked ▸ distinct
  | (key, value) :: rest, out, out', distinct, walked => by
      simp only [republishedEntries] at walked
      split at walked
      · exact nodup_republishedEntries vocab owner rest out out' distinct walked
      · split at walked
        · exact nodup_republishedEntries vocab owner rest out out' distinct walked
        · split at walked
          · cases walked
          · exact nodup_republishedEntries vocab owner rest _ out' (nodup_put distinct _ _) walked

/-! ### What the payloads name -/

variable {w}

theorem nodesData_names (ref : String) : namesInEntries ref w.nodesData.nodes = false ↔
    ∀ node ∈ standing w.publishedNodes, ¬ Within ref node.1 ∧ names ref (w.nodeEntry node.1 node.2.1 node.2.2) = false := by
  have built : w.nodesData.nodes = (standing w.publishedNodes).map fun node =>
      (node.1, w.nodeEntry node.1 node.2.1 node.2.2) :=
    standing_map (fun ref (node : String × Entries) => w.nodeEntry ref node.1 node.2) w.publishedNodes
  rw [built, ← Bool.not_eq_true, namesInEntries_iff]
  simp only [not_exists, not_and, not_or, Bool.not_eq_true]
  exact List.forall_mem_map

theorem overlaps_names (ref : String) : (∀ z ∈ w.overlaps, ¬ z.Names ref) ↔
    ∀ z ∈ w.overlapSummary, z.hasOverlap = true → ∀ a b, publicIdentity w.handles z.nodeA = some a →
      publicIdentity w.handles z.nodeB = some b → ¬ Within ref a ∧ ¬ Within ref b ∧ namesInEntries ref z.rest = false := by
  simp only [Fleet.overlaps, List.mem_filterMap, forall_exists_index, and_imp]
  constructor
  · intro quiet z listed overlapping a b named_a named_b
    have published : w.publicZone z = some { z with nodeA := a, nodeB := b } := by
      simp [Fleet.publicZone, overlapping, named_a, named_b]
    simpa [Zone.Names] using quiet _ z listed published
  · intro quiet out z listed published
    rw [Fleet.publicZone] at published
    split at published
    · rename_i overlapping
      simp only [Option.bind_eq_bind, Option.bind_eq_some_iff, Option.pure_def, Option.some.injEq] at published
      obtain ⟨a, named_a, b, named_b, rfl⟩ := published
      simpa [Zone.Names] using quiet z listed overlapping a b named_a named_b
    · cases published

theorem registeredNodes_names (ref : String) : (∀ shown ∈ w.registeredNodes, ¬ Within ref shown) ↔
    ∀ n ∈ w.nodeGeometries, ∀ shown, w.handle n = some shown → ¬ Within ref shown := by
  simp only [Fleet.registeredNodes, List.mem_filterMap, forall_exists_index, and_imp]
  exact ⟨fun quiet n listed shown named => quiet shown n listed named,
    fun quiet shown n listed named => quiet n listed shown named⟩

/-- A summary as the walk leaves it. -/
def Fleet.walked (w : Fleet) (nodeId : String) (summary : Entries) : Entries :=
  (republishedEntries w.vocab (some nodeId) summary []).getD []

theorem analyticsOf_nodes (summaries : List (String × Entries)) :
    (w.analyticsOf summaries).nodes = (w.shownSummaries summaries).map fun shown =>
      (shown.1, .dict (put "node_ref" (.str shown.1) (w.walked shown.2.1 shown.2.2))) := by
  have fold (out : Entries) : (summaries.map fun summary => (summary.1, Payload.dict summary.2)).foldl
      (fun nodes summary => (publicIdentity w.handles summary.1).elim nodes fun ref =>
        (republished w.vocab (some summary.1) summary.2).elim nodes fun r => put ref r nodes) out =
      (summaries.filterMap fun summary => (publicIdentity w.handles summary.1).bind fun ref =>
        (leavesOfEntries w.vocab (some summary.1) summary.2 []).map fun _ => (ref, summary.1, summary.2)).foldl
        (fun out shown => put shown.1 (.dict (w.walked shown.2.1 shown.2.2)) out) out := by
    induction summaries generalizing out with
    | nil => rfl
    | cons summary rest ih =>
      rw [List.map_cons, List.foldl_cons, ih, List.filterMap_cons]
      cases identity : publicIdentity w.handles summary.1 with
      | none => simp
      | some ref =>
        have walked := agree_entries w.vocab (some summary.1) summary.2 [] [] .nil
        simp only [Option.bind_some, republished]
        generalize kept : republishedEntries w.vocab (some summary.1) summary.2 [] = out' at walked
        generalize leavesOfEntries w.vocab (some summary.1) summary.2 [] = found at walked
        cases walked with
        | none => rfl
        | some related => simp [Fleet.walked, kept]
  have nodes : (w.analyticsOf summaries).nodes = ((w.shownSummaries summaries).map fun shown =>
      (shown.1, Payload.dict (w.walked shown.2.1 shown.2.2))).map fun node =>
        (node.1, Payload.dict (put "node_ref" (.str node.1) node.2.entries)) := by
    rw [Fleet.shownSummaries, ← standing_map (fun _ (s : String × Entries) => Payload.dict (w.walked s.1 s.2)), ← fold []]
    refine congrArg (List.map _) ?_
    simp only [publicAnalytics, Fleet.vocab]
    congr 1
    funext nodes summary
    cases publicIdentity w.handles summary.1 with
    | none => rfl
    | some ref =>
      dsimp only [Option.elim_some]
      cases republished (vocabulary w.handles w.summaries.keys) (some summary.1) summary.2 with
      | none => rfl
      | some r => rfl
  rw [nodes, List.map_map]
  rfl

theorem summary_names_iff (ref' : String) (summary : String × String × Entries) :
    (Within ref' summary.1 ∨
      names ref' (.dict (put "node_ref" (.str summary.1) (w.walked summary.2.1 summary.2.2))) = true) ↔
      w.SummaryNames ref' summary := by
  obtain ⟨shown, nodeId, fields⟩ := summary
  have walked := agree_entries w.vocab (some nodeId) fields [] [] .nil
  have distinct : ((w.walked nodeId fields).map Prod.fst).Nodup := by
    rw [Fleet.walked]
    cases kept : republishedEntries w.vocab (some nodeId) fields [] with
    | none => exact List.nodup_nil
    | some out => exact nodup_republishedEntries w.vocab (some nodeId) fields [] out List.nodup_nil kept
  have below : (∃ entry ∈ w.walked nodeId fields, entry.1 ≠ "node_ref" ∧ (Within ref' entry.1 ∨ names ref' entry.2 = true)) ↔
      ∃ found, leavesOfEntries w.vocab (some nodeId) fields [] = some found ∧
        ∃ entry ∈ found, entry.1 ≠ "node_ref" ∧ NamedBy w.vocab ref' (.key entry.2.1 :: entry.2.2) := by
    rw [Fleet.walked]
    generalize republishedEntries w.vocab (some nodeId) fields [] = out at walked
    generalize leavesOfEntries w.vocab (some nodeId) fields [] = found at walked
    cases walked with
    | none => simp
    | @some out found related =>
      simp only [Option.getD_some, Option.some.injEq, exists_eq_left']
      induction related with
      | nil => simp
      | @cons entry f rest rest' here later ih =>
        obtain ⟨same, keyed, inside⟩ := here
        have named : NamedBy w.vocab ref' (.key f.2.1 :: f.2.2) ↔ Within ref' entry.1 ∨ names ref' entry.2 = true := by
          rw [← List.singleton_append, namedBy_append, namedBy_single, inside ref']
          simp only [Leaf.Names, keyed, same, Option.some.injEq, exists_eq_left']
        simp only [List.mem_cons, exists_eq_or_imp, named, ih, same]
  simp only [names, namesInEntries_iff, mem_put distinct, Fleet.SummaryNames]
  rw [← below]
  constructor
  · rintro (handle | ⟨entry, rfl | ⟨other, member⟩, named⟩)
    · exact .inl (.inr handle)
    · exact .inl (named.imp_right of_decide_eq_true)
    · exact .inr ⟨entry, member, other, named⟩
  · rintro ((key | handle) | ⟨entry, member, other, named⟩)
    · exact .inr ⟨_, .inl rfl, .inl key⟩
    · exact .inl handle
    · exact .inr ⟨entry, .inr ⟨other, member⟩, named⟩

theorem analyticsOf_names (summaries : List (String × Entries)) (ref : String) :
    ¬ (w.analyticsOf summaries).Names ref ↔ (∀ summary ∈ w.shownSummaries summaries, ¬ w.SummaryNames ref summary) ∧
      ∀ leaf, Survives w.vocab none (.dict w.publicCrossNode) leaf → ¬ leaf.Names w.vocab ref := by
  have cross : names ref (w.analyticsOf summaries).crossNode = true ↔
      ∃ leaf, Survives w.vocab none (.dict w.publicCrossNode) leaf ∧ leaf.Names w.vocab ref := by
    have walked := agree w.vocab none (.dict w.publicCrossNode)
    have value : (w.analyticsOf summaries).crossNode =
        (republished w.vocab none (.dict w.publicCrossNode)).getD (.dict []) := rfl
    rw [value]
    simp only [Survives]
    generalize republished w.vocab none (.dict w.publicCrossNode) = out at walked
    generalize leaves w.vocab none (.dict w.publicCrossNode) = found at walked
    cases walked with
    | none => simp [names, namesInEntries]
    | @some out found related => simp [related ref, NamedBy]
  rw [Analytics.Names, not_or, cross, analyticsOf_nodes, namesInEntries_iff]
  refine and_congr ?_ (by simp)
  rw [not_exists]
  simp only [not_and, List.forall_mem_map, summary_names_iff]

theorem publicPart_publishedNodes : w.publicPart.publishedNodes = w.publishedNodes := by
  have items : w.publicPart.connected.items = w.connected.items.filter fun item => !w.isPrivate item.1 := rfl
  rw [Fleet.publishedNodes, items, List.filterMap_filter, Fleet.publishedNodes]
  refine List.filterMap_congr fun item _ => ?_
  by_cases hidden : w.isPrivate item.1 = true
  · rw [if_neg (by simp [hidden]), if_pos hidden]
  · exact if_pos (by simp [hidden])

/-- Two registered nodes that overlap, one of them private. -/
def porchAndAttic : Fleet where
  handles := twoRegistered
  isPrivate := fun nodeId => decide (nodeId = "ret0badcafe")
  connected := Dict.empty
  summaries := Dict.empty
  crossNode := []
  overlapSummary := [⟨"ret1a2b3c4d", "ret0badcafe", true, [("grid_points", .scalar (.num 512))]⟩]
  nodeGeometries := ["ret1a2b3c4d", "ret0badcafe"]
  fuzzEnabled := true
  publicNodeSummary := fun _ summary => summary
  publicLocationBlock := fun _ _ => .dict []
  positionStatus := fun _ => "positioned"

end Retina.Registry
