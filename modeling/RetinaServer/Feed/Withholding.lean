import RetinaServer.Feed.Publication

/-! What a reader of the public feed can tell of the private nodes: two payloads that
differ by what those contributed alone, and the hexes nobody else has seen. -/
namespace Retina.Feed

section
variable (P : PrivateNodeIds)

def PrivateNodeIds.strike (nids : List Ident) : List Ident := nids.filter fun nid => !P.contains nid

/-- An entry without its private contributors. -/
def FeedEntry.struck (ac : FeedEntry) : FeedEntry :=
  { ac with contributingNodeIds := ac.contributingNodeIds.map P.strike }

/-- A private node's own entry. -/
def FeedEntry.withheld (ac : FeedEntry) : Bool := ac.nodeId.any P.contains

/-- An entry that has contributors, all of them private. -/
def FeedEntry.jointlyPrivate (ac : FeedEntry) : Bool := !ac.contributors.isEmpty && (P.strike ac.contributors).isEmpty

variable {τ : Type} (data data' : Payload τ)

/-- The entries of the other nodes, without the private contributors. -/
def Payload.ofOthers : List FeedEntry :=
  ((data.aircraft.getD []).filter fun ac => !ac.withheld P).map (FeedEntry.struck P)

/-- Those among them that someone else contributed to, or nobody at all. -/
def Payload.shared : List FeedEntry :=
  ((data.aircraft.getD []).filter fun ac => !ac.withheld P && !ac.jointlyPrivate P).map (FeedEntry.struck P)

/-- The aircraft has an entry from a node that is not private. -/
def Payload.seenByOthers (hexCode : String) : Bool :=
  (data.aircraft.getD []).any fun ac => decide (ac.hex = hexCode) && ac.nodes.any fun nid => !P.contains nid

/-- The two payloads differ in what private nodes contributed alone: their own entries
and arcs, their places among contributors and detecting nodes, and the anomalies
nobody else has an entry of. The message count follows the entries. -/
structure EqualApart : Prop where
  nobody : P.isEmpty = true → data = data'
  now : data.now = data'.now
  messages : data.messages.isSome = data'.messages.isSome
  aircraft : data.ofOthers P = data'.ofOthers P
  detectionArcs : data.detectionArcs.map (·.filter fun arc => !arc.nodeId.any P.contains) =
    data'.detectionArcs.map (·.filter fun arc => !arc.nodeId.any P.contains)
  detectingNodes : data.detectingNodes.map (·.filterMap fun (hexCode, nids) =>
      if P.strike nids = [] then none else some (hexCode, P.strike nids)) =
    data'.detectingNodes.map (·.filterMap fun (hexCode, nids) =>
      if P.strike nids = [] then none else some (hexCode, P.strike nids))
  groundTruth : data.groundTruth = data'.groundTruth
  groundTruthMeta : data.groundTruthMeta = data'.groundTruthMeta
  anomalyHexes : data.anomalyHexes.map (·.filter (data.seenByOthers P)) =
    data'.anomalyHexes.map (·.filter (data'.seenByOthers P))

/-- The entry is of the aircraft, or of another that the simulator takes it for. -/
def FeedEntry.Names (ac : FeedEntry) (hexCode : String) : Prop :=
  ac.hex = hexCode ∨ ac.groundTruthHex.map Subtype.val = some hexCode

/-- The hex stands somewhere in the payload beside the anomalies. -/
def Payload.Tells (hexCode : String) : Prop :=
  (∃ ac ∈ data.aircraft.getD [], ac.Names hexCode) ∨ (∃ arc ∈ data.detectionArcs.getD [], arc.hex = hexCode) ∨
    hexCode ∈ (data.detectingNodes.getD []).map Prod.fst ∨ hexCode ∈ (data.groundTruth.getD []).map Prod.fst ∨
    hexCode ∈ (data.groundTruthMeta.getD []).map Prod.fst

def Payload.Occurs (hexCode : String) : Prop := data.Tells hexCode ∨ hexCode ∈ data.anomalyHexes.getD []

/-- Whatever the payload tells of the hex comes from private nodes alone, and the simulator has no such aircraft. -/
structure SeenOnlyBy (hexCode : String) : Prop where
  aircraft : ∀ ac ∈ data.aircraft.getD [], ac.Names hexCode → ac.withheld P = true ∨ ac.jointlyPrivate P = true
  detectionArcs : ∀ arc ∈ data.detectionArcs.getD [], arc.hex = hexCode → arc.nodeId.any P.contains = true
  detectingNodes : ∀ item ∈ data.detectingNodes.getD [], item.1 = hexCode → item.2 ≠ [] ∧ P.strike item.2 = []
  groundTruth : hexCode ∉ (data.groundTruth.getD []).map Prod.fst
  groundTruthMeta : hexCode ∉ (data.groundTruthMeta.getD []).map Prod.fst

end

section
variable {P : PrivateNodeIds} {τ : Type} {data data' : Payload τ}

theorem strike_of_isEmpty (empty : P.isEmpty = true) (nids : List Ident) : P.strike nids = nids := by
  simp [PrivateNodeIds.strike, PrivateNodeIds.contains_of_isEmpty empty]

theorem struck_eq (ac : FeedEntry) : ac.struck P = if ac.contributors.all (fun nid => !P.contains nid) then ac
    else { ac with contributingNodeIds := some (ac.contributors.filter fun nid => !P.contains nid) } := by
  cases listed : ac.contributingNodeIds with
  | none =>
    have empty : ac.contributors = [] := by rw [FeedEntry.contributors, listed]; rfl
    rw [if_pos (by rw [empty]; rfl), FeedEntry.struck, listed, Option.map_none, ← listed]
  | some nids =>
    have contributors : ac.contributors = nids := by rw [FeedEntry.contributors, listed]; rfl
    rw [FeedEntry.struck, listed, Option.map_some, PrivateNodeIds.strike, contributors]
    split
    · rename_i all_public
      rw [List.filter_eq_self.mpr (List.all_eq_true.mp all_public), ← listed]
    · rfl

theorem jointlyPrivate_eq_false_iff (ac : FeedEntry) :
    ac.jointlyPrivate P = false ↔ ac.contributors = [] ∨ ∃ c ∈ ac.contributors, P.contains c = false := by
  rw [FeedEntry.jointlyPrivate, Bool.and_eq_false_iff, Bool.not_eq_false', List.isEmpty_iff]
  refine or_congr_right ?_
  rw [← Bool.not_eq_true, List.isEmpty_iff, PrivateNodeIds.strike, List.filter_eq_nil_iff]
  simp

/-- The redaction drops what private nodes contributed alone, and strikes their names from the rest. -/
theorem redactEntry_eq (ac : FeedEntry) : redactEntry P ac =
    if !ac.withheld P && !ac.jointlyPrivate P then some (ac.struck P) else none := by
  refine Option.ext fun out => ?_
  rw [redactEntry_eq_some_iff, ← any_contains_eq_false_iff, ← jointlyPrivate_eq_false_iff, ← struck_eq]
  change ac.withheld P = false ∧ _ ↔ _
  cases own : ac.withheld P <;> cases joint : ac.jointlyPrivate P <;> simp [eq_comm]

theorem filterMap_redactEntry (data : Payload τ) :
    (data.aircraft.getD []).filterMap (redactEntry P) = data.shared P := by
  rw [Payload.shared, ← List.filterMap_eq_map, List.filterMap_filter]
  exact List.filterMap_congr fun ac _ => redactEntry_eq ac

theorem publicAircraftPayload_of_nobody (empty : P.isEmpty = true) (data : Payload τ) :
    publicAircraftPayload (some P) data = data := by
  simp only [publicAircraftPayload, empty, if_true]

/-- The public payload, where some node may be private. -/
theorem publicAircraftPayload_eq (some_private : P.isEmpty = false) (data : Payload τ) :
    publicAircraftPayload (some P) data = { data with
      aircraft := some (data.shared P)
      detectionArcs := data.detectionArcs.map (·.filter fun arc => !arc.nodeId.any P.contains)
      detectingNodes := data.detectingNodes.map (·.filterMap fun (hexCode, nids) =>
        if P.strike nids = [] then none else some (hexCode, P.strike nids))
      messages := data.messages.map fun _ => (data.shared P).length } := by
  simp only [publicAircraftPayload, some_private, Bool.false_eq_true, if_false, filterMap_redactEntry]
  rfl

/-- Only the anomalies, and the entries whose contributors are all private, can tell two such payloads apart. -/
theorem EqualApart.public_eq_iff (apart : EqualApart P data data') :
    publicAircraftPayload (some P) data = publicAircraftPayload (some P) data' ↔
      data.anomalyHexes = data'.anomalyHexes ∧ data.shared P = data'.shared P := by
  cases empty : P.isEmpty with
  | true =>
    obtain rfl := apart.nobody empty
    exact iff_of_true rfl ⟨rfl, rfl⟩
  | false =>
    rw [publicAircraftPayload_eq empty, publicAircraftPayload_eq empty]
    simp only [Payload.mk.injEq, Option.some.injEq]
    constructor
    · rintro ⟨-, -, aircraft, -, -, -, -, anomalies⟩
      exact ⟨anomalies, aircraft⟩
    · rintro ⟨anomalies, aircraft⟩
      refine ⟨apart.now, ?_, aircraft, apart.detectionArcs, apart.detectingNodes, apart.groundTruth,
        apart.groundTruthMeta, anomalies⟩
      have present := apart.messages
      cases counted : data.messages <;> cases counted' : data'.messages <;>
        simp [counted, counted', aircraft] at present ⊢

/-- Until the policy is known they all look alike. -/
theorem EqualApart.unknown_policy (apart : EqualApart P data data') :
    publicAircraftPayload none data = publicAircraftPayload none data' := by
  have blank {α β γ : Type} {x y : Option α} {f g : α → β} (same : x.map f = y.map g) (c : γ) :
      x.map (fun _ => c) = y.map fun _ => c := by
    cases x <;> cases y <;> simp at same ⊢
  have messages : data.messages.map (fun _ => 0) = data'.messages.map fun _ => 0 := by
    have present := apart.messages
    cases counted : data.messages <;> cases counted' : data'.messages <;> simp [counted, counted'] at present ⊢
  simp only [publicAircraftPayload, Payload.mk.injEq, true_and]
  exact ⟨apart.now, messages, blank apart.detectionArcs _, blank apart.detectingNodes _,
    congrArg _ apart.groundTruth, congrArg _ apart.groundTruthMeta, blank apart.anomalyHexes _⟩

/-- Nothing else of the public payload names an aircraft that only private nodes have seen. -/
theorem SeenOnlyBy.not_tells (lone : SeenOnlyBy P data hexCode) : ¬ (publicAircraftPayload (some P) data).Tells hexCode := by
  cases empty : P.isEmpty with
  | true =>
    -- With nobody private nothing can come from private nodes alone.
    have spared (nid : Option Ident) : nid.any P.contains = false := by
      cases nid <;> simp [PrivateNodeIds.contains_of_isEmpty empty]
    rw [publicAircraftPayload_of_nobody empty]
    rintro (⟨ac, member, named⟩ | ⟨arc, member, named⟩ | detecting | truth | details)
    · rcases lone.aircraft ac member named with own | joint
      · rw [FeedEntry.withheld, spared] at own
        cases own
      · simp [FeedEntry.jointlyPrivate, strike_of_isEmpty empty] at joint
    · have own := lone.detectionArcs arc member named
      rw [spared] at own
      cases own
    · obtain ⟨item, member, named⟩ := List.mem_map.mp detecting
      obtain ⟨detected, alone⟩ := lone.detectingNodes item member named
      exact detected ((strike_of_isEmpty empty _).symm.trans alone)
    · exact lone.groundTruth truth
    · exact lone.groundTruthMeta details
  | false =>
    rw [publicAircraftPayload_eq empty]
    rintro (⟨out, member, named⟩ | ⟨arc, member, named⟩ | detecting | truth | details)
    · obtain ⟨ac, kept, rfl⟩ := List.mem_map.mp member
      obtain ⟨listed, kept⟩ := List.mem_filter.mp kept
      rcases lone.aircraft ac listed named with own | joint
      · simp [own] at kept
      · simp [joint] at kept
    · cases arcs : data.detectionArcs with
      | none => simp [arcs] at member
      | some list =>
        simp only [arcs, Option.map_some, Option.getD_some, List.mem_filter] at member
        have own := lone.detectionArcs arc (by rw [arcs]; exact member.1) named
        simp [own] at member
    · cases listed : data.detectingNodes with
      | none => simp [listed] at detecting
      | some list =>
        simp only [listed, Option.map_some, Option.getD_some, List.mem_map, List.mem_filterMap] at detecting
        obtain ⟨out, ⟨item, member, kept⟩, named⟩ := detecting
        split at kept
        · cases kept
        · rename_i visible
          obtain rfl := Option.some.inj kept
          exact visible (lone.detectingNodes item (by rw [listed]; exact member) named).2
    · exact lone.groundTruth truth
    · exact lone.groundTruthMeta details

theorem SeenOnlyBy.occurs_iff (lone : SeenOnlyBy P data hexCode) :
    (publicAircraftPayload (some P) data).Occurs hexCode ↔ hexCode ∈ data.anomalyHexes.getD [] := by
  have kept : (publicAircraftPayload (some P) data).anomalyHexes = data.anomalyHexes := by
    cases empty : P.isEmpty with
    | true => rw [publicAircraftPayload_of_nobody empty]
    | false => rw [publicAircraftPayload_eq empty]
  rw [Payload.Occurs, kept, or_iff_right lone.not_tells]

end

/-- The public payload is the same for two that differ in what private nodes contributed
alone exactly when those list the same anomalies, and the same entries beside the ones
whose contributors are all private. A hex that only private nodes have seen stays out
of it exactly when it is no anomaly. -/
theorem public_payload_independent_iff (P : PrivateNodeIds) {τ : Type} (data data' : Payload τ)
    (apart : EqualApart P data data') :
    (publicAircraftPayload (some P) data = publicAircraftPayload (some P) data' ↔
      data.anomalyHexes = data'.anomalyHexes ∧ data.shared P = data'.shared P) ∧
    ∀ hexCode, SeenOnlyBy P data hexCode →
      (¬ (publicAircraftPayload (some P) data).Occurs hexCode ↔ hexCode ∉ data.anomalyHexes.getD []) :=
  ⟨apart.public_eq_iff, fun _ lone => not_congr lone.occurs_iff⟩

/-- An aircraft that one private node alone has an entry of, flagged, and the feed without it. -/
def hushed : Ident := ⟨"node-P", by decide⟩

def hushedEntry : FeedEntry where
  hex := "abc123"
  lat := some 35
  lon := some (-82)
  altBaro := none
  positionSource := some .adsbSingleNode
  nNodes := none
  seen := some 1
  multinode := false
  nodeId := some hushed
  contributingNodeIds := none
  groundTruthHex := none

def hushedSighting : Payload Unit where
  now := some 0
  messages := some 1
  aircraft := some [hushedEntry]
  detectionArcs := some []
  detectingNodes := some [("abc123", [hushed])]
  groundTruth := some []
  groundTruthMeta := some []
  anomalyHexes := some ["abc123"]

def emptySky : Payload Unit := ⟨some 0, some 0, some [], some [], some [], some [], some [], some []⟩

theorem hushed_apart : EqualApart (.ofRegistered {hushed}) hushedSighting emptySky :=
  ⟨fun empty => absurd empty (by decide), rfl, rfl, by decide, by decide, by decide, rfl, rfl, by decide⟩

/-- The anomaly is published, and says that there is such an aircraft. -/
theorem hushed_anomaly_published :
    ¬ (EqualApart (.ofRegistered {hushed}) hushedSighting emptySky →
      publicAircraftPayload (some (.ofRegistered {hushed})) hushedSighting =
        publicAircraftPayload (some (.ofRegistered {hushed})) emptySky) ∧
    SeenOnlyBy (.ofRegistered {hushed}) hushedSighting "abc123" ∧
    (publicAircraftPayload (some (.ofRegistered {hushed})) hushedSighting).Occurs "abc123" := by
  have lone : SeenOnlyBy (.ofRegistered {hushed}) hushedSighting "abc123" := by
    refine ⟨?_, ?_, ?_, by decide, by decide⟩
    · simp [hushedSighting, hushedEntry, FeedEntry.withheld, PrivateNodeIds.contains, PrivateNodeIds.ofRegistered]
    · simp [hushedSighting]
    · simp [hushedSighting, PrivateNodeIds.strike, PrivateNodeIds.contains, PrivateNodeIds.ofRegistered]
  refine ⟨fun same => ?_, lone, lone.occurs_iff.mpr (by decide)⟩
  have listed := (hushed_apart.public_eq_iff.mp (same hushed_apart)).1
  exact absurd listed (by decide)

/-- The same sighting, and the feed without it, where the aircraft was not flagged. -/
theorem public_payload_independent_iff_unflagged :
    publicAircraftPayload (some (.ofRegistered {hushed})) { hushedSighting with anomalyHexes := some [] } =
      publicAircraftPayload (some (.ofRegistered {hushed})) emptySky :=
  (public_payload_independent_iff (.ofRegistered {hushed}) { hushedSighting with anomalyHexes := some [] } emptySky
    ⟨fun empty => absurd empty (by decide), rfl, rfl, by decide, by decide, by decide, rfl, rfl, by decide⟩).1.mpr
    ⟨rfl, by decide⟩

end Retina.Feed
