import RetinaServer.Feed.Entry

/-! What may leave the server: the redaction of nodes whose owners declined
publication, and the cut of a payload to a caller's nodes. -/
namespace Retina.Feed

/-- The private set. Probation is answered for each id and can only hold while
its fence is on, which is what lets an empty set without a fence stand for a
wholly public fleet. -/
structure PrivateNodeIds where
  registered : Finset Ident
  inProbation : Ident → Bool
  probationEnabled : Bool
  fenced : ∀ n, inProbation n = true → probationEnabled = true

namespace PrivateNodeIds

def contains (P : PrivateNodeIds) (n : Ident) : Bool := decide (n ∈ P.registered) || P.inProbation n

/-- `not private`. -/
def isEmpty (P : PrivateNodeIds) : Bool := decide (P.registered = ∅) && !P.probationEnabled

theorem contains_of_isEmpty {P : PrivateNodeIds} (empty : P.isEmpty = true) (n : Ident) :
    P.contains n = false := by
  simp only [isEmpty, Bool.and_eq_true, decide_eq_true_eq, Bool.not_eq_true'] at empty
  have unpolled : P.inProbation n = false := by
    by_contra polled
    have on := P.fenced n (by simpa using polled)
    simp [on] at empty
  simp [contains, empty.1, unpolled]

/-- A set of registered ids with the fence off. -/
def ofRegistered (registered : Finset Ident) : PrivateNodeIds :=
  ⟨registered, fun _ => false, false, by simp⟩

end PrivateNodeIds

/-- The aircraft loop's body: `none` drops the entry. -/
def redactEntry (P : PrivateNodeIds) (ac : FeedEntry) : Option FeedEntry :=
  if ac.nodeId.any P.contains then none
  else
    let kept := ac.contributors.filter (fun nid => !P.contains nid)
    if ac.contributors = [] then some ac
    else if kept = [] then none
    else if kept.length ≠ ac.contributors.length then some { ac with contributingNodeIds := some kept }
    else some ac

/-- `none` for the policy is the state before the first successful read, in
which everything but the wire shape is withheld. -/
def publicAircraftPayload (policy : Option PrivateNodeIds) (data : Payload τ) : Payload τ :=
  match policy with
  | none => { data with
      aircraft := some []
      detectionArcs := data.detectionArcs.map fun _ => []
      anomalyHexes := data.anomalyHexes.map fun _ => []
      detectingNodes := data.detectingNodes.map fun _ => []
      groundTruth := data.groundTruth.map fun _ => []
      groundTruthMeta := data.groundTruthMeta.map fun _ => []
      messages := data.messages.map fun _ => 0 }
  | some P =>
    if P.isEmpty then data
    else
      let aircraft := (data.aircraft.getD []).filterMap (redactEntry P)
      { data with
        aircraft := some aircraft
        detectionArcs := data.detectionArcs.map (·.filter fun arc => !arc.nodeId.any P.contains)
        detectingNodes := data.detectingNodes.map (·.filterMap fun (hexCode, nids) =>
          let kept := nids.filter (fun nid => !P.contains nid)
          if kept = [] then none else some (hexCode, kept))
        messages := data.messages.map fun _ => aircraft.length }

def matchesNodes (nodeIds : Finset Ident) (ac : FeedEntry) : Bool :=
  ac.nodeId.any (fun nid => decide (nid ∈ nodeIds)) ||
    ((ac.multinode || decide (ac.positionSource = some .adsbMultiNode)) &&
      ac.contributors.any (fun nid => decide (nid ∈ nodeIds)))

def filterPayloadToNodes (data : Payload τ) (nodeIds : Finset Ident) : Payload τ :=
  let matched := (data.aircraft.getD []).filter (matchesNodes nodeIds)
  { now := some (data.now.getD 0)
    messages := some matched.length
    aircraft := some matched
    detectionArcs := some ((data.detectionArcs.getD []).filter fun arc =>
      arc.nodeId.any fun nid => decide (nid ∈ nodeIds))
    detectingNodes := some []
    groundTruth := some []
    groundTruthMeta := some []
    anomalyHexes := some [] }

/-- The entry's own node is not withheld. -/
def PrivateNodeIds.Spares (P : PrivateNodeIds) (ac : FeedEntry) : Prop :=
  ∀ n, ac.nodeId = some n → P.contains n = false

theorem any_contains_eq_false_iff (P : PrivateNodeIds) (ac : FeedEntry) :
    ac.nodeId.any P.contains = false ↔ P.Spares ac := by
  cases h : ac.nodeId <;> simp [PrivateNodeIds.Spares, h]

/-- The redaction strikes private contributors and nothing else from an entry it keeps. -/
theorem redactEntry_eq_some_iff (P : PrivateNodeIds) (ac out : FeedEntry) :
    redactEntry P ac = some out ↔
      P.Spares ac ∧ (ac.contributors = [] ∨ ∃ c ∈ ac.contributors, P.contains c = false) ∧
      out = if ac.contributors.all (fun nid => !P.contains nid) then ac
        else { ac with contributingNodeIds := some (ac.contributors.filter fun nid => !P.contains nid) } := by
  have everything : (ac.contributors.filter fun nid => !P.contains nid).length = ac.contributors.length ↔
      ac.contributors.all (fun nid => !P.contains nid) = true := by
    rw [List.length_filter_eq_length_iff, List.all_eq_true]
  have nothing : (ac.contributors.filter fun nid => !P.contains nid) = [] ↔
      ¬ ∃ c ∈ ac.contributors, P.contains c = false := by
    simp [List.filter_eq_nil_iff]
  rw [← any_contains_eq_false_iff]
  simp only [redactEntry]
  cases withheld : ac.nodeId.any P.contains with
  | true => simp
  | false =>
    by_cases lone : ac.contributors = []
    · simpa [lone] using eq_comm
    · by_cases published : ∃ c ∈ ac.contributors, P.contains c = false
      · have visible := not_not_intro published
        rw [← nothing] at visible
        rw [if_neg (by simp), if_neg lone, if_neg visible]
        by_cases whole : ac.contributors.all (fun nid => !P.contains nid) = true
        · rw [if_neg (not_not_intro (everything.mpr whole)), if_pos whole]
          simpa [published] using eq_comm
        · rw [if_pos (fun same => whole (everything.mp same)), if_neg whole]
          simpa [published] using eq_comm
      · rw [if_neg (by simp), if_neg lone, if_pos (nothing.mpr published)]
        simp [published, lone]

/-- A public node keeps its entry under the node's name exactly when the entry
itself is kept. -/
theorem redactEntry_carries {P : PrivateNodeIds} (published : P.contains n = false)
    (kept : redactEntry P ac = some out) : out.Carries n ↔ ac.Carries n := by
  obtain ⟨-, -, rfl⟩ := (redactEntry_eq_some_iff P ac out).mp kept
  split
  · rfl
  · simp [FeedEntry.Carries, FeedEntry.contributors, published]

/-- What is published of an entry names no private node. -/
theorem redactEntry_spares {P : PrivateNodeIds} (kept : redactEntry P ac = some out)
    (carried : out.Carries n) : P.contains n = false := by
  obtain ⟨spared, -, rfl⟩ := (redactEntry_eq_some_iff P ac out).mp kept
  split at carried
  · rename_i all_public
    rcases carried with own | contributor
    · exact spared n own
    · simpa using List.all_eq_true.mp all_public n contributor
  · rcases carried with own | contributor
    · exact spared n own
    · simpa [FeedEntry.contributors] using (List.mem_filter.mp contributor).2

theorem publicAircraftPayload_aircraft (P : PrivateNodeIds) (data : Payload τ) :
    (publicAircraftPayload (some P) data).aircraft.getD [] =
      (data.aircraft.getD []).filterMap (redactEntry P) := by
  cases empty : P.isEmpty with
  | false => simp [publicAircraftPayload, empty]
  | true =>
    have untouched : redactEntry P = some := by
      funext ac
      refine (redactEntry_eq_some_iff P ac ac).mpr ⟨fun n _ => P.contains_of_isEmpty empty n, ?_, ?_⟩
      · cases h : ac.contributors <;> simp [PrivateNodeIds.contains_of_isEmpty empty]
      · simp [PrivateNodeIds.contains_of_isEmpty empty]
    simp [publicAircraftPayload, empty, untouched]

/-- With a known policy no entry of the public payload names a private node. -/
theorem publicAircraftPayload_withholds (P : PrivateNodeIds) (data : Payload τ)
    (served : ac ∈ (publicAircraftPayload (some P) data).aircraft.getD []) (carried : ac.Carries n) :
    P.contains n = false := by
  rw [publicAircraftPayload_aircraft, List.mem_filterMap] at served
  obtain ⟨entry, -, kept⟩ := served
  exact redactEntry_spares kept carried

end Retina.Feed
