import RetinaServer.Feed.Publication
import RetinaServer.Library.ReadThrough
import RetinaServer.NodeApi.Rows
import RetinaServer.Polled.Transactions
import Mathlib.Data.Finset.Dedup
import Mathlib.Tactic.NormNum

/-! The caches behind what may be published: the nodes that registered private, and the polled radars that have
graduated. The callers are threads, and a change to the tables is followed by an invalidation. -/
namespace Retina.Feed
open Runs ReadThrough

abbrev RadarsTable := Dict String Polled.Trust.PolledRadar
abbrev NodesTable := Dict String NodeApi.Node

/-! ### Probation -/

def POLLED_BLAH2 : String := "bla"
def FLEET : String := "ret"
def SYSTEMS : List String := [FLEET, POLLED_BLAH2]

/-- `[0-9a-f]`. -/
def isHexDigit (c : Char) : Bool := ('0' ≤ c && c ≤ '9') || ('a' ≤ c && c ≤ 'f')

/-- The prefix of an id of the shape `^([a-z]{3})[0-9a-f]{8}$`, where it is a system's. The `$` also stands before a
newline that ends the text. -/
def systemOf (nodeId : String) : Option String :=
  let text := nodeId.toList
  let letters := text.take 3
  let digits := (text.drop 3).take 8
  let after := text.drop 11
  if letters.length = 3 ∧ letters.all (fun c => 'a' ≤ c && c ≤ 'z') ∧ digits.length = 8 ∧ digits.all isHexDigit ∧
      (after = [] ∨ after = ['\n']) ∧ String.ofList letters ∈ SYSTEMS then
    some (String.ofList letters)
  else none

/-- The cache of `_graduated_ids`. -/
def probation : Policy RadarsTable Unit (Finset String) where
  load radars _ := ((radars.items.filter fun row => decide (row.2.trustState = .graduated)).map Prod.fst).toFinset
  initial := ∅
  -- Not the last known set: that could hold open a node that has since gone back to probation.
  onFailure _ := ∅
  ttl := 5
  retry := 2
  withholds := false

def inProbation (enabled : Bool) (graduated : Finset String) (nodeId : String) : Bool :=
  if !POLLED_BLAH2.toList.isPrefixOf nodeId.toList then false
  else if !enabled || decide (systemOf nodeId ≠ some POLLED_BLAH2) then false
  else decide (nodeId ∉ graduated)

def Graduated (n : String) (radars : RadarsTable) : Prop :=
  ∃ radar, radars.get? n = some radar ∧ radar.trustState = .graduated

theorem mem_load_probation (n : String) (radars : RadarsTable) (c : Unit) :
    n ∈ probation.load radars c ↔ Graduated n radars := by
  simp only [probation, List.mem_toFinset, List.mem_map, List.mem_filter, decide_eq_true_eq, Graduated]
  constructor
  · rintro ⟨row, ⟨listed, graduated⟩, rfl⟩
    exact ⟨row.2, (OrderedDict.lookup_eq_some_iff _ _ _ radars.nodup).mpr listed, graduated⟩
  · rintro ⟨radar, found, graduated⟩
    exact ⟨(n, radar), ⟨(OrderedDict.lookup_eq_some_iff _ _ _ radars.nodup).mp found, graduated⟩, rfl⟩

/-! ### Publication -/

/-- The cache of `private_node_ids`. The rows of `nodes` are read at once, and probation is asked of each. -/
def publication : Policy NodesTable (Ident → Bool) (Finset Ident) where
  load nodes probed := (nodes.items.filterMap fun row =>
    if named : row.1 ≠ "" then
      if row.2.agreements.publication = "private" ∨ probed ⟨row.1, named⟩ then some ⟨row.1, named⟩ else none
    else none).toFinset
  initial := ∅
  onFailure known := known
  ttl := 30
  retry := 5
  withholds := true

def ChosePrivate (n : Ident) (nodes : NodesTable) : Prop :=
  ∃ node, nodes.get? n.1 = some node ∧ node.agreements.publication = "private"

theorem mem_load_publication {n : Ident} {nodes : NodesTable} (chosen : ChosePrivate n nodes)
    (probed : Ident → Bool) : n ∈ publication.load nodes probed := by
  obtain ⟨node, found, chosen⟩ := chosen
  simp only [publication, List.mem_toFinset, List.mem_filterMap]
  refine ⟨(n.1, node), (OrderedDict.lookup_eq_some_iff _ _ _ nodes.nodup).mp found, ?_⟩
  rw [dif_pos n.2, if_pos (.inl chosen)]

/-- `none` for the policy is `PublicationUnavailable`. -/
def isPrivate (policy : Option PrivateNodeIds) (n : Ident) : Bool := policy.elim true (·.contains n)

/-- The payload names the node. -/
def Payload.Names (data : Payload τ) (n : Ident) : Prop :=
  (∃ ac ∈ data.aircraft.getD [], ac.Carries n) ∨ (∃ arc ∈ data.detectionArcs.getD [], arc.nodeId = some n) ∨
    ∃ entry ∈ data.detectingNodes.getD [], n ∈ entry.2

/-- Nothing that is published under a policy names a node that is private under it. -/
theorem published_hides (policy : Option PrivateNodeIds) (hidden : isPrivate policy n = true) (data : Payload τ) :
    ¬ (publicAircraftPayload policy data).Names n := by
  cases policy with
  | none =>
    rintro (⟨ac, served, -⟩ | ⟨arc, served, -⟩ | ⟨entry, served, -⟩)
    · cases served
    · cases arcs : data.detectionArcs <;> simp [publicAircraftPayload, arcs] at served
    · cases nodes : data.detectingNodes <;> simp [publicAircraftPayload, nodes] at served
  | some P =>
    have hidden : P.contains n = true := hidden
    have fenced : P.isEmpty = false := by
      rw [Bool.eq_false_iff]
      intro empty
      rw [P.contains_of_isEmpty empty] at hidden
      cases hidden
    rintro (⟨ac, served, carried⟩ | ⟨arc, served, own⟩ | ⟨entry, served, listed⟩)
    · rw [publicAircraftPayload_withholds P data served carried] at hidden
      cases hidden
    · cases arcs : data.detectionArcs with
      | none => simp [publicAircraftPayload, fenced, arcs] at served
      | some all =>
        simp only [publicAircraftPayload, fenced, arcs, Option.map_some, Option.getD_some, Bool.false_eq_true, if_false,
          List.mem_filter] at served
        simp [own, hidden] at served
    · cases nodes : data.detectingNodes with
      | none => simp [publicAircraftPayload, fenced, nodes] at served
      | some all =>
        simp only [publicAircraftPayload, fenced, nodes, Option.map_some, Option.getD_some, Bool.false_eq_true, if_false,
          List.mem_filterMap] at served
        obtain ⟨row, -, kept⟩ := served
        split at kept
        · cases kept
        · cases kept
          have visible := (List.mem_filter.mp listed).2
          simp [hidden] at visible

/-! ### What a later call sees -/

section
variable {w w' : World NodesTable (Finset Ident)} {before after : List (Event NodesTable (Ident → Bool))}

/-- The tables hold the choice, and no read raises while the set on hand lacks it. -/
def ChoiceStands (n : Ident) (w : World NodesTable (Finset Ident)) (e : Event NodesTable (Ident → Bool)) : Prop :=
  ChosePrivate n w.shared.source ∧ ∀ k, e = .act k (.query none) → w.stage k = .querying → n ∈ w.shared.cached

/-- A choice of privacy that stands in the table is kept by every call that begins after the write's invalidation, or a
lifetime after the write: the node is private to it, and nothing published under its answer names the node. -/
theorem private_choice_kept (reached : Reached publication w) (due : Due publication w w' before)
    (ready : Ready (run (World.step publication) w' before) i)
    (stands : Along (World.step publication) (ChoiceStands n) w' (before ++ .act i .call :: after))
    (policy : Option PrivateNodeIds)
    (answered : (run (World.step publication) w' (before ++ .act i .call :: after)).stage i =
      .done (policy.map PrivateNodeIds.registered)) :
    isPrivate policy n = true ∧ ∀ data : Payload τ, ¬ (publicAircraftPayload policy data).Names n := by
  have hidden : isPrivate policy n = true := by
    cases policy with
    | none => rfl
    | some P =>
      have kept : n ∈ P.registered := by
        refine good_when_due (fun known => n ∈ known) (by norm_num [publication]) (by norm_num [publication])
          reached due ready after ?_ answered
        rw [along_iff_split] at stands ⊢
        rintro first e rest parts k consulted rfl stage
        obtain ⟨chosen, raised⟩ := stands first _ rest parts
        cases consulted with
        | none => exact raised k rfl stage
        | some probed => exact mem_load_publication chosen probed
      simp [isPrivate, PrivateNodeIds.contains, kept]
  exact ⟨hidden, fun data => published_hides policy hidden data⟩

end

/-- A call that finds nothing in date and reads the table. -/
def readingCall {α ε : Type} (consulted : ε) : List (Event α ε) :=
  .act 0 .call :: List.replicate 5 (.act 0 .move) ++ .act 0 (.query (some consulted)) :: List.replicate 7 (.act 0 .move)

def onePrivateNode : NodesTable :=
  ⟨[("ret00000001", { nodeRef := "1", boardModel := "pi5", agreements := { publication := "private" } })], by simp⟩

theorem private_choice_kept_once :
    isPrivate (some (PrivateNodeIds.ofRegistered {⟨"ret00000001", by simp⟩})) ⟨"ret00000001", by simp⟩ = true := by
  let start := World.boot publication onePrivateNode 0
  have due : Due publication start (start.step publication .invalidate) [] := ⟨rfl, .inl rfl⟩
  have stands : Along (World.step publication) (ChoiceStands ⟨"ret00000001", by simp⟩) (start.step publication .invalidate)
      ([] ++ .act 0 .call :: (readingCall fun _ => false).tail) := by
    refine along_of_invariant (I := fun w => w.shared.source = onePrivateNode)
      (fun w e same (plain : ∃ a, e = .act 0 a ∧ a ≠ .query none) => ?_) (fun w e same plain => ⟨?_, fun k raised => ?_⟩) rfl ?_
    · obtain ⟨a, rfl, -⟩ := plain
      exact (act_effect _ _ _ a).source.trans same
    · rw [same]
      exact ⟨_, rfl, rfl⟩
    · obtain ⟨a, rfl, ok⟩ := plain
      cases raised
      exact absurd rfl ok
    · rw [along_iff_split]
      intro first e rest parts
      have listed : e ∈ readingCall fun _ : Ident => false := by
        rw [show readingCall (fun _ : Ident => false) = first ++ e :: rest from parts]
        simp
      simp only [readingCall, List.cons_append, List.mem_cons, List.mem_append, List.mem_replicate] at listed
      rcases listed with rfl | ⟨-, rfl⟩ | rfl | ⟨-, rfl⟩ <;> simp
  exact (private_choice_kept (τ := ℕ) ⟨onePrivateNode, 0, [], le_rfl, rfl⟩ due (.inl rfl) stands _ rfl).1

section
variable {w w' : World RadarsTable (Finset String)} {before after : List (Event RadarsTable Unit)}

theorem isPrefixOf_polled (polled : systemOf n = some POLLED_BLAH2) : POLLED_BLAH2.toList.isPrefixOf n.toList = true := by
  simp only [systemOf] at polled
  split at polled
  · have letters : n.toList.take 3 = POLLED_BLAH2.toList := by
      rw [← Option.some.inj polled, String.toList_ofList]
    rw [List.isPrefixOf_iff_prefix, ← letters]
    exact List.take_prefix 3 _
  · cases polled

theorem passes_iff (polled : systemOf n = some POLLED_BLAH2) (graduated : Finset String) :
    inProbation true graduated n = false ↔ n ∈ graduated := by
  simp [inProbation, isPrefixOf_polled polled, polled]

/-- A polled node is let through only if it has graduated: a call that begins after an invalidation, or a lifetime after
a change, lets through none that was not graduated at some moment since, whichever reads raise. -/
theorem only_graduated_pass (reached : Reached probation w) (due : Due probation w w' before)
    (ready : Ready (run (World.step probation) w' before) i)
    (answered : (run (World.step probation) w' (before ++ .act i .call :: after)).stage i = .done (some graduated))
    (polled : systemOf n = some POLLED_BLAH2) (passed : inProbation true graduated n = false) :
    ∃ first rest, before ++ .act i .call :: after = first ++ rest ∧
      Graduated n (run (World.step probation) w' first).shared.source := by
  have seen := good_when_due
    (fun known => n ∈ known → ∃ first rest, before ++ .act i .call :: after = first ++ rest ∧
      Graduated n (run (World.step probation) w' first).shared.source)
    (by norm_num [probation]) (by norm_num [probation]) reached due ready after ?_ answered
  · exact seen ((passes_iff polled graduated).mp passed)
  rw [along_iff_split]
  rintro first e rest parts k consulted rfl stage
  cases consulted with
  | none => exact fun no => absurd no (Finset.notMem_empty n)
  | some c => exact fun listed => ⟨first, _, parts, (mem_load_probation n _ c).mp listed⟩

end

def oneGraduated : RadarsTable :=
  ⟨[("bla00000001", {
    epoch := 1
    endpointRaw := ""
    scheme := "http"
    host := "192.0.2.1"
    port := 49152
    endpointKey := ""
    authUser := none
    authSecretEnc := none
    lastResolvedIp := none
    resolvedAt := none
    configFingerprint := ""
    probePassedAt := 0
    endpointChangedAt := 0
    trustState := .graduated
    unprotected := true
    liveness := "live"
    consecutiveFailures := 0
    createdAt := 0 })], by simp⟩

theorem only_graduated_pass_once :
    ∃ first rest, [] ++ readingCall () = first ++ rest ∧ Graduated "bla00000001"
      (run (World.step probation) ((World.boot probation oneGraduated 0).step probation .invalidate) first).shared.source := by
  let start := World.boot probation oneGraduated 0
  have due : Due probation start (start.step probation .invalidate) [] := ⟨rfl, .inl rfl⟩
  have answered : (run (World.step probation) (start.step probation .invalidate) ([] ++ .act 0 .call :: (readingCall ()).tail)).stage 0 =
      .done (some {"bla00000001"}) := rfl
  exact only_graduated_pass ⟨oneGraduated, 0, [], le_rfl, rfl⟩ due (.inl rfl) answered (by decide) (by decide)

/-! ### The first read, and the rate of reads -/

/-- Nothing is published under a policy that was not read: what a call is answered came of a read of this run, and once
a read has succeeded no call is turned away. -/
theorem policy_read_before_answering (nodes : NodesTable) (clock : ℚ) (events : List (Event NodesTable (Ident → Bool))) (i : ℕ) :
    let w := run (World.step publication) (World.boot publication nodes clock) events
    (∀ known, w.stage i = .done (some known) →
      ∃ first k probed rest, events = first ++ .act k (.query (some probed)) :: rest ∧
        (run (World.step publication) (World.boot publication nodes clock) first).stage k = .querying ∧
        known = publication.load (run (World.step publication) (World.boot publication nodes clock) first).shared.source probed) ∧
    (w.shared.haveData = true → Ready w i → ∀ later answer,
      (run (World.step publication) w (.act i .call :: later)).stage i = .done answer → answer.isSome = true) := by
  intro w
  constructor
  · intro known answered
    exact answered_was_read rfl (fun _ => rfl) nodes clock events answered
  · intro read ready later answer answered
    exact called_served read ready later answered

/-- However many threads ask and however many reads raise, the tables are read no more than once for each retry interval
and each invalidation, and once besides. -/
theorem policy_reads_spaced (nodes : NodesTable) (radars : RadarsTable) (clock : ℚ) (start : 0 ≤ clock)
    (events : List (Event NodesTable (Ident → Bool))) (events' : List (Event RadarsTable Unit)) :
    let g := (run (World.step publication) (World.boot publication nodes clock) events).shared
    let g' := (run (World.step probation) (World.boot probation radars clock) events').shared
    g.reads * 5 ≤ (g.clock - clock) + (g.invalidations + 1) * 5 ∧
      g'.reads * 2 ≤ (g'.clock - clock) + (g'.invalidations + 1) * 2 :=
  ⟨reads_bounded publication (by norm_num [publication]) (by norm_num [publication]) nodes start events,
    reads_bounded probation (by norm_num [probation]) (by norm_num [probation]) radars start events'⟩

theorem policy_reads_spaced_once :
    let g := (run (World.step publication) (World.boot publication onePrivateNode 0) (readingCall fun _ => false)).shared
    let g' := (run (World.step probation) (World.boot probation oneGraduated 0) (readingCall ())).shared
    g.reads * 5 ≤ (g.clock - 0) + (g.invalidations + 1) * 5 ∧ g'.reads * 2 ≤ (g'.clock - 0) + (g'.invalidations + 1) * 2 :=
  policy_reads_spaced onePrivateNode oneGraduated 0 le_rfl (readingCall fun _ => false) (readingCall ())

end Retina.Feed
