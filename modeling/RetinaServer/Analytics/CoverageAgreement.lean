import RetinaServer.Analytics.CoverageRebuild

/-! Runs of the coverage rebuild queue: that every queued node has its turn, and that the recorded digests are those
the grids were built under, for as long as every rebuild completes under the constraint it was queued for. -/
namespace Retina.Analytics.CoverageState
open Runs

variable {γ : Type}

/-! ### What the maps keep -/

structure Sound (s : CoverageState γ) : Prop where
  registered : s.nodeGeometries.Nodup
  sameKeys : s.pending.keys = s.pendingSince.keys

theorem Sound.boot : Sound ({} : CoverageState γ) := ⟨List.nodup_nil, rfl⟩

theorem drain_nodes (outcome : String → Rebuild γ) (maxNodes : Nat) (s : CoverageState γ) :
    (s.drainCoverageRebuilds outcome maxNodes).1.nodeGeometries = s.nodeGeometries := by
  induction maxNodes generalizing s with
  | zero => rfl
  | succ left ih =>
    rw [drainCoverageRebuilds]
    split
    · rfl
    · rename_i nodeId digest items shape
      cases outcome nodeId with
      | raised => rfl
      | built pairs live => exact ih _

/-! ### Agreement of the digests with the grids -/

/-- The recorded digest of a registered node is that of the constraint its grids were last built under. -/
def Agreed (s : CoverageState γ) : Prop :=
  ∀ n ∈ s.nodeGeometries, ∀ digest, s.digests.get? n = some digest → s.built.get? n = some (some digest)

/-- Every node that the drain takes is rebuilt. -/
def Completes (s : CoverageState γ) : Event γ → Prop
  | .drain maxNodes outcome => ∀ n ∈ s.taken maxNodes outcome, ∃ pairs live, outcome n = .built pairs live
  | _ => True

/-- Every rebuild completes, under a constraint that has the digest the node was queued with; and where a node
registers that has a digest on record, its grids are built under a constraint of that digest. -/
def Faithful (s : CoverageState γ) : Event γ → Prop
  | .drain maxNodes outcome => ∀ n ∈ s.taken maxNodes outcome, ∃ pairs live, outcome n = .built pairs live ∧
      (n ∈ s.nodeGeometries → live.map quantizeDigest = s.pending.get? n)
  | .join n live => ∀ digest, s.digests.get? n = some digest → live.map quantizeDigest = some digest
  | _ => True

/-- The grids after one turn of a drain. -/
theorem get?_built (s : CoverageState γ) (nodeId : String) (digest : QuantizedDigest γ) (pairs : Nat)
    (live : Option (Digest γ)) (n : String) :
    ((s.dequeue nodeId digest).rebuilt nodeId pairs live).built.get? n =
      if nodeId = n ∧ n ∈ s.nodeGeometries then some (live.map quantizeDigest) else s.built.get? n := by
  show (if nodeId ∈ s.nodeGeometries then s.built.insert nodeId (live.map quantizeDigest) else s.built).get? n = _
  by_cases own : nodeId = n
  · subst own
    by_cases registered : nodeId ∈ s.nodeGeometries
    · rw [if_pos registered, Dict.get?_insert_self, if_pos ⟨rfl, registered⟩]
    · rw [if_neg registered, if_neg fun both => registered both.2]
  · by_cases registered : nodeId ∈ s.nodeGeometries
    · rw [if_pos registered, Dict.get?_insert_ne _ _ own, if_neg fun both => own both.1]
    · rw [if_neg registered, if_neg fun both => own both.1]

theorem drain_agreed (outcome : String → Rebuild γ) (maxNodes : Nat) (s : CoverageState γ) (agreed : Agreed s)
    (faithful : Faithful s (.drain maxNodes outcome)) : Agreed (s.drainCoverageRebuilds outcome maxNodes).1 := by
  induction maxNodes generalizing s with
  | zero => exact agreed
  | succ left ih =>
    rw [drainCoverageRebuilds]
    split
    · exact agreed
    · rename_i nodeId digest items shape
      obtain ⟨after, before⟩ := keys_dequeue shape
      have head : s.pending.get? nodeId = some digest := (Dict.get?_eq_some_iff ..).mpr (shape ▸ List.mem_cons_self)
      have once : nodeId ∉ items.map Prod.fst := by
        have distinct := s.pending.nodup
        rw [shape] at distinct
        exact (List.nodup_cons.mp distinct).1
      simp only [Faithful, taken, before, turnsTaken] at faithful
      cases result : outcome nodeId with
      | raised =>
        simp only [result] at faithful
        obtain ⟨pairs, live, completed, -⟩ := faithful nodeId (by simp)
        cases result.symm.trans completed
      | built pairs live =>
        simp only [result, List.take_succ_cons, List.mem_cons, forall_eq_or_imp] at faithful
        obtain ⟨⟨pairs', live', completed, constraint⟩, later⟩ := faithful
        obtain ⟨rfl, rfl⟩ := Rebuild.built.inj completed
        refine ih _ (fun n registered d recorded => ?_) ?_
        · -- the node itself has just been built under its queued digest, the others are as before
          have recorded : (s.digests.insert nodeId digest).get? n = some d := recorded
          have registered : n ∈ s.nodeGeometries := registered
          rw [get?_built]
          by_cases own : nodeId = n
          · subst own
            rw [Dict.get?_insert_self] at recorded
            rw [if_pos ⟨rfl, registered⟩, constraint registered, head, recorded]
          · rw [Dict.get?_insert_ne _ _ own] at recorded
            rw [if_neg fun both => own both.1]
            exact agreed n registered d recorded
        · intro n listed
          have keys : ((s.dequeue nodeId digest).rebuilt nodeId pairs live).pending.keys = items.map Prod.fst := after
          rw [taken, keys] at listed
          obtain ⟨pairs', live', completed, constraint'⟩ := later n listed
          refine ⟨pairs', live', completed, fun registered => (constraint' registered).trans ?_⟩
          have other : nodeId ≠ n := fun own => once (own ▸ List.mem_of_mem_take listed)
          exact (Dict.get?_erase_ne s.pending other).symm

/-! ### A digest that has stopped moving -/

/-- The node is queued with the digest, or has it on record. -/
def Owed (n : String) (digest : QuantizedDigest γ) (s : CoverageState γ) : Prop :=
  s.pending.get? n = some digest ∨ s.pending.get? n = none ∧ s.digests.get? n = some digest

theorem drain_owed (outcome : String → Rebuild γ) (maxNodes : Nat) (s : CoverageState γ) (owed : Owed n digest s) :
    Owed n digest (s.drainCoverageRebuilds outcome maxNodes).1 := by
  induction maxNodes generalizing s with
  | zero => exact owed
  | succ left ih =>
    rw [drainCoverageRebuilds]
    split
    · exact owed
    · rename_i nodeId queued items shape
      have head : s.pending.get? nodeId = some queued := (Dict.get?_eq_some_iff ..).mpr (shape ▸ List.mem_cons_self)
      have next : Owed n digest (s.dequeue nodeId queued) := by
        simp only [Owed, dequeue]
        by_cases own : nodeId = n
        · subst own
          rw [Dict.get?_erase_self, Dict.get?_insert_self]
          rcases owed with pending | ⟨unqueued, -⟩
          · exact .inr ⟨rfl, head.symm.trans pending⟩
          · cases unqueued.symm.trans head
        · rwa [Dict.get?_erase_ne _ own, Dict.get?_insert_ne _ _ own]
      cases outcome nodeId with
      | raised => exact next
      | built pairs live => exact ih _ next

variable [DecidableEq γ]

theorem Sound.step (sound : Sound s) (e : Event γ) : Sound (step s e) := by
  cases e with
  | join n live =>
    refine ⟨?_, sound.sameKeys⟩
    show (if n ∈ s.nodeGeometries then s.nodeGeometries else s.nodeGeometries ++ [n]).Nodup
    split
    · exact sound.registered
    · rename_i new
      exact List.nodup_append.mpr ⟨sound.registered, List.nodup_singleton n, fun m listed m' last same =>
        new (List.mem_singleton.mp last ▸ same ▸ listed)⟩
  | leave n => exact ⟨sound.registered.erase n, sound.sameKeys⟩
  | scan nowS reads =>
    refine ⟨?_, scan_sameKeys nowS reads _ s sound.sameKeys⟩
    rw [CoverageState.step, scanCoverageConstraints, (scan_frame nowS reads _ s).1]
    exact sound.registered
  | drain maxNodes outcome =>
    refine ⟨?_, drain_sameKeys outcome maxNodes s sound.sameKeys⟩
    rw [CoverageState.step, drain_nodes]
    exact sound.registered

theorem Agreed.step (sound : Sound s) (agreed : Agreed s) (e : Event γ) (faithful : Faithful s e) : Agreed (step s e) := by
  cases e with
  | join n live =>
    intro m registered digest recorded
    show (s.built.insert n (live.map quantizeDigest)).get? m = _
    by_cases own : n = m
    · subst own
      rw [Dict.get?_insert_self, faithful digest recorded]
    · rw [Dict.get?_insert_ne _ _ own]
      refine agreed m ?_ digest recorded
      have listed : m ∈ (if n ∈ s.nodeGeometries then s.nodeGeometries else s.nodeGeometries ++ [n]) := registered
      split at listed
      · exact listed
      · exact (List.mem_append.mp listed).resolve_right fun last => own (List.mem_singleton.mp last).symm
  | leave n =>
    intro m registered digest recorded
    obtain ⟨other, registered⟩ := (List.Nodup.mem_erase_iff sound.registered).mp registered
    exact (Dict.get?_erase_ne s.built (Ne.symm other)).trans (agreed m registered digest recorded)
  | scan nowS reads =>
    obtain ⟨nodes, built, digests⟩ := scan_frame nowS reads s.nodeGeometries s
    intro m registered digest recorded
    rw [CoverageState.step, scanCoverageConstraints] at registered recorded ⊢
    rw [built]
    exact agreed m (nodes ▸ registered) digest (digests ▸ recorded)
  | drain maxNodes outcome => exact drain_agreed outcome maxNodes s agreed faithful

/-! ### Digests that have stopped moving, under the scans -/

/-- The next scan asks for the node's digest. -/
def Due (s : CoverageState γ) (nowS : ℚ) (n : String) : Prop :=
  n ∈ s.nodeGeometries ∧ ¬ ((s.digests.get? n).isSome ∧ nowS < (s.nextCheck.get? n).getD 0)

theorem Checked.owed (h : Checked s n nowS (some digest) s') (owed : Owed n (quantizeDigest digest) s) :
    Owed n (quantizeDigest digest) s' := by
  cases h with
  | skipped => exact owed
  | withdrawn read asked back =>
    cases asked
    exact .inr ⟨Dict.get?_erase_self _ _, back⟩
  | queued read asked moved =>
    cases asked
    exact .inl (Dict.get?_insert_self _ _ _)

theorem foldl_owed {reads : String → Option (Digest γ)} (asked : reads n = some digest) (nowS : ℚ) (nodes : List String)
    (s : CoverageState γ) (owed : Owed n (quantizeDigest digest) s) :
    Owed n (quantizeDigest digest) (nodes.foldl (checkNode nowS reads) s) := by
  induction nodes generalizing s with
  | nil => exact owed
  | cons m rest ih =>
    refine ih _ ?_
    have here := checked nowS reads s m
    by_cases own : m = n
    · subst own
      rw [asked] at here
      exact here.owed owed
    · rw [Owed, (here.others own).1, here.frame.2.2]
      exact owed

theorem checkNode_owed {reads : String → Option (Digest γ)} (asked : reads n = some digest) (due : Due s nowS n) :
    Owed n (quantizeDigest digest) (checkNode nowS reads s n) := by
  rw [checkNode, if_neg due.2, asked, Option.map_some]
  simp only [Owed]
  split
  · rename_i back
    exact .inr ⟨Dict.get?_erase_self _ _, back⟩
  · exact .inl (Dict.get?_insert_self _ _ _)

/-- A scan that asks for a digest leaves the node queued with it, or finds it on record. -/
theorem scan_owed {reads : String → Option (Digest γ)} (sound : Sound s) (asked : reads n = some digest)
    (due : Due s nowS n) : Owed n (quantizeDigest digest) (s.scanCoverageConstraints nowS reads).1 := by
  obtain ⟨first, rest, split⟩ := List.append_of_mem due.1
  have once : n ∉ first := by
    have distinct := sound.registered
    rw [split, List.nodup_append] at distinct
    exact fun early => distinct.2.2 n early n List.mem_cons_self rfl
  rw [scanCoverageConstraints, split, List.foldl_append, List.foldl_cons]
  refine foldl_owed asked nowS rest _ (checkNode_owed asked ?_)
  obtain ⟨nodes, -, digests⟩ := scan_frame nowS reads first s
  rw [Due, nodes, digests, (scan_others nowS reads first s once).2]
  exact due

/-- The node's digest, wherever the event asks for it. -/
def Reads (n : String) (digest : Digest γ) : Event γ → Prop
  | .scan _ reads => reads n = some digest
  | _ => True

theorem Owed.step (owed : Owed n (quantizeDigest digest) s) (e : Event γ) (steady : Reads n digest e) :
    Owed n (quantizeDigest digest) (step s e) := by
  cases e with
  | join => exact owed
  | leave => exact owed
  | scan nowS reads => exact foldl_owed steady nowS _ s owed
  | drain maxNodes outcome => exact drain_owed outcome maxNodes s owed

theorem owed_run (owed : Owed n (quantizeDigest digest) s) (events : List (Event γ))
    (steady : ∀ e ∈ events, Reads n digest e) : Owed n (quantizeDigest digest) (run step s events) := by
  induction events generalizing s with
  | nil => exact owed
  | cons e rest ih =>
    exact ih (owed.step e (steady e List.mem_cons_self)) fun e' member => steady e' (List.mem_cons_of_mem _ member)

theorem sound_run (events : List (Event γ)) : Sound (run step ({} : CoverageState γ) events) :=
  invariant_always (fun _ e sound => sound.step e) Sound.boot events

theorem agreed_run {events : List (Event γ)} (faithful : Along step Faithful {} events) : Agreed (run step {} events) :=
  (invariant (I := fun s => Sound s ∧ Agreed s)
    (fun _ e held allowed => ⟨held.1.step e, held.2.step held.1 e allowed⟩)
    ⟨Sound.boot, fun _ listed => by cases listed⟩ faithful).2

/-- A node that has been asked for since its digest stopped moving, and is not queued, has its grids built under it. -/
theorem settled {before after : List (Event γ)} {reads : String → Option (Digest γ)}
    (faithful : Along step Faithful {} (before ++ .scan nowS reads :: after)) (due : Due (run step {} before) nowS n)
    (steady : ∀ e ∈ Event.scan nowS reads :: after, Reads n digest e)
    (unqueued : n ∉ (run step {} (before ++ .scan nowS reads :: after)).pending.keys)
    (registered : n ∈ (run step {} (before ++ .scan nowS reads :: after)).nodeGeometries) :
    (run step {} (before ++ .scan nowS reads :: after)).built.get? n = some (some (quantizeDigest digest)) := by
  refine agreed_run faithful n registered _ ?_
  have asked := scan_owed (sound_run before) (steady _ List.mem_cons_self) due
  have owed := owed_run asked after fun e member => steady e (List.mem_cons_of_mem _ member)
  rw [mem_pending_iff, not_not] at unqueued
  rw [run_append, run_cons] at unqueued ⊢
  rcases owed with queued | ⟨-, recorded⟩
  · cases queued.symm.trans unqueued
  · exact recorded

/-! ### The turns of the queue -/

def isDrain : Event γ → Bool
  | .drain _ _ => true
  | _ => false

/-- The drains of the run are of so many nodes at most. -/
def DrainsOf (maxNodes : Nat) : Event γ → Prop
  | .drain most _ => most = maxNodes
  | _ => True

/-- A drain takes the node to rebuild it, or a scan withdraws it. -/
def RebuiltOrWithdrawn (s : CoverageState γ) (n : String) : Event γ → Prop
  | .drain maxNodes outcome => n ∈ s.taken maxNodes outcome
  | .scan nowS reads => n ∈ s.pending.keys ∧ n ∉ (s.scanCoverageConstraints nowS reads).1.pending.keys
  | _ => False

/-- Within the run the node has its turn. -/
def HasItsTurn (s : CoverageState γ) (n : String) (later : List (Event γ)) : Prop :=
  ∃ before e after, later = before ++ e :: after ∧ RebuiltOrWithdrawn (run step s before) n e

theorem rebuiltOrWithdrawn_of_gone {s : CoverageState γ} {e : Event γ} (queued : n ∈ s.pending.keys)
    (gone : n ∉ (step s e).pending.keys) : RebuiltOrWithdrawn s n e := by
  cases e with
  | join => exact gone queued
  | leave => exact gone queued
  | scan nowS reads => exact ⟨queued, gone⟩
  | drain maxNodes outcome =>
    rw [step, drain_keys] at gone
    rw [← List.take_append_drop (turnsTaken outcome maxNodes s.pending.keys) s.pending.keys, List.mem_append] at queued
    exact queued.resolve_right gone

/-- A drain that empties the queue has as many turns to give as it may take. -/
def turnsGiven (s : CoverageState γ) : Event γ → Nat
  | .drain maxNodes outcome =>
      let turns := turnsTaken outcome maxNodes s.pending.keys
      if turns = s.pending.keys.length then max maxNodes turns else turns
  | _ => 0

theorem moves_step (sound : Sound s) (e : Event γ) :
    Queueing.Moves (turnsGiven s e) s.pending.keys (step s e).pending.keys := by
  cases e with
  | join => exact .refl _
  | leave => exact .refl _
  | scan nowS reads => exact (foldl_keepsPlaces nowS reads sound.registered s sound.sameKeys).order.moves
  | drain maxNodes outcome =>
    have left : s.pending.keys.drop (turnsTaken outcome maxNodes s.pending.keys) =
        s.pending.keys.drop (turnsGiven s (.drain maxNodes outcome)) := by
      simp only [turnsGiven]
      split
      · rename_i emptied
        rw [List.drop_eq_nil_of_le (le_max_of_le_right emptied.ge), emptied, List.drop_length]
      · rfl
    rw [step, drain_keys, left]
    exact .of_drop _ _

omit [DecidableEq γ] in
theorem turnsGiven_of_completes (s : CoverageState γ) (e : Event γ) (complete : DrainsOf maxNodes e ∧ Completes s e)
    (drain : isDrain e = true) : maxNodes ≤ turnsGiven s e := by
  cases e with
  | drain most outcome =>
    obtain ⟨rfl, complete⟩ := complete
    have turns := turnsTaken_eq outcome most s.pending.keys complete
    simp only [turnsGiven]
    split
    · exact le_max_left _ _
    · omega
  | _ => cases drain

omit [DecidableEq γ] in
theorem turnsGiven_pos (positive : 0 < maxNodes) (s : CoverageState γ) (e : Event γ) (drains : DrainsOf maxNodes e)
    (drain : isDrain e = true) : 1 ≤ turnsGiven s e := by
  cases e with
  | drain most outcome =>
    obtain rfl : most = maxNodes := drains
    simp only [turnsGiven]
    split
    · exact le_max_of_le_left positive
    · rename_i left
      refine turnsTaken_pos outcome positive fun empty => left ?_
      rw [empty]
      cases most <;> rfl
  | _ => cases drain

theorem hasItsTurn (sound : Sound s) (queued : n ∈ s.pending.keys) (later : List (Event γ))
    (enough : s.pending.keys.idxOf n < Queueing.turns step turnsGiven s later) : HasItsTurn s n later := by
  obtain ⟨before, e, after, split, here, gone⟩ := Queueing.leaves_of_turns (I := Sound)
    (fun s : CoverageState γ => s.pending.keys) (fun _ e sound => sound.step e)
    (fun s _ => s.pending.nodup) (fun _ e sound => moves_step sound e) sound queued later enough
  exact ⟨before, e, after, split, rebuiltOrWithdrawn_of_gone here gone⟩

/-! ### The bookkeeping -/

/-- In every run the two maps of the queue have the same keys, in one order, and a scan leaves what stays queued its
place and its wait. A queued node has its turn within as many drains as there are nodes up to it, by the drain's budget
where no rebuild raises. Where every rebuild is faithful the digests on record are those of the grids, and a node that
was asked for since its digest stopped moving has its grids under that digest once the queue is empty. -/
theorem coverage_bookkeeping (events : List (Event γ)) :
    (run step {} events).pending.keys = (run step {} events).pendingSince.keys ∧
      (∀ nowS reads, KeepsPlaces (run step {} events) ((run step {} events).scanCoverageConstraints nowS reads).1) ∧
      (∀ n ∈ (run step {} events).pending.keys, ∀ maxNodes, 0 < maxNodes → ∀ later : List (Event γ),
        (∀ e ∈ later, DrainsOf maxNodes e) →
          ((run step {} events).pending.keys.idxOf n + 1 ≤ later.countP isDrain →
            HasItsTurn (run step {} events) n later) ∧
          (Along step Completes (run step {} events) later →
            ((run step {} events).pending.keys.idxOf n + 1 + (maxNodes - 1)) / maxNodes ≤ later.countP isDrain →
            HasItsTurn (run step {} events) n later)) ∧
      (Along step Faithful {} events → Agreed (run step {} events) ∧
        ∀ before nowS reads after n digest, events = before ++ .scan nowS reads :: after →
          Due (run step {} before) nowS n → (∀ e ∈ Event.scan nowS reads :: after, Reads n digest e) →
          (run step {} events).pending.keys = [] → n ∈ (run step {} events).nodeGeometries →
          (run step {} events).built.get? n = some (some (quantizeDigest digest))) := by
  have sound := sound_run events
  refine ⟨sound.sameKeys, fun nowS reads => foldl_keepsPlaces nowS reads sound.registered _ sound.sameKeys, ?_, ?_⟩
  · intro n queued maxNodes positive later drains
    have drains : Along step (fun _ e => DrainsOf maxNodes e) (run step {} events) later :=
      (along_iff_split ..).mpr fun before e after split => drains e (split ▸ by simp)
    constructor
    · intro enough
      have turns := Queueing.mul_countP_le_turns (turnsGiven_pos positive) drains
      exact hasItsTurn sound queued later (by omega)
    · intro complete enough
      have turns := Queueing.mul_countP_le_turns turnsGiven_of_completes
        ((along_and step _ _ _ later).mpr ⟨drains, complete⟩)
      have places := (Nat.div_le_iff_le_mul_add_pred positive).mp enough
      exact hasItsTurn sound queued later (by omega)
  · intro faithful
    refine ⟨agreed_run faithful, ?_⟩
    rintro before nowS reads after n digest rfl due steady empty registered
    exact settled faithful due steady (by simp [empty]) registered

/-- A limit of 40 km at registration, one of 10 km when the node is scanned, and a rebuild that fails. -/
def failedRebuild : List (Event String) :=
  [.join "node-1" (some [.limit 40]), .scan 0 (fun _ => some [.limit 10]), .drain 3 (fun _ => .raised)]

/-- The digest is on record, and is not that of the grids. -/
theorem failed_rebuild_recorded : ¬ ∀ events : List (Event String), Agreed (run step {} events) := by
  intro agreed
  have recorded := agreed failedRebuild "node-1" (by decide +kernel) [.limit 5] (by decide +kernel)
  exact absurd recorded (by decide +kernel)

/-- The same node, rebuilt. -/
def completedRebuild : List (Event String) :=
  [.join "node-1" (some [.limit 40]), .scan 0 (fun _ => some [.limit 10]),
    .drain 3 (fun _ => .built 1 (some [.limit 10]))]

theorem completed_rebuild_settled :
    (run step {} completedRebuild).built.get? "node-1" = some (some [.limit 5]) := by
  have faithful : Along step Faithful {} completedRebuild := by
    simp only [completedRebuild, Along]
    refine ⟨?_, trivial, ?_, trivial⟩
    · intro digest recorded
      cases recorded
    · intro n listed
      refine ⟨1, _, rfl, fun _ => ?_⟩
      rw [List.mem_singleton.mp (show n ∈ ["node-1"] from listed)]
      decide +kernel
  have settled := ((coverage_bookkeeping completedRebuild).2.2.2 faithful).2 [.join "node-1" (some [.limit 40])] 0
    (fun _ => some [.limit 10]) [.drain 3 (fun _ => .built 1 (some [.limit 10]))] "node-1" [.limit 10] rfl
    ⟨by decide +kernel, by decide +kernel⟩ ?_ (by decide +kernel) (by decide +kernel)
  · exact settled.trans (by decide +kernel)
  · intro e member
    rcases List.mem_cons.mp member with rfl | member
    · rfl
    · rw [List.mem_singleton.mp member]
      trivial

end Retina.Analytics.CoverageState
