import RetinaServer.Limits.FixedWindowCounters
import Mathlib.Data.Finset.Card
import Mathlib.Data.Finset.Prod

/-! How many counters a map that refuses when full can come to hold. Its owners are
bounded; the claim limiter's calls have two of them, and one can bring in the other. -/
namespace Retina.Limits
open Runs FixedWindowCounters

section
variable {κ : Type u} {ι : Type v} {τ : Type w} [DecidableEq κ] [DecidableEq ι] (owner : κ → ι) (place : κ → τ)
  {parties maxTracked : Nat}

/-- The distinct owners of the keys in the map. -/
def owners (c : FixedWindowCounters κ) : Finset ι := (c.counters.keys.map owner).toFinset

def specOwners (specs : List (Spec κ)) : Finset ι := (specs.map fun spec => owner spec.key).toFinset

/-- Past a full map, a request one of whose keys is tracked names no owner the map does not hold. -/
def CarriesNoStranger (c : FixedWindowCounters κ) (now : ℚ) (specs : List (Spec κ)) : Prop :=
  let c := c.reclaimIfCrowded now
  c.maxTracked ≤ c.counters.size → (∃ spec ∈ specs, spec.key ∈ c.counters.keys) →
    specOwners owner specs ⊆ owners owner c

instance (c : FixedWindowCounters κ) (now : ℚ) (specs : List (Spec κ)) :
    Decidable (CarriesNoStranger owner c now specs) :=
  inferInstanceAs (Decidable (_ → _ → specOwners owner specs ⊆ owners owner (c.reclaimIfCrowded now)))

omit [DecidableEq κ] in
theorem mem_owners {c : FixedWindowCounters κ} : o ∈ owners owner c ↔ ∃ k ∈ c.counters.keys, owner k = o := by
  simp [owners]

omit [DecidableEq κ] in
theorem mem_specOwners {specs : List (Spec κ)} : o ∈ specOwners owner specs ↔ ∃ spec ∈ specs, owner spec.key = o := by
  simp [specOwners]

theorem card_keys (d : Dict κ α) : d.keys.toFinset.card = d.size := by
  have length : d.keys.length = d.size := List.length_map _
  rw [← length]
  exact List.toFinset_card_of_nodup d.nodup

/-- An owner has at most one key in each place. -/
theorem size_le_of_places [DecidableEq τ] (places : Finset τ) (c : FixedWindowCounters κ)
    (apart : Function.Injective fun k => (place k, owner k))
    (placed : ∀ k ∈ c.counters.keys, place k ∈ places) :
    c.counters.size ≤ places.card * (owners owner c).card := by
  have into : ∀ k ∈ c.counters.keys.toFinset, (place k, owner k) ∈ places ×ˢ owners owner c := by
    intro k member
    have listed := List.mem_toFinset.mp member
    exact Finset.mem_product.mpr ⟨placed k listed, (mem_owners owner).mpr ⟨k, listed, rfl⟩⟩
  rw [← card_keys, ← Finset.card_product]
  exact Finset.card_le_card_of_injOn _ into apart.injOn

omit [DecidableEq κ] in
theorem card_owners_le (c : FixedWindowCounters κ) : (owners owner c).card ≤ c.counters.size := by
  have bound : (owners owner c).card ≤ (c.counters.keys.map owner).length := List.toFinset_card_le _
  simpa [Dict.keys, Dict.size] using bound

theorem mem_keys_spendAll (now : ℚ) (counters : Dict κ Counter) (specs : List (Spec κ)) :
    k ∈ (specs.foldl (spend now) counters).keys ↔ k ∈ counters.keys ∨ ∃ spec ∈ specs, spec.key = k := by
  induction specs generalizing counters with
  | nil => simp
  | cons spec rest ih =>
    rw [List.foldl_cons, ih, spend, Dict.mem_keys_insert]
    simp only [List.mem_cons, exists_eq_or_imp]
    constructor
    · rintro ((rfl | before) | later)
      · exact .inr (.inl rfl)
      · exact .inl before
      · exact .inr (.inr later)
    · rintro (before | rfl | later)
      · exact .inl (.inr before)
      · exact .inl (.inl rfl)
      · exact .inr later

/-- Every key after a request was there before it or is named by it. -/
theorem mem_keys_admitRequest (c : FixedWindowCounters κ) (now : ℚ) (specs : List (Spec κ))
    (member : k ∈ (c.admitRequest now specs).2.counters.keys) :
    k ∈ c.counters.keys ∨ ∃ spec ∈ specs, spec.key = k := by
  obtain ⟨wait, refused⟩ | ⟨-, -, admitted⟩ := admitRequest_cases c now specs
  · rw [refused] at member
    exact .inl (reclaim_keys_subset c now member)
  · rw [admitted, mem_keys_spendAll] at member
    exact member.imp_left fun listed => reclaim_keys_subset c now listed

omit [DecidableEq κ] in
theorem owners_reclaim_subset (c : FixedWindowCounters κ) (now : ℚ) :
    owners owner (c.reclaimIfCrowded now) ⊆ owners owner c := by
  intro o member
  obtain ⟨k, listed, named⟩ := (mem_owners owner).mp member
  exact (mem_owners owner).mpr ⟨k, reclaim_keys_subset c now listed, named⟩

/-- A map that refuses when full, whose keys have their places and whose owners are few. -/
structure Bounded (places : Finset τ) (parties maxTracked : Nat) (c : FixedWindowCounters κ) : Prop where
  configured : c.maxTracked = maxTracked ∧ c.refuseWhenFull = true
  placed : ∀ k ∈ c.counters.keys, place k ∈ places
  few : (owners owner c).card ≤ parties * maxTracked

/-- The step lemma: owners come in only while there is room, or not at all. -/
theorem Bounded.request {places : Finset τ} {c : FixedWindowCounters κ}
    (bounded : Bounded owner place places parties maxTracked c) (now : ℚ) (specs : List (Spec κ))
    (placed : ∀ spec ∈ specs, place spec.key ∈ places) (parted : (specOwners owner specs).card ≤ parties)
    (some_party : 0 < parties) (carries : CarriesNoStranger owner c now specs) :
    Bounded owner place places parties maxTracked (c.admitRequest now specs).2 := by
  constructor
  · simpa using bounded.configured
  · intro k member
    rcases mem_keys_admitRequest c now specs member with before | ⟨spec, listed, rfl⟩
    · exact bounded.placed k before
    · exact placed spec listed
  · have fewer := (Finset.card_le_card (owners_reclaim_subset owner c now)).trans bounded.few
    obtain ⟨wait, refused⟩ | ⟨acquainted, -, admitted⟩ := admitRequest_cases c now specs
    · rwa [refused]
    · have joined : owners owner (c.admitRequest now specs).2 ⊆
          owners owner (c.reclaimIfCrowded now) ∪ specOwners owner specs := by
        intro o member
        obtain ⟨k, listed, rfl⟩ := (mem_owners owner).mp member
        rw [admitted, mem_keys_spendAll] at listed
        rcases listed with before | ⟨spec, named, rfl⟩
        · exact Finset.mem_union_left _ ((mem_owners owner).mpr ⟨k, before, rfl⟩)
        · exact Finset.mem_union_right _ ((mem_specOwners owner).mpr ⟨spec, named, rfl⟩)
      by_cases crowded : (c.reclaimIfCrowded now).maxTracked ≤ (c.reclaimIfCrowded now).counters.size
      · -- A full map admits only a caller it knows, and that caller brings nobody.
        have known : ∃ spec ∈ specs, spec.key ∈ (c.reclaimIfCrowded now).counters.keys := by
          by_contra unknown
          push Not at unknown
          have stranger : (c.reclaimIfCrowded now).refusesStranger specs = true := by
            simpa [refusesStranger, bounded.configured.2] using ⟨by simpa using crowded, unknown⟩
          rw [stranger] at acquainted
          cases acquainted
        have no_new := Finset.union_eq_left.mpr (carries crowded known)
        exact (Finset.card_le_card (no_new ▸ joined)).trans fewer
      · have room : (c.reclaimIfCrowded now).counters.size < maxTracked := by
          simpa [bounded.configured.1] using crowded
        have before := card_owners_le owner (c.reclaimIfCrowded now)
        have after := (Finset.card_le_card joined).trans (Finset.card_union_le _ _)
        have grown : maxTracked - 1 + parties ≤ parties * maxTracked := by
          obtain ⟨m, rfl⟩ := Nat.exists_eq_succ_of_ne_zero (Nat.ne_zero_of_lt room)
          have single : m ≤ parties * m := Nat.le_mul_of_pos_left m some_party
          rw [Nat.mul_succ]
          omega
        omega

omit [DecidableEq κ] in
theorem Bounded.start (places : Finset τ) : Bounded owner place places parties maxTracked (new maxTracked true) := by
  refine ⟨⟨rfl, rfl⟩, ?_, ?_⟩
  · intro k member
    cases member
  · exact (Finset.card_eq_zero.mpr rfl).trans_le (Nat.zero_le _)

/-- The run lemma. A call is a request at a time, for a limiter's own specs. -/
theorem size_of_run_le [DecidableEq τ] (places : Finset τ) (parties maxTracked : Nat) (time : ε → ℚ)
    (specsOf : ε → List (Spec κ)) (apart : Function.Injective fun k => (place k, owner k))
    (placed : ∀ e, ∀ spec ∈ specsOf e, place spec.key ∈ places)
    (parted : ∀ e, (specOwners owner (specsOf e)).card ≤ parties) (some_party : 0 < parties) (calls : List ε)
    (carries : Along (fun (c : FixedWindowCounters κ) e => (c.admitRequest (time e) (specsOf e)).2)
      (fun c e => CarriesNoStranger owner c (time e) (specsOf e)) (new maxTracked true) calls) :
    (run (fun (c : FixedWindowCounters κ) e => (c.admitRequest (time e) (specsOf e)).2)
      (new maxTracked true) calls).counters.size ≤ places.card * (parties * maxTracked) := by
  have bounded := Runs.invariant (I := Bounded owner place places parties maxTracked)
    (fun c e held carried => held.request owner place (time e) (specsOf e) (placed e) (parted e) some_party carried)
    (Bounded.start owner place places) carries
  exact (size_le_of_places owner place places _ apart bounded.placed).trans (Nat.mul_le_mul_left _ bounded.few)

omit [DecidableEq κ] in
/-- A request whose keys have one owner brings no stranger to an owner that is known. -/
theorem carriesNoStranger_of_one (c : FixedWindowCounters κ) (now : ℚ) (specs : List (Spec κ)) (o : ι)
    (own : ∀ spec ∈ specs, owner spec.key = o) : CarriesNoStranger owner c now specs := by
  rintro - ⟨spec, listed, tracked⟩ other member
  obtain ⟨spec', listed', rfl⟩ := (mem_specOwners owner).mp member
  rw [own spec' listed', ← own spec listed]
  exact (mem_owners owner).mpr ⟨spec.key, tracked, rfl⟩

end

/-! ### The limiters' runs -/

/-- The table a key counts in. -/
def Slot.table : Slot → Slot
  | .endpoint _ => .endpoint ""
  | .registration _ => .registration 0
  | .claim _ => .claim 0
  | .claimAddress _ => .claimAddress 0
  | .polledProbe _ => .polledProbe 0

def Slot.row : Slot → Nat ⊕ String
  | .endpoint name => .inr name
  | .registration i | .claim i | .claimAddress i | .polledProbe i => .inl i

/-- A node, an address or an account, as one limiter knows it. -/
def identityOf (k : Key) : String × Slot := (k.1, k.2.table)

theorem identity_row_injective : Function.Injective fun k : Key => (k.2.row, identityOf k) := by
  rintro ⟨s, slot⟩ ⟨s', slot'⟩ same
  cases slot <;> cases slot' <;> simp_all [Slot.row, identityOf, Slot.table]

structure ClaimCall where
  now : ℚ
  nodeId : String
  email : String

def claimStep (c : FixedWindowCounters Key) (call : ClaimCall) : FixedWindowCounters Key :=
  (ClaimRateLimiter.admitCall c call.now call.nodeId call.email).2

structure RegistrationCall where
  now : ℚ
  nodeId : String
  jitter : Fin 120

def registrationStep (c : FixedWindowCounters Key) (call : RegistrationCall) : FixedWindowCounters Key :=
  (RegistrationRateLimiter.admitCall c call.now call.nodeId call.jitter).2

structure ProbeCall where
  now : ℚ
  userId : String

def probeStep (c : FixedWindowCounters Key) (call : ProbeCall) : FixedWindowCounters Key :=
  (PolledProbeRateLimiter.admitCall c call.now call.userId).2

/-- On a full map, a nomination by a node or to an address the map holds is by a node and to an address it holds. -/
def NominatesKnown (c : FixedWindowCounters Key) (call : ClaimCall) : Prop :=
  CarriesNoStranger identityOf c call.now (claimSpecs call.nodeId call.email)

instance (c : FixedWindowCounters Key) (call : ClaimCall) : Decidable (NominatesKnown c call) :=
  inferInstanceAs (Decidable (CarriesNoStranger identityOf c call.now (claimSpecs call.nodeId call.email)))

theorem specOwners_card_le_one (owned : ∀ spec ∈ specs, identityOf spec.key = o) :
    (specOwners identityOf specs).card ≤ 1 := by
  have only : specOwners identityOf specs ⊆ {o} := by
    intro other member
    obtain ⟨spec, listed, rfl⟩ := (mem_specOwners _).mp member
    exact Finset.mem_singleton.mpr (owned spec listed)
  exact Finset.card_le_card only

theorem registration_bounded (maxTracked : Nat) (calls : List RegistrationCall) :
    (run registrationStep (RegistrationRateLimiter.new maxTracked) calls).trackedCounters ≤ 2 * maxTracked := by
  have owned (call : RegistrationCall) : ∀ spec ∈ registrationSpecs call.nodeId,
      identityOf spec.key = (call.nodeId, .registration 0) := by simp [registrationSpecs, identityOf, Slot.table]
  have carries : Along registrationStep (fun c call => CarriesNoStranger identityOf c call.now (registrationSpecs call.nodeId))
      (RegistrationRateLimiter.new maxTracked) calls :=
    (along_iff_split _ _ _ _).mpr fun before call _ _ => carriesNoStranger_of_one identityOf _ _ _ _ (owned call)
  have bound := size_of_run_le identityOf (fun k => k.2.row) {.inl 0, .inl 1} 1 maxTracked RegistrationCall.now
    (fun call => registrationSpecs call.nodeId) identity_row_injective (fun call => by simp [registrationSpecs, Slot.row])
    (fun call => specOwners_card_le_one (owned call)) Nat.one_pos calls carries
  rwa [one_mul] at bound

theorem probe_bounded (maxTracked : Nat) (calls : List ProbeCall) :
    (run probeStep (PolledProbeRateLimiter.new maxTracked) calls).trackedCounters ≤ maxTracked := by
  have owned (call : ProbeCall) : ∀ spec ∈ polledProbeSpecs call.userId,
      identityOf spec.key = (call.userId, .polledProbe 0) := by simp [polledProbeSpecs, identityOf, Slot.table]
  have carries : Along probeStep (fun c call => CarriesNoStranger identityOf c call.now (polledProbeSpecs call.userId))
      (PolledProbeRateLimiter.new maxTracked) calls :=
    (along_iff_split _ _ _ _).mpr fun before call _ _ => carriesNoStranger_of_one identityOf _ _ _ _ (owned call)
  have bound := size_of_run_le identityOf (fun k => k.2.row) {.inl 0} 1 maxTracked ProbeCall.now
    (fun call => polledProbeSpecs call.userId) identity_row_injective (fun call => by simp [polledProbeSpecs, Slot.row])
    (fun call => specOwners_card_le_one (owned call)) Nat.one_pos calls carries
  rwa [one_mul, Finset.card_singleton, one_mul] at bound

theorem claim_bounded (maxTracked : Nat) (calls : List ClaimCall)
    (known : Along claimStep NominatesKnown (ClaimRateLimiter.new maxTracked) calls) :
    (run claimStep (ClaimRateLimiter.new maxTracked) calls).trackedCounters ≤ 4 * maxTracked := by
  have parted (call : ClaimCall) : (specOwners identityOf (claimSpecs call.nodeId call.email)).card ≤ 2 := by
    have both : specOwners identityOf (claimSpecs call.nodeId call.email) ⊆
        {(call.nodeId, .claim 0), (call.email, .claimAddress 0)} := by
      intro o member
      obtain ⟨spec, listed, rfl⟩ := (mem_specOwners _).mp member
      simp only [claimSpecs, List.mem_cons, List.not_mem_nil, or_false] at listed
      rcases listed with rfl | rfl | rfl | rfl <;> simp [identityOf, Slot.table]
    exact (Finset.card_le_card both).trans Finset.card_le_two
  have bound := size_of_run_le identityOf (fun k => k.2.row) {.inl 0, .inl 1} 2 maxTracked ClaimCall.now
    (fun call => claimSpecs call.nodeId call.email) identity_row_injective (fun call => by simp [claimSpecs, Slot.row])
    parted Nat.two_pos calls known
  rw [← mul_assoc] at bound
  exact bound

/-- The limiters that refuse when full hold at most a fixed multiple of their bound: a registration
limiter two counters for each, a probe limiter one, and a claim limiter four while no nomination on a
full map brings in an address or a node on the strength of the other. -/
theorem limiters_bounded (maxTracked : Nat) :
    (∀ calls, (run registrationStep (RegistrationRateLimiter.new maxTracked) calls).trackedCounters ≤ 2 * maxTracked) ∧
    (∀ calls, (run probeStep (PolledProbeRateLimiter.new maxTracked) calls).trackedCounters ≤ maxTracked) ∧
    (∀ calls, Along claimStep NominatesKnown (ClaimRateLimiter.new maxTracked) calls →
      (run claimStep (ClaimRateLimiter.new maxTracked) calls).trackedCounters ≤ 4 * maxTracked) :=
  ⟨registration_bounded maxTracked, probe_bounded maxTracked, claim_bounded maxTracked⟩

/-- Two nodes that nominate one address over and over, on a map of four. -/
def repeatedNominations : List ClaimCall :=
  [⟨0, "ret7a1b2c", "owner@example.org"⟩, ⟨10, "ret7a1b2c", "owner@example.org"⟩,
   ⟨20, "ret9d0e1f", "stranger@example.org"⟩, ⟨4000, "ret7a1b2c", "owner@example.org"⟩]

theorem limiters_bounded_repeated :
    (run claimStep (ClaimRateLimiter.new 4) repeatedNominations).trackedCounters ≤ 4 * 4 :=
  (limiters_bounded 4).2.2 repeatedNominations (by decide +kernel)

/-! ### A claim limiter past its bound -/

/-- The parties of a chain: nodes at even places, addresses at odd ones. -/
def chainName (i : Nat) : String :=
  String.ofList (List.replicate i 'x' ++ if i % 2 = 0 then [] else "@example.org".toList)

def chainKey (i row : Nat) : Key := (chainName i, if i % 2 = 0 then .claim row else .claimAddress row)

/-- Each nomination is between the last party of the chain so far and the next. -/
def chainCall (j : Nat) : ClaimCall :=
  if j % 2 = 0 then ⟨0, chainName j, chainName (j + 1)⟩ else ⟨0, chainName (j + 1), chainName j⟩

theorem chainKey_inj (same : chainKey i row = chainKey i' row') : i = i' ∧ row = row' := by
  obtain ⟨name, slot⟩ := Prod.mk.inj same
  have lengths := congrArg List.length (String.ofList_inj.mp name)
  by_cases even : i % 2 = 0
  · by_cases even' : i' % 2 = 0
    · simp only [even, even', if_true, List.append_nil, List.length_replicate, Slot.claim.injEq] at lengths slot
      exact ⟨lengths, slot⟩
    · simp [even, even'] at slot
  · by_cases even' : i' % 2 = 0
    · simp [even, even'] at slot
    · simp only [even, even', if_false, List.length_append, List.length_replicate, Nat.add_right_cancel_iff,
        Slot.claimAddress.injEq] at lengths slot
      exact ⟨lengths, slot⟩

/-- A nomination names the last party of the chain and the next. -/
theorem chain_named (j : Nat) (k : Key) :
    (∃ spec ∈ claimSpecs (chainCall j).nodeId (chainCall j).email, spec.key = k) ↔
      ∃ row ∈ [0, 1], k = chainKey j row ∨ k = chainKey (j + 1) row := by
  by_cases even : j % 2 = 0
  · have odd_next : ¬ (j + 1) % 2 = 0 := by omega
    simp [claimSpecs, chainCall, chainKey, even, odd_next, eq_comm]
    tauto
  · have even_next : (j + 1) % 2 = 0 := by omega
    simp [claimSpecs, chainCall, chainKey, even, even_next, eq_comm]
    tauto

theorem naming_claimSpecs_le_one (nodeId email : String) (k : Key) :
    (naming k (claimSpecs nodeId email)).length ≤ 1 := by
  have distinct : ((claimSpecs nodeId email).map Spec.key).Nodup := by simp [claimSpecs]
  have once := List.nodup_iff_count_le_one.mp distinct k
  rw [List.count, List.countP_map, List.countP_eq_length_filter] at once
  have same : naming k (claimSpecs nodeId email) = (claimSpecs nodeId email).filter ((· == k) ∘ Spec.key) :=
    List.filter_congr fun spec _ => by simp [Bool.beq_eq_decide_eq]
  rwa [same]

/-- After `j` nominations of the chain at one instant: its parties so far are tracked, the last is
counted once at most and the later ones are not known. -/
structure Chained (j : Nat) (c : FixedWindowCounters Key) : Prop where
  bound_pos : 0 < c.maxTracked
  start : j = 0 → c.counters.size = 0
  tracked : 0 < j → ∀ i ≤ j, ∃ counter, c.counters.get? (chainKey i 0) = some counter ∧ counter.live 0
  roomy : ∀ row ∈ [0, 1], (counterOf c.counters (chainKey j row)).count ≤ 1
  unknown : ∀ i > j, ∀ row, chainKey i row ∉ c.counters.keys

theorem counterOf_unknown (d : Dict Key Counter) (unknown : k ∉ d.keys) : counterOf d k = noCounter := by
  rw [counterOf, (d.get?_eq_none_iff k).mpr unknown]
  rfl

/-- The next nomination of the chain is admitted: one party is known, and neither has spent its allowance. -/
theorem Chained.admitted (chained : Chained j c) :
    c.admitRequest 0 (claimSpecs (chainCall j).nodeId (chainCall j).email) = (none, { c.reclaimIfCrowded 0 with
      counters := (claimSpecs (chainCall j).nodeId (chainCall j).email).foldl (spend 0)
        (c.reclaimIfCrowded 0).counters }) := by
  have named := chain_named j
  have allowance : ∀ spec ∈ claimSpecs (chainCall j).nodeId (chainCall j).email, 5 ≤ spec.limit := by
    simp [claimSpecs]
  generalize claimSpecs (chainCall j).nodeId (chainCall j).email = specs at named allowance ⊢
  have room : ∀ spec ∈ specs, exhausted (c.reclaimIfCrowded 0).counters 0 spec = none := by
    intro spec member
    have counted : (counterOf (c.reclaimIfCrowded 0).counters spec.key).count ≤ 1 := by
      refine (count_reclaim_le 0 c spec.key).trans ?_
      obtain ⟨row, listed, same | same⟩ := (named spec.key).mp ⟨spec, member, rfl⟩
      · exact same ▸ chained.roomy row listed
      · rw [counterOf_unknown _ (same ▸ chained.unknown (j + 1) (Nat.lt_succ_self j) row)]
        exact Nat.zero_le 1
    have below := allowance spec member
    rw [exhausted, if_neg]
    omega
  have acquainted : (c.reclaimIfCrowded 0).refusesStranger specs = false := by
    rcases Nat.eq_zero_or_pos j with first | later
    · have empty := reclaim_size_le c 0
      rw [chained.start first] at empty
      have positive := chained.bound_pos
      have below : ¬ c.maxTracked ≤ (c.reclaimIfCrowded 0).counters.size := by omega
      simp [refusesStranger, below]
    · obtain ⟨counter, found, live⟩ := chained.tracked later j le_rfl
      have kept := reclaim_get?_live c 0 found live
      have present : chainKey j 0 ∈ (c.reclaimIfCrowded 0).counters.keys := by
        by_contra absent
        rw [(Dict.get?_eq_none_iff _ _).mpr absent] at kept
        cases kept
      obtain ⟨spec, member, same⟩ := (named (chainKey j 0)).mpr ⟨0, by simp, .inl rfl⟩
      simp only [refusesStranger, List.all_eq_false, Bool.and_eq_false_iff, decide_eq_true_eq]
      exact .inr ⟨spec, member, not_not.mpr (same ▸ present)⟩
  obtain ⟨wait, refused⟩ | ⟨-, -, admitted⟩ := admitRequest_cases c 0 specs
  · have none_asked := List.findSome?_eq_none_iff.mpr room
    simp [admitRequest, acquainted, none_asked] at refused
  · exact admitted

/-- Each nomination adds a party that the next one is admitted on. -/
theorem Chained.step (chained : Chained j c) : Chained (j + 1) (claimStep c (chainCall j)) := by
  have outcome : claimStep c (chainCall j) =
      (c.admitRequest 0 (claimSpecs (chainCall j).nodeId (chainCall j).email)).2 := by
    rw [claimStep, ClaimRateLimiter.admitCall, tooFast]
    by_cases even : j % 2 = 0 <;> simp [chainCall, even]
  have named := chain_named j
  have once := naming_claimSpecs_le_one (chainCall j).nodeId (chainCall j).email
  have admitted := chained.admitted
  rw [outcome]
  generalize claimSpecs (chainCall j).nodeId (chainCall j).email = specs at named once admitted ⊢
  have unknown_next : ∀ row, chainKey (j + 1) row ∉ (c.reclaimIfCrowded 0).counters.keys :=
    fun row member => chained.unknown (j + 1) (Nat.lt_succ_self j) row (reclaim_keys_subset c 0 member)
  constructor
  · simpa using chained.bound_pos
  · exact fun first => absurd first (Nat.succ_ne_zero j)
  · rintro - i within
    rw [admitted]
    by_cases here : ∃ spec ∈ specs, spec.key = chainKey i 0
    · obtain ⟨counter, found, live, -, -⟩ := get?_spendAll_named 0 (c.reclaimIfCrowded 0).counters specs here
        (P := fun _ => True) trivial fun _ _ _ => trivial
      exact ⟨counter, found, live⟩
    · have earlier : i < j := by
        by_contra late
        have either : i = j ∨ i = j + 1 := by omega
        refine here ((named _).mpr ⟨0, by simp, ?_⟩)
        rcases either with rfl | rfl
        · exact .inl rfl
        · exact .inr rfl
      obtain ⟨counter, found, live⟩ := chained.tracked (by omega) i earlier.le
      rw [get?_spendAll_unnamed 0 _ specs fun spec member same => here ⟨spec, member, same⟩]
      exact ⟨counter, reclaim_get?_live c 0 found live, live⟩
  · intro row listed
    have count := count_spendAll_le 0 (c.reclaimIfCrowded 0).counters specs (chainKey (j + 1) row)
    rw [counterOf_unknown _ (unknown_next row)] at count
    have single := once (chainKey (j + 1) row)
    rw [admitted]
    exact count.trans (by rw [noCounter, Nat.zero_add]; exact single)
  · intro i later row member
    rcases mem_keys_admitRequest c 0 specs member with before | listed
    · exact chained.unknown i (by omega) row before
    · obtain ⟨row', -, same | same⟩ := (named _).mp listed
      · have := (chainKey_inj same).1
        omega
      · have := (chainKey_inj same).1
        omega

/-- However large the map's bound, nominations at one instant take it past any size. -/
theorem claim_unbounded (maxTracked : Nat) (positive : 0 < maxTracked) (size : Nat) :
    size < (run claimStep (ClaimRateLimiter.new maxTracked) ((List.range (size + 1)).map chainCall)).trackedCounters := by
  have chained : ∀ n, Chained n (run claimStep (ClaimRateLimiter.new maxTracked) ((List.range n).map chainCall)) := by
    intro n
    induction n with
    | zero =>
      refine ⟨positive, fun _ => rfl, fun later => absurd later (Nat.lt_irrefl 0), fun row _ => Nat.zero_le 1, ?_⟩
      rintro i - row member
      cases member
    | succ n ih =>
      rw [List.range_succ, List.map_append, run_append]
      exact ih.step
  have parties : (Finset.range (size + 2)).image (chainKey · 0) ⊆
      (run claimStep (ClaimRateLimiter.new maxTracked) ((List.range (size + 1)).map chainCall)).counters.keys.toFinset := by
    intro k member
    obtain ⟨i, within, rfl⟩ := Finset.mem_image.mp member
    obtain ⟨counter, found, -⟩ := (chained (size + 1)).tracked (Nat.succ_pos size) i
      (Nat.lt_succ_iff.mp (Finset.mem_range.mp within))
    rw [List.mem_toFinset]
    by_contra absent
    rw [(Dict.get?_eq_none_iff _ _).mpr absent] at found
    cases found
  have count := Finset.card_le_card parties
  rw [Finset.card_image_of_injective _ fun i i' same => (chainKey_inj same).1, Finset.card_range, card_keys] at count
  exact Nat.lt_of_succ_le (Nat.le_of_succ_le count)

/-- No multiple of the claim limiter's bound holds its counters. -/
theorem claim_limiter_unbounded : ¬ ∃ factor, ∀ calls : List ClaimCall, (calls.map ClaimCall.now).Pairwise (· ≤ ·) →
    (run claimStep (ClaimRateLimiter.new MAX_CLAIM_KEYS) calls).trackedCounters ≤ factor * MAX_CLAIM_KEYS := by
  rintro ⟨factor, bounded⟩
  have clock : (((List.range (factor * MAX_CLAIM_KEYS + 1)).map chainCall).map ClaimCall.now).Pairwise (· ≤ ·) := by
    have at_once (j : Nat) : (chainCall j).now = 0 := by
      rw [chainCall]
      split <;> rfl
    rw [List.map_map, List.pairwise_map]
    exact List.pairwise_of_forall fun i j => by simp [at_once]
  have past := claim_unbounded MAX_CLAIM_KEYS (by decide) (factor * MAX_CLAIM_KEYS)
  exact absurd (bounded _ clock) (not_le.mpr past)

end Retina.Limits
