import RetinaServer.Library.Dict
import RetinaServer.Library.Runs
import RetinaServer.Library.Window
import Mathlib.Algebra.Order.Ring.Rat
import Mathlib.Tactic.Linarith
import Std.Data.String.ToNat

/-! The sliding window of the detections endpoint, a bucket for each address; when there are too many
buckets the first half of them goes. -/
namespace Retina.Limits
open OrderedDict SlidingWindow

def RATE_BUCKETS_MAX_IPS : ℕ := 10000

/-- `_RATE_LIMIT` and `_RATE_WINDOW`, as the environment sets them. -/
structure RateSettings where
  rateLimit : ℤ
  rateWindow : ℤ

abbrev RateBuckets := Dict String (List ℚ)

structure RateCall where
  ip : String
  now : ℚ

namespace RateBuckets

/-- `rate_buckets[ip]`; an address that is not held has no admissions. -/
def bucket (buckets : RateBuckets) (ip : String) : List ℚ := (buckets.get? ip).getD []

def recentOf (settings : RateSettings) (buckets : RateBuckets) (call : RateCall) : List ℚ :=
  recent (settings.rateWindow : ℚ) call.now (bucket buckets call.ip)

/-- The buckets with the caller's pruned; an empty one is not held. -/
def pruned (settings : RateSettings) (buckets : RateBuckets) (call : RateCall) : RateBuckets :=
  match recentOf settings buckets call with
  | [] => buckets.erase call.ip
  | recent => buckets.insert call.ip recent

def refuses (settings : RateSettings) (buckets : RateBuckets) (call : RateCall) : Bool :=
  decide (settings.rateLimit ≤ (recentOf settings buckets call).length)

/-- The addresses whose buckets an admitted call evicts. -/
def evicted (settings : RateSettings) (buckets : RateBuckets) (call : RateCall) : List String :=
  let held := pruned settings buckets call
  if refuses settings buckets call = false ∧ RATE_BUCKETS_MAX_IPS < held.size then held.keys.take (held.size / 2) else []

/-- `_check_rate_limit`; the state it leaves, whether it raises or not. -/
def checkRateLimit (settings : RateSettings) (buckets : RateBuckets) (call : RateCall) : RateBuckets :=
  let held := pruned settings buckets call
  if refuses settings buckets call then held
  else
    let left := (evicted settings buckets call).foldl Dict.erase held
    left.insert call.ip (bucket left call.ip ++ [call.now])

/-- The times at which calls of the address are admitted. -/
def admissions (settings : RateSettings) (ip : String) : RateBuckets → List RateCall → List ℚ
  | _, [] => []
  | buckets, call :: rest =>
      (if call.ip = ip ∧ refuses settings buckets call = false then [call.now] else []) ++
        admissions settings ip (checkRateLimit settings buckets call) rest

/-! ### One call -/

theorem bucket_erase (buckets : RateBuckets) (ip ip' : String) :
    bucket (buckets.erase ip) ip' = if ip = ip' then [] else bucket buckets ip' := by
  rw [bucket, Dict.get?_erase]
  split <;> rfl

theorem bucket_insert (buckets : RateBuckets) (ip ip' : String) (ts : List ℚ) :
    bucket (buckets.insert ip ts) ip' = if ip = ip' then ts else bucket buckets ip' := by
  rw [bucket, Dict.get?_insert]
  split <;> rfl

theorem bucket_erase_foldl (ips : List String) (buckets : RateBuckets) (ip : String) :
    bucket (ips.foldl Dict.erase buckets) ip = if ip ∈ ips then [] else bucket buckets ip := by
  induction ips generalizing buckets with
  | nil => rfl
  | cons first rest ih =>
    rw [List.foldl_cons, ih, bucket_erase]
    by_cases same : first = ip
    · simp [same]
    · simp [same, Ne.symm same]

theorem bucket_pruned (settings : RateSettings) (buckets : RateBuckets) (call : RateCall) (ip : String) :
    bucket (pruned settings buckets call) ip = if call.ip = ip then recentOf settings buckets call else bucket buckets ip := by
  rw [pruned]
  split
  · rename_i expired
    rw [bucket_erase, expired]
  · rw [bucket_insert]

/-- What a call leaves of each bucket. -/
theorem bucket_checkRateLimit (settings : RateSettings) (buckets : RateBuckets) (call : RateCall) (ip : String) :
    bucket (checkRateLimit settings buckets call) ip =
      (if ip ∈ evicted settings buckets call then [] else bucket (pruned settings buckets call) ip) ++
        if call.ip = ip ∧ refuses settings buckets call = false then [call.now] else [] := by
  rw [checkRateLimit]
  cases refused : refuses settings buckets call with
  | true =>
    have none_evicted : evicted settings buckets call = [] := if_neg (by simp [refused])
    rw [if_pos rfl, none_evicted, if_neg List.not_mem_nil, if_neg (by simp), List.append_nil]
  | false =>
    rw [if_neg Bool.false_ne_true]
    by_cases own : call.ip = ip
    · subst own
      rw [← bucket_erase_foldl, if_pos ⟨rfl, rfl⟩, bucket_insert, if_pos rfl]
    · rw [← bucket_erase_foldl, if_neg (fun both => own both.1), List.append_nil, bucket_insert, if_neg own]

/-! ### Runs without an eviction of the address -/

/-- The admissions that are recent by then are in the bucket. -/
def Covers (settings : RateSettings) (buckets : RateBuckets) (ip : String) (ts : List ℚ) (now : ℚ) : Prop :=
  (recent (settings.rateWindow : ℚ) now ts).Sublist (bucket buckets ip)

theorem Covers.later (covers : Covers settings buckets ip ts now) (le : now ≤ now') :
    (recent (settings.rateWindow : ℚ) now' ts).Sublist (recent (settings.rateWindow : ℚ) now' (bucket buckets ip)) := by
  have kept := List.Sublist.filter (fun t => decide (now' - t < settings.rateWindow)) covers
  rw [← recent_recent le]
  exact kept

/-- An admitted call finds fewer recent admissions than the limit, and a call that does not evict the
address leaves its recent admissions in the bucket. -/
theorem Covers.step (covers : Covers settings buckets ip ts now) (le : now ≤ call.now) (spared : ip ∉ evicted settings buckets call) :
    Covers settings (checkRateLimit settings buckets call) ip
      (ts ++ if call.ip = ip ∧ refuses settings buckets call = false then [call.now] else []) call.now := by
  rw [Covers, bucket_checkRateLimit, if_neg spared, bucket_pruned, recent, List.filter_append]
  refine List.Sublist.append ?_ List.filter_sublist
  split
  · rename_i own
    subst own
    exact covers.later le
  · exact (covers.later le).trans List.filter_sublist

theorem room_of_admitted (covers : Covers settings buckets call.ip ts now) (le : now ≤ call.now)
    (admitted : refuses settings buckets call = false) :
    (recent (settings.rateWindow : ℚ) call.now ts).length < settings.rateLimit.toNat := by
  have room : ¬ settings.rateLimit ≤ (recentOf settings buckets call).length := of_decide_eq_false admitted
  have counted := (covers.later le).length_le
  rw [recentOf] at room
  omega

theorem admissions_limited (calls : List RateCall) (buckets : RateBuckets) (limited : Limited (settings.rateWindow : ℚ) settings.rateLimit.toNat ts)
    (covers : Covers settings buckets ip ts now) (started : ∀ call ∈ calls, now ≤ call.now)
    (nondecreasing : (calls.map RateCall.now).Pairwise (· ≤ ·))
    (spared : Runs.Along (checkRateLimit settings) (fun buckets call => ip ∉ evicted settings buckets call) buckets calls) :
    Limited (settings.rateWindow : ℚ) settings.rateLimit.toNat (ts ++ admissions settings ip buckets calls) := by
  induction calls generalizing buckets ts now with
  | nil => simpa [admissions] using limited
  | cons call rest ih =>
    obtain ⟨here, later⟩ := spared
    rw [List.map_cons, List.pairwise_cons] at nondecreasing
    have le := started call (List.mem_cons_self ..)
    rw [admissions, ← List.append_assoc]
    refine ih _ ?_ (covers.step le here) (fun next listed => nondecreasing.1 _ (List.mem_map_of_mem listed)) nondecreasing.2 later
    split
    · rename_i admitted
      obtain ⟨rfl, admitted⟩ := admitted
      exact limited.concat (room_of_admitted covers le admitted)
    · rw [List.append_nil]
      exact limited

/-- With a clock that does not go back: in the calls between two evictions of an address's bucket no window
holds more of its admissions than the limit. A call leaves the other addresses' buckets alone, but for
those it evicts; a refused call evicts none, nor does one that finds no more buckets than may be held. -/
theorem window_holds_between_evictions (settings : RateSettings) (calls : List RateCall)
    (nondecreasing : (calls.map RateCall.now).Pairwise (· ≤ ·)) :
    (∀ before middle after ip start, calls = before ++ middle ++ after →
      Runs.Along (checkRateLimit settings) (fun buckets call => ip ∉ evicted settings buckets call)
        (Runs.run (checkRateLimit settings) Dict.empty before) middle →
      (within (settings.rateWindow : ℚ) start
        (admissions settings ip (Runs.run (checkRateLimit settings) Dict.empty before) middle)).length ≤ settings.rateLimit.toNat) ∧
    ∀ buckets call,
      (∀ ip ≠ call.ip, ip ∉ evicted settings buckets call → bucket (checkRateLimit settings buckets call) ip = bucket buckets ip) ∧
      (refuses settings buckets call = true → evicted settings buckets call = []) ∧
      ((pruned settings buckets call).size ≤ RATE_BUCKETS_MAX_IPS → evicted settings buckets call = []) := by
  constructor
  · intro before middle after ip start split spared
    cases middle with
    | nil => exact Nat.zero_le _
    | cons first rest =>
      have ordered : ((first :: rest).map RateCall.now).Pairwise (· ≤ ·) := by
        rw [split, List.map_append, List.map_append] at nondecreasing
        exact (List.pairwise_append.mp (List.pairwise_append.mp nondecreasing).1).2.1
      have started : ∀ call ∈ first :: rest, first.now ≤ call.now := by
        intro call listed
        rcases List.mem_cons.mp listed with rfl | later
        · exact le_rfl
        · exact (List.pairwise_cons.mp ordered).1 _ (List.mem_map_of_mem later)
      have covers : Covers settings (Runs.run (checkRateLimit settings) Dict.empty before) ip [] first.now := List.nil_sublist _
      exact (admissions_limited _ _ (limited_nil _ _) covers started ordered spared).within_le start
  · intro buckets call
    refine ⟨?_, ?_, ?_⟩
    · intro ip other spared
      rw [bucket_checkRateLimit, if_neg spared, bucket_pruned, if_neg (Ne.symm other), if_neg (fun own => other own.1.symm),
        List.append_nil]
    · exact fun refused => if_neg fun both => Bool.false_ne_true (both.1.symm.trans refused)
    · exact fun few => if_neg fun both => absurd both.2 (not_lt.mpr few)

theorem window_holds_between_evictions_twice :
    (within 60 0 (admissions ⟨1, 60⟩ "192.0.2.1" Dict.empty [⟨"192.0.2.1", 0⟩, ⟨"192.0.2.1", 59⟩])).length ≤ 1 :=
  (window_holds_between_evictions ⟨1, 60⟩ [⟨"192.0.2.1", 0⟩, ⟨"192.0.2.1", 59⟩] (by decide +kernel)).1 []
    [⟨"192.0.2.1", 0⟩, ⟨"192.0.2.1", 59⟩] [] "192.0.2.1" 0 rfl (by decide +kernel)

/-! ### More addresses than may be held -/

theorem admissions_append (settings : RateSettings) (ip : String) (buckets : RateBuckets) (first second : List RateCall) :
    admissions settings ip buckets (first ++ second) =
      admissions settings ip buckets first ++ admissions settings ip (Runs.run (checkRateLimit settings) buckets first) second := by
  induction first generalizing buckets with
  | nil => rfl
  | cons call rest ih => rw [List.cons_append, admissions, admissions, ih, List.append_assoc, Runs.run_cons]

theorem admissions_of_others (settings : RateSettings) (calls : List RateCall) (buckets : RateBuckets)
    (others : ∀ call ∈ calls, call.ip ≠ ip) : admissions settings ip buckets calls = [] := by
  induction calls generalizing buckets with
  | nil => rfl
  | cons call rest ih =>
    obtain ⟨here, later⟩ := List.forall_mem_cons.mp others
    rw [admissions, if_neg (fun own => here own.1), ih _ later, List.append_nil]

/-- An address that is not held is admitted and prunes nothing. -/
theorem fresh_call (settings : RateSettings) (call : RateCall) (admits : 0 < settings.rateLimit) (fresh : buckets.get? call.ip = none) :
    recentOf settings buckets call = [] ∧ pruned settings buckets call = buckets ∧ refuses settings buckets call = false := by
  have none_recent : recentOf settings buckets call = [] := by rw [recentOf, bucket, fresh]; rfl
  refine ⟨none_recent, ?_, ?_⟩
  · rw [pruned, none_recent]
    exact Dict.erase_of_absent fresh
  · rw [refuses, none_recent]
    exact decide_eq_false (not_le.mpr admits)

/-- Addresses that are not held are added one by one, as long as there is room. -/
theorem run_fresh (settings : RateSettings) (admits : 0 < settings.rateLimit) (ips : List String) (buckets : RateBuckets)
    (fresh : ∀ ip ∈ ips, buckets.get? ip = none) (distinct : ips.Nodup) (room : buckets.size + ips.length ≤ RATE_BUCKETS_MAX_IPS + 1) :
    (Runs.run (checkRateLimit settings) buckets (ips.map fun ip => ⟨ip, now⟩)).items =
      buckets.items ++ ips.map fun ip => (ip, [now]) := by
  induction ips generalizing buckets with
  | nil => simp
  | cons ip rest ih =>
    obtain ⟨here, later⟩ := List.forall_mem_cons.mp fresh
    obtain ⟨apart, distinct⟩ := List.nodup_cons.mp distinct
    obtain ⟨-, kept, admitted⟩ := fresh_call settings ⟨ip, now⟩ admits here
    rw [List.length_cons] at room
    have spared : evicted settings buckets ⟨ip, now⟩ = [] := if_neg fun both => by
      rw [kept] at both
      omega
    have added : checkRateLimit settings buckets ⟨ip, now⟩ = buckets.insert ip [now] := by
      have blank : bucket buckets ip = [] := by rw [bucket, here]; rfl
      rw [checkRateLimit, admitted, if_neg Bool.false_ne_true, spared, kept]
      change buckets.insert ip (bucket buckets ip ++ [now]) = buckets.insert ip [now]
      rw [blank, List.nil_append]
    have items := Dict.items_insert_new [now] here
    have size : (buckets.insert ip [now]).size = buckets.size + 1 := by
      rw [Dict.size, items, List.length_append]
      rfl
    rw [List.map_cons, Runs.run_cons, added, ih _ ?_ distinct (by omega), items, List.append_assoc]
    · rfl
    · intro other listed
      rw [Dict.get?_insert_ne _ _ (fun same : ip = other => apart (same ▸ listed)), later other listed]

def crowd : List String := (List.range RATE_BUCKETS_MAX_IPS).map fun k => "2001:db8::" ++ Nat.repr k

def DEFAULT_SETTINGS : RateSettings := ⟨60, 60⟩

/-- Calls of as many other addresses as may be held, and of one more, come between the calls of an address
that has used up its limit. -/
def flood : List RateCall :=
  List.replicate 60 ⟨"192.0.2.1", 0⟩ ++ (crowd.map fun ip => ⟨ip, 0⟩) ++ [⟨"203.0.113.9", 0⟩] ++ [⟨"192.0.2.1", 0⟩]

theorem crowd_apart (differs : ip.toList[2]? ≠ some '0') : ip ∉ crowd := by
  intro listed
  obtain ⟨k, -, rfl⟩ := List.mem_map.mp listed
  simp at differs

theorem crowd_distinct : crowd.Nodup := by
  refine List.nodup_range.map fun a b same => ?_
  exact Nat.repr_inj.mp (String.append_right_inj _ |>.mp same)

/-- A call of one address more than may be held evicts the first half of those held. -/
theorem flooded_bucket (settings : RateSettings) (admits : 0 < settings.rateLimit) (fresh : buckets.get? ip = none)
    (other : victim ≠ ip) (first : buckets.keys = victim :: rest) (full : RATE_BUCKETS_MAX_IPS < buckets.size) :
    bucket (checkRateLimit settings buckets ⟨ip, now⟩) victim = [] := by
  obtain ⟨-, kept, admitted⟩ := fresh_call settings ⟨ip, now⟩ admits fresh
  have evicts : victim ∈ evicted settings buckets ⟨ip, now⟩ := by
    obtain ⟨half, halved⟩ : ∃ half, buckets.size / 2 = half + 1 := ⟨buckets.size / 2 - 1, by rw [RATE_BUCKETS_MAX_IPS] at full; omega⟩
    rw [evicted, kept, if_pos ⟨admitted, full⟩, first, halved, List.take_succ_cons]
    exact List.mem_cons_self
  rw [bucket_checkRateLimit, if_pos evicts, if_neg (fun own => other own.1.symm), List.nil_append]

theorem admissions_stages (settings : RateSettings) (ip : String) (first second : List RateCall) (third fourth : RateCall)
    (ran : Runs.run (checkRateLimit settings) Dict.empty first = buckets) (ran' : Runs.run (checkRateLimit settings) buckets second = buckets') :
    admissions settings ip Dict.empty (first ++ second ++ [third] ++ [fourth]) =
      admissions settings ip Dict.empty first ++ admissions settings ip buckets second ++ admissions settings ip buckets' [third] ++
        admissions settings ip (checkRateLimit settings buckets' third) [fourth] := by
  have ran'' : Runs.run (checkRateLimit settings) Dict.empty (first ++ second) = buckets' := by rw [Runs.run_append, ran, ran']
  rw [admissions_append, admissions_append, admissions_append, ran'', ran, Runs.run_append, ran'', Runs.run_cons, Runs.run_nil]

/-- All at one instant, one more than the limit is admitted: the bucket that used it up has gone. -/
theorem flood_admits_past_limit :
    (within 60 0 (admissions DEFAULT_SETTINGS "192.0.2.1" Dict.empty flood)).length = 61 := by
  obtain ⟨used, is_used⟩ : ∃ used, Runs.run (checkRateLimit DEFAULT_SETTINGS) Dict.empty (List.replicate 60 ⟨"192.0.2.1", 0⟩) = used :=
    ⟨_, rfl⟩
  have used_items : used.items = [("192.0.2.1", List.replicate 60 0)] := by
    rw [← is_used]
    decide +kernel
  have unheld (ip : String) (other : "192.0.2.1" ≠ ip) : used.get? ip = none := by
    rw [Dict.get?, used_items, lookup, if_neg other, lookup]
  obtain ⟨crowded, is_crowded⟩ : ∃ crowded, Runs.run (checkRateLimit DEFAULT_SETTINGS) used (crowd.map fun ip => ⟨ip, 0⟩) = crowded :=
    ⟨_, rfl⟩
  have crowded_items : crowded.items = ("192.0.2.1", List.replicate 60 0) :: crowd.map fun ip => (ip, [0]) := by
    have room : used.size + crowd.length ≤ RATE_BUCKETS_MAX_IPS + 1 := by
      rw [Dict.size, used_items, crowd, List.length_map, List.length_range, Nat.add_comm]
      exact le_rfl
    rw [← is_crowded, run_fresh DEFAULT_SETTINGS (by decide) crowd used
      (fun ip listed => unheld ip fun same => crowd_apart (by decide) (same ▸ listed)) crowd_distinct room, used_items]
    rfl
  have crowded_keys : crowded.keys = "192.0.2.1" :: crowd := by
    rw [Dict.keys, crowded_items, List.map_cons, List.map_map]
    exact congrArg _ (List.map_id crowd)
  have emptied : bucket (checkRateLimit DEFAULT_SETTINGS crowded ⟨"203.0.113.9", 0⟩) "192.0.2.1" = [] := by
    refine flooded_bucket DEFAULT_SETTINGS (by decide) ?_ (by decide) crowded_keys ?_
    · refine (lookup_eq_none_iff _ _).mpr fun listed => ?_
      have held : "203.0.113.9" ∈ "192.0.2.1" :: crowd := crowded_keys ▸ listed
      exact crowd_apart (by decide) ((List.mem_cons.mp held).resolve_left (by decide))
    · rw [Dict.size, crowded_items, List.length_cons, List.length_map, crowd, List.length_map, List.length_range]
      exact Nat.lt_succ_self _
  have before : admissions DEFAULT_SETTINGS "192.0.2.1" Dict.empty (List.replicate 60 ⟨"192.0.2.1", 0⟩) = List.replicate 60 0 := by
    decide +kernel
  have during : admissions DEFAULT_SETTINGS "192.0.2.1" used (crowd.map fun ip => ⟨ip, 0⟩) = [] := by
    refine admissions_of_others _ _ _ fun call listed => ?_
    obtain ⟨ip, member, rfl⟩ := List.mem_map.mp listed
    exact fun same : ip = "192.0.2.1" => crowd_apart (by decide) (same ▸ member)
  have again : refuses DEFAULT_SETTINGS (checkRateLimit DEFAULT_SETTINGS crowded ⟨"203.0.113.9", 0⟩) ⟨"192.0.2.1", 0⟩ = false := by
    rw [refuses, recentOf, emptied]
    rfl
  rw [flood, admissions_stages _ _ _ _ _ _ is_used is_crowded, before, during, admissions, admissions,
    if_neg (fun own => absurd own.1 (by decide)), admissions, admissions, if_pos ⟨rfl, again⟩]
  decide +kernel

end RateBuckets
end Retina.Limits
