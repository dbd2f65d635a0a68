import RetinaServer.Tcp.Json
import RetinaServer.Library.Runs

/-! The signing keys of Access: how old a set may be, how often one is fetched, and what an assertion is answered. -/
namespace Retina.Access
open Runs
open Tcp (Json Fields get)
open Frames (stripSpaces)

def CLOCK_LEEWAY_SECONDS : ℚ := 30
def JWKS_REFETCH_MIN_INTERVAL_SECONDS : ℚ := 60
def JWKS_GRACE_SECONDS : ℚ := 6 * 3600
def JWKS_RETRY_INTERVAL_SECONDS : ℚ := 30

/-- `PyJWKSet`: keys, each with its id where it has one. -/
abbrev KeySet (K : Type*) := List (Option String × K)

/-- `keys[kid]`. -/
def KeySet.lookup {K : Type*} (keys : KeySet K) (kid : String) : Option K :=
  (keys.find? fun key => decide (key.1 = some kid)).map Prod.snd

/-- What a fetch comes to. -/
inductive Fetched (K : Type*) where
  | keys (set : KeySet K)
  /-- One of `_FETCH_ERRORS`. -/
  | failed
  /-- Any other exception. -/
  | escaped

/-- What PyJWT makes of a set, of a token's header and of a token. -/
structure PyJwt (T K : Type*) where
  fromDict : Json → Fetched K
  /-- `get_unverified_header(token).get("kid")`; `none` is a `PyJWTError`. -/
  kid : T → Option (Option String)
  /-- The claims of a token that verifies against the key, for this audience and issuer; `none` is an error that refuses it. -/
  decode : T → K → String → String → ℚ → Option Fields

/-- What the team domain answers. -/
inductive Reply where
  /-- No answer, or a status that says so. -/
  | httpError
  | notJson
  | body (value : Json)

structure Settings where
  teamDomain : String
  audience : String
  ttl : ℚ

/-- A fetch that was made. -/
structure Fetch (K : Type*) where
  startedAt : ℚ
  endedAt : ℚ
  outcome : Fetched K

/-- The fields of `AccessIdentity`, the clock of its loop, and the fetches made so far, the latest first. -/
structure Keyring (K : Type*) where
  jwks : Option (KeySet K)
  fetchedAt : ℚ
  /-- `none` is before any time. -/
  failedAt : Option ℚ
  clock : ℚ
  fetches : List (Fetch K)

def Keyring.boot {K : Type*} (clock : ℚ) : Keyring K := ⟨none, 0, none, clock, []⟩

/-- What leaves `_signing_key` other than a key. -/
inductive Raised where
  | keysUnavailable
  | pyJwtError
  | escaped
deriving DecidableEq

/-- An identity call: its token, the clock once it has the lock, and what each place that may fetch is answered, and when. -/
structure Call (T : Type*) where
  token : Option T
  now : ℚ
  first : Reply × ℚ
  second : Reply × ℚ

section
variable {T K : Type*} (jwt : PyJwt T K) (cfg : Settings)

def isConfigured : Bool := decide (cfg.teamDomain ≠ "") && decide (cfg.audience ≠ "")

def fetchJwks : Reply → Fetched K
  | .httpError | .notJson => .failed
  | .body value => jwt.fromDict value

def tryRefresh (now : ℚ) (reply : Reply × ℚ) (s : Keyring K) : Keyring K × Except Raised Bool :=
  let outcome := fetchJwks jwt reply.1
  let s := { s with clock := reply.2, fetches := ⟨s.clock, reply.2, outcome⟩ :: s.fetches }
  match outcome with
  | .keys set => ({ s with jwks := some set, fetchedAt := reply.2 }, .ok true)
  | .failed => ({ s with failedAt := some now }, .ok false)
  | .escaped => (s, .error .escaped)

/-- No fetch has failed within the retry interval. -/
def mayRetry (now : ℚ) (s : Keyring K) : Bool := s.failedAt.all fun t => decide (JWKS_RETRY_INTERVAL_SECONDS ≤ now - t)

/-- The held set, where it is within its grace. -/
def heldKeys (now : ℚ) (s : Keyring K) : Except Raised (KeySet K) :=
  match s.jwks with
  | none => .error .keysUnavailable
  | some set => if cfg.ttl + JWKS_GRACE_SECONDS < now - s.fetchedAt then .error .keysUnavailable else .ok set

def usableKeys (now : ℚ) (reply : Reply × ℚ) (s : Keyring K) : Keyring K × Except Raised (KeySet K) :=
  if s.jwks.isSome ∧ now - s.fetchedAt ≤ cfg.ttl then (s, .ok (s.jwks.getD []))
  else if mayRetry now s then
    match tryRefresh jwt now reply s with
    | (s, .ok true) => (s, .ok (s.jwks.getD []))
    | (s, .ok false) => (s, heldKeys cfg now s)
    | (s, .error e) => (s, .error e)
  else (s, heldKeys cfg now s)

def signingKey (call : Call T) (token : T) (s : Keyring K) : Keyring K × Except Raised (Option K) :=
  match jwt.kid token with
  | none => (s, .error .pyJwtError)
  | some kid =>
      if kid.getD "" = "" then (s, .ok none)
      else
        match usableKeys jwt cfg call.now call.first { s with clock := call.now } with
        | (s, .error e) => (s, .error e)
        | (s, .ok keys) => match keys.lookup (kid.getD "") with
            | some key => (s, .ok (some key))
            | none =>
                if call.now - s.fetchedAt < JWKS_REFETCH_MIN_INTERVAL_SECONDS then (s, .ok none)
                else if !mayRetry call.now s then (s, .ok none)
                else match tryRefresh jwt call.now call.second s with
                  | (s, .ok true) => (s, .ok (s.jwks.bind fun keys => keys.lookup (kid.getD "")))
                  | (s, .ok false) => (s, .ok none)
                  | (s, .error e) => (s, .error e)

/-- `(claims.get("email") or "").strip().lower()`; `none` is a value that has no `strip`. -/
def emailOf (claims : Fields) : Option String :=
  let email := get claims "email" .null
  if email.truthy then
    match email with
    | .str s => some (String.ofList ((stripSpaces s.toList).map Char.toLower))
    | _ => none
  else some ""

def decode (token : T) (key : K) : Option Fields :=
  jwt.decode token key cfg.audience ("https://" ++ cfg.teamDomain) CLOCK_LEEWAY_SECONDS

/-- The address or nothing; `none` outside is an exception that leaves the call. -/
def identity (s : Keyring K) (call : Call T) : Keyring K × Option (Option String) :=
  match call.token with
  | none => (s, some none)
  | some token =>
      if !isConfigured cfg then (s, some none)
      else match signingKey jwt cfg call token s with
        | (s, .error .escaped) => (s, none)
        | (s, .error _) => (s, some none)
        | (s, .ok none) => (s, some none)
        | (s, .ok (some key)) => match decode jwt cfg token key with
            | none => (s, some none)
            | some claims => (s, (emailOf claims).map fun email => if email = "" then none else some email)

def identityStep (s : Keyring K) (call : Call T) : Keyring K := (identity jwt cfg s call).1

/-! ### What is promised -/

/-- The key that a call hands to `jwt.decode`. -/
def judgedWith (s : Keyring K) (call : Call T) : Option K :=
  match call.token with
  | none => none
  | some token =>
      if !isConfigured cfg then none
      else match (signingKey jwt cfg call token s).2 with
        | .ok key => key
        | .error _ => none

/-- The latest fetch that brought a set. -/
def latestSet (fetches : List (Fetch K)) : Option (Fetch K) :=
  fetches.find? fun f => match f.outcome with
    | .keys _ => true
    | _ => false

/-- The key is one of the set fetched last, and the set is within its age and its grace. -/
def Current (s : Keyring K) (key : K) : Prop :=
  ∃ f set kid, latestSet s.fetches = some f ∧ f.outcome = .keys set ∧ set.lookup kid = some key ∧
    s.clock - f.endedAt ≤ cfg.ttl + JWKS_GRACE_SECONDS

/-- The call returns, and a token is judged by a current key. -/
def Answered (s : Keyring K) (call : Call T) : Prop :=
  (identity jwt cfg s call).2 ≠ none ∧ ∀ key, judgedWith jwt cfg s call = some key → Current cfg (identityStep jwt cfg s call) key

/-- How long after a fetch the next may start: from the end of one that brought a set, from the start of one that failed. -/
def Spaced (later earlier : Fetch K) : Prop :=
  match earlier.outcome with
  | .keys _ => min cfg.ttl JWKS_REFETCH_MIN_INTERVAL_SECONDS ≤ later.startedAt - earlier.endedAt
  | _ => JWKS_RETRY_INTERVAL_SECONDS ≤ later.startedAt - earlier.startedAt

/-- The clock does not go back. -/
structure Orderly (s : Keyring K) (call : Call T) : Prop where
  now : s.clock ≤ call.now
  first : call.now ≤ call.first.2
  second : call.now ≤ call.second.2

/-- What is fetched is a set or one of the errors named; a fetch that fails within the grace ends within it; and a token
that verifies has an email that is falsy or a text. -/
structure Tame (s : Keyring K) (call : Call T) : Prop where
  named : fetchJwks jwt call.first.1 ≠ .escaped ∧ fetchJwks jwt call.second.1 ≠ .escaped
  timely : fetchJwks jwt call.first.1 = .failed → call.now - s.fetchedAt ≤ cfg.ttl + JWKS_GRACE_SECONDS →
    call.first.2 - s.fetchedAt ≤ cfg.ttl + JWKS_GRACE_SECONDS
  email : ∀ token key claims, call.token = some token → decode jwt cfg token key = some claims →
    (get claims "email" .null).truthy = true → ∃ text, get claims "email" .null = .str text

/-! ### The books -/

/-- What the fields say of the fetches made so far. -/
structure Kept (s : Keyring K) : Prop where
  held : ∀ set, s.jwks = some set → ∃ f, latestSet s.fetches = some f ∧ f.outcome = .keys set ∧ f.endedAt = s.fetchedAt
  spaced : s.fetches.Pairwise (Spaced cfg)
  brought : ∀ f ∈ s.fetches, ∀ set, f.outcome = .keys set → s.jwks.isSome = true ∧ f.endedAt ≤ s.fetchedAt
  failed : ∀ f ∈ s.fetches, (∀ set, f.outcome ≠ .keys set) → ∃ t, s.failedAt = some t ∧ f.startedAt ≤ t
  past : ∀ set, s.jwks = some set → s.fetchedAt ≤ s.clock
  retry : ∀ t, s.failedAt = some t → t ≤ s.clock

variable {jwt cfg} {s : Keyring K}

/-- A fetch may be made at this time. -/
structure Due (cfg : Settings) (now : ℚ) (s : Keyring K) : Prop where
  aged : s.jwks.isSome = true → min cfg.ttl JWKS_REFETCH_MIN_INTERVAL_SECONDS ≤ now - s.fetchedAt
  retry : mayRetry now s = true

theorem Kept.at (kept : Kept cfg s) (later : s.clock ≤ now) : Kept cfg { s with clock := now } where
  held := kept.held
  spaced := kept.spaced
  brought := kept.brought
  failed := kept.failed
  past set held := (kept.past set held).trans later
  retry t failed := (kept.retry t failed).trans later

theorem Kept.spaced_next (kept : Kept cfg s) (due : Due cfg s.clock s) (f : Fetch K) (starts : f.startedAt = s.clock) :
    ∀ earlier ∈ s.fetches, Spaced cfg f earlier := by
  intro earlier member
  have waited : (∀ set, earlier.outcome ≠ .keys set) → JWKS_RETRY_INTERVAL_SECONDS ≤ f.startedAt - earlier.startedAt := by
    intro bare
    obtain ⟨t, failed, le⟩ := kept.failed earlier member bare
    have retry := due.retry
    rw [mayRetry, failed, Option.all_some, decide_eq_true_eq] at retry
    linarith
  rw [Spaced]
  split
  · rename_i set outcome
    obtain ⟨holds, le⟩ := kept.brought earlier member set outcome
    have := due.aged holds
    linarith
  · rename_i other
    exact waited other

/-- What a fetch that may be made leaves: a set, or a failure with all else as it was. -/
theorem Kept.tryRefresh (kept : Kept cfg s) (due : Due cfg s.clock s) (later : s.clock ≤ reply.2)
    (named : fetchJwks jwt reply.1 ≠ .escaped) :
    Kept cfg (tryRefresh jwt s.clock reply s).1 ∧
      (((tryRefresh jwt s.clock reply s).2 = .ok true ∧ (tryRefresh jwt s.clock reply s).1.jwks.isSome = true ∧
          (tryRefresh jwt s.clock reply s).1.fetchedAt = reply.2 ∧ (tryRefresh jwt s.clock reply s).1.clock = reply.2) ∨
        ((tryRefresh jwt s.clock reply s).2 = .ok false ∧ fetchJwks jwt reply.1 = .failed ∧
          (tryRefresh jwt s.clock reply s).1.jwks = s.jwks ∧ (tryRefresh jwt s.clock reply s).1.fetchedAt = s.fetchedAt ∧
          (tryRefresh jwt s.clock reply s).1.clock = reply.2 ∧
          (tryRefresh jwt s.clock reply s).1.failedAt = some s.clock)) := by
  have next := kept.spaced_next due ⟨s.clock, reply.2, fetchJwks jwt reply.1⟩ rfl
  unfold Access.tryRefresh
  cases outcome : fetchJwks jwt reply.1 with
  | escaped => exact absurd outcome named
  | keys set =>
    rw [outcome] at next
    refine ⟨?_, .inl ⟨rfl, rfl, rfl, rfl⟩⟩
    exact {
      held := fun set' held => ⟨_, rfl, congrArg Fetched.keys (Option.some.inj held), rfl⟩
      spaced := List.pairwise_cons.mpr ⟨next, kept.spaced⟩
      brought := fun f member set' brought => by
        refine ⟨rfl, ?_⟩
        rcases List.mem_cons.mp member with rfl | old
        · exact le_rfl
        · obtain ⟨held, le⟩ := kept.brought f old set' brought
          obtain ⟨set'', held⟩ := Option.isSome_iff_exists.mp held
          exact le.trans ((kept.past set'' held).trans later)
      failed := fun f member bare => by
        rcases List.mem_cons.mp member with rfl | old
        · exact absurd rfl (bare set)
        · exact kept.failed f old bare
      past := fun _ _ => le_rfl
      retry := fun t failed => (kept.retry t failed).trans later }
  | failed =>
    rw [outcome] at next
    refine ⟨?_, .inr ⟨rfl, rfl, rfl, rfl, rfl, rfl⟩⟩
    exact {
      held := kept.held
      spaced := List.pairwise_cons.mpr ⟨next, kept.spaced⟩
      brought := fun f member set' brought => by
        rcases List.mem_cons.mp member with rfl | old
        · exact nomatch brought
        · exact kept.brought f old set' brought
      failed := fun f member bare => by
        refine ⟨s.clock, rfl, ?_⟩
        rcases List.mem_cons.mp member with rfl | old
        · exact le_rfl
        · obtain ⟨t, failed, le⟩ := kept.failed f old bare
          exact le.trans (kept.retry t failed)
      past := fun set held => (kept.past set held).trans later
      retry := fun t failed => (Option.some.inj failed) ▸ later }

/-- Where the first of the places that may fetch leaves the fields: as they were, or with a mark of this call's fetch. -/
structure Settled (now : ℚ) (s r : Keyring K) : Prop where
  marked : r = s ∨ now ≤ r.fetchedAt ∨ r.failedAt = some now

theorem heldKeys_spec {set : KeySet K} (held : heldKeys cfg now s = .ok set) :
    s.jwks = some set ∧ now - s.fetchedAt ≤ cfg.ttl + JWKS_GRACE_SECONDS := by
  rw [heldKeys] at held
  split at held
  · exact nomatch held
  · rename_i set' jwks
    split at held
    · exact nomatch held
    · rename_i within
      exact ⟨jwks.trans (congrArg some (Except.ok.inj held)), not_lt.mp within⟩

theorem heldKeys_ne_escaped : heldKeys cfg now s ≠ .error .escaped := by
  rw [heldKeys]
  split
  · simp
  · split <;> simp

variable (cfg) in
/-- The keys a call is judged by, or a refusal; and what became of the fields. -/
structure Usable (reply : Reply × ℚ) (s : Keyring K) (r : Keyring K × Except Raised (KeySet K)) : Prop where
  kept : Kept cfg r.1
  named : r.2 ≠ .error .escaped
  keys : ∀ set, r.2 = .ok set → r.1.jwks = some set ∧ r.1.clock - r.1.fetchedAt ≤ cfg.ttl + JWKS_GRACE_SECONDS
  settled : Settled s.clock s r.1

theorem Kept.usableKeys (kept : Kept cfg s) (nonneg : 0 ≤ cfg.ttl) (later : s.clock ≤ reply.2)
    (named : fetchJwks jwt reply.1 ≠ .escaped)
    (timely : fetchJwks jwt reply.1 = .failed → s.clock - s.fetchedAt ≤ cfg.ttl + JWKS_GRACE_SECONDS →
      reply.2 - s.fetchedAt ≤ cfg.ttl + JWKS_GRACE_SECONDS) :
    Usable cfg reply s (usableKeys jwt cfg s.clock reply s) := by
  have grace : (0 : ℚ) ≤ JWKS_GRACE_SECONDS := by norm_num [JWKS_GRACE_SECONDS]
  rw [Access.usableKeys]
  split
  · rename_i fresh
    obtain ⟨set, held⟩ := Option.isSome_iff_exists.mp fresh.1
    refine ⟨kept, by simp, fun set' ok => ⟨?_, by linarith [fresh.2]⟩, ⟨.inl rfl⟩⟩
    rw [held] at ok ⊢
    exact congrArg some (Except.ok.inj ok)
  · rename_i stale
    split
    · rename_i retry
      have due : Due cfg s.clock s := by
        refine ⟨fun holds => ?_, retry⟩
        have aged : cfg.ttl < s.clock - s.fetchedAt := not_le.mp fun within => stale ⟨holds, within⟩
        exact (min_le_left _ _).trans aged.le
      obtain ⟨next, came⟩ := kept.tryRefresh due later named
      rcases ran : Access.tryRefresh jwt s.clock reply s with ⟨r, outcome⟩
      rw [ran] at next came
      rcases came with ⟨rfl, holds, fetchedAt, clock⟩ | ⟨rfl, fault, jwks, fetchedAt, clock, failedAt⟩
      · obtain ⟨set, held⟩ := Option.isSome_iff_exists.mp holds
        refine ⟨next, by simp, fun set' ok => ⟨?_, ?_⟩, ⟨.inr (.inl (later.trans_eq fetchedAt.symm))⟩⟩
        · change r.jwks = some set at held
          change Except.ok (r.jwks.getD []) = Except.ok set' at ok
          rw [held] at ok
          exact held.trans (congrArg some (Except.ok.inj ok))
        · simp only at fetchedAt clock ⊢
          rw [fetchedAt, clock]
          linarith
      · refine ⟨next, heldKeys_ne_escaped, fun set' ok => ?_, ⟨.inr (.inr failedAt)⟩⟩
        obtain ⟨held, within⟩ := heldKeys_spec ok
        simp only at fetchedAt clock
        rw [fetchedAt] at within
        refine ⟨held, ?_⟩
        simp only [fetchedAt, clock]
        exact timely fault within
    · refine ⟨kept, heldKeys_ne_escaped, fun set' ok => heldKeys_spec ok, ⟨.inl rfl⟩⟩

theorem Usable.current {set : KeySet K} {reply : Reply × ℚ} {r : Keyring K × Except Raised (KeySet K)} (usable : Usable cfg reply s r)
    (answered : r.2 = .ok set) (found : KeySet.lookup set kid = some key) : Current cfg r.1 key := by
  obtain ⟨held, within⟩ := usable.keys set answered
  obtain ⟨f, latest, outcome, ended⟩ := usable.kept.held set held
  exact ⟨f, set, kid, latest, outcome, found, ended ▸ within⟩

/-- The key for a token is current, whichever of the two places found it, and only one of them fetched. -/
theorem Kept.signingKey (kept : Kept cfg s) (nonneg : 0 ≤ cfg.ttl) (orderly : Orderly s call) (tame : Tame jwt cfg s call)
    (token : T) :
    Kept cfg (signingKey jwt cfg call token s).1 ∧ (signingKey jwt cfg call token s).2 ≠ .error .escaped ∧
      ∀ key, (signingKey jwt cfg call token s).2 = .ok (some key) → Current cfg (signingKey jwt cfg call token s).1 key := by
  rw [Access.signingKey]
  cases jwt.kid token with
  | none => exact ⟨kept, by simp, fun key same => nomatch same⟩
  | some kid =>
    dsimp only
    split
    · exact ⟨kept, by simp, fun key same => nomatch Except.ok.inj same⟩
    · have usable := (kept.at orderly.now).usableKeys nonneg orderly.first tame.named.1 tame.timely
      rcases ran : Access.usableKeys jwt cfg call.now call.first { s with clock := call.now } with ⟨r, e | set⟩
      · rw [ran] at usable
        exact ⟨usable.kept, fun same => usable.named (congrArg Except.error (Except.error.inj same)), fun key same => nomatch same⟩
      · rw [ran] at usable
        dsimp only
        cases found : set.lookup (kid.getD "") with
        | some key => exact ⟨usable.kept, by simp, fun key' same =>
            usable.current rfl (found.trans (Except.ok.inj same))⟩
        | none =>
          dsimp only
          split
          · exact ⟨usable.kept, by simp, fun key same => nomatch Except.ok.inj same⟩
          · rename_i aged
            split
            · exact ⟨usable.kept, by simp, fun key same => nomatch Except.ok.inj same⟩
            · rename_i retry
              rw [Bool.not_eq_true, Bool.not_eq_false'] at retry
              -- a set or a failure of this call's would be too recent
              have unfetched : r = { s with clock := call.now } := by
                rcases usable.settled.marked with same | brought | failed
                · exact same
                · exact absurd (show call.now - r.fetchedAt < 60 by linarith) aged
                · rw [mayRetry, failed, Option.all_some, decide_eq_true_eq, sub_self] at retry
                  norm_num [JWKS_RETRY_INTERVAL_SECONDS] at retry
              have clock : r.clock = call.now := congrArg Keyring.clock unfetched
              have due : Due cfg r.clock r := by
                rw [clock]
                exact ⟨fun _ => (min_le_right _ _).trans (not_lt.mp aged), retry⟩
              obtain ⟨next, came⟩ := usable.kept.tryRefresh due (clock ▸ orderly.second) tame.named.2
              rw [clock] at next came
              rcases ran' : Access.tryRefresh jwt call.now call.second r with ⟨r', outcome⟩
              rw [ran'] at next came
              rcases came with ⟨rfl, holds, fetchedAt, clock'⟩ | ⟨rfl, -⟩
              · refine ⟨next, by simp, fun key same => ?_⟩
                obtain ⟨set', held⟩ := Option.isSome_iff_exists.mp holds
                change r'.jwks = some set' at held
                have looked := Except.ok.inj same
                rw [held, Option.bind_some] at looked
                obtain ⟨f, latest, brought, ended⟩ := next.held set' held
                refine ⟨f, set', kid.getD "", latest, brought, looked, ?_⟩
                have grace : (0 : ℚ) ≤ JWKS_GRACE_SECONDS := by norm_num [JWKS_GRACE_SECONDS]
                rw [ended, fetchedAt, clock']
                linarith
              · exact ⟨next, by simp, fun key same => nomatch Except.ok.inj same⟩

theorem emailOf_ne_none (named : (get claims "email" .null).truthy = true → ∃ text, get claims "email" .null = .str text) :
    emailOf claims ≠ none := by
  rw [emailOf]
  by_cases truthy : (get claims "email" .null).truthy = true
  · obtain ⟨text, email⟩ := named truthy
    rw [email] at truthy ⊢
    simp [truthy]
  · simp [truthy]

theorem Kept.identity (kept : Kept cfg s) (nonneg : 0 ≤ cfg.ttl) (orderly : Orderly s call) (tame : Tame jwt cfg s call) :
    Kept cfg (identityStep jwt cfg s call) ∧ Answered jwt cfg s call := by
  rw [Answered, identityStep, judgedWith, Access.identity]
  cases bearer : call.token with
  | none => exact ⟨kept, by simp, fun key same => nomatch same⟩
  | some token =>
    dsimp only
    split
    · exact ⟨kept, by simp, fun key same => nomatch same⟩
    · obtain ⟨next, named, current⟩ := kept.signingKey nonneg orderly tame token
      rcases ran : Access.signingKey jwt cfg call token s with ⟨r, e | key⟩
      · rw [ran] at next named
        cases e with
        | escaped => exact absurd rfl named
        | _ => exact ⟨next, by simp, fun key same => nomatch same⟩
      · rw [ran] at next current
        cases key with
        | none => exact ⟨next, by simp, fun key same => nomatch same⟩
        | some key =>
          dsimp only
          cases decoded : decode jwt cfg token key with
          | none => exact ⟨next, by simp, fun key' same => Option.some.inj same ▸ current key rfl⟩
          | some claims =>
            refine ⟨next, ?_, fun key' same => Option.some.inj same ▸ current key rfl⟩
            exact fun raised => emailOf_ne_none (tame.email token key claims bearer decoded) (Option.map_eq_none_iff.mp raised)

theorem kept_boot (clock : ℚ) : Kept cfg (.boot clock : Keyring K) :=
  ⟨fun _ held => (nomatch held), List.Pairwise.nil, fun _ member => (nomatch member), fun _ member => (nomatch member),
    fun _ held => (nomatch held), fun _ failed => (nomatch failed)⟩

variable (jwt cfg)

end

/-! ### A set that is no object, and an address that is no text -/

/-- A library that knows one key, and asks a set for its members as it would a dictionary. -/
def plainJwt : PyJwt String String where
  fromDict
    | .dict fields => match get fields "keys" .null with
      | .list (_ :: _) => .keys [(some "k1", "key1")]
      | _ => .failed
    | _ => .escaped
  kid _ := some (some "k1")
  decode token _ _ _ _ := some [("email", if token = "numbered" then .int 7 else .str "ada@example.org")]

def plainSettings : Settings where
  teamDomain := "team.example.org"
  audience := "tag"
  ttl := 3600

/-- A call at the start, whose fetch is answered so. -/
def callWith (token : String) (body : Json) : Call String := ⟨some token, 0, (.body body, 1), (.httpError, 1)⟩

def publishedSet : Json := .dict [("keys", .list [.dict [("kid", .str "k1")]])]

theorem orderly_callWith (token : String) (body : Json) : Orderly (.boot 0 : Keyring String) (callWith token body) :=
  ⟨le_rfl, zero_le_one, zero_le_one⟩

end Retina.Access
