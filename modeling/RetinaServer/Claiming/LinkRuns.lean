import RetinaServer.Claiming.MagicLinks
import RetinaServer.Library.Runs

/-! Every order of requests over the link table. A log beside the table says what each request came to: a link
issued, redeemed or invalidated. -/
namespace Retina.Claiming
open Runs

/-- What a link is about. -/
def MagicLink.scope (l : MagicLink) : RedeemedLink := { email := l.email, intent := l.intent, nodeId := l.nodeId }

inductive LinkCall where
  | create (email : String) (intent : Intent) (nodeId : Option String)
  | redeem (token : Nat) (intent : Intent)
  | invalidate (handle : Nat)

/-- A request, at the clock reading that it compares with. -/
structure LinkRequest where
  now : ℚ
  call : LinkCall

inductive LinkEntry where
  | issued (token : Nat) (link : RedeemedLink) (now : ℚ)
  | redeemed (token : Nat) (intent : Intent) (link : RedeemedLink) (now : ℚ)
  | invalidated (token : Nat)
deriving DecidableEq

structure LinkDesk where
  links : LinkStore
  clock : ℚ
  log : List LinkEntry

def LinkDesk.opened (clock : ℚ) : LinkDesk := { links := .empty, clock, log := [] }

/-- The links that count against the cap. -/
def LinkStore.outstanding (s : LinkStore) (email : String) (intent : Intent) (now : ℚ) : List MagicLink :=
  s.rows.filter fun l => decide (l.email = email) && decide (l.intent = intent) && l.outstanding now

/-- The token a redemption was of. -/
def LinkEntry.spentToken : LinkEntry → Option Nat
  | .redeemed token _ _ _ => some token
  | _ => none

section
/-! Nothing is asked of the folding of addresses to the form they are kept in. -/

variable (normaliseEmail : String → String)

def serve (d : LinkDesk) (r : LinkRequest) : LinkDesk :=
  match r.call with
  | .create email intent nodeId =>
      let issued := createMagicLink d.links (normaliseEmail email) intent nodeId r.now
      { links := issued.1
        clock := r.now
        log := d.log ++ issued.2.toList.map fun token =>
          .issued token { email := normaliseEmail email, intent, nodeId } r.now }
  | .redeem token intent =>
      let redeemed := redeemMagicLink d.links token intent r.now
      { links := redeemed.1
        clock := r.now
        log := d.log ++ redeemed.2.toList.map fun link => .redeemed token intent link r.now }
  | .invalidate handle =>
      { links := invalidateMagicLink d.links handle, clock := r.now, log := d.log ++ [.invalidated handle] }

/-- The link is one that the request is about. -/
def LinkRequest.About (r : LinkRequest) (d : LinkDesk) (l : MagicLink) : Prop :=
  match r.call with
  | .create email intent nodeId => l.scope = { email := normaliseEmail email, intent, nodeId }
  | .redeem token _ | .invalidate token => ∃ m ∈ d.links.rows, m.handle = token ∧ l.scope = m.scope

end

/-- The clock is not turned back between requests. -/
def Onward (d : LinkDesk) (r : LinkRequest) : Prop := d.clock ≤ r.now

instance (d : LinkDesk) (r : LinkRequest) : Decidable (Onward d r) := inferInstanceAs (Decidable (d.clock ≤ r.now))

/-- The token was issued for the link, and was not invalidated since. -/
def StandsIssued (log : List LinkEntry) (token : Nat) (link : RedeemedLink) (issuedAt : ℚ) : Prop :=
  ∃ first later, log = first ++ .issued token link issuedAt :: later ∧ .invalidated token ∉ later

/-- The token stands under the intent it is redeemed under, and has not run out. -/
def Warrants (log : List LinkEntry) (token : Nat) (intent : Intent) (link : RedeemedLink) (now : ℚ) : Prop :=
  link.intent = intent ∧
    ∃ issuedAt, StandsIssued log token link issuedAt ∧ issuedAt ≤ now ∧ now ≤ issuedAt + MAGIC_LINK_EXPIRY_S

/-- What came before each redemption warrants it. -/
def Warranted (log : List LinkEntry) : Prop :=
  ∀ before token intent link now after, log = before ++ .redeemed token intent link now :: after →
    Warrants before token intent link now

def SingleUse (log : List LinkEntry) : Prop := (log.filterMap LinkEntry.spentToken).Nodup

/-- No address has more links of an intent, from the clock on, than it may. -/
def LinkStore.CappedFrom (s : LinkStore) (clock : ℚ) : Prop :=
  ∀ email intent now, clock ≤ now → (s.outstanding email intent now).length ≤ MAX_OUTSTANDING_MAGIC_LINKS

/-- A redemption leaves no unspent link that is about the same. -/
def ClearsSiblings (normaliseEmail : String → String) (d : LinkDesk) (r : LinkRequest) : Prop :=
  ∀ token intent link, r.call = .redeem token intent → (redeemMagicLink d.links token intent r.now).2 = some link →
    ∀ l, (serve normaliseEmail d r).links.unspent l → l.scope ≠ link

/-- An unexpired link that the request is not about stays as it is. -/
def LeavesOthers (normaliseEmail : String → String) (d : LinkDesk) (r : LinkRequest) : Prop :=
  ∀ l ∈ d.links.rows, r.now ≤ l.expiresAt → ¬ r.About normaliseEmail d l → l ∈ (serve normaliseEmail d r).links.rows

/-! ### The links that count -/

theorem MagicLink.outstanding_anti (l : MagicLink) (onward : now ≤ later) (counts : l.outstanding later = true) :
    l.outstanding now = true := by
  simp only [MagicLink.outstanding, Bool.and_eq_true, decide_eq_true_eq] at counts ⊢
  exact ⟨counts.1, onward.trans counts.2⟩

theorem LinkStore.outstanding_anti (s : LinkStore) (email : String) (intent : Intent) (onward : now ≤ later) :
    (s.outstanding email intent later).length ≤ (s.outstanding email intent now).length := by
  refine (List.monotone_filter_right s.rows fun l counts => ?_).length_le
  simp only [Bool.and_eq_true] at counts ⊢
  exact ⟨counts.1, l.outstanding_anti onward counts.2⟩

theorem LinkStore.outstanding_filter (s : LinkStore) (p : MagicLink → Bool) (email : String) (intent : Intent) (now : ℚ) :
    ((s.filter p).outstanding email intent now).length ≤ (s.outstanding email intent now).length :=
  (List.filter_sublist.filter _).length_le

theorem spend_of_outstanding (counts : (MagicLink.spend l token intent now).outstanding later = true) :
    l.spend token intent now = l := by
  rw [MagicLink.spend] at counts ⊢
  split
  · rename_i spent
    simp [spent, MagicLink.outstanding] at counts
  · rfl

theorem LinkStore.outstanding_spend (s : LinkStore) (token : Nat) (intent₀ : Intent) (now₀ : ℚ) (email : String)
    (intent : Intent) (now : ℚ) :
    ((s.spend token intent₀ now₀).outstanding email intent now).length ≤ (s.outstanding email intent now).length := by
  rw [LinkStore.outstanding, LinkStore.spend, List.filter_map, List.length_map]
  refine (List.monotone_filter_right s.rows fun l counts => ?_).length_le
  simp only [Function.comp_apply, Bool.and_eq_true] at counts ⊢
  rwa [spend_of_outstanding counts.2] at counts

theorem LinkStore.outstanding_add (s : LinkStore) (email₀ : String) (intent₀ : Intent) (nodeId : Option String)
    (now₀ : ℚ) (email : String) (intent : Intent) (now : ℚ) :
    (s.add email₀ intent₀ nodeId now₀).outstanding email intent now = s.outstanding email intent now ∨
      email₀ = email ∧ intent₀ = intent ∧
        ((s.add email₀ intent₀ nodeId now₀).outstanding email intent now).length =
          (s.outstanding email intent now).length + 1 := by
  simp only [LinkStore.outstanding, LinkStore.add, List.filter_append, List.length_append]
  by_cases same : email₀ = email ∧ intent₀ = intent
  · obtain ⟨rfl, rfl⟩ := same
    by_cases counts : MagicLink.outstanding
        { handle := s.next, email := email₀, intent := intent₀, nodeId, createdAt := now₀,
          expiresAt := now₀ + MAGIC_LINK_EXPIRY_S } now = true
    · exact .inr ⟨rfl, rfl, by simp [counts]⟩
    · exact .inl (by simp [counts])
  · refine .inl ?_
    rw [List.append_right_eq_self, List.filter_eq_nil_iff]
    intro l new
    rw [List.mem_singleton.mp new]
    simpa using fun email intent => absurd ⟨email, intent⟩ same

theorem LinkStore.CappedFrom.mono (capped : LinkStore.CappedFrom s clock) (onward : clock ≤ now) : s.CappedFrom now :=
  fun email intent later after => capped email intent later (onward.trans after)

theorem LinkStore.CappedFrom.filter (capped : LinkStore.CappedFrom s clock) (p : MagicLink → Bool) :
    (s.filter p).CappedFrom clock :=
  fun email intent now after => (s.outstanding_filter p email intent now).trans (capped email intent now after)

theorem LinkStore.CappedFrom.create (capped : LinkStore.CappedFrom s now) (email : String) (intent : Intent)
    (nodeId : Option String) : (createMagicLink s email intent nodeId now).1.CappedFrom now := by
  simp only [createMagicLink]
  split
  · exact capped.filter _
  · rename_i room
    intro email' intent' later after
    rcases LinkStore.outstanding_add _ email intent nodeId now email' intent' later with same | ⟨rfl, rfl, more⟩
    · rw [same]
      exact capped.filter _ email' intent' later after
    · rw [more]
      exact Nat.succ_le_of_lt (((LinkStore.outstanding_anti _ email intent after)).trans_lt (not_le.mp room))

theorem LinkStore.CappedFrom.redeem (capped : LinkStore.CappedFrom s clock) (token : Nat) (intent : Intent) (now : ℚ) :
    (redeemMagicLink s token intent now).1.CappedFrom clock := by
  rw [redeemMagicLink]
  split
  · exact capped
  · have spent : (s.spend token intent now).CappedFrom clock := fun email' intent' later after =>
      (s.outstanding_spend token intent now email' intent' later).trans (capped email' intent' later after)
    exact spent.filter _

/-! ### What one request does -/

/-- A link that can be redeemed after a mint could be before, or is the one that was minted. -/
theorem unspent_createMagicLink
    (held : (createMagicLink s email intent nodeId now).1.unspent l) :
    s.unspent l ∨ (createMagicLink s email intent nodeId now).2 = some s.next ∧ l.handle = s.next ∧
      l.scope = { email, intent, nodeId } ∧ l.expiresAt = now + MAGIC_LINK_EXPIRY_S := by
  simp only [createMagicLink] at held ⊢
  split at held
  · exact .inl ((shrinks_filter s _).unspent l held)
  · rcases List.mem_append.mp held.1 with old | new
    · exact .inl ((shrinks_filter s _).unspent l ⟨old, held.2⟩)
    · rename_i room
      rw [if_neg room, List.mem_singleton.mp new]
      exact .inr ⟨rfl, rfl, rfl, rfl⟩

theorem Dead.create (dead : Dead s token) (email : String) (intent : Intent) (nodeId : Option String) (now : ℚ) :
    Dead (createMagicLink s email intent nodeId now).1 token := by
  rcases createMagicLink_cases s email intent nodeId now with ⟨-, shrinks⟩ | ⟨-, next, minted⟩
  · exact shrinks.dead dead
  · refine ⟨?_, fun l held => ?_⟩
    · rw [next]
      exact Nat.lt_succ_of_lt dead.drawn
    · rcases minted l held with old | ⟨handle, -⟩
      · exact dead.spent l old
      · rw [handle]
        exact dead.drawn.ne'

/-- The link that a redemption found, and the siblings that went with it. -/
theorem redeemMagicLink_found (redeemed : (redeemMagicLink s token intent now).2 = some link) :
    (∃ l, s.unspent l ∧ l.handle = token ∧ l.scope = link ∧ now ≤ l.expiresAt) ∧ link.intent = intent ∧
      ∀ l, (redeemMagicLink s token intent now).1.unspent l → l.scope ≠ link := by
  rw [redeemMagicLink] at redeemed ⊢
  split at redeemed
  · cases redeemed
  · rename_i found here
    obtain rfl := Option.some.inj redeemed
    have matched := List.find?_some here
    simp only [MagicLink.redeemable, MagicLink.outstanding, Bool.and_eq_true, decide_eq_true_eq,
      Option.isNone_iff_eq_none] at matched
    obtain ⟨⟨handle, rfl⟩, unused, fresh⟩ := matched
    refine ⟨⟨found, ⟨List.mem_of_find?_eq_some here, unused⟩, handle, rfl, fresh⟩, rfl, fun l held same => ?_⟩
    have kept := (List.mem_filter.mp held.1).2
    simp only [MagicLink.scope, RedeemedLink.mk.injEq] at same
    simp [same.1, same.2.1, same.2.2, held.2] at kept

theorem serve_leavesOthers (normaliseEmail : String → String) (d : LinkDesk) (r : LinkRequest) :
    LeavesOthers normaliseEmail d r := by
  obtain ⟨now, call⟩ := r
  intro l member fresh other
  cases call with
  | create email intent nodeId =>
    have kept : l ∈ (d.links.filter fun l => !(decide (l.email = normaliseEmail email) && decide (l.expiresAt < now))).rows :=
      List.mem_filter.mpr ⟨member, by simp [not_lt.mpr fresh]⟩
    simp only [serve, createMagicLink]
    split
    · exact kept
    · exact List.mem_append_left _ kept
  | redeem token intent =>
    simp only [serve, redeemMagicLink]
    split
    · exact member
    · rename_i found here
      have listed := List.mem_of_find?_eq_some here
      have matched := List.find?_some here
      simp only [MagicLink.redeemable, Bool.and_eq_true, decide_eq_true_eq] at matched
      obtain ⟨⟨handle, rfl⟩, -⟩ := matched
      have elsewhere : l.scope ≠ found.scope := fun same => other ⟨found, listed, handle, same⟩
      have unmoved : l.spend token found.intent now = l := by
        have unmatched : l.handle ≠ token := fun same => other ⟨l, member, same, rfl⟩
        simp [MagicLink.spend, MagicLink.redeemable, unmatched]
      refine List.mem_filter.mpr ⟨List.mem_map.mpr ⟨l, member, unmoved⟩, ?_⟩
      simp only [MagicLink.scope, ne_eq, RedeemedLink.mk.injEq] at elsewhere
      simp only [Bool.not_eq_true', Bool.and_eq_false_iff, decide_eq_false_iff_not]
      tauto
  | invalidate handle =>
    refine List.mem_filter.mpr ⟨member, ?_⟩
    simpa using fun same => other ⟨l, member, same, rfl⟩

theorem serve_clearsSiblings (normaliseEmail : String → String) (d : LinkDesk) (r : LinkRequest) :
    ClearsSiblings normaliseEmail d r := by
  intro token intent link call redeemed l held
  simp only [serve, call] at held
  exact (redeemMagicLink_found redeemed).2.2 l held

/-! ### The log -/

theorem StandsIssued.append (stands : StandsIssued log token link issuedAt) (entries : List LinkEntry)
    (valid : .invalidated token ∉ entries) : StandsIssued (log ++ entries) token link issuedAt := by
  obtain ⟨first, later, rfl, kept⟩ := stands
  exact ⟨first, later ++ entries, by simp, by simpa using ⟨kept, valid⟩⟩

theorem spentTokens_concat (log : List LinkEntry) (unspent : LinkEntry.spentToken entry = none) :
    (log ++ [entry]).filterMap LinkEntry.spentToken = log.filterMap LinkEntry.spentToken := by
  rw [List.filterMap_append, List.filterMap_cons_none unspent, List.filterMap_nil, List.append_nil]

theorem standsIssued_last (log : List LinkEntry) (token : Nat) (link : RedeemedLink) (now : ℚ) :
    StandsIssued (log ++ [.issued token link now]) token link now :=
  ⟨log, [], rfl, List.not_mem_nil⟩

theorem Warranted.concat (warranted : Warranted log)
    (last : ∀ token intent link now, entry = .redeemed token intent link now → Warrants log token intent link now) :
    Warranted (log ++ [entry]) := by
  intro before token intent link now after split
  rcases List.eq_nil_or_concat after with rfl | ⟨after, final, rfl⟩
  · obtain ⟨rfl, same⟩ := List.append_inj' split rfl
    exact last token intent link now (List.cons.inj same).1
  · rw [List.concat_eq_append, ← List.cons_append, ← List.append_assoc] at split
    exact warranted before token intent link now after (List.append_inj_left' split rfl)

/-! ### What holds in every state -/

structure Accounted (d : LinkDesk) : Prop where
  standing : ∀ l, d.links.unspent l → ∃ issuedAt, StandsIssued d.log l.handle l.scope issuedAt ∧ issuedAt ≤ d.clock ∧
    l.expiresAt = issuedAt + MAGIC_LINK_EXPIRY_S
  spent : ∀ token ∈ d.log.filterMap LinkEntry.spentToken, Dead d.links token
  warranted : Warranted d.log
  single : SingleUse d.log
  capped : d.links.CappedFrom d.clock

theorem accounted_opened (clock : ℚ) : Accounted (LinkDesk.opened clock) where
  standing l held := absurd held.1 List.not_mem_nil
  spent token member := absurd member List.not_mem_nil
  warranted before token intent link now after split := by cases before <;> cases split
  single := List.nodup_nil
  capped email intent now after := Nat.zero_le _

/-- A link that could be redeemed before stands as it did, whatever is logged but its own invalidation. -/
theorem Accounted.still (accounted : Accounted d) (held : d.links.unspent l) (onward : d.clock ≤ now)
    (entries : List LinkEntry) (valid : .invalidated l.handle ∉ entries) :
    ∃ issuedAt, StandsIssued (d.log ++ entries) l.handle l.scope issuedAt ∧ issuedAt ≤ now ∧
      l.expiresAt = issuedAt + MAGIC_LINK_EXPIRY_S := by
  obtain ⟨issuedAt, stands, before, expires⟩ := accounted.standing l held
  exact ⟨issuedAt, stands.append entries valid, before.trans onward, expires⟩

/-- A request that logs nothing makes nothing redeemable. -/
theorem Accounted.quiet (accounted : Accounted d) (shrinks : Shrinks d.links links) (onward : d.clock ≤ now)
    (capped : links.CappedFrom now) : Accounted { d with links, clock := now } where
  standing l held := by simpa using accounted.still (shrinks.unspent l held) onward [] List.not_mem_nil
  spent token member := shrinks.dead (accounted.spent token member)
  warranted := accounted.warranted
  single := accounted.single
  capped := capped

theorem Accounted.create (accounted : Accounted d) (onward : d.clock ≤ now) (email : String) (intent : Intent)
    (nodeId : Option String) :
    Accounted { links := (createMagicLink d.links email intent nodeId now).1, clock := now,
                log := d.log ++ (createMagicLink d.links email intent nodeId now).2.toList.map fun token =>
                  .issued token { email, intent, nodeId } now } := by
  have capped := (accounted.capped.mono onward).create email intent nodeId
  rcases createMagicLink_cases d.links email intent nodeId now with ⟨refused, shrinks⟩ | ⟨minted, -, -⟩
  · rw [refused]
    simpa using accounted.quiet shrinks onward capped
  · simp only [minted, Option.toList_some, List.map_cons, List.map_nil]
    refine ⟨fun l held => ?_, fun token member => ?_, accounted.warranted.concat nofun, ?_, capped⟩
    · rcases unspent_createMagicLink held with old | ⟨-, handle, scope, expires⟩
      · exact accounted.still old onward _ (by simp)
      · rw [handle, scope]
        exact ⟨now, standsIssued_last d.log _ _ now, le_rfl, expires⟩
    · rw [spentTokens_concat d.log rfl] at member
      exact (accounted.spent token member).create email intent nodeId now
    · rw [SingleUse, spentTokens_concat d.log rfl]
      exact accounted.single

theorem Accounted.redeem (accounted : Accounted d) (onward : d.clock ≤ now) (token : Nat) (intent : Intent) :
    Accounted { links := (redeemMagicLink d.links token intent now).1, clock := now,
                log := d.log ++ (redeemMagicLink d.links token intent now).2.toList.map fun link =>
                  .redeemed token intent link now } := by
  have shrinks := shrinks_redeem d.links token intent now
  have capped := (accounted.capped.mono onward).redeem token intent now
  cases redeemed : (redeemMagicLink d.links token intent now).2 with
  | none => simpa using accounted.quiet shrinks onward capped
  | some link =>
    obtain ⟨⟨l, held, handle, scope, fresh⟩, intended, -⟩ := redeemMagicLink_found redeemed
    obtain ⟨issuedAt, stands, before, expires⟩ := accounted.standing l held
    rw [handle, scope] at stands
    simp only [Option.toList_some, List.map_cons, List.map_nil]
    refine ⟨fun l held => ?_, fun token' member => ?_, accounted.warranted.concat ?_, ?_, capped⟩
    · exact accounted.still (shrinks.unspent l held) onward _ (by simp)
    · rw [List.filterMap_append, List.mem_append] at member
      rcases member with old | new
      · exact shrinks.dead (accounted.spent token' old)
      · obtain rfl : token' = token := by simpa [LinkEntry.spentToken] using new
        exact (redeemMagicLink_some redeemed).2
    · rintro _ _ _ _ ⟨⟩
      exact ⟨intended, issuedAt, stands, before.trans onward, fresh.trans expires.le⟩
    · -- a token that was spent before is dead, and this one was not
      have unspent : token ∉ d.log.filterMap LinkEntry.spentToken := fun member =>
        (accounted.spent token member).spent l held handle
      rw [SingleUse, List.filterMap_append, List.nodup_append]
      refine ⟨accounted.single, by simp [LinkEntry.spentToken], ?_⟩
      rintro old member new last rfl
      obtain rfl : old = token := by simpa [LinkEntry.spentToken] using last
      exact unspent member

theorem Accounted.invalidate (accounted : Accounted d) (onward : d.clock ≤ now) (handle : Nat) :
    Accounted { links := invalidateMagicLink d.links handle, clock := now, log := d.log ++ [.invalidated handle] } := by
  have shrinks := shrinks_invalidate d.links handle
  refine ⟨fun l held => ?_, fun token member => ?_, accounted.warranted.concat nofun, ?_,
    (accounted.capped.mono onward).filter _⟩
  · refine accounted.still (shrinks.unspent l held) onward _ ?_
    simpa using not_unspent_invalidate d.links handle held
  · rw [spentTokens_concat d.log rfl] at member
    exact shrinks.dead (accounted.spent token member)
  · rw [SingleUse, spentTokens_concat d.log rfl]
    exact accounted.single

theorem Accounted.serve (normaliseEmail : String → String) (d : LinkDesk) (r : LinkRequest) (accounted : Accounted d)
    (onward : Onward d r) : Accounted (serve normaliseEmail d r) := by
  obtain ⟨now, call⟩ := r
  cases call with
  | create email intent nodeId => exact accounted.create onward (normaliseEmail email) intent nodeId
  | redeem token intent => exact accounted.redeem onward token intent
  | invalidate handle => exact accounted.invalidate onward handle

theorem links_single_use_scoped_capped (normaliseEmail : String → String) (opened : ℚ) (requests : List LinkRequest)
    (ordered : Along (serve normaliseEmail) Onward (LinkDesk.opened opened) requests) :
    SingleUse (run (serve normaliseEmail) (LinkDesk.opened opened) requests).log ∧
      Warranted (run (serve normaliseEmail) (LinkDesk.opened opened) requests).log ∧
      Along (serve normaliseEmail) (ClearsSiblings normaliseEmail) (LinkDesk.opened opened) requests ∧
      (run (serve normaliseEmail) (LinkDesk.opened opened) requests).links.CappedFrom
        (run (serve normaliseEmail) (LinkDesk.opened opened) requests).clock ∧
      Along (serve normaliseEmail) (LeavesOthers normaliseEmail) (LinkDesk.opened opened) requests := by
  have accounted := invariant (Accounted.serve normaliseEmail) (accounted_opened opened) ordered
  refine ⟨accounted.single, accounted.warranted, ?_, accounted.capped, ?_⟩
  · exact along_of_always (I := fun _ => True) (fun _ _ _ => trivial)
      (fun d r _ => serve_clearsSiblings normaliseEmail d r) trivial requests
  · exact along_of_always (I := fun _ => True) (fun _ _ _ => trivial)
      (fun d r _ => serve_leavesOthers normaliseEmail d r) trivial requests

/-- A link is mailed, sent again, and redeemed at the very end of its time. -/
def lastMinute : List LinkRequest :=
  [{ now := 0, call := .create "a@radar" .signin none }, { now := 10, call := .create "a@radar" .signin none },
   { now := 900, call := .redeem 0 .signin }, { now := 900, call := .redeem 1 .signin }]

theorem last_minute_served :
    Along (serve id) Onward (LinkDesk.opened 0) lastMinute ∧
      SingleUse (run (serve id) (LinkDesk.opened 0) lastMinute).log ∧
      (run (serve id) (LinkDesk.opened 0) lastMinute).log ≠ [] := by
  have ordered : Along (serve id) Onward (LinkDesk.opened 0) lastMinute := by decide +kernel
  exact ⟨ordered, (links_single_use_scoped_capped id 0 lastMinute ordered).1, by decide +kernel⟩

/-- The end of its time is not too late for a link. -/
theorem redeemed_at_expiry :
    ¬ ∀ (normaliseEmail : String → String) (opened : ℚ) (requests : List LinkRequest),
      Along (serve normaliseEmail) Onward (LinkDesk.opened opened) requests →
        ∀ before token intent link now after,
          (run (serve normaliseEmail) (LinkDesk.opened opened) requests).log =
            before ++ .redeemed token intent link now :: after →
          ∀ issuedAt, .issued token link issuedAt ∈ before → now < issuedAt + MAGIC_LINK_EXPIRY_S := by
  intro early
  have strict := early id 0 lastMinute (by decide +kernel)
    [.issued 0 { email := "a@radar", intent := .signin, nodeId := none } 0,
     .issued 1 { email := "a@radar", intent := .signin, nodeId := none } 10] 0 .signin
    { email := "a@radar", intent := .signin, nodeId := none } 900 [] (by decide +kernel) 0 (by decide +kernel)
  exact absurd strict (by decide +kernel)

end Retina.Claiming
