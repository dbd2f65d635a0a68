import Mathlib.Data.Rat.Defs
import Mathlib.Algebra.Order.Ring.Rat
import Mathlib.Data.List.Nodup

/-! Links that work once: minted for an address under one intent, redeemed, read
without being spent, or made unredeemable. -/
namespace Retina.Claiming

def MAGIC_LINK_EXPIRY_S : ℚ := 900
def MAX_OUTSTANDING_MAGIC_LINKS : Nat := 5

/-- What a link is for, any text. -/
structure Intent where
  text : String
deriving DecidableEq, Repr

def Intent.signin : Intent := ⟨"signin"⟩
def Intent.claim : Intent := ⟨"claim"⟩

structure MagicLink where
  handle : Nat
  email : String
  intent : Intent
  nodeId : Option String
  createdAt : ℚ
  expiresAt : ℚ
  usedAt : Option ℚ := none
deriving DecidableEq

/-- The link table. A token is drawn at random and never twice, so that a count stands for it and for its hash. -/
structure LinkStore where
  rows : List MagicLink
  next : Nat
  drawn : ∀ l ∈ rows, l.handle < next
  distinct : (rows.map MagicLink.handle).Nodup

/-- A link that has just been spent, and what it was for. -/
structure RedeemedLink where
  email : String
  intent : Intent
  nodeId : Option String
deriving DecidableEq

def LinkStore.empty : LinkStore := { rows := [], next := 0, drawn := by simp, distinct := List.nodup_nil }

def LinkStore.filter (s : LinkStore) (p : MagicLink → Bool) : LinkStore where
  rows := s.rows.filter p
  next := s.next
  drawn l member := s.drawn l (List.mem_filter.mp member).1
  distinct := s.distinct.sublist (List.filter_sublist.map _)

def LinkStore.add (s : LinkStore) (email : String) (intent : Intent) (nodeId : Option String) (now : ℚ) :
    LinkStore where
  rows := s.rows ++
    [{ handle := s.next, email, intent, nodeId, createdAt := now, expiresAt := now + MAGIC_LINK_EXPIRY_S }]
  next := s.next + 1
  drawn l member := by
    rcases List.mem_append.mp member with old | new
    · exact Nat.lt_succ_of_lt (s.drawn l old)
    · rw [List.mem_singleton.mp new]
      exact Nat.lt_succ_self _
  distinct := by
    rw [List.map_append, List.nodup_append]
    refine ⟨s.distinct, List.nodup_singleton _, ?_⟩
    rintro handle old handle' new rfl
    obtain ⟨l, member, rfl⟩ := List.mem_map.mp old
    simp only [List.map_cons, List.map_nil, List.mem_singleton] at new
    exact (s.drawn l member).ne new

/-- Unspent, and unexpired at `now`. -/
def MagicLink.outstanding (l : MagicLink) (now : ℚ) : Bool := l.usedAt.isNone && decide (now ≤ l.expiresAt)

def MagicLink.redeemable (l : MagicLink) (token : Nat) (intent : Intent) (now : ℚ) : Bool :=
  decide (l.handle = token) && decide (l.intent = intent) && l.outstanding now

/-- `none` where the address holds as many links of the intent as it may; its expired links go either way. -/
def createMagicLink (s : LinkStore) (email : String) (intent : Intent) (nodeId : Option String) (now : ℚ) :
    LinkStore × Option Nat :=
  let s := s.filter fun l => !(decide (l.email = email) && decide (l.expiresAt < now))
  let outstanding := s.rows.filter fun l => decide (l.email = email) && decide (l.intent = intent) && l.outstanding now
  if MAX_OUTSTANDING_MAGIC_LINKS ≤ outstanding.length then (s, none) else (s.add email intent nodeId now, some s.next)

def MagicLink.spend (l : MagicLink) (token : Nat) (intent : Intent) (now : ℚ) : MagicLink :=
  if l.redeemable token intent now then { l with usedAt := some now } else l

@[simp] theorem spend_handle (l : MagicLink) (token : Nat) (intent : Intent) (now : ℚ) :
    (l.spend token intent now).handle = l.handle := by
  rw [MagicLink.spend]
  split <;> rfl

def LinkStore.spend (s : LinkStore) (token : Nat) (intent : Intent) (now : ℚ) : LinkStore where
  rows := s.rows.map fun l => l.spend token intent now
  next := s.next
  drawn l member := by
    obtain ⟨old, listed, rfl⟩ := List.mem_map.mp member
    rw [spend_handle]
    exact s.drawn old listed
  distinct := by
    rw [List.map_map]
    simpa only [Function.comp_def, spend_handle] using s.distinct

/-- The other unspent links of the address, the intent and the node go with the one that is spent. -/
def redeemMagicLink (s : LinkStore) (token : Nat) (intent : Intent) (now : ℚ) : LinkStore × Option RedeemedLink :=
  match s.rows.find? fun l => l.redeemable token intent now with
  | none => (s, none)
  | some link =>
      ((s.spend token intent now).filter fun l => !(decide (l.email = link.email) && decide (l.intent = intent) &&
          decide (l.nodeId = link.nodeId) && l.usedAt.isNone),
        some { email := link.email, intent, nodeId := link.nodeId })

/-- A live link is read without being spent. -/
def peekMagicLink (s : LinkStore) (token : Nat) (intent : Intent) (now : ℚ) : Option RedeemedLink :=
  (s.rows.find? fun l => l.redeemable token intent now).map fun link =>
    { email := link.email, intent, nodeId := link.nodeId }

def invalidateMagicLink (s : LinkStore) (handle : Nat) : LinkStore := s.filter fun l => !decide (l.handle = handle)

/-! ### Unspent links -/

/-- The links that could still be redeemed, leaving the clock aside. -/
def LinkStore.unspent (s : LinkStore) (l : MagicLink) : Prop := l ∈ s.rows ∧ l.usedAt = none

/-- No link that could be redeemed is the token's, and none will be. -/
structure Dead (s : LinkStore) (token : Nat) : Prop where
  drawn : token < s.next
  spent : ∀ l, s.unspent l → l.handle ≠ token

/-- Nothing becomes redeemable, and the supply is not turned back. -/
structure Shrinks (s s' : LinkStore) : Prop where
  unspent : ∀ l, s'.unspent l → s.unspent l
  next : s.next ≤ s'.next

theorem Shrinks.refl (s : LinkStore) : Shrinks s s := ⟨fun _ held => held, le_rfl⟩

theorem Shrinks.dead (shrinks : Shrinks s s') (dead : Dead s token) : Dead s' token :=
  ⟨dead.drawn.trans_le shrinks.next, fun l held => dead.spent l (shrinks.unspent l held)⟩

theorem shrinks_filter (s : LinkStore) (p : MagicLink → Bool) : Shrinks s (s.filter p) :=
  ⟨fun _ held => ⟨(List.mem_filter.mp held.1).1, held.2⟩, le_rfl⟩

theorem LinkStore.unspent_add (s : LinkStore) (email : String) (intent : Intent) (nodeId : Option String) (now : ℚ)
    (held : (s.add email intent nodeId now).unspent l) :
    s.unspent l ∨ l.handle = s.next ∧ l.nodeId = nodeId ∧ l.intent = intent ∧ l.email = email := by
  rcases List.mem_append.mp held.1 with old | new
  · exact .inl ⟨old, held.2⟩
  · rw [List.mem_singleton.mp new]
    exact .inr ⟨rfl, rfl, rfl, rfl⟩

/-- A mint adds a link under a token that was not drawn before, or none. -/
theorem createMagicLink_cases (s : LinkStore) (email : String) (intent : Intent) (nodeId : Option String) (now : ℚ) :
    (createMagicLink s email intent nodeId now).2 = none ∧ Shrinks s (createMagicLink s email intent nodeId now).1 ∨
      (createMagicLink s email intent nodeId now).2 = some s.next ∧
      (createMagicLink s email intent nodeId now).1.next = s.next + 1 ∧
      ∀ l, (createMagicLink s email intent nodeId now).1.unspent l →
        s.unspent l ∨ l.handle = s.next ∧ l.nodeId = nodeId ∧ l.intent = intent ∧ l.email = email := by
  simp only [createMagicLink]
  split
  · exact .inl ⟨rfl, shrinks_filter s _⟩
  · refine .inr ⟨rfl, rfl, fun l held => ?_⟩
    rcases LinkStore.unspent_add _ email intent nodeId now held with old | new
    · exact .inl ((shrinks_filter s _).unspent l old)
    · exact .inr new

theorem shrinks_spend (s : LinkStore) (token : Nat) (intent : Intent) (now : ℚ) : Shrinks s (s.spend token intent now) := by
  refine ⟨fun l held => ?_, le_rfl⟩
  obtain ⟨member, unused⟩ := held
  obtain ⟨old, listed, rfl⟩ := List.mem_map.mp member
  simp only [MagicLink.spend] at unused ⊢
  split at unused
  · cases unused
  · rename_i other
    simp only [other, if_false, Bool.false_eq_true]
    exact ⟨listed, unused⟩

theorem shrinks_redeem (s : LinkStore) (token : Nat) (intent : Intent) (now : ℚ) :
    Shrinks s (redeemMagicLink s token intent now).1 := by
  rw [redeemMagicLink]
  split
  · exact Shrinks.refl s
  · have spent := shrinks_spend s token intent now
    have kept := shrinks_filter (s.spend token intent now)
    exact ⟨fun l held => spent.unspent l ((kept _).unspent l held), le_rfl⟩

/-- A token that is redeemed was that of an unspent link, and is dead from then on. -/
theorem redeemMagicLink_some {s : LinkStore} (redeemed : (redeemMagicLink s token intent now).2 = some link) :
    (∃ l, s.unspent l ∧ l.handle = token ∧ l.intent = intent ∧ l.nodeId = link.nodeId ∧ l.email = link.email) ∧
      Dead (redeemMagicLink s token intent now).1 token := by
  rw [redeemMagicLink] at redeemed ⊢
  split at redeemed
  · cases redeemed
  · rename_i found here
    obtain rfl := Option.some.inj redeemed
    have member := List.mem_of_find?_eq_some here
    have matched := List.find?_some here
    simp only [MagicLink.redeemable, MagicLink.outstanding, Bool.and_eq_true, decide_eq_true_eq,
      Option.isNone_iff_eq_none] at matched
    obtain ⟨⟨handle, intended⟩, unused, fresh⟩ := matched
    refine ⟨⟨found, ⟨member, unused⟩, handle, intended, rfl, rfl⟩, ?_, ?_⟩
    · simp only
      rw [← handle]
      exact s.drawn found member
    · intro l held same
      simp only at held
      obtain ⟨listed, unused'⟩ := (shrinks_filter (s.spend token intent now) _).unspent l held
      obtain ⟨old, listed', rfl⟩ := List.mem_map.mp listed
      rw [spend_handle] at same
      have equal : old = found := List.inj_on_of_nodup_map s.distinct listed' member (same.trans handle.symm)
      subst equal
      simp [MagicLink.spend, MagicLink.redeemable, MagicLink.outstanding, handle, intended, unused, fresh] at unused'

theorem redeemMagicLink_of_dead {s : LinkStore} (dead : Dead s token) (intent : Intent) (now : ℚ) :
    (redeemMagicLink s token intent now).2 = none := by
  cases redeemed : (redeemMagicLink s token intent now).2 with
  | none => rfl
  | some link =>
    obtain ⟨⟨l, held, handle, -⟩, -⟩ := redeemMagicLink_some redeemed
    exact absurd handle (dead.spent l held)

theorem peekMagicLink_some {s : LinkStore} (read : peekMagicLink s token intent now = some link) :
    ∃ l, s.unspent l ∧ l.handle = token ∧ l.intent = intent ∧ l.nodeId = link.nodeId ∧ l.email = link.email := by
  obtain ⟨found, here, rfl⟩ := Option.map_eq_some_iff.mp read
  have matched := List.find?_some here
  simp only [MagicLink.redeemable, MagicLink.outstanding, Bool.and_eq_true, decide_eq_true_eq,
    Option.isNone_iff_eq_none] at matched
  exact ⟨found, ⟨List.mem_of_find?_eq_some here, matched.2.1⟩, matched.1.1, matched.1.2, rfl, rfl⟩

theorem shrinks_invalidate (s : LinkStore) (handle : Nat) : Shrinks s (invalidateMagicLink s handle) :=
  shrinks_filter s _

theorem not_unspent_invalidate (s : LinkStore) (handle : Nat) (held : (invalidateMagicLink s handle).unspent l) :
    l.handle ≠ handle := by
  have kept := (List.mem_filter.mp held.1).2
  simpa using kept

end Retina.Claiming
