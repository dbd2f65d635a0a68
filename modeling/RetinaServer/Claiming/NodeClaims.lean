import RetinaServer.Library.Dict
import Mathlib.Data.Rat.Defs

/-! Who owns a node, the address it was claimed with, and its one pending challenge. -/
namespace Retina.Claiming
open OrderedDict

structure NodeClaim where
  email : Option String := none
  verified : Bool := false
  undeliverable : Bool := false
  userId : Option Nat := none
deriving DecidableEq

structure NodeClaimChallenge where
  email : String
  handle : Nat
  expiresAt : ℚ
deriving DecidableEq

structure ClaimStore where
  claims : Dict String NodeClaim
  challenges : Dict String NodeClaimChallenge

def ClaimStore.empty : ClaimStore := { claims := Dict.empty, challenges := Dict.empty }

inductive ClaimState where
  | owned
  | pending
  | unclaimed
deriving DecidableEq, Repr

structure ClaimStatus where
  state : ClaimState
  email : Option String
  undeliverable : Bool
deriving DecidableEq

def readOwner (s : ClaimStore) (nodeId : String) : Option Nat := (s.claims.get? nodeId).bind NodeClaim.userId

def readChallenge (s : ClaimStore) (nodeId : String) : Option NodeClaimChallenge := s.challenges.get? nodeId

/-- The address the node is offering. -/
def claimAddress (s : ClaimStore) (nodeId : String) : Option String := (s.claims.get? nodeId).bind NodeClaim.email

/-- A different address is a fresh start. -/
def setClaimAddress (s : ClaimStore) (nodeId email : String) : ClaimStore :=
  match s.claims.get? nodeId with
  | none => { s with claims := s.claims.insert nodeId { email := some email } }
  | some row =>
      if row.email = some email then s
      else { s with claims :=
        s.claims.insert nodeId { row with email := some email, verified := false, undeliverable := false } }

def dropChallenge (s : ClaimStore) (nodeId : String) : ClaimStore × Option Nat :=
  ({ s with challenges := s.challenges.erase nodeId }, (s.challenges.get? nodeId).map NodeClaimChallenge.handle)

/-- The handle that comes back is that of the challenge displaced. -/
def putChallenge (s : ClaimStore) (nodeId email : String) (handle : Nat) (expiresAt : ℚ) : ClaimStore × Option Nat :=
  ({ s with challenges := s.challenges.insert nodeId { email, handle, expiresAt } },
    (s.challenges.get? nodeId).map NodeClaimChallenge.handle)

/-- Only the address on file is confirmed, and the challenge is spent with it. -/
def markVerified (s : ClaimStore) (nodeId email : String) : ClaimStore :=
  match s.claims.get? nodeId with
  | none => s
  | some row =>
      if row.email ≠ some email then s
      else (dropChallenge { s with claims := s.claims.insert nodeId { row with verified := true } } nodeId).1

def clearClaim (s : ClaimStore) (nodeId : String) : ClaimStore :=
  { claims := s.claims.erase nodeId, challenges := s.challenges.erase nodeId }

/-- A change of owner clears what a release clears. -/
def setOwner (s : ClaimStore) (nodeId : String) (userId : Option Nat) : ClaimStore :=
  match userId with
  | none => clearClaim s nodeId
  | some user =>
      if readOwner s nodeId = some user then s
      else
        let s := (dropChallenge s nodeId).1
        { s with claims := s.claims.insert nodeId { userId := some user } }

/-- The order is the order in which the facts outrank each other. -/
def claimStatus (s : ClaimStore) (nodeId : String) (now : ℚ) : ClaimStatus :=
  match s.claims.get? nodeId with
  | none => { state := .unclaimed, email := none, undeliverable := false }
  | some claim =>
      if claim.userId.isSome then { state := .owned, email := claim.email, undeliverable := false }
      else if claim.undeliverable then { state := .unclaimed, email := claim.email, undeliverable := true }
      else match readChallenge s nodeId with
        | none => { state := .unclaimed, email := claim.email, undeliverable := false }
        | some challenge =>
            if now < challenge.expiresAt then { state := .pending, email := some challenge.email, undeliverable := false }
            else { state := .unclaimed, email := claim.email, undeliverable := false }

/-! ### What each writer leaves of the owners and the challenges -/

theorem readOwner_setClaimAddress (s : ClaimStore) (nodeId email n : String) :
    readOwner (setClaimAddress s nodeId email) n = readOwner s n := by
  simp only [readOwner, setClaimAddress]
  cases row : s.claims.get? nodeId with
  | none =>
    simp only [Dict.get?_insert]
    split
    · rename_i same
      subst same
      rw [row]
      rfl
    · rfl
  | some row' =>
    simp only
    split
    · rfl
    · simp only [Dict.get?_insert]
      split
      · rename_i same
        subst same
        rw [row]
        rfl
      · rfl

@[simp] theorem setClaimAddress_challenges (s : ClaimStore) (nodeId email : String) :
    (setClaimAddress s nodeId email).challenges = s.challenges := by
  rw [setClaimAddress]
  split
  · rfl
  · split <;> rfl

theorem readOwner_markVerified (s : ClaimStore) (nodeId email n : String) :
    readOwner (markVerified s nodeId email) n = readOwner s n := by
  rw [markVerified]
  split
  · rfl
  · rename_i row found
    split
    · rfl
    · simp only [dropChallenge, readOwner, Dict.get?_insert]
      split
      · rename_i same
        subst same
        rw [found]
        rfl
      · rfl

/-- A writer leaves the node's challenge or drops it, and leaves the other nodes' alone. -/
structure Drops (s s' : ClaimStore) (nodeId : String) : Prop where
  here : s'.challenges.get? nodeId = s.challenges.get? nodeId ∨ s'.challenges.get? nodeId = none
  elsewhere : ∀ n, n ≠ nodeId → s'.challenges.get? n = s.challenges.get? n

theorem drops_self (s : ClaimStore) (nodeId : String) : Drops s s nodeId := ⟨.inl rfl, fun _ _ => rfl⟩

theorem drops_erase {s s' : ClaimStore} (erased : s'.challenges = s.challenges.erase nodeId) : Drops s s' nodeId := by
  refine ⟨.inr ?_, fun n other => ?_⟩
  · rw [erased, Dict.get?_erase_self]
  · rw [erased, Dict.get?_erase_ne _ (Ne.symm other)]

theorem drops_clearClaim (s : ClaimStore) (nodeId : String) : Drops s (clearClaim s nodeId) nodeId := drops_erase rfl

theorem drops_markVerified (s : ClaimStore) (nodeId email : String) : Drops s (markVerified s nodeId email) nodeId := by
  rw [markVerified]
  split
  · exact drops_self s nodeId
  · split
    · exact drops_self s nodeId
    · exact drops_erase rfl

theorem drops_setOwner (s : ClaimStore) (nodeId : String) (userId : Option Nat) :
    Drops s (setOwner s nodeId userId) nodeId := by
  cases userId with
  | none => exact drops_clearClaim s nodeId
  | some user =>
    simp only [setOwner]
    split
    · exact drops_self s nodeId
    · exact drops_erase rfl

end Retina.Claiming
