import RetinaServer.Claiming.MagicLinks
import RetinaServer.Claiming.NodeClaims
import RetinaServer.Library.Runs

/-! Nominations, clicks and declines under way, one transaction at a time, among
the releases and the changes that administrators make. -/
namespace Retina.Claiming
open OrderedDict Runs

structure Account where
  id : Nat
  superuser : Bool
deriving DecidableEq

inductive RequestStage where
  | begun
  | read (outstanding : Option Nat)
  /-- What was outstanding is dead. -/
  | invalidated
  /-- The link that was minted, unless the address holds too many. -/
  | issued (token : Option Nat)
deriving DecidableEq

/-- A nomination or a resend that was admitted. -/
structure Request where
  nodeId : String
  email : String
  now : ℚ
  stage : RequestStage
deriving DecidableEq

inductive ClickStage where
  | peeked
  /-- Nobody else owned the node when it was looked at. -/
  | checked
  | resolved (user : Nat)
  | redeemed (user : Nat)
deriving DecidableEq

structure Click where
  token : Nat
  nodeId : String
  email : String
  stage : ClickStage
deriving DecidableEq

inductive Thread where
  | request (r : Request)
  | click (c : Click)
  /-- The link is spent, and the challenge is still to be dropped. -/
  | decline (token : Nat) (nodeId : String)
deriving DecidableEq

inductive ClaimOutcome where
  | bound
  | invalid
  | taken
deriving DecidableEq, Repr

structure World where
  links : LinkStore
  store : ClaimStore
  accounts : Dict String Account
  nextUser : Nat
  threads : Dict Nat Thread
  /-- The outcomes of the clicks. -/
  answers : List (Nat × ClaimOutcome) := []

def World.start (accounts : Dict String Account) (nextUser : Nat) : World :=
  { links := LinkStore.empty, store := ClaimStore.empty, accounts, nextUser, threads := Dict.empty }

inductive Event where
  /-- `admitted` is the rate limiter's answer. -/
  | put (i : Nat) (nodeId email : String) (now : ℚ) (admitted : Bool)
  | resend (i : Nat) (nodeId : String) (now : ℚ) (admitted : Bool)
  | click (i : Nat) (token : Nat) (now : ℚ)
  | decline (i : Nat) (token : Nat) (now : ℚ)
  /-- The next transaction of a request, a click or a decline. -/
  | advance (i : Nat) (now : ℚ)
  | release (nodeId : String) (user : Nat)
  | setOwner (nodeId : String) (user : Option Nat)
  | clearClaim (nodeId : String)
  | signInRequested (email : String) (now : ℚ)
  | signInRedeemed (token : Nat) (now : ℚ)
  | accountMade (email : String) (superuser : Bool)

def World.setThread (w : World) (i : Nat) (thread : Thread) : World := { w with threads := w.threads.insert i thread }

def World.endThread (w : World) (i : Nat) : World := { w with threads := w.threads.erase i }

def World.answer (w : World) (i : Nat) (outcome : ClaimOutcome) : World :=
  { w.endThread i with answers := w.answers ++ [(i, outcome)] }

def startClaim (w : World) (i : Nat) (nodeId email : String) (now : ℚ) (admitted : Bool) : World :=
  if admitted then w.setThread i (.request { nodeId, email, now, stage := .begun }) else w

def putClaim (w : World) (i : Nat) (nodeId email : String) (now : ℚ) (admitted : Bool) : World :=
  let status := claimStatus w.store nodeId now
  if status.state = .owned then w
  else if status.email = some email then w
  else startClaim w i nodeId email now admitted

def resendClaim (w : World) (i : Nat) (nodeId : String) (now : ℚ) (admitted : Bool) : World :=
  let status := claimStatus w.store nodeId now
  if status.state = .owned then w
  else match status.email with
    | none => w
    | some email => if status.undeliverable then w else startClaim w i nodeId email now admitted

/-- The challenge is recorded with the address; the handle that it displaces is not looked at. -/
def recordChallenge (s : ClaimStore) (r : Request) : Option Nat → ClaimStore
  | none => setClaimAddress (dropChallenge s r.nodeId).1 r.nodeId r.email
  | some token =>
      setClaimAddress (putChallenge s r.nodeId r.email token (r.now + MAGIC_LINK_EXPIRY_S)).1 r.nodeId r.email

/-- `_start_claim`. -/
def advanceRequest (w : World) (i : Nat) (r : Request) : World :=
  match r.stage with
  | .begun =>
      let outstanding := (readChallenge w.store r.nodeId).map NodeClaimChallenge.handle
      w.setThread i (.request { r with stage := .read outstanding })
  | .read outstanding =>
      { w with links := outstanding.elim w.links (invalidateMagicLink w.links) }.setThread i
        (.request { r with stage := .invalidated })
  | .invalidated =>
      let minted := createMagicLink w.links r.email .claim (some r.nodeId) r.now
      { w with links := minted.1 }.setThread i (.request { r with stage := .issued minted.2 })
  | .issued token => { w with store := recordChallenge w.store r token }.endThread i

/-- A claim link without a node is none of the server's. -/
def peek (w : World) (token : Nat) (now : ℚ) : Option (String × String) :=
  (peekMagicLink w.links token .claim now).bind fun link => link.nodeId.map fun nodeId => (nodeId, link.email)

def redeem (w : World) (token : Nat) (now : ℚ) : World × Option (String × String) :=
  let redeemed := redeemMagicLink w.links token .claim now
  ({ w with links := redeemed.1 },
    redeemed.2.bind fun link => link.nodeId.map fun nodeId => (nodeId, link.email))

/-- The account of an address, made where there is none. -/
def getOrCreateUser (w : World) (email : String) : World × Option Nat :=
  match w.accounts.get? email with
  | some account => (w, if account.superuser then none else some account.id)
  | none =>
      ({ w with
          accounts := w.accounts.insert email { id := w.nextUser, superuser := false }
          nextUser := w.nextUser + 1 },
        some w.nextUser)

/-- The writing transaction of a click reads the claim again. -/
def bindClaim (s : ClaimStore) (nodeId email : String) (user : Nat) : ClaimStore × ClaimOutcome :=
  match s.claims.get? nodeId with
  | none => (s, .invalid)
  | some claim => match claim.userId with
    | some owner => if owner ≠ user then (s, .taken) else (markVerified s nodeId email, .bound)
    | none =>
        if claim.email ≠ some email then (s, .invalid)
        else
          (markVerified { s with claims := s.claims.insert nodeId { claim with userId := some user } } nodeId email,
            .bound)

/-- Somebody else's node, as far as accounts that exist can tell. -/
def takenBy (w : World) (nodeId email : String) : Bool :=
  (readOwner w.store nodeId).any fun owner => decide ((w.accounts.get? email).map Account.id ≠ some owner)

/-- `complete_claim` after the link is read. -/
def advanceClick (w : World) (i : Nat) (c : Click) (now : ℚ) : World :=
  match c.stage with
  | .peeked =>
      if takenBy w c.nodeId c.email then w.answer i .taken else w.setThread i (.click { c with stage := .checked })
  | .checked => match getOrCreateUser w c.email with
    | (w, none) => w.answer i .invalid
    | (w, some user) => w.setThread i (.click { c with stage := .resolved user })
  | .resolved user => match redeem w c.token now with
    | (w, none) => w.answer i .invalid
    | (w, some _) => w.setThread i (.click { c with stage := .redeemed user })
  | .redeemed user =>
      let bound := bindClaim w.store c.nodeId c.email user
      { w with store := bound.1 }.answer i bound.2

/-- Only the row that names the link is dropped. -/
def declineDrop (s : ClaimStore) (token : Nat) (nodeId : String) : ClaimStore :=
  if (readChallenge s nodeId).any fun challenge => decide (challenge.handle = token) then (dropChallenge s nodeId).1
  else s

def advance (w : World) (i : Nat) (now : ℚ) : World :=
  match w.threads.get? i with
  | none => w
  | some (.request r) => advanceRequest w i r
  | some (.click c) => advanceClick w i c now
  | some (.decline token nodeId) => { w with store := declineDrop w.store token nodeId }.endThread i

def idle (w : World) (i : Nat) : Bool := (w.threads.get? i).isNone

def step (w : World) : Event → World
  | .put i nodeId email now admitted => if idle w i then putClaim w i nodeId email now admitted else w
  | .resend i nodeId now admitted => if idle w i then resendClaim w i nodeId now admitted else w
  | .click i token now =>
      if idle w i then match peek w token now with
        | none => w.answer i .invalid
        | some (nodeId, email) => w.setThread i (.click { token, nodeId, email, stage := .peeked })
      else w
  | .decline i token now =>
      if idle w i then match redeem w token now with
        | (w, none) => w
        | (w, some (nodeId, _)) => w.setThread i (.decline token nodeId)
      else w
  | .advance i now => advance w i now
  | .release nodeId user =>
      if readOwner w.store nodeId = some user then { w with store := clearClaim w.store nodeId } else w
  | .setOwner nodeId user => { w with store := setOwner w.store nodeId user }
  | .clearClaim nodeId => { w with store := clearClaim w.store nodeId }
  | .signInRequested email now => { w with links := (createMagicLink w.links email .signin none now).1 }
  | .signInRedeemed token now => { w with links := (redeemMagicLink w.links token .signin now).1 }
  | .accountMade email superuser =>
      if (w.accounts.get? email).isSome then w
      else { w with
        accounts := w.accounts.insert email { id := w.nextUser, superuser }
        nextUser := w.nextUser + 1 }

end Retina.Claiming
