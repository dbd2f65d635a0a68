import RetinaServer.Claiming.Requests

/-! What one step does to the requests under way, to the links and to the challenges. -/
namespace Retina.Claiming
open OrderedDict

/-- The node whose challenge goes with its claim: the node that is bound, released, cleared or given an owner. -/
def settledNode (w : World) : Event → Option String
  | .release nodeId _ | .setOwner nodeId _ | .clearClaim nodeId => some nodeId
  | .advance i _ => match w.threads.get? i with
    | some (.click c) => match c.stage with
      | .redeemed _ => some c.nodeId
      | _ => none
    | _ => none
  | _ => none

/-- The link whose challenge is dropped so; nothing makes it unredeemable. -/
def orphanedBy (w : World) (e : Event) : List (String × Nat) :=
  match settledNode w e with
  | none => []
  | some n =>
      if ((step w e).store.challenges.get? n).isNone then
        (w.store.challenges.get? n).toList.map fun row => (n, row.handle)
      else []

/-- The link whose challenge is replaced by a newer one. -/
def displacedBy (w : World) : Event → List Nat
  | .advance i _ => match w.threads.get? i with
    | some (.request r) => match r.stage with
      | .issued (some _) => (w.store.challenges.get? r.nodeId).toList.map NodeClaimChallenge.handle
      | _ => []
    | _ => []
  | _ => []

/-- The node that a nomination or a resend is for. -/
def nominated : Event → Option String
  | .put _ nodeId _ _ _ | .resend _ nodeId _ _ => some nodeId
  | _ => none

/-! ### Turns -/

/-- Nothing is redeemable that was not, but for a link of another kind that is minted. -/
structure Dims (s s' : LinkStore) : Prop where
  unspent : ∀ l, s'.unspent l → s.unspent l ∨ l.handle = s.next ∧ l.nodeId = none
  next : s.next ≤ s'.next

theorem Shrinks.dims (shrinks : Shrinks s s') : Dims s s' := ⟨fun l held => .inl (shrinks.unspent l held), shrinks.next⟩

theorem Dims.dead (dims : Dims s s') (dead : Dead s token) : Dead s' token := by
  refine ⟨dead.drawn.trans_le dims.next, fun l held => ?_⟩
  rcases dims.unspent l held with old | ⟨new, -⟩
  · exact dead.spent l old
  · rw [new]
    exact dead.drawn.ne'

/-- The requests stand still; a challenge that goes was that of a dead link, or leaves its link behind. -/
structure Quiet (w : World) (e : Event) (w' : World) : Prop where
  requests : ∀ i r, w'.threads.get? i = some (.request r) ↔ w.threads.get? i = some (.request r)
  links : Dims w.links w'.links
  challenges : ∀ n, w'.store.challenges.get? n = w.store.challenges.get? n ∨
    w'.store.challenges.get? n = none ∧ ∀ row, w.store.challenges.get? n = some row →
      (n, row.handle) ∈ orphanedBy w e ∨ Dead w'.links row.handle
  declines : ∀ i token n, w'.threads.get? i = some (.decline token n) →
    w.threads.get? i = some (.decline token n) ∨ Dead w'.links token
  displaced : displacedBy w e = []

/-- A request begins, or takes its next step. -/
inductive Turn (w : World) (e : Event) (w' : World) : Prop where
  | quiet (quiet : Quiet w e w')
  | begun (i : Nat) (r : Request) (idle : w.threads.get? i = none) (stage : r.stage = .begun)
      (started : nominated e = some r.nodeId) (here : w' = w.setThread i (.request r))
  | advanced (i : Nat) (r : Request) (now : ℚ) (under : w.threads.get? i = some (.request r))
      (event : e = .advance i now) (here : w' = advanceRequest w i r)

theorem requests_setThread {w : World} {i : Nat} {thread : Thread}
    (before : ∀ r, w.threads.get? i ≠ some (.request r)) (after : ∀ r, thread ≠ .request r) (j : Nat) (r : Request) :
    (w.setThread i thread).threads.get? j = some (.request r) ↔ w.threads.get? j = some (.request r) := by
  simp only [World.setThread, Dict.get?_insert]
  split
  · rename_i same
    subst same
    exact iff_of_false (fun new => after r (Option.some.inj new)) (before r)
  · exact Iff.rfl

theorem requests_endThread {w : World} {i : Nat} (before : ∀ r, w.threads.get? i ≠ some (.request r)) (j : Nat)
    (r : Request) : (w.endThread i).threads.get? j = some (.request r) ↔ w.threads.get? j = some (.request r) := by
  simp only [World.endThread, Dict.get?_erase]
  split
  · rename_i same
    subst same
    exact iff_of_false (by simp) (before r)
  · exact Iff.rfl

theorem of_setThread {w : World} {i : Nat} {new : Thread} (here : (w.setThread i new).threads.get? j = some thread) :
    j = i ∧ thread = new ∨ w.threads.get? j = some thread := by
  simp only [World.setThread, Dict.get?_insert] at here
  split at here
  · rename_i same
    exact .inl ⟨same.symm, (Option.some.inj here).symm⟩
  · exact .inr here

theorem of_endThread {w : World} {i : Nat} (here : (w.endThread i).threads.get? j = some thread) :
    w.threads.get? j = some thread := by
  simp only [World.endThread, Dict.get?_erase] at here
  split at here
  · cases here
  · exact here

theorem declines_setThread {w : World} {i : Nat} {new : Thread} (after : ∀ token n, new ≠ .decline token n)
    (here : (w.setThread i new).threads.get? j = some (.decline token n)) :
    w.threads.get? j = some (.decline token n) := by
  rcases of_setThread here with ⟨-, same⟩ | old
  · exact absurd same.symm (after token n)
  · exact old

theorem Quiet.of_challenges {w w' : World} {e : Event}
    (requests : ∀ i r, w'.threads.get? i = some (.request r) ↔ w.threads.get? i = some (.request r))
    (links : Dims w.links w'.links) (same : w'.store.challenges = w.store.challenges)
    (declines : ∀ i token n, w'.threads.get? i = some (.decline token n) →
      w.threads.get? i = some (.decline token n) ∨ Dead w'.links token)
    (displaced : displacedBy w e = []) : Quiet w e w' :=
  ⟨requests, links, fun n => .inl (by rw [same]), declines, displaced⟩

theorem Quiet.refl (w : World) (e : Event) (displaced : displacedBy w e = []) : Quiet w e w :=
  .of_challenges (fun _ _ => Iff.rfl) (Shrinks.refl _).dims rfl (fun _ _ _ here => .inl here) displaced

theorem mem_orphanedBy {w : World} {e : Event} (settled : settledNode w e = some n)
    (gone : (step w e).store.challenges.get? n = none) (row : w.store.challenges.get? n = some challenge) :
    (n, challenge.handle) ∈ orphanedBy w e := by
  simp [orphanedBy, settled, gone, row]

/-- What a change of owner drops is left behind. -/
theorem Quiet.of_settled {w : World} {e : Event} (settled : settledNode w e = some n)
    (drops : Drops w.store (step w e).store n)
    (requests : ∀ i r, (step w e).threads.get? i = some (.request r) ↔ w.threads.get? i = some (.request r))
    (links : (step w e).links = w.links)
    (declines : ∀ i token m, (step w e).threads.get? i = some (.decline token m) →
      w.threads.get? i = some (.decline token m))
    (displaced : displacedBy w e = []) : Quiet w e (step w e) := by
  refine ⟨requests, by rw [links]; exact (Shrinks.refl _).dims, fun m => ?_, fun i token m here => .inl (declines i token m here),
    displaced⟩
  by_cases same : m = n
  · subst same
    rcases drops.here with kept | gone
    · exact .inl kept
    · exact .inr ⟨gone, fun row found => .inl (mem_orphanedBy settled gone found)⟩
  · exact .inl (drops.elsewhere m same)

/-- A request begins on a thread that was idle, or nothing happens. -/
inductive Begins (w : World) (i : Nat) (nodeId : String) : World → Prop where
  | nothing : Begins w i nodeId w
  | request (r : Request) (idle : w.threads.get? i = none) (node : r.nodeId = nodeId) (stage : r.stage = .begun) :
      Begins w i nodeId (w.setThread i (.request r))

theorem begins_startClaim {w : World} (free : idle w i = true) (nodeId email : String) (now : ℚ) (admitted : Bool) :
    Begins w i nodeId (startClaim w i nodeId email now admitted) := by
  rw [startClaim]
  split
  · exact .request _ (Option.isNone_iff_eq_none.mp free) rfl rfl
  · exact .nothing

theorem begins_put (w : World) (i : Nat) (nodeId email : String) (now : ℚ) (admitted : Bool) :
    Begins w i nodeId (step w (.put i nodeId email now admitted)) := by
  simp only [step]
  split
  · rename_i free
    simp only [putClaim]
    split
    · exact .nothing
    · split
      · exact .nothing
      · exact begins_startClaim free nodeId email now admitted
  · exact .nothing

theorem begins_resend (w : World) (i : Nat) (nodeId : String) (now : ℚ) (admitted : Bool) :
    Begins w i nodeId (step w (.resend i nodeId now admitted)) := by
  simp only [step]
  split
  · rename_i free
    simp only [resendClaim]
    split
    · exact .nothing
    · split
      · exact .nothing
      · split
        · exact .nothing
        · exact begins_startClaim free nodeId _ now admitted
  · exact .nothing

theorem Begins.turn {w w' : World} {e : Event} (begins : Begins w i nodeId w') (started : nominated e = some nodeId)
    (displaced : displacedBy w e = []) : Turn w e w' := by
  cases begins with
  | nothing => exact .quiet (.refl w e displaced)
  | request r idle node stage => exact .begun i r idle stage (node ▸ started) rfl

/-- What a decline does: nothing, or it tries the link, and with the link spent goes on to the challenge. -/
inductive Declines (w : World) (i token : Nat) (now : ℚ) : World → Prop where
  | busy (busy : idle w i = false) : Declines w i token now w
  | refused (refused : (redeem w token now).2 = none) : Declines w i token now (redeem w token now).1
  | spent (free : idle w i = true) (nodeId email : String) (redeemed : (redeem w token now).2 = some (nodeId, email)) :
      Declines w i token now ((redeem w token now).1.setThread i (.decline token nodeId))

theorem declines_decline (w : World) (i token : Nat) (now : ℚ) :
    Declines w i token now (step w (.decline i token now)) := by
  simp only [step]
  split
  · rename_i free
    rcases answer : redeem w token now with ⟨w', _ | ⟨nodeId, email⟩⟩
    · obtain rfl : (redeem w token now).1 = w' := by rw [answer]
      exact .refused (by rw [answer])
    · obtain rfl : (redeem w token now).1 = w' := by rw [answer]
      exact .spent free nodeId email (by rw [answer])
  · rename_i taken
    exact .busy (by simpa using taken)

theorem dims_of_createMagicLink_signin (s : LinkStore) (email : String) (now : ℚ) :
    Dims s (createMagicLink s email .signin none now).1 := by
  rcases createMagicLink_cases s email .signin none now with ⟨-, shrinks⟩ | ⟨-, next, minted⟩
  · exact shrinks.dims
  · refine ⟨fun l held => ?_, by omega⟩
    rcases minted l held with old | ⟨handle, node, -⟩
    · exact .inl old
    · exact .inr ⟨handle, node⟩

theorem redeem_links (w : World) (token : Nat) (now : ℚ) : Shrinks w.links (redeem w token now).1.links :=
  shrinks_redeem w.links token .claim now

theorem redeem_dead {w : World} (redeemed : (redeem w token now).2 = some found) :
    Dead (redeem w token now).1.links token := by
  obtain ⟨link, here, -⟩ := Option.bind_eq_some_iff.mp redeemed
  exact (redeemMagicLink_some here).2

theorem getOrCreateUser_eq (w : World) (email : String) :
    ∃ accounts nextUser, (getOrCreateUser w email).1 = { w with accounts, nextUser } := by
  rw [getOrCreateUser]
  split
  · exact ⟨w.accounts, w.nextUser, rfl⟩
  · exact ⟨_, _, rfl⟩

theorem bindClaim_drops (s : ClaimStore) (nodeId email : String) (user : Nat) :
    Drops s (bindClaim s nodeId email user).1 nodeId := by
  rw [bindClaim]
  split
  · exact drops_self s nodeId
  · split
    · split
      · exact drops_self s nodeId
      · exact drops_markVerified s nodeId email
    · split
      · exact drops_self s nodeId
      · have marked := drops_markVerified
          { s with claims := s.claims.insert nodeId { ‹NodeClaim› with userId := some user } } nodeId email
        exact ⟨marked.here, marked.elsewhere⟩

/-! ### The steps of a click -/

theorem advanceClick_quiet {w : World} (here : w.threads.get? i = some (.click c)) (now : ℚ) :
    Quiet w (.advance i now) (step w (.advance i now)) := by
  have stepped : step w (.advance i now) = advanceClick w i c now := by simp only [step, advance, here]
  have calm : displacedBy w (.advance i now) = [] := by simp only [displacedBy, here]
  have before (r : Request) : w.threads.get? i ≠ some (.request r) := by simp [here]
  cases stage : c.stage with
  | peeked =>
    rw [stepped]
    simp only [advanceClick, stage]
    split
    · exact .of_challenges (requests_endThread before) (Shrinks.refl _).dims rfl
        (fun j token n there => .inl (of_endThread there)) calm
    · exact .of_challenges (requests_setThread before (by simp)) (Shrinks.refl _).dims rfl
        (fun j token n there => .inl (declines_setThread (by simp) there)) calm
  | checked =>
    rw [stepped]
    simp only [advanceClick, stage]
    obtain ⟨accounts, nextUser, made⟩ := getOrCreateUser_eq w c.email
    rcases user : getOrCreateUser w c.email with ⟨w', _ | user⟩
    · rw [user] at made
      subst made
      exact .of_challenges (requests_endThread before) (Shrinks.refl _).dims rfl
        (fun j token n there => .inl (of_endThread there)) calm
    · rw [user] at made
      subst made
      exact .of_challenges (requests_setThread before (by simp)) (Shrinks.refl _).dims rfl
        (fun j token n there => .inl (declines_setThread (by simp) there)) calm
  | resolved user =>
    rw [stepped]
    simp only [advanceClick, stage]
    have shrinks := redeem_links w c.token now
    rcases spent : redeem w c.token now with ⟨w', _ | found⟩
    · obtain rfl : (redeem w c.token now).1 = w' := by rw [spent]
      exact .of_challenges (requests_endThread before) shrinks.dims rfl
        (fun j token n there => .inl (of_endThread there)) calm
    · obtain rfl : (redeem w c.token now).1 = w' := by rw [spent]
      exact .of_challenges (requests_setThread before (by simp)) shrinks.dims rfl
        (fun j token n there => .inl (declines_setThread (by simp) there)) calm
  | redeemed user =>
    have bound : step w (.advance i now) =
        { w with store := (bindClaim w.store c.nodeId c.email user).1 }.answer i
          (bindClaim w.store c.nodeId c.email user).2 := by
      rw [stepped]
      simp only [advanceClick, stage]
    have settled : settledNode w (.advance i now) = some c.nodeId := by simp only [settledNode, here, stage]
    refine .of_settled settled ?_ ?_ ?_ ?_ calm
    · rw [bound]
      exact bindClaim_drops w.store c.nodeId c.email user
    · rw [bound]
      exact requests_endThread before
    · rw [bound]
      rfl
    · rw [bound]
      exact fun j token n there => of_endThread there

/-- The challenge a decline drops names the link that it has spent. -/
theorem declineDrop_quiet {w : World} (here : w.threads.get? i = some (.decline token n)) (now : ℚ)
    (dead : Dead w.links token) : Quiet w (.advance i now) (step w (.advance i now)) := by
  have stepped : step w (.advance i now) = { w with store := declineDrop w.store token n }.endThread i := by
    simp only [step, advance, here]
  have before (r : Request) : w.threads.get? i ≠ some (.request r) := by simp [here]
  rw [stepped]
  refine ⟨requests_endThread before, (Shrinks.refl _).dims, fun m => ?_,
    fun j token' m there => .inl (of_endThread there), by simp only [displacedBy, here]⟩
  simp only [World.endThread, declineDrop]
  split
  · rename_i named
    by_cases same : m = n
    · subst same
      refine .inr ⟨Dict.get?_erase_self _ _, fun row found => .inr ?_⟩
      have handle : row.handle = token := by simpa [readChallenge, found] using named
      rw [handle]
      exact dead
    · exact .inl (Dict.get?_erase_ne _ (Ne.symm same))
  · exact .inl rfl

theorem Declines.quiet {w w' : World} (declined : Declines w i token now w') : Quiet w (.decline i token now) w' := by
  have shrinks := redeem_links w token now
  cases declined with
  | busy => exact .refl w _ rfl
  | refused => exact .of_challenges (fun _ _ => Iff.rfl) shrinks.dims rfl (fun j token n there => .inl there) rfl
  | spent free nodeId email redeemed =>
    have before (r : Request) : w.threads.get? i ≠ some (.request r) := by
      rw [Option.isNone_iff_eq_none.mp free]
      simp
    refine .of_challenges (requests_setThread before (by simp)) shrinks.dims rfl ?_ rfl
    intro j token' n there
    rcases of_setThread there with ⟨-, same⟩ | old
    · obtain ⟨rfl, -⟩ := Thread.decline.inj same
      exact .inr (redeem_dead redeemed)
    · exact .inl old

theorem step_turn {w : World} (declines : ∀ i token n, w.threads.get? i = some (.decline token n) → Dead w.links token)
    (e : Event) : Turn w e (step w e) := by
  cases e with
  | put i nodeId email now admitted => exact (begins_put w i nodeId email now admitted).turn rfl rfl
  | resend i nodeId now admitted => exact (begins_resend w i nodeId now admitted).turn rfl rfl
  | click i token now =>
    simp only [step]
    split
    · rename_i free
      have before (r : Request) : w.threads.get? i ≠ some (.request r) := by
        rw [Option.isNone_iff_eq_none.mp free]
        simp
      split
      · exact .quiet (.of_challenges (requests_endThread before) (Shrinks.refl _).dims rfl
          (fun j token n there => .inl (of_endThread there)) rfl)
      · exact .quiet (.of_challenges (requests_setThread before (by simp)) (Shrinks.refl _).dims rfl
          (fun j token n there => .inl (declines_setThread (by simp) there)) rfl)
    · exact .quiet (.refl w _ rfl)
  | decline i token now => exact .quiet (declines_decline w i token now).quiet
  | advance i now =>
    cases here : w.threads.get? i with
    | none =>
      have stepped : step w (.advance i now) = w := by simp only [step, advance, here]
      rw [stepped]
      exact .quiet (.refl w _ (by simp only [displacedBy, here]))
    | some thread =>
      cases thread with
      | request r => exact .advanced i r now here rfl (by simp only [step, advance, here])
      | click c => exact .quiet (advanceClick_quiet here now)
      | decline token n => exact .quiet (declineDrop_quiet here now (declines i token n here))
  | release nodeId user =>
    refine .quiet (.of_settled rfl ?_ ?_ ?_ ?_ rfl)
    · simp only [step]
      split
      · exact drops_clearClaim w.store nodeId
      · exact drops_self w.store nodeId
    · simp only [step]
      split <;> exact fun _ _ => Iff.rfl
    · simp only [step]
      split <;> rfl
    · simp only [step]
      split <;> exact fun _ _ _ there => there
  | setOwner nodeId user =>
    exact .quiet (.of_settled rfl (drops_setOwner w.store nodeId user) (fun _ _ => Iff.rfl) rfl
      (fun _ _ _ there => there) rfl)
  | clearClaim nodeId =>
    exact .quiet (.of_settled rfl (drops_clearClaim w.store nodeId) (fun _ _ => Iff.rfl) rfl
      (fun _ _ _ there => there) rfl)
  | signInRequested email now =>
    exact .quiet (.of_challenges (fun _ _ => Iff.rfl) (dims_of_createMagicLink_signin w.links email now) rfl
      (fun _ _ _ there => .inl there) rfl)
  | signInRedeemed token now =>
    exact .quiet (.of_challenges (fun _ _ => Iff.rfl) (shrinks_redeem w.links token .signin now).dims rfl
      (fun _ _ _ there => .inl there) rfl)
  | accountMade email superuser =>
    simp only [step]
    split
    · exact .quiet (.refl w _ rfl)
    · exact .quiet (.of_challenges (fun _ _ => Iff.rfl) (Shrinks.refl _).dims rfl (fun _ _ _ there => .inl there) rfl)

end Retina.Claiming
