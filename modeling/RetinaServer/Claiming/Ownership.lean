import RetinaServer.Claiming.Turns

/-! How a node gets its owner and loses it: what every change of an owner goes back to. -/
namespace Retina.Claiming
open OrderedDict Runs

/-- The link that a request mints, with the node and the address it is for. -/
def mintedBy (w : World) : Event → List (Nat × String × String)
  | .advance i _ => match w.threads.get? i with
    | some (.request r) => match r.stage with
      | .invalidated => (createMagicLink w.links r.email .claim (some r.nodeId) r.now).2.toList.map fun token =>
          (token, r.nodeId, r.email)
      | _ => []
    | _ => []
  | _ => []

/-- The claim link that a click or a decline redeems. -/
def redeemedBy (w : World) : Event → List Nat
  | .advance i now => match w.threads.get? i with
    | some (.click c) => match c.stage with
      | .resolved _ => if ((redeem w c.token now).2).isSome then [c.token] else []
      | _ => []
    | _ => []
  | .decline i token now => if idle w i && ((redeem w token now).2).isSome then [token] else []
  | _ => []

/-- The redeemed link by which a click binds a node. -/
def boundBy (w : World) : Event → List Nat
  | .advance i _ => match w.threads.get? i with
    | some (.click c) => match c.stage with
      | .redeemed user =>
          if readOwner (bindClaim w.store c.nodeId c.email user).1 c.nodeId ≠ readOwner w.store c.nodeId then [c.token]
          else []
      | _ => []
    | _ => []
  | _ => []

structure History where
  world : World
  minted : List (Nat × String × String) := []
  redeemed : List Nat := []
  bound : List Nat := []

def historyStep (h : History) (e : Event) : History :=
  { world := step h.world e
    minted := h.minted ++ mintedBy h.world e
    redeemed := h.redeemed ++ redeemedBy h.world e
    bound := h.bound ++ boundBy h.world e }

def History.start (accounts : Dict String Account) (nextUser : Nat) : History := { world := .start accounts nextUser }

/-- What a change of a node's owner may go back to. -/
inductive OwnerMove (h : History) (e : Event) (n : String) : Prop where
  | released (user : Nat) (event : e = .release n user) (owned : readOwner h.world.store n = some user)
      (freed : readOwner (step h.world e).store n = none)
  | administered (event : (∃ user, e = .setOwner n user) ∨ e = .clearClaim n)
  /-- A link minted for the node and an address, redeemed once, binds a node that nobody owned and that still offers the
  address; the owner is the address's account. -/
  | bound (i : Nat) (now : ℚ) (c : Click) (user : Nat) (event : e = .advance i now)
      (under : h.world.threads.get? i = some (.click c)) (node : c.nodeId = n)
      (free : readOwner h.world.store n = none) (owner : readOwner (step h.world e).store n = some user)
      (minted : (c.token, n, c.email) ∈ h.minted) (redeemed : h.redeemed.count c.token = 1) (once : c.token ∉ h.bound)
      (offered : claimAddress h.world.store n = some c.email)
      (account : ∃ a, h.world.accounts.get? c.email = some a ∧ a.id = user)

/-! ### Owners -/

theorem readOwner_recordChallenge (s : ClaimStore) (r : Request) (token : Option Nat) (n : String) :
    readOwner (recordChallenge s r token) n = readOwner s n := by
  cases token <;> exact readOwner_setClaimAddress _ r.nodeId r.email n

theorem readOwner_declineDrop (s : ClaimStore) (token : Nat) (nodeId n : String) :
    readOwner (declineDrop s token nodeId) n = readOwner s n := by
  rw [declineDrop]
  split <;> rfl

theorem readOwner_clearClaim (s : ClaimStore) (nodeId n : String) :
    readOwner (clearClaim s nodeId) n = if nodeId = n then none else readOwner s n := by
  simp only [readOwner, clearClaim, Dict.get?_erase]
  split <;> rfl

theorem readOwner_setOwner_ne (s : ClaimStore) (user : Option Nat) (other : nodeId ≠ n) :
    readOwner (setOwner s nodeId user) n = readOwner s n := by
  cases user with
  | none =>
    simp only [setOwner]
    rw [readOwner_clearClaim, if_neg other]
  | some user =>
    simp only [setOwner]
    split
    · rfl
    · simp only [readOwner, dropChallenge]
      rw [Dict.get?_insert_ne _ _ other]

/-- A bind changes the owner of its own node alone, from nobody, where the node still offers the address. -/
theorem bindClaim_changes {s : ClaimStore}
    (changed : readOwner (bindClaim s nodeId email user).1 n ≠ readOwner s n) :
    nodeId = n ∧ readOwner s n = none ∧ readOwner (bindClaim s nodeId email user).1 n = some user ∧
      claimAddress s n = some email := by
  simp only [bindClaim] at changed ⊢
  cases row : s.claims.get? nodeId with
  | none => simp [row] at changed
  | some claim =>
    simp only [row] at changed ⊢
    cases owner : claim.userId with
    | some user' =>
      simp only [owner] at changed
      split at changed
      · exact absurd rfl changed
      · exact absurd (readOwner_markVerified s nodeId email n) changed
    | none =>
      simp only [owner] at changed ⊢
      split at changed
      · exact absurd rfl changed
      · rename_i same
        have offered : claim.email = some email := not_not.mp same
        simp only [offered, ne_eq, not_true_eq_false, if_false]
        rw [readOwner_markVerified] at changed ⊢
        simp only [readOwner, Dict.get?_insert] at changed ⊢
        split at changed
        · rename_i here
          subst here
          simp [row, owner, claimAddress, offered]
        · exact absurd rfl changed

theorem Begins.store (begins : Begins w i nodeId w') : w'.store = w.store := by cases begins <;> rfl

theorem Declines.store (declined : Declines w i token now w') : w'.store = w.store := by cases declined <;> rfl

theorem readOwner_advanceRequest (w : World) (i : Nat) (r : Request) (n : String) :
    readOwner (advanceRequest w i r).store n = readOwner w.store n := by
  rw [advanceRequest]
  split
  · rfl
  · rfl
  · rfl
  · exact readOwner_recordChallenge w.store r _ n

theorem advanceClick_store (w : World) (i : Nat) (c : Click) (now : ℚ) (unredeemed : ∀ user, c.stage ≠ .redeemed user) :
    (advanceClick w i c now).store = w.store := by
  rw [advanceClick]
  split
  · split <;> rfl
  · obtain ⟨accounts, nextUser, made⟩ := getOrCreateUser_eq w c.email
    rcases user : getOrCreateUser w c.email with ⟨w', _ | user⟩ <;> rw [user] at made <;> subst made <;> rfl
  · rcases spent : redeem w c.token now with ⟨w', _ | found⟩ <;>
      obtain rfl : (redeem w c.token now).1 = w' := by rw [spent]
    · rfl
    · rfl
  · rename_i user stage
    exact absurd stage (unredeemed user)

/-- An owner changes by a bind, a release or an administrator's doing. -/
theorem readOwner_changes {w : World} {e : Event} (changed : readOwner (step w e).store n ≠ readOwner w.store n) :
    (∃ user, e = .release n user ∧ readOwner w.store n = some user) ∨ ((∃ user, e = .setOwner n user) ∨ e = .clearClaim n) ∨
      ∃ i now c user, e = .advance i now ∧ w.threads.get? i = some (.click c) ∧ c.stage = .redeemed user ∧
        readOwner (bindClaim w.store c.nodeId c.email user).1 n ≠ readOwner w.store n ∧
        readOwner (step w e).store n = readOwner (bindClaim w.store c.nodeId c.email user).1 n := by
  cases e with
  | put i nodeId email now admitted => exact absurd (by rw [(begins_put w i nodeId email now admitted).store]) changed
  | resend i nodeId now admitted => exact absurd (by rw [(begins_resend w i nodeId now admitted).store]) changed
  | click i token now =>
    simp only [step] at changed
    split at changed
    · split at changed <;> exact absurd rfl changed
    · exact absurd rfl changed
  | decline i token now => exact absurd (by rw [(declines_decline w i token now).store]) changed
  | advance i now =>
    cases here : w.threads.get? i with
    | none =>
      simp only [step, advance, here] at changed
      exact absurd rfl changed
    | some thread =>
      cases thread with
      | request r =>
        simp only [step, advance, here] at changed
        exact absurd (readOwner_advanceRequest w i r n) changed
      | decline token m =>
        simp only [step, advance, here] at changed
        exact absurd (readOwner_declineDrop w.store token m n) changed
      | click c =>
        simp only [step, advance, here] at changed
        cases stage : c.stage with
        | peeked | checked | resolved user =>
          rw [advanceClick_store w i c now (by simp [stage])] at changed
          exact absurd rfl changed
        | redeemed user =>
          have bound : (advanceClick w i c now).store = (bindClaim w.store c.nodeId c.email user).1 := by
            simp only [advanceClick, stage]
            rfl
          rw [bound] at changed
          refine .inr (.inr ⟨i, now, c, user, rfl, here, stage, changed, ?_⟩)
          simp only [step, advance, here, bound]
  | release nodeId user =>
    simp only [step] at changed
    split at changed
    · rename_i owned
      simp only [readOwner_clearClaim] at changed
      split at changed
      · rename_i same
        subst same
        exact .inl ⟨user, rfl, owned⟩
      · exact absurd rfl changed
    · exact absurd rfl changed
  | setOwner nodeId user =>
    by_cases same : nodeId = n
    · subst same
      exact .inr (.inl (.inl ⟨user, rfl⟩))
    · exact absurd (readOwner_setOwner_ne w.store user same) changed
  | clearClaim nodeId =>
    by_cases same : nodeId = n
    · subst same
      exact .inr (.inl (.inr rfl))
    · refine absurd ?_ changed
      simp only [step]
      rw [readOwner_clearClaim, if_neg same]
  | signInRequested | signInRedeemed => exact absurd rfl changed
  | accountMade email superuser =>
    simp only [step] at changed
    split at changed <;> exact absurd rfl changed

/-! ### Clicks -/

/-- Where a click that is under way after a step comes from. -/
inductive ClickFrom (w : World) (e : Event) (w' : World) (i : Nat) (c : Click) : Prop where
  | stood (old : w.threads.get? i = some (.click c))
  | read (l : MagicLink) (held : w.links.unspent l) (handle : l.handle = c.token) (intent : l.intent = .claim)
      (node : l.nodeId = some c.nodeId) (email : l.email = c.email) (stage : c.stage = .peeked)
  | checked (before : Click) (old : w.threads.get? i = some (.click before))
      (here : c = { before with stage := .checked })
  | resolved (before : Click) (user : Nat) (old : w.threads.get? i = some (.click before))
      (here : c = { before with stage := .resolved user })
      (account : ∃ a, w'.accounts.get? before.email = some a ∧ a.id = user)
  | redeemed (before : Click) (user : Nat) (old : w.threads.get? i = some (.click before))
      (was : before.stage = .resolved user) (here : c = { before with stage := .redeemed user })
      (event : ∃ now, e = .advance i now) (spent : redeemedBy w e = [before.token]) (unbound : boundBy w e = [])

/-- What a step may do to the links, the accounts and the clicks. -/
structure Keeps (w : World) (e : Event) (w' : World) : Prop where
  links : ∀ l, w'.links.unspent l → w.links.unspent l ∨ l.handle = w.links.next ∧
    (l.intent = .claim → ∃ n, l.nodeId = some n ∧ (l.handle, n, l.email) ∈ mintedBy w e)
  next : w.links.next ≤ w'.links.next
  accounts : ∀ email a, w.accounts.get? email = some a → w'.accounts.get? email = some a
  single : (redeemedBy w e).Nodup
  spent : ∀ token ∈ redeemedBy w e, (∃ l, w.links.unspent l ∧ l.handle = token) ∧ Dead w'.links token
  clicks : ∀ i c, w'.threads.get? i = some (.click c) → ClickFrom w e w' i c
  bound : ∀ token ∈ boundBy w e, ∃ i c user, w.threads.get? i = some (.click c) ∧ c.stage = .redeemed user ∧
    c.token = token ∧ w'.threads.get? i = none

/-- Nothing is redeemed and no click moves. -/
theorem Keeps.still {w w' : World} {e : Event}
    (links : ∀ l, w'.links.unspent l → w.links.unspent l ∨ l.handle = w.links.next ∧
      (l.intent = .claim → ∃ n, l.nodeId = some n ∧ (l.handle, n, l.email) ∈ mintedBy w e))
    (next : w.links.next ≤ w'.links.next)
    (accounts : ∀ email a, w.accounts.get? email = some a → w'.accounts.get? email = some a)
    (redeemed : redeemedBy w e = []) (bound : boundBy w e = [])
    (clicks : ∀ i c, w'.threads.get? i = some (.click c) → w.threads.get? i = some (.click c)) : Keeps w e w' := by
  refine ⟨links, next, accounts, ?_, ?_, fun i c here => .stood (clicks i c here), ?_⟩
  · rw [redeemed]
    exact List.nodup_nil
  · simp [redeemed]
  · simp [bound]

theorem Keeps.refl {w : World} {e : Event} (redeemed : redeemedBy w e = []) (bound : boundBy w e = []) : Keeps w e w :=
  .still (fun _ held => .inl held) le_rfl (fun _ _ found => found) redeemed bound fun _ _ here => here

theorem clicks_setThread {w : World} {i : Nat} {new : Thread} (after : ∀ c, new ≠ .click c)
    (here : (w.setThread i new).threads.get? j = some (.click c)) : w.threads.get? j = some (.click c) := by
  rcases of_setThread here with ⟨-, same⟩ | old
  · exact absurd same.symm (after c)
  · exact old

theorem Begins.keeps {w w' : World} {e : Event} (begins : Begins w i nodeId w') (redeemed : redeemedBy w e = [])
    (bound : boundBy w e = []) : Keeps w e w' := by
  cases begins with
  | nothing => exact .refl redeemed bound
  | request =>
    exact .still (fun l held => .inl held) le_rfl (fun _ _ found => found) redeemed bound
      fun j c here => clicks_setThread (by simp) here

theorem redeem_unspent {w : World} (redeemed : (redeem w token now).2 = some found) :
    ∃ l, w.links.unspent l ∧ l.handle = token := by
  obtain ⟨link, here, -⟩ := Option.bind_eq_some_iff.mp redeemed
  obtain ⟨⟨l, held, handle, -⟩, -⟩ := redeemMagicLink_some here
  exact ⟨l, held, handle⟩

theorem Declines.keeps {w w' : World} (declined : Declines w i token now w') : Keeps w (.decline i token now) w' := by
  have shrinks := redeem_links w token now
  cases declined with
  | busy busy => exact .refl (by simp [redeemedBy, busy]) rfl
  | refused refused =>
    have redeemed : redeemedBy w (.decline i token now) = [] := by simp [redeemedBy, refused]
    exact .still (fun l held => .inl (shrinks.unspent l held)) shrinks.next (fun _ _ found => found) redeemed rfl
      fun _ _ here => here
  | spent free nodeId email answer =>
    have redeemed : redeemedBy w (.decline i token now) = [token] := by simp [redeemedBy, answer, free]
    refine ⟨fun l held => .inl (shrinks.unspent l held), shrinks.next, fun _ _ found => found, by simp [redeemed],
      fun token' listed => ?_, fun j c here => .stood (clicks_setThread (by simp) here), by simp [boundBy]⟩
    rw [redeemed] at listed
    obtain rfl := List.mem_singleton.mp listed
    exact ⟨redeem_unspent answer, redeem_dead answer⟩

/-- A click holds the link that it read. -/
theorem keeps_click (w : World) (i token : Nat) (now : ℚ) :
    Keeps w (.click i token now) (step w (.click i token now)) := by
  simp only [step]
  split
  · cases read : peek w token now with
    | none =>
      exact .still (fun l held => .inl held) le_rfl (fun _ _ found => found) rfl rfl fun j c here => of_endThread here
    | some about =>
      refine ⟨fun l held => .inl held, le_rfl, fun _ _ found => found, List.nodup_nil, by simp [redeemedBy],
        fun j c here => ?_, by simp [boundBy]⟩
      rcases of_setThread here with ⟨rfl, same⟩ | old
      · obtain rfl := Thread.click.inj same
        obtain ⟨link, peeked, named⟩ := Option.bind_eq_some_iff.mp read
        obtain ⟨n, node, rfl⟩ := Option.map_eq_some_iff.mp named
        obtain ⟨l, held, handle, intent, node', email⟩ := peekMagicLink_some peeked
        exact .read l held handle intent (node'.trans node) email rfl
      · exact .stood old
  · exact .refl rfl rfl

/-- A request mints one link at most, and says what for. -/
theorem keeps_advanceRequest {w : World} (under : w.threads.get? i = some (.request r)) (now : ℚ) :
    Keeps w (.advance i now) (advanceRequest w i r) := by
  have redeemed : redeemedBy w (.advance i now) = [] := by simp only [redeemedBy, under]
  have bound : boundBy w (.advance i now) = [] := by simp only [boundBy, under]
  cases stage : r.stage with
  | begun =>
    simp only [advanceRequest, stage]
    exact .still (fun l held => .inl held) le_rfl (fun _ _ found => found) redeemed bound
      fun j c here => clicks_setThread (by simp) here
  | read outstanding =>
    simp only [advanceRequest, stage]
    have shrinks : Shrinks w.links (outstanding.elim w.links (invalidateMagicLink w.links)) := by
      cases outstanding with
      | none => exact Shrinks.refl w.links
      | some handle => exact shrinks_invalidate w.links handle
    exact .still (fun l held => .inl (shrinks.unspent l held)) shrinks.next (fun _ _ found => found) redeemed bound
      fun j c here => clicks_setThread (by simp) here
  | invalidated =>
    simp only [advanceRequest, stage]
    rcases createMagicLink_cases w.links r.email .claim (some r.nodeId) r.now with
      ⟨-, shrinks⟩ | ⟨token, next, minted⟩
    · exact .still (fun l held => .inl (shrinks.unspent l held)) shrinks.next (fun _ _ found => found) redeemed bound
        fun j c here => clicks_setThread (by simp) here
    · refine .still (fun l held => ?_) ((Nat.le_succ _).trans next.ge) (fun _ _ found => found) redeemed bound
        fun j c here => clicks_setThread (by simp) here
      rcases minted l held with old | ⟨handle, node, -, email⟩
      · exact .inl old
      · refine .inr ⟨handle, fun _ => ⟨r.nodeId, node, ?_⟩⟩
        simp [mintedBy, under, stage, token, handle, email]
  | issued token =>
    simp only [advanceRequest, stage]
    exact .still (fun l held => .inl held) le_rfl (fun _ _ found => found) redeemed bound
      fun j c here => of_endThread here

theorem getOrCreateUser_some {w : World} (found : (getOrCreateUser w email).2 = some user) :
    ∃ a, (getOrCreateUser w email).1.accounts.get? email = some a ∧ a.id = user := by
  rw [getOrCreateUser] at found ⊢
  cases here : w.accounts.get? email with
  | some account =>
    simp only [here] at found ⊢
    split at found
    · cases found
    · exact ⟨account, rfl, Option.some.inj found⟩
  | none =>
    simp only [here] at found ⊢
    exact ⟨_, Dict.get?_insert_self _ _ _, Option.some.inj found⟩

theorem getOrCreateUser_grown (w : World) (email email' : String) (a : Account)
    (found : w.accounts.get? email' = some a) : (getOrCreateUser w email).1.accounts.get? email' = some a := by
  rw [getOrCreateUser]
  cases here : w.accounts.get? email with
  | some account => exact found
  | none =>
    have other : email ≠ email' := by
      rintro rfl
      cases here.symm.trans found
    simp only
    rw [Dict.get?_insert_ne _ _ other]
    exact found

theorem keeps_advanceClick {w : World} (under : w.threads.get? i = some (.click c)) (now : ℚ) :
    Keeps w (.advance i now) (advanceClick w i c now) := by
  have links : ∀ l, w.links.unspent l → w.links.unspent l ∨ l.handle = w.links.next ∧
      (l.intent = .claim → ∃ n, l.nodeId = some n ∧ (l.handle, n, l.email) ∈ mintedBy w (.advance i now)) :=
    fun l held => .inl held
  cases stage : c.stage with
  | peeked =>
    have redeemed : redeemedBy w (.advance i now) = [] := by simp only [redeemedBy, under, stage]
    have bound : boundBy w (.advance i now) = [] := by simp only [boundBy, under, stage]
    simp only [advanceClick, stage]
    split
    · exact .still links le_rfl (fun _ _ found => found) redeemed bound fun j c' here => of_endThread here
    · refine ⟨links, le_rfl, fun _ _ found => found, by simp [redeemed], by simp [redeemed], fun j c' here => ?_,
        by simp [bound]⟩
      rcases of_setThread here with ⟨rfl, same⟩ | old
      · exact .checked c under (Thread.click.inj same)
      · exact .stood old
  | checked =>
    have redeemed : redeemedBy w (.advance i now) = [] := by simp only [redeemedBy, under, stage]
    have bound : boundBy w (.advance i now) = [] := by simp only [boundBy, under, stage]
    simp only [advanceClick, stage]
    obtain ⟨accounts, nextUser, made⟩ := getOrCreateUser_eq w c.email
    have grown := getOrCreateUser_grown w c.email
    rcases user : getOrCreateUser w c.email with ⟨w', _ | user'⟩
    · rw [user] at made grown
      subst made
      exact .still links le_rfl grown redeemed bound fun j c' here => of_endThread here
    · have account := getOrCreateUser_some (show (getOrCreateUser w c.email).2 = some user' by rw [user])
      rw [user] at made grown account
      subst made
      refine ⟨links, le_rfl, grown, by simp [redeemed], by simp [redeemed], fun j c' here => ?_, by simp [bound]⟩
      rcases of_setThread here with ⟨rfl, same⟩ | old
      · exact .resolved c user' under (Thread.click.inj same) account
      · exact .stood old
  | resolved user =>
    have bound : boundBy w (.advance i now) = [] := by simp only [boundBy, under, stage]
    have shrinks := redeem_links w c.token now
    simp only [advanceClick, stage]
    cases answer : (redeem w c.token now).2 with
    | none =>
      have redeemed : redeemedBy w (.advance i now) = [] := by
        simp only [redeemedBy, under, stage, answer, Option.isSome_none, Bool.false_eq_true, if_false]
      have spent : redeem w c.token now = ((redeem w c.token now).1, none) := Prod.ext rfl answer
      rw [spent]
      exact .still (fun l held => .inl (shrinks.unspent l held)) shrinks.next (fun _ _ found => found) redeemed bound
        fun j c' here => of_endThread here
    | some found =>
      have redeemed : redeemedBy w (.advance i now) = [c.token] := by
        simp only [redeemedBy, under, stage, answer, Option.isSome_some, if_true]
      have spent : redeem w c.token now = ((redeem w c.token now).1, some found) := Prod.ext rfl answer
      rw [spent]
      refine ⟨fun l held => .inl (shrinks.unspent l held), shrinks.next, fun _ _ found => found, by simp [redeemed],
        ?_, fun j c' here => ?_, by simp [bound]⟩
      · intro token listed
        rw [redeemed] at listed
        obtain rfl := List.mem_singleton.mp listed
        exact ⟨redeem_unspent answer, redeem_dead answer⟩
      · rcases of_setThread here with ⟨rfl, same⟩ | old
        · exact .redeemed c user under stage (Thread.click.inj same) ⟨now, rfl⟩ redeemed bound
        · exact .stood old
  | redeemed user =>
    have redeemed : redeemedBy w (.advance i now) = [] := by simp only [redeemedBy, under, stage]
    simp only [advanceClick, stage]
    refine ⟨links, le_rfl, fun _ _ found => found, by simp [redeemed], by simp [redeemed],
      fun j c' here => .stood (of_endThread here), fun token listed => ?_⟩
    simp only [boundBy, under, stage] at listed
    split at listed
    · obtain rfl := List.mem_singleton.mp listed
      exact ⟨i, c, user, under, stage, rfl, Dict.get?_erase_self _ _⟩
    · cases listed

theorem step_keeps (w : World) (e : Event) : Keeps w e (step w e) := by
  cases e with
  | put i nodeId email now admitted => exact (begins_put w i nodeId email now admitted).keeps rfl rfl
  | resend i nodeId now admitted => exact (begins_resend w i nodeId now admitted).keeps rfl rfl
  | click i token now => exact keeps_click w i token now
  | decline i token now => exact (declines_decline w i token now).keeps
  | advance i now =>
    cases here : w.threads.get? i with
    | none =>
      simp only [step, advance, here]
      exact .refl (by simp only [redeemedBy, here]) (by simp only [boundBy, here])
    | some thread =>
      cases thread with
      | request r =>
        simp only [step, advance, here]
        exact keeps_advanceRequest here now
      | click c =>
        simp only [step, advance, here]
        exact keeps_advanceClick here now
      | decline token n =>
        simp only [step, advance, here]
        exact .still (fun l held => .inl held) le_rfl (fun _ _ found => found) (by simp only [redeemedBy, here])
          (by simp only [boundBy, here]) fun j c there => of_endThread there
  | release nodeId user =>
    simp only [step]
    split
    · exact .still (fun l held => .inl held) le_rfl (fun _ _ found => found) rfl rfl fun _ _ here => here
    · exact .refl rfl rfl
  | setOwner | clearClaim =>
    exact .still (fun l held => .inl held) le_rfl (fun _ _ found => found) rfl rfl fun _ _ here => here
  | signInRequested email now =>
    refine .still (fun l held => ?_) ?_ (fun _ _ found => found) rfl rfl fun _ _ here => here
    · rcases createMagicLink_cases w.links email .signin none now with ⟨-, shrinks⟩ | ⟨-, -, minted⟩
      · exact .inl (shrinks.unspent l held)
      · rcases minted l held with old | ⟨handle, -, intent, -⟩
        · exact .inl old
        · exact .inr ⟨handle, fun claim => absurd (intent.symm.trans claim) (by decide)⟩
    · exact (dims_of_createMagicLink_signin w.links email now).next
  | signInRedeemed token now =>
    have shrinks := shrinks_redeem w.links token .signin now
    exact .still (fun l held => .inl (shrinks.unspent l held)) shrinks.next (fun _ _ found => found) rfl rfl
      fun _ _ here => here
  | accountMade email superuser =>
    simp only [step]
    split
    · exact .refl rfl rfl
    · rename_i absent
      refine .still (fun l held => .inl held) le_rfl (fun email' a found => ?_) rfl rfl fun _ _ here => here
      have other : email ≠ email' := by
        rintro rfl
        exact absent (by rw [found]; rfl)
      simp only
      rw [Dict.get?_insert_ne _ _ other]
      exact found

/-! ### Runs -/

/-- What the links and the clicks have behind them. -/
structure Honest (h : History) : Prop where
  links : ∀ l, h.world.links.unspent l → l.intent = .claim → ∃ n, l.nodeId = some n ∧ (l.handle, n, l.email) ∈ h.minted
  clicks : ∀ i c, h.world.threads.get? i = some (.click c) → (c.token, c.nodeId, c.email) ∈ h.minted
  resolved : ∀ i c user, h.world.threads.get? i = some (.click c) → c.stage = .resolved user ∨ c.stage = .redeemed user →
    ∃ a, h.world.accounts.get? c.email = some a ∧ a.id = user
  redeemed : ∀ i c user, h.world.threads.get? i = some (.click c) → c.stage = .redeemed user →
    c.token ∈ h.redeemed ∧ c.token ∉ h.bound
  distinct : ∀ i j c c' user user', h.world.threads.get? i = some (.click c) →
    h.world.threads.get? j = some (.click c') → c.stage = .redeemed user → c'.stage = .redeemed user' →
    c.token = c'.token → i = j
  once : h.redeemed.Nodup
  dead : ∀ token ∈ h.redeemed, Dead h.world.links token
  bound : ∀ token ∈ h.bound, token ∈ h.redeemed

/-- A link that is still unspent was redeemed by nobody. -/
theorem Honest.fresh {h : History} (honest : Honest h) (held : h.world.links.unspent l) : l.handle ∉ h.redeemed :=
  fun listed => (honest.dead l.handle listed).spent l held rfl

theorem Keeps.dead (keeps : Keeps w e w') (dead : Dead w.links token) : Dead w'.links token := by
  refine ⟨dead.drawn.trans_le keeps.next, fun l held => ?_⟩
  rcases keeps.links l held with old | ⟨new, -⟩
  · exact dead.spent l old
  · rw [new]
    exact dead.drawn.ne'

/-- The token that a step redeems is new to the history. -/
theorem Honest.unredeemed {h : History} (honest : Honest h) (keeps : Keeps h.world e w') (listed : token ∈ redeemedBy h.world e) :
    token ∉ h.redeemed := by
  obtain ⟨⟨l, held, rfl⟩, -⟩ := keeps.spent token listed
  exact honest.fresh held

/-- A click whose link is redeemed had it redeemed before, or redeems it now. -/
theorem Keeps.redeemed_click (keeps : Keeps w e w') (here : w'.threads.get? i = some (.click c))
    (stage : c.stage = .redeemed user) :
    w.threads.get? i = some (.click c) ∨
      (∃ now, e = .advance i now) ∧ redeemedBy w e = [c.token] ∧ boundBy w e = [] ∧
        ∃ before, w.threads.get? i = some (.click before) ∧ before.email = c.email ∧ before.stage = .resolved user := by
  rcases keeps.clicks i c here with old | ⟨l, -, -, -, -, -, read⟩ | ⟨before, -, rfl⟩ | ⟨before, user', -, rfl, -⟩ |
    ⟨before, user', old, was, rfl, event, spent, unbound⟩
  · exact .inl old
  · exact nomatch read.symm.trans stage
  · cases stage
  · cases stage
  · obtain rfl := ClickStage.redeemed.inj stage
    exact .inr ⟨event, spent, unbound, before, old, rfl, was⟩

section Step
variable {h : History} (honest : Honest h) (keeps : Keeps h.world e (step h.world e))
include honest keeps

theorem Honest.next_links (held : (step h.world e).links.unspent l) (claim : l.intent = .claim) :
    ∃ n, l.nodeId = some n ∧ (l.handle, n, l.email) ∈ (historyStep h e).minted := by
  rcases keeps.links l held with old | ⟨-, new⟩
  · obtain ⟨n, node, listed⟩ := honest.links l old claim
    exact ⟨n, node, List.mem_append_left _ listed⟩
  · obtain ⟨n, node, listed⟩ := new claim
    exact ⟨n, node, List.mem_append_right _ listed⟩

theorem Honest.next_clicks (here : (step h.world e).threads.get? i = some (.click c)) :
    (c.token, c.nodeId, c.email) ∈ (historyStep h e).minted := by
  refine List.mem_append_left _ ?_
  rcases keeps.clicks i c here with old | ⟨l, held, handle, intent, node, email, -⟩ | ⟨before, old, rfl⟩ |
    ⟨before, user, old, rfl, -⟩ | ⟨before, user, old, -, rfl, -, -, -⟩
  · exact honest.clicks i c old
  · obtain ⟨n, named, listed⟩ := honest.links l held intent
    obtain rfl := Option.some.inj (node.symm.trans named)
    rw [← handle, ← email]
    exact listed
  · exact honest.clicks i before old
  · exact honest.clicks i before old
  · exact honest.clicks i before old

/-- The account that a click was resolved to stays. -/
theorem Honest.account_kept (old : h.world.threads.get? i = some (.click c))
    (stage : c.stage = .resolved user ∨ c.stage = .redeemed user) :
    ∃ a, (step h.world e).accounts.get? c.email = some a ∧ a.id = user := by
  obtain ⟨a, found, same⟩ := honest.resolved i c user old stage
  exact ⟨a, keeps.accounts _ _ found, same⟩

theorem Honest.next_resolved (here : (step h.world e).threads.get? i = some (.click c))
    (stage : c.stage = .resolved user ∨ c.stage = .redeemed user) :
    ∃ a, (step h.world e).accounts.get? c.email = some a ∧ a.id = user := by
  rcases stage with resolved | redeemed
  · rcases keeps.clicks i c here with old | ⟨l, -, -, -, -, -, read⟩ | ⟨before, -, rfl⟩ |
      ⟨before, user', -, rfl, account⟩ | ⟨before, user', -, -, rfl, -, -, -⟩
    · exact honest.account_kept keeps old (.inl resolved)
    · exact nomatch read.symm.trans resolved
    · cases resolved
    · obtain rfl := ClickStage.resolved.inj resolved
      exact account
    · cases resolved
  · rcases keeps.redeemed_click here redeemed with old | ⟨-, -, -, before, old, email, was⟩
    · exact honest.account_kept keeps old (.inr redeemed)
    · rw [← email]
      exact honest.account_kept keeps old (.inl was)

theorem Honest.next_redeemed (here : (step h.world e).threads.get? i = some (.click c))
    (stage : c.stage = .redeemed user) : c.token ∈ (historyStep h e).redeemed ∧ c.token ∉ (historyStep h e).bound := by
  rcases keeps.redeemed_click here stage with old | ⟨-, spent, unbound, -⟩
  · obtain ⟨listed, unbound⟩ := honest.redeemed i c user old stage
    refine ⟨List.mem_append_left _ listed, fun bound => ?_⟩
    rcases List.mem_append.mp bound with before | now
    · exact unbound before
    · -- The click that binds by this link is this one, and it is over.
      obtain ⟨j, c', user', other, stage', same, gone⟩ := keeps.bound c.token now
      obtain rfl := honest.distinct j i c' c user' user other old stage' stage same
      exact nomatch gone.symm.trans here
  · have listed : c.token ∈ redeemedBy h.world e := spent ▸ List.mem_singleton_self _
    refine ⟨List.mem_append_right _ listed, fun bound => ?_⟩
    simp only [historyStep, unbound, List.append_nil] at bound
    exact honest.unredeemed keeps listed (honest.bound _ bound)

/-- A link that is redeemed now was redeemed by no earlier click. -/
theorem Honest.not_again {c c' : Click} (old : h.world.threads.get? i = some (.click c)) (stage : c.stage = .redeemed user)
    (spent : redeemedBy h.world e = [c'.token]) : c.token ≠ c'.token := by
  intro same
  have known := (honest.redeemed i c user old stage).1
  have listed : c'.token ∈ redeemedBy h.world e := spent ▸ List.mem_singleton_self _
  exact honest.unredeemed keeps listed (same ▸ known)

theorem Honest.next_distinct (here : (step h.world e).threads.get? i = some (.click c))
    (here' : (step h.world e).threads.get? j = some (.click c')) (stage : c.stage = .redeemed user)
    (stage' : c'.stage = .redeemed user') (same : c.token = c'.token) : i = j := by
  rcases keeps.redeemed_click here stage with old | ⟨⟨now, event⟩, spent, -⟩
  · rcases keeps.redeemed_click here' stage' with old' | ⟨-, spent', -⟩
    · exact honest.distinct i j c c' user user' old old' stage stage' same
    · exact absurd same (honest.not_again keeps old stage spent')
  · rcases keeps.redeemed_click here' stage' with old' | ⟨⟨now', event'⟩, -⟩
    · exact absurd same.symm (honest.not_again keeps old' stage' spent)
    · exact (Event.advance.inj (event.symm.trans event')).1

theorem Honest.next_once : (historyStep h e).redeemed.Nodup := by
  refine List.nodup_append.mpr ⟨honest.once, keeps.single, ?_⟩
  rintro token old token' new rfl
  exact honest.unredeemed keeps new old

theorem Honest.next_dead (listed : token ∈ (historyStep h e).redeemed) : Dead (step h.world e).links token := by
  rcases List.mem_append.mp listed with old | new
  · exact keeps.dead (honest.dead token old)
  · exact (keeps.spent token new).2

theorem Honest.next_bound (listed : token ∈ (historyStep h e).bound) : token ∈ (historyStep h e).redeemed := by
  refine List.mem_append_left _ ?_
  rcases List.mem_append.mp listed with old | new
  · exact honest.bound token old
  · obtain ⟨i, c, user, under, stage, rfl, -⟩ := keeps.bound token new
    exact (honest.redeemed i c user under stage).1

end Step

theorem Honest.next {h : History} (honest : Honest h) (e : Event) : Honest (historyStep h e) where
  links _ held claim := honest.next_links (step_keeps h.world e) held claim
  clicks _ _ here := honest.next_clicks (step_keeps h.world e) here
  resolved _ _ _ here stage := honest.next_resolved (step_keeps h.world e) here stage
  redeemed _ _ _ here stage := honest.next_redeemed (step_keeps h.world e) here stage
  distinct _ _ _ _ _ _ here here' stage stage' same :=
    honest.next_distinct (step_keeps h.world e) here here' stage stage' same
  once := honest.next_once (step_keeps h.world e)
  dead _ listed := honest.next_dead (step_keeps h.world e) listed
  bound _ listed := honest.next_bound (step_keeps h.world e) listed

theorem honest_start (accounts : Dict String Account) (nextUser : Nat) : Honest (.start accounts nextUser) := by
  constructor
  · rintro l ⟨listed, -⟩
    cases listed
  · exact fun i c here => nomatch here
  · exact fun i c user here => nomatch here
  · exact fun i c user here => nomatch here
  · exact fun i j c c' user user' here => nomatch here
  · exact List.nodup_nil
  · exact fun token listed => nomatch listed
  · exact fun token listed => nomatch listed

theorem Honest.ownerMove {h : History} (honest : Honest h) {e : Event}
    (changed : readOwner (step h.world e).store n ≠ readOwner h.world.store n) : OwnerMove h e n := by
  rcases readOwner_changes changed with ⟨user, rfl, owned⟩ | admin | ⟨i, now, c, user, rfl, under, stage, moved, owner⟩
  · refine .released user rfl owned ?_
    simp only [step, owned, if_true]
    rw [readOwner_clearClaim, if_pos rfl]
  · exact .administered admin
  · obtain ⟨rfl, free, bound, offered⟩ := bindClaim_changes moved
    obtain ⟨listed, once⟩ := honest.redeemed i c user under stage
    exact .bound i now c user rfl under rfl free (owner.trans bound) (honest.clicks i c under)
      (List.count_eq_one_of_mem honest.once listed) once offered (honest.resolved i c user under (.inr stage))

/-- In every run, whatever changes a node's owner is a release by the owner, an administrator's doing, or a bind by a
link that was minted for the node and the address it still offers. -/
theorem ownership_safe (accounts : Dict String Account) (nextUser : Nat) (events : List Event) :
    Along historyStep (fun h e => ∀ n, readOwner (step h.world e).store n ≠ readOwner h.world.store n → OwnerMove h e n)
      (.start accounts nextUser) events :=
  along_of_always (I := Honest) (fun _ e honest => honest.next e) (fun _ _ honest _ changed => honest.ownerMove changed)
    (honest_start accounts nextUser) events

/-- The owner of a node after a nomination and a click. -/
example : readOwner (run historyStep (.start Dict.empty 5)
    ([.put 0 "node-1" "owner@example.org" 0 true] ++ List.replicate 4 (.advance 0 0) ++
      [.click 1 0 1] ++ List.replicate 4 (.advance 1 1))).world.store "node-1" = some 5 := by
  decide +kernel

end Retina.Claiming
