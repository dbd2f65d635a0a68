import RetinaServer.Claiming.Turns

/-! Which claim links of a node work: as long as the requests of a node follow one
another, one link, but for those that a change of owner has left behind. -/
namespace Retina.Claiming
open OrderedDict Runs

structure Traced where
  world : World
  orphaned : List (String × Nat) := []
  displaced : List Nat := []

def traceStep (t : Traced) (e : Event) : Traced :=
  { world := step t.world e
    orphaned := t.orphaned ++ orphanedBy t.world e
    displaced := t.displaced ++ displacedBy t.world e }

def Traced.start (accounts : Dict String Account) (nextUser : Nat) : Traced := { world := .start accounts nextUser }

/-- No request of the node is under way while another one starts. -/
def Apart (t : Traced) (e : Event) : Prop :=
  ∀ i r, t.world.threads.get? i = some (.request r) → nominated e ≠ some r.nodeId

/-- The link could be redeemed for the node, leaving the clock aside, and is not one that was left behind. -/
def Loose (t : Traced) (n : String) (a : Nat) : Prop :=
  (n, a) ∉ t.orphaned ∧ ∃ l, t.world.links.unspent l ∧ l.handle = a ∧ l.nodeId = some n

/-- The node's challenge names the link. -/
def Names (t : Traced) (n : String) (a : Nat) : Prop :=
  ∃ row, t.world.store.challenges.get? n = some row ∧ row.handle = a

/-- A request has minted the link and is about to record it. -/
def Recording (t : Traced) (n : String) (a : Nat) : Prop :=
  ∃ i r, t.world.threads.get? i = some (.request r) ∧ r.nodeId = n ∧ r.stage = .issued (some a)

/-- What a request under way knows of its node's links. -/
def Covers (t : Traced) (r : Request) : Prop :=
  match r.stage with
  | .begun => True
  | .read outstanding => ∀ a, Loose t r.nodeId a → outstanding = some a
  | .invalidated => ∀ a, ¬ Loose t r.nodeId a
  | .issued token => ∀ a, Loose t r.nodeId a → token = some a

/-- A link's handle is the node's own: it was drawn, it was not left behind, and it belongs to no other node. -/
structure Own (t : Traced) (n : String) (a : Nat) : Prop where
  drawn : a < t.world.links.next
  kept : (n, a) ∉ t.orphaned
  belongs : ∀ l, t.world.links.unspent l → l.handle = a → l.nodeId = some n

structure Sound (t : Traced) : Prop where
  alone : ∀ i j r r', t.world.threads.get? i = some (.request r) → t.world.threads.get? j = some (.request r') →
    r.nodeId = r'.nodeId → i = j
  covers : ∀ i r, t.world.threads.get? i = some (.request r) → Covers t r
  named : ∀ n a, Loose t n a → Names t n a ∨ Recording t n a
  declines : ∀ i token n, t.world.threads.get? i = some (.decline token n) → Dead t.world.links token
  displaced : ∀ d ∈ t.displaced, Dead t.world.links d
  rows : ∀ n a, Names t n a → Own t n a
  issued : ∀ n a, Recording t n a → Own t n a ∧ ¬ Names t n a
  orphaned : ∀ entry ∈ t.orphaned, entry.2 < t.world.links.next

/-! ### What a quiet step keeps -/

theorem Names.inj (first : Names t n a) (second : Names t n b) : a = b := by
  obtain ⟨row, here, rfl⟩ := first
  obtain ⟨row', here', rfl⟩ := second
  rw [Option.some.inj (here.symm.trans here')]

/-- A link is left behind when its challenge goes. -/
theorem names_of_mem_orphanedBy {t : Traced} {e : Event} (orphaned : (n, a) ∈ orphanedBy t.world e) :
    Names t n a ∧ (step t.world e).store.challenges.get? n = none := by
  rw [orphanedBy] at orphaned
  split at orphaned
  · cases orphaned
  · split at orphaned
    · rename_i m settled gone
      obtain ⟨row, found, same⟩ := List.mem_map.mp orphaned
      obtain ⟨rfl, rfl⟩ := Prod.mk.inj same
      exact ⟨⟨row, Option.mem_toList.mp found, rfl⟩, Option.isNone_iff_eq_none.mp gone⟩
    · cases orphaned

theorem Covers.mono {t t' : Traced} {r : Request} (covers : Covers t r)
    (fewer : ∀ a, Loose t' r.nodeId a → Loose t r.nodeId a) : Covers t' r := by
  simp only [Covers] at covers ⊢
  split <;> rename_i stage <;> simp only [stage] at covers
  · trivial
  · exact fun a loose => covers a (fewer a loose)
  · exact fun a loose => covers a (fewer a loose)
  · exact fun a loose => covers a (fewer a loose)

theorem Own.dims {t t' : Traced} (own : Own t n a) (links : Dims t.world.links t'.world.links)
    (kept : (n, a) ∉ t'.orphaned) : Own t' n a := by
  refine ⟨own.drawn.trans_le links.next, kept, fun l held handle => ?_⟩
  rcases links.unspent l held with old | ⟨new, -⟩
  · exact own.belongs l old handle
  · exact absurd (new.symm.trans handle) own.drawn.ne'

theorem Quiet.sound {t : Traced} {e : Event} (quiet : Quiet t.world e (step t.world e)) (sound : Sound t) :
    Sound (traceStep t e) := by
  have loose (n : String) (a : Nat) (here : Loose (traceStep t e) n a) : Loose t n a := by
    obtain ⟨kept, l, held, handle, node⟩ := here
    refine ⟨fun old => kept (List.mem_append_left _ old), l, ?_, handle, node⟩
    rcases quiet.links.unspent l held with old | ⟨-, none⟩
    · exact old
    · rw [none] at node
      cases node
  have names (n : String) (a : Nat) (here : Names (traceStep t e) n a) : Names t n a := by
    obtain ⟨row, found, handle⟩ := here
    rcases quiet.challenges n with same | ⟨gone, -⟩
    · exact ⟨row, same ▸ found, handle⟩
    · exact nomatch gone.symm.trans found
  have recording (n : String) (a : Nat) (here : Recording (traceStep t e) n a) : Recording t n a := by
    obtain ⟨i, r, under, node, stage⟩ := here
    exact ⟨i, r, (quiet.requests i r).mp under, node, stage⟩
  -- A link whose challenge stands is not left behind.
  have kept (n : String) (a : Nat) (own : Own t n a)
      (stands : Names t n a → Names (traceStep t e) n a) : (n, a) ∉ (traceStep t e).orphaned := by
    intro orphaned
    rcases List.mem_append.mp orphaned with old | new
    · exact own.kept old
    · obtain ⟨named, gone⟩ := names_of_mem_orphanedBy new
      obtain ⟨row, found, -⟩ := stands named
      exact nomatch gone.symm.trans found
  constructor
  case alone =>
    intro i j r r' under under' same
    exact sound.alone i j r r' ((quiet.requests i r).mp under) ((quiet.requests j r').mp under') same
  case covers =>
    intro i r under
    exact (sound.covers i r ((quiet.requests i r).mp under)).mono (loose r.nodeId)
  case named =>
    intro n a here
    rcases sound.named n a (loose n a here) with ⟨row, found, handle⟩ | ⟨i, r, under, node, stage⟩
    · rcases quiet.challenges n with same | ⟨gone, left⟩
      · exact .inl ⟨row, same ▸ found, handle⟩
      · subst handle
        rcases left row found with orphaned | dead
        · exact absurd (List.mem_append_right _ orphaned) here.1
        · obtain ⟨-, l, held, handle, -⟩ := here
          exact absurd handle (dead.spent l held)
    · exact .inr ⟨i, r, (quiet.requests i r).mpr under, node, stage⟩
  case declines =>
    intro i token n here
    rcases quiet.declines i token n here with old | dead
    · exact quiet.links.dead (sound.declines i token n old)
    · exact dead
  case displaced =>
    intro d listed
    rw [traceStep, quiet.displaced, List.append_nil] at listed
    exact quiet.links.dead (sound.displaced d listed)
  case rows =>
    intro n a here
    have own := sound.rows n a (names n a here)
    exact own.dims quiet.links (kept n a own fun _ => here)
  case issued =>
    intro n a here
    obtain ⟨own, unnamed⟩ := sound.issued n a (recording n a here)
    exact ⟨own.dims quiet.links (kept n a own fun named => absurd named unnamed), fun named => unnamed (names n a named)⟩
  case orphaned =>
    rintro ⟨n, a⟩ orphaned
    rcases List.mem_append.mp orphaned with old | new
    · exact (sound.orphaned _ old).trans_le quiet.links.next
    · exact (sound.rows n a (names_of_mem_orphanedBy new).1).drawn.trans_le quiet.links.next

/-! ### The steps of a request -/

/-- A request that begins knows nothing yet. -/
theorem Sound.begun {t : Traced} (sound : Sound t) {r : Request} (idle : t.world.threads.get? i = none)
    (stage : r.stage = .begun)
    (apart : ∀ j r', t.world.threads.get? j = some (.request r') → r.nodeId ≠ r'.nodeId) :
    Sound { t with world := t.world.setThread i (.request r) } := by
  have threads (j : Nat) (s : Request)
      (here : (t.world.setThread i (.request r)).threads.get? j = some (.request s)) :
      j = i ∧ s = r ∨ t.world.threads.get? j = some (.request s) := by
    rcases of_setThread here with ⟨same, new⟩ | old
    · exact .inl ⟨same, Thread.request.inj new⟩
    · exact .inr old
  have older (j : Nat) (s : Request) (here : t.world.threads.get? j = some (.request s)) :
      (t.world.setThread i (.request r)).threads.get? j = some (.request s) := by
    have other : i ≠ j := by
      rintro rfl
      exact nomatch idle.symm.trans here
    rw [World.setThread, Dict.get?_insert_ne _ _ other]
    exact here
  have recording (n : String) (a : Nat)
      (here : Recording { t with world := t.world.setThread i (.request r) } n a) : Recording t n a := by
    obtain ⟨j, s, under, node, issued⟩ := here
    rcases threads j s under with ⟨-, rfl⟩ | old
    · rw [stage] at issued
      cases issued
    · exact ⟨j, s, old, node, issued⟩
  constructor
  case alone =>
    intro j k s s' under under' same
    rcases threads j s under with ⟨rfl, rfl⟩ | old <;> rcases threads k s' under' with ⟨rfl, rfl⟩ | old'
    · rfl
    · exact absurd same (apart k s' old')
    · exact absurd same.symm (apart j s old)
    · exact sound.alone j k s s' old old' same
  case covers =>
    intro j s under
    rcases threads j s under with ⟨-, rfl⟩ | old
    · simp only [Covers, stage]
    · exact sound.covers j s old
  case named =>
    intro n a here
    rcases sound.named n a here with named | ⟨j, s, under, node, issued⟩
    · exact .inl named
    · exact .inr ⟨j, s, older j s under, node, issued⟩
  case declines =>
    intro j token n here
    exact sound.declines j token n (declines_setThread (by simp) here)
  case displaced =>
    exact sound.displaced
  case rows =>
    exact fun n a here => (sound.rows n a here).dims (Shrinks.refl _).dims (sound.rows n a here).kept
  case issued =>
    intro n a here
    obtain ⟨own, unnamed⟩ := sound.issued n a (recording n a here)
    exact ⟨own.dims (Shrinks.refl _).dims own.kept, unnamed⟩
  case orphaned =>
    exact sound.orphaned

/-- A request goes on to its next stage, and at most one link is minted, for the request itself. -/
structure Proceeds (t t' : Traced) (i : Nat) (r r' : Request) : Prop where
  under : t.world.threads.get? i = some (.request r)
  threads : t'.world.threads = t.world.threads.insert i (.request r')
  node : r'.nodeId = r.nodeId
  unissued : ∀ a, r.stage ≠ .issued (some a)
  challenges : t'.world.store.challenges = t.world.store.challenges
  orphaned : t'.orphaned = t.orphaned
  displaced : t'.displaced = t.displaced
  links : ∀ l, t'.world.links.unspent l → t.world.links.unspent l ∨
    l.handle = t.world.links.next ∧ l.nodeId = some r.nodeId ∧ r'.stage = .issued (some t.world.links.next)
  next : t.world.links.next ≤ t'.world.links.next
  covers : Covers t' r'
  issued : ∀ a, r'.stage = .issued (some a) → Own t' r.nodeId a ∧ ¬ Names t r.nodeId a

theorem Proceeds.own (proceeds : Proceeds t t' i r r') (own : Own t n a) : Own t' n a := by
  refine ⟨own.drawn.trans_le proceeds.next, by rw [proceeds.orphaned]; exact own.kept, fun l held handle => ?_⟩
  rcases proceeds.links l held with old | ⟨new, -, -⟩
  · exact own.belongs l old handle
  · exact absurd (new.symm.trans handle) own.drawn.ne'

theorem Proceeds.names (proceeds : Proceeds t t' i r r') (n : String) (a : Nat) : Names t' n a ↔ Names t n a := by
  simp only [Names, proceeds.challenges]

theorem Proceeds.request (proceeds : Proceeds t t' i r r') (j : Nat) (s : Request) :
    t'.world.threads.get? j = some (.request s) ↔
      j = i ∧ s = r' ∨ j ≠ i ∧ t.world.threads.get? j = some (.request s) := by
  rw [proceeds.threads, Dict.get?_insert]
  by_cases same : i = j
  · subst same
    simp [eq_comm]
  · simp [same, Ne.symm same]

theorem Proceeds.sound (proceeds : Proceeds t t' i r r') (sound : Sound t) : Sound t' := by
  have dead {token : Nat} (old : Dead t.world.links token) : Dead t'.world.links token := by
    refine ⟨old.drawn.trans_le proceeds.next, fun l held => ?_⟩
    rcases proceeds.links l held with here | ⟨new, -, -⟩
    · exact old.spent l here
    · rw [new]
      exact old.drawn.ne'
  have recording (n : String) (a : Nat) (here : Recording t' n a) :
      Recording t n a ∨ n = r.nodeId ∧ r'.stage = .issued (some a) := by
    obtain ⟨j, s, under, node, stage⟩ := here
    rcases (proceeds.request j s).mp under with ⟨-, rfl⟩ | ⟨-, old⟩
    · exact .inr ⟨node.symm.trans proceeds.node, stage⟩
    · exact .inl ⟨j, s, old, node, stage⟩
  constructor
  case alone =>
    intro j k s s' under under' same
    rcases (proceeds.request j s).mp under with ⟨rfl, rfl⟩ | ⟨other, old⟩ <;>
      rcases (proceeds.request k s').mp under' with ⟨rfl, rfl⟩ | ⟨other', old'⟩
    · rfl
    · exact sound.alone j k r s' proceeds.under old' (proceeds.node.symm.trans same)
    · exact sound.alone j k s r old proceeds.under (same.trans proceeds.node)
    · exact sound.alone j k s s' old old' same
  case covers =>
    intro j s under
    rcases (proceeds.request j s).mp under with ⟨-, rfl⟩ | ⟨other, old⟩
    · exact proceeds.covers
    · refine (sound.covers j s old).mono fun a here => ?_
      obtain ⟨kept, l, held, handle, node⟩ := here
      refine ⟨by rwa [proceeds.orphaned] at kept, l, ?_, handle, node⟩
      rcases proceeds.links l held with here | ⟨-, mine, -⟩
      · exact here
      · have same : s.nodeId = r.nodeId := Option.some.inj (node.symm.trans mine)
        exact absurd (sound.alone j i s r old proceeds.under same) other
  case named =>
    intro n a here
    obtain ⟨kept, l, held, handle, node⟩ := here
    rcases proceeds.links l held with old | ⟨new, mine, stage⟩
    · rw [proceeds.orphaned] at kept
      rcases sound.named n a ⟨kept, l, old, handle, node⟩ with named | ⟨j, s, under, mine, stage⟩
      · exact .inl ((proceeds.names n a).mpr named)
      · refine .inr ⟨j, s, (proceeds.request j s).mpr (.inr ⟨?_, under⟩), mine, stage⟩
        rintro rfl
        rw [proceeds.under] at under
        obtain rfl := Thread.request.inj (Option.some.inj under)
        exact proceeds.unissued a stage
    · refine .inr ⟨i, r', (proceeds.request i r').mpr (.inl ⟨rfl, rfl⟩), ?_, ?_⟩
      · exact proceeds.node.trans (Option.some.inj (mine.symm.trans node))
      · rw [stage, ← new, handle]
  case declines =>
    intro j token n here
    rw [proceeds.threads, Dict.get?_insert] at here
    split at here
    · cases here
    · exact dead (sound.declines j token n here)
  case displaced =>
    intro d listed
    rw [proceeds.displaced] at listed
    exact dead (sound.displaced d listed)
  case rows =>
    exact fun n a here => proceeds.own (sound.rows n a ((proceeds.names n a).mp here))
  case issued =>
    intro n a here
    rw [proceeds.names]
    rcases recording n a here with old | ⟨rfl, stage⟩
    · exact ⟨proceeds.own (sound.issued n a old).1, (sound.issued n a old).2⟩
    · exact proceeds.issued a stage
  case orphaned =>
    intro entry listed
    rw [proceeds.orphaned] at listed
    exact (sound.orphaned entry listed).trans_le proceeds.next

/-- The challenge is read: it names the one link that counts. -/
theorem Sound.read {t : Traced} (sound : Sound t) (under : t.world.threads.get? i = some (.request r))
    (stage : r.stage = .begun) : Sound { t with world := advanceRequest t.world i r } := by
  simp only [advanceRequest, stage]
  refine Proceeds.sound ⟨under, rfl, rfl, by simp [stage], rfl, rfl, rfl, fun l held => .inl held, le_rfl, ?_, by simp⟩
    sound
  intro a here
  rcases sound.named r.nodeId a here with ⟨row, found, handle⟩ | ⟨j, s, other, node, issued⟩
  · simp only [readChallenge, found, Option.map_some, handle]
  · obtain rfl := sound.alone j i s r other under node
    rw [under] at other
    obtain rfl := Thread.request.inj (Option.some.inj other)
    rw [stage] at issued
    cases issued

/-- What was outstanding is dead. -/
theorem Sound.invalidated {t : Traced} (sound : Sound t) (under : t.world.threads.get? i = some (.request r))
    (stage : r.stage = .read outstanding) : Sound { t with world := advanceRequest t.world i r } := by
  have covers := sound.covers i r under
  simp only [Covers, stage] at covers
  simp only [advanceRequest, stage]
  cases outstanding with
  | none =>
    refine Proceeds.sound ⟨under, rfl, rfl, by simp [stage], rfl, rfl, rfl, fun l held => .inl held, le_rfl, ?_, by simp⟩
      sound
    exact fun a here => nomatch covers a here
  | some handle =>
    have shrinks := shrinks_invalidate t.world.links handle
    refine Proceeds.sound ⟨under, rfl, rfl, by simp [stage], rfl, rfl, rfl, fun l held => .inl (shrinks.unspent l held),
      shrinks.next, ?_, by simp⟩ sound
    rintro a ⟨kept, l, held, same, node⟩
    have known := covers a ⟨kept, l, shrinks.unspent l held, same, node⟩
    exact not_unspent_invalidate t.world.links handle held (same.trans (Option.some.inj known).symm)

/-- The one link that counts is the one that is minted. -/
theorem Sound.minted {t : Traced} (sound : Sound t) (under : t.world.threads.get? i = some (.request r))
    (stage : r.stage = .invalidated) : Sound { t with world := advanceRequest t.world i r } := by
  have covers := sound.covers i r under
  simp only [Covers, stage] at covers
  simp only [advanceRequest, stage]
  rcases createMagicLink_cases t.world.links r.email .claim (some r.nodeId) r.now with
    ⟨none, shrinks⟩ | ⟨some_, next, minted⟩
  · refine Proceeds.sound ⟨under, rfl, rfl, by simp [stage], rfl, rfl, rfl, fun l held => .inl (shrinks.unspent l held),
      shrinks.next, ?_, by simp [none]⟩ sound
    simp only [Covers]
    rintro a ⟨kept, l, held, same, node⟩
    exact absurd ⟨kept, l, shrinks.unspent l held, same, node⟩ (covers a)
  · rw [some_]
    refine Proceeds.sound ⟨under, rfl, rfl, by simp [stage], rfl, rfl, rfl, fun l held => ?_, ?_, ?_, ?_⟩ sound
    · rcases minted l held with old | ⟨handle, node, -, -⟩
      · exact .inl old
      · exact .inr ⟨handle, node, rfl⟩
    · exact (Nat.le_succ _).trans next.ge
    · rintro a ⟨kept, l, held, same, node⟩
      rcases minted l held with old | ⟨handle, -, -, -⟩
      · exact absurd ⟨kept, l, old, same, node⟩ (covers a)
      · rw [← same, handle]
    · intro a issued
      obtain rfl := Option.some.inj (RequestStage.issued.inj issued)
      refine ⟨⟨?_, fun old => (sound.orphaned _ old).ne rfl, fun l held handle => ?_⟩, fun named => ?_⟩
      · exact (Nat.lt_succ_self _).trans_le next.ge
      · rcases minted l held with old | ⟨-, node, -, -⟩
        · exact absurd handle (t.world.links.drawn l old.1).ne
        · exact node
      · exact (sound.rows _ _ named).drawn.ne rfl

theorem names_recordChallenge {w : World} {r : Request} (token : Option Nat)
    (here : t.world.store = recordChallenge w.store r token) (n : String) (a : Nat) :
    Names t n a ↔ n = r.nodeId ∧ token = some a ∨
      n ≠ r.nodeId ∧ ∃ row, w.store.challenges.get? n = some row ∧ row.handle = a := by
  simp only [Names, here]
  cases token with
  | none =>
    simp only [recordChallenge, setClaimAddress_challenges, dropChallenge, Dict.get?_erase]
    by_cases same : r.nodeId = n
    · simp [same]
    · simp [same, Ne.symm same]
  | some token =>
    simp only [recordChallenge, setClaimAddress_challenges, putChallenge, Dict.get?_insert]
    by_cases same : r.nodeId = n
    · simp [same]
    · simp [same, Ne.symm same]

/-- The challenge that is replaced names a link that is dead by now. -/
theorem Sound.displaced_dead {t : Traced} (sound : Sound t) (under : t.world.threads.get? i = some (.request r))
    (stage : r.stage = .issued (some token)) (named : Names t r.nodeId d) : Dead t.world.links d := by
  have own := sound.rows r.nodeId d named
  have covers := sound.covers i r under
  simp only [Covers, stage] at covers
  obtain ⟨-, unnamed⟩ := sound.issued r.nodeId token ⟨i, r, under, rfl, stage⟩
  refine ⟨own.drawn, fun l held handle => ?_⟩
  have known := covers d ⟨own.kept, l, held, handle, own.belongs l held handle⟩
  rw [Option.some.inj known] at unnamed
  exact unnamed named

/-- The link that a request has minted becomes the one that the challenge names. -/
theorem Sound.recorded {t : Traced} (sound : Sound t) (under : t.world.threads.get? i = some (.request r))
    (stage : r.stage = .issued token) (now : ℚ) :
    Sound { t with
      world := advanceRequest t.world i r, displaced := t.displaced ++ displacedBy t.world (.advance i now) } := by
  have covers := sound.covers i r under
  simp only [Covers, stage] at covers
  have replaced : ∀ d ∈ displacedBy t.world (.advance i now), Dead t.world.links d := by
    intro d listed
    simp only [displacedBy, under, stage] at listed
    cases token with
    | none => cases listed
    | some token =>
      obtain ⟨row, found, handle⟩ := List.mem_map.mp listed
      exact sound.displaced_dead under stage ⟨row, Option.mem_toList.mp found, handle⟩
  generalize displacedBy t.world (.advance i now) = more at replaced ⊢
  simp only [advanceRequest, stage]
  have threads (j : Nat) (s : Request)
      (here : ({ t.world with store := recordChallenge t.world.store r token }.endThread i).threads.get? j =
        some (.request s)) : j ≠ i ∧ t.world.threads.get? j = some (.request s) := by
    simp only [World.endThread, Dict.get?_erase] at here
    split at here
    · cases here
    · rename_i other
      exact ⟨Ne.symm other, here⟩
  have names := @names_recordChallenge { t with
    world := { t.world with store := recordChallenge t.world.store r token }.endThread i
    displaced := t.displaced ++ more } t.world r token rfl
  constructor
  case alone =>
    intro j k s s' here here' same
    exact sound.alone j k s s' (threads j s here).2 (threads k s' here').2 same
  case covers =>
    intro j s here
    exact (sound.covers j s (threads j s here).2).mono fun a loose => loose
  case named =>
    intro n a here
    rw [names]
    rcases sound.named n a here with named | ⟨j, s, other, node, issued⟩
    · by_cases mine : n = r.nodeId
      · subst mine
        exact .inl (.inl ⟨rfl, covers a here⟩)
      · exact .inl (.inr ⟨mine, named⟩)
    · by_cases mine : n = r.nodeId
      · subst mine
        exact .inl (.inl ⟨rfl, covers a here⟩)
      · refine .inr ⟨j, s, ?_, node, issued⟩
        have apart : i ≠ j := by
          rintro rfl
          rw [under] at other
          obtain rfl := Thread.request.inj (Option.some.inj other)
          exact mine node.symm
        simp only [World.endThread]
        rw [Dict.get?_erase_ne _ apart]
        exact other
  case declines =>
    intro j token' n here
    exact sound.declines j token' n (of_endThread here)
  case displaced =>
    intro d listed
    rcases List.mem_append.mp listed with old | new
    · exact sound.displaced d old
    · exact replaced d new
  case rows =>
    intro n a here
    rcases (names n a).mp here with ⟨rfl, rfl⟩ | ⟨-, named⟩
    · have own := (sound.issued r.nodeId a ⟨i, r, under, rfl, stage⟩).1
      exact own.dims (Shrinks.refl _).dims own.kept
    · have own := sound.rows n a named
      exact own.dims (Shrinks.refl _).dims own.kept
  case issued =>
    rintro n a ⟨j, s, here, node, issued⟩
    obtain ⟨other, old⟩ := threads j s here
    obtain ⟨own, unnamed⟩ := sound.issued n a ⟨j, s, old, node, issued⟩
    refine ⟨own.dims (Shrinks.refl _).dims own.kept, fun named => ?_⟩
    rcases (names n a).mp named with ⟨rfl, -⟩ | ⟨-, named⟩
    · exact other (sound.alone j i s r old under node)
    · exact unnamed named
  case orphaned =>
    exact sound.orphaned

/-! ### Runs -/

theorem orphanedBy_of_nominated {w : World} {e : Event} (started : nominated e = some n) : orphanedBy w e = [] := by
  cases e with
  | put | resend => rfl
  | click | decline | advance | release | setOwner | clearClaim | signInRequested | signInRedeemed | accountMade =>
    cases started

theorem displacedBy_of_nominated {w : World} {e : Event} (started : nominated e = some n) : displacedBy w e = [] := by
  cases e with
  | put | resend => rfl
  | click | decline | advance | release | setOwner | clearClaim | signInRequested | signInRedeemed | accountMade =>
    cases started

theorem Sound.step {t : Traced} (sound : Sound t) (e : Event) (apart : Apart t e) : Sound (traceStep t e) := by
  rcases step_turn sound.declines e with quiet | ⟨i, r, idle, stage, started, here⟩ | ⟨i, r, now, under, rfl, here⟩
  · exact quiet.sound sound
  · rw [traceStep, here, orphanedBy_of_nominated started, displacedBy_of_nominated started, List.append_nil,
      List.append_nil]
    exact sound.begun idle stage fun j r' under same => apart j r' under (started.trans (congrArg some same))
  · have settled : orphanedBy t.world (.advance i now) = [] := by simp only [orphanedBy, settledNode, under]
    rw [traceStep, here, settled, List.append_nil]
    cases stage : r.stage with
    | issued token => exact sound.recorded under stage now
    | begun =>
      have calm : displacedBy t.world (.advance i now) = [] := by simp only [displacedBy, under, stage]
      rw [calm, List.append_nil]
      exact sound.read under stage
    | read outstanding =>
      have calm : displacedBy t.world (.advance i now) = [] := by simp only [displacedBy, under, stage]
      rw [calm, List.append_nil]
      exact sound.invalidated under stage
    | invalidated =>
      have calm : displacedBy t.world (.advance i now) = [] := by simp only [displacedBy, under, stage]
      rw [calm, List.append_nil]
      exact sound.minted under stage

theorem sound_start (accounts : Dict String Account) (nextUser : Nat) : Sound (.start accounts nextUser) := by
  constructor
  · exact fun i j r r' here => nomatch here
  · exact fun i r here => nomatch here
  · rintro n a ⟨-, l, ⟨listed, -⟩, -⟩
    cases listed
  · exact fun i token n here => nomatch here
  · exact fun d listed => nomatch listed
  · rintro n a ⟨row, here, -⟩
    cases here
  · rintro n a ⟨i, r, here, -⟩
    cases here
  · exact fun entry listed => nomatch listed

/-- An unexpired and unspent claim link of the node. -/
def Live (t : Traced) (n : String) (now : ℚ) (a : Nat) : Prop :=
  ∃ l ∈ t.world.links.rows, l.handle = a ∧ l.nodeId = some n ∧ l.intent = .claim ∧ l.outstanding now = true

theorem Live.loose (live : Live t n now a) (kept : (n, a) ∉ t.orphaned) : Loose t n a := by
  obtain ⟨l, listed, handle, node, -, outstanding⟩ := live
  simp only [MagicLink.outstanding, Bool.and_eq_true, Option.isNone_iff_eq_none] at outstanding
  exact ⟨kept, l, ⟨listed, outstanding.1⟩, handle, node⟩

/-- Of the links of a node that were not left behind by a bind, a release or a change of owner, one is live at most: the
one that the challenge names, or the one that a request has minted and is about to record. A link whose challenge was
replaced is redeemed no more. -/
theorem one_live_link (accounts : Dict String Account) (nextUser : Nat) (events : List Event)
    (apart : Along traceStep Apart (.start accounts nextUser) events) :
    (∀ n now a, Live (run traceStep (.start accounts nextUser) events) n now a →
        (n, a) ∉ (run traceStep (.start accounts nextUser) events).orphaned →
        (Names (run traceStep (.start accounts nextUser) events) n a ∨
            Recording (run traceStep (.start accounts nextUser) events) n a) ∧
          ∀ b, Live (run traceStep (.start accounts nextUser) events) n now b →
            (n, b) ∉ (run traceStep (.start accounts nextUser) events).orphaned → b = a) ∧
      ∀ d ∈ (run traceStep (.start accounts nextUser) events).displaced, ∀ now,
        (redeem (run traceStep (.start accounts nextUser) events).world d now).2 = none := by
  have sound : Sound (run traceStep (.start accounts nextUser) events) :=
    invariant (I := Sound) (fun t e held apart => held.step e apart) (sound_start accounts nextUser) apart
  refine ⟨fun n now a live kept => ?_, fun d listed now => ?_⟩
  · have named := sound.named n a (live.loose kept)
    refine ⟨named, fun b live' kept' => ?_⟩
    rcases named with named | ⟨i, r, under, rfl, stage⟩
    · rcases sound.named n b (live'.loose kept') with named' | ⟨i, r, under, rfl, stage⟩
      · exact named'.inj named
      · have covers := sound.covers i r under
        simp only [Covers, stage] at covers
        exact Option.some.inj (covers a (live.loose kept))
    · have covers := sound.covers i r under
      simp only [Covers, stage] at covers
      exact (Option.some.inj (covers b (live'.loose kept'))).symm
  · simp only [redeem, redeemMagicLink_of_dead (sound.displaced d listed), Option.bind_none]

/-- A nomination that was admitted, with its transactions. -/
def nomination : List Event := .put 0 "node-1" "owner@example.org" 0 true :: List.replicate 4 (.advance 0 0)

/-- Two resends of one node, one transaction of each at a time. -/
def twoResends : List Event :=
  [.resend 1 "node-1" 1 true, .resend 2 "node-1" 1 true] ++ (List.replicate 4 [.advance 1 1, .advance 2 1]).flatten

def startOf (events : List Event) : Traced := run traceStep (.start Dict.empty 0) events

theorem live_iff (t : Traced) (n : String) (now : ℚ) (a : Nat) :
    Live t n now a ↔ (t.world.links.rows.any fun l => decide (l.handle = a) && decide (l.nodeId = some n) &&
      decide (l.intent = .claim) && l.outstanding now) = true := by
  simp [Live, and_assoc]

theorem names_iff (t : Traced) (n : String) (a : Nat) :
    Names t n a ↔ (t.world.store.challenges.get? n).map NodeClaimChallenge.handle = some a := by
  simp [Names, Option.map_eq_some_iff]

/-- A link that was just minted is named nowhere yet; an administrator's change of owner leaves a link that can be
redeemed; two resends that overlap leave two, the one that was displaced among them. -/
theorem links_beside_challenge :
    (Live (startOf (nomination.take 4)) "node-1" 0 0 ∧ ¬ Names (startOf (nomination.take 4)) "node-1" 0) ∧
    (Live (startOf (nomination ++ [.setOwner "node-1" (some 7)])) "node-1" 0 0 ∧
      (redeem (startOf (nomination ++ [.setOwner "node-1" (some 7)])).world 0 0).2 =
        some ("node-1", "owner@example.org")) ∧
    (Live (startOf (nomination ++ twoResends)) "node-1" 1 1 ∧ Live (startOf (nomination ++ twoResends)) "node-1" 1 2 ∧
      Names (startOf (nomination ++ twoResends)) "node-1" 2 ∧
      (redeem (startOf (nomination ++ twoResends)).world 1 1).2 = some ("node-1", "owner@example.org")) := by
  simp only [live_iff, names_iff]
  decide +kernel

/-- The nomination alone. -/
theorem one_live_link_nomination :
    (∀ n now a, Live (startOf nomination) n now a → (n, a) ∉ (startOf nomination).orphaned →
        (Names (startOf nomination) n a ∨ Recording (startOf nomination) n a) ∧
          ∀ b, Live (startOf nomination) n now b → (n, b) ∉ (startOf nomination).orphaned → b = a) ∧
      ∀ d ∈ (startOf nomination).displaced, ∀ now, (redeem (startOf nomination).world d now).2 = none := by
  refine one_live_link Dict.empty 0 nomination ?_
  refine ⟨?_, ?_, ?_, ?_, ?_, trivial⟩
  · exact fun i r under => nomatch under
  all_goals exact fun i r under same => nomatch same

end Retina.Claiming
