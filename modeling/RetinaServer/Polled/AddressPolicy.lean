import RetinaServer.Library.IpText
import RetinaServer.Polled.Endpoint

/-! Which addresses a radar may be fetched from: the policy, and the vetting of what a name resolves to. -/
namespace Retina.Polled
open Numerals IpText

def NAT64 : IPNetwork := ⟨.six, 0x64ff9b * 2 ^ 96, 96, by decide⟩

def IPV4_COMPATIBLE : IPNetwork := ⟨.six, 0, 96, by decide⟩

/-- How `ipaddress` classes an address. -/
structure Classes where
  isGlobal : IPAddress → Bool
  isMulticast : IPAddress → Bool
  isUnspecified : IPAddress → Bool
  isReserved : IPAddress → Bool
  isSiteLocal : IPAddress → Bool

/-! ### The policy -/

/-- The IPv4 address of the last 32 bits. -/
def lowIPv4 (n : ℕ) : IPAddress := .v4 (n % 2 ^ 32) (Nat.mod_lt _ (by decide))

def ipv4Mapped (address : IPAddress) : Option IPAddress :=
  if address.toNat / 2 ^ 32 = 0xffff then some (lowIPv4 address.toNat) else none

def sixtofour (address : IPAddress) : Option IPAddress :=
  if address.toNat / 2 ^ 112 = 0x2002 then some (lowIPv4 (address.toNat / 2 ^ 80)) else none

/-- The IPv4 destination behind an IPv4-mapped, -compatible or NAT64 address. -/
def carriedIPv4 (address : IPAddress) : Option IPAddress :=
  (ipv4Mapped address).orElse fun _ =>
    if NAT64.contains address || IPV4_COMPATIBLE.contains address then some (lowIPv4 address.toNat) else none

def Classes.routable (lib : Classes) (address : IPAddress) : Bool :=
  lib.isGlobal address && !(lib.isMulticast address || lib.isUnspecified address || lib.isReserved address)

/-- `is_public_address` of an address of version 4. -/
def isPublicIPv4 (lib : Classes) (deny : List IPNetwork) (address : IPAddress) : Bool :=
  if deny.any fun network => network.contains address then false else lib.routable address

def isPublicAddress (lib : Classes) (deny : List IPNetwork) (address : IPAddress) : Bool :=
  if deny.any fun network => network.contains address then false
  else match address.version with
    | .four => lib.routable address
    | .six =>
        match carriedIPv4 address with
        | some carried => isPublicIPv4 lib deny carried
        | none =>
            if (sixtofour address).any fun carried => !isPublicIPv4 lib deny carried then false
            else if lib.isSiteLocal address then false
            else lib.routable address

def parseCommaList (raw : Text) : List Text := ((raw.splitOn ',').map strip).filter fun entry => decide (entry ≠ [])

/-- `none` is a `ValueError`. -/
def denyNetworksFromEnv (env : Option Text) : Option (List IPNetwork) := (parseCommaList (env.getD [])).mapM ipNetwork

abbrev AddressPolicy := IPAddress → Bool

def defaultPolicy (lib : Classes) (env : Option Text) : Except EndpointRefused AddressPolicy :=
  match denyNetworksFromEnv env with
  | some deny => .ok (isPublicAddress lib deny)
  | none => .error ⟨.policyUnavailable, "The server cannot check radar addresses at the moment; try again later."⟩

/-! ### Resolution -/

/-- What vetting reads: the deny list in the environment, and what the resolver answers, where `none` is a
failure or a timeout. -/
structure Entry where
  endpoint : PolledEndpoint
  policy : Option AddressPolicy
  env : Option Text
  answer : Option (List IPAddress)

def Entry.addresses (entry : Entry) : List IPAddress :=
  match ipAddress entry.endpoint.host.toList with
  | some address => [address]
  | none => entry.answer.getD []

def vetAddresses (lib : Classes) (entry : Entry) : Except EndpointRefused (List IPAddress) := do
  let policy ← entry.policy.elim (defaultPolicy lib entry.env) .ok
  let unique := entry.addresses.eraseDups
  if unique = [] then throw ⟨.unresolvable, entry.endpoint.host ++ " could not be resolved to an address."⟩
  if !unique.all policy then
    throw ⟨.addressNotPublic, entry.endpoint.host ++ " is, or resolves to, an address that is not publicly reachable " ++
      "(private, loopback, link-local or reserved)."⟩
  return unique

/-- Every vetted address passed the policy; without one, that of the deny list in force. -/
theorem vetAddresses_ok (vetted : vetAddresses lib entry = .ok addresses) :
    ∃ policy, entry.policy.elim (defaultPolicy lib entry.env) .ok = .ok policy ∧ ∀ address ∈ addresses, policy address = true := by
  simp only [vetAddresses, bind, Except.bind, pure, Except.pure, throw, throwThe, MonadExceptOf.throw] at vetted
  split at vetted
  · cases vetted
  · rename_i policy chosen
    split_ifs at vetted with empty refused
    obtain rfl := Except.ok.inj vetted
    refine ⟨policy, chosen, List.all_eq_true.mp ?_⟩
    simpa using refused

theorem defaultPolicy_ok (chosen : defaultPolicy lib env = .ok policy) :
    ∃ deny, denyNetworksFromEnv env = some deny ∧ policy = isPublicAddress lib deny := by
  unfold defaultPolicy at chosen
  split at chosen
  · rename_i deny read
    exact ⟨deny, read, (Except.ok.inj chosen).symm⟩
  · cases chosen

/-! ### What a public address is -/

/-- A version 6 address that only says how a packet for the version 4 address is carried. -/
inductive Encapsulates (ip : ℕ) : ℕ → Prop where
  | mapped : Encapsulates ip (0xffff * 2 ^ 32 + ip)
  | compatible : Encapsulates ip ip
  | nat64 : Encapsulates ip (0x64ff9b * 2 ^ 96 + ip)

/-- The 6to4 prefix of the version 4 address. -/
def SixToFour (ip carrier : ℕ) : Prop := carrier / 2 ^ 80 = 0x2002 * 2 ^ 32 + ip

def Encapsulating (address : IPAddress) : Prop := address.version = .six ∧ ∃ ip < 2 ^ 32, Encapsulates ip address.toNat

def Outside (deny : List IPNetwork) (address : IPAddress) : Prop := ∀ network ∈ deny, network.contains address = false

structure Routable (lib : Classes) (address : IPAddress) : Prop where
  isGlobal : lib.isGlobal address = true
  unicast : lib.isMulticast address = false
  specified : lib.isUnspecified address = false
  unreserved : lib.isReserved address = false

/-- An address outside the deny list, as is every version 4 address that it carries. It is itself publicly
routable, unless it only says how a packet is carried; then it is the address it carries that must be. -/
structure Public (lib : Classes) (deny : List IPNetwork) (address : IPAddress) : Prop where
  outside : Outside deny address
  carried : ∀ ip, (bound : ip < 2 ^ 32) → address.version = .six → Encapsulates ip address.toNat ∨ SixToFour ip address.toNat →
    Outside deny (.v4 ip bound) ∧ Routable lib (.v4 ip bound)
  itself : ¬ Encapsulating address → Routable lib address ∧ (address.version = .six → lib.isSiteLocal address = false)

theorem outside_iff (deny : List IPNetwork) (address : IPAddress) :
    (deny.any fun network => network.contains address) = false ↔ Outside deny address := by
  rw [List.any_eq_false]
  exact forall₂_congr fun network _ => iff_of_eq (Bool.not_eq_true _)

theorem routable_iff (lib : Classes) (address : IPAddress) : lib.routable address = true ↔ Routable lib address := by
  rw [Classes.routable, Bool.and_eq_true, Bool.not_eq_true', Bool.or_eq_false_iff, Bool.or_eq_false_iff]
  constructor
  · rintro ⟨isGlobal, ⟨unicast, specified⟩, unreserved⟩
    exact ⟨isGlobal, unicast, specified, unreserved⟩
  · rintro ⟨isGlobal, unicast, specified, unreserved⟩
    exact ⟨isGlobal, ⟨unicast, specified⟩, unreserved⟩

theorem isPublicIPv4_iff (lib : Classes) (deny : List IPNetwork) (address : IPAddress) :
    isPublicIPv4 lib deny address = true ↔ Outside deny address ∧ Routable lib address := by
  unfold isPublicIPv4
  split
  · rename_i denied
    refine iff_of_false Bool.false_ne_true fun held => ?_
    rw [(outside_iff deny address).mpr held.1] at denied
    cases denied
  · rename_i outside
    rw [routable_iff]
    exact (and_iff_right ((outside_iff deny address).mp (Bool.eq_false_of_not_eq_true outside))).symm

theorem lowIPv4_eq (n : ℕ) (bound : ip < 2 ^ 32) (low : n % 2 ^ 32 = ip) : lowIPv4 n = .v4 ip bound := by
  subst low
  rfl

/-- The blocks whose addresses encapsulate, by what comes before their last 32 bits. -/
def carrierBlocks : List ℕ := [0xffff, 0x64ff9b * 2 ^ 64, 0]

theorem encapsulates_iff (bound : ip < 2 ^ 32) (n : ℕ) : Encapsulates ip n ↔ n / 2 ^ 32 ∈ carrierBlocks ∧ n % 2 ^ 32 = ip := by
  simp only [carrierBlocks, List.mem_cons, List.not_mem_nil, or_false]
  constructor
  · rintro (_ | _ | _) <;> omega
  · rintro ⟨mapped | nat64 | compatible, rfl⟩
    · have whole : n = 0xffff * 2 ^ 32 + n % 2 ^ 32 := by omega
      generalize n % 2 ^ 32 = ip at whole
      exact whole ▸ .mapped
    · have whole : n = 0x64ff9b * 2 ^ 96 + n % 2 ^ 32 := by omega
      generalize n % 2 ^ 32 = ip at whole
      exact whole ▸ .nat64
    · have whole : n % 2 ^ 32 = n := by omega
      rw [whole]
      exact .compatible

theorem carriedIPv4_eq (six : address.version = .six) :
    carriedIPv4 address = if address.toNat / 2 ^ 32 ∈ carrierBlocks then some (lowIPv4 address.toNat) else none := by
  have nat64 : NAT64.contains address = decide (address.toNat / 2 ^ 32 = 0x64ff9b * 2 ^ 64) := by
    rw [IPNetwork.contains, six]
    rfl
  have compatible : IPV4_COMPATIBLE.contains address = decide (address.toNat / 2 ^ 32 = 0) := by
    rw [IPNetwork.contains, six]
    rfl
  rw [carriedIPv4, ipv4Mapped, nat64, compatible]
  by_cases mapped : address.toNat / 2 ^ 32 = 0xffff
  · have block : address.toNat / 2 ^ 32 ∈ carrierBlocks := by
      rw [mapped]
      decide
    rw [if_pos mapped, if_pos block]
    rfl
  · rw [if_neg mapped]
    simp only [carrierBlocks, List.mem_cons, mapped, false_or, List.not_mem_nil, or_false, Bool.or_eq_true, decide_eq_true_eq]
    rfl

/-- The carried address is the one that is encapsulated. -/
theorem carriedIPv4_eq_some (six : address.version = .six) :
    carriedIPv4 address = some carried ↔ ∃ ip, ∃ bound : ip < 2 ^ 32, carried = .v4 ip bound ∧ Encapsulates ip address.toNat := by
  have low : address.toNat % 2 ^ 32 < 2 ^ 32 := Nat.mod_lt _ (by decide)
  rw [carriedIPv4_eq six]
  constructor
  · intro found
    split at found
    · rename_i block
      exact ⟨_, low, (Option.some.inj found).symm, (encapsulates_iff low _).mpr ⟨block, rfl⟩⟩
    · cases found
  · rintro ⟨ip, bound, rfl, encapsulates⟩
    obtain ⟨block, rfl⟩ := (encapsulates_iff bound _).mp encapsulates
    exact if_pos block

theorem carriedIPv4_eq_none (six : address.version = .six) : carriedIPv4 address = none ↔ ¬ Encapsulating address := by
  constructor
  · rintro none ⟨-, ip, bound, encapsulates⟩
    have found := (carriedIPv4_eq_some six).mpr ⟨ip, bound, rfl, encapsulates⟩
    cases none.symm.trans found
  · intro other
    by_contra some_carried
    obtain ⟨carried, found⟩ := Option.ne_none_iff_exists'.mp some_carried
    obtain ⟨ip, bound, -, encapsulates⟩ := (carriedIPv4_eq_some six).mp found
    exact other ⟨six, ip, bound, encapsulates⟩

theorem sixtofour_eq_some : sixtofour address = some carried ↔ ∃ ip, ∃ bound : ip < 2 ^ 32, carried = .v4 ip bound ∧ SixToFour ip address.toNat := by
  have low : address.toNat / 2 ^ 80 % 2 ^ 32 < 2 ^ 32 := Nat.mod_lt _ (by decide)
  have shifts : address.toNat / 2 ^ 112 = address.toNat / 2 ^ 80 / 2 ^ 32 := by rw [Nat.div_div_eq_div_mul]; rfl
  rw [sixtofour, shifts]
  constructor
  · intro found
    split at found
    · exact ⟨_, low, (Option.some.inj found).symm, by rw [SixToFour]; omega⟩
    · cases found
  · rintro ⟨ip, bound, rfl, prefix_⟩
    rw [SixToFour] at prefix_
    rw [if_pos (by omega), lowIPv4_eq _ bound (by omega)]

/-- An address that encapsulates carries nothing else. -/
theorem carried_unique (bound : ip < 2 ^ 32) (encapsulates : Encapsulates ip n) (bound' : ip' < 2 ^ 32)
    (other : Encapsulates ip' n ∨ SixToFour ip' n) : ip' = ip := by
  obtain ⟨block, low⟩ := (encapsulates_iff bound n).mp encapsulates
  rcases other with encapsulates' | prefix_
  · exact ((encapsulates_iff bound' n).mp encapsulates').2.symm.trans low
  · have shifts : n / 2 ^ 80 = n / 2 ^ 32 / 2 ^ 48 := by
      rw [Nat.div_div_eq_div_mul]
      rfl
    rw [SixToFour, shifts] at prefix_
    simp only [carrierBlocks, List.mem_cons, List.not_mem_nil, or_false] at block
    rcases block with mapped | nat64 | compatible
    all_goals omega

/-- What the policy asks of a version 6 address that carries no other. -/
theorem public_itself (plain : ¬ Encapsulating address) (six : address.version = .six) (outside : Outside deny address) :
    (if (sixtofour address).any fun carried => !isPublicIPv4 lib deny carried then false
      else if lib.isSiteLocal address then false else lib.routable address) = true ↔ Public lib deny address := by
  have unencapsulated (ip : ℕ) (bound : ip < 2 ^ 32) : ¬ Encapsulates ip address.toNat := fun encapsulates => plain ⟨six, ip, bound, encapsulates⟩
  constructor
  · intro passed
    split_ifs at passed with refused siteLocal
    refine ⟨outside, fun ip bound _ carries => ?_, fun _ => ⟨(routable_iff lib address).mp passed, fun _ => Bool.eq_false_of_not_eq_true siteLocal⟩⟩
    have prefix_ := carries.resolve_left (unencapsulated ip bound)
    rw [sixtofour_eq_some.mpr ⟨ip, bound, rfl, prefix_⟩] at refused
    exact (isPublicIPv4_iff lib deny _).mp (by simpa using refused)
  · intro held
    obtain ⟨routable, siteLocal⟩ := held.itself plain
    have accepted : ((sixtofour address).any fun carried => !isPublicIPv4 lib deny carried) = false := by
      cases found : sixtofour address with
      | none => rfl
      | some carried =>
        obtain ⟨ip, bound, rfl, prefix_⟩ := sixtofour_eq_some.mp found
        rw [Option.any_some, (isPublicIPv4_iff lib deny _).mpr (held.carried ip bound six (.inr prefix_))]
        rfl
    rw [accepted, siteLocal six, if_neg Bool.false_ne_true, if_neg Bool.false_ne_true]
    exact (routable_iff lib address).mpr routable

/-- The policy accepts the public addresses, and no others. -/
theorem isPublicAddress_iff (lib : Classes) (deny : List IPNetwork) (address : IPAddress) :
    isPublicAddress lib deny address = true ↔ Public lib deny address := by
  unfold isPublicAddress
  split
  · rename_i denied
    refine iff_of_false Bool.false_ne_true fun held => ?_
    rw [(outside_iff deny address).mpr held.outside] at denied
    cases denied
  · rename_i undenied
    have outside := (outside_iff deny address).mp (Bool.eq_false_of_not_eq_true undenied)
    split
    · rename_i four
      have other : address.version ≠ .six := by rw [four]; decide
      rw [routable_iff]
      constructor
      · exact fun routable => ⟨outside, fun _ _ six => absurd six other, fun _ => ⟨routable, fun six => absurd six other⟩⟩
      · exact fun held => (held.itself fun encapsulating => other encapsulating.1).1
    · rename_i six
      split
      · rename_i carried carries
        obtain ⟨ip, bound, rfl, encapsulates⟩ := (carriedIPv4_eq_some six).mp carries
        rw [isPublicIPv4_iff]
        constructor
        · refine fun accepted => ⟨outside, fun ip' bound' _ carries' => ?_, fun plain => absurd ⟨six, ip, bound, encapsulates⟩ plain⟩
          obtain rfl := carried_unique bound encapsulates bound' carries'
          exact accepted
        · exact fun held => held.carried ip bound six (.inl encapsulates)
      · rename_i none
        exact public_itself ((carriedIPv4_eq_none six).mp none) six outside

end Retina.Polled
