import RetinaServer.Library.Runs
import RetinaServer.Polled.AddressPolicy

/-! Sessions with radars: each is entered by vetting, its requests go out to the addresses that were vetted
for it, and the one that answered is kept as text. -/
namespace Retina.Polled
open Numerals IpText Runs

/-- The part of `httpx` that the client follows up: what came of a request. `body` is what `_read` made of
the response. -/
inductive Outcome where
  | unconnected (tlsFailure : Bool)
  | answered (body : Except EndpointRefused (List UInt8))
deriving DecidableEq

/-- What ends a GET from outside: its deadline, or an error of `httpx` other than a failed connection. -/
inductive Interruption where
  | deadline
  | remoteProtocolError
  | timeoutException
  | httpError

structure Request where
  scheme : String
  host : Text
  port : ℕ
  path : Text
  hostHeader : Text
  sniHostname : Option String
  auth : Option (String × String)
deriving DecidableEq

/-! ### The client -/

structure PinnedClient where
  endpoint : PolledEndpoint
  addresses : List IPAddress
  address : Option Text := none

/-- The address as the host of a URL. -/
def urlHost (address : IPAddress) : Text :=
  match address.version with
  | .six => ['['] ++ address.str ++ [']']
  | .four => address.str

def hostHeader (endpoint : PolledEndpoint) : Text :=
  let host := if ':' ∈ endpoint.host.toList then ['['] ++ endpoint.host.toList ++ [']'] else endpoint.host.toList
  if schemePort endpoint.scheme.toList = some endpoint.port then host else host ++ [':'] ++ write 10 endpoint.port

def buildRequest (endpoint : PolledEndpoint) (address : IPAddress) (path : Text) : Request where
  scheme := endpoint.scheme
  host := urlHost address
  port := endpoint.port
  path
  hostHeader := hostHeader endpoint
  sniHostname := if endpoint.scheme = "https" then some endpoint.host else none
  auth := endpoint.authUser.map fun user => (user, endpoint.authSecret.getD "")

/-- The addresses that a GET tries, in order; the text of the one that answered is read back. -/
def PinnedClient.candidates (client : PinnedClient) : List IPAddress :=
  match client.address with
  | none => client.addresses
  | some text => (ipAddress text).toList

def PinnedClient.refused (client : PinnedClient) (code : Refusal) (reason : String) : EndpointRefused :=
  ⟨code, client.endpoint.host ++ " " ++ reason⟩

def PinnedClient.interrupted (client : PinnedClient) : Interruption → EndpointRefused
  | .deadline => client.refused .timedOut "did not answer in time."
  | .remoteProtocolError => client.refused .badResponse "did not answer with valid HTTP."
  | .timeoutException => client.refused .timedOut "did not answer in time."
  | .httpError => client.refused .unreachable "dropped the connection."

/-! ### GETs -/

/-- Where a GET stands: before its next request, waiting for what comes of one, or at its end. -/
inductive Phase where
  | next (rest : List IPAddress)
  | waiting (address : IPAddress) (rest : List IPAddress)
  | finished (result : Except EndpointRefused (List UInt8))
deriving DecidableEq

structure Get where
  path : Text
  phase : Phase
deriving DecidableEq

/-- The addresses that a GET may still send a request to, or wait for. -/
def Phase.pending : Phase → List IPAddress
  | .next rest => rest
  | .waiting address rest => address :: rest
  | .finished _ => []

structure Session where
  entry : Entry
  client : PinnedClient
  gets : List Get := []
  requests : List Request := []

inductive SessionEvent where
  | get (path : Text)
  | send (get : ℕ)
  | outcome (get : ℕ) (outcome : Outcome)
  | interruption (get : ℕ) (interruption : Interruption)

def Session.setPhase (session : Session) (i : ℕ) (phase : Phase) : Session :=
  { session with gets := session.gets.modify i fun get => { get with phase } }

/-- The next request of a GET; with no address left the endpoint is unreachable. -/
def Session.send (session : Session) (i : ℕ) : Session :=
  match session.gets[i]? with
  | some ⟨path, .next (address :: rest)⟩ =>
      { session.setPhase i (.waiting address rest) with
        requests := session.requests ++ [buildRequest session.client.endpoint address path] }
  | some ⟨_, .next []⟩ => session.setPhase i (.finished (.error (session.client.refused .unreachable "did not accept a connection.")))
  | _ => session

def Session.outcome (session : Session) (i : ℕ) (outcome : Outcome) : Session :=
  match session.gets[i]?.map Get.phase with
  | some (.waiting address rest) =>
      match outcome with
      | .unconnected true =>
          session.setPhase i (.finished (.error (session.client.refused .tlsFailed
            "did not complete a TLS handshake with a certificate valid for that name.")))
      | .unconnected false => session.setPhase i (.next rest)
      | .answered body => { session.setPhase i (.finished body) with client := { session.client with address := some address.str } }
  | _ => session

def Session.interruption (session : Session) (i : ℕ) (interruption : Interruption) : Session :=
  match session.gets[i]?.map Get.phase with
  | some (.finished _) => session
  | _ => session.setPhase i (.finished (.error (session.client.interrupted interruption)))

def sessionStep (session : Session) : SessionEvent → Session
  | .get path => { session with gets := session.gets ++ [⟨path, .next session.client.candidates⟩] }
  | .send i => session.send i
  | .outcome i outcome => session.outcome i outcome
  | .interruption i interruption => session.interruption i interruption

/-! ### Sessions -/

/-- `pinned_client` is entered, or something happens in a session it yielded. -/
inductive ClientEvent where
  | enter (entry : Entry)
  | within (session : ℕ) (event : SessionEvent)

def clientStep (lib : Classes) (sessions : List Session) : ClientEvent → List Session
  | .enter entry =>
      match vetAddresses lib entry with
      | .ok addresses => sessions ++ [{ entry, client := { endpoint := entry.endpoint, addresses } }]
      | .error _ => sessions
  | .within i event => sessions.modify i fun session => sessionStep session event

/-- What a session was vetted for, and that all it has sent or may send goes there. -/
structure Session.Pinned (lib : Classes) (session : Session) : Prop where
  vetted : vetAddresses lib session.entry = .ok session.client.addresses
  answered : ∀ text ∈ session.client.address, ∃ address ∈ session.client.addresses, text = address.str
  pending : ∀ get ∈ session.gets, ∀ address ∈ get.phase.pending, address ∈ session.client.addresses
  sent : ∀ request ∈ session.requests, ∃ address ∈ session.client.addresses, request.host = urlHost address

theorem mem_modify {f : α → α} (listed : a ∈ List.modify l i f) : a ∈ l ∨ ∃ b, l[i]? = some b ∧ a = f b := by
  obtain ⟨j, found⟩ := List.mem_iff_getElem?.mp listed
  rw [List.getElem?_modify] at found
  obtain ⟨b, at_, here⟩ := Option.map_eq_some_iff.mp found
  by_cases same : i = j
  · rw [if_pos same] at here
    exact .inr ⟨b, same ▸ at_, here.symm⟩
  · rw [if_neg same] at here
    exact .inl (List.mem_of_getElem? (here ▸ at_))

/-- A GET begins with vetted addresses: the text that is kept is read back as the address that answered. -/
theorem Session.Pinned.candidates (pinned : Session.Pinned lib session) :
    ∀ address ∈ session.client.candidates, address ∈ session.client.addresses := by
  intro address listed
  unfold PinnedClient.candidates at listed
  split at listed
  · exact listed
  · rename_i text kept
    obtain ⟨answered, member, rfl⟩ := pinned.answered text kept
    rw [ipAddress_str, Option.mem_toList] at listed
    obtain rfl := Option.some.inj listed
    exact member

/-- A GET moves to a phase in which it waits for nothing new. -/
theorem Session.Pinned.setPhase (pinned : Session.Pinned lib session) (i : ℕ) (phase : Phase)
    (subset : ∀ address ∈ phase.pending, address ∈ session.client.addresses) : Session.Pinned lib (session.setPhase i phase) where
  vetted := pinned.vetted
  answered := pinned.answered
  sent := pinned.sent
  pending := by
    intro get listed
    rcases mem_modify listed with kept | ⟨before, -, rfl⟩
    · exact pinned.pending get kept
    · exact subset

theorem Session.Pinned.finish (pinned : Session.Pinned lib session) (i : ℕ) (result : Except EndpointRefused (List UInt8)) :
    Session.Pinned lib (session.setPhase i (.finished result)) :=
  pinned.setPhase i _ fun _ listed => absurd listed (List.not_mem_nil)

theorem Session.Pinned.send (pinned : Session.Pinned lib session) (i : ℕ) : Session.Pinned lib (session.send i) := by
  unfold Session.send
  split
  · rename_i path address rest found
    have pending := pinned.pending _ (List.mem_of_getElem? found)
    have moved := pinned.setPhase i (.waiting address rest) pending
    refine ⟨moved.vetted, moved.answered, moved.pending, fun request listed => ?_⟩
    rcases List.mem_append.mp listed with before | last
    · exact pinned.sent request before
    · obtain rfl := List.mem_singleton.mp last
      exact ⟨address, pending address List.mem_cons_self, rfl⟩
  · exact pinned.finish i _
  · exact pinned

theorem Session.Pinned.outcome (pinned : Session.Pinned lib session) (i : ℕ) (outcome : Outcome) :
    Session.Pinned lib (session.outcome i outcome) := by
  unfold Session.outcome
  split
  · rename_i address rest found
    obtain ⟨get, listed, phase⟩ := Option.map_eq_some_iff.mp found
    have pending := pinned.pending get (List.mem_of_getElem? listed)
    rw [phase] at pending
    split
    · exact pinned.finish i _
    · exact pinned.setPhase i _ fun other later => pending other (List.mem_cons_of_mem _ later)
    · rename_i body
      have moved := pinned.finish i body
      refine ⟨moved.vetted, fun text kept => ?_, moved.pending, moved.sent⟩
      exact ⟨address, pending address List.mem_cons_self, (Option.some.inj kept).symm⟩
  · exact pinned

theorem Session.Pinned.interruption (pinned : Session.Pinned lib session) (i : ℕ) (interruption : Interruption) :
    Session.Pinned lib (session.interruption i interruption) := by
  unfold Session.interruption
  split
  · exact pinned
  · exact pinned.finish i _

/-- Whatever happens in a session, it keeps to what it was vetted for. -/
theorem sessionStep_pinned (pinned : Session.Pinned lib session) (event : SessionEvent) :
    Session.Pinned lib (sessionStep session event) := by
  cases event with
  | get path =>
    refine ⟨pinned.vetted, pinned.answered, fun get listed => ?_, pinned.sent⟩
    rcases List.mem_append.mp listed with before | last
    · exact pinned.pending get before
    · obtain rfl := List.mem_singleton.mp last
      exact pinned.candidates
  | send i => exact pinned.send i
  | outcome i outcome => exact pinned.outcome i outcome
  | interruption i interruption => exact pinned.interruption i interruption

theorem clientStep_pinned (lib : Classes) (sessions : List Session) (event : ClientEvent)
    (pinned : ∀ session ∈ sessions, Session.Pinned lib session) : ∀ session ∈ clientStep lib sessions event, Session.Pinned lib session := by
  cases event with
  | enter entry =>
    rw [clientStep]
    split
    · rename_i addresses vetted
      intro session listed
      rcases List.mem_append.mp listed with before | last
      · exact pinned session before
      · obtain rfl := List.mem_singleton.mp last
        exact ⟨vetted, fun _ kept => absurd kept (Option.not_mem_none _), fun _ listed => absurd listed List.not_mem_nil,
          fun _ listed => absurd listed List.not_mem_nil⟩
    · exact pinned
  | within i event =>
    intro session listed
    rcases mem_modify listed with kept | ⟨before, at_, rfl⟩
    · exact pinned session kept
    · exact sessionStep_pinned (pinned before (List.mem_of_getElem? at_)) event

theorem pinned_run (lib : Classes) (events : List ClientEvent) :
    ∀ session ∈ run (clientStep lib) [] events, Session.Pinned lib session := by
  refine invariant_always (I := fun sessions => ∀ session ∈ sessions, Session.Pinned lib session) ?_ ?_ events
  · exact fun sessions event pinned => clientStep_pinned lib sessions event pinned
  · exact fun _ listed => absurd listed List.not_mem_nil

/-- In every run of any number of sessions, a request goes to an address that was vetted in its session; and
an address is vetted only if it is public under the deny list of that moment. -/
theorem requests_go_to_public_addresses (lib : Classes) (events : List ClientEvent) (session : Session)
    (listed : session ∈ run (clientStep lib) [] events) (byDefault : session.entry.policy = none) :
    ∃ deny addresses, denyNetworksFromEnv session.entry.env = some deny ∧ vetAddresses lib session.entry = .ok addresses ∧
      (∀ request ∈ session.requests, ∃ address ∈ addresses, request.host = urlHost address) ∧
      ∀ address ∈ addresses, Public lib deny address := by
  have pinned := pinned_run lib events session listed
  obtain ⟨policy, chosen, passed⟩ := vetAddresses_ok pinned.vetted
  rw [byDefault] at chosen
  obtain ⟨deny, read, rfl⟩ := defaultPolicy_ok chosen
  exact ⟨deny, _, read, pinned.vetted, pinned.sent, fun address member => (isPublicAddress_iff lib deny address).mp (passed address member)⟩

/-- The classes of 8.8.8.8 and of 64:ff9b::808:808: both are global, and the second is in the reserved
block ::/8. -/
def carrierClasses : Classes where
  isGlobal _ := true
  isMulticast _ := false
  isUnspecified _ := false
  isReserved address := decide (address.version = .six) && decide (address.toNat / 2 ^ 120 = 0)
  isSiteLocal _ := false

def literalEntry (host : String) : Entry where
  endpoint := { scheme := "http", host, port := 3000, endpointKey := host ++ ":3000", authUser := none, authSecret := none, raw := host }
  policy := none
  env := none
  answer := none

/-- One session, and the first request of one GET. -/
def firstRequest (entry : Entry) : List ClientEvent :=
  [.enter entry, .within 0 (.get "/api/config".toList), .within 0 (.send 0)]

theorem run_firstRequest (vetted : vetAddresses lib entry = .ok (address :: rest)) :
    ∃ session ∈ run (clientStep lib) [] (firstRequest entry), session.entry = entry ∧
      session.requests = [buildRequest entry.endpoint address "/api/config".toList] := by
  have entered : clientStep lib [] (.enter entry) = [{ entry, client := { endpoint := entry.endpoint, addresses := address :: rest } }] := by
    rw [clientStep, vetted]
    rfl
  rw [firstRequest, run_cons, entered]
  exact ⟨_, List.mem_singleton.mpr rfl, rfl, rfl⟩

theorem requests_go_to_public_addresses_once :
    ∃ session ∈ run (clientStep carrierClasses) [] (firstRequest (literalEntry "8.8.8.8")), session.requests ≠ [] ∧
      ∃ deny addresses, denyNetworksFromEnv session.entry.env = some deny ∧ vetAddresses carrierClasses session.entry = .ok addresses ∧
        (∀ request ∈ session.requests, ∃ address ∈ addresses, request.host = urlHost address) ∧
        ∀ address ∈ addresses, Public carrierClasses deny address := by
  have vetted : vetAddresses carrierClasses (literalEntry "8.8.8.8") = .ok [.v4 0x08080808 (by decide)] := by decide +kernel
  obtain ⟨session, listed, entry, requests⟩ := run_firstRequest vetted
  refine ⟨session, listed, by simp [requests], requests_go_to_public_addresses carrierClasses _ session listed ?_⟩
  rw [entry]
  rfl

/-- A NAT64 address of a public destination is itself reserved, and is sent a request. -/
theorem reserved_carrier_is_sent_a_request :
    ∃ session ∈ run (clientStep carrierClasses) [] (firstRequest (literalEntry "64:ff9b::808:808")), session.entry.policy = none ∧
      ∃ request ∈ session.requests, ∃ address, request.host = urlHost address ∧ request.host = "[64:ff9b::808:808]".toList ∧
        carrierClasses.isReserved address = true := by
  let address : IPAddress := .v6 { ip := 0x64ff9b * 2 ^ 96 + 0x08080808 } (by decide) (by simp)
  have vetted : vetAddresses carrierClasses (literalEntry "64:ff9b::808:808") = .ok [address] := by decide +kernel
  obtain ⟨session, listed, entry, requests⟩ := run_firstRequest vetted
  refine ⟨session, listed, by rw [entry]; rfl, _, requests ▸ List.mem_singleton_self _, address, rfl, ?_, ?_⟩
  · decide +kernel
  · decide +kernel

end Retina.Polled
