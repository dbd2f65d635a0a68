import RetinaServer.Polled.EndpointKey

/-! The key of an endpoint: read again under its scheme it is the same endpoint, and the spellings of one box
share it, but for an IPv4 address that is spelt as IPv6. -/
namespace Retina.Polled
open Numerals IpText

/-! ### What is accepted -/

theorem splitEndpoint_http (ok : splitEndpoint lib raw = .ok pieces) : IsHttp pieces.scheme := by
  simp only [splitEndpoint, bind, Except.bind, pure, Except.pure, throw, throwThe, MonadExceptOf.throw] at ok
  split at ok
  · cases ok
  · split at ok
    · cases ok
    · split at ok
      · rename_i parts _
        by_cases known : (schemePort parts.scheme).isNone = true
        · rw [if_pos known] at ok
          cases ok
        · rw [if_neg known] at ok
          have http : IsHttp parts.scheme := (schemePort_isSome_iff _).mp (Option.isNone_eq_false_iff.mp (Bool.eq_false_of_not_eq_true known))
          cases hostport : splitHostport (rpartition '@' parts.netloc).2.2 with
          | error refused =>
            rw [hostport] at ok
            split_ifs at ok
          | ok cut =>
            rw [hostport] at ok
            simp only at ok
            split at ok
            · cases ok
            · split at ok
              · cases ok
              · split at ok
                · cases ok
                · split at ok
                  · cases ok
                  · obtain rfl := Except.ok.inj ok
                    exact http
      · cases ok

/-- How an accepted input was read. -/
structure Reading (lib : TextLibrary) (raw : Text) (pieces : Pieces) (endpoint : PolledEndpoint) (host keyHost : Text) : Prop where
  split : splitEndpoint lib raw = .ok pieces
  port : portOf pieces.port pieces.scheme pieces.defaultedScheme = .ok endpoint.port
  named : hostOf lib pieces.host pieces.bracketed = .ok (host, keyHost)
  schemeText : endpoint.scheme = String.ofList pieces.scheme
  hostText : endpoint.host = String.ofList host
  keyText : endpoint.endpointKey = String.ofList (keyHost ++ [':'] ++ write 10 endpoint.port)

theorem parseEndpoint_ok (ok : parseEndpoint lib raw = .ok endpoint) :
    ∃ pieces host keyHost, Reading lib raw pieces endpoint host keyHost := by
  simp only [parseEndpoint, bind, Except.bind, pure, Except.pure] at ok
  split at ok
  · cases ok
  · rename_i pieces split
    split at ok
    · cases ok
    · rename_i port readable
      split at ok
      · cases ok
      · rename_i hosts named
        obtain rfl := Except.ok.inj ok
        exact ⟨pieces, hosts.1, hosts.2, split, readable, named, rfl, rfl, rfl⟩

theorem Reading.of_pieces (split : splitEndpoint lib raw = .ok pieces) (port : portOf pieces.port pieces.scheme pieces.defaultedScheme = .ok n)
    (named : hostOf lib pieces.host pieces.bracketed = .ok (host, keyHost)) :
    ∃ endpoint, parseEndpoint lib raw = .ok endpoint ∧ endpoint.port = n ∧ Reading lib raw pieces endpoint host keyHost := by
  have accepted : ∃ endpoint, parseEndpoint lib raw = .ok endpoint := by
    simp only [parseEndpoint, split, port, named, bind, Except.bind, pure, Except.pure]
    exact ⟨_, rfl⟩
  obtain ⟨endpoint, ok⟩ := accepted
  obtain ⟨pieces', host', keyHost', reading⟩ := parseEndpoint_ok ok
  obtain rfl : pieces = pieces' := Except.ok.inj (split.symm.trans reading.split)
  obtain ⟨rfl, rfl⟩ := Prod.mk.inj (Except.ok.inj (named.symm.trans reading.named))
  exact ⟨endpoint, ok, Except.ok.inj (reading.port.symm.trans port), reading⟩

/-- The pieces that the key is cut into, under its scheme. -/
def keyPieces (scheme host : Text) (bracketed : Bool) (port : ℕ) : Pieces :=
  { scheme, defaultedScheme := false, userinfo := none, host, bracketed, port := some (write 10 port) }

/-- The key of an endpoint is cut into its host and its port, and they are read as they were. -/
theorem Reading.again (sound : lib.Sound) (reading : Reading lib raw pieces endpoint host keyHost) :
    splitEndpoint lib (pieces.scheme ++ schemeMark ++ (keyHost ++ [':'] ++ write 10 endpoint.port)) =
        .ok (keyPieces pieces.scheme host pieces.bracketed endpoint.port) ∧
      hostOf lib host pieces.bracketed = .ok (host, keyHost) := by
  have http := splitEndpoint_http reading.split
  have range := portOf_ok http reading.port
  have digits := length_decimal_le range.2
  rcases hostOf_ok sound.names reading.named with ⟨brackets, ip, bound, -, hosts, keys⟩ |
    ⟨plain, encoded, -, hosts, keys, name, numeric⟩
  · rw [brackets, hosts, keys]
    refine ⟨splitEndpoint_origin sound http (authority_bracketed bound _) ?_ (splitHostport_bracketed bound _) ?_, hostOf_printIPv6 lib bound⟩
    · have address := length_printIPv6 bound
      simp only [List.length_append, List.length_singleton]
      omega
    · intro empty
      have address := parseIPv6Int_printIPv6 bound
      rw [empty] at address
      cases address
  · rw [plain, hosts, keys]
    refine ⟨splitEndpoint_origin sound http (authority_name name _) ?_ (splitHostport_name name _) name.nonempty, hostOf_name name numeric⟩
    have short := name.short
    simp only [List.length_append, List.length_singleton]
    omega

/-! ### Boxes -/

/-- What a host is the address of. -/
inductive Box where
  | ipv4 (ip : ℕ)
  | ipv6 (ip : ℕ)
  | named (text : Text)
deriving DecidableEq

/-- An IPv4-mapped IPv6 address is that of a box on IPv4. -/
def Box.ofIPv6 (ip : ℕ) : Box := if ip / 2 ^ 32 = 0xffff then .ipv4 (ip % 2 ^ 32) else .ipv6 ip

def Box.ofName (name : Text) : Box := (parseIPv4 name).elim (.named name) .ipv4

/-- The box that is meant by the host of an input. -/
def boxOf (lib : TextLibrary) (pieces : Pieces) : Option Box :=
  if pieces.bracketed then (parseIPv6 pieces.host).map fun address => Box.ofIPv6 address.ip
  else (lib.idnaEncode pieces.host).map fun encoded => Box.ofName (removeDot encoded)

theorem Box.ofIPv6_inj (same : Box.ofIPv6 ip = Box.ofIPv6 ip') : ip = ip' := by
  unfold Box.ofIPv6 at same
  split_ifs at same with mapped mapped'
  · have low := Box.ipv4.inj same
    omega
  · exact Box.ipv6.inj same

theorem Box.ofName_inj (same : Box.ofName name = Box.ofName name') : name = name' := by
  unfold Box.ofName at same
  cases parsed : parseIPv4 name with
  | none =>
    cases parsed' : parseIPv4 name' with
    | none =>
      rw [parsed, parsed'] at same
      exact Box.named.inj same
    | some ip' =>
      rw [parsed, parsed'] at same
      cases same
  | some ip =>
    cases parsed' : parseIPv4 name' with
    | none =>
      rw [parsed, parsed'] at same
      cases same
    | some ip' =>
      rw [parsed, parsed'] at same
      obtain rfl := Box.ipv4.inj same
      exact (printIPv4_of_parseIPv4 parsed).1.symm.trans (printIPv4_of_parseIPv4 parsed').1

/-- The key begins with a bracket only when the host was typed in brackets. -/
theorem Reading.bracketed_iff (sound : lib.Sound) (reading : Reading lib raw pieces endpoint host keyHost) :
    pieces.bracketed = true ↔ '[' ∈ keyHost := by
  rcases hostOf_ok sound.names reading.named with ⟨brackets, ip, bound, -, hosts, keys⟩ | ⟨plain, encoded, -, hosts, keys, name, -⟩
  · rw [keys]
    exact iff_of_true brackets (by simp)
  · rw [keys]
    exact iff_of_false (by rw [plain]; decide) (name.absent (by decide))

/-- Two spellings of one box, both in brackets or both not, have the same host. -/
theorem Reading.same_host (sound : lib.Sound) (reading : Reading lib raw pieces endpoint host keyHost)
    (reading' : Reading lib raw' pieces' endpoint' host' keyHost') (box : boxOf lib pieces = boxOf lib pieces')
    (brackets : pieces.bracketed = pieces'.bracketed) : keyHost = keyHost' := by
  unfold boxOf at box
  rcases hostOf_ok sound.names reading.named with ⟨yes, ip, -, parsed, -, keys⟩ | ⟨no, encoded, is_encoded, -, keys, -⟩
  · rcases hostOf_ok sound.names reading'.named with ⟨yes', ip', -, parsed', -, keys'⟩ | ⟨no', -⟩
    · rw [if_pos yes, if_pos yes', parsed, parsed'] at box
      have same : ip = ip' := Box.ofIPv6_inj (Option.some.inj box)
      rw [keys, keys', same]
    · cases (yes.symm.trans brackets).trans no'
  · rcases hostOf_ok sound.names reading'.named with ⟨yes', -⟩ | ⟨no', encoded', is_encoded', -, keys', -⟩
    · cases (no.symm.trans brackets).trans yes'
    · rw [no, no', if_neg Bool.false_ne_true, if_neg Bool.false_ne_true, is_encoded, is_encoded'] at box
      rw [keys, keys']
      exact Box.ofName_inj (Option.some.inj box)

/-- An accepted input is read again from its key as the same endpoint. Of two accepted spellings of one box
and port the keys are the same exactly when both, or neither, write the address as an IPv6 literal. -/
theorem endpointKey_spellings (sound : lib.Sound) :
    (∀ raw endpoint, parseEndpoint lib raw = .ok endpoint →
      ∃ again, parseEndpoint lib (endpoint.scheme.toList ++ schemeMark ++ endpoint.endpointKey.toList) = .ok again ∧
        again.scheme = endpoint.scheme ∧ again.host = endpoint.host ∧ again.port = endpoint.port ∧ again.endpointKey = endpoint.endpointKey) ∧
      ∀ raw raw' pieces pieces' endpoint endpoint', splitEndpoint lib raw = .ok pieces → splitEndpoint lib raw' = .ok pieces' →
        parseEndpoint lib raw = .ok endpoint → parseEndpoint lib raw' = .ok endpoint' →
        boxOf lib pieces = boxOf lib pieces' → endpoint.port = endpoint'.port →
          (endpoint.endpointKey = endpoint'.endpointKey ↔ pieces.bracketed = pieces'.bracketed) := by
  constructor
  · intro raw endpoint ok
    obtain ⟨pieces, host, keyHost, reading⟩ := parseEndpoint_ok ok
    obtain ⟨split, named⟩ := reading.again sound
    have range := portOf_ok (splitEndpoint_http reading.split) reading.port
    obtain ⟨again, ok', port, reading'⟩ := Reading.of_pieces split (portOf_write range) named
    refine ⟨again, ?_, ?_, ?_, port, ?_⟩
    · rw [reading.schemeText, reading.keyText, String.toList_ofList, String.toList_ofList, ok']
    · rw [reading'.schemeText, reading.schemeText, keyPieces]
    · rw [reading'.hostText, reading.hostText]
    · rw [reading'.keyText, reading.keyText, port]
  · intro raw raw' pieces pieces' endpoint endpoint' split split' ok ok' box port
    obtain ⟨read, host, keyHost, reading⟩ := parseEndpoint_ok ok
    obtain ⟨read', host', keyHost', reading'⟩ := parseEndpoint_ok ok'
    obtain rfl : pieces = read := Except.ok.inj (split.symm.trans reading.split)
    obtain rfl : pieces' = read' := Except.ok.inj (split'.symm.trans reading'.split)
    constructor
    · intro same
      rw [reading.keyText, reading'.keyText, port] at same
      have hosts := List.append_cancel_right (List.append_cancel_right (String.ofList_injective same))
      have iff := reading.bracketed_iff sound
      rw [hosts, ← reading'.bracketed_iff sound] at iff
      exact Bool.eq_iff_iff.mpr iff
    · intro brackets
      rw [reading.keyText, reading'.keyText, port, reading.same_host sound reading' box brackets]

/-! ### Plain text -/

/-- An encoder of names that are already in the form `idna.encode` returns. -/
def plainEncode (text : Text) : Option Text :=
  if ((removeDot text).splitOn '.').all (fun label => !label.isEmpty && label.all isNameChar) ∧ text.length ≤ 254 then some text else none

def plainLibrary : TextLibrary where
  isprintable := isPlain
  nfkc := id
  repr := String.ofList
  unquote := id
  idnaEncode := plainEncode

theorem plainEncode_spec (encoded : plainEncode text = some name) :
    name = text ∧ (∀ label ∈ (removeDot text).splitOn '.', label ≠ [] ∧ ∀ c ∈ label, isNameChar c = true) ∧ text.length ≤ 254 := by
  unfold plainEncode at encoded
  split at encoded
  · rename_i valid
    refine ⟨(Option.some.inj encoded).symm, fun label listed => ?_, valid.2⟩
    have held := List.all_eq_true.mp valid.1 label listed
    rw [Bool.and_eq_true, List.all_eq_true] at held
    refine ⟨?_, held.2⟩
    rintro rfl
    cases held.1
  · cases encoded

theorem plainEncode_of_labels (labels : ∀ label ∈ (removeDot text).splitOn '.', label ≠ [] ∧ ∀ c ∈ label, isNameChar c = true)
    (short : text.length ≤ 254) : plainEncode text = some text := by
  refine if_pos ⟨List.all_eq_true.mpr fun label listed => ?_, short⟩
  obtain ⟨nonempty, chars⟩ := labels label listed
  rw [Bool.and_eq_true, List.all_eq_true]
  refine ⟨?_, chars⟩
  cases label with
  | nil => exact absurd rfl nonempty
  | cons c rest => rfl

theorem plainLibrary_sound : plainLibrary.Sound where
  printable := fun _ plain => plain
  names := {
    stable := by
      intro text name encoded
      obtain ⟨rfl, labels, short⟩ := plainEncode_spec encoded
      have undotted : removeDot (removeDot name) = removeDot name := by
        refine if_neg fun dot => ?_
        obtain ⟨front, split⟩ := List.getLast?_eq_some_iff.mp dot
        rw [split, List.splitOn_append_cons_self] at labels
        exact (labels [] (by simp)).1 rfl
      refine plainEncode_of_labels (by rwa [undotted]) ?_
      rw [removeDot]
      split
      · rw [List.length_dropLast]
        omega
      · exact short
    labels := by
      intro text name encoded
      obtain ⟨rfl, labels, -⟩ := plainEncode_spec encoded
      exact labels
    short := by
      intro text name encoded
      obtain ⟨rfl, -, short⟩ := plainEncode_spec encoded
      exact short }

/-- Two spellings of an IPv6 address, one of them with credentials. -/
theorem endpointKey_spellings_expanded :
    ∃ endpoint endpoint', parseEndpoint plainLibrary "[2001:DB8::A]:8080".toList = .ok endpoint ∧
      parseEndpoint plainLibrary "http://user:secret@[2001:db8:0:0:0:0:0:a]:8080/".toList = .ok endpoint' ∧
      endpoint.endpointKey = endpoint'.endpointKey := by
  have split : splitEndpoint plainLibrary "[2001:DB8::A]:8080".toList =
      .ok ⟨"http".toList, true, none, "2001:DB8::A".toList, true, some "8080".toList⟩ := by decide +kernel
  have split' : splitEndpoint plainLibrary "http://user:secret@[2001:db8:0:0:0:0:0:a]:8080/".toList =
      .ok ⟨"http".toList, false, some "user:secret".toList, "2001:db8:0:0:0:0:0:a".toList, true, some "8080".toList⟩ := by decide +kernel
  have named : hostOf plainLibrary "2001:DB8::A".toList true = .ok ("2001:db8::a".toList, "[2001:db8::a]".toList) := by decide +kernel
  have named' : hostOf plainLibrary "2001:db8:0:0:0:0:0:a".toList true = .ok ("2001:db8::a".toList, "[2001:db8::a]".toList) := by
    decide +kernel
  obtain ⟨endpoint, ok, port, -⟩ := Reading.of_pieces split (n := 8080) (by decide +kernel) named
  obtain ⟨endpoint', ok', port', -⟩ := Reading.of_pieces split' (n := 8080) (by decide +kernel) named'
  exact ⟨endpoint, endpoint', ok, ok', ((endpointKey_spellings plainLibrary_sound).2 _ _ _ _ _ _ split split' ok ok'
    (by decide +kernel) (port.trans port'.symm)).mpr rfl⟩

/-- An IPv4-mapped IPv6 address and the address it maps are one box with two keys. -/
theorem mapped_address_has_its_own_key :
    plainLibrary.Sound ∧ ∃ pieces pieces' endpoint endpoint',
      splitEndpoint plainLibrary "[::ffff:192.0.2.10]".toList = .ok pieces ∧ splitEndpoint plainLibrary "192.0.2.10".toList = .ok pieces' ∧
      parseEndpoint plainLibrary "[::ffff:192.0.2.10]".toList = .ok endpoint ∧ parseEndpoint plainLibrary "192.0.2.10".toList = .ok endpoint' ∧
      boxOf plainLibrary pieces = boxOf plainLibrary pieces' ∧ endpoint.port = endpoint'.port ∧
      endpoint.endpointKey = "[::ffff:c000:20a]:3000" ∧ endpoint'.endpointKey = "192.0.2.10:3000" := by
  have split : splitEndpoint plainLibrary "[::ffff:192.0.2.10]".toList =
      .ok ⟨"http".toList, true, none, "::ffff:192.0.2.10".toList, true, none⟩ := by decide +kernel
  have split' : splitEndpoint plainLibrary "192.0.2.10".toList =
      .ok ⟨"http".toList, true, none, "192.0.2.10".toList, false, none⟩ := by decide +kernel
  have named : hostOf plainLibrary "::ffff:192.0.2.10".toList true = .ok ("::ffff:c000:20a".toList, "[::ffff:c000:20a]".toList) := by
    decide +kernel
  have named' : hostOf plainLibrary "192.0.2.10".toList false = .ok ("192.0.2.10".toList, "192.0.2.10".toList) := by decide +kernel
  obtain ⟨endpoint, ok, port, reading⟩ := Reading.of_pieces split (n := 3000) (by decide +kernel) named
  obtain ⟨endpoint', ok', port', reading'⟩ := Reading.of_pieces split' (n := 3000) (by decide +kernel) named'
  refine ⟨plainLibrary_sound, _, _, endpoint, endpoint', split, split', ok, ok', by decide +kernel, port.trans port'.symm, ?_, ?_⟩
  · rw [reading.keyText, port]
    decide +kernel
  · rw [reading'.keyText, port']
    decide +kernel

end Retina.Polled
