import RetinaServer.Library.IpText
import RetinaServer.Polled.Poller

/-! What an operator types for the address of a radar, and the endpoint that is read from it. Text is a list
of characters here; what depends on the tables of Unicode is a parameter. -/
namespace Retina.Polled
open Numerals IpText

def BLAH2_DEFAULT_PORT : ℕ := 3000

def SCHEME_PORTS : List (Text × ℕ) := [("http".toList, 80), ("https".toList, 443)]

def MAX_RAW_LENGTH : ℕ := 1024

inductive Refusal where
  | invalidEndpoint
  | unsupportedScheme
  | invalidPort
  | pathNotSupported
  | unresolvable
  | addressNotPublic
  | policyUnavailable
  | unreachable
  | tlsFailed
  | timedOut
  | redirected
  | badResponse
  | tooLarge
deriving DecidableEq, Repr

structure EndpointRefused where
  code : Refusal
  message : String
deriving DecidableEq

/-- What parsing asks of the tables of Unicode and of `idna`. -/
structure TextLibrary where
  isprintable : Char → Bool
  nfkc : Text → Text
  repr : Text → String
  unquote : Text → Text
  /-- `idna.encode(text, uts46=True)`; `none` is an `IDNAError`. -/
  idnaEncode : Text → Option Text

/-! ### Strings -/

def isspace (c : Char) : Bool :=
  let n := c.toNat
  decide (9 ≤ n ∧ n ≤ 13) || decide (28 ≤ n ∧ n ≤ 32) || decide (n ∈ [133, 160, 5760, 8232, 8233, 8239, 8287, 12288]) ||
    decide (8192 ≤ n ∧ n ≤ 8202)

def strip (text : Text) : Text := ((text.dropWhile isspace).reverse.dropWhile isspace).reverse

def isascii (text : Text) : Bool := text.all fun c => decide (c.toNat < 128)

/-- What comes before the separator, whether there is one, and what comes after it. -/
def partition (sep : Char) (text : Text) : Text × Bool × Text :=
  (text.takeWhile fun c => decide (c ≠ sep), decide (sep ∈ text), (text.dropWhile fun c => decide (c ≠ sep)).tail)

/-- The same at the last separator; without one everything comes after it. -/
def rpartition (sep : Char) (text : Text) : Text × Bool × Text :=
  ((text.reverse.dropWhile fun c => decide (c ≠ sep)).tail.reverse, decide (sep ∈ text),
    (text.reverse.takeWhile fun c => decide (c ≠ sep)).reverse)

def removeDot (text : Text) : Text := if text.getLast? = some '.' then text.dropLast else text

/-! ### `urlsplit` -/

def isC0OrSpace (c : Char) : Bool := decide (c.toNat ≤ 32)

def isSchemeChar (c : Char) : Bool := decide (c.toNat < 128) && (c.isAlphanum || c = '+' || c = '-' || c = '.')

structure SplitResult where
  scheme : Text
  netloc : Text
  path : Text
  query : Text
  fragment : Text

def takeScheme (url : Text) : Text × Text :=
  let (head, colon, rest) := partition ':' url
  if colon ∧ (head.head?.any fun c => c.isAlpha) ∧ head.all isSchemeChar then (head.map Char.toLower, rest) else ([], url)

/-- An address in brackets is of a future version, or an IPv6 address. -/
def checkBracketedHost (host : Text) : Bool :=
  match host with
  | 'v' :: rest =>
      match rest.dropWhile isHex with
      | '.' :: tail => !(rest.takeWhile isHex).isEmpty && !tail.isEmpty && tail.all (fun c => decide (c ≠ '\n'))
      | _ => false
  | _ => (parseIPv4 host).isNone && (parseIPv6 host).isSome

def checkBracketedNetloc (netloc : Text) : Bool :=
  let (before, opened, bracketed) := partition '[' (rpartition '@' netloc).2.2
  if opened then
    let (host, _, port) := partition ']' bracketed
    before.isEmpty && (port.isEmpty || port.head? = some ':') && checkBracketedHost host
  else checkBracketedHost (partition ':' (rpartition '@' netloc).2.2).1

def checkNetloc (lib : TextLibrary) (netloc : Text) : Bool :=
  let bare := netloc.filter fun c => decide (c ∉ ['@', ':', '#', '?'])
  isascii netloc || decide (bare = lib.nfkc bare) || ['/', '?', '#', '@', ':'].all fun c => decide (c ∉ lib.nfkc bare)

/-- `none` is a `ValueError`. -/
def urlsplit (lib : TextLibrary) (url : Text) : Option SplitResult :=
  let (scheme, url) := takeScheme ((url.dropWhile isC0OrSpace).filter fun c => decide (c ∉ ['\t', '\r', '\n']))
  let delimits := fun c => decide (c ∈ ['/', '?', '#'])
  let (netloc, url) := if ['/', '/'] <+: url then ((url.drop 2).takeWhile (!delimits ·), (url.drop 2).dropWhile (!delimits ·)) else ([], url)
  if ('[' ∈ netloc) ≠ (']' ∈ netloc) then none
  else if '[' ∈ netloc ∧ !checkBracketedNetloc netloc then none
  else
    let (url, _, fragment) := partition '#' url
    let (path, _, query) := partition '?' url
    if checkNetloc lib netloc then some { scheme, netloc, path, query, fragment } else none

/-! ### `parse_endpoint` -/

def invalid (message : String) : EndpointRefused := ⟨.invalidEndpoint, message⟩

def schemeMark : Text := [':', '/', '/']

def splitScheme (text : Text) : Text :=
  if schemeMark <:+: text then text
  else if (parseIPv6 text).isSome then "http://[".toList ++ text ++ [']'] else "http://".toList ++ text

def schemePort (scheme : Text) : Option ℕ := (SCHEME_PORTS.find? fun entry => decide (entry.1 = scheme)).map Prod.snd

def portOf (text : Option Text) (scheme : Text) (defaultedScheme : Bool) : Except EndpointRefused ℕ :=
  match text.getD [] with
  | [] => .ok (if defaultedScheme then BLAH2_DEFAULT_PORT else (schemePort scheme).getD 0)
  | digits =>
      if digits.all isDecimal ∧ 0 < read 10 digits ∧ read 10 digits ≤ 65535 then .ok (read 10 digits)
      else .error ⟨.invalidPort, "The port must be a number from 1 to 65535."⟩

/-- `_NUMERIC_LABEL`. -/
def isNumericLabel (label : Text) : Bool :=
  (!label.isEmpty && label.all isDecimal) ||
    match label with
    | '0' :: x :: rest => (x = 'x' || x = 'X') && rest.all isHex
    | _ => false

/-- The stored host and its form in the key. -/
def hostOf (lib : TextLibrary) (text : Text) (bracketed : Bool) : Except EndpointRefused (Text × Text) :=
  if bracketed then
    if '%' ∈ text then .error (invalid "IPv6 zone identifiers are not supported.")
    else match parseIPv6 text with
      | none => .error (invalid "Square brackets must enclose an IPv6 address.")
      | some address => .ok (printScoped address, ['['] ++ printScoped address ++ [']'])
  else match lib.idnaEncode text with
    | none => .error (invalid (lib.repr text ++ " is not a valid hostname."))
    | some encoded =>
        let name := removeDot encoded
        if isNumericLabel (rpartition '.' name).2.2 then
          match parseIPv4 name with
          | none => .error (invalid (lib.repr text ++ " is not a valid IPv4 address or hostname."))
          | some ip => .ok (printIPv4 ip, printIPv4 ip)
        else .ok (name, name)

/-- What an input is cut into before the port and the host are read. -/
structure Pieces where
  scheme : Text
  defaultedScheme : Bool
  userinfo : Option Text
  host : Text
  bracketed : Bool
  port : Option Text
deriving DecidableEq

/-- The host and the port of `host:port`. -/
def splitHostport (hostport : Text) : Except EndpointRefused (Text × Bool × Option Text) :=
  if hostport.head? = some '[' then
    let (host, closed, rest) := partition ']' hostport.tail
    if !closed || (!rest.isEmpty && rest.head? ≠ some ':') then .error (invalid "Square brackets must enclose an IPv6 address.")
    else .ok (host, true, if rest.isEmpty then none else some rest.tail)
  else
    let (host, colon, port) := partition ':' hostport
    .ok (host, false, if colon then some port else none)

def splitEndpoint (lib : TextLibrary) (raw : Text) : Except EndpointRefused Pieces := do
  let text := strip raw
  if text = [] ∨ MAX_RAW_LENGTH < text.length then
    throw (invalid "Enter the radar's address as host, host:port or an http(s) URL.")
  if text.any fun c => isspace c || !lib.isprintable c then throw (invalid "The address must not contain spaces or control characters.")
  let defaultedScheme := !decide (schemeMark <:+: text)
  let some parts := urlsplit lib (splitScheme text)
    | throw (invalid "The address could not be read as a host or URL.")
  if (schemePort parts.scheme).isNone then throw ⟨.unsupportedScheme, "Only http and https addresses are supported."⟩
  if parts.fragment ≠ [] ∨ '#' ∈ text then
    throw ⟨.pathNotSupported, "A fragment (#...) is not supported; enter the bare address."⟩
  if parts.query ≠ [] ∨ '?' ∈ text then
    throw ⟨.pathNotSupported, "A query string is not supported; enter the bare address."⟩
  if parts.path ∉ [[], ['/']] then
    throw ⟨.pathNotSupported, "A path after the host is not supported; the radar must be served at /."⟩
  let (userinfo, at_, hostport) := rpartition '@' parts.netloc
  let (host, bracketed, port) ← splitHostport hostport
  if host = [] then throw (invalid "The address has no host.")
  return { scheme := parts.scheme, defaultedScheme, userinfo := if at_ ∧ userinfo ≠ [] then some userinfo else none, host, bracketed, port }

def parseEndpoint (lib : TextLibrary) (raw : Text) : Except EndpointRefused PolledEndpoint := do
  let pieces ← splitEndpoint lib raw
  let port ← portOf pieces.port pieces.scheme pieces.defaultedScheme
  let (host, keyHost) ← hostOf lib pieces.host pieces.bracketed
  return {
    scheme := String.ofList pieces.scheme
    host := String.ofList host
    port
    endpointKey := String.ofList (keyHost ++ [':'] ++ write 10 port)
    authUser := pieces.userinfo.map fun userinfo => String.ofList (lib.unquote (partition ':' userinfo).1)
    authSecret := pieces.userinfo.bind fun userinfo =>
      if (partition ':' userinfo).2.1 then some (String.ofList (lib.unquote (partition ':' userinfo).2.2)) else none
    raw := String.ofList raw }

end Retina.Polled
