import RetinaServer.Polled.Endpoint
import Mathlib.Data.List.TakeWhile

/-! The key of an endpoint as text: behind a scheme it is split into its host and its port again, whatever
was typed first. -/
namespace Retina.Polled
open Numerals IpText

/-! ### Text that is plain ASCII -/

/-- A printable ASCII character that is not a space. -/
def isPlain (c : Char) : Bool := decide (33 ≤ c.toNat ∧ c.toNat ≤ 126)

/-- A character of an encoded host name. -/
def isNameChar (c : Char) : Bool := decide ('a' ≤ c ∧ c ≤ 'z') || isDecimal c || decide (c = '-')

/-- What is relied on of `idna.encode`: encoding what it returns, with or without a final dot, changes
nothing; its labels are of letters, digits and hyphens and not empty; and it is no longer than a name may be. -/
structure EncodesNames (encode : Text → Option Text) : Prop where
  stable : ∀ text name, encode text = some name → encode (removeDot name) = some (removeDot name)
  labels : ∀ text name, encode text = some name → ∀ label ∈ (removeDot name).splitOn '.', label ≠ [] ∧ ∀ c ∈ label, isNameChar c = true
  short : ∀ text name, encode text = some name → name.length ≤ 254

structure TextLibrary.Sound (lib : TextLibrary) : Prop where
  printable : ∀ c, isPlain c = true → lib.isprintable c = true
  names : EncodesNames lib.idnaEncode

theorem not_isspace_of_isPlain (plain : isPlain c = true) : isspace c = false := by
  obtain ⟨low, high⟩ := of_decide_eq_true plain
  simp only [isspace, Bool.or_eq_false_iff, decide_eq_false_iff_not, List.mem_cons, List.not_mem_nil, or_false]
  omega

theorem isPlain_of_isHex (hex : isHex c = true) : isPlain c = true := by
  simp only [isHex, isDecimal, Bool.or_eq_true, Bool.and_eq_true, decide_eq_true_eq, Char.le_def, UInt32.le_iff_toNat_le] at hex
  have bounds : 48 ≤ c.toNat ∧ c.toNat ≤ 102 := by
    have value : c.val.toNat = c.toNat := rfl
    rcases hex with (⟨low, high⟩ | ⟨low, high⟩) | ⟨low, high⟩
    all_goals
      rw [value] at low high
      simp at low high
      omega
  exact decide_eq_true (by omega)

theorem takeWhile_before (before : Text) (sep : Char) (after : Text) (absent : sep ∉ before) :
    partition sep (before ++ sep :: after) = (before, true, after) := by
  have all : ∀ c ∈ before, decide (c ≠ sep) = true := fun c listed => decide_eq_true fun same => absent (same ▸ listed)
  rw [partition, List.takeWhile_append_of_pos all, List.dropWhile_append_of_pos all]
  simp

theorem partition_absent (text : Text) (sep : Char) (absent : sep ∉ text) : partition sep text = (text, false, []) := by
  have all : ∀ c ∈ text, decide (c ≠ sep) = true := fun c listed => decide_eq_true fun same => absent (same ▸ listed)
  rw [partition, List.takeWhile_eq_self_iff.mpr all, List.dropWhile_eq_nil_iff.mpr all, decide_eq_false absent]
  rfl

theorem rpartition_absent (text : Text) (sep : Char) (absent : sep ∉ text) : rpartition sep text = ([], false, text) := by
  have all : ∀ c ∈ text.reverse, decide (c ≠ sep) = true :=
    fun c listed => decide_eq_true fun same => absent (same ▸ List.mem_reverse.mp listed)
  rw [rpartition, List.takeWhile_eq_self_iff.mpr all, List.dropWhile_eq_nil_iff.mpr all, decide_eq_false absent, List.reverse_reverse]
  rfl

theorem strip_of_plain (plain : ∀ c ∈ text, isPlain c = true) : strip text = text := by
  have keeps (text : Text) (plain : ∀ c ∈ text, isPlain c = true) : text.dropWhile isspace = text := by
    cases text with
    | nil => rfl
    | cons c rest => rw [List.dropWhile_cons_of_neg (by rw [not_isspace_of_isPlain (plain c List.mem_cons_self)]; decide)]
  rw [strip, keeps text plain, keeps text.reverse (fun c listed => plain c (List.mem_reverse.mp listed)), List.reverse_reverse]

/-! ### Splitting a bare origin -/

/-- A host and port as they stand in a key. -/
structure Authority (authority : Text) : Prop where
  plain : ∀ c ∈ authority, isPlain c = true
  bare : '/' ∉ authority ∧ '?' ∉ authority ∧ '#' ∉ authority ∧ '@' ∉ authority
  brackets : ('[' ∈ authority) = (']' ∈ authority)
  bracketed : '[' ∈ authority → checkBracketedNetloc authority = true

def IsHttp (scheme : Text) : Prop := scheme = "http".toList ∨ scheme = "https".toList

theorem schemePort_isSome_iff (scheme : Text) : (schemePort scheme).isSome = true ↔ IsHttp scheme := by
  simp only [schemePort, SCHEME_PORTS, Option.isSome_map, List.find?_isSome, List.mem_cons, List.not_mem_nil, or_false,
    decide_eq_true_eq, IsHttp]
  constructor
  · rintro ⟨_, rfl | rfl, rfl⟩
    · exact .inl rfl
    · exact .inr rfl
  · rintro (rfl | rfl)
    · exact ⟨_, .inl rfl, rfl⟩
    · exact ⟨_, .inr rfl, rfl⟩

theorem IsHttp.plain (http : IsHttp scheme) : ∀ c ∈ scheme, isPlain c = true := by
  rcases http with rfl | rfl
  · exact List.all_eq_true.mp rfl
  · exact List.all_eq_true.mp rfl

theorem schemeMark_plain : ∀ c ∈ schemeMark, isPlain c = true := List.all_eq_true.mp rfl

theorem takeScheme_origin (http : IsHttp scheme) (rest : Text) : takeScheme (scheme ++ ':' :: rest) = (scheme, rest) := by
  have colon : ':' ∉ scheme := by
    rcases http with rfl | rfl <;> decide
  rw [takeScheme, takeWhile_before scheme ':' rest colon]
  rcases http with rfl | rfl <;> rfl

theorem Authority.origin_plain (authority : Authority text) (http : IsHttp scheme) :
    ∀ c ∈ scheme ++ schemeMark ++ text, isPlain c = true := by
  intro c listed
  rw [List.mem_append, List.mem_append] at listed
  rcases listed with (first | mark) | rest
  · exact http.plain c first
  · exact schemeMark_plain c mark
  · exact authority.plain c rest

/-- A line break or a tab is not plain, so the parser removes nothing. -/
theorem filter_breaks_of_plain {text : Text} (plain : ∀ c ∈ text, isPlain c = true) :
    text.filter (fun c => decide (c ∉ ['\t', '\r', '\n'])) = text := by
  refine List.filter_eq_self.mpr fun c listed => decide_eq_true fun removed => ?_
  have bad : ∀ c ∈ ['\t', '\r', '\n'], isPlain c = false := by
    simp only [List.forall_mem_cons, List.not_mem_nil, false_imp_iff, implies_true, and_true]
    exact ⟨rfl, rfl, rfl⟩
  exact Bool.false_ne_true ((bad c removed).symm.trans (plain c listed))

theorem Authority.undelimited (authority : Authority text) : ∀ c ∈ text, (!decide (c ∈ ['/', '?', '#'])) = true := by
  obtain ⟨slash, question, hash, -⟩ := authority.bare
  intro c listed
  have other : c ∉ ['/', '?', '#'] := by
    rintro delimits
    simp only [List.mem_cons, List.not_mem_nil, or_false] at delimits
    rcases delimits with rfl | rfl | rfl
    · exact slash listed
    · exact question listed
    · exact hash listed
  rw [decide_eq_false other]
  rfl

theorem Authority.isascii (authority : Authority text) : isascii text = true := by
  refine List.all_eq_true.mpr fun c listed => decide_eq_true ?_
  have high := (of_decide_eq_true (authority.plain c listed)).2
  omega

theorem urlsplit_origin (lib : TextLibrary) (http : IsHttp scheme) (authority : Authority text) :
    urlsplit lib (scheme ++ schemeMark ++ text) = some { scheme, netloc := text, path := [], query := [], fragment := [] } := by
  have unspaced : (scheme ++ schemeMark ++ text).dropWhile isC0OrSpace = scheme ++ schemeMark ++ text := by
    rcases http with rfl | rfl <;> rfl
  have kept := filter_breaks_of_plain (authority.origin_plain http)
  have split : scheme ++ schemeMark ++ text = scheme ++ ':' :: '/' :: '/' :: text := by
    rw [List.append_assoc]
    rfl
  have whole := authority.undelimited
  have ascii := authority.isascii
  have marked : ['/', '/'] <+: '/' :: '/' :: text := ⟨text, rfl⟩
  have checked : ¬ ('[' ∈ text ∧ (!checkBracketedNetloc text) = true) := by
    rintro ⟨opened, fails⟩
    rw [authority.bracketed opened] at fails
    cases fails
  rw [urlsplit, unspaced, kept, split, takeScheme_origin http]
  simp only [if_pos marked, List.drop_succ_cons, List.drop_zero, List.takeWhile_eq_self_iff.mpr whole,
    List.dropWhile_eq_nil_iff.mpr whole, ne_eq, authority.brackets, not_true_eq_false, if_false, partition_absent [] _ List.not_mem_nil]
  rw [authority.brackets] at checked
  rw [if_neg checked, checkNetloc, ascii]
  rfl

theorem splitEndpoint_origin (sound : lib.Sound) (http : IsHttp scheme) (authority : Authority text) (short : text.length ≤ 1000)
    (hostport : splitHostport text = .ok (host, bracketed, port)) (named : host ≠ []) :
    splitEndpoint lib (scheme ++ schemeMark ++ text) =
      .ok { scheme, defaultedScheme := false, userinfo := none, host, bracketed, port } := by
  have plain := authority.origin_plain http
  have sized : ¬ (scheme ++ schemeMark ++ text = [] ∨ MAX_RAW_LENGTH < (scheme ++ schemeMark ++ text).length) := by
    rw [not_or]
    constructor
    · simp [schemeMark]
    · have scheme_length : scheme.length ≤ 5 := by
        rcases http with rfl | rfl <;> decide
      rw [List.length_append, List.length_append, MAX_RAW_LENGTH, show schemeMark.length = 3 from rfl]
      omega
  have printable : ((scheme ++ schemeMark ++ text).any fun c => isspace c || !lib.isprintable c) = false := by
    refine List.any_eq_false.mpr fun c listed => ?_
    simp [not_isspace_of_isPlain (plain c listed), sound.printable c (plain c listed)]
  have marked : schemeMark <:+: scheme ++ schemeMark ++ text := ⟨scheme, text, rfl⟩
  have unmarked (c : Char) (absent : c ∉ text) (other : c ∉ schemeMark ∧ c ∉ "http".toList ∧ c ∉ "https".toList) :
      c ∉ scheme ++ schemeMark ++ text := by
    rw [List.mem_append, List.mem_append, not_or, not_or]
    refine ⟨⟨?_, other.1⟩, absent⟩
    rcases http with rfl | rfl
    · exact other.2.1
    · exact other.2.2
  obtain ⟨-, question, hash, sign⟩ := authority.bare
  have no_fragment := unmarked '#' hash (by decide)
  have no_query := unmarked '?' question (by decide)
  have known : schemePort scheme ≠ none := Option.isSome_iff_ne_none.mp ((schemePort_isSome_iff scheme).mpr http)
  have split := urlsplit_origin lib http authority
  have stripped := strip_of_plain plain
  have kept : splitScheme (scheme ++ schemeMark ++ text) = scheme ++ schemeMark ++ text := if_pos marked
  generalize scheme ++ schemeMark ++ text = whole at *
  simp [splitEndpoint, stripped, sized, printable, marked, kept, split, known, no_fragment, no_query,
    rpartition_absent text '@' sign, hostport, named, bind, Except.bind, pure, Except.pure]

/-! ### Hosts and ports -/

theorem mem_decimal (listed : c ∈ write 10 n) : isHex c = true := by
  obtain ⟨d, small, rfl⟩ := mem_write (by decide) listed
  exact hex_digitChar d (by omega)

theorem isPlain_of_isNameChar (named : isNameChar c = true) : isPlain c = true := by
  simp only [isNameChar, isDecimal, Bool.or_eq_true, Bool.and_eq_true, decide_eq_true_eq, Char.le_def, UInt32.le_iff_toNat_le] at named
  have value : c.val.toNat = c.toNat := rfl
  rcases named with (⟨low, high⟩ | ⟨low, high⟩) | rfl
  · rw [value] at low high
    simp at low high
    exact decide_eq_true (by omega)
  · rw [value] at low high
    simp at low high
    exact decide_eq_true (by omega)
  · decide

/-- What is stored of a name that was encoded. -/
structure HostName (lib : TextLibrary) (name : Text) : Prop where
  stable : lib.idnaEncode name = some name
  undotted : removeDot name = name
  nonempty : name ≠ []
  chars : ∀ c ∈ name, c = '.' ∨ isNameChar c = true
  short : name.length ≤ 254

theorem hostName_of_encoded (names : EncodesNames lib.idnaEncode) (encoded : lib.idnaEncode text = some name) :
    HostName lib (removeDot name) := by
  have labels := names.labels text name encoded
  refine ⟨names.stable text name encoded, ?_, ?_, ?_, ?_⟩
  · refine if_neg fun dot => ?_
    obtain ⟨front, split⟩ := List.getLast?_eq_some_iff.mp dot
    rw [split, List.splitOn_append_cons_self] at labels
    exact (labels [] (by simp)).1 rfl
  · intro empty
    rw [empty] at labels
    exact (labels [] (by simp)).1 rfl
  · intro c listed
    have whole : ['.'].intercalate ((removeDot name).splitOn '.') = removeDot name := List.intercalate_splitOn '.'
    rw [← whole] at listed
    exact (mem_intercalate listed).imp_right fun ⟨label, member, inside⟩ => (labels label member).2 c inside
  · have whole := names.short text name encoded
    rw [removeDot]
    split
    · rw [List.length_dropLast]
      omega
    · exact whole

theorem HostName.absent (host : HostName lib name) (other : c ≠ '.' ∧ isNameChar c = false) : c ∉ name := by
  intro listed
  rcases host.chars c listed with dot | named
  · exact other.1 dot
  · exact Bool.false_ne_true (other.2.symm.trans named)

theorem scope_of_parseIPv6 (parsed : parseIPv6 text = some address) (plain : '%' ∉ text) : address.scope = none := by
  have split := splitScope_append plain none (by simp)
  rw [Option.elim_none, List.append_nil] at split
  unfold parseIPv6 at parsed
  split at parsed
  · cases parsed
  · rw [split, Option.bind_some] at parsed
    obtain ⟨ip, -, rfl⟩ := Option.map_eq_some_iff.mp parsed
    rfl

/-- A host that is accepted is an IPv6 address in brackets, or a name; a name that ends in a number is an
IPv4 address, and is its text. -/
theorem hostOf_ok (names : EncodesNames lib.idnaEncode) (ok : hostOf lib text bracketed = .ok (host, keyHost)) :
    (bracketed = true ∧ ∃ ip < 2 ^ 128, parseIPv6 text = some { ip } ∧ host = printIPv6 ip ∧ keyHost = ['['] ++ printIPv6 ip ++ [']']) ∨
      (bracketed = false ∧ ∃ encoded, lib.idnaEncode text = some encoded ∧ host = removeDot encoded ∧ keyHost = removeDot encoded ∧
        HostName lib (removeDot encoded) ∧
        (isNumericLabel (rpartition '.' (removeDot encoded)).2.2 = true → ∃ ip, parseIPv4 (removeDot encoded) = some ip)) := by
  unfold hostOf at ok
  split at ok
  · rename_i brackets
    split at ok
    · cases ok
    · rename_i unscoped
      split at ok
      · cases ok
      · rename_i address parsed
        obtain ⟨ip, scope⟩ := address
        obtain rfl : scope = none := scope_of_parseIPv6 parsed unscoped
        obtain ⟨rfl, rfl⟩ := Prod.mk.inj (Except.ok.inj ok)
        refine .inl ⟨brackets, ip, (parseIPv6_spec parsed).1, parsed, ?_, ?_⟩
        · rw [printScoped, Option.elim_none, List.append_nil]
        · rw [printScoped, Option.elim_none, List.append_nil]
  · rename_i unbracketed
    split at ok
    · cases ok
    · rename_i encoded is_encoded
      refine .inr ⟨Bool.eq_false_of_not_eq_true unbracketed, encoded, is_encoded, ?_⟩
      have name := hostName_of_encoded names is_encoded
      simp only at ok
      split at ok
      · rename_i numeric
        split at ok
        · cases ok
        · rename_i ip parsed
          obtain ⟨rfl, rfl⟩ := Prod.mk.inj (Except.ok.inj ok)
          have same := (printIPv4_of_parseIPv4 parsed).1
          exact ⟨same, same, name, fun _ => ⟨ip, parsed⟩⟩
      · rename_i alphabetic
        obtain ⟨rfl, rfl⟩ := Prod.mk.inj (Except.ok.inj ok)
        exact ⟨rfl, rfl, name, fun numeric => absurd numeric alphabetic⟩

theorem not_mem_printIPv6 (bound : ip < 2 ^ 128) (other : c ≠ ':' ∧ isHex c = false) : c ∉ printIPv6 ip := by
  intro listed
  rcases mem_printIPv6 bound listed with colon | hex
  · exact other.1 colon
  · exact Bool.false_ne_true (other.2.symm.trans hex)

theorem parseIPv6_printIPv6 (bound : ip < 2 ^ 128) : parseIPv6 (printIPv6 ip) = some { ip } := by
  have parsed : parseIPv6 (printScoped { ip }) = some { ip } := parseIPv6_printScoped bound (by simp)
  rwa [printScoped, Option.elim_none, List.append_nil] at parsed

theorem hostOf_printIPv6 (lib : TextLibrary) (bound : ip < 2 ^ 128) :
    hostOf lib (printIPv6 ip) true = .ok (printIPv6 ip, ['['] ++ printIPv6 ip ++ [']']) := by
  have plain : '%' ∉ printIPv6 ip := not_mem_printIPv6 bound (by decide)
  have text : printScoped { ip } = printIPv6 ip := by rw [printScoped, Option.elim_none, List.append_nil]
  rw [hostOf, if_pos rfl, if_neg plain, parseIPv6_printIPv6 bound]
  simp only [text]

theorem hostOf_name (name : HostName lib host)
    (numeric : isNumericLabel (rpartition '.' host).2.2 = true → ∃ ip, parseIPv4 host = some ip) :
    hostOf lib host false = .ok (host, host) := by
  rw [hostOf, if_neg Bool.false_ne_true, name.stable]
  simp only [name.undotted]
  split
  · rename_i is_numeric
    obtain ⟨ip, parsed⟩ := numeric is_numeric
    rw [parsed]
    simp only [(printIPv4_of_parseIPv4 parsed).1]
  · rfl

theorem portOf_ok (http : IsHttp scheme) (ok : portOf text scheme defaulted = .ok port) : 0 < port ∧ port ≤ 65535 := by
  unfold portOf at ok
  split at ok
  · obtain rfl := Except.ok.inj ok
    split
    · decide
    · rcases http with rfl | rfl <;> decide
  · split at ok
    · rename_i range
      obtain rfl := Except.ok.inj ok
      exact range.2
    · cases ok

theorem portOf_write (range : 0 < port ∧ port ≤ 65535) : portOf (some (write 10 port)) scheme false = .ok port := by
  obtain ⟨first, rest, digits⟩ := List.exists_cons_of_ne_nil (write_ne_nil 10 port)
  have decimal : (write 10 port).all isDecimal = true := by
    refine List.all_eq_true.mpr fun c listed => ?_
    obtain ⟨d, small, rfl⟩ := mem_write (by decide) listed
    exact decimal_digitChar d small
  have value := read_write (by decide : 1 < 10) (by decide) port
  rw [digits] at decimal value
  rw [portOf, Option.getD_some, digits]
  simp only [decimal, value]
  exact if_pos ⟨trivial, range⟩

/-! ### The key as an authority -/

theorem length_decimal_le (range : port ≤ 65535) : (write 10 port).length ≤ 5 :=
  length_write_le (by decide) (show port < 10 ^ 5 by omega) (by decide)

theorem splitHostport_bracketed (bound : ip < 2 ^ 128) (port : ℕ) :
    splitHostport (['['] ++ printIPv6 ip ++ [']'] ++ [':'] ++ write 10 port) = .ok (printIPv6 ip, true, some (write 10 port)) := by
  have closing : ']' ∉ printIPv6 ip := not_mem_printIPv6 bound (by decide)
  have shape : ['['] ++ printIPv6 ip ++ [']'] ++ [':'] ++ write 10 port = '[' :: (printIPv6 ip ++ ']' :: ':' :: write 10 port) := by simp
  rw [shape, splitHostport, List.head?_cons, if_pos rfl, List.tail_cons, takeWhile_before _ _ _ closing]
  simp

theorem checkBracketedHost_printIPv6 (bound : ip < 2 ^ 128) : checkBracketedHost (printIPv6 ip) = true := by
  have not_four : parseIPv4 (printIPv6 ip) = none := by
    rw [parseIPv4, List.splitOn_eq_singleton (not_mem_printIPv6 bound (by decide))]
    rfl
  have parsed := parseIPv6_printIPv6 bound
  have unversioned : 'v' ∉ printIPv6 ip := not_mem_printIPv6 bound (by decide)
  generalize printIPv6 ip = text at *
  unfold checkBracketedHost
  split
  · exact absurd List.mem_cons_self unversioned
  · rw [not_four, parsed]
    rfl

theorem checkBracketedNetloc_bracketed (host port : Text) (unsigned : '@' ∉ '[' :: (host ++ ']' :: ':' :: port)) (closing : ']' ∉ host)
    (checked : checkBracketedHost host = true) : checkBracketedNetloc ('[' :: (host ++ ']' :: ':' :: port)) = true := by
  have opened := takeWhile_before [] '[' (host ++ ']' :: ':' :: port) List.not_mem_nil
  rw [List.nil_append] at opened
  unfold checkBracketedNetloc
  rw [rpartition_absent _ '@' unsigned]
  simp only [opened, takeWhile_before host ']' (':' :: port) closing, checked]
  rfl

theorem authority_bracketed (bound : ip < 2 ^ 128) (port : ℕ) :
    Authority (['['] ++ printIPv6 ip ++ [']'] ++ [':'] ++ write 10 port) := by
  have chars : ∀ c ∈ ['['] ++ printIPv6 ip ++ [']'] ++ [':'] ++ write 10 port, c ∈ ['[', ']', ':'] ∨ isHex c = true := by
    intro c listed
    simp only [List.mem_append, List.mem_singleton] at listed
    rcases listed with (((rfl | address) | rfl) | rfl) | digits
    · exact .inl (by simp)
    · refine (mem_printIPv6 bound address).imp_left ?_
      rintro rfl
      simp
    · exact .inl (by simp)
    · exact .inl (by simp)
    · exact .inr (mem_decimal digits)
  have absent (c : Char) (other : c ∉ ['[', ']', ':'] ∧ isHex c = false) : c ∉ ['['] ++ printIPv6 ip ++ [']'] ++ [':'] ++ write 10 port := by
    intro listed
    rcases chars c listed with mark | hex
    · exact other.1 mark
    · exact Bool.false_ne_true (other.2.symm.trans hex)
  refine ⟨?_, ⟨absent '/' (by decide), absent '?' (by decide), absent '#' (by decide), absent '@' (by decide)⟩, ?_, fun _ => ?_⟩
  · intro c listed
    rcases chars c listed with mark | hex
    · exact (List.all_eq_true.mp rfl : ∀ c ∈ ['[', ']', ':'], isPlain c = true) c mark
    · exact isPlain_of_isHex hex
  · simp
  · have shape : ['['] ++ printIPv6 ip ++ [']'] ++ [':'] ++ write 10 port = '[' :: (printIPv6 ip ++ ']' :: ':' :: write 10 port) := by simp
    have unsigned := absent '@' (by decide)
    rw [shape] at unsigned ⊢
    exact checkBracketedNetloc_bracketed _ _ unsigned (not_mem_printIPv6 bound (by decide)) (checkBracketedHost_printIPv6 bound)

theorem splitHostport_name (name : HostName lib host) (port : ℕ) :
    splitHostport (host ++ [':'] ++ write 10 port) = .ok (host, false, some (write 10 port)) := by
  have unbracketed : (host ++ [':'] ++ write 10 port).head? ≠ some '[' := by
    obtain ⟨first, rest, rfl⟩ := List.exists_cons_of_ne_nil name.nonempty
    rintro same
    obtain rfl := Option.some.inj same
    exact name.absent (c := '[') (by decide) List.mem_cons_self
  have shape : host ++ [':'] ++ write 10 port = host ++ ':' :: write 10 port := by simp
  rw [splitHostport, if_neg unbracketed, shape, takeWhile_before _ _ _ (name.absent (by decide))]
  rfl

theorem authority_name (name : HostName lib host) (port : ℕ) : Authority (host ++ [':'] ++ write 10 port) := by
  have absent (c : Char) (other : c ≠ '.' ∧ isNameChar c = false) (colon : c ≠ ':') (hex : isHex c = false) :
      c ∉ host ++ [':'] ++ write 10 port := by
    simp only [List.mem_append, List.mem_singleton, not_or]
    exact ⟨⟨name.absent other, colon⟩, fun digits => Bool.false_ne_true (hex.symm.trans (mem_decimal digits))⟩
  refine ⟨?_, ⟨absent '/' (by decide) (by decide) (by decide), absent '?' (by decide) (by decide) (by decide),
    absent '#' (by decide) (by decide) (by decide), absent '@' (by decide) (by decide) (by decide)⟩, ?_, ?_⟩
  · intro c listed
    simp only [List.mem_append, List.mem_singleton] at listed
    rcases listed with (inside | rfl) | digits
    · rcases name.chars c inside with rfl | named
      · decide
      · exact isPlain_of_isNameChar named
    · decide
    · exact isPlain_of_isHex (mem_decimal digits)
  · rw [eq_iff_iff]
    exact iff_of_false (absent '[' (by decide) (by decide) (by decide)) (absent ']' (by decide) (by decide) (by decide))
  · exact fun opened => absurd opened (absent '[' (by decide) (by decide) (by decide))

end Retina.Polled
