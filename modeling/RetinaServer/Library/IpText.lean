import RetinaServer.Library.Numerals

/-! IP addresses and their text: IPv4 in dotted decimal, IPv6 in hextets with the longest run of zeros left
out, each read back as it was written. -/
namespace IpText
open Numerals

/-! ### IPv4 -/

def parseOctet (text : Text) : Option ℕ :=
  if text = [] then none
  else if !text.all isDecimal then none
  else if 3 < text.length then none
  else if text ≠ ['0'] ∧ text.head? = some '0' then none
  else if 255 < read 10 text then none
  else some (read 10 text)

/-- The values of all the parts, if every one of them has one. -/
def parseAll (parse : Text → Option ℕ) : List Text → Option (List ℕ)
  | [] => some []
  | part :: rest => (parse part).bind fun n => (parseAll parse rest).map fun ns => n :: ns

def parseIPv4 (text : Text) : Option ℕ :=
  let octets := text.splitOn '.'
  if octets.length ≠ 4 then none else (parseAll parseOctet octets).map (ofPlaces 256)

def printIPv4 (ip : ℕ) : Text := ['.'].intercalate ((places 256 4 ip).map (write 10))

theorem parseAll_map (inverse : ∀ n ∈ ns, parse (print n) = some n) : parseAll parse (ns.map print) = some ns := by
  induction ns with
  | nil => rfl
  | cons n ns ih =>
    obtain ⟨here, later⟩ := List.forall_mem_cons.mp inverse
    rw [List.map_cons, parseAll, here, Option.bind_some, ih later, Option.map_some]

theorem map_of_parseAll (inverse : ∀ part ∈ parts, ∀ n, parse part = some n → print n = part)
    (parsed : parseAll parse parts = some ns) : ns.map print = parts := by
  induction parts generalizing ns with
  | nil =>
    obtain rfl := Option.some.inj parsed
    rfl
  | cons part rest ih =>
    obtain ⟨here, later⟩ := List.forall_mem_cons.mp inverse
    obtain ⟨n, first, parsed⟩ := Option.bind_eq_some_iff.mp parsed
    obtain ⟨ns, others, rfl⟩ := Option.map_eq_some_iff.mp parsed
    rw [List.map_cons, here n first, ih later others]

theorem forall_of_parseAll {P : ℕ → Prop} (bounded : ∀ part n, parse part = some n → P n) (parsed : parseAll parse parts = some ns) : ∀ n ∈ ns, P n := by
  induction parts generalizing ns with
  | nil =>
    obtain rfl := Option.some.inj parsed
    exact fun _ listed => absurd listed List.not_mem_nil
  | cons part rest ih =>
    obtain ⟨n, first, parsed⟩ := Option.bind_eq_some_iff.mp parsed
    obtain ⟨ns, others, rfl⟩ := Option.map_eq_some_iff.mp parsed
    exact List.forall_mem_cons.mpr ⟨bounded part n first, ih others⟩

theorem length_of_parseAll (parsed : parseAll parse parts = some ns) : ns.length = parts.length := by
  induction parts generalizing ns with
  | nil =>
    obtain rfl := Option.some.inj parsed
    rfl
  | cons part rest ih =>
    obtain ⟨n, -, parsed⟩ := Option.bind_eq_some_iff.mp parsed
    obtain ⟨ns, others, rfl⟩ := Option.map_eq_some_iff.mp parsed
    rw [List.length_cons, List.length_cons, ih others]

/-- What an octet that is accepted is. -/
theorem parseOctet_spec (parsed : parseOctet text = some n) : write 10 n = text ∧ n < 256 := by
  unfold parseOctet at parsed
  split_ifs at parsed with empty digits long leading large
  obtain rfl := Option.some.inj parsed
  refine ⟨write_read empty ?_ ?_, by omega⟩
  · exact List.all_eq_true.mp (by simpa using digits)
  · by_cases zero : text = ['0']
    · exact .inl zero
    · exact .inr fun same => leading ⟨zero, same⟩

theorem parseOctet_write (small : n < 256) : parseOctet (write 10 n) = some n := by
  have digits : (write 10 n).all isDecimal = true := by
    refine List.all_eq_true.mpr fun c listed => ?_
    obtain ⟨d, bound, rfl⟩ := mem_write (by decide) listed
    exact decimal_digitChar d bound
  have short := length_write_le (b := 10) (k := 3) (by decide) (show n < 10 ^ 3 by omega) (by decide)
  have leading : ¬ (write 10 n ≠ ['0'] ∧ (write 10 n).head? = some '0') := by
    rintro ⟨nonzero, head⟩
    by_cases zero : n = 0
    · exact nonzero (zero ▸ write_zero 10)
    · exact write_head (by decide) (by decide) zero head
  rw [parseOctet, if_neg (write_ne_nil 10 n), digits, if_neg (by simp), if_neg (by omega), if_neg leading,
    read_write (by decide) (by decide), if_neg (by omega)]

theorem not_mem_write (many : 1 < b) (few : b ≤ 16) (other : isHex c = false) : c ∉ write b n := by
  intro listed
  obtain ⟨d, bound, rfl⟩ := mem_write many listed
  rw [hex_digitChar d (by omega)] at other
  cases other

theorem splitOn_printIPv4 (ip : ℕ) : (printIPv4 ip).splitOn '.' = (places 256 4 ip).map (write 10) := by
  refine List.splitOn_intercalate '.' ?_ ?_
  · intro part listed
    obtain ⟨n, -, rfl⟩ := List.mem_map.mp listed
    exact not_mem_write (by decide) (by decide) (by decide)
  · exact List.ne_nil_of_length_pos (by rw [List.length_map, length_places]; decide)

/-- Every IPv4 address is read back. -/
theorem parseIPv4_printIPv4 (bound : ip < 2 ^ 32) : parseIPv4 (printIPv4 ip) = some ip := by
  have octets : parseAll parseOctet ((places 256 4 ip).map (write 10)) = some (places 256 4 ip) :=
    parseAll_map fun n listed => parseOctet_write (lt_of_mem_places (by decide) listed)
  rw [parseIPv4, splitOn_printIPv4, List.length_map, length_places, if_neg (by decide), octets, Option.map_some,
    ofPlaces_places (show ip < 256 ^ 4 by omega)]

/-- An IPv4 address has one text. -/
theorem printIPv4_of_parseIPv4 (parsed : parseIPv4 text = some ip) : printIPv4 ip = text ∧ ip < 2 ^ 32 := by
  unfold parseIPv4 at parsed
  simp only at parsed
  split at parsed
  · cases parsed
  · rename_i four
    obtain ⟨ns, octets, rfl⟩ := Option.map_eq_some_iff.mp parsed
    have small : ∀ n ∈ ns, n < 256 := forall_of_parseAll (fun _ _ parsed => (parseOctet_spec parsed).2) octets
    have count : ns.length = 4 := (length_of_parseAll octets).trans (not_not.mp four)
    constructor
    · rw [printIPv4, ← count, places_ofPlaces small, map_of_parseAll (fun _ _ _ parsed => (parseOctet_spec parsed).1) octets,
        List.intercalate_splitOn]
    · have bound := ofPlaces_lt small
      rwa [count] at bound

/-! ### IPv6 -/

def parseHextet (text : Text) : Option ℕ :=
  if !text.all isHex then none else if 4 < text.length then none else if text = [] then none else some (read 16 text)

/-- The address and the zone after a percent sign. -/
def splitScope (text : Text) : Option (Text × Option Text) :=
  match text.dropWhile fun c => decide (c ≠ '%') with
  | [] => some (text, none)
  | _ :: scope => if scope = [] ∨ '%' ∈ scope then none else some (text.takeWhile fun c => decide (c ≠ '%'), some scope)

/-- The parts with an IPv4 suffix turned into two hextets. -/
def foldSuffix (parts : List Text) : Option (List Text) :=
  let last := parts.getLast?.getD []
  if '.' ∈ last then
    (parseIPv4 last).map fun ip => parts.dropLast ++ [write 16 (ip / 65536 % 65536), write 16 (ip % 65536)]
  else some parts

/-- The hextets before a double colon, and those after it, from what stands between it and the ends: an
end is empty only next to it. -/
def highHextets (first : Text) (before : List Text) : Option (List Text) :=
  if first = [] then if before = [] then some [] else none else some (first :: before)

def lowHextets (after : List Text) (last : Text) : Option (List Text) :=
  if last = [] then if after = [] then some [] else none else some (after ++ [last])

/-- A double colon leaves an empty part inside; it stands for one zero or more. -/
def parseParts (parts : List Text) : Option ℕ :=
  let first := parts.head?.getD []
  let last := parts.getLast?.getD []
  match parts.tail.dropLast.splitOnP List.isEmpty with
  | [_] => if parts.length ≠ 8 ∨ first = [] ∨ last = [] then none else (parseAll parseHextet parts).map (ofPlaces 65536)
  | [before, after] => do
      let high ← highHextets first before
      let low ← lowHextets after last
      if 7 < high.length + low.length then none
      else
        let hi ← parseAll parseHextet high
        let lo ← parseAll parseHextet low
        some (ofPlaces 65536 (hi ++ List.replicate (8 - (high.length + low.length)) 0 ++ lo))
  | _ => none

def parseIPv6Int (text : Text) : Option ℕ :=
  let parts := text.splitOn ':'
  if parts.length < 3 then none
  else (foldSuffix parts).bind fun parts => if 9 < parts.length then none else parseParts parts

/-- An address and its zone. -/
structure IPv6 where
  ip : ℕ
  scope : Option Text := none
deriving DecidableEq

def parseIPv6 (text : Text) : Option IPv6 :=
  if '/' ∈ text then none
  else (splitScope text).bind fun (address, scope) => (parseIPv6Int address).map fun ip => { ip, scope }

/-- A run of zeros among the hextets; no run has length zero. -/
structure Run where
  start : ℕ
  len : ℕ

/-- The run with the zero at `i`, which follows it. -/
def Run.extend (run : Run) (i : ℕ) : Run := if run.len = 0 then ⟨i, 1⟩ else ⟨run.start, run.len + 1⟩

/-- The first of the longest runs of zeros. -/
def longestRun : (index : ℕ) → (current best : Run) → List Text → Run
  | _, _, best, [] => best
  | i, current, best, hextet :: rest =>
      if hextet = ['0'] then
        let current := current.extend i
        longestRun (i + 1) current (if best.len < current.len then current else best) rest
      else longestRun (i + 1) ⟨0, 0⟩ best rest

def compressHextets (hextets : List Text) : List Text :=
  let run := longestRun 0 ⟨0, 0⟩ ⟨0, 0⟩ hextets
  if 1 < run.len then
    let ended := if run.start + run.len = hextets.length then hextets ++ [[]] else hextets
    let replaced := ended.take run.start ++ [[]] ++ ended.drop (run.start + run.len)
    if run.start = 0 then [] :: replaced else replaced
  else hextets

def printIPv6 (ip : ℕ) : Text := [':'].intercalate (compressHextets ((places 65536 8 ip).map (write 16)))

/-! ### Compression -/

/-- The run lies in the hextets. -/
def Within (hextets : List Text) (run : Run) : Prop :=
  ∃ before after, hextets = before ++ List.replicate run.len ['0'] ++ after ∧ before.length = run.start

/-- The run ends the hextets, if it is one. -/
def Ends (hextets : List Text) (run : Run) : Prop :=
  run.len = 0 ∨ ∃ before, hextets = before ++ List.replicate run.len ['0'] ∧ before.length = run.start

theorem Within.append (within : Within hextets run) (later : List Text) : Within (hextets ++ later) run := by
  obtain ⟨before, after, split, start⟩ := within
  exact ⟨before, after ++ later, by rw [split, List.append_assoc], start⟩

theorem Ends.extend (ends : Ends hextets run) :
    ∃ before, hextets ++ [['0']] = before ++ List.replicate (run.extend hextets.length).len ['0'] ∧
      before.length = (run.extend hextets.length).start := by
  rw [Run.extend]
  by_cases none : run.len = 0
  · rw [if_pos none]
    exact ⟨hextets, rfl, rfl⟩
  · rw [if_neg none]
    obtain ⟨before, split, start⟩ := ends.resolve_left none
    refine ⟨before, ?_, start⟩
    rw [split, List.append_assoc, ← List.replicate_succ']

theorem longestRun_within (hextets seen : List Text) (ends : Ends seen current) (within : Within seen best) :
    Within (seen ++ hextets) (longestRun seen.length current best hextets) := by
  induction hextets generalizing seen current best with
  | nil =>
    rw [List.append_nil]
    exact within
  | cons hextet rest ih =>
    have longer : (seen ++ [hextet]).length = seen.length + 1 := by simp
    rw [List.append_cons, longestRun]
    split
    · rename_i zero
      subst zero
      obtain ⟨before, run, start⟩ := ends.extend
      rw [← longer]
      refine ih _ (.inr ⟨before, run, start⟩) ?_
      split
      · exact ⟨before, [], by rw [List.append_nil, run], start⟩
      · exact within.append _
    · rw [← longer]
      exact ih _ (.inl rfl) (within.append _)

/-- What is left of the hextets, with an empty part at an end that has been left out. -/
def endPart (hextets : List Text) : List Text := if hextets = [] then [[]] else hextets

theorem compressHextets_spec (hextets : List Text) :
    compressHextets hextets = hextets ∨
      ∃ before after len, hextets = before ++ List.replicate len ['0'] ++ after ∧ 1 < len ∧
        compressHextets hextets = endPart before ++ [[]] ++ endPart after := by
  obtain ⟨before, after, split, start⟩ := longestRun_within hextets [] (.inl rfl : Ends [] ⟨0, 0⟩) (⟨[], [], rfl, rfl⟩ : Within [] ⟨0, 0⟩)
  rw [List.nil_append, List.length_nil] at split
  rw [List.length_nil] at start
  rw [compressHextets]
  generalize longestRun 0 ⟨0, 0⟩ ⟨0, 0⟩ hextets = run at split start
  by_cases long : 1 < run.len
  · refine .inr ⟨before, after, run.len, split, long, ?_⟩
    rw [if_pos long]
    have whole : run.start + run.len = (before ++ List.replicate run.len ['0']).length := by
      rw [List.length_append, List.length_replicate, start]
    have ended : (if run.start + run.len = hextets.length then hextets ++ [[]] else hextets) =
        before ++ List.replicate run.len ['0'] ++ endPart after := by
      by_cases last : after = []
      · subst last
        rw [List.append_nil] at split
        rw [if_pos (by rw [whole, split]), split, endPart, if_pos rfl]
      · have longer : run.start + run.len ≠ hextets.length := by
          have some_after := List.length_pos_iff.mpr last
          have count := congrArg List.length split
          rw [List.length_append] at count
          omega
        rw [if_neg longer, endPart, if_neg last, split]
    have high : (before ++ List.replicate run.len ['0'] ++ endPart after).take run.start = before := by
      rw [List.append_assoc, ← start, List.take_left]
    have low : (before ++ List.replicate run.len ['0'] ++ endPart after).drop (run.start + run.len) = endPart after := by
      rw [whole, List.drop_left]
    simp only [ended, high, low]
    by_cases first : before = []
    · subst first
      rw [if_pos (show run.start = 0 from start.symm)]
      rfl
    · have nonzero : run.start ≠ 0 := by
        rw [← start]
        exact fun zero => first (List.length_eq_zero_iff.mp zero)
      have kept : endPart before = before := if_neg first
      rw [if_neg nonzero, kept]
  · exact .inl (if_neg long)

/-! ### Reading what was written -/

theorem parseHextet_write (small : n < 65536) : parseHextet (write 16 n) = some n := by
  have digits : (write 16 n).all isHex = true := by
    refine List.all_eq_true.mpr fun c listed => ?_
    obtain ⟨d, bound, rfl⟩ := mem_write (by decide) listed
    exact hex_digitChar d bound
  have short := length_write_le (b := 16) (k := 4) (by decide) (show n < 16 ^ 4 by omega) (by decide)
  rw [parseHextet, digits, if_neg (by simp), if_neg (by omega), if_neg (write_ne_nil 16 n), read_write (by decide) (by decide)]

theorem parseAll_hextets (small : ∀ n ∈ ns, n < 65536) : parseAll parseHextet (ns.map (write 16)) = some ns :=
  parseAll_map fun n listed => parseHextet_write (small n listed)

theorem splitOnP_inside {before after : List Text} (high : [] ∉ before) (low : [] ∉ after) :
    (before ++ [] :: after).splitOnP List.isEmpty = [before, after] := by
  have full {parts : List Text} (absent : [] ∉ parts) : ∀ part ∈ parts, part.isEmpty = false := by
    intro part listed
    cases part with
    | nil => exact absurd listed absent
    | cons c rest => rfl
  rw [List.splitOnP_append_cons before after rfl, List.splitOnP_eq_singleton (full high), List.splitOnP_eq_singleton (full low)]
  rfl

theorem ends_of_endPart (whole : [] ∉ parts) :
    highHextets ((endPart parts).head?.getD []) (endPart parts).tail = some parts ∧
      lowHextets (endPart parts).dropLast ((endPart parts).getLast?.getD []) = some parts ∧
      [] ∉ (endPart parts).tail ∧ [] ∉ (endPart parts).dropLast := by
  by_cases none : parts = []
  · subst none
    simp [endPart, highHextets, lowHextets]
  · have kept : endPart parts = parts := if_neg none
    rw [kept]
    refine ⟨?_, ?_, fun listed => whole (List.mem_of_mem_tail listed), fun listed => whole (List.mem_of_mem_dropLast listed)⟩
    · obtain ⟨first, rest, rfl⟩ := List.exists_cons_of_ne_nil none
      have nonempty : first ≠ [] := fun empty => whole (empty ▸ List.mem_cons_self)
      rw [List.head?_cons, Option.getD_some, List.tail_cons, highHextets, if_neg nonempty]
    · obtain ⟨rest, last, rfl⟩ := (List.eq_nil_or_concat parts).resolve_left none
      rw [List.concat_eq_append] at whole ⊢
      have nonempty : last ≠ [] := fun empty => whole (by simp [empty])
      rw [List.getLast?_concat, Option.getD_some, List.dropLast_concat, lowHextets, if_neg nonempty]

/-- Parts with a double colon are read as the hextets around it and zeros between. -/
theorem parseParts_compressed (high : ∀ n ∈ hi, n < 65536) (low : ∀ n ∈ lo, n < 65536) (short : hi.length + lo.length ≤ 7) :
    parseParts (endPart (hi.map (write 16)) ++ [[]] ++ endPart (lo.map (write 16))) =
      some (ofPlaces 65536 (hi ++ List.replicate (8 - (hi.length + lo.length)) 0 ++ lo)) := by
  have whole (ns : List ℕ) : [] ∉ ns.map (write 16) := by
    intro listed
    obtain ⟨n, -, empty⟩ := List.mem_map.mp listed
    exact write_ne_nil 16 n empty
  obtain ⟨above, -, inner, -⟩ := ends_of_endPart (whole hi)
  obtain ⟨-, below, -, inner'⟩ := ends_of_endPart (whole lo)
  have nonempty (parts : List Text) : endPart parts ≠ [] := by
    rw [endPart]
    split
    · exact List.cons_ne_nil _ _
    · assumption
  obtain ⟨first, before, front⟩ := List.exists_cons_of_ne_nil (nonempty (hi.map (write 16)))
  obtain ⟨after, last, back⟩ := (List.eq_nil_or_concat _).resolve_left (nonempty (lo.map (write 16)))
  rw [List.concat_eq_append] at back
  rw [front, List.head?_cons, Option.getD_some, List.tail_cons] at above
  rw [front, List.tail_cons] at inner
  rw [back, List.getLast?_concat, Option.getD_some, List.dropLast_concat] at below
  rw [back, List.dropLast_concat] at inner'
  have tail : (first :: before ++ [[]] ++ (after ++ [last])).tail.dropLast = before ++ [] :: after := by
    rw [List.cons_append, List.cons_append, List.tail_cons, ← List.append_assoc, List.dropLast_concat, List.append_assoc]
    rfl
  have final : (first :: before ++ [[]] ++ (after ++ [last])).getLast? = some last := by
    rw [← List.append_assoc, List.getLast?_concat]
  rw [front, back, parseParts, tail, final, splitOnP_inside inner inner']
  simp only [List.cons_append, List.head?_cons, Option.getD_some, above, below, Option.bind_eq_bind, Option.bind_some, List.length_map]
  rw [if_neg (by omega), parseAll_hextets high, Option.bind_some, parseAll_hextets low, Option.bind_some]

theorem parseParts_whole (small : ∀ n ∈ ns, n < 65536) (count : ns.length = 8) :
    parseParts (ns.map (write 16)) = some (ofPlaces 65536 ns) := by
  have whole : [] ∉ ns.map (write 16) := by
    intro listed
    obtain ⟨n, -, empty⟩ := List.mem_map.mp listed
    exact write_ne_nil 16 n empty
  have inner : ∀ part ∈ (ns.map (write 16)).tail.dropLast, part.isEmpty = false := by
    intro part listed
    cases part with
    | nil => exact absurd (List.mem_of_mem_tail (List.mem_of_mem_dropLast listed)) whole
    | cons c rest => rfl
  have nonempty : ns.map (write 16) ≠ [] := List.ne_nil_of_length_pos (by rw [List.length_map, count]; decide)
  have first : (ns.map (write 16)).head?.getD [] ≠ [] := by
    rw [List.head?_eq_some_head nonempty, Option.getD_some]
    exact fun empty => whole (empty ▸ List.head_mem nonempty)
  have last : (ns.map (write 16)).getLast?.getD [] ≠ [] := by
    rw [List.getLast?_eq_some_getLast nonempty, Option.getD_some]
    exact fun empty => whole (empty ▸ List.getLast_mem nonempty)
  rw [parseParts, List.splitOnP_eq_singleton inner]
  simp only [first, last, List.length_map, count, ne_eq, not_true_eq_false, or_self, if_false, parseAll_hextets small, Option.map_some]

theorem length_endPart (parts : List Text) : 1 ≤ (endPart parts).length ∧ (endPart parts).length ≤ parts.length + 1 := by
  rw [endPart]
  split
  · exact ⟨le_rfl, by simp⟩
  · rename_i some_part
    exact ⟨List.length_pos_iff.mpr some_part, by omega⟩

theorem mem_endPart (listed : part ∈ endPart parts) : part = [] ∨ part ∈ parts := by
  rw [endPart] at listed
  split at listed
  · exact .inl (List.mem_singleton.mp listed)
  · exact .inr listed

/-- What the compressed hextets of an address are, and how they are read. -/
theorem compressed_spec (bound : ip < 2 ^ 128) :
    let parts := compressHextets ((places 65536 8 ip).map (write 16))
    (∀ part ∈ parts, part = [] ∨ ∃ n < 65536, part = write 16 n) ∧ 3 ≤ parts.length ∧ parts.length ≤ 9 ∧ parseParts parts = some ip := by
  intro parts
  have small : ∀ n ∈ places 65536 8 ip, n < 65536 := fun n listed => lt_of_mem_places (by decide) listed
  have back : ofPlaces 65536 (places 65536 8 ip) = ip := ofPlaces_places (show ip < 65536 ^ 8 by omega)
  rcases compressHextets_spec ((places 65536 8 ip).map (write 16)) with whole | ⟨before, after, len, split, long, compressed⟩
  · have count : parts.length = 8 := by
      rw [show parts = (places 65536 8 ip).map (write 16) from whole, List.length_map, length_places]
    refine ⟨?_, by omega, by omega, ?_⟩
    · intro part listed
      rw [show parts = (places 65536 8 ip).map (write 16) from whole] at listed
      obtain ⟨n, member, rfl⟩ := List.mem_map.mp listed
      exact .inr ⟨n, small n member, rfl⟩
    · rw [show parts = (places 65536 8 ip).map (write 16) from whole, parseParts_whole small (length_places _ _ _), back]
  · obtain ⟨high, lo, split', front, rfl⟩ := List.map_eq_append_iff.mp split
    obtain ⟨hi, zeros, rfl, rfl, run⟩ := List.map_eq_append_iff.mp front
    have blank : zeros = List.replicate len 0 := by
      refine List.eq_replicate_iff.mpr ⟨?_, ?_⟩
      · have count := congrArg List.length run
        rwa [List.length_map, List.length_replicate] at count
      · intro n listed
        have zero : write 16 n = ['0'] := by
          have member := List.mem_map_of_mem (f := write 16) listed
          rw [run] at member
          exact List.eq_of_mem_replicate member
        rw [← read_write (by decide : 1 < 16) le_rfl n, zero]
        decide
    have count := length_places 65536 8 ip
    rw [split', blank, List.length_append, List.length_append, List.length_replicate] at count
    have lengths := length_endPart (hi.map (write 16))
    have lengths' := length_endPart (lo.map (write 16))
    rw [List.length_map] at lengths lengths'
    have total : parts.length = (endPart (hi.map (write 16))).length + 1 + (endPart (lo.map (write 16))).length := by
      rw [show parts = _ from compressed, List.length_append, List.length_append, List.length_singleton]
    rw [split'] at small back
    have high : ∀ n ∈ hi, n < 65536 := fun n listed => small n (by simp [listed])
    have low : ∀ n ∈ lo, n < 65536 := fun n listed => small n (by simp [listed])
    refine ⟨?_, by omega, by omega, ?_⟩
    · intro part listed
      rw [show parts = _ from compressed, List.mem_append, List.mem_append, List.mem_singleton] at listed
      have written {ns : List ℕ} (small : ∀ n ∈ ns, n < 65536) (listed : part ∈ endPart (ns.map (write 16))) :
          part = [] ∨ ∃ n < 65536, part = write 16 n := by
        rcases mem_endPart listed with empty | member
        · exact .inl empty
        · obtain ⟨n, held, rfl⟩ := List.mem_map.mp member
          exact .inr ⟨n, small n held, rfl⟩
      rcases listed with (above | empty) | below
      · exact written high above
      · exact .inl empty
      · exact written low below
    · have skipped : 8 - (hi.length + lo.length) = len := by omega
      rw [show parts = _ from compressed, parseParts_compressed high low (by omega), skipped, ← blank, back]

theorem mem_intercalate {sep c : Char} {parts : List Text} (listed : c ∈ [sep].intercalate parts) : c = sep ∨ ∃ part ∈ parts, c ∈ part := by
  induction parts with
  | nil => cases listed
  | cons part rest ih =>
    cases rest with
    | nil =>
      rw [List.intercalate_singleton] at listed
      exact .inr ⟨part, List.mem_cons_self, listed⟩
    | cons next others =>
      rw [List.intercalate_cons_cons, List.mem_append, List.mem_append, List.mem_singleton] at listed
      rcases listed with (first | separator) | later
      · exact .inr ⟨part, List.mem_cons_self, first⟩
      · exact .inl separator
      · exact (ih later).imp_right fun ⟨part, member, inside⟩ => ⟨part, List.mem_cons_of_mem _ member, inside⟩

theorem length_intercalate_le (sep : Char) {parts : List Text} (short : ∀ part ∈ parts, part.length ≤ k) :
    ([sep].intercalate parts).length ≤ parts.length * (k + 1) := by
  induction parts with
  | nil => exact Nat.zero_le _
  | cons part rest ih =>
    obtain ⟨here, later⟩ := List.forall_mem_cons.mp short
    have rest_short := ih later
    cases rest with
    | nil =>
      rw [List.intercalate_singleton, List.length_singleton]
      omega
    | cons next others =>
      rw [List.intercalate_cons_cons, List.length_append, List.length_append, List.length_singleton, List.length_cons, Nat.succ_mul]
      omega

theorem splitOn_printIPv6 (bound : ip < 2 ^ 128) :
    (printIPv6 ip).splitOn ':' = compressHextets ((places 65536 8 ip).map (write 16)) := by
  obtain ⟨parts, long, -, -⟩ := compressed_spec bound
  refine List.splitOn_intercalate ':' ?_ (List.ne_nil_of_length_pos (by omega))
  intro part listed
  rcases parts part listed with rfl | ⟨n, -, rfl⟩
  · exact List.not_mem_nil
  · exact not_mem_write (by decide) (by decide) (by decide)

/-- Every IPv6 address is read back from its compressed text. -/
theorem parseIPv6Int_printIPv6 (bound : ip < 2 ^ 128) : parseIPv6Int (printIPv6 ip) = some ip := by
  obtain ⟨parts, long, short, parsed⟩ := compressed_spec bound
  have unsuffixed : foldSuffix (compressHextets ((places 65536 8 ip).map (write 16))) =
      some (compressHextets ((places 65536 8 ip).map (write 16))) := by
    refine if_neg fun dotted => ?_
    obtain ⟨before, last, split⟩ := (List.eq_nil_or_concat (compressHextets ((places 65536 8 ip).map (write 16)))).resolve_left
      (List.ne_nil_of_length_pos (by omega))
    rw [List.concat_eq_append] at split
    rw [split, List.getLast?_concat, Option.getD_some] at dotted
    rcases parts last (by rw [split]; simp) with rfl | ⟨n, -, rfl⟩
    · cases dotted
    · exact not_mem_write (by decide) (by decide) (by decide) dotted
  rw [parseIPv6Int, splitOn_printIPv6 bound, if_neg (by omega), unsuffixed, Option.bind_some, if_neg (by omega), parsed]

theorem mem_printIPv6 (bound : ip < 2 ^ 128) (listed : c ∈ printIPv6 ip) : c = ':' ∨ isHex c = true := by
  obtain ⟨parts, -, -, -⟩ := compressed_spec bound
  refine (mem_intercalate listed).imp_right ?_
  rintro ⟨part, member, inside⟩
  rcases parts part member with rfl | ⟨n, -, rfl⟩
  · cases inside
  · obtain ⟨d, small, rfl⟩ := mem_write (by decide) inside
    exact hex_digitChar d small

theorem length_printIPv6 (bound : ip < 2 ^ 128) : (printIPv6 ip).length ≤ 45 := by
  obtain ⟨parts, -, few, -⟩ := compressed_spec bound
  have short : ∀ part ∈ compressHextets ((places 65536 8 ip).map (write 16)), part.length ≤ 4 := by
    intro part listed
    rcases parts part listed with rfl | ⟨n, small, rfl⟩
    · exact Nat.zero_le _
    · exact length_write_le (by decide) (show n < 16 ^ 4 by omega) (by decide)
  have length := length_intercalate_le ':' short
  rw [printIPv6]
  omega

/-! ### Bounds -/

theorem digitValue_lt (digit : isHex c = true) : digitValue c < 16 := by
  rw [digitValue]
  by_cases decimal : isDecimal c = true
  · have high : c.toNat ≤ 57 := of_decide_eq_true (Bool.and_eq_true_iff.mp decimal).2
    rw [if_pos decimal, show '0'.toNat = 48 from rfl]
    omega
  · rw [if_neg decimal]
    rw [isHex, Bool.eq_false_of_not_eq_true decimal, Bool.false_or, Bool.or_eq_true] at digit
    rcases digit with lower | upper
    · obtain ⟨low, high⟩ := Bool.and_eq_true_iff.mp lower
      have high' : c.toNat ≤ 102 := of_decide_eq_true high
      rw [if_pos (of_decide_eq_true low), show 'a'.toNat = 97 from rfl]
      omega
    · have high : c.toNat ≤ 70 := of_decide_eq_true (Bool.and_eq_true_iff.mp upper).2
      have small : ¬ 'a' ≤ c := fun (low : 97 ≤ c.toNat) => by omega
      rw [if_neg small, show 'A'.toNat = 65 from rfl]
      omega

theorem parseHextet_lt (parsed : parseHextet text = some n) : n < 65536 := by
  unfold parseHextet at parsed
  split_ifs at parsed with digits long
  obtain rfl := Option.some.inj parsed
  have hex : ∀ c ∈ text, isHex c = true := List.all_eq_true.mp (by simpa using digits)
  have small : ∀ d ∈ (text.map digitValue).reverse, d < 16 := by
    intro d listed
    obtain ⟨c, member, rfl⟩ := List.mem_map.mp (List.mem_reverse.mp listed)
    exact digitValue_lt (hex c member)
  have bound := Nat.ofDigits_lt_base_pow_length (by decide) small
  rw [List.length_reverse, List.length_map] at bound
  have power : 16 ^ text.length ≤ 16 ^ 4 := Nat.pow_le_pow_right (by decide) (by omega)
  exact bound.trans_le power

theorem lt_of_parseParts (parsed : parseParts parts = some ip) : ip < 2 ^ 128 := by
  have bounded {ns : List ℕ} (small : ∀ n ∈ ns, n < 65536) (count : ns.length = 8) : ofPlaces 65536 ns < 2 ^ 128 := by
    have bound := ofPlaces_lt small
    rwa [count] at bound
  have hextets {texts : List Text} {ns : List ℕ} (all : parseAll parseHextet texts = some ns) : ∀ n ∈ ns, n < 65536 :=
    forall_of_parseAll (fun _ _ parsed => parseHextet_lt parsed) all
  unfold parseParts at parsed
  simp only at parsed
  split at parsed
  · split at parsed
    · cases parsed
    · rename_i whole
      obtain ⟨ns, all, rfl⟩ := Option.map_eq_some_iff.mp parsed
      exact bounded (hextets all) ((length_of_parseAll all).trans (by omega))
  · obtain ⟨high, -, parsed⟩ := Option.bind_eq_some_iff.mp parsed
    obtain ⟨low, -, parsed⟩ := Option.bind_eq_some_iff.mp parsed
    split at parsed
    · cases parsed
    · obtain ⟨hi, above, parsed⟩ := Option.bind_eq_some_iff.mp parsed
      obtain ⟨lo, below, parsed⟩ := Option.bind_eq_some_iff.mp parsed
      obtain rfl := Option.some.inj parsed
      refine bounded ?_ ?_
      · intro n listed
        simp only [List.mem_append, List.mem_replicate] at listed
        rcases listed with (member | ⟨-, rfl⟩) | member
        · exact hextets above n member
        · decide
        · exact hextets below n member
      · rw [List.length_append, List.length_append, List.length_replicate, length_of_parseAll above, length_of_parseAll below]
        omega
  · cases parsed

theorem lt_of_parseIPv6Int (parsed : parseIPv6Int text = some ip) : ip < 2 ^ 128 := by
  unfold parseIPv6Int at parsed
  simp only at parsed
  split at parsed
  · cases parsed
  · obtain ⟨parts, -, parsed⟩ := Option.bind_eq_some_iff.mp parsed
    split at parsed
    · cases parsed
    · exact lt_of_parseParts parsed

/-! ### Zones -/

/-- A zone as an address can carry it. -/
def ZoneText (scope : Text) : Prop := scope ≠ [] ∧ '%' ∉ scope ∧ '/' ∉ scope

def printScoped (address : IPv6) : Text := printIPv6 address.ip ++ address.scope.elim [] fun scope => '%' :: scope

theorem splitScope_append (plain : '%' ∉ text) (scope : Option Text) (zone : ∀ s ∈ scope, ZoneText s) :
    splitScope (text ++ scope.elim [] fun s => '%' :: s) = some (text, scope) := by
  have all : ∀ c ∈ text, decide (c ≠ '%') = true := fun c listed => decide_eq_true fun same => plain (same ▸ listed)
  rw [splitScope, List.takeWhile_append_of_pos all, List.dropWhile_append_of_pos all]
  cases scope with
  | none => simp
  | some s =>
    obtain ⟨nonempty, once, -⟩ := zone s rfl
    simp [nonempty, once]

/-- An address with its zone is read back. -/
theorem parseIPv6_printScoped (bound : address.ip < 2 ^ 128) (zone : ∀ s ∈ address.scope, ZoneText s) :
    parseIPv6 (printScoped address) = some address := by
  have plain (c : Char) (other : c ≠ ':' ∧ isHex c = false) : c ∉ printIPv6 address.ip := by
    intro listed
    rcases mem_printIPv6 bound listed with colon | hex
    · exact other.1 colon
    · exact Bool.false_ne_true (other.2.symm.trans hex)
  have unslashed : '/' ∉ printScoped address := by
    rw [printScoped, List.mem_append, not_or]
    refine ⟨plain '/' (by decide), ?_⟩
    cases held : address.scope with
    | none => simp
    | some s => simpa using (zone s held).2.2
  have split := splitScope_append (plain '%' (by decide)) address.scope zone
  rw [parseIPv6, if_neg unslashed, printScoped, split, Option.bind_some]
  simp only [parseIPv6Int_printIPv6 bound, Option.map_some]

theorem parseIPv6_spec (parsed : parseIPv6 text = some address) :
    address.ip < 2 ^ 128 ∧ (∀ s ∈ address.scope, ZoneText s) ∧ '/' ∉ text := by
  unfold parseIPv6 at parsed
  split at parsed
  · cases parsed
  · rename_i unslashed
    obtain ⟨⟨body, scope⟩, split, parsed⟩ := Option.bind_eq_some_iff.mp parsed
    obtain ⟨ip, value, rfl⟩ := Option.map_eq_some_iff.mp parsed
    refine ⟨lt_of_parseIPv6Int value, ?_, unslashed⟩
    rintro s held
    obtain rfl : scope = some s := held
    unfold splitScope at split
    split at split
    · cases split
    · rename_i rest dropped
      split at split
      · cases split
      · rename_i zone
        obtain rfl := Option.some.inj (Prod.mk.inj (Option.some.inj split)).2
        rw [not_or] at zone
        refine ⟨zone.1, zone.2, fun slash => unslashed ?_⟩
        refine (List.dropWhile_sublist fun c => decide (c ≠ '%')).subset ?_
        rw [dropped]
        exact List.mem_cons_of_mem _ slash

end IpText

/-! Addresses of either version, read back from their text, and the networks they lie in. -/
namespace IpText
open Numerals

/-- An address as the text of one is read: in range, and its zone such as an address can carry. -/
inductive IPAddress where
  | v4 (ip : ℕ) (bound : ip < 2 ^ 32)
  | v6 (address : IPv6) (bound : address.ip < 2 ^ 128) (zone : ∀ s ∈ address.scope, ZoneText s)
deriving DecidableEq

def IPAddress.str : IPAddress → Text
  | .v4 ip _ => printIPv4 ip
  | .v6 address _ _ => printScoped address

/-- An address of version 4 if the text is one, and else of version 6. -/
def ipAddress (text : Text) : Option IPAddress :=
  match four : parseIPv4 text with
  | some ip => some (.v4 ip (printIPv4_of_parseIPv4 four).2)
  | none =>
      match six : parseIPv6 text with
      | some address => some (.v6 address (parseIPv6_spec six).1 (parseIPv6_spec six).2.1)
      | none => none

theorem ipAddress_of_four (parsed : parseIPv4 text = some ip) :
    ipAddress text = some (.v4 ip (printIPv4_of_parseIPv4 parsed).2) := by
  rw [ipAddress]
  split
  · rename_i read four
    obtain rfl := Option.some.inj (four.symm.trans parsed)
    rfl
  · rename_i none
    cases none.symm.trans parsed

theorem ipAddress_of_six (not_four : parseIPv4 text = none) (parsed : parseIPv6 text = some address) :
    ipAddress text = some (.v6 address (parseIPv6_spec parsed).1 (parseIPv6_spec parsed).2.1) := by
  rw [ipAddress]
  split
  · rename_i read four
    cases four.symm.trans not_four
  · split
    · rename_i read six
      obtain rfl := Option.some.inj (six.symm.trans parsed)
      rfl
    · rename_i none
      cases none.symm.trans parsed

theorem mem_printIPv4 (listed : c ∈ printIPv4 ip) : c = '.' ∨ isHex c = true := by
  refine (mem_intercalate listed).imp_right ?_
  rintro ⟨part, member, inside⟩
  obtain ⟨n, -, rfl⟩ := List.mem_map.mp member
  obtain ⟨d, small, rfl⟩ := mem_write (by decide) inside
  exact hex_digitChar d (by omega)

/-- The text of an IPv6 address has a colon. -/
theorem colon_mem_printIPv6 (bound : ip < 2 ^ 128) : ':' ∈ printIPv6 ip := by
  by_contra absent
  have split := splitOn_printIPv6 bound
  rw [List.splitOn_eq_singleton absent] at split
  obtain ⟨-, long, -⟩ := compressed_spec bound
  rw [← split, List.length_singleton] at long
  omega

theorem parseIPv4_printScoped (bound : address.ip < 2 ^ 128) : parseIPv4 (printScoped address) = none := by
  by_contra some_ip
  obtain ⟨ip, parsed⟩ := Option.ne_none_iff_exists'.mp some_ip
  have colon : ':' ∈ printScoped address := List.mem_append_left _ (colon_mem_printIPv6 bound)
  rw [← (printIPv4_of_parseIPv4 parsed).1] at colon
  rcases mem_printIPv4 colon with dot | hex
  · cases dot
  · cases hex

/-- Every address is read back from its text. -/
theorem ipAddress_str (address : IPAddress) : ipAddress address.str = some address := by
  cases address with
  | v4 ip bound => exact ipAddress_of_four (parseIPv4_printIPv4 bound)
  | v6 address bound zone => exact ipAddress_of_six (parseIPv4_printScoped bound) (parseIPv6_printScoped bound zone)

/-! ### Networks -/

inductive Version where
  | four
  | six
deriving DecidableEq

def Version.bits : Version → ℕ
  | .four => 32
  | .six => 128

def IPAddress.version : IPAddress → Version
  | .v4 .. => .four
  | .v6 .. => .six

def IPAddress.toNat : IPAddress → ℕ
  | .v4 ip _ => ip
  | .v6 address _ _ => address.ip

/-- The addresses of one version whose first `prefixlen` bits are those of `address`. -/
structure IPNetwork where
  version : Version
  address : ℕ
  prefixlen : ℕ
  bound : prefixlen ≤ version.bits

def IPNetwork.contains (network : IPNetwork) (address : IPAddress) : Bool :=
  decide (address.version = network.version) &&
    decide (address.toNat / 2 ^ (network.version.bits - network.prefixlen) = network.address / 2 ^ (network.version.bits - network.prefixlen))

/-- The number of ones that a mask begins with, where only zeros follow. -/
def prefixOfMask (mask : ℕ) : Option ℕ := (List.range 33).find? fun p => decide (mask = 2 ^ 32 - 2 ^ (32 - p))

/-- A length in decimal, or for version 4 a mask of the network's bits or of the host's. -/
def parsePrefix (version : Version) (text : Text) : Option ℕ :=
  if text ≠ [] ∧ text.all isDecimal ∧ read 10 text ≤ version.bits then some (read 10 text)
  else match version with
    | .four => (parseIPv4 text).bind fun mask => (prefixOfMask mask).orElse fun _ => prefixOfMask (2 ^ 32 - 1 - mask)
    | .six => none

/-- A network of an address and a length; the address may have bits beyond the length. -/
def ipNetwork (text : Text) : Option IPNetwork :=
  match text.splitOn '/' with
  | [address] => (ipAddress address).map fun address => ⟨address.version, address.toNat, address.version.bits, le_rfl⟩
  | [address, length] => (ipAddress address).bind fun address => (parsePrefix address.version length).bind fun prefixlen =>
      if bound : prefixlen ≤ address.version.bits then some ⟨address.version, address.toNat, prefixlen, bound⟩ else none
  | _ => none

end IpText
