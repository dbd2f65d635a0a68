import RetinaServer.Tcp.Framing

/-! When the read loop handles the lines of a stream as the protocol asks, however
the stream is cut into reads. -/
namespace Retina.Tcp
open OrderedDict Runs Delimited
open Frames (QueueShape)

section
variable {q : QueueShape}

/-- A connection that was just taken. -/
def Session.start (server : Server q) (peer : String) : Session q := { server, conn := { peer } }

/-- The message is of a known shape or of no known type. -/
def harmless (w : Listener) (s : Server q) (conn : Conn) (now : Clock) : Loaded → Bool
  | .malformed => true
  | .undecodable => false
  | .value msg => knownShape w s conn msg now || isUnknown msg

section
variable (w : Listener) (loads : Bytes → Loaded) (around : Nat → Surroundings q)

/-- The line raises nothing: the connection is finished, the line is blank, or what it loads as is harmless. -/
def Admissible (s : Session q) (line : Bytes) : Prop :=
  s.left = true ∨ (strip line).isEmpty = true ∨
    harmless w ((around s.lines).others s.server) s.conn (around s.lines).now (loads (strip line)) = true

end

/-- What is read fits into the buffer. -/
def Fits (r : Session q × Bytes) (chunk : Bytes) : Prop := r.1.left = true ∨ (r.2 ++ chunk).length ≤ MAX_BUF_SIZE

variable {w : Listener} {loads : Bytes → Loaded} {around : Nat → Surroundings q}

/-! ### One line -/

theorem open_of_not_left {s : Session q} (here : s.left = false) : s.broken = false ∧ s.conn.ended = false := by
  simpa [Session.left] using here

theorem handleValue_broken (s : Session q) (at_ : Surroundings q) (msg : Json) (open_ : s.conn.ended = false) :
    (handleValue w s at_ msg).broken = !(knownShape w s.server s.conn msg at_.now || isUnknown msg) :=
  faulted_handleMessage w s.server s.conn msg at_.now at_.sent open_

/-- An object of no known type is read and leaves nothing behind. -/
theorem handleValue_of_unknown {s : Session q} (at_ : Surroundings q) {msg : Json} (unknown : isUnknown msg = true)
    (here : s.left = false) : handleValue w s at_ msg = s := by
  obtain ⟨whole, open_⟩ := open_of_not_left here
  cases msg with
  | dict fields =>
    have kind : kindOf fields = .other := by simpa [isUnknown] using unknown
    cases s
    simp_all [handleValue, handleMessage, dispatches]
  | null | bool _ | int _ | float _ | str _ | list _ => cases unknown

/-- What the protocol has dispatched of a line: the message it is, where it is one of a known shape. -/
def dispatched? (w : Listener) (loads : Bytes → Loaded) (around : Nat → Surroundings q) (s : Session q)
    (line : Bytes) : Option Json :=
  if s.left || (strip line).isEmpty then none
  else match loads (strip line) with
    | .value msg =>
        if knownShape w ((around s.lines).others s.server) s.conn msg (around s.lines).now then some msg else none
    | _ => none

/-- A message of a known shape has a branch of its own. -/
theorem dispatches_of_knownShape (s : Server q) (conn : Conn) (msg : Json) (now : Clock)
    (known : knownShape w s conn msg now = true) : dispatches msg = true := by
  cases msg with
  | dict fields =>
    simp only [dispatches, decide_eq_true_eq]
    intro other
    simp [knownShape, other] at known
  | null | bool _ | int _ | float _ | str _ | list _ => cases known

/-- The reader the protocol asks for dispatches the messages of a known shape, in order. -/
theorem tolerantLine_dispatched (s : Session q) (line : Bytes) :
    (tolerantLine w loads around s line).dispatched = s.dispatched ++ (dispatched? w loads around s line).toList := by
  simp only [tolerantLine, dispatched?]
  cases s.left with
  | true => simp
  | false =>
    cases (strip line).isEmpty with
    | true => simp [nextLine]
    | false =>
      cases loads (strip line) with
      | malformed | undecodable => simp [nextLine]
      | value msg =>
        simp only [Bool.false_eq_true, Bool.or_self, if_false]
        by_cases known : knownShape w ((around s.lines).others s.server) s.conn msg (around s.lines).now = true
        · have branch := dispatches_of_knownShape _ _ msg _ known
          simp [nextLine, known, handleValue, branch]
        · simp [nextLine, known]

theorem tolerantLine_broken (s : Session q) (line : Bytes) (whole : s.broken = false) :
    (tolerantLine w loads around s line).broken = false := by
  simp only [tolerantLine]
  split
  · exact whole
  · rename_i here
    rw [Bool.not_eq_true] at here
    split
    · exact whole
    · split
      · rename_i msg loaded
        split
        · rename_i known
          rw [handleValue_broken (nextLine s _) _ msg (open_of_not_left here).2, known]
          rfl
        · exact whole
      · exact whole

theorem handleLine_of_left {s : Session q} (finished : s.left = true) (line : Bytes) :
    handleLine w loads around s line = s := by
  simp only [handleLine, finished, if_true]

/-- On an admissible line the loop does what the protocol asks. -/
theorem handleLine_of_admissible {s : Session q} {line : Bytes} (fine : Admissible w loads around s line) :
    handleLine w loads around s line = tolerantLine w loads around s line := by
  simp only [handleLine, tolerantLine]
  split
  · rfl
  · rename_i here
    rw [Bool.not_eq_true] at here
    split
    · rfl
    · rename_i full
      have safe := (fine.resolve_left (by simp [here])).resolve_left full
      cases loaded : loads (strip line) with
      | malformed => rfl
      | undecodable => simp [loaded, harmless] at safe
      | value msg =>
        simp only
        split
        · rfl
        · rename_i strange
          rw [Bool.not_eq_true] at strange
          simp only [nextLine] at strange
          refine handleValue_of_unknown _ ?_ here
          simpa [loaded, harmless, strange] using safe

/-- On any other line it is ended by an exception. -/
theorem handleLine_of_not_admissible {s : Session q} {line : Bytes} (fatal : ¬ Admissible w loads around s line) :
    (handleLine w loads around s line).broken = true := by
  simp only [Admissible, not_or] at fatal
  obtain ⟨here, full, harm⟩ := fatal
  rw [Bool.not_eq_true] at here harm
  simp only [handleLine, here, full, Bool.false_eq_true, if_false]
  cases loaded : loads (strip line) with
  | malformed => simp [loaded, harmless] at harm
  | undecodable => rfl
  | value msg =>
    simp only
    rw [handleValue_broken (nextLine s _) _ msg (open_of_not_left here).2]
    simpa [loaded, harmless, nextLine] using harm

/-! ### The lines of a chunk -/

theorem foldl_handleLine_of_left {s : Session q} (finished : s.left = true) (lines : List Bytes) :
    lines.foldl (handleLine w loads around) s = s := by
  induction lines with
  | nil => rfl
  | cons line rest ih => rw [List.foldl_cons, handleLine_of_left finished, ih]

theorem foldl_tolerantLine_broken (s : Session q) (lines : List Bytes) (whole : s.broken = false) :
    (lines.foldl (tolerantLine w loads around) s).broken = false := by
  have kept : ∀ (s : Session q) line, s.broken = false → (tolerantLine w loads around s line).broken = false := tolerantLine_broken
  exact invariant_always (I := fun s : Session q => s.broken = false) kept whole lines

theorem foldl_handleLine (s : Session q) (lines : List Bytes)
    (fine : Along (tolerantLine w loads around) (Admissible w loads around) s lines) :
    lines.foldl (handleLine w loads around) s = lines.foldl (tolerantLine w loads around) s := by
  induction lines generalizing s with
  | nil => rfl
  | cons line rest ih =>
    rw [List.foldl_cons, List.foldl_cons, handleLine_of_admissible fine.1]
    exact ih _ fine.2

theorem foldl_handleLine_broken (s : Session q) (lines : List Bytes)
    (fatal : ¬ Along (tolerantLine w loads around) (Admissible w loads around) s lines) :
    (lines.foldl (handleLine w loads around) s).broken = true := by
  induction lines generalizing s with
  | nil => exact absurd trivial fatal
  | cons line rest ih =>
    rw [List.foldl_cons]
    by_cases fine : Admissible w loads around s line
    · rw [handleLine_of_admissible fine]
      exact ih _ fun later => fatal ⟨fine, later⟩
    · have finished := handleLine_of_not_admissible fine
      rw [foldl_handleLine_of_left (by simp [Session.left, finished])]
      exact finished

/-! ### The reads -/

/-- The loop and the reader the protocol asks for are in the same session, and in the same line of it. -/
def Alike (r r' : Session q × Bytes) : Prop := r.1 = r'.1 ∧ (r.1.left = true ∨ r.2 = r'.2)

/-- A read that fits, with lines that are all admissible. -/
def Sound (w : Listener) (loads : Bytes → Loaded) (around : Nat → Surroundings q) (r : Session q × Bytes)
    (chunk : Bytes) : Prop :=
  Fits r chunk ∧ Along (tolerantLine w loads around) (Admissible w loads around) r.1
    (pieces newline [] (r.2 ++ chunk)).1

theorem tolerantLine_of_left {s : Session q} (finished : s.left = true) (line : Bytes) :
    tolerantLine w loads around s line = s := by
  simp only [tolerantLine, finished, if_true]

theorem foldl_tolerantLine_of_left {s : Session q} (finished : s.left = true) (lines : List Bytes) :
    lines.foldl (tolerantLine w loads around) s = s := by
  induction lines with
  | nil => rfl
  | cons line rest ih => rw [List.foldl_cons, tolerantLine_of_left finished, ih]

/-- Nothing is fatal once the connection is finished. -/
theorem along_admissible_of_left {s : Session q} (finished : s.left = true) (lines : List Bytes) :
    Along (tolerantLine w loads around) (Admissible w loads around) s lines := by
  induction lines with
  | nil => trivial
  | cons line rest ih =>
    refine ⟨.inl finished, ?_⟩
    rwa [tolerantLine_of_left finished]

theorem readChunk_of_sound {r r' : Session q × Bytes} {chunk : Bytes} (alike : Alike r r')
    (sound : Sound w loads around r' chunk) :
    Alike (readChunk w loads around r chunk) (feed newline (tolerantLine w loads around) r' chunk) := by
  obtain ⟨same, rest⟩ := alike
  by_cases finished : r.1.left = true
  · simp only [readChunk, finished, if_true]
    refine ⟨?_, .inl finished⟩
    rw [same] at finished
    rw [feed, foldl_tolerantLine_of_left finished, same]
  · have line := rest.resolve_left finished
    have fits := sound.1.resolve_left (by rwa [← same])
    rw [← line] at fits
    simp only [readChunk, finished, if_false, Nat.not_lt.mpr fits, Bool.false_eq_true]
    simp only [feed, same, line]
    exact ⟨foldl_handleLine _ _ sound.2, .inr rfl⟩

theorem readChunk_of_not_sound {r r' : Session q × Bytes} {chunk : Bytes} (alike : Alike r r')
    (fatal : ¬ Sound w loads around r' chunk) : (readChunk w loads around r chunk).1.broken = true := by
  obtain ⟨same, rest⟩ := alike
  have finished : ¬ r.1.left = true := by
    intro finished
    rw [same] at finished
    exact fatal ⟨.inl finished, along_admissible_of_left finished _⟩
  have line := rest.resolve_left finished
  by_cases fits : MAX_BUF_SIZE < (r.2 ++ chunk).length
  · simp only [readChunk, finished, fits, if_true, if_false, Bool.false_eq_true]
  · simp only [readChunk, finished, fits, if_false, Bool.false_eq_true]
    simp only [feed, same, line]
    refine foldl_handleLine_broken _ _ fun fine => fatal ⟨.inr ?_, fine⟩
    rw [← line]
    exact Nat.not_lt.mp fits

theorem foldl_readChunk_of_broken {r : Session q × Bytes} (finished : r.1.broken = true) (chunks : List Bytes) :
    chunks.foldl (readChunk w loads around) r = r := by
  induction chunks with
  | nil => rfl
  | cons chunk rest ih =>
    have left : r.1.left = true := by simp [Session.left, finished]
    rw [List.foldl_cons]
    simpa only [readChunk, left, if_true] using ih

/-- The loop follows the reader the protocol asks for as long as every read is sound. -/
theorem foldl_readChunk_iff {r r' : Session q × Bytes} (alike : Alike r r') (whole : r'.1.broken = false)
    (chunks : List Bytes) :
    (chunks.foldl (readChunk w loads around) r).1 =
        (chunks.foldl (feed newline (tolerantLine w loads around)) r').1 ↔
      Along (feed newline (tolerantLine w loads around)) (Sound w loads around) r' chunks := by
  induction chunks generalizing r r' with
  | nil => exact iff_of_true alike.1 trivial
  | cons chunk rest ih =>
    have next : (feed newline (tolerantLine w loads around) r' chunk).1.broken = false :=
      foldl_tolerantLine_broken _ _ whole
    simp only [List.foldl_cons, Along]
    by_cases sound : Sound w loads around r' chunk
    · rw [ih (readChunk_of_sound alike sound) next]
      simp only [sound, true_and]
    · have finished := readChunk_of_not_sound alike sound
      refine iff_of_false ?_ fun all => sound all.1
      rw [foldl_readChunk_of_broken finished]
      intro same
      have kept : ∀ (r : Session q × Bytes) chunk, r.1.broken = false →
          (feed newline (tolerantLine w loads around) r chunk).1.broken = false :=
        fun r chunk whole => foldl_tolerantLine_broken r.1 _ whole
      have later := invariant_always (I := fun r : Session q × Bytes => r.1.broken = false) kept next rest
      rw [run] at later
      rw [← same, finished] at later
      cases later

/-- Every line is handled as the protocol asks, whatever the reads, exactly when each read fits into the buffer and
each line is admissible where it is met. -/
theorem framing_robust_iff (w : Listener) (loads : Bytes → Loaded) (around : Nat → Surroundings q) (server : Server q)
    (peer : String) (lines chunks : List Bytes) (whole : ∀ line ∈ lines, newline ∉ line)
    (same : chunks.flatten = stream newline lines) :
    (chunks.foldl (readChunk w loads around) (Session.start server peer, [])).1 =
        lines.foldl (tolerantLine w loads around) (Session.start server peer) ↔
      Along (feed newline (tolerantLine w loads around)) Fits (Session.start server peer, []) chunks ∧
        Along (tolerantLine w loads around) (Admissible w loads around) (Session.start server peer) lines := by
  have asked := foldl_feed_stream newline (tolerantLine w loads around) (Session.start server peer) whole same
  have lineByLine := along_feed newline (tolerantLine w loads around) (Admissible w loads around)
    (Session.start server peer) List.not_mem_nil chunks
  rw [same, pieces_stream newline whole] at lineByLine
  rw [← lineByLine, ← along_and]
  have alike : Alike (Session.start server peer, []) (Session.start server peer, []) := ⟨rfl, .inr rfl⟩
  have follows := @foldl_readChunk_iff q w loads around _ _ alike rfl chunks
  rwa [asked] at follows

end

/-! ### Two lines -/

/-- `[]`. -/
def emptyList : Bytes := [91, 93]

/-- `{"timestamp":1}`. -/
def stamped : Bytes := [123, 34, 116, 105, 109, 101, 115, 116, 97, 109, 112, 34, 58, 49, 125]

def twoLines (line : Bytes) : Loaded :=
  if line = emptyList then .value (.list [])
  else if line = stamped then .value (.dict [("timestamp", .int 1)])
  else .malformed

def alone (_ : Nat) : Surroundings twoShards := { others := id, now := noon, sent := true }

/-- A list on a line of its own ends the connection, and the frame after it is lost. -/
theorem list_line_ends_connection :
    [stream newline [emptyList, stamped]].flatten = stream newline [emptyList, stamped] ∧
    (([stream newline [emptyList, stamped]].foldl (readChunk guardedListener twoLines alone)
      (Session.start Server.empty "peer", [])).1.broken = true ∧
    ([stream newline [emptyList, stamped]].foldl (readChunk guardedListener twoLines alone)
      (Session.start Server.empty "peer", [])).1.dispatched = []) ∧
    ([emptyList, stamped].foldl (tolerantLine guardedListener twoLines alone)
      (Session.start Server.empty "peer")).dispatched = [.dict [("timestamp", .int 1)]] := by
  refine ⟨?_, ⟨?_, ?_⟩, ?_⟩
  · decide
  · decide
  · rfl
  · rfl

/-- Two frames, cut in the middle of the first. -/
theorem framing_robust_two_reads :
    ([stamped ++ [newline] ++ stamped.take 3, stamped.drop 3 ++ [newline]].foldl
        (readChunk guardedListener twoLines alone) (Session.start Server.empty "peer", [])).1 =
      [stamped, stamped].foldl (tolerantLine guardedListener twoLines alone) (Session.start Server.empty "peer") := by
  refine (framing_robust_iff guardedListener twoLines alone Server.empty "peer" [stamped, stamped] _ ?_ ?_).mpr ?_
  · decide
  · decide
  · refine ⟨⟨.inr (by decide), .inr (by decide), trivial⟩, ?_⟩
    exact ⟨.inr (.inr (by decide)), .inr (.inr (by decide)), trivial⟩

end Retina.Tcp
