import RetinaServer.Sync.Acceptance

/-! A push: its chunks posted one after another until one is not answered, and
what the receiver holds of each row when all of them were. -/
namespace Retina.Sync
open OrderedDict

/-- What the last chunk of a push removes, at a receiver that holds what it holds. -/
def Push.removals (push : Push) (receiver : Receiver) : List RowId :=
  Sync.removals receiver { upserts := Dict.empty, deletes := push.deletes, fullKeys := push.fullKeys }

/-- What becomes of a chunk that is posted: taken and answered, taken and the answer
lost, never taken, or committed by a receiver that then could not write its list. -/
inductive Outcome where
  | landed
  | lost
  | refused
  | unheld
deriving DecidableEq

section Sending
variable (schema : Schema)

def post (receiver : Receiver) (chunk : Chunk) : Outcome → Receiver × Bool
  | .landed => (apply schema receiver chunk).elim (receiver, false) fun next => (next, true)
  | .lost => ((apply schema receiver chunk).getD receiver, false)
  | .refused => (receiver, false)
  | .unheld => ((transact schema receiver chunk).elim receiver (committed schema receiver chunk), false)

/-- `outcomes` are those of the chunks in order; a chunk beyond them lands. -/
def postAll : Receiver → List Chunk → List Outcome → Receiver × Bool
  | receiver, [], _ => (receiver, true)
  | receiver, chunk :: rest, outcomes =>
      let answer := post schema receiver chunk (outcomes.headD .landed)
      if answer.2 then postAll answer.1 rest outcomes.tail else answer

variable (size : Row → Nat) (limit : Nat)

def Target.landed (target : Target) (registry : Registry) (full : Bool) (now : ℚ) (rows : Nat) : Target :=
  { target with
    accepted := registry
    fullAt := if full then some now else target.fullAt
    pushes := target.pushes + 1
    rowsSent := target.rowsSent + rows
    healthy := true }

def Target.missed (target : Target) : Target := { target with failed := target.failed + 1, healthy := false }

/-- The rows a push leaves out for their refs, chunk by chunk. -/
def skippedIn : Receiver → List Chunk → List RowId
  | _, [] => []
  | receiver, chunk :: rest =>
      (skipped schema receiver.db chunk).map Prod.fst ++
        (apply schema receiver chunk).elim [] fun next => skippedIn next rest

structure Pushed where
  target : Target
  receiver : Receiver
  ok : Bool

def pushToTarget (target : Target) (receiver : Receiver) (registry : Registry) (now : ℚ) (outcomes : List Outcome) :
    Pushed :=
  let full := target.fullDue now
  let push := planPush target registry full
  if full = false ∧ push.upserts = [] ∧ ∀ table ∈ TABLES, push.deletes table = [] then ⟨target, receiver, true⟩
  else
    let sent := postAll schema receiver (chunkPush size limit push) outcomes
    if sent.2 then ⟨target.landed registry full now push.upserts.length, sent.1, true⟩
    else ⟨target.missed, sent.1, false⟩

end Sending

/-- The receiver has the row with every column of it that it knows. -/
def Holds (schema : Schema) (db : Db) (row : RowId) (values : Values) : Prop :=
  ∃ held, db.get row = some held ∧
    ∀ column value, (schema.decode row.1 values).get? column = some value → held.get? column = some value

variable {schema : Schema}

theorem holds_write (old : Option Values) (written : db.get row = some (schema.write row old (schema.decode row.1 values))) :
    Holds schema db row values := by
  refine ⟨_, written, fun column value present => ?_⟩
  rw [Schema.write, get?_overlay, present]
  rfl

theorem Holds.ref (held : Holds schema db row values) (named : refOf (schema.decode row.1 values) = some r) :
    ∃ kept, db.get row = some kept ∧ refOf kept = some r := by
  obtain ⟨kept, present, agrees⟩ := held
  obtain ⟨value, column, text⟩ := Option.bind_eq_some_iff.mp named
  refine ⟨kept, present, ?_⟩
  rw [refOf, agrees _ value column]
  exact text

theorem postAll_landed {chunks : List Chunk} {outcomes : List Outcome}
    (landed : postAll schema receiver chunks outcomes = (receiver', true)) :
    chunks.foldlM (apply schema) receiver = some receiver' := by
  induction chunks generalizing receiver outcomes with
  | nil => exact congrArg some (congrArg Prod.fst landed)
  | cons chunk rest ih =>
    simp only [postAll] at landed
    split at landed
    · rename_i answered
      rw [List.foldlM_cons]
      cases outcome : outcomes.headD .landed with
      | landed =>
        rw [outcome] at answered landed
        cases taken : apply schema receiver chunk with
        | none =>
          simp only [post, taken] at answered
          exact nomatch answered
        | some next =>
          simp only [post, taken] at landed
          exact ih landed
      | lost | refused | unheld =>
        rw [outcome] at answered
        exact nomatch answered
    · rename_i unanswered
      exact absurd (congrArg Prod.snd landed) unanswered

theorem mem_skipped_iff (db : Db) (chunk : Chunk) (row : RowId) :
    row ∈ (skipped schema db chunk).map Prod.fst ↔
      row.1 = .nodes ∧ ∃ sent, chunk.upserts.get? row = some sent ∧ taken db (row, schema.decode row.1 sent) = true := by
  simp only [skipped, List.mem_map, List.mem_filter]
  constructor
  · rintro ⟨⟨row, values⟩, ⟨member, refused⟩, rfl⟩
    have found := (lookup_eq_some_iff row values _ (nodup_rowsOf chunk .nodes)).mpr member
    rw [lookup_rowsOf] at found
    split at found
    · rename_i node
      obtain ⟨sent, listed, rfl⟩ := Option.map_eq_some_iff.mp found
      exact ⟨node, sent, listed, node ▸ refused⟩
    · exact nomatch found
  · rintro ⟨node, sent, listed, refused⟩
    refine ⟨(row, schema.decode row.1 sent), ⟨?_, refused⟩, rfl⟩
    rw [← lookup_eq_some_iff _ _ _ (nodup_rowsOf chunk .nodes), lookup_rowsOf, if_pos node, listed, node]
    rfl

theorem incoming_eq (db : Db) (chunk : Chunk) (row : RowId) :
    incoming schema db chunk row =
      if row ∈ (skipped schema db chunk).map Prod.fst then none
      else (chunk.upserts.get? row).map (schema.decode row.1) := by
  rw [incoming]
  cases listed : chunk.upserts.get? row with
  | none =>
    have absent : row ∉ (skipped schema db chunk).map Prod.fst := by
      rw [mem_skipped_iff, listed]
      simp
    rw [if_neg absent]
    rfl
  | some sent =>
    by_cases refused : row.1 = .nodes ∧ taken db (row, schema.decode row.1 sent) = true
    · rw [if_pos ((mem_skipped_iff db chunk row).mpr ⟨refused.1, sent, listed, refused.2⟩)]
      simp [Option.filter, refused.1, refused.1 ▸ refused.2]
    · have kept : row ∉ (skipped schema db chunk).map Prod.fst := by
        rw [mem_skipped_iff, listed]
        rintro ⟨node, _, same, blocked⟩
        exact refused ⟨node, Option.some.inj same ▸ blocked⟩
      rw [if_neg kept]
      simpa [Option.filter] using refused

theorem mem_committed (receiver : Receiver) (chunk : Chunk) (db : Db) (row : RowId) :
    row ∈ (committed schema receiver chunk db).mirrored ↔ gone (removals receiver chunk) row = false ∧
      (row ∈ receiver.mirrored ∨
        (lookup row chunk.upserts.items).isSome ∧ row ∉ (skipped schema receiver.db chunk).map Prod.fst) := by
  have listed : row ∈ chunk.upserts.keys ↔ (lookup row chunk.upserts.items).isSome := by
    rw [Option.isSome_iff_ne_none, ← not_iff_not, not_not]
    exact (lookup_eq_none_iff row _).symm
  simp only [committed, List.mem_filter, List.mem_append, listed, decide_eq_true_eq, Bool.not_eq_true', and_comm]

/-- A chunk that neither deletes nor lists. -/
def Plain (chunk : Chunk) : Prop := (∀ table, chunk.deletes table = []) ∧ chunk.fullKeys = none

theorem removals_plain {chunk : Chunk} (plain : Plain chunk) (receiver : Receiver) : removals receiver chunk = [] := by
  simp [removals, deleted, unlisted, plain.1, plain.2]

theorem apply_plain {chunk : Chunk} (plain : Plain chunk) (done : apply schema receiver chunk = some next) :
    next.held = receiver.held ∧ ∀ row, next.db.get row =
      (incoming schema receiver.db chunk row).elim (receiver.db.get row) fun values =>
        some (schema.write row (receiver.db.get row) values) := by
  obtain ⟨db, through, rfl⟩ := Option.map_eq_some_iff.mp done
  refine ⟨?_, fun row => ?_⟩
  · rw [plain.2]
    rfl
  · refine (get_transact through row).trans ?_
    rw [removals_plain plain]
    rfl

def itemsOf (chunks : List Chunk) : List Row := (chunks.map fun chunk => chunk.upserts.items).flatten

theorem mem_skippedIn {chunks : List Chunk} {receiver : Receiver} {row : RowId}
    (member : row ∈ skippedIn schema receiver chunks) : row.1 = .nodes ∧ row ∈ (itemsOf chunks).map Prod.fst := by
  induction chunks generalizing receiver with
  | nil => exact nomatch member
  | cons chunk rest ih =>
    rw [itemsOf, List.map_cons, List.flatten_cons, List.map_append]
    rcases List.mem_append.mp member with here | later
    · obtain ⟨node, sent, listed, -⟩ := (mem_skipped_iff receiver.db chunk row).mp here
      refine ⟨node, List.mem_append_left _ ?_⟩
      exact List.mem_map_of_mem ((chunk.upserts.get?_eq_some_iff row sent).mp listed)
    · cases taken : apply schema receiver chunk with
      | none =>
        rw [taken] at later
        exact nomatch later
      | some next =>
        rw [taken] at later
        exact ⟨(ih later).1, List.mem_append_right _ (ih later).2⟩

theorem itemsOf_cons (chunk : Chunk) (rest : List Chunk) :
    itemsOf (chunk :: rest) = chunk.upserts.items ++ itemsOf rest := rfl

theorem itemsOf_singleton (chunk : Chunk) : itemsOf [chunk] = chunk.upserts.items := List.append_nil _

theorem mem_skippedIn_cons (done : apply schema receiver chunk = some next) (rest : List Chunk) (row : RowId) :
    row ∈ skippedIn schema receiver (chunk :: rest) ↔
      row ∈ (skipped schema receiver.db chunk).map Prod.fst ∨ row ∈ skippedIn schema next rest := by
  rw [skippedIn, List.mem_append, done]
  rfl

theorem not_mem_skipped {chunk : Chunk} (absent : chunk.upserts.get? row = none) (db : Db) :
    row ∉ (skipped schema db chunk).map Prod.fst := by
  rw [mem_skipped_iff, absent]
  rintro ⟨-, sent, listed, -⟩
  exact nomatch listed

/-- A push whose chunks are all taken: plain ones first, none with a row that a later
one has, and then the last. -/
inductive Lands (schema : Schema) (last : Chunk) : Receiver → List Chunk → Receiver → Prop where
  | final (done : apply schema receiver last = some receiver') : Lands schema last receiver [] receiver'
  | onward (plainly : Plain chunk) (done : apply schema receiver chunk = some next)
      (apart : ∀ row sent, chunk.upserts.get? row = some sent → lookup row (itemsOf (rest ++ [last])) = none)
      (later : Lands schema last next rest receiver') : Lands schema last receiver (chunk :: rest) receiver'

theorem lands_of_landed {plain : List Chunk} {last : Chunk} (ordinary : ∀ chunk ∈ plain, Plain chunk)
    (distinct : ((itemsOf (plain ++ [last])).map Prod.fst).Nodup)
    (landed : (plain ++ [last]).foldlM (apply schema) receiver = some receiver') :
    Lands schema last receiver plain receiver' := by
  induction plain generalizing receiver with
  | nil =>
    rw [List.nil_append, List.foldlM_cons] at landed
    obtain ⟨next, done, same⟩ := Option.bind_eq_some_iff.mp landed
    exact .final (Option.some.inj same ▸ done)
  | cons chunk rest ih =>
    obtain ⟨plainly, others⟩ := List.forall_mem_cons.mp ordinary
    rw [List.cons_append, itemsOf_cons] at distinct
    rw [List.cons_append, List.foldlM_cons] at landed
    obtain ⟨next, done, later⟩ := Option.bind_eq_some_iff.mp landed
    refine .onward plainly done (fun row sent here => Upsert.lookup_none_of_disjoint distinct here) (ih others ?_ later)
    rw [List.map_append] at distinct
    exact (List.nodup_append.mp distinct).2.1

/-- What the last chunk removes is settled before the first is sent. -/
theorem removals_next (plainly : Plain chunk) (done : apply schema receiver chunk = some next) (last : Chunk) :
    removals next last = removals receiver last := by
  rw [removals, removals, (apply_plain plainly done).1]

/-- What a push that landed leaves of every row. -/
theorem Lands.get (lands : Lands schema last receiver plain receiver') (row : RowId) :
    receiver'.db.get row = if gone (removals receiver last) row then none
      else (lookup row (itemsOf (plain ++ [last]))).elim (receiver.db.get row) fun values =>
        if row ∈ skippedIn schema receiver (plain ++ [last]) then receiver.db.get row
        else some (schema.write row (receiver.db.get row) (schema.decode row.1 values)) := by
  induction lands with
  | @final receiver receiver' done =>
    have refused : row ∈ skippedIn schema receiver [last] ↔ row ∈ (skipped schema receiver.db last).map Prod.fst := by
      simp [skippedIn, done]
    obtain ⟨db, through, rfl⟩ := Option.map_eq_some_iff.mp done
    refine (get_transact through row).trans ?_
    rw [List.nil_append, itemsOf_singleton, incoming_eq]
    simp only [refused]
    change _ = if _ then _ else (last.upserts.get? row).elim _ _
    cases last.upserts.get? row with
    | none => simp
    | some sent => by_cases out : row ∈ (skipped schema receiver.db last).map Prod.fst <;> simp [out]
  | @onward chunk receiver next rest receiver' plainly done apart _ ih =>
    rw [ih, removals_next plainly done, (apply_plain plainly done).2 row, List.cons_append, itemsOf_cons,
      OrderedDict.lookup_append, incoming_eq]
    simp only [mem_skippedIn_cons done]
    cases here : chunk.upserts.get? row with
    | none =>
      have unlisted : lookup row chunk.upserts.items = none := here
      simp only [unlisted, Option.map_none, Option.none_or, not_mem_skipped here, false_or]
      rfl
    | some sent =>
      have listed : lookup row chunk.upserts.items = some sent := here
      have once := apart row sent here
      have kept : row ∉ skippedIn schema next (rest ++ [last]) := fun member =>
        (lookup_eq_none_iff row _).mp once (mem_skippedIn member).2
      by_cases out : row ∈ (skipped schema receiver.db chunk).map Prod.fst <;> simp [listed, once, kept, out]

theorem Lands.mirrored (lands : Lands schema last receiver plain receiver') (row : RowId) :
    row ∈ receiver'.mirrored ↔ gone (removals receiver last) row = false ∧
      (row ∈ receiver.mirrored ∨ (lookup row (itemsOf (plain ++ [last]))).isSome ∧
        row ∉ skippedIn schema receiver (plain ++ [last])) := by
  induction lands with
  | @final receiver receiver' done =>
    have refused : skippedIn schema receiver [last] = (skipped schema receiver.db last).map Prod.fst := by
      simp [skippedIn, done]
    obtain ⟨db, -, rfl⟩ := Option.map_eq_some_iff.mp done
    rw [List.nil_append, refused, itemsOf_singleton]
    exact mem_committed receiver last db row
  | @onward chunk receiver next rest receiver' plainly done apart _ ih =>
    have here : row ∈ next.mirrored ↔ row ∈ receiver.mirrored ∨
        (lookup row chunk.upserts.items).isSome ∧ row ∉ (skipped schema receiver.db chunk).map Prod.fst := by
      obtain ⟨db, -, rfl⟩ := Option.map_eq_some_iff.mp done
      refine (mem_committed receiver chunk db row).trans ?_
      rw [removals_plain plainly]
      exact and_iff_right rfl
    rw [ih, removals_next plainly done, here, List.cons_append, mem_skippedIn_cons done, itemsOf_cons,
      OrderedDict.lookup_append, not_or]
    cases first : lookup row chunk.upserts.items with
    | none => simp [not_mem_skipped (show chunk.upserts.get? row = none from first)]
    | some sent =>
      have once := apart row sent first
      have kept : row ∉ skippedIn schema next (rest ++ [last]) := fun member =>
        (lookup_eq_none_iff row _).mp once (mem_skippedIn member).2
      simp [kept, once]

theorem skipped_ref {db : Db} {chunk : Chunk} (member : row ∈ (skipped schema db chunk).map Prod.fst) :
    ∃ sent r, chunk.upserts.get? row = some sent ∧ refOf (schema.decode row.1 sent) = some r ∧
      ∀ old, db.get row = some old → refOf old ≠ some r := by
  obtain ⟨node, sent, listed, refused⟩ := (mem_skipped_iff db chunk row).mp member
  obtain ⟨key, values, r, held, ref, named, other⟩ := (taken_iff db _).mp refused
  refine ⟨sent, r, listed, named, fun old present same => other ?_⟩
  obtain ⟨table, key'⟩ := row
  obtain rfl := node
  exact db.unique held present ref same

/-- A row left out has a ref that its own node does not have here. -/
theorem Lands.skipped_ref (lands : Lands schema last receiver plain receiver')
    (out : row ∈ skippedIn schema receiver (plain ++ [last])) :
    ∃ sent r, lookup row (itemsOf (plain ++ [last])) = some sent ∧ refOf (schema.decode row.1 sent) = some r ∧
      ∀ old, receiver.db.get row = some old → refOf old ≠ some r := by
  induction lands with
  | final done =>
    rw [List.nil_append, mem_skippedIn_cons done] at out
    rw [List.nil_append, itemsOf_singleton]
    exact Sync.skipped_ref (out.resolve_right nofun)
  | @onward chunk receiver next rest receiver' plainly done apart _ ih =>
    rw [List.cons_append, mem_skippedIn_cons done] at out
    rw [List.cons_append, itemsOf_cons, OrderedDict.lookup_append]
    rcases out with here | after
    · obtain ⟨sent, r, listed, own⟩ := Sync.skipped_ref here
      refine ⟨sent, r, ?_, own⟩
      rw [show lookup row chunk.upserts.items = some sent from listed]
      rfl
    · obtain ⟨sent, r, listed, named, free⟩ := ih after
      have absent : chunk.upserts.get? row = none := by
        by_contra there
        obtain ⟨sent', there⟩ := Option.ne_none_iff_exists'.mp there
        exact nomatch listed.symm.trans (apart row sent' there)
      refine ⟨sent, r, by rw [show lookup row chunk.upserts.items = none from absent, listed]; rfl, named, ?_⟩
      intro old present
      refine free old ?_
      rw [(apply_plain plainly done).2 row, incoming, absent]
      exact present

section Pushing
variable {size : Row → Nat} {limit : Nat} {target : Target} {receiver : Receiver} {registry : Registry} {now : ℚ}
  {outcomes : List Outcome}

def chunksOf (size : Row → Nat) (limit : Nat) (target : Target) (registry : Registry) (now : ℚ) : List Chunk :=
  chunkPush size limit (planPush target registry (target.fullDue now))

theorem itemsOf_chunksOf (size : Row → Nat) (limit : Nat) (target : Target) (registry : Registry) (now : ℚ) :
    itemsOf (chunksOf size limit target registry now) =
    (planPush target registry (target.fullDue now)).upserts :=
  rows_chunkPush size limit (nodup_upserts target registry _)

theorem chunksOf_split (size : Row → Nat) (limit : Nat) (target : Target) (registry : Registry) (now : ℚ) :
    ∃ plain last, chunksOf size limit target registry now = plain ++ [last] ∧
    (∀ chunk ∈ plain, Plain chunk) ∧
    ∀ receiver, removals receiver last = (planPush target registry (target.fullDue now)).removals receiver := by
  refine ⟨_, _, rfl, ?_, fun _ => rfl⟩
  intro chunk member
  obtain ⟨upserts, -, rfl⟩ := List.mem_map.mp member
  exact ⟨fun _ => rfl, rfl⟩

/-- Every chunk of a push that is answered was taken, unless there was nothing to send. -/
theorem pushToTarget_cases (ok : (pushToTarget schema size limit target receiver registry now outcomes).ok = true) :
    (target.fullDue now = false ∧ (planPush target registry false).upserts = [] ∧
      (∀ table ∈ TABLES, (planPush target registry false).deletes table = []) ∧
      pushToTarget schema size limit target receiver registry now outcomes = ⟨target, receiver, true⟩) ∨
    ∃ receiver', (chunksOf size limit target registry now).foldlM (apply schema) receiver = some receiver' ∧
      pushToTarget schema size limit target receiver registry now outcomes =
        ⟨target.landed registry (target.fullDue now) now
          (planPush target registry (target.fullDue now)).upserts.length, receiver', true⟩ := by
  simp only [pushToTarget] at ok ⊢
  split at ok
  · rename_i nothing
    rw [if_pos nothing]
    obtain ⟨delta, unchanged, undeleted⟩ := nothing
    rw [delta] at unchanged undeleted
    exact .inl ⟨delta, unchanged, undeleted, rfl⟩
  · rename_i something
    rw [if_neg something]
    split at ok
    · rename_i answered
      rw [if_pos answered]
      exact .inr ⟨_, postAll_landed (Prod.ext rfl answered), rfl⟩
    · exact nomatch ok

theorem removals_nothing (delta : target.fullDue now = false)
    (undeleted : ∀ table ∈ TABLES, (planPush target registry false).deletes table = []) (receiver : Receiver) :
    (planPush target registry (target.fullDue now)).removals receiver = [] := by
  rw [delta]
  have none_gone : ∀ table ∈ TABLES.reverse,
      ((planPush target registry false).deletes table).map (fun key => (table, key)) = [] := by
    intro table member
    rw [undeleted table (List.mem_reverse.mp member)]
    rfl
  simp only [Push.removals, removals, deleted, unlisted, List.append_eq_nil_iff, List.flatMap_eq_nil_iff]
  exact ⟨none_gone, rfl⟩

theorem accepted_pushToTarget (ok : (pushToTarget schema size limit target receiver registry now outcomes).ok = true)
    (row : RowId) : (pushToTarget schema size limit target receiver registry now outcomes).target.accepted.get row =
      registry.get row := by
  rcases pushToTarget_cases ok with ⟨-, unchanged, undeleted, same⟩ | ⟨receiver', -, same⟩
  · rw [same]
    have sent (values : Values) : registry.get row = some values → target.accepted.get row = some values := by
      intro present
      by_contra changed
      have member := (mem_upserts target registry false row values).mpr ⟨present, .inr changed⟩
      rw [unchanged] at member
      cases member
    cases present : registry.get row with
    | some values => exact sent values present
    | none =>
      rw [Registry.get, Dict.get?_eq_none_iff]
      intro member
      have vanished : row.2 ∈ (planPush target registry false).deletes row.1 := by
        have missing := ((registry row.1).get?_eq_none_iff row.2).mp present
        simp [planPush, member, missing]
      rw [undeleted row.1 (mem_TABLES row.1)] at vanished
      cases vanished
  · rw [same]
    rfl

/-- The chunks of a push land as plain ones and a last one that removes. -/
theorem lands_chunksOf (landed : (chunksOf size limit target registry now).foldlM (apply schema) receiver = some receiver') :
    ∃ plain last, chunksOf size limit target registry now = plain ++ [last] ∧
      removals receiver last = (planPush target registry (target.fullDue now)).removals receiver ∧
      Lands schema last receiver plain receiver' := by
  obtain ⟨plain, last, split, ordinary, removed⟩ :=
    chunksOf_split size limit target registry now
  have distinct : ((itemsOf (plain ++ [last])).map Prod.fst).Nodup := by
    rw [← split, itemsOf_chunksOf]
    exact nodup_upserts target registry _
  rw [split] at landed
  exact ⟨plain, last, split, removed receiver, lands_of_landed ordinary distinct landed⟩

theorem get_pushToTarget (ok : (pushToTarget schema size limit target receiver registry now outcomes).ok = true)
    (row : RowId) : (pushToTarget schema size limit target receiver registry now outcomes).receiver.db.get row =
      if gone ((planPush target registry (target.fullDue now)).removals receiver) row then none
      else (lookup row (planPush target registry (target.fullDue now)).upserts).elim (receiver.db.get row) fun values =>
        if row ∈ skippedIn schema receiver (chunksOf size limit target registry now) then receiver.db.get row
        else some (schema.write row (receiver.db.get row) (schema.decode row.1 values)) := by
  rcases pushToTarget_cases ok with ⟨delta, unchanged, undeleted, same⟩ | ⟨receiver', landed, same⟩
  · rw [same, removals_nothing delta undeleted, delta, unchanged]
    rfl
  · obtain ⟨plain, last, split, removed, lands⟩ := lands_chunksOf landed
    rw [same, ← removed, ← itemsOf_chunksOf size limit, split]
    exact lands.get row

theorem mirrored_pushToTarget (ok : (pushToTarget schema size limit target receiver registry now outcomes).ok = true)
    (row : RowId) : row ∈ (pushToTarget schema size limit target receiver registry now outcomes).receiver.mirrored ↔
      gone ((planPush target registry (target.fullDue now)).removals receiver) row = false ∧
        (row ∈ receiver.mirrored ∨ (lookup row (planPush target registry (target.fullDue now)).upserts).isSome ∧
          row ∉ skippedIn schema receiver (chunksOf size limit target registry now)) := by
  rcases pushToTarget_cases ok with ⟨delta, unchanged, undeleted, same⟩ | ⟨receiver', landed, same⟩
  · rw [same, removals_nothing delta undeleted, delta, unchanged]
    simp [gone, lookup]
  · obtain ⟨plain, last, split, removed, lands⟩ := lands_chunksOf landed
    rw [same, ← removed, ← itemsOf_chunksOf size limit, split]
    exact lands.mirrored row

/-- A row that a push leaves out is not one the receiver holds when the push has landed. -/
theorem not_holds_of_skipped (ok : (pushToTarget schema size limit target receiver registry now outcomes).ok = true)
    (present : registry.get row = some values)
    (out : row ∈ skippedIn schema receiver (chunksOf size limit target registry now))  :
    ¬ Holds schema (pushToTarget schema size limit target receiver registry now outcomes).receiver.db row values := by
  intro held
  have after := get_pushToTarget ok row
  rcases pushToTarget_cases ok with ⟨delta, unchanged, -, -⟩ | ⟨receiver', landed, -⟩
  · have member := (mem_skippedIn out).2
    rw [itemsOf_chunksOf, delta, unchanged] at member
    exact nomatch member
  · obtain ⟨plain, last, split, -, lands⟩ := lands_chunksOf landed
    have listed := out
    rw [split] at out
    obtain ⟨sent, r, found, named, free⟩ := lands.skipped_ref out
    rw [← split, itemsOf_chunksOf] at found
    have same : registry.get row = some sent :=
      ((mem_upserts target registry _ row sent).mp
        ((lookup_eq_some_iff row sent _ (nodup_upserts target registry _)).mp found)).1
    obtain rfl := Option.some.inj (same.symm.trans present)
    obtain ⟨kept, there, ref⟩ := held.ref named
    rw [after, found] at there
    split at there
    · exact nomatch there
    · simp only [Option.elim_some] at there
      exact free kept there ref

end Pushing

end Retina.Sync
