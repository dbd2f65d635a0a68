import RetinaServer.Parquet.Flushes
import RetinaServer.Tcp.Connection

/-! The signature verdict of a frame, from the message that brings it to its rows in the
archive. Only a frame flagged at its ingest is verified, and the verdict goes where the
sender can write too. -/
namespace Retina.Parquet
open OrderedDict Tcp

/-- The registered identities, and the custody library's check of a packet; `none` is a check that raises. -/
structure Signatures where
  nodeIdentities : Dict NodeKey NodeIdentity
  verifyPacket : NodeKey → Json → Json → Option Bool

/-! ### Ingest -/

/-- `POST /api/radar/detections`. -/
structure DetectionRequest where
  nodeId : String
  frames : Option (List Fields)
  /-- The body's other fields. -/
  extra : Fields

/-- Without a list of frames the body is the frame, less its nulls. -/
def DetectionRequest.requestFrames (body : DetectionRequest) : List Fields :=
  body.frames.getD [("node_id", .str body.nodeId) :: body.extra.filter fun entry => !entry.2.isNull]

/-- One frame on its way to the queue: in a message of a connection that goes by
`nodeId`, or in a request, a bulk one included. -/
inductive Offer where
  | tcp (msg : Fields) (nodeId : Json)
  | http (frame : Fields) (nodeId : String)

/-- The name a frame is queued under, and the frame. One that is no dictionary fails where it is processed. -/
def Offer.queued : Offer → Option (Json × Fields)
  | .tcp msg nodeId => match kindOf msg with
    | .detection => match prepareFrame msg nodeId with
      | .ready (.dict frame) => some (queueName nodeId, frame)
      | _ => none
    | .bare => some (queueName nodeId, if nodeId.truthy then put "_node_id" nodeId msg else msg)
    | _ => none
  | .http frame nodeId => if has frame "timestamp" then some (.str nodeId, put "_node_id" (.str nodeId) frame) else none

/-- The frame as its sender wrote it. -/
def Offer.sent : Offer → Fields
  | .tcp msg _ => match kindOf msg, get msg "data" (.dict msg) with
    | .detection, .dict frame => frame
    | _, _ => msg
  | .http frame _ => frame

/-- A DETECTION that signs itself and names its hash is flagged, and so is a frame whose sender flags it. -/
def Offer.flagged (offer : Offer) : Bool :=
  let signed := has offer.sent "signature" && has offer.sent "payload_hash"
  match offer with
  | .tcp msg _ => decide (kindOf msg = .detection) && signed || (get offer.sent "_needs_sig_verify" (.bool false)).truthy
  | .http _ _ => (get offer.sent "_needs_sig_verify" (.bool false)).truthy

/-! ### Processing -/

/-- `frame.pop(key)`. -/
def pop (key : String) (frame : Fields) : Fields := frame.filter fun entry => decide (entry.1 ≠ key)

/-- `frame.get("node_id") or frame.get("_node_id") or node_id`. -/
def detNodeId (frame : Fields) (nodeId : String) : Json :=
  let named := get frame "node_id" .null
  let queued := get frame "_node_id" .null
  if named.truthy then named else if queued.truthy then queued else .str nodeId

section
variable (v : Signatures)

/-- The verdict under the key of the node the frame names. `none` is an exception. -/
def Signatures.sigValid (frame : Fields) (nodeId : String) : Option Bool :=
  (detNodeId frame nodeId).hashKey.bind fun key =>
    if (v.nodeIdentities.get? key).isSome then
      v.verifyPacket key (get frame "payload_hash" (.str "")) (get frame "signature" (.str ""))
    else some false

/-- The deferred verification. -/
def Signatures.verifyFrame (frame : Fields) (nodeId : String) : Option Fields :=
  let popped := pop "_needs_sig_verify" frame
  if (get frame "_needs_sig_verify" (.bool false)).truthy then
    (v.sigValid popped nodeId).map fun valid => put "_signature_valid" (.bool valid)
      (put "_signing_mode" (get popped "signing_mode" (.str "unknown")) popped)
  else some popped

/-- The frame that `process_one_frame` appends to the archive buffer: verified, and with the
tags it was given, if any. A node on probation archives nothing. -/
def Signatures.archivedFrame (probation : Bool) (frame : Fields) (nodeId : String) (tags : Option Json) : Option Fields :=
  if probation then none
  else (v.verifyFrame frame nodeId).map fun frame => tags.elim frame fun tags => put "adsb" tags frame

/-! ### Honest rows -/

/-- The frame brings a verdict of its own. -/
def ownVerdict (frame : Fields) : Bool := has frame "_signature_valid" || has frame "signature_valid"

/-- What the archive says of a frame whose signature is valid. -/
structure Signatures.Signed (nodeId : String) (offer : Offer) (frame : Fields) : Prop where
  registered : (v.nodeIdentities.get? (.text nodeId)).isSome
  accepted : v.verifyPacket (.text nodeId) (get frame "payload_hash" (.str "")) (get frame "signature" (.str "")) = some true
  carried : has offer.sent "signature"
  own : (detNodeId frame nodeId).hashKey = some (.text nodeId)
  silent : ownVerdict offer.sent = false

def Signatures.HonestRow (offer : Offer) (frame : Fields) (row : Row (Option String)) : Prop :=
  row.signatureValid = some true → v.Signed row.nodeId offer frame

/-- A flagged frame that the verifier accepts is its own node's, signed and without a
verdict, and one that is not flagged brings no valid verdict. -/
def Signatures.Unforged (offer : Offer) (frame : Fields) (nodeId : String) : Prop :=
  if offer.flagged then v.sigValid frame nodeId = some true →
    (detNodeId frame nodeId).hashKey = some (.text nodeId) ∧ has offer.sent "signature" ∧ ownVerdict offer.sent = false
  else signatureValid offer.sent ≠ some true

end

/-! ### What becomes of the fields -/

theorem get_put (key key' : String) (value default : Json) (frame : Fields) :
    get (put key value frame) key' default = if key = key' then value else get frame key' default := by
  rw [Tcp.get, lookup_put]
  split <;> rfl

theorem lookup_pop (key key' : String) (frame : Fields) (other : key' ≠ key) :
    lookup key' (pop key frame) = lookup key' frame := by
  induction frame with
  | nil => rfl
  | cons entry rest ih =>
    obtain ⟨key₀, value⟩ := entry
    rw [pop] at ih ⊢
    by_cases popped : key₀ = key
    · rw [List.filter_cons_of_neg (by simpa using popped), ih, lookup, if_neg (popped ▸ other.symm)]
    · rw [List.filter_cons_of_pos (by simpa using popped), lookup, lookup, ih]

theorem get_pop (frame : Fields) (default : Json) (other : key' ≠ key) :
    get (pop key frame) key' default = get frame key' default := by
  rw [Tcp.get, lookup_pop key key' frame other, Tcp.get]

/-- The keys the server writes into a frame before it is queued. -/
def serverKeys : List String := ["_needs_sig_verify", "timestamp", "_node_id"]

/-- Two frames that differ only there. -/
def SameSent (frame sent : Fields) : Prop := ∀ key, key ∉ serverKeys → lookup key frame = lookup key sent

theorem SameSent.write {frame sent : Fields} (same : SameSent frame sent) {key : String} (written : key ∈ serverKeys)
    (value : Json) : SameSent (put key value frame) sent := by
  intro key' theirs
  have other : key ≠ key' := fun eq => theirs (eq ▸ written)
  rw [lookup_put, if_neg other, same key' theirs]

theorem SameSent.get {frame sent : Fields} (same : SameSent frame sent) {key : String} (theirs : key ∉ serverKeys)
    (default : Json) : get frame key default = get sent key default := by
  rw [Tcp.get, same key theirs, Tcp.get]

theorem SameSent.signatureValid {frame sent : Fields} (same : SameSent frame sent) :
    signatureValid frame = Parquet.signatureValid sent := by
  simp only [Parquet.signatureValid, same.get (show "_signature_valid" ∉ serverKeys by decide),
    same.get (show "signature_valid" ∉ serverKeys by decide)]

theorem setItem_dict {value : Json} (done : value.setItem key item = some (.dict frame)) :
    ∃ fields, value = .dict fields ∧ frame = put key item fields := by
  cases value with
  | dict fields =>
    rw [Json.setItem, Option.some.injEq, Json.dict.injEq] at done
    exact ⟨fields, rfl, done.symm⟩
  | null | bool _ | int _ | float _ | str _ | list _ => cases done

theorem flagSigned_dict (sent : Fields) : flagSigned (.dict sent) =
    some (.dict (if has sent "signature" && has sent "payload_hash" then put "_needs_sig_verify" (.bool true) sent
      else sent)) := by
  simp only [flagSigned, Json.contains, Option.bind_eq_bind, Option.bind_some]
  cases has sent "signature" <;> cases has sent "payload_hash" <;> rfl

theorem flagSigned_eq {data frame : Json} (done : flagSigned data = some frame) :
    frame = data ∨ data.setItem "_needs_sig_verify" (.bool true) = some frame := by
  have either (hashed : Bool) (flag : (if hashed = true then data.setItem "_needs_sig_verify" (.bool true)
      else some data) = some frame) : frame = data ∨ data.setItem "_needs_sig_verify" (.bool true) = some frame := by
    cases hashed with
    | true => exact .inr flag
    | false => exact .inl (Option.some.inj flag).symm
  simp only [flagSigned, Option.bind_eq_bind, Option.bind_eq_some_iff] at done
  obtain ⟨signed, -, rest⟩ := done
  cases signed with
  | true =>
    obtain ⟨hashed, -, flag⟩ := Option.bind_eq_some_iff.mp rest
    exact either hashed flag
  | false => exact either false rest

theorem stampFrame_eq {data frame : Json} (done : stampFrame data = some frame) :
    frame = data ∨ ∃ stamp, data.setItem "timestamp" stamp = some frame := by
  simp only [stampFrame, Option.bind_eq_bind, Option.bind_eq_some_iff] at done
  obtain ⟨stamped, -, rest⟩ := done
  split at rest
  · exact .inl (Option.some.inj rest).symm
  · simp only [Option.bind_eq_some_iff] at rest
    obtain ⟨spare, -, rest⟩ := rest
    split at rest
    · simp only [Option.bind_eq_some_iff] at rest
      obtain ⟨stamp, -, rest⟩ := rest
      exact .inr ⟨stamp, rest⟩
    · exact .inl (Option.some.inj rest).symm

theorem prepareFrame_eq (prepared : prepareFrame msg nodeId = .ready frame) :
    ∃ flagged stamped, flagSigned (get msg "data" (.dict msg)) = some flagged ∧ stampFrame flagged = some stamped ∧
      (frame = stamped ∨ stamped.setItem "_node_id" nodeId = some frame) := by
  simp only [prepareFrame] at prepared
  cases ready : (flagSigned (get msg "data" (.dict msg))).bind stampFrame with
  | none => 
    rw [ready] at prepared
    cases prepared
  | some stamped =>
    obtain ⟨flagged, flag, stamp⟩ := Option.bind_eq_some_iff.mp ready
    refine ⟨flagged, stamped, flag, stamp, ?_⟩
    simp only [ready] at prepared
    split at prepared
    · cases prepared
    · cases prepared
    · split at prepared
      · cases named : stamped.setItem "_node_id" nodeId with
        | none => simp [named] at prepared
        | some named' =>
          simp only [named, Option.elim, Prepared.ready.injEq] at prepared
          exact .inr (congrArg some prepared)
      · exact .inl (Prepared.ready.inj prepared).symm

/-- What the ingest makes of a detection: flagged, stamped and named. -/
theorem prepareFrame_dict (prepared : prepareFrame msg nodeId = .ready (.dict frame)) :
    ∃ sent, get msg "data" (.dict msg) = .dict sent ∧ SameSent frame sent ∧
      (get frame "_needs_sig_verify" (.bool false)).truthy =
        (has sent "signature" && has sent "payload_hash" || (get sent "_needs_sig_verify" (.bool false)).truthy) := by
  obtain ⟨flagged, stamped, flag, stamp, name⟩ := prepareFrame_eq prepared
  obtain ⟨fields₂, rfl, named⟩ : ∃ fields, stamped = .dict fields ∧
      (frame = fields ∨ frame = put "_node_id" nodeId fields) := by
    rcases name with same | put_
    · exact ⟨frame, same.symm, .inl rfl⟩
    · obtain ⟨fields, is_dict, written⟩ := setItem_dict put_
      exact ⟨fields, is_dict, .inr written⟩
  obtain ⟨fields₁, rfl, timed⟩ : ∃ fields, flagged = .dict fields ∧
      (fields₂ = fields ∨ ∃ ts, fields₂ = put "timestamp" ts fields) := by
    rcases stampFrame_eq stamp with same | ⟨ts, put_⟩
    · exact ⟨fields₂, same.symm, .inl rfl⟩
    · obtain ⟨fields, is_dict, written⟩ := setItem_dict put_
      exact ⟨fields, is_dict, .inr ⟨ts, written⟩⟩
  obtain ⟨sent, data⟩ : ∃ sent, get msg "data" (.dict msg) = .dict sent := by
    rcases flagSigned_eq flag with same | put_
    · exact ⟨fields₁, same.symm⟩
    · obtain ⟨fields, is_dict, -⟩ := setItem_dict put_
      exact ⟨fields, is_dict⟩
  rw [data, flagSigned_dict, Option.some.injEq, Json.dict.injEq] at flag
  have same₁ : SameSent fields₁ sent := by
    rw [← flag]
    split
    · exact SameSent.write (fun _ _ => rfl) (by decide) _
    · exact fun _ _ => rfl
  have same₂ : SameSent fields₂ sent := by
    rcases timed with rfl | ⟨ts, rfl⟩
    · exact same₁
    · exact same₁.write (by decide) _
  refine ⟨sent, data, ?_, ?_⟩
  · rcases named with rfl | rfl
    · exact same₂
    · exact same₂.write (by decide) _
  · have later : get frame "_needs_sig_verify" (.bool false) = get fields₁ "_needs_sig_verify" (.bool false) := by
      rcases named with rfl | rfl <;> rcases timed with rfl | ⟨ts, rfl⟩ <;> simp [get_put]
    rw [later, ← flag]
    cases has sent "signature" && has sent "payload_hash" with
    | true => simp [get_put, Json.truthy]
    | false => simp

/-- The frame in the queue is the sender's but for the keys the server writes. -/
theorem Offer.queued_spec {offer : Offer} (queued : offer.queued = some (name, frame)) :
    SameSent frame offer.sent ∧ (get frame "_needs_sig_verify" (.bool false)).truthy = offer.flagged := by
  cases offer with
  | http sent nodeId =>
    rw [Offer.queued] at queued
    split at queued
    · obtain ⟨-, rfl⟩ := Prod.mk.inj (Option.some.inj queued)
      refine ⟨SameSent.write (fun _ _ => rfl) (by decide) _, ?_⟩
      simp [get_put, Offer.flagged, Offer.sent]
    · cases queued
  | tcp msg nodeId =>
    rw [Offer.queued] at queued
    split at queued
    · rename_i detection
      split at queued
      · rename_i prepared
        obtain ⟨-, rfl⟩ := Prod.mk.inj (Option.some.inj queued)
        obtain ⟨sent, data, same, flagged⟩ := prepareFrame_dict prepared
        have is_sent : (Offer.tcp msg nodeId).sent = sent := by simp only [Offer.sent, detection, data]
        refine ⟨is_sent ▸ same, ?_⟩
        simp only [Offer.flagged, is_sent, detection, decide_true, Bool.true_and, flagged]
      · cases queued
    · rename_i bare
      have is_sent : (Offer.tcp msg nodeId).sent = msg := by simp only [Offer.sent, bare]
      obtain ⟨-, rfl⟩ := Prod.mk.inj (Option.some.inj queued)
      rw [Offer.flagged, is_sent]
      split
      · exact ⟨SameSent.write (fun _ _ => rfl) (by decide) _, by simp [get_put, bare]⟩
      · exact ⟨fun _ _ => rfl, by simp [bare]⟩
    · cases queued

/-! ### What is archived -/

theorem signatureValid_put (frame : Fields) (value : Json) (valid : key ≠ "_signature_valid")
    (legacy : key ≠ "signature_valid") : signatureValid (put key value frame) = signatureValid frame := by
  simp only [signatureValid, get_put, if_neg valid, if_neg legacy]

/-- A verdict that is read is one the frame brings. -/
theorem ownVerdict_of_valid {frame : Fields} (valid : signatureValid frame = some true) : ownVerdict frame = true := by
  by_contra none_
  simp only [ownVerdict, has, Bool.or_eq_true, Option.isSome_iff_ne_none, not_or, not_not] at none_
  simp [signatureValid, Tcp.get, none_.1, none_.2, Json.isNull] at valid

section
variable {v : Signatures} {frame archived : Fields}

theorem sigValid_pop (v : Signatures) (frame : Fields) (nodeId : String) :
    v.sigValid (pop "_needs_sig_verify" frame) nodeId = v.sigValid frame nodeId := by
  have other (key : String) (default : Json) (different : key ≠ "_needs_sig_verify") :
      get (pop "_needs_sig_verify" frame) key default = get frame key default := get_pop frame default different
  simp only [Signatures.sigValid, detNodeId, other "node_id" _ (by decide), other "_node_id" _ (by decide),
    other "payload_hash" _ (by decide), other "signature" _ (by decide)]

/-- The verdict of a flagged frame is the verifier's, that of another is the sender's. -/
theorem archivedFrame_signatureValid (done : v.archivedFrame probation frame nodeId tags = some archived) :
    if (get frame "_needs_sig_verify" (.bool false)).truthy then signatureValid archived = v.sigValid frame nodeId
    else signatureValid archived = signatureValid frame := by
  rw [Signatures.archivedFrame] at done
  split at done
  · cases done
  obtain ⟨verified, verify, rfl⟩ := Option.map_eq_some_iff.mp done
  have untouched : signatureValid (tags.elim verified fun tags => put "adsb" tags verified) = signatureValid verified := by
    cases tags with
    | none => rfl
    | some tags => exact signatureValid_put verified tags (by decide) (by decide)
  rw [untouched]
  rw [Signatures.verifyFrame, sigValid_pop] at verify
  split
  · rename_i flagged
    rw [if_pos flagged] at verify
    obtain ⟨valid, decided, rfl⟩ := Option.map_eq_some_iff.mp verify
    rw [decided]
    simp [signatureValid, get_put, Json.isNull, Json.truthy]
  · rename_i unflagged
    rw [if_neg unflagged] at verify
    obtain rfl := Option.some.inj verify
    have other (key : String) (different : key ≠ "_needs_sig_verify") :
        get (pop "_needs_sig_verify" frame) key .null = get frame key .null := get_pop frame .null different
    simp only [signatureValid, other "_signature_valid" (by decide), other "signature_valid" (by decide)]

theorem sigValid_own (named : (detNodeId frame nodeId).hashKey = some (.text nodeId)) :
    v.sigValid frame nodeId = some true ↔ (v.nodeIdentities.get? (.text nodeId)).isSome ∧
      v.verifyPacket (.text nodeId) (get frame "payload_hash" (.str "")) (get frame "signature" (.str "")) = some true := by
  rw [Signatures.sigValid, named, Option.bind_some]
  split
  · rename_i registered
    simp [registered]
  · rename_i unregistered
    simp [unregistered]

/-- Every row of a frame is filed under the node it was queued under. -/
theorem frameRows_row {env : Setting} {rows : Table} (written : env.frameRows frame = some rows) :
    ∀ row ∈ rows, row.nodeId = env.nodeId ∧ row.signatureValid = signatureValid frame := by
  intro row member
  obtain ⟨cfg, config, typed⟩ := Option.bind_eq_some_iff.mp written
  obtain ⟨i, there⟩ := List.mem_iff_getElem?.mp member
  refine ⟨?_, ((typedRows_spec typed).2.2.2.2 i row there).signatureValid⟩
  obtain ⟨raw, flat, fits⟩ := Option.bind_eq_some_iff.mp typed
  rw [Partial.getElem?_mapM fits] at there
  obtain ⟨raw_row, listed, fitted⟩ := Option.bind_eq_some_iff.mp there
  obtain ⟨values, parsed, made⟩ := Option.bind_eq_some_iff.mp flat
  cases values with
  | none =>
    obtain rfl := Option.some.inj made
    simp at listed
  | some values =>
    rw [Partial.getElem?_mapM made] at listed
    obtain ⟨i', -, from_frame⟩ := Option.bind_eq_some_iff.mp listed
    simp only [Setting.row, Option.bind_eq_bind, Option.bind_eq_some_iff, Option.pure_def, Option.some.injEq] at from_frame
    obtain ⟨_, -, _, -, _, -, _, -, rfl⟩ := from_frame
    exact (Row.fit_spec fitted).2.1

end

/-- The verdict in a row is honest exactly when a flagged frame that the verifier accepts is
its own node's and brings no verdict, and one that is not flagged brings no valid verdict. -/
theorem archived_verdict_honest_iff (v : Signatures) (env : Setting) (offer : Offer) (frame archived : Fields)
    (probation : Bool) (tags : Option Json) (rows : Table) (queued : offer.queued = some (.str env.nodeId, frame))
    (processed : v.archivedFrame probation frame env.nodeId tags = some archived)
    (written : env.frameRows archived = some rows) :
    ∀ row ∈ rows, v.HonestRow offer frame row ↔ v.Unforged offer frame env.nodeId := by
  intro row member
  obtain ⟨same, flagged⟩ := Offer.queued_spec queued
  obtain ⟨filed, verdict⟩ := frameRows_row written row member
  have decided := archivedFrame_signatureValid processed
  rw [flagged, ← verdict] at decided
  rw [Signatures.HonestRow, Signatures.Unforged, filed]
  split
  · rename_i verified
    rw [if_pos verified] at decided
    rw [decided]
    refine forall_congr' fun accepted => ⟨fun signed => ⟨signed.own, signed.carried, signed.silent⟩, ?_⟩
    rintro ⟨own, carried, silent⟩
    obtain ⟨registered, checked⟩ := (sigValid_own own).mp accepted
    exact ⟨registered, checked, carried, own, silent⟩
  · rename_i unverified
    rw [if_neg unverified, same.signatureValid] at decided
    rw [decided]
    constructor
    · intro honest valid
      exact absurd (honest valid).silent (by rw [ownVerdict_of_valid valid]; decide)
    · exact fun invalid valid => absurd valid invalid

/-- A frame whose sender fills the verdict in. Nobody has registered a key. -/
def selfSigned : Fields := ("_signature_valid", .bool true) :: oneDetection 1700000000000 10

def noKeys : Signatures := ⟨Dict.empty, fun _ _ _ => some false⟩

/-- The frame's row says it is validly signed. -/
theorem self_signed_archived : ¬ ∀ frame archived rows, (Offer.http selfSigned "node-A").queued = some (.str "node-A", frame) →
    noKeys.archivedFrame false frame "node-A" none = some archived → bareSetting.frameRows archived = some rows →
    ∀ row ∈ rows, noKeys.HonestRow (.http selfSigned "node-A") frame row := by
  intro honest
  have valid : (bareSetting.frameRows (pop "_needs_sig_verify" (put "_node_id" (.str "node-A") selfSigned))).map
      (fun rows => rows.map Row.signatureValid) = some [some true] := by decide +kernel
  obtain ⟨rows, written, verdicts⟩ := Option.map_eq_some_iff.mp valid
  obtain ⟨row, member, verdict⟩ := List.mem_map.mp (verdicts ▸ List.mem_singleton_self (some true))
  exact absurd (honest _ _ rows rfl rfl written row member verdict).registered (by simp [noKeys])

/-- The same frame without the verdict. -/
theorem archived_verdict_honest_iff_unsigned :
    ∃ rows, bareSetting.frameRows (pop "_needs_sig_verify" (put "_node_id" (.str "node-A") (oneDetection 1700000000000 10))) =
      some rows ∧ ∀ row ∈ rows, noKeys.HonestRow (.http (oneDetection 1700000000000 10) "node-A")
        (put "_node_id" (.str "node-A") (oneDetection 1700000000000 10)) row ↔
        noKeys.Unforged (.http (oneDetection 1700000000000 10) "node-A")
          (put "_node_id" (.str "node-A") (oneDetection 1700000000000 10)) "node-A" := by
  have some_rows : (bareSetting.frameRows
      (pop "_needs_sig_verify" (put "_node_id" (.str "node-A") (oneDetection 1700000000000 10)))).isSome := by
    decide +kernel
  obtain ⟨rows, written⟩ := Option.isSome_iff_exists.mp some_rows
  exact ⟨rows, written, archived_verdict_honest_iff noKeys bareSetting _ _ _ false none rows rfl rfl written⟩

end Retina.Parquet
