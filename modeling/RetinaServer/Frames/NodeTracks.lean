import RetinaServer.Frames.Frame
import RetinaServer.Library.Runs
import RetinaServer.Library.Window
import Mathlib.Data.Finset.Basic
import Mathlib.Data.Finset.Insert

/-! Each node's own tracks, as its tracker reports them on the detection frame. -/
namespace Retina.Frames
open Runs Window

def n2TrackHistoryMax : Nat := 20
def staleTrackS : ℤ := 120
def displayStaleTrackS : ℤ := 15
def forgetMs : ℤ := staleTrackS * 1000
def shownMs : ℤ := displayStaleTrackS * 1000

inductive TrackState where
  | active
  | coasting
  | deleted
deriving DecidableEq, Repr

inductive Closure where
  | deleted
  | trackerRestart
deriving DecidableEq, Repr

/-- The `hit` of a wire track: absent, an integer, or anything else. -/
inductive RawHit where
  | absent
  | index (i : ℤ)
  | other
deriving DecidableEq, Repr

/-- A track as it stands on the frame. A required field that is missing, and a
state that is not one of the three, are `none`. -/
structure WireTrack where
  id : Option String
  state : Option TrackState
  nAssociated : Option ℤ
  nMissed : Option ℤ
  isAnomalous : Option Bool
  maxVelocityMs : Option ℚ
  adsbHex : Option String := none
  anomalyTypes : List String := []
  hit : RawHit := .absent

/-- A queue frame with the tracker's part of it. `nowMs` is the frame's timestamp
as an integer; a frame without one raises before the store is looked at. -/
structure TrackedFrame where
  nowMs : ℤ
  run : Option String
  detections : Frame
  tracks : List WireTrack := []

structure TrackPoint where
  timestamp : ℤ
  delay : ℚ
  doppler : ℚ
  snr : ℚ
  adsb : Option AdsbTag
deriving DecidableEq, Repr

structure TrackUpdate where
  id : String
  state : TrackState
  nAssociated : ℤ
  nMissed : ℤ
  adsbHex : Option String
  isAnomalous : Bool
  anomalyTypes : List String
  maxVelocityMs : ℚ

/-- A detection that a track took, and whether a binding lane has claimed it. -/
structure TrackHit where
  point : TrackPoint
  claimed : Bool

/-- A wire track read in full. -/
structure Filing where
  update : TrackUpdate
  hit : Option TrackHit

structure NodeTrack where
  run : String
  id : String
  state : TrackState := .active
  closed : Option Closure := none
  nAssociated : ℤ := 0
  nMissed : ℤ := 0
  adsbHex : Option String := none
  isAnomalous : Bool := false
  anomalyTypes : List String := []
  maxVelocityMs : ℚ := 0
  window : List TrackPoint := []
  unclaimed : Nat := 0
  unclaimedTags : Finset String := ∅
  lastNamedMs : ℤ := 0

structure TrackedNode where
  run : Option String := none
  tracks : Dict (String × String) NodeTrack := Dict.empty

/-- The tracker run a frame names. -/
def trackerRun (frame : TrackedFrame) : Option String := frame.run.filter fun run => decide (run ≠ "")

/-- `adsb[hit] if adsb else None`, failing beyond the end of the list. -/
def adsbAt (adsb : Option (List (Option AdsbTag))) (i : Nat) : Option (Option AdsbTag) :=
  match adsb with
  | none | some [] => some none
  | some (tag :: tags) => (tag :: tags)[i]?

def readPoint (frame : TrackedFrame) (i : Nat) : Option TrackPoint := do
  let delay ← (← frame.detections.delay)[i]?
  let doppler ← (← frame.detections.doppler)[i]?
  let snr ← (← frame.detections.snr)[i]?
  let adsb ← adsbAt frame.detections.adsb i
  return { timestamp := frame.nowMs, delay, doppler, snr, adsb }

/-- One wire track's values and the detection it hit; `none` for a malformed one. -/
def readTrack (frame : TrackedFrame) (claimed : Finset Nat) (wire : WireTrack) : Option Filing := do
  let update : TrackUpdate := {
    state := ← wire.state
    id := ← wire.id
    nAssociated := ← wire.nAssociated
    nMissed := ← wire.nMissed
    adsbHex := wire.adsbHex
    isAnomalous := ← wire.isAnomalous
    anomalyTypes := wire.anomalyTypes
    maxVelocityMs := ← wire.maxVelocityMs }
  match wire.hit with
  | .absent => return ⟨update, none⟩
  | .other => none
  | .index i =>
      if i < 0 then none
      else
        let point ← readPoint frame i.toNat
        return ⟨update, some ⟨point, decide (i.toNat ∈ claimed)⟩⟩

/-- The hex a point is tagged with, if any. -/
def tagOf (point : TrackPoint) : Option String :=
  point.adsb.bind fun tag =>
    let tagHex := normalizeHexKey tag.hex
    if tagHex = "" then none else some tagHex

def NodeTrack.addHit (track : NodeTrack) (hit : TrackHit) : NodeTrack :=
  let track := { track with window := newest n2TrackHistoryMax (track.window ++ [hit.point]) }
  if hit.claimed then { track with unclaimed := 0, unclaimedTags := ∅ }
  else { track with
    unclaimed := track.unclaimed + 1
    unclaimedTags := match tagOf hit.point with
      | none => track.unclaimedTags
      | some tagHex => insert tagHex track.unclaimedTags }

def NodeTrack.apply (nowMs : ℤ) (track : NodeTrack) (filing : Filing) : NodeTrack :=
  let track := { track with
    state := filing.update.state
    nAssociated := filing.update.nAssociated
    nMissed := filing.update.nMissed
    adsbHex := filing.update.adsbHex
    isAnomalous := filing.update.isAnomalous
    anomalyTypes := filing.update.anomalyTypes
    maxVelocityMs := filing.update.maxVelocityMs
    lastNamedMs := nowMs }
  let track := match filing.hit with
    | none => track
    | some hit => track.addHit hit
  if filing.update.state = .deleted then { track with closed := some .deleted } else track

/-- What filing makes of a key's record: a closed one stays as it is. -/
def fileTrack (run : String) (nowMs : ℤ) (track : Option NodeTrack) (filing : Filing) : NodeTrack :=
  match track with
  | none => NodeTrack.apply nowMs { run, id := filing.update.id } filing
  | some track => if track.closed.isSome then track else track.apply nowMs filing

def file (run : String) (nowMs : ℤ) (tracks : Dict (String × String) NodeTrack) (filing : Filing) :
    Dict (String × String) NodeTrack :=
  let key := (run, filing.update.id)
  tracks.insert key (fileTrack run nowMs (tracks.get? key) filing)

def isFresh (nowMs : ℤ) (track : NodeTrack) : Bool := decide (nowMs - track.lastNamedMs ≤ forgetMs)

def forget (nowMs : ℤ) (tracks : Dict (String × String) NodeTrack) : Dict (String × String) NodeTrack :=
  tracks.filter fun _ track => isFresh nowMs track

def closeOpen (track : NodeTrack) : NodeTrack :=
  if track.closed.isNone then { track with closed := some .trackerRestart } else track

/-- A frame naming another run than the node's closes the tracks of that one. -/
def startRun (node : TrackedNode) (run : String) : TrackedNode :=
  if node.run = some run then node else ⟨some run, node.tracks.mapValues closeOpen⟩

def filings (frame : TrackedFrame) (claimed : Finset Nat) : List Filing :=
  frame.tracks.filterMap (readTrack frame claimed)

/-- `ingest`, for one node; what it refused is left out. -/
def ingest (node : Option TrackedNode) (frame : TrackedFrame) (claimed : Finset Nat) : Option TrackedNode :=
  match trackerRun frame with
  | none => node.bind fun node =>
      let tracks := forget frame.nowMs node.tracks
      if tracks.items.isEmpty then none else some { node with tracks }
  | some run =>
      let node := startRun (node.getD {}) run
      some { node with
        tracks := forget frame.nowMs ((filings frame claimed).foldl (file run frame.nowMs) node.tracks) }

/-- How many wire tracks a frame had refused. -/
def refused (frame : TrackedFrame) (claimed : Finset Nat) : Nat :=
  if (trackerRun frame).isNone then 0
  else frame.tracks.countP fun wire => (readTrack frame claimed wire).isNone

/-- An open track in the shape the dark lane's readers take. -/
structure NodeTrackView where
  id : String
  stateStatus : TrackState
  nAssociated : ℤ
  nMissed : ℤ
  isAnomalous : Bool
  anomalyTypes : List String
  maxVelocityMs : ℚ
  points : List TrackPoint
  adsbHex : Option String

def NodeTrack.view (nodeId : String) (track : NodeTrack) : NodeTrackView where
  id := nodeId ++ ":" ++ track.run ++ ":" ++ track.id
  stateStatus := track.state
  nAssociated := track.nAssociated
  nMissed := track.nMissed
  isAnomalous := track.isAnomalous
  anomalyTypes := track.anomalyTypes
  maxVelocityMs := track.maxVelocityMs
  points := newest track.unclaimed track.window
  adsbHex :=
    let hexn := normalizeHexKey track.adsbHex
    if hexn ∈ track.unclaimedTags then some hexn else none

def isShown (nowMs : ℤ) (track : NodeTrack) : Bool :=
  track.closed.isNone && decide (track.unclaimed ≠ 0) && decide (nowMs - track.lastNamedMs ≤ shownMs)

def views (nodeId : String) (node : Option TrackedNode) (nowMs : ℤ) : List NodeTrackView :=
  match node with
  | none => []
  | some node => (node.tracks.values.filter (isShown nowMs)).map (NodeTrack.view nodeId)

/-! ### One key of the store -/

abbrev TrackKey := String × String

def trackOf (node : Option TrackedNode) (key : TrackKey) : Option NodeTrack := node.bind fun node => node.tracks.get? key

def runOf (node : Option TrackedNode) : Option String := node.bind TrackedNode.run

/-- What a frame files under a key, in order. -/
def filedFor (key : TrackKey) (frame : TrackedFrame) (claimed : Finset Nat) : List Filing :=
  if trackerRun frame = some key.1 then (filings frame claimed).filter fun filing => decide (filing.update.id = key.2)
  else []

/-- A key's record once the frame's run is started. -/
def settledFor (node : Option TrackedNode) (frame : TrackedFrame) (track : Option NodeTrack) : Option NodeTrack :=
  if (trackerRun frame).isSome ∧ trackerRun frame ≠ runOf node then track.map closeOpen else track

def fileAll (run : String) (nowMs : ℤ) (track : Option NodeTrack) (filings : List Filing) : Option NodeTrack :=
  filings.foldl (fun track filing => some (fileTrack run nowMs track filing)) track

theorem get?_foldl_file (run : String) (nowMs : ℤ) (filings : List Filing) (tracks : Dict TrackKey NodeTrack)
    (key : TrackKey) :
    (filings.foldl (file run nowMs) tracks).get? key =
      if run = key.1 then
        fileAll run nowMs (tracks.get? key) (filings.filter fun filing => decide (filing.update.id = key.2))
      else tracks.get? key := by
  obtain ⟨keyRun, keyId⟩ := key
  induction filings generalizing tracks with
  | nil => simp [fileAll]
  | cons filing rest ih =>
    rw [List.foldl_cons, ih, file, Dict.get?_insert]
    by_cases same : run = keyRun
    · subst same
      by_cases here : filing.update.id = keyId
      · subst here
        simp [fileAll]
      · simp [here, fileAll]
    · simp [same]

/-- What a frame makes of one key: the restart closes it, the frame's tracks are
filed under it, and the clock forgets it. -/
theorem trackOf_ingest (node : Option TrackedNode) (frame : TrackedFrame) (claimed : Finset Nat) (key : TrackKey) :
    trackOf (ingest node frame claimed) key =
      (fileAll key.1 frame.nowMs (settledFor node frame (trackOf node key)) (filedFor key frame claimed)).filter
        (isFresh frame.nowMs) := by
  cases named : trackerRun frame with
  | none =>
    have settled : settledFor node frame (trackOf node key) = trackOf node key := by simp [settledFor, named]
    have unfiled : filedFor key frame claimed = [] := by simp [filedFor, named]
    rw [settled, unfiled]
    simp only [ingest, named, fileAll, List.foldl_nil]
    cases node with
    | none => rfl
    | some node =>
      have kept := Dict.get?_filter node.tracks (fun _ track => isFresh frame.nowMs track) key
      simp only [Option.bind_some, trackOf]
      rw [← kept]
      split
      · rename_i gone
        have absent : (forget frame.nowMs node.tracks).keys = [] := by
          simpa [Dict.keys, List.isEmpty_iff] using gone
        exact ((Dict.get?_eq_none_iff _ _).mpr (by rw [forget] at absent; simp [absent])).symm
      · rfl
  | some run =>
    have started : (startRun (node.getD {}) run).tracks.get? key = settledFor node frame (trackOf node key) := by
      cases node with
      | none =>
        have empty : (startRun {} run).tracks.get? key = none := by
          simp only [startRun, reduceCtorEq, if_false, Dict.get?_mapValues]
          rfl
        simpa [settledFor, trackOf] using empty
      | some node =>
        simp only [Option.getD_some, startRun, settledFor, named, runOf, trackOf, Option.bind_some, Option.isSome_some,
          true_and]
        by_cases same : node.run = some run
        · rw [if_pos same, if_neg (not_not.mpr same.symm)]
        · rw [if_neg same, if_pos (Ne.symm same), Dict.get?_mapValues]
    simp only [ingest, named, trackOf, Option.bind_some, forget]
    rw [Dict.get?_filter, get?_foldl_file, started]
    by_cases same : run = key.1
    · simp [same, filedFor, named, trackOf]
    · have unfiled : filedFor key frame claimed = [] := by simp [filedFor, named, same]
      rw [if_neg same, unfiled]
      rfl

/-! ### Runs of one node -/

/-- A frame together with the detections of it that a binding lane took. -/
abbrev ClaimedFrame := TrackedFrame × Finset Nat

def step (node : Option TrackedNode) (frame : ClaimedFrame) : Option TrackedNode := ingest node frame.1 frame.2

/-- The node after these frames, the store holding nothing of it before. -/
def after (frames : List ClaimedFrame) : Option TrackedNode := run step none frames

theorem after_concat (frames : List ClaimedFrame) (frame : ClaimedFrame) :
    after (frames ++ [frame]) = ingest (after frames) frame.1 frame.2 := by
  simp [after, run_append, step]

def Open (node : Option TrackedNode) (key : TrackKey) : Prop :=
  ∃ track, trackOf node key = some track ∧ track.closed = none

def Closed (node : Option TrackedNode) (key : TrackKey) : Prop :=
  ∃ track, trackOf node key = some track ∧ track.closed.isSome

theorem not_open_of_closed (closed : Closed node key) : ¬ Open node key := by
  rintro ⟨track, found, stillOpen⟩
  obtain ⟨same, recorded, isClosed⟩ := closed
  have equal := Option.some.inj (found.symm.trans recorded)
  subst equal
  simp [stillOpen] at isClosed

/-! ### The store of every node -/

/-- `ingest` on the whole store: a node left holding nothing is dropped from it. -/
def ingestNode (nodes : Dict String TrackedNode) (frame : String × ClaimedFrame) : Dict String TrackedNode :=
  match step (nodes.get? frame.1) frame.2 with
  | none => nodes.erase frame.1
  | some node => nodes.insert frame.1 node

theorem get?_ingestNode (nodes : Dict String TrackedNode) (frame : String × ClaimedFrame) (nodeId : String) :
    (ingestNode nodes frame).get? nodeId =
      if frame.1 = nodeId then step (nodes.get? frame.1) frame.2 else nodes.get? nodeId := by
  simp only [ingestNode]
  split
  · rename_i emptied
    rw [Dict.get?_erase, emptied]
  · rename_i node filed
    rw [Dict.get?_insert, filed]

/-- Each node's tracks depend on its own frames alone. -/
theorem get?_run_ingestNode (nodes : Dict String TrackedNode) (frames : List (String × ClaimedFrame)) (nodeId : String) :
    (run ingestNode nodes frames).get? nodeId =
      run step (nodes.get? nodeId) ((frames.filter fun frame => decide (frame.1 = nodeId)).map Prod.snd) := by
  induction frames generalizing nodes with
  | nil => rfl
  | cons frame rest ih =>
    rw [run_cons, ih, get?_ingestNode]
    by_cases own : frame.1 = nodeId
    · subst own
      simp
    · simp [own]

/-! ### A record through its filings -/

theorem addHit_keeps (track : NodeTrack) (hit : TrackHit) :
    (track.addHit hit).run = track.run ∧ (track.addHit hit).id = track.id ∧
      (track.addHit hit).lastNamedMs = track.lastNamedMs ∧ (track.addHit hit).closed = track.closed := by
  simp only [NodeTrack.addHit]
  split <;> exact ⟨rfl, rfl, rfl, rfl⟩

theorem apply_keeps (nowMs : ℤ) (track : NodeTrack) (filing : Filing) :
    (track.apply nowMs filing).run = track.run ∧ (track.apply nowMs filing).id = track.id ∧
      (track.apply nowMs filing).lastNamedMs = nowMs ∧
      (track.apply nowMs filing).closed = if filing.update.state = .deleted then some .deleted else track.closed := by
  cases hit : filing.hit with
  | none => by_cases deleted : filing.update.state = .deleted <;> simp [NodeTrack.apply, hit, deleted]
  | some taken =>
    by_cases deleted : filing.update.state = .deleted <;> simp [NodeTrack.apply, hit, deleted, addHit_keeps]

/-- What the record of a track holds of the hits it took since it was opened. -/
structure Presents (track : NodeTrack) (hits : List TrackHit) : Prop where
  window : track.window = newest n2TrackHistoryMax (hits.map TrackHit.point)
  unclaimed : track.unclaimed = (since TrackHit.claimed hits).length
  tags : ∀ tag, tag ∈ track.unclaimedTags ↔ ∃ hit ∈ since TrackHit.claimed hits, tagOf hit.point = some tag

theorem Presents.addHit {track : NodeTrack} (presents : Presents track hits) (hit : TrackHit) :
    Presents (track.addHit hit) (hits ++ [hit]) := by
  have pushed : newest n2TrackHistoryMax (track.window ++ [hit.point]) =
      newest n2TrackHistoryMax ((hits ++ [hit]).map TrackHit.point) := by
    rw [presents.window, newest_push, List.map_append, List.map_singleton]
  cases claimed : hit.claimed with
  | true =>
    have emptied : since TrackHit.claimed (hits ++ [hit]) = [] := by simp [since_append_singleton, claimed]
    refine ⟨?_, ?_, ?_⟩
    · simpa [NodeTrack.addHit, claimed] using pushed
    · simp [NodeTrack.addHit, claimed, emptied]
    · simp [NodeTrack.addHit, claimed, emptied]
  | false =>
    have grown : since TrackHit.claimed (hits ++ [hit]) = since TrackHit.claimed hits ++ [hit] := by
      simp [since_append_singleton, claimed]
    refine ⟨?_, ?_, ?_⟩
    · simpa [NodeTrack.addHit, claimed] using pushed
    · simp [NodeTrack.addHit, claimed, grown, presents.unclaimed]
    · intro tag
      simp only [NodeTrack.addHit, claimed, grown, Bool.false_eq_true, if_false, List.mem_append, List.mem_singleton]
      cases own : tagOf hit.point with
      | none =>
        rw [presents.tags]
        constructor
        · rintro ⟨old, member, tagged⟩
          exact ⟨old, Or.inl member, tagged⟩
        · rintro ⟨old, member | rfl, tagged⟩
          · exact ⟨old, member, tagged⟩
          · simp [own] at tagged
      | some tagHex =>
        rw [Finset.mem_insert, presents.tags]
        constructor
        · rintro (rfl | ⟨old, member, tagged⟩)
          · exact ⟨hit, Or.inr rfl, own⟩
          · exact ⟨old, Or.inl member, tagged⟩
        · rintro ⟨old, member | rfl, tagged⟩
          · exact Or.inr ⟨old, member, tagged⟩
          · exact Or.inl (Option.some.inj (tagged.symm.trans own))

theorem Presents.apply {track : NodeTrack} (presents : Presents track hits) (nowMs : ℤ) (filing : Filing) :
    Presents (track.apply nowMs filing) (hits ++ filing.hit.toList) := by
  cases hit : filing.hit with
  | none =>
    obtain ⟨window, unclaimed, tags⟩ : Presents track (hits ++ Option.toList none) := by simpa using presents
    simp only [NodeTrack.apply, hit]
    split <;> exact ⟨window, unclaimed, tags⟩
  | some taken =>
    have updated : Presents { track with
        state := filing.update.state
        nAssociated := filing.update.nAssociated
        nMissed := filing.update.nMissed
        adsbHex := filing.update.adsbHex
        isAnomalous := filing.update.isAnomalous
        anomalyTypes := filing.update.anomalyTypes
        maxVelocityMs := filing.update.maxVelocityMs
        lastNamedMs := nowMs } hits := ⟨presents.window, presents.unclaimed, presents.tags⟩
    obtain ⟨window, unclaimed, tags⟩ := updated.addHit taken
    simp only [NodeTrack.apply, hit]
    split <;> exact ⟨window, unclaimed, tags⟩

/-- A key's record follows the hits filed under it for as long as it is open. -/
def Follows (hits : List TrackHit) : Option NodeTrack → Prop
  | none => hits = []
  | some track => track.closed = none → Presents track hits

theorem Follows.fileTrack {track : Option NodeTrack} (follows : Follows hits track) (keyRun : String) (nowMs : ℤ)
    (filing : Filing) :
    Follows (hits ++ filing.hit.toList) (some (fileTrack keyRun nowMs track filing)) := by
  cases track with
  | none =>
    have fresh : Presents { run := keyRun, id := filing.update.id } hits := by
      rw [show hits = [] from follows]
      exact ⟨rfl, rfl, by simp [since]⟩
    intro _
    exact fresh.apply nowMs filing
  | some track =>
    intro opened
    cases closed : track.closed with
    | none =>
      simpa [Retina.Frames.fileTrack, closed] using (follows closed).apply nowMs filing
    | some closure => simp [Retina.Frames.fileTrack, closed] at opened

theorem Follows.fileAll {track : Option NodeTrack} (follows : Follows hits track) (keyRun : String) (nowMs : ℤ)
    (filings : List Filing) :
    Follows (hits ++ filings.filterMap Filing.hit) (fileAll keyRun nowMs track filings) := by
  induction filings generalizing hits track with
  | nil => simpa [Retina.Frames.fileAll] using follows
  | cons filing rest ih =>
    have next := ih (follows.fileTrack keyRun nowMs filing)
    have hitsSplit : filing.hit.toList ++ rest.filterMap Filing.hit = (filing :: rest).filterMap Filing.hit := by
      cases hit : filing.hit <;> simp [hit]
    rwa [List.append_assoc, hitsSplit] at next

theorem fileAll_closed (closed : track.closed.isSome) (filings : List Filing) :
    fileAll keyRun nowMs (some track) filings = some track := by
  induction filings with
  | nil => rfl
  | cons filing rest ih =>
    have kept : fileTrack keyRun nowMs (some track) filing = track := by simp [fileTrack, closed]
    simpa [fileAll, kept] using ih

theorem fileAll_name {track : Option NodeTrack} {filings : List Filing}
    (named : ∀ t, track = some t → t.run = keyRun ∧ t.id = keyId)
    (filed : ∀ filing ∈ filings, filing.update.id = keyId) (result : fileAll keyRun nowMs track filings = some t) :
    t.run = keyRun ∧ t.id = keyId := by
  induction filings generalizing track with
  | nil => exact named t result
  | cons filing rest ih =>
    have later : ∀ filing ∈ rest, filing.update.id = keyId :=
      fun filing member => filed filing (List.mem_cons_of_mem _ member)
    have onward : fileAll keyRun nowMs (some (fileTrack keyRun nowMs track filing)) rest = some t := result
    refine ih ?_ later onward
    intro next equal
    obtain rfl := Option.some.inj equal
    cases track with
    | none =>
      have kept := apply_keeps nowMs { run := keyRun, id := filing.update.id } filing
      exact ⟨kept.1, kept.2.1.trans (filed filing List.mem_cons_self)⟩
    | some prior =>
      have own := named prior rfl
      simp only [fileTrack]
      split
      · exact own
      · exact ⟨(apply_keeps nowMs prior filing).1.trans own.1, (apply_keeps nowMs prior filing).2.1.trans own.2⟩

theorem id_of_mem_filedFor (member : filing ∈ filedFor key frame claimed) : filing.update.id = key.2 := by
  simp only [filedFor] at member
  split at member
  · simpa using (List.mem_filter.mp member).2
  · simp at member

theorem closeOpen_closed (track : NodeTrack) : (closeOpen track).closed.isSome := by
  cases closed : track.closed <;> simp [closeOpen, closed]

theorem closeOpen_of_closed (closed : track.closed.isSome) : closeOpen track = track := by
  cases closure : track.closed with
  | none => simp [closure] at closed
  | some _ => simp [closeOpen, closure]

/-! ### One frame on one key -/

/-- A track that stands open after a frame stood open before it, or was opened by
it, and is what the frame's filings make of it. -/
theorem open_ingest (found : trackOf (ingest node frame claimed) key = some track) (opened : track.closed = none) :
    settledFor node frame (trackOf node key) = trackOf node key ∧
      (∀ prior, trackOf node key = some prior → prior.closed = none) ∧
      fileAll key.1 frame.nowMs (trackOf node key) (filedFor key frame claimed) = some track := by
  rw [trackOf_ingest, Option.filter_eq_some_iff] at found
  cases before : trackOf node key with
  | none =>
    have settled : settledFor node frame none = none := by simp [settledFor]
    rw [before, settled] at found
    exact ⟨settled, by simp, found.1⟩
  | some prior =>
    rw [before] at found
    by_cases restarted : (trackerRun frame).isSome ∧ trackerRun frame ≠ runOf node
    · simp only [settledFor, restarted, and_self, ne_eq, not_false_eq_true, if_true, Option.map_some] at found
      rw [fileAll_closed (closeOpen_closed prior)] at found
      have isClosed := closeOpen_closed prior
      rw [Option.some.inj found.1, opened] at isClosed
      simp at isClosed
    · have settled : settledFor node frame (some prior) = some prior := by simp only [settledFor, if_neg restarted]
      rw [settled] at found
      refine ⟨settled, ?_, found.1⟩
      intro same equal
      obtain rfl := Option.some.inj equal
      cases closure : prior.closed with
      | none => rfl
      | some closure' =>
        have kept : fileAll key.1 frame.nowMs (some prior) (filedFor key frame claimed) = some prior :=
          fileAll_closed (by simp [closure]) _
        rw [kept] at found
        rw [← Option.some.inj found.1, closure] at opened
        simp at opened

theorem closed_ingest (found : trackOf node key = some track) (closed : track.closed.isSome) :
    trackOf (ingest node frame claimed) key = (some track).filter (isFresh frame.nowMs) := by
  have settled : settledFor node frame (some track) = some track := by
    simp only [settledFor, Option.map_some, closeOpen_of_closed closed, ite_self]
  rw [trackOf_ingest, found, settled, fileAll_closed closed]

theorem absent_ingest (absent : trackOf node key = none) (unnamed : filedFor key frame claimed = []) :
    trackOf (ingest node frame claimed) key = none := by
  rw [trackOf_ingest, absent, unnamed]
  simp [settledFor, fileAll]

theorem runOf_ingest_some (named : trackerRun frame = some keyRun) :
    runOf (ingest node frame claimed) = some keyRun := by
  simp only [ingest, named, runOf, Option.bind_some, startRun]
  split
  · assumption
  · rfl

theorem runOf_ingest_none (unnamed : trackerRun frame = none)
    (found : trackOf (ingest node frame claimed) key = some track) :
    runOf (ingest node frame claimed) = runOf node := by
  cases node with
  | none => simp [ingest, unnamed, trackOf] at found
  | some node =>
    simp only [ingest, unnamed, Option.bind_some] at found ⊢
    split
    · rename_i emptied
      rw [if_pos emptied] at found
      simp [trackOf] at found
    · rfl

/-! ### Runs of frames -/

/-- Only tracks of the node's current run are open. -/
theorem runOf_of_open (frames : List ClaimedFrame) (opened : Open (after frames) key) :
    runOf (after frames) = some key.1 := by
  induction frames using List.reverseRecOn with
  | nil =>
    obtain ⟨track, found, -⟩ := opened
    simp [after, trackOf] at found
  | append_singleton frames frame ih =>
    obtain ⟨track, found, isOpen⟩ := opened
    rw [after_concat] at found ⊢
    obtain ⟨settled, priorOpen, filed⟩ := open_ingest found isOpen
    by_cases own : trackerRun frame.1 = some key.1
    · exact runOf_ingest_some own
    · have unfiled : filedFor key frame.1 frame.2 = [] := by simp only [filedFor, if_neg own]
      rw [unfiled] at filed
      have before : trackOf (after frames) key = some track := filed
      have run := ih ⟨track, before, isOpen⟩
      cases named : trackerRun frame.1 with
      | none => rw [runOf_ingest_none named found, run]
      | some other =>
        -- another run's frame would have closed the track
        have restarted : trackerRun frame.1 ≠ runOf (after frames) := by rwa [run]
        rw [before, settledFor, if_pos ⟨by simp [named], restarted⟩] at settled
        have isClosed := closeOpen_closed track
        rw [Option.some.inj settled, isOpen] at isClosed
        simp at isClosed

theorem name_of_trackOf (frames : List ClaimedFrame) (found : trackOf (after frames) key = some track) :
    track.run = key.1 ∧ track.id = key.2 := by
  induction frames using List.reverseRecOn generalizing track with
  | nil => simp [after, trackOf] at found
  | append_singleton frames frame ih =>
    rw [after_concat, trackOf_ingest, Option.filter_eq_some_iff] at found
    refine fileAll_name ?_ (fun filing member => id_of_mem_filedFor member) found.1
    intro settled equal
    simp only [settledFor] at equal
    split at equal
    · obtain ⟨prior, before, rfl⟩ := Option.map_eq_some_iff.mp equal
      have name := ih before
      simp only [closeOpen]
      split <;> exact name
    · exact ih equal

/-- The hits a frame has for a key. -/
def hitsOf (key : TrackKey) (frame : ClaimedFrame) : List TrackHit :=
  (filedFor key frame.1 frame.2).filterMap Filing.hit

/-- The last of the frames are the life of a key's record: it was absent before
them and has been open after each. -/
def LifeOf (key : TrackKey) (before life : List ClaimedFrame) : Prop :=
  trackOf (after before) key = none ∧ ∀ first frame rest, life = first ++ frame :: rest →
    Open (after (before ++ first ++ [frame])) key

theorem open_presents (frames : List ClaimedFrame) (found : trackOf (after frames) key = some track)
    (opened : track.closed = none) :
    ∃ before life, frames = before ++ life ∧ LifeOf key before life ∧ Presents track (life.flatMap (hitsOf key)) := by
  induction frames using List.reverseRecOn generalizing track with
  | nil => simp [after, trackOf] at found
  | append_singleton frames frame ih =>
    have standing : Open (after (frames ++ [frame])) key := ⟨track, found, opened⟩
    rw [after_concat] at found
    obtain ⟨-, priorOpen, filed⟩ := open_ingest found opened
    cases prior : trackOf (after frames) key with
    | none =>
      refine ⟨frames, [frame], rfl, ⟨prior, ?_⟩, ?_⟩
      · intro first next rest split
        cases first with
        | nil =>
          obtain ⟨rfl, -⟩ := List.cons.inj split
          simpa using standing
        | cons _ _ => simp at split
      · have follows : Follows [] (trackOf (after frames) key) := by rw [prior]; rfl
        have result := follows.fileAll key.1 frame.1.nowMs (filedFor key frame.1 frame.2)
        rw [filed] at result
        simpa [hitsOf] using result opened
    | some held =>
      have heldOpen := priorOpen held prior
      obtain ⟨before, life, rfl, ⟨absent, standingThrough⟩, presents⟩ := ih prior heldOpen
      refine ⟨before, life ++ [frame], by rw [List.append_assoc], ⟨absent, ?_⟩, ?_⟩
      · intro first next rest split
        rcases List.eq_nil_or_concat rest with rfl | ⟨rest, last, rfl⟩
        · obtain ⟨rfl, equal⟩ := List.append_inj' split rfl
          obtain rfl : frame = next := by simpa using equal
          exact standing
        · have split' : life ++ [frame] = (first ++ next :: rest) ++ [last] := by simpa using split
          exact standingThrough first next rest (List.append_inj' split' rfl).1
      · have follows : Follows (life.flatMap (hitsOf key)) (trackOf (after (before ++ life)) key) := by
          rw [prior]
          exact fun _ => presents
        have result := follows.fileAll key.1 frame.1.nowMs (filedFor key frame.1 frame.2)
        rw [filed] at result
        simpa [hitsOf] using result opened

/-- The hits of a record's life that came after its newest claimed one. -/
def unclaimedHits (key : TrackKey) (life : List ClaimedFrame) : List TrackHit :=
  since TrackHit.claimed (life.flatMap (hitsOf key))

theorem points_of_presents (nodeId : String) {track : NodeTrack} (presents : Presents track hits) :
    (track.view nodeId).points = newest n2TrackHistoryMax ((since TrackHit.claimed hits).map TrackHit.point) := by
  simp only [NodeTrack.view, presents.window, presents.unclaimed, newest_map, newest_since]

theorem tagged_of_presents (nodeId : String) {track : NodeTrack} (presents : Presents track hits)
    (shown : (track.view nodeId).adsbHex = some shownHex) :
    ∃ hit ∈ since TrackHit.claimed hits, tagOf hit.point = some shownHex := by
  simp only [NodeTrack.view] at shown
  split at shown
  · rename_i tagged
    rw [Option.some.inj shown] at tagged
    exact (presents.tags shownHex).mp tagged
  · simp at shown

/-- Each view shows the hits its track took since the newest claimed one, and
only one run's tracks are open at a time. -/
theorem presentation_exact (nodeId : String) (frames : List ClaimedFrame) (nowMs : ℤ) :
    (∀ view ∈ views nodeId (after frames) nowMs, ∃ key before life,
      view.id = nodeId ++ ":" ++ key.1 ++ ":" ++ key.2 ∧
        frames = before ++ life ∧ LifeOf key before life ∧
        view.points = newest n2TrackHistoryMax ((unclaimedHits key life).map TrackHit.point) ∧
        (∀ hit ∈ unclaimedHits key life, hit.claimed = false) ∧
        ∀ shownHex, view.adsbHex = some shownHex →
          ∃ hit ∈ unclaimedHits key life, tagOf hit.point = some shownHex) ∧
      ∀ first second, Open (after frames) first → Open (after frames) second → first.1 = second.1 := by
  refine ⟨?_, ?_⟩
  · intro view member
    cases held : after frames with
    | none => simp [views, held] at member
    | some node =>
      simp only [views, held, List.mem_map, List.mem_filter] at member
      obtain ⟨track, ⟨listed, shown⟩, rfl⟩ := member
      obtain ⟨⟨key, track⟩, item, rfl⟩ := List.mem_map.mp listed
      have found : trackOf (after frames) key = some track := by
        rw [held]
        exact (Dict.get?_eq_some_iff node.tracks key track).mpr item
      have opened : track.closed = none := by
        simp only [isShown, Bool.and_eq_true, Option.isNone_iff_eq_none] at shown
        exact shown.1.1
      obtain ⟨before, life, split, lived, presents⟩ := open_presents frames found opened
      have name := name_of_trackOf frames found
      refine ⟨key, before, life, ?_, split, lived, points_of_presents nodeId presents,
        fun hit unclaimed => not_of_mem_since unclaimed, fun shownHex => tagged_of_presents nodeId presents⟩
      simp only [NodeTrack.view, name]
  · intro first second firstOpen secondOpen
    exact Option.some.inj ((runOf_of_open frames firstOpen).symm.trans (runOf_of_open frames secondOpen))

end Retina.Frames
