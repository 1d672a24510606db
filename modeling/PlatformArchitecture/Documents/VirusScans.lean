import Mathlib.Data.List.Basic
import PlatformArchitecture.Documents.UploadPipeline
import PlatformArchitecture.Foundations.Frames
import PlatformArchitecture.Foundations.Run
import PlatformArchitecture.Foundations.TextEncodings
import PlatformArchitecture.PolicyEngine.PlatformPolicy

/-!
# Virus scans

`ClamAvScanner` streams a document to the daemon in frames of at most 64 KiB,
collects the reply piece by piece and settles once: at the end of the reply, at
an error of the socket or when the timer fires, whichever comes first.
-/

namespace PlatformArchitecture.Documents

open PlatformArchitecture.Foundations
open PlatformArchitecture.PolicyEngine

/-! ## What is sent -/

def chunkSize : Nat :=
  64 * 1024

/-- The chunks that the loop over the offsets writes. -/
def scanChunks (bytes : Bytes) : List Bytes :=
  chunksFrom chunkSize bytes bytes.length 0

/-- `zINSTREAM\0`. -/
def instreamCommand : Bytes :=
  utf8Bytes "zINSTREAM\x00".toList

/-- Everything that is written to the socket. -/
def scanRequest (bytes : Bytes) : Bytes :=
  instreamCommand ++ frames (scanChunks bytes)

/-- What the daemon reads: the document, once it is whole. -/
def readScanRequest (request : Bytes) : Option Bytes :=
  if instreamCommand.isPrefixOf request then
    let stream := request.drop instreamCommand.length
    match readFrames (stream.length + 1) stream with
    | some (chunks, []) => some chunks.flatten
    | _ => none
  else none

theorem scanChunks_sized {bytes chunk : Bytes} (member : chunk ∈ scanChunks bytes) :
    0 < chunk.length ∧ chunk.length ≤ chunkSize :=
  length_of_mem_chunksFrom (by decide) member

theorem flatten_scanChunks (bytes : Bytes) : (scanChunks bytes).flatten = bytes :=
  flatten_chunksFrom (by decide) (by simp)

private theorem length_le_flatten {chunks : List Bytes}
    (sized : ∀ chunk ∈ chunks, 0 < chunk.length) : chunks.length ≤ (frames chunks).length := by
  induction chunks with
  | nil => simp
  | cons chunk rest inductionHypothesis =>
      have later :=
        inductionHypothesis fun other member => sized other (List.mem_cons_of_mem _ member)
      simp only [frames, frame, List.flatMap_cons, List.length_append, List.length_cons] at later ⊢
      have positive := sized chunk List.mem_cons_self
      omega

/-- The daemon reads the very bytes of the document, whatever their number, and
takes no request that breaks off for a whole one. -/
theorem readScanRequest_scanRequest (bytes : Bytes) :
    readScanRequest (scanRequest bytes) = some bytes ∧
      (∀ chunk ∈ scanChunks bytes, 0 < chunk.length ∧ chunk.length ≤ chunkSize) ∧
      ∀ part, part <+: scanRequest bytes → part ≠ scanRequest bytes →
        readScanRequest part = none := by
  have sized : ∀ chunk ∈ scanChunks bytes, 0 < chunk.length ∧ chunk.length < 2 ^ 32 := by
    intro chunk member
    obtain ⟨positive, bounded⟩ := scanChunks_sized member
    have small : chunkSize < 2 ^ 32 := by decide
    exact ⟨positive, by omega⟩
  refine ⟨?_, fun chunk member => scanChunks_sized member, ?_⟩
  · have enough := length_le_flatten fun chunk member => (sized chunk member).1
    have read :=
      @readFrames_frames (scanChunks bytes) sized [] ((frames (scanChunks bytes)).length + 1)
      (by omega)
    rw [List.append_nil] at read
    unfold readScanRequest scanRequest
    rw [if_pos (List.isPrefixOf_iff_prefix.mpr ⟨_, rfl⟩)]
    dsimp only
    rw [List.drop_left, read]
    exact congrArg some (flatten_scanChunks bytes)
  · intro part isPart short
    unfold readScanRequest
    by_cases begun : instreamCommand.isPrefixOf part = true
    · rw [if_pos begun]
      obtain ⟨stream, rfl⟩ := List.isPrefixOf_iff_prefix.mp begun
      unfold scanRequest at isPart short
      have streamPart := (List.prefix_append_right_inj instreamCommand).mp isPart
      have streamShort : stream ≠ frames (scanChunks bytes) := fun same => short (by rw [same])
      dsimp only
      rw [List.drop_left, readFrames_truncated sized streamPart streamShort]
    · rw [if_neg begun]

/-! ## What comes back -/

/-- `text.includes(target)`. -/
def includes (target text : List Char) : Bool :=
  text.tails.any target.isPrefixOf

/-- `text.split(':').slice(1).join(':')`. -/
def afterColon (text : List Char) : List Char :=
  (text.dropWhile fun c => c ≠ ':').drop 1

/-- `text.replace(target, '')`. -/
def removeFirst (target : List Char) : List Char → List Char
  | [] => []
  | c :: rest =>
      if target.isPrefixOf (c :: rest) then (c :: rest).drop target.length
      else c :: removeFirst target rest

/-- How the end of the reply settles a scan. -/
def scanVerdict (response : List Char) : Except String ScanVerdict :=
  if includes " OK".toList response then .ok ⟨true, none⟩
  else if includes " FOUND".toList response then
    .ok ⟨false, some (String.ofList (trim (removeFirst "FOUND".toList (afterColon response))))⟩
  else .error ("MALWARE_SCAN_ERROR:" ++ String.ofList (trim response))

inductive SocketEvent where
  | connect
  | data (piece : Bytes)
  | failure (message : String)
  | finished
  | timer

structure ScanRun where
  sent : Bytes
  response : List Char
  settled : Option (Except String ScanVerdict)

def ScanRun.start : ScanRun :=
  ⟨[], [], none⟩

/-- A promise settles once. -/
def ScanRun.settle (scan : ScanRun) (outcome : Except String ScanVerdict) : ScanRun :=
  { scan with settled := scan.settled.or (some outcome) }

def ScanRun.step (bytes : Bytes) (scan : ScanRun) : SocketEvent → ScanRun
  | .connect => { scan with sent := scan.sent ++ scanRequest bytes }
  | .data piece => { scan with response := scan.response ++ (decodeUtf8 piece).toList }
  | .failure message => scan.settle (.error message)
  | .finished => scan.settle (scanVerdict scan.response)
  | .timer => scan.settle (.error "MALWARE_SCAN_TIMEOUT")

def SocketEvent.piece : SocketEvent → Option Bytes
  | .data piece => some piece
  | _ => none

/-- What has been collected of the reply: every piece is decoded for itself. -/
def received (events : List SocketEvent) : List Char :=
  (events.filterMap SocketEvent.piece).flatMap fun piece => (decodeUtf8 piece).toList

theorem received_cons (event : SocketEvent) (events : List SocketEvent) :
    received (event :: events) = received [event] ++ received events := by
  rw [← List.singleton_append, received, List.filterMap_append, List.flatMap_append]
  rfl

/-- How an event settles a scan that has collected a reply. -/
def SocketEvent.settlement (response : List Char) :
    SocketEvent → Option (Except String ScanVerdict)
  | .connect | .data _ => none
  | .failure message => some (.error message)
  | .finished => some (scanVerdict response)
  | .timer => some (.error "MALWARE_SCAN_TIMEOUT")

section Runs

variable {bytes : Bytes} {scan : ScanRun}

theorem ScanRun.settled_run {outcome : Except String ScanVerdict}
    (settled : scan.settled = some outcome) (events : List SocketEvent) :
    (run (ScanRun.step bytes) scan events).settled = some outcome := by
  apply @run_invariant_of_step _ _ (ScanRun.step bytes)
    (fun state => state.settled = some outcome) ?_ scan events settled
  intro state event already
  cases event with
  | connect | data piece => exact already
  | failure message | finished | timer => simp [ScanRun.step, ScanRun.settle, already]

private theorem settled_iff (isOpen : scan.settled = none) (events : List SocketEvent)
    (outcome : Except String ScanVerdict) :
    (run (ScanRun.step bytes) scan events).settled = some outcome ↔
      ∃ prior event later, events = prior ++ event :: later ∧
        (∀ other ∈ prior, ∀ response, other.settlement response = none) ∧
        event.settlement (scan.response ++ received prior) = some outcome := by
  induction events generalizing scan with
  | nil => simp [run, isOpen]
  | cons first rest inductionHypothesis =>
      rw [run_cons]
      have passes : (∀ response, first.settlement response = none) →
          (scan.step bytes first).settled = none →
          (scan.step bytes first).response = scan.response ++ received [first] →
          ((run (ScanRun.step bytes) (scan.step bytes first) rest).settled = some outcome ↔
            ∃ prior event later, first :: rest = prior ++ event :: later ∧
              (∀ other ∈ prior, ∀ response, other.settlement response = none) ∧
              event.settlement (scan.response ++ received prior) = some outcome) := by
        intro silent stillOpen collected
        rw [inductionHypothesis stillOpen, collected]
        constructor
        · rintro ⟨prior, event, later, rfl, quiet, decides⟩
          refine ⟨first :: prior, event, later, rfl, ?_, ?_⟩
          · intro other member
            rcases List.mem_cons.mp member with rfl | before
            · exact silent
            · exact quiet other before
          · rw [List.append_assoc, ← received_cons] at decides
            exact decides
        · rintro ⟨prior, event, later, split, quiet, decides⟩
          cases prior with
          | nil =>
              cases split
              rw [silent] at decides
              cases decides
          | cons head others =>
              cases split
              refine ⟨others, event, later, rfl,
                fun other member => quiet other (List.mem_cons_of_mem _ member), ?_⟩
              rw [received_cons, ← List.append_assoc] at decides
              exact decides
      have decides : ∀ result, (∀ response, (first.settlement response).isSome = true) →
          first.settlement scan.response = some result →
          (scan.step bytes first).settled = some result →
          ((run (ScanRun.step bytes) (scan.step bytes first) rest).settled = some outcome ↔
            ∃ prior event later, first :: rest = prior ++ event :: later ∧
              (∀ other ∈ prior, ∀ response, other.settlement response = none) ∧
              event.settlement (scan.response ++ received prior) = some outcome) := by
        intro result loud isResult settled
        rw [ScanRun.settled_run settled rest]
        constructor
        · intro same
          refine ⟨[], first, rest, rfl, fun _ member => absurd member List.not_mem_nil, ?_⟩
          rw [← same, ← isResult]
          simp [received]
        · rintro ⟨prior, event, later, split, quiet, decided⟩
          cases prior with
          | nil =>
              cases split
              rw [← isResult, ← decided]
              simp [received]
          | cons head others =>
              cases split
              have silent := quiet first List.mem_cons_self []
              have speaks := loud []
              rw [silent] at speaks
              cases speaks
      cases first with
      | connect =>
          exact passes (fun _ => rfl) isOpen
            (by simp [ScanRun.step, received, SocketEvent.piece])
      | data piece =>
          exact passes (fun _ => rfl) isOpen
            (by simp [ScanRun.step, received, SocketEvent.piece])
      | failure message =>
          exact decides _ (fun _ => rfl) rfl (by simp [ScanRun.step, ScanRun.settle, isOpen])
      | finished =>
          exact decides _ (fun _ => rfl) rfl (by simp [ScanRun.step, ScanRun.settle, isOpen])
      | timer =>
          exact decides _ (fun _ => rfl) rfl (by simp [ScanRun.step, ScanRun.settle, isOpen])

/-- A scan is settled by the first event that settles it, over the reply
collected until then. -/
theorem settled_start_iff (events : List SocketEvent) (outcome : Except String ScanVerdict) :
    (run (ScanRun.step bytes) ScanRun.start events).settled = some outcome ↔
      ∃ prior event later, events = prior ++ event :: later ∧
        (∀ other ∈ prior, ∀ response, other.settlement response = none) ∧
        event.settlement (received prior) = some outcome :=
  settled_iff rfl events outcome

end Runs

/-! ## The signature that a reply names -/

section Signatures

variable {target name front back : List Char} {sep c : Char}

theorem includes_iff (text : List Char) : includes target text = true ↔ target <:+: text := by
  unfold includes
  rw [List.any_eq_true, List.infix_iff_prefix_suffix]
  constructor
  · rintro ⟨tail, isTail, begins⟩
    exact ⟨tail, List.isPrefixOf_iff_prefix.mp begins, (List.mem_tails _ _).mp isTail⟩
  · rintro ⟨tail, begins, isTail⟩
    exact ⟨tail, (List.mem_tails _ _).mpr isTail, List.isPrefixOf_iff_prefix.mpr begins⟩

/-- A word without the separator begins before it or not at all. -/
theorem prefix_before_iff (noSep : sep ∉ target) :
    target <+: name ++ sep :: back ↔ target <+: name := by
  constructor
  · intro isPrefix
    rcases List.prefix_or_prefix_of_prefix isPrefix (List.prefix_append name _) with
      before | ⟨more, rfl⟩
    · exact before
    · cases more with
      | nil => simp
      | cons first others =>
          have begins := (List.prefix_append_right_inj name).mp isPrefix
          obtain ⟨rfl, _⟩ := List.cons_prefix_cons.mp begins
          exact absurd (List.mem_append_right _ List.mem_cons_self) noSep
  · intro isPrefix
    exact isPrefix.trans (List.prefix_append _ _)

/-- A word after the separator is found at the first separator or later. -/
theorem infix_past_iff (noSep : sep ∉ front) :
    sep :: target <:+: front ++ sep :: back ↔ target <+: back ∨ sep :: target <:+: back := by
  induction front with
  | nil => rw [List.nil_append, List.infix_cons_iff, List.cons_prefix_cons, and_iff_right rfl]
  | cons first rest inductionHypothesis =>
      rw [List.mem_cons, not_or] at noSep
      rw [List.cons_append, List.infix_cons_iff, List.cons_prefix_cons,
        inductionHypothesis noSep.2]
      simp [noSep.1]

theorem removeFirst_past (noSep : sep ∉ c :: target) (absent : ¬ c :: target <:+: front) :
    removeFirst (c :: target) (front ++ sep :: (c :: target ++ back)) = front ++ sep :: back := by
  induction front with
  | nil =>
      have different : c ≠ sep := fun same => noSep (by rw [same]; exact List.mem_cons_self)
      rw [List.nil_append, removeFirst, if_neg (by simp [different]), List.cons_append,
        removeFirst, ← List.cons_append,
        if_pos (List.isPrefixOf_iff_prefix.mpr ⟨back, rfl⟩), List.drop_left, List.nil_append]
  | cons first rest inductionHypothesis =>
      have notHere : ¬ (c :: target).isPrefixOf
          (first :: (rest ++ sep :: (c :: target ++ back))) = true := by
        intro begins
        have isPrefix := List.isPrefixOf_iff_prefix.mp begins
        rw [← List.cons_append, prefix_before_iff noSep] at isPrefix
        exact absent isPrefix.isInfix
      rw [List.cons_append, removeFirst, if_neg notHere, inductionHypothesis fun within =>
        absent (within.trans (List.suffix_cons _ _).isInfix)]
      rfl

/-- The reply of the daemon about an infected stream, as the command with a NUL
at its end gets it. -/
def foundReply (name : List Char) : List Char :=
  "stream:".toList ++ ' ' :: (name ++ ' ' :: "FOUND\x00".toList)

theorem includes_ok_foundReply (noSpace : ' ' ∉ name) :
    includes " OK".toList (foundReply name) = "OK".toList.isPrefixOf name := by
  rw [Bool.eq_iff_iff, includes_iff, List.isPrefixOf_iff_prefix]
  change ' ' :: "OK".toList <:+: "stream:".toList ++ ' ' :: _ ↔ _
  rw [infix_past_iff (by decide), prefix_before_iff (by decide), infix_past_iff noSpace]
  have noPrefix : ¬ "OK".toList <+: "FOUND\x00".toList := by decide
  have noInfix : ¬ ' ' :: "OK".toList <:+: "FOUND\x00".toList := by decide
  simp only [noPrefix, noInfix, or_false]

theorem includes_found_foundReply (name : List Char) :
    includes " FOUND".toList (foundReply name) = true := by
  rw [includes_iff]
  have last : ' ' :: "FOUND\x00".toList = " FOUND".toList ++ ['\x00'] := by decide
  refine ⟨"stream:".toList ++ ' ' :: name, ['\x00'], ?_⟩
  unfold foundReply
  rw [last]
  generalize "stream:".toList = a
  generalize " FOUND".toList = b
  simp only [List.append_assoc, List.cons_append]

theorem afterColon_foundReply (name : List Char) :
    afterColon (foundReply name) = ' ' :: (name ++ ' ' :: "FOUND\x00".toList) := by
  have noColon : ∀ c ∈ "stream".toList, decide (c ≠ ':') = true :=
    List.all_eq_true.mp (by decide)
  have split : "stream:".toList = "stream".toList ++ [':'] := by decide
  unfold afterColon foundReply
  generalize "FOUND\x00".toList = rest
  rw [split, List.append_assoc, List.dropWhile_append_of_pos noColon]
  rfl

theorem scanVerdict_foundReply (nonempty : name ≠ []) (noSpace : ∀ c ∈ name, isSpace c = false)
    (absent : includes "FOUND".toList name = false) :
    scanVerdict (foundReply name) =
      .ok (if "OK".toList.isPrefixOf name then ⟨true, none⟩
        else ⟨false, some (String.ofList (name ++ [' ', '\x00']))⟩) := by
  have noBlank : ' ' ∉ name := fun member => by cases noSpace ' ' member
  unfold scanVerdict
  rw [includes_ok_foundReply noBlank, includes_found_foundReply, afterColon_foundReply]
  cases begins : "OK".toList.isPrefixOf name with
  | true => rfl
  | false =>
      have notInName : ¬ "FOUND".toList <:+: ' ' :: name := by
        rw [List.infix_cons_iff]
        rintro (first | within)
        · have head := (List.cons_prefix_cons.mp first).1
          cases head
        · rw [← includes_iff, absent] at within
          cases within
      have removed : removeFirst "FOUND".toList (' ' :: (name ++ ' ' :: "FOUND\x00".toList)) =
          ' ' :: name ++ [' ', '\x00'] :=
        removeFirst_past (by decide) notInName
      have trimmedReply : trim (' ' :: name ++ [' ', '\x00']) = name ++ [' ', '\x00'] := by
        cases name with
        | nil => exact absurd rfl nonempty
        | cons first rest =>
            have solid := noSpace first List.mem_cons_self
            have blank : isSpace ' ' = true := by decide
            have nul : isSpace '\x00' = false := by decide
            simp [trim, List.dropWhile, solid, blank, nul]
      rw [if_neg Bool.false_ne_true, if_pos rfl, removed, trimmedReply]
      rfl

theorem received_eq_of_pieces {events : List SocketEvent} {text : List Char}
    (ascii : ∀ c ∈ text, c.toNat < 128)
    (cut : (events.filterMap SocketEvent.piece).flatten = utf8Bytes text) :
    received events = text := by
  rw [received, List.flatMap_def]
  exact decodeUtf8_pieces ascii cut

/-- Whatever pieces the reply about an infected document comes in, the scan names
the signature with the blank and the NUL that follow it, and passes for clean
when that name begins with `OK`. -/
theorem scan_foundReply {prior : List SocketEvent}
    (quiet : ∀ event ∈ prior, ∀ response, event.settlement response = none)
    (nonempty : name ≠ []) (ascii : ∀ c ∈ name, c.toNat < 128)
    (noSpace : ∀ c ∈ name, isSpace c = false)
    (absent : includes "FOUND".toList name = false)
    (cut : (prior.filterMap SocketEvent.piece).flatten = utf8Bytes (foundReply name))
    (bytes : Bytes) (later : List SocketEvent) :
    (run (ScanRun.step bytes) ScanRun.start (prior ++ .finished :: later)).settled =
      some (.ok (if "OK".toList.isPrefixOf name then ⟨true, none⟩
        else ⟨false, some (String.ofList (name ++ [' ', '\x00']))⟩)) := by
  have replyAscii : ∀ c ∈ foundReply name, c.toNat < 128 := by
    have frontAscii : ∀ c ∈ "stream:".toList, c.toNat < 128 :=
      List.forall_iff_forall_mem.mp (by decide)
    have backAscii : ∀ c ∈ ' ' :: "FOUND\x00".toList, c.toNat < 128 :=
      List.forall_iff_forall_mem.mp (by decide)
    intro c member
    rcases List.mem_append.mp member with before | within
    · exact frontAscii c before
    · rcases List.mem_cons.mp within with rfl | within
      · decide
      · rcases List.mem_append.mp within with inName | after
        · exact ascii c inName
        · exact backAscii c after
  rw [settled_start_iff]
  refine ⟨prior, .finished, later, rfl, quiet, ?_⟩
  rw [received_eq_of_pieces replyAscii cut]
  exact congrArg some (scanVerdict_foundReply nonempty noSpace absent)

theorem scan_foundReply_eicar :
    (run (ScanRun.step []) ScanRun.start
      ([.connect, .data (utf8Bytes "stream: Eic".toList),
        .data (utf8Bytes "ar FOUND\x00".toList)] ++ .finished :: [.timer])).settled =
      some (.ok ⟨false, some "Eicar \x00"⟩) := by
  have quiet : ∀ event ∈ [SocketEvent.connect, .data (utf8Bytes "stream: Eic".toList),
      .data (utf8Bytes "ar FOUND\x00".toList)], ∀ response, event.settlement response = none := by
    intro event member response
    simp only [List.mem_cons, List.not_mem_nil, or_false] at member
    rcases member with rfl | rfl | rfl <;> rfl
  have ascii : ∀ c ∈ "Eicar".toList, c.toNat < 128 := List.forall_iff_forall_mem.mp (by decide)
  have noSpace : ∀ c ∈ "Eicar".toList, isSpace c = false :=
    List.forall_iff_forall_mem.mp (by decide)
  exact @scan_foundReply "Eicar".toList _ quiet (by decide) ascii noSpace (by decide)
    (by decide) [] [.timer]

end Signatures

end PlatformArchitecture.Documents
