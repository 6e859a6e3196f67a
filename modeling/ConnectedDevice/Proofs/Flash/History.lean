import Mathlib.Data.List.DropRight
import ConnectedDevice.Proofs.Flash.Interchange
import ConnectedDevice.Proofs.Flash.Words

/-!
The flash in memory and its history. Whatever is asked of it, and whenever it is made to refuse, a
byte holds the conjunction of what has reached it since its partition was last erased, and every
answer follows from these bytes and from the layout. Requests that failed are part of the history,
and bring nothing.
-/

namespace ConnectedDevice

/-- A request, or the switch that makes erases and writes fail. -/
inductive NorEvent where
  | request (r : FlashRequest)
  | refuse (refusing : Bool)
deriving DecidableEq

def NorEvent.perform (f : Nor) : NorEvent → FlashAnswer × Nor
  | .request r => Flash.serve f r
  | .refuse refusing => (.done, { f with refusing })

/-- What was asked of a flash, with the answers. -/
abbrev NorLog := List (NorEvent × FlashAnswer)

namespace NorLog

def refusing (log : NorLog) : Bool :=
  log.foldl (fun now entry => match entry.1 with
    | .refuse refusing => refusing
    | .request _ => now) false

/-- The byte that a write brings to a place of a partition, if the write succeeded. -/
def brought? (p : Partition) (i : Nat) : NorEvent × FlashAnswer → Option UInt8
  | (.request (.write q offset data), .done) =>
    if q = p ∧ offset ≤ i then data[i - offset]? else none
  | _ => none

/-- All that was written to a place since the last erase of its partition that succeeded. -/
def received (log : NorLog) (p : Partition) (i : Nat) : Bytes :=
  (log.rtakeWhile (· ≠ (.request (.erase p), .done))).filterMap (brought? p i)

/-- The bits that are left of an erased byte. -/
def conjunction (bytes : Bytes) : UInt8 := bytes.foldl (· &&& ·) erased

/-- The byte that a place must hold. -/
def byteAt (log : NorLog) (p : Partition) (i : Nat) : UInt8 := conjunction (log.received p i)

variable {log : NorLog} {entry : NorEvent × FlashAnswer} {p : Partition} {i : Nat}

theorem received_concat : received (log ++ [entry]) p i =
    if entry = (.request (.erase p), .done) then []
    else log.received p i ++ (brought? p i entry).toList := by
  rw [received, List.rtakeWhile_concat]
  by_cases erases : entry = (.request (.erase p), .done)
  · simp [erases]
  · cases brings : brought? p i entry <;> simp [erases, received, brings]

theorem conjunction_append (bytes : Bytes) (b? : Option UInt8) :
    conjunction (bytes ++ b?.toList) = conjunction bytes &&& b?.getD erased := by
  cases b? <;> simp [conjunction, and_erased]

theorem conjunction_perm {bytes other : Bytes} (perm : bytes.Perm other) :
    conjunction bytes = conjunction other := by
  refine perm.foldl_eq' (fun b _ c _ a => ?_) erased
  rw [UInt8.and_assoc, UInt8.and_comm b, ← UInt8.and_assoc]

theorem byteAt_concat : byteAt (log ++ [entry]) p i =
    if entry = (.request (.erase p), .done) then erased
    else log.byteAt p i &&& (brought? p i entry).getD erased := by
  rw [byteAt, received_concat]
  split
  · rfl
  · exact conjunction_append _ _

/-- Entries that neither erase the partition nor write to it. -/
theorem byteAt_concat_of_none (kept : entry ≠ (.request (.erase p), .done))
    (nothing : ∀ i, brought? p i entry = none) : byteAt (log ++ [entry]) p = log.byteAt p := by
  funext i
  rw [byteAt_concat, if_neg kept, nothing, Option.getD_none, and_erased]

/-- The bytes from a place on. -/
def bytes (log : NorLog) (p : Partition) (offset length : Nat) : Bytes :=
  (List.range' offset length).map (log.byteAt p)

theorem getElem?_bytes {length : Nat} (inside : i < length) :
    (log.bytes p 0 length)[i]? = some (log.byteAt p i) := by
  simp [bytes, List.getElem?_range' inside]

theorem bytes_slice {offset length size : Nat} (inside : offset + length ≤ size) :
    ((log.bytes p 0 size).drop offset).take length = log.bytes p offset length := by
  refine List.ext_getElem (by simp [bytes]; omega) fun i _ _ => ?_
  simp [bytes]

end NorLog

open NorLog (brought? byteAt)

/-- The flash has the places of the layout, and holds what its history says. -/
structure Nor.Records (f : Nor) (layout : Layout) (log : NorLog) : Prop where
  refusing : f.refusing = log.refusing
  places : ∀ p, f.partition? p = layout.find? p
  contents : ∀ p, f.contents? p = (layout.find? p).map fun info => log.bytes p 0 info.size

namespace Nor.Records

variable {f : Nor} {layout : Layout} {log : NorLog} {p : Partition} {r : Region}

theorem blank : (Nor.blank layout).Records layout [] where
  refusing := rfl
  places p := Nor.partition?_blank
  contents p := by
    have empty : NorLog.byteAt [] p = fun _ => erased := rfl
    cases place : layout.find? p <;>
      simp [Nor.contents?, Nor.region?_blank, place, Region.blank, NorLog.bytes, empty]

theorem find? (records : f.Records layout log) (region : f.region? p = some r) :
    layout.find? p = some r.info := by
  rw [← records.places, partition?, region, Option.map_some]

theorem cells (records : f.Records layout log) (region : f.region? p = some r) :
    r.cells.toList = log.bytes p 0 r.cells.size := by
  have holds := records.contents p
  rw [contents?, region, records.find? region, Option.map_some, Option.map_some] at holds
  exact Option.some.inj holds

/-- What changes nothing leaves nothing to record. -/
theorem idle (records : f.Records layout log) (request : FlashRequest) (answer : FlashAnswer)
    (kept : ∀ p, (NorEvent.request request, answer) ≠ (.request (.erase p), .done))
    (nothing : ∀ p i, brought? p i (.request request, answer) = none) :
    f.Records layout (log ++ [(.request request, answer)]) where
  refusing := by simpa [NorLog.refusing] using records.refusing
  places := records.places
  contents p := by
    simp only [NorLog.bytes, NorLog.byteAt_concat_of_none (kept p) (nothing p)]
    exact records.contents p

/-- One region changed, and its cells agree with the longer history. -/
theorem replaced {new : Region} {request : FlashRequest} (records : f.Records layout log)
    (region : f.region? p = some r) (same : new.info = r.info)
    (here : ∀ i < r.cells.size,
      new.cells[i]? = some (byteAt (log ++ [(.request request, .done)]) p i))
    (others : ∀ q ≠ p, byteAt (log ++ [(.request request, .done)]) q = log.byteAt q) :
    (f.setRegion new p).Records layout (log ++ [(.request request, .done)]) where
  refusing := by
    rw [setRegion_refusing]
    simpa [NorLog.refusing] using records.refusing
  places q := by rw [partition?_replaced region same, records.places]
  contents q := by
    rw [contents?_setRegion]
    by_cases this : q = p
    · subst this
      have size : new.cells.size = r.cells.size := congrArg PartitionInfo.size same
      rw [if_pos rfl, records.find? region, Option.map_some, Option.some.injEq]
      refine List.ext_getElem? fun i => ?_
      by_cases inside : i < r.cells.size
      · rw [Array.getElem?_toList, here i inside]
        exact (NorLog.getElem?_bytes inside).symm
      · rw [List.getElem?_eq_none (by simp; omega),
          List.getElem?_eq_none (by simpa [NorLog.bytes, Region.info] using inside)]
    · simp only [if_neg this, NorLog.bytes, others q this]
      exact records.contents q

theorem erase (records : f.Records layout log) (p : Partition) :
    (Flash.serve f (.erase p)).2.Records layout
      (log ++ [(.request (.erase p), (Flash.serve f (.erase p)).1)]) := by
  simp only [Flash.serve, Flash.erase]
  cases ends : f.erase p with
  | error e => exact records.idle _ (.failed e) (by simp) (by simp [brought?])
  | ok g =>
      obtain ⟨-, r, region, rfl⟩ := erase_eq_ok.mp ends
      refine records.replaced region (by simp [Region.blank, Region.info]) ?_ ?_
      · intro i inside
        simp [NorLog.byteAt_concat, Region.blank, Region.info, inside]
      · intro q other
        exact NorLog.byteAt_concat_of_none (by simp [other.symm]) (by simp [brought?])

theorem write (records : f.Records layout log) (p : Partition) (offset : Nat) (data : Bytes) :
    (Flash.serve f (.write p offset data)).2.Records layout
      (log ++ [(.request (.write p offset data), (Flash.serve f (.write p offset data)).1)]) := by
  simp only [Flash.serve, Flash.write]
  cases ends : f.write p offset data with
  | error e => exact records.idle _ (.failed e) (by simp) (by simp [brought?])
  | ok g =>
      obtain ⟨-, r, region, fits, rfl⟩ := write_eq_ok.mp ends
      refine records.replaced region (by simp [Region.info, Region.size_program]) ?_ ?_
      · intro i inside
        have before : r.cells[i]? = some (log.byteAt p i) := by
          rw [← Array.getElem?_toList, records.cells region, NorLog.getElem?_bytes inside]
        simp only [Region.getElem?_program, before, NorLog.byteAt_concat, brought?]
        by_cases reached : offset ≤ i <;> simp [reached, and_erased]
      · intro q other
        exact NorLog.byteAt_concat_of_none (by simp) (by simp [brought?, other.symm])

/-- The flash and its history grow together, event by event. -/
theorem perform (records : f.Records layout log) (e : NorEvent) :
    (e.perform f).2.Records layout (log ++ [(e, (e.perform f).1)]) := by
  cases e with
  | refuse refusing =>
      refine ⟨by simp [NorEvent.perform, NorLog.refusing], records.places, fun p => ?_⟩
      have same : byteAt (log ++ [(.refuse refusing, .done)]) p = log.byteAt p :=
        NorLog.byteAt_concat_of_none (by simp) (by simp [brought?])
      simp only [NorEvent.perform, NorLog.bytes, same]
      exact records.contents p
  | request request =>
      cases request with
      | erase p => exact records.erase p
      | write p offset data => exact records.write p offset data
      | partition p => exact records.idle _ _ (by simp) (by simp [brought?])
      | read p offset length =>
          have stays : (Flash.serve f (.read p offset length)).2 = f := by
            simp only [Flash.serve, Flash.read]
            cases f.read p offset length <;> rfl
          simp only [NorEvent.perform, stays]
          exact records.idle _ _ (by simp) (by simp [brought?])
      | reopen => exact records.idle _ _ (by simp) (by simp [brought?])

end Nor.Records

namespace Flash

variable {σ : Type} {s : σ} {e : FlashError}

theorem settle_failed {α : Type} {attempt : Except FlashError α} {result : α → σ × FlashAnswer}
    (fails : (settle s (attempt.map result)).1 = .failed e)
    (succeeds : ∀ x, (result x).2 ≠ .failed e) : (settle s (attempt.map result)).2 = s := by
  cases attempt with
  | error _ => rfl
  | ok x => exact absurd fails (succeeds x)

theorem serve_failed [Flash σ] {r : FlashRequest} (fails : (serve s r).1 = .failed e) :
    (serve s r).2 = s := by
  cases r with
  | partition p | reopen => simp [serve] at fails
  | erase p | write p offset data | read p offset length => exact settle_failed fails (by simp)

end Flash

/-- What the operations of a flash answer, by its layout and its history. An operation that fails
leaves the flash as it is. -/
structure Nor.Answers (f : Nor) (layout : Layout) (log : NorLog) : Prop where
  erase : ∀ p, (f.erase p).isOk ↔ log.refusing = false ∧ (layout.find? p).isSome
  write : ∀ p offset data, (f.write p offset data).isOk ↔
    log.refusing = false ∧ ∃ info, layout.find? p = some info ∧ offset + data.length ≤ info.size
  read : ∀ p offset length bytes, f.read p offset length = .ok bytes ↔
    (∃ info, layout.find? p = some info ∧ offset + length ≤ info.size) ∧
      bytes = log.bytes p offset length
  failed : ∀ (e : NorEvent) (error : FlashError),
    (e.perform f).1 = .failed error → (e.perform f).2 = f

namespace Nor.Records

variable {f : Nor} {layout : Layout} {log : NorLog}

theorem erase_isOk (records : f.Records layout log) (p : Partition) :
    (f.erase p).isOk ↔ log.refusing = false ∧ (layout.find? p).isSome := by
  rw [isOk_iff, ← records.refusing, ← records.places, partition?]
  simp [erase_eq_ok, Option.isSome_iff_exists]

theorem write_isOk (records : f.Records layout log) (p : Partition) (offset : Nat)
    (data : Bytes) : (f.write p offset data).isOk ↔ log.refusing = false ∧
      ∃ info, layout.find? p = some info ∧ offset + data.length ≤ info.size := by
  rw [isOk_iff, ← records.refusing, ← records.places, partition?]
  simp [write_eq_ok, Region.info]

theorem read_eq_ok (records : f.Records layout log) (p : Partition) (offset length : Nat)
    (bytes : Bytes) : f.read p offset length = .ok bytes ↔
      (∃ info, layout.find? p = some info ∧ offset + length ≤ info.size) ∧
        bytes = log.bytes p offset length := by
  cases region : f.region? p with
  | none =>
      have missing : layout.find? p = none := by simp [← records.places, partition?, region]
      simp [read_of_missing region, missing]
  | some r =>
      have place := records.find? region
      by_cases inside : offset + length ≤ r.cells.size
      · rw [read_of_inside region inside, records.cells region, NorLog.bytes_slice inside]
        simp [place, Region.info, inside, eq_comm]
      · simp [read_outOfRange region inside, place, Region.info, inside]

theorem answers (records : f.Records layout log) : f.Answers layout log where
  erase := records.erase_isOk
  write := records.write_isOk
  read := records.read_eq_ok
  failed e error fails := by
    cases e with
    | refuse refusing => simp [NorEvent.perform] at fails
    | request request => exact Flash.serve_failed fails

end Nor.Records

/-- Accesses in machine words have an answer, and it is the one of unbounded arithmetic. -/
structure Nor.AnswersInWords (f : Nor) : Prop where
  read : ∀ p offset length,
    f.readWords? p offset length = some (f.read p offset.toNat length.toNat)
  write : ∀ p offset data, data.length < UInt64.size →
    f.writeWords? p offset data = some (f.write p offset.toNat data)

theorem Nor.Records.answersInWords {f : Nor} {layout : Layout} {log : NorLog}
    (records : f.Records layout log)
    (small : ∀ p info, layout.find? p = some info → info.size < UInt64.size) :
    f.AnswersInWords := by
  have regions (p : Partition) (r : Region) (region : f.region? p = some r) :
      r.cells.size < UInt64.size := small p _ (records.find? region)
  exact ⟨fun p => readWords?_eq (regions p), fun p offset _ => writeWords?_eq (regions p) offset⟩

/-- A flash in use, with its history. -/
structure NorSession where
  flash : Nor
  log : NorLog

namespace NorSession

def step (s : NorSession) (e : NorEvent) : NorSession :=
  ⟨(e.perform s.flash).2, s.log ++ [(e, (e.perform s.flash).1)]⟩

def run (layout : Layout) (events : List NorEvent) : NorSession :=
  events.foldl step ⟨.blank layout, []⟩

variable {layout : Layout}

theorem records_foldl {s : NorSession} (records : s.flash.Records layout s.log)
    (events : List NorEvent) :
    (events.foldl step s).flash.Records layout (events.foldl step s).log := by
  induction events generalizing s with
  | nil => exact records
  | cons e events ih => exact ih (records.perform e)

/-- After any events, the partitions have the places and sizes of the layout, and each byte is what
is left of an erased one by all that was written to it since, in any order. The operations answer
from these bytes, and in machine words as well as with unbounded places. -/
theorem run_programs (layout : Layout) (events : List NorEvent) :
    let s := run layout events
    (∀ p, s.flash.partition? p = layout.find? p) ∧
      (∀ p info, layout.find? p = some info → ∃ data, s.flash.contents? p = some data ∧
        data.length = info.size ∧ ∀ i < info.size, ∀ bytes : Bytes,
          bytes.Perm (s.log.received p i) → data[i]? = some (NorLog.conjunction bytes)) ∧
      s.flash.Answers layout s.log ∧
      ((∀ p info, layout.find? p = some info → info.size < UInt64.size) →
        s.flash.AnswersInWords) := by
  intro s
  have records : s.flash.Records layout s.log := records_foldl .blank events
  refine ⟨records.places, fun p info place => ?_, records.answers, records.answersInWords⟩
  refine ⟨s.log.bytes p 0 info.size, by simp [records.contents, place], by simp [NorLog.bytes], ?_⟩
  intro i inside bytes perm
  rw [NorLog.getElem?_bytes inside, NorLog.conjunction_perm perm, NorLog.byteAt]

/-- Writes overlap, reach beyond the partition and beyond the words, and are refused. -/
def norEvents : List NorEvent :=
  [.request (.write .config 0 [0x3F, 0x0F]), .request (.write .config 1 [0xFA, 0xF3]),
    .refuse true, .request (.write .config 0 [0]), .request (.erase .config), .refuse false,
    .request (.write .config 2 [1, 2]), .request (.write .config (UInt64.size - 1) [1, 2]),
    .request (.write .otaTemp 0 [1]), .request (.erase .otaTemp),
    .request (.write .otaTemp 3 [0x55]), .request (.read .config 0 3)]

theorem run_programs_overlapping :
    (run resizedLayout norEvents).flash.contents? .config = some [0x3F, 0x0A, 0xF3] ∧
      (run resizedLayout norEvents).flash.contents? .otaTemp = some [0xFF, 0xFF, 0xFF, 0x55] ∧
      NorLog.received (run resizedLayout norEvents).log .config 1 = [0x0F, 0xFA] ∧
      (∀ p info, resizedLayout.find? p = some info → info.size < UInt64.size) ∧
      (run resizedLayout norEvents).flash.AnswersInWords := by
  have small (p : Partition) (info : PartitionInfo) (place : resizedLayout.find? p = some info) :
      info.size < UInt64.size := by
    cases p <;> cases place <;> decide
  exact ⟨by decide, by decide, by decide, small, (run_programs resizedLayout norEvents).2.2.2 small⟩

end NorSession
end ConnectedDevice
