import ConnectedDevice.Flash.Files
import ConnectedDevice.Proofs.Flash.Nor

/-!
Flash in memory and flash in files answer alike, as long as no byte is written twice between two
erases. Both hold the same bytes: a file that is missing stands for an erased partition, and an
erased byte takes what is written to it, whether the write clears bits or replaces the byte.
-/

namespace ConnectedDevice

/-- What every flash offers. An operation that fails leaves no new flash. -/
class Flash (σ : Type) where
  partition? : σ → Partition → Option PartitionInfo
  erase : σ → Partition → Except FlashError σ
  write : σ → Partition → Nat → Bytes → Except FlashError σ
  read : σ → Partition → Nat → Nat → Except FlashError (σ × Bytes)
  /-- gives the flash up and opens it again -/
  reopen : σ → σ

instance : Flash Nor where
  partition? := Nor.partition?
  erase := Nor.erase
  write := Nor.write
  read f p offset length := (f.read p offset length).map fun data => (f, data)
  reopen f := f

instance : Flash FileFlash where
  partition? := FileFlash.partition?
  erase := FileFlash.erase
  write := FileFlash.write
  read := FileFlash.read
  reopen f := .create f.directory f.layout

inductive FlashRequest where
  | partition (p : Partition)
  | erase (p : Partition)
  | write (p : Partition) (offset : Nat) (data : Bytes)
  | read (p : Partition) (offset length : Nat)
  | reopen
deriving DecidableEq

inductive FlashAnswer where
  | partition (info : Option PartitionInfo)
  | done
  | data (data : Bytes)
  | failed (e : FlashError)
deriving DecidableEq

namespace Flash

variable {σ : Type} [Flash σ]

/-- What an attempt leaves of the flash `s`, with the answer. -/
def settle (s : σ) : Except FlashError (σ × FlashAnswer) → FlashAnswer × σ
  | .ok (later, answer) => (answer, later)
  | .error e => (.failed e, s)

def serve (s : σ) : FlashRequest → FlashAnswer × σ
  | .partition p => (.partition (partition? s p), s)
  | .erase p => settle s ((erase s p).map (·, .done))
  | .write p offset data => settle s ((write s p offset data).map (·, .done))
  | .read p offset length =>
    settle s ((read s p offset length).map fun (later, data) => (later, .data data))
  | .reopen => (.done, reopen s)

def answers (s : σ) : List FlashRequest → List FlashAnswer
  | [] => []
  | r :: rs => (serve s r).1 :: answers (serve s r).2 rs

end Flash

namespace FlashRequest

/-- The bytes of a partition that the request writes, if it is inside the partition. -/
def writes (layout : Layout) (p : Partition) : FlashRequest → List Nat
  | .write q offset data =>
    if q = p ∧ (layout.find? p).any (offset + data.length ≤ ·.size) then
      List.range' offset data.length
    else []
  | _ => []

end FlashRequest

/-- The bytes of a partition that are written before it is erased next, write after write. -/
def Layout.written (layout : Layout) (p : Partition) (rs : List FlashRequest) : List Nat :=
  (rs.takeWhile (· ≠ .erase p)).flatMap (·.writes layout p)

/-- From any request on, no byte is written twice before its partition is erased. -/
def Layout.WritesOnce (layout : Layout) (rs : List FlashRequest) : Prop :=
  ∀ later, later <:+ rs → ∀ p, (layout.written p later).Nodup

namespace Layout

variable {layout : Layout} {p : Partition} {r : FlashRequest} {rs : List FlashRequest} {i : Nat}

theorem written_cons : layout.written p (r :: rs) =
    if r = .erase p then [] else r.writes layout p ++ layout.written p rs := by
  by_cases erases : r = .erase p <;> simp [written, erases]

theorem mem_written (written : i ∈ layout.written p rs) :
    ∃ info, layout.find? p = some info ∧ i < info.size := by
  obtain ⟨r, -, writes⟩ := List.mem_flatMap.mp written
  cases r with
  | write q offset data =>
      obtain ⟨⟨-, fits⟩, inside⟩ := by simpa [FlashRequest.writes] using writes
      obtain ⟨info, place, fits⟩ := (Option.any_eq_true _ _).mp fits
      simp only [decide_eq_true_eq] at fits
      exact ⟨info, place, by omega⟩
  | partition _ | erase _ | read _ _ _ | reopen => simp [FlashRequest.writes] at writes

theorem WritesOnce.tail (once : layout.WritesOnce (r :: rs)) : layout.WritesOnce rs :=
  fun later behind => once later (behind.trans (List.suffix_cons r rs))

theorem writesOnce_cons : layout.WritesOnce (r :: rs) ↔
    (∀ p, (layout.written p (r :: rs)).Nodup) ∧ layout.WritesOnce rs := by
  refine ⟨fun once => ⟨once _ (List.suffix_refl _), once.tail⟩, ?_⟩
  intro ⟨here, after⟩ later behind
  cases List.suffix_cons_iff.mp behind with
  | inl whole => rw [whole]; exact here
  | inr behind => exact after later behind

/-- Decided at each request, for the partitions there are. -/
instance (layout : Layout) : (rs : List FlashRequest) → Decidable (layout.WritesOnce rs)
  | [] => isTrue fun later behind p => by simp [List.suffix_nil.mp behind, written]
  | r :: rs =>
    have := instDecidableWritesOnce layout rs
    decidable_of_iff
      ((∀ p ∈ Partition.all, (layout.written p (r :: rs)).Nodup) ∧ layout.WritesOnce rs) <| by
      rw [writesOnce_cons]
      refine and_congr_left fun _ => forall_congr' fun p => ?_
      have : p ∈ Partition.all := by cases p <;> decide
      simp [this]

end Layout

namespace HostDirectory

variable {d : HostDirectory} {name : String} {e : FileEntry}

theorem lookup_filter {other : String} (es : List (String × FileEntry)) (differ : other ≠ name) :
    (es.filter (·.1 != name)).lookup other = es.lookup other := by
  induction es with
  | nil => rfl
  | cons entry es ih =>
      obtain ⟨here, entry⟩ := entry
      have passed : (other == name) = false := beq_eq_false_iff_ne.mpr differ
      by_cases replaced : here = name
      · simp [replaced, ih, List.lookup_cons, passed]
      · simp [replaced, ih, List.lookup_cons]

theorem find?_put (there : d.entries.isSome) (other : String) :
    (d.put name e).find? other = if other = name then some e else d.find? other := by
  obtain ⟨es, entries⟩ := Option.isSome_iff_exists.mp there
  by_cases same : other = name
  · simp [find?, put, entries, same]
  · have passed : (other == name) = false := beq_eq_false_iff_ne.mpr same
    simp [find?, put, entries, same, List.lookup_cons, passed, lookup_filter]

theorem isSome_put (there : d.entries.isSome) : (d.put name e).entries.isSome := by
  simpa [put] using there

theorem create_of_isSome (there : d.entries.isSome) : d.create = d := by
  obtain ⟨es, entries⟩ := Option.isSome_iff_exists.mp there
  obtain ⟨path, _⟩ := d
  simp_all [create]

end HostDirectory

namespace FileFlash

variable {f g : FileFlash} {p q : Partition} {info : PartitionInfo} {data new : Bytes}

theorem fileName_inj : fileName p = fileName q ↔ p = q := by
  cases p <;> cases q <;> decide

/-- What the file of a partition holds, or would hold once it is created. -/
def contents? (f : FileFlash) (p : Partition) : Option Bytes :=
  (f.partition? p).bind fun info =>
    match f.directory.find? (fileName p) with
    | some (.file data) => some data
    | some .directory => none
    | none => some (List.replicate info.size erased)

/-- The partition holds these bytes now, and nothing else changed. -/
structure Becomes (f g : FileFlash) (p : Partition) (data : Bytes) : Prop where
  layout : g.layout = f.layout
  there : g.directory.entries.isSome
  contents : ∀ q, g.contents? q = if q = p then some data else f.contents? q

theorem becomes_put (there : f.directory.entries.isSome) (place : f.partition? p = some info)
    (data : Bytes) :
    f.Becomes { f with directory := f.directory.put (fileName p) (.file data) } p data := by
  refine ⟨rfl, HostDirectory.isSome_put there, fun q => ?_⟩
  have kept : ({ f with directory := f.directory.put (fileName p) (.file data) }
      : FileFlash).partition? q = f.partition? q := rfl
  simp only [contents?, kept, HostDirectory.find?_put there, fileName_inj]
  by_cases same : q = p
  · simp [same, place]
  · simp [same]

theorem Becomes.trans {h : FileFlash} (first : f.Becomes g p data) (second : g.Becomes h p new) :
    f.Becomes h p new := by
  refine ⟨second.layout.trans first.layout, second.there, fun q => ?_⟩
  rw [second.contents, first.contents]
  split <;> rfl

theorem find?_of_contents? (holds : f.contents? p = some data) :
    f.directory.find? (fileName p) ≠ some .directory := by
  intro directory
  cases place : f.partition? p <;> simp [contents?, place, directory] at holds

theorem overwrite_inside {old : Bytes} {offset : Nat} (fits : offset + new.length ≤ old.length) :
    overwrite old offset new = old.take offset ++ new ++ old.drop (offset + new.length) := by
  have covered : offset - old.length = 0 := by omega
  cases new with
  | nil => simp [overwrite]
  | cons b rest => simp [overwrite, covered]

theorem openPartition_ok (there : f.directory.entries.isSome) (place : f.partition? p = some info)
    (holds : f.contents? p = some data) :
    ∃ g, f.openPartition p info.size = .ok (g, data) ∧ f.Becomes g p data := by
  cases found : f.directory.find? (fileName p) with
  | none =>
      have blank : data = List.replicate info.size erased := by
        simpa [contents?, place, found, eq_comm] using holds
      have created := becomes_put there place data
      refine ⟨_, ?_, created⟩
      have missing : ¬f.directory.entries = none := by simpa [Option.isSome_iff_ne_none] using there
      have opened : (f.directory.put (fileName p) (.file data)).find? (fileName p) =
          some (.file data) := by
        rw [HostDirectory.find?_put there, if_pos rfl]
      simp [openPartition, found, HostDirectory.writeFile, missing, ← blank, orElse, opened,
        HostDirectory.openFile, bind, Except.bind, pure, Except.pure]
  | some entry =>
      cases entry with
      | directory => exact absurd found (find?_of_contents? holds)
      | file old =>
          have same : old = data := by simpa [contents?, place, found] using holds
          subst same
          refine ⟨f, ?_, rfl, there, fun q => ?_⟩
          · simp [openPartition, found, orElse, HostDirectory.openFile, bind, Except.bind, pure,
              Except.pure]
          · split
            next here => rw [here, holds]
            next => rfl

section Fails

variable {offset length : Nat}

theorem erase_of_missing (missing : f.partition? p = none) :
    f.erase p = .error (.noPartition p) := by
  simp [erase, FileFlash.info, missing, bind, Except.bind]

theorem write_of_missing (missing : f.partition? p = none) :
    f.write p offset data = .error (.noPartition p) := by
  simp [write, FileFlash.info, missing, bind, Except.bind]

theorem read_of_missing (missing : f.partition? p = none) :
    f.read p offset length = .error (.noPartition p) := by
  simp [read, FileFlash.info, missing, bind, Except.bind]

theorem write_outOfRange (place : f.partition? p = some info)
    (beyond : ¬offset + data.length ≤ info.size) :
    f.write p offset data = .error (.outOfRange p offset data.length info.size) := by
  simp [write, FileFlash.info, place, checkRange, beyond, bind, Except.bind]

theorem read_outOfRange (place : f.partition? p = some info)
    (beyond : ¬offset + length ≤ info.size) :
    f.read p offset length = .error (.outOfRange p offset length info.size) := by
  simp [read, FileFlash.info, place, checkRange, beyond, bind, Except.bind]

end Fails

theorem erase_ok (there : f.directory.entries.isSome) (place : f.partition? p = some info)
    (holds : f.contents? p = some data) :
    ∃ g, f.erase p = .ok g ∧ f.Becomes g p (List.replicate info.size erased) := by
  refine ⟨_, ?_, becomes_put there place _⟩
  have missing : ¬f.directory.entries = none := by simpa [Option.isSome_iff_ne_none] using there
  simp [erase, FileFlash.info, place, HostDirectory.writeFile, missing, orElse,
    find?_of_contents? holds, bind, Except.bind, pure, Except.pure]

theorem write_ok {offset : Nat} (there : f.directory.entries.isSome)
    (place : f.partition? p = some info) (holds : f.contents? p = some data)
    (fits : offset + new.length ≤ info.size) :
    ∃ g, f.write p offset new = .ok g ∧ f.Becomes g p (overwrite data offset new) := by
  obtain ⟨opened, ran, becomes⟩ := openPartition_ok there place holds
  have still : opened.partition? p = some info := by
    rw [partition?, becomes.layout, ← partition?, place]
  refine ⟨_, ?_, becomes.trans (becomes_put becomes.there still _)⟩
  simp [write, FileFlash.info, place, checkRange, fits, ran, bind, Except.bind, pure, Except.pure]

theorem read_ok {offset length : Nat} (there : f.directory.entries.isSome)
    (place : f.partition? p = some info) (holds : f.contents? p = some data)
    (whole : data.length = info.size) (fits : offset + length ≤ info.size) :
    ∃ g, f.read p offset length = .ok (g, (data.drop offset).take length) ∧
      f.Becomes g p data := by
  obtain ⟨opened, ran, becomes⟩ := openPartition_ok there place holds
  have enough : ¬((data.drop offset).take length).length < length := by simp; omega
  refine ⟨opened, ?_, becomes⟩
  simp only [read, FileFlash.info, place, checkRange, fits, ran, enough, bind, Except.bind, pure,
    Except.pure, if_true, if_false]

end FileFlash

/-- The flash in memory and the flash in files hold the same bytes. -/
structure Nor.Mirrors (f : Nor) (g : FileFlash) : Prop where
  accepting : f.refusing = false
  there : g.directory.entries.isSome
  places : ∀ p, g.partition? p = f.partition? p
  contents : ∀ p, g.contents? p = f.contents? p

namespace Nor

variable {f : Nor} {g h : FileFlash} {p q : Partition} {r new : Region}

theorem partition?_replaced (region : f.region? p = some r) (same : new.info = r.info) :
    (f.setRegion new p).partition? q = f.partition? q := by
  rw [partition?_setRegion]
  split
  next here => rw [← here, partition?, region, Option.map_some, same]
  next => rfl

theorem contents?_setRegion :
    (f.setRegion r p).contents? q = if q = p then some r.cells.toList else f.contents? q := by
  simp only [contents?, region?_setRegion, eq_comm (a := q)]
  split <;> rfl

theorem Mirrors.becomes (mirrors : f.Mirrors g) (region : f.region? p = some r)
    (same : new.info = r.info) (becomes : g.Becomes h p new.cells.toList) :
    (f.setRegion new p).Mirrors h where
  accepting := by rw [setRegion_refusing]; exact mirrors.accepting
  there := becomes.there
  places q := by
    rw [partition?_replaced region same, ← mirrors.places q]
    simp only [FileFlash.partition?, becomes.layout]
  contents q := by rw [becomes.contents, contents?_setRegion, mirrors.contents]

/-- The byte can take whatever is written to it. -/
def IsFree (f : Nor) (p : Partition) (i : Nat) : Prop :=
  (f.contents? p).bind (·[i]?) = some erased

theorem isFree_setRegion (i : Nat) :
    (f.setRegion r p).IsFree q i ↔ if q = p then r.cells[i]? = some erased else f.IsFree q i := by
  simp only [IsFree, contents?_setRegion]
  split <;> simp

theorem isFree_iff (region : f.region? p = some r) (i : Nat) :
    f.IsFree p i ↔ r.cells[i]? = some erased := by
  simp [IsFree, contents?, region]

end Nor

namespace Nor.Mirrors

variable {f : Nor} {g : FileFlash} {p : Partition} {r : Region}

theorem misses (mirrors : f.Mirrors g) (missing : f.region? p = none) :
    g.partition? p = none := by
  rw [mirrors.places]
  simp [Nor.partition?, missing]

theorem finds (mirrors : f.Mirrors g) (region : f.region? p = some r) :
    g.partition? p = some r.info ∧ g.contents? p = some r.cells.toList := by
  rw [mirrors.places, mirrors.contents]
  simp [Nor.partition?, Nor.contents?, region]

theorem sameEnd_erase (mirrors : f.Mirrors g) (p : Partition) :
    SameEnd Nor.Mirrors (f.erase p) (g.erase p) := by
  have accepts := mirrors.accepting
  cases region : f.region? p with
  | none =>
      rw [erase_of_missing accepts region, FileFlash.erase_of_missing (mirrors.misses region)]
      exact .error _
  | some r =>
      obtain ⟨place, holds⟩ := mirrors.finds region
      obtain ⟨h, erased, becomes⟩ := FileFlash.erase_ok mirrors.there place holds
      rw [Nor.erase_eq_ok.mpr ⟨accepts, r, region, rfl⟩, erased]
      refine .ok (mirrors.becomes region (by simp [Region.blank, Region.info]) ?_)
      simpa [Region.blank] using becomes

/-- Free bytes take what is written, and so do the bytes of a file. -/
theorem sameEnd_write (mirrors : f.Mirrors g) {p : Partition} {offset : Nat} {data : Bytes}
    (free : (f.partition? p).any (offset + data.length ≤ ·.size) →
      ∀ i ∈ List.range' offset data.length, f.IsFree p i) :
    SameEnd Nor.Mirrors (f.write p offset data) (g.write p offset data) := by
  have accepts := mirrors.accepting
  cases region : f.region? p with
  | none =>
      rw [write_of_missing accepts region, FileFlash.write_of_missing (mirrors.misses region)]
      exact .error _
  | some r =>
      obtain ⟨place, holds⟩ := mirrors.finds region
      by_cases fits : offset + data.length ≤ r.cells.size
      · obtain ⟨h, written, becomes⟩ := FileFlash.write_ok mirrors.there place holds fits
        rw [Nor.write_eq_ok.mpr ⟨accepts, r, region, fits, rfl⟩, written]
        refine .ok (mirrors.becomes region (by simp [Region.info, Region.size_program]) ?_)
        have takes : (Region.program r.cells offset data).toList =
            FileFlash.overwrite r.cells.toList offset data := by
          rw [FileFlash.overwrite_inside (by simpa using fits)]
          refine Region.toList_program_free fits fun i front inside => ?_
          refine (isFree_iff region i).mp (free ?_ i ?_)
          · simpa [Nor.partition?, region, Region.info] using fits
          · simp [List.mem_range'_1, front, inside]
        rwa [takes]
      · rw [write_outOfRange accepts region fits, FileFlash.write_outOfRange place fits]
        exact .error _

/-- A read may create the file, but that changes no byte. -/
theorem sameEnd_read (mirrors : f.Mirrors g) (p : Partition) (offset length : Nat) :
    SameEnd (fun x y => x.1.Mirrors y.1 ∧ x.2 = y.2) (Flash.read f p offset length)
      (Flash.read g p offset length) := by
  change SameEnd _ ((f.read p offset length).map fun data => (f, data)) (g.read p offset length)
  cases region : f.region? p with
  | none =>
      rw [read_of_missing region, FileFlash.read_of_missing (mirrors.misses region)]
      exact .error _
  | some r =>
      obtain ⟨place, holds⟩ := mirrors.finds region
      by_cases fits : offset + length ≤ r.cells.size
      · obtain ⟨h, read, becomes⟩ :=
          FileFlash.read_ok mirrors.there place holds (by simp [Region.info]) fits
        rw [read_of_inside region fits, read]
        refine .ok ⟨⟨mirrors.accepting, becomes.there, fun q => ?_, fun q => ?_⟩, rfl⟩
        · rw [← mirrors.places]
          simp only [FileFlash.partition?, becomes.layout]
        · rw [becomes.contents, ← mirrors.contents]
          split
          next here => rw [here, holds]
          next => rfl
      · rw [read_outOfRange region fits, FileFlash.read_outOfRange place fits]
        exact .error _

theorem reopen (mirrors : f.Mirrors g) : f.Mirrors (.create g.directory g.layout) := by
  rw [FileFlash.create, HostDirectory.create_of_isSome mirrors.there]
  exact mirrors

/-- Equal answers, and flashes that hold the same bytes. -/
def Alike (x : Nor × FlashAnswer) (y : FileFlash × FlashAnswer) : Prop :=
  x.1.Mirrors y.1 ∧ x.2 = y.2

theorem settle (mirrors : f.Mirrors g) {x : Except FlashError (Nor × FlashAnswer)}
    {y : Except FlashError (FileFlash × FlashAnswer)} (ends : SameEnd Alike x y) :
    (Flash.settle f x).1 = (Flash.settle g y).1 ∧
      (Flash.settle f x).2.Mirrors (Flash.settle g y).2 := by
  cases ends with
  | ok both => exact ⟨both.2, both.1⟩
  | error e => exact ⟨rfl, mirrors⟩

theorem serve {layout : Layout} (mirrors : f.Mirrors g) (r : FlashRequest)
    (places : ∀ p, f.partition? p = layout.find? p)
    (free : ∀ p, ∀ i ∈ r.writes layout p, f.IsFree p i) :
    (Flash.serve f r).1 = (Flash.serve g r).1 ∧
      (Flash.serve f r).2.Mirrors (Flash.serve g r).2 := by
  cases r with
  | partition p => exact ⟨congrArg _ (mirrors.places p).symm, mirrors⟩
  | erase p => exact mirrors.settle ((mirrors.sameEnd_erase p).map fun _ _ still => ⟨still, rfl⟩)
  | write p offset data =>
      refine mirrors.settle (SameEnd.map (mirrors.sameEnd_write fun fits i inside => ?_)
        fun _ _ still => ⟨still, rfl⟩)
      refine free p i ?_
      rw [places] at fits
      rw [FlashRequest.writes, if_pos ⟨rfl, fits⟩]
      exact inside
  | read p offset length =>
      exact mirrors.settle ((mirrors.sameEnd_read p offset length).map fun _ _ both =>
        ⟨both.1, congrArg _ both.2⟩)
  | reopen => exact ⟨rfl, mirrors.reopen⟩

end Nor.Mirrors

/-- The partitions have the places of the layout, and what is to be written is still free. -/
structure Nor.Awaits (f : Nor) (layout : Layout) (rs : List FlashRequest) : Prop where
  places : ∀ p, f.partition? p = layout.find? p
  free : ∀ p, ∀ i ∈ layout.written p rs, f.IsFree p i

namespace Nor.Awaits

variable {f : Nor} {layout : Layout} {rs : List FlashRequest}

theorem head {r : FlashRequest} (awaits : f.Awaits layout (r :: rs)) (p : Partition) :
    ∀ i ∈ r.writes layout p, f.IsFree p i := by
  intro i writes
  refine awaits.free p i ?_
  rw [Layout.written_cons, if_neg fun erases => ?_]
  · exact List.mem_append_left _ writes
  · simp [erases, FlashRequest.writes] at writes

/-- A request that leaves the flash as it is. -/
theorem idle {r : FlashRequest} (awaits : f.Awaits layout (r :: rs))
    (kept : ∀ p, r ≠ .erase p) : f.Awaits layout rs := by
  refine ⟨awaits.places, fun p i written => awaits.free p i ?_⟩
  rw [Layout.written_cons, if_neg (kept p)]
  exact List.mem_append_right _ written

/-- After an erase everything that follows it is free. -/
theorem erase {p : Partition} (awaits : f.Awaits layout (.erase p :: rs))
    (accepting : f.refusing = false) :
    (Flash.serve f (.erase p)).2.Awaits layout rs := by
  obtain ⟨places, free⟩ := awaits
  have others : ∀ q ≠ p, ∀ i ∈ layout.written q rs, f.IsFree q i := by
    intro q other i written
    refine free q i ?_
    rw [Layout.written_cons, if_neg (by simpa [eq_comm] using other)]
    exact List.mem_append_right _ written
  cases region : f.region? p with
  | none =>
      have stays : (Flash.serve f (.erase p)).2 = f := by
        simp [Flash.serve, Flash.erase, erase_of_missing accepting region, Flash.settle,
          Except.map]
      rw [stays]
      refine ⟨places, fun q i written => ?_⟩
      by_cases here : q = p
      · obtain ⟨info, place, -⟩ := Layout.mem_written written
        rw [here, ← places, Nor.partition?, region] at place
        cases place
      · exact others q here i written
  | some r =>
      have erased := Nor.erase_eq_ok.mpr ⟨accepting, r, region, rfl⟩
      have now : (Flash.serve f (.erase p)).2 = f.setRegion (.blank r.info) p := by
        simp [Flash.serve, Flash.erase, erased, Flash.settle, Except.map]
      rw [now]
      refine ⟨fun q => ?_, fun q i written => ?_⟩
      · rw [partition?_replaced region (by simp [Region.blank, Region.info]), places]
      · by_cases here : q = p
        · subst here
          obtain ⟨info, place, inside⟩ := Layout.mem_written written
          rw [← places, Nor.partition?, region, Option.map_some, Option.some.injEq] at place
          rw [isFree_setRegion, if_pos rfl]
          simp [Region.blank, place, inside]
        · rw [isFree_setRegion, if_neg here]
          exact others q here i written

/-- A write takes no byte that is written later. -/
theorem write {p : Partition} {offset : Nat} {data : Bytes}
    (awaits : f.Awaits layout (.write p offset data :: rs))
    (once : (layout.written p (.write p offset data :: rs)).Nodup) :
    (Flash.serve f (.write p offset data)).2.Awaits layout rs := by
  have later := awaits.idle (by simp)
  cases ends : f.write p offset data with
  | error e =>
      have stays : (Flash.serve f (.write p offset data)).2 = f := by
        simp [Flash.serve, Flash.write, ends, Flash.settle, Except.map]
      rwa [stays]
  | ok g =>
      obtain ⟨-, r, region, fits, rfl⟩ := Nor.write_eq_ok.mp ends
      have now : (Flash.serve f (.write p offset data)).2 =
          f.setRegion { r with cells := Region.program r.cells offset data } p := by
        simp [Flash.serve, Flash.write, ends, Flash.settle, Except.map]
      rw [now]
      refine ⟨fun q => ?_, fun q i written => ?_⟩
      · rw [partition?_replaced region (by simp [Region.info, Region.size_program]), later.places]
      · by_cases here : q = p
        · subst here
          have inside : (layout.find? q).any (offset + data.length ≤ ·.size) := by
            simp [← awaits.places, Nor.partition?, region, Region.info, fits]
          rw [Layout.written_cons, if_neg (by simp), FlashRequest.writes,
            if_pos ⟨rfl, inside⟩] at once
          have outside : i ∉ List.range' offset data.length := fun both =>
            (List.nodup_append.mp once).2.2 i both i written rfl
          rw [List.mem_range'_1] at outside
          rw [isFree_setRegion, if_pos rfl, Region.getElem?_program]
          have still := (isFree_iff region i).mp (later.free q i written)
          split
          next after =>
            rw [List.getElem?_eq_none (by omega), still]
            simp [and_erased]
          next => exact still
        · rw [isFree_setRegion, if_neg here]
          exact later.free q i written

theorem serve {r : FlashRequest} (awaits : f.Awaits layout (r :: rs))
    (accepting : f.refusing = false) (once : layout.WritesOnce (r :: rs)) :
    (Flash.serve f r).2.Awaits layout rs := by
  cases r with
  | partition p => exact awaits.idle (by simp)
  | erase p => exact awaits.erase accepting
  | write p offset data => exact awaits.write ((Layout.writesOnce_cons.mp once).1 p)
  | read p offset length =>
      have stays : (Flash.serve f (.read p offset length)).2 = f := by
        simp only [Flash.serve, Flash.read]
        cases f.read p offset length <;> rfl
      rw [stays]
      exact awaits.idle (by simp)
  | reopen => exact awaits.idle (by simp)

end Nor.Awaits

theorem Nor.Mirrors.answers {f : Nor} {g : FileFlash} {layout : Layout} {rs : List FlashRequest}
    (mirrors : f.Mirrors g) (awaits : f.Awaits layout rs) (once : layout.WritesOnce rs) :
    Flash.answers f rs = Flash.answers g rs := by
  induction rs generalizing f g with
  | nil => rfl
  | cons r rs ih =>
      obtain ⟨same, still⟩ := mirrors.serve r awaits.places awaits.head
      rw [Flash.answers, Flash.answers, same,
        ih still (awaits.serve mirrors.accepting once) once.tail]

section Blank

variable {layout : Layout} {p : Partition}

theorem Nor.region?_blank : (Nor.blank layout).region? p = (layout.find? p).map Region.blank := by
  cases p <;> rfl

theorem Nor.partition?_blank : (Nor.blank layout).partition? p = layout.find? p := by
  cases place : layout.find? p <;>
    simp [Nor.partition?, Nor.region?_blank, place, Region.blank, Region.info]

theorem Nor.awaits_blank (rs : List FlashRequest) : (Nor.blank layout).Awaits layout rs := by
  refine ⟨fun p => Nor.partition?_blank, fun p i written => ?_⟩
  obtain ⟨info, place, inside⟩ := Layout.mem_written written
  rw [Nor.isFree_iff (r := .blank info) (by simp [Nor.region?_blank, place])]
  simp [Region.blank, inside]

/-- A directory without files stands for a flash that is erased. -/
theorem Nor.mirrors_blank {d : HostDirectory} (empty : d.entries.getD [] = []) :
    (Nor.blank layout).Mirrors (.create d layout) where
  accepting := rfl
  there := by simp [FileFlash.create, HostDirectory.create]
  places p := Nor.partition?_blank.symm
  contents p := by
    have missing : (FileFlash.create d layout).directory.find? (FileFlash.fileName p) = none := by
      simp [FileFlash.create, HostDirectory.create, HostDirectory.find?, empty]
    have place : (FileFlash.create d layout).partition? p = layout.find? p := rfl
    cases found : layout.find? p <;>
      simp [FileFlash.contents?, Nor.contents?, Nor.region?_blank, place, missing, found,
        Region.blank]

end Blank

/-- The two flashes give the same answer to every request. -/
theorem Flash.answers_blank {layout : Layout} {d : HostDirectory} {rs : List FlashRequest}
    (empty : d.entries.getD [] = []) (once : layout.WritesOnce rs) :
    Flash.answers (Nor.blank layout) rs = Flash.answers (FileFlash.create d layout) rs :=
  (Nor.mirrors_blank empty).answers (Nor.awaits_blank rs) once

/-- The second entry of the configuration counts, and there is no application. -/
def resizedLayout : Layout :=
  [(.config, ⟨0x4000, 2⟩), (.otaTemp, ⟨0x8000, 4⟩), (.config, ⟨0x5000, 3⟩)]

/-- Bytes are written again after an erase only; some requests fail. -/
def flashSession : List FlashRequest :=
  [.partition .config, .write .config 0 [1, 2], .write .config 2 [3, 4], .write .config 2 [3],
    .reopen, .read .config 0 3, .read .otaTemp 1 2, .erase .config, .write .config 1 [0x0F],
    .read .config 0 3, .read .config 3 1, .erase .application]

theorem Flash.answers_blank_session :
    resizedLayout.WritesOnce flashSession ∧
      Flash.answers (Nor.blank resizedLayout) flashSession =
        Flash.answers (FileFlash.create ⟨"flash", none⟩ resizedLayout) flashSession ∧
      Flash.answers (Nor.blank resizedLayout) flashSession =
        [.partition (some ⟨0x5000, 3⟩), .done, .failed (.outOfRange .config 2 2 3), .done, .done,
          .data [1, 2, 3], .data [0xFF, 0xFF], .done, .done, .data [0xFF, 0x0F, 0xFF],
          .failed (.outOfRange .config 3 1 3), .failed (.noPartition .application)] := by
  have once : resizedLayout.WritesOnce flashSession := by decide
  exact ⟨once, Flash.answers_blank rfl once, by decide⟩

end ConnectedDevice
