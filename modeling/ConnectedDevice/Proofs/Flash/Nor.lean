import ConnectedDevice.Flash.Nor

/-!
What the operations of the flash do to its regions. An operation that succeeds replaces one region
and leaves the others; a region that was erased and then written from the front on holds what was
written, and erased bytes behind it.
-/

namespace ConnectedDevice

/-- Two attempts end alike: with results that are related, or with one error. -/
inductive SameEnd {ε α β : Type} (related : α → β → Prop) : Except ε α → Except ε β → Prop
  | ok {a : α} {b : β} : related a b → SameEnd related (.ok a) (.ok b)
  | error (e : ε) : SameEnd related (.error e) (.error e)

theorem SameEnd.ofEq {ε α : Type} {x y : Except ε α} (same : x = y) : SameEnd Eq x y := by
  subst same
  cases x with
  | ok a => exact .ok rfl
  | error e => exact .error e

theorem SameEnd.map {ε α β α' β' : Type} {related : α → β → Prop} {later : α' → β' → Prop}
    {x : Except ε α} {y : Except ε β} {f : α → α'} {g : β → β'} (ends : SameEnd related x y)
    (kept : ∀ a b, related a b → later (f a) (g b)) : SameEnd later (x.map f) (y.map g) := by
  cases ends with
  | ok both => exact .ok (kept _ _ both)
  | error e => exact .error e

theorem isOk_iff {ε α : Type} {x : Except ε α} : x.isOk ↔ ∃ a, x = .ok a := by
  cases x <;> simp [Except.isOk, Except.toBool]

theorem erased_and (b : UInt8) : erased &&& b = b :=
  UInt8.eq_of_toBitVec_eq BitVec.allOnes_and

theorem and_erased (b : UInt8) : b &&& erased = b :=
  UInt8.eq_of_toBitVec_eq BitVec.and_allOnes

namespace Region

theorem size_program (cells : Array UInt8) (offset : Nat) (data : Bytes) :
    (program cells offset data).size = cells.size := by
  induction data generalizing cells offset with
  | nil => rfl
  | cons b rest ih => simp [program, ih]

theorem modify_length (front back : Bytes) (b : UInt8) (f : UInt8 → UInt8) :
    (front ++ b :: back).modify front.length f = front ++ f b :: back := by
  induction front with
  | nil => rfl
  | cons a front ih => simp [ih]

/-- Erased bytes take what is written to them. -/
theorem program_erased (front data : Bytes) (free : Nat) (fits : data.length ≤ free) :
    program (front ++ List.replicate free erased).toArray front.length data =
      (front ++ data ++ List.replicate (free - data.length) erased).toArray := by
  induction data generalizing front free with
  | nil => simp [program]
  | cons b rest ih =>
      cases free with
      | zero => simp at fits
      | succ free =>
          have written : (front ++ List.replicate (free + 1) erased).toArray.modify front.length
              (· &&& b) = (front ++ [b] ++ List.replicate free erased).toArray := by
            simp [List.replicate_succ, modify_length, erased_and]
          have following := ih (front ++ [b]) free (by simpa using fits)
          rw [List.length_append, List.length_singleton] at following
          rw [program, written, following]
          simp

theorem program_blank {info : PartitionInfo} {data : Bytes} (fits : data.length ≤ info.size) :
    (program (blank info).cells 0 data).toList =
      data ++ List.replicate (info.size - data.length) erased := by
  have := program_erased [] data info.size fits
  simp only [List.nil_append, List.length_nil] at this
  simp [blank, ← List.toArray_replicate, this]

theorem getElem?_program (cells : Array UInt8) (offset : Nat) (data : Bytes) (i : Nat) :
    (program cells offset data)[i]? =
      if offset ≤ i then cells[i]?.map (· &&& (data[i - offset]?).getD erased) else cells[i]? := by
  induction data generalizing cells offset with
  | nil => simp [program, and_erased]
  | cons b rest ih =>
      rw [program, ih, Array.getElem?_modify]
      by_cases here : i = offset
      · subst here
        rw [if_neg (by omega)]
        simp
      · by_cases after : offset ≤ i
        · have next : i - offset = (i - (offset + 1)) + 1 := by omega
          rw [if_pos after, next, List.getElem?_cons_succ, if_pos (by omega), if_neg (by omega)]
        · rw [if_neg after, if_neg (by omega), if_neg (by omega)]

/-- The bytes from the place of a write on are cleared by its data, and no other byte changes. -/
theorem toList_program {cells : Array UInt8} {offset : Nat} {data : Bytes}
    (fits : offset + data.length ≤ cells.size) :
    (program cells offset data).toList = cells.toList.take offset ++
      List.zipWith (· &&& ·) ((cells.toList.drop offset).take data.length) data ++
        cells.toList.drop (offset + data.length) := by
  refine List.ext_getElem? fun i => ?_
  have front : (cells.toList.take offset).length = offset := by simp; omega
  rw [Array.getElem?_toList, getElem?_program, List.append_assoc]
  by_cases before : i < offset
  · rw [if_neg (by omega), List.getElem?_append_left (by omega), List.getElem?_take_of_lt before,
      Array.getElem?_toList]
  · rw [if_pos (by omega), List.getElem?_append_right (by omega), front]
    by_cases inside : i < offset + data.length
    · have place : offset + (i - offset) = i := by omega
      rw [List.getElem?_append_left (by simp; omega), List.getElem?_zipWith,
        List.getElem?_take_of_lt (by omega), List.getElem?_drop, place]
      simp [List.getElem?_eq_getElem (show i - offset < data.length by omega),
        Array.getElem?_eq_getElem (show i < cells.size by omega)]
    · have behind : data[i - offset]? = none := List.getElem?_eq_none (by omega)
      have written : (List.zipWith (· &&& ·) ((cells.toList.drop offset).take data.length)
          data).length = data.length := by simp; omega
      have place : offset + data.length + (i - offset - data.length) = i := by omega
      rw [List.getElem?_append_right (by omega), written, List.getElem?_drop, place, behind,
        Array.getElem?_toList]
      simp [and_erased]

/-- Where the bytes are erased, all that is written stands. -/
theorem toList_program_free {cells : Array UInt8} {offset : Nat} {data : Bytes}
    (fits : offset + data.length ≤ cells.size)
    (free : ∀ i, offset ≤ i → i < offset + data.length → cells[i]? = some erased) :
    (program cells offset data).toList =
      cells.toList.take offset ++ data ++ cells.toList.drop (offset + data.length) := by
  have blank : (cells.toList.drop offset).take data.length =
      List.replicate data.length erased := by
    refine List.eq_replicate_iff.mpr ⟨by simp; omega, fun b holds => ?_⟩
    obtain ⟨i, inside, rfl⟩ := List.mem_iff_getElem.mp holds
    simp only [List.length_take, List.length_drop, Array.length_toList] at inside
    obtain ⟨_, here⟩ := Array.getElem?_eq_some_iff.mp (free (offset + i) (by omega) (by omega))
    simpa using here
  have stands : List.zipWith (· &&& ·) (List.replicate data.length erased) data = data := by
    refine List.ext_getElem (by simp) fun i _ inside => ?_
    simp [erased_and]
  rw [toList_program fits, blank, stands]

end Region

namespace Nor

variable {f g : Nor} {p q : Partition}

@[simp] theorem region?_setRegion (r : Region) :
    (f.setRegion r p).region? q = if p = q then some r else f.region? q := by
  cases p <;> cases q <;> rfl

theorem partition?_setRegion (r : Region) :
    (f.setRegion r p).partition? q = if p = q then some r.info else f.partition? q := by
  simp only [partition?, region?_setRegion]
  split <;> rfl

theorem setRegion_refusing (r : Region) : (f.setRegion r p).refusing = f.refusing := by
  cases p <;> rfl

theorem setRegion_setRegion (first second : Region) :
    (f.setRegion first p).setRegion second p = f.setRegion second p := by
  cases p <;> rfl

theorem erase_of_refusing (refusing : f.refusing = true) : f.erase p = .error (.refused p) := by
  simp [erase, checkWritable, refusing, bind, Except.bind]

theorem write_of_refusing {offset : Nat} {data : Bytes} (refusing : f.refusing = true) :
    f.write p offset data = .error (.refused p) := by
  simp [write, checkWritable, refusing, bind, Except.bind]

section Fails

variable {r : Region} {offset : Nat} {data : Bytes}

theorem erase_of_missing (accepting : f.refusing = false) (missing : f.region? p = none) :
    f.erase p = .error (.noPartition p) := by
  simp [erase, checkWritable, find, accepting, missing, bind, Except.bind]

theorem write_of_missing (accepting : f.refusing = false) (missing : f.region? p = none) :
    f.write p offset data = .error (.noPartition p) := by
  simp [write, checkWritable, find, accepting, missing, bind, Except.bind]

theorem write_outOfRange (accepting : f.refusing = false) (region : f.region? p = some r)
    (beyond : ¬offset + data.length ≤ r.cells.size) :
    f.write p offset data = .error (.outOfRange p offset data.length r.cells.size) := by
  simp [write, checkWritable, find, checkRange, accepting, region, beyond, bind, Except.bind]

theorem read_of_missing {length : Nat} (missing : f.region? p = none) :
    f.read p offset length = .error (.noPartition p) := by
  simp [read, find, missing, bind, Except.bind]

theorem read_outOfRange {length : Nat} (region : f.region? p = some r)
    (beyond : ¬offset + length ≤ r.cells.size) :
    f.read p offset length = .error (.outOfRange p offset length r.cells.size) := by
  simp [read, find, checkRange, region, beyond, bind, Except.bind]

end Fails

theorem read_of_inside {r : Region} {offset length : Nat} (region : f.region? p = some r)
    (inside : offset + length ≤ r.cells.size) :
    f.read p offset length = .ok ((r.cells.toList.drop offset).take length) := by
  simp [read, find, checkRange, region, inside, bind, Except.bind, pure, Except.pure]

theorem erase_eq_ok : f.erase p = .ok g ↔
    f.refusing = false ∧ ∃ r, f.region? p = some r ∧ g = f.setRegion (.blank r.info) p := by
  cases refusing : f.refusing <;> cases region : f.region? p <;>
    simp [erase, checkWritable, find, refusing, region, bind, Except.bind, pure, Except.pure,
      eq_comm]

theorem write_eq_ok {offset : Nat} {data : Bytes} : f.write p offset data = .ok g ↔
    f.refusing = false ∧ ∃ r, f.region? p = some r ∧ offset + data.length ≤ r.cells.size ∧
      g = f.setRegion { r with cells := Region.program r.cells offset data } p := by
  cases refusing : f.refusing with
  | true => simp [write, checkWritable, refusing, bind, Except.bind]
  | false =>
      cases region : f.region? p with
      | none => simp [write, checkWritable, find, refusing, region, bind, Except.bind]
      | some r =>
          by_cases fits : offset + data.length ≤ r.cells.size
          · simp [write, checkWritable, find, checkRange, refusing, region, fits, bind,
              Except.bind, pure, Except.pure, eq_comm]
          · simp [write, checkWritable, find, checkRange, refusing, region, fits, bind,
              Except.bind]

end Nor
end ConnectedDevice
