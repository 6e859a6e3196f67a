import ConnectedDevice.Proofs.Flash.Nor

/-!
Accesses to the flash in machine words. There offsets, lengths and sizes have 64 bits, a sum may
leave the range of words, and a slice that leaves its data stops the program. The sum is checked
before it is used and the range before the data are sliced, so that every access has an answer, and
it is the one that unbounded arithmetic gives.
-/

namespace ConnectedDevice

namespace Word

/-- The sum of two words, unless it leaves their range. -/
def add? (a b : UInt64) : Option UInt64 := if a + b < a then none else some (a + b)

def checkRange (p : Partition) (offset length size : UInt64) : Except FlashError Unit :=
  let beyond := FlashError.outOfRange p offset.toNat length.toNat size.toNat
  match add? offset length with
  | some stop => if stop ≤ size then .ok () else .error beyond
  | none => .error beyond

/-- The bytes from one place up to another. There is nothing to go on with if a place is outside of
the data, or if they are in the wrong order. -/
def slice? (data : Bytes) (first last : UInt64) : Option Bytes :=
  if first ≤ last ∧ last.toNat ≤ data.length then
    some ((data.take last.toNat).drop first.toNat)
  else none

end Word

namespace Region

open Word (slice?)

variable (r : Region) (p : Partition)

def readWords? (offset length : UInt64) : Option (Except FlashError Bytes) :=
  match Word.checkRange p offset length (.ofNat r.cells.size) with
  | .error e => some (.error e)
  | .ok () => (slice? r.cells.toList offset (offset + length)).map .ok

/-- The bytes of a slice are cleared by the data, one by one. -/
def writeWords? (offset : UInt64) (data : Bytes) : Option (Except FlashError Region) :=
  let length := UInt64.ofNat data.length
  match Word.checkRange p offset length (.ofNat r.cells.size) with
  | .error e => some (.error e)
  | .ok () => do
    let slice ← slice? r.cells.toList offset (offset + length)
    let front := r.cells.toList.take offset.toNat
    let back := r.cells.toList.drop (offset + length).toNat
    return .ok { r with cells := (front ++ List.zipWith (· &&& ·) slice data ++ back).toArray }

end Region

namespace Nor

variable (f : Nor) (p : Partition)

def readWords? (offset length : UInt64) : Option (Except FlashError Bytes) :=
  match f.find p with
  | .error e => some (.error e)
  | .ok r => r.readWords? p offset length

def writeWords? (offset : UInt64) (data : Bytes) : Option (Except FlashError Nor) :=
  match f.checkWritable p, f.find p with
  | .error e, _ | .ok (), .error e => some (.error e)
  | .ok (), .ok r => (r.writeWords? p offset data).map fun result => result.map (f.setRegion · p)

end Nor

namespace Word

variable {a b : UInt64}

theorem toNat_add_of_lt (within : a.toNat + b.toNat < UInt64.size) :
    (a + b).toNat = a.toNat + b.toNat := by
  rw [UInt64.toNat_add]
  exact Nat.mod_eq_of_lt within

theorem add?_of_lt (within : a.toNat + b.toNat < UInt64.size) : add? a b = some (a + b) := by
  have grows : ¬a + b < a := by
    rw [UInt64.lt_iff_toNat_lt, toNat_add_of_lt within]
    omega
  rw [add?, if_neg grows]

theorem add?_of_le (beyond : UInt64.size ≤ a.toNat + b.toNat) : add? a b = none := by
  have wraps : a + b < a := by
    rw [UInt64.lt_iff_toNat_lt, UInt64.toNat_add]
    have := a.toNat_lt_size
    have := b.toNat_lt_size
    simp only [UInt64.size] at *
    omega
  rw [add?, if_pos wraps]

/-- No partition reaches beyond the words, so a sum that does is out of range in any case. -/
theorem checkRange_eq (p : Partition) (offset length size : UInt64) :
    checkRange p offset length size =
      ConnectedDevice.checkRange p offset.toNat length.toNat size.toNat := by
  have bound := size.toNat_lt_size
  by_cases within : offset.toNat + length.toNat < UInt64.size
  · simp only [checkRange, add?_of_lt within, UInt64.le_iff_toNat_le, toNat_add_of_lt within]
    rfl
  · have beyond : ¬offset.toNat + length.toNat ≤ size.toNat := by omega
    simp [checkRange, add?_of_le (Nat.le_of_not_lt within), ConnectedDevice.checkRange, beyond]

theorem slice?_of_inside (data : Bytes) (offset length : UInt64)
    (inside : offset.toNat + length.toNat ≤ data.length) (small : data.length < UInt64.size) :
    slice? data offset (offset + length) =
      some ((data.drop offset.toNat).take length.toNat) := by
  have sum := toNat_add_of_lt (Nat.lt_of_le_of_lt inside small)
  have order : offset ≤ offset + length := by
    rw [UInt64.le_iff_toNat_le, sum]
    omega
  rw [slice?, if_pos ⟨order, by omega⟩, sum, List.drop_take, Nat.add_sub_cancel_left]

end Word

namespace Region

variable (r : Region) (p : Partition)

theorem readWords?_eq (small : r.cells.size < UInt64.size) (offset length : UInt64) :
    r.readWords? p offset length =
      some ((checkRange p offset.toNat length.toNat r.cells.size).map fun _ =>
        (r.cells.toList.drop offset.toNat).take length.toNat) := by
  have size : (UInt64.ofNat r.cells.size).toNat = r.cells.size := UInt64.toNat_ofNat_of_lt small
  rw [readWords?, Word.checkRange_eq, size]
  by_cases inside : offset.toNat + length.toNat ≤ r.cells.size
  · have sliced := Word.slice?_of_inside r.cells.toList offset length (by simpa using inside)
      (by simpa using small)
    simp [checkRange, inside, Except.map, sliced]
  · simp [checkRange, inside, Except.map]

theorem writeWords?_eq (small : r.cells.size < UInt64.size) (offset : UInt64) {data : Bytes}
    (short : data.length < UInt64.size) : r.writeWords? p offset data =
      some ((checkRange p offset.toNat data.length r.cells.size).map fun _ =>
        { r with cells := program r.cells offset.toNat data }) := by
  have size : (UInt64.ofNat r.cells.size).toNat = r.cells.size := UInt64.toNat_ofNat_of_lt small
  have length : (UInt64.ofNat data.length).toNat = data.length := UInt64.toNat_ofNat_of_lt short
  simp only [writeWords?, Word.checkRange_eq, size, length]
  by_cases inside : offset.toNat + data.length ≤ r.cells.size
  · have sum : (offset + UInt64.ofNat data.length).toNat = offset.toNat + data.length := by
      rw [Word.toNat_add_of_lt (by omega), length]
    have sliced := Word.slice?_of_inside r.cells.toList offset (.ofNat data.length)
      (by simpa [length] using inside) (by simpa using small)
    rw [length] at sliced
    have cleared : program r.cells offset.toNat data = .mk _ :=
      Array.toList_inj.mp (toList_program inside)
    simp [checkRange, inside, Except.map, sliced, sum, cleared]
  · simp [checkRange, inside, Except.map]

end Region

namespace Nor

variable {f : Nor} {p : Partition} (small : ∀ r, f.region? p = some r → r.cells.size < UInt64.size)

include small

theorem readWords?_eq (offset length : UInt64) :
    f.readWords? p offset length = some (f.read p offset.toNat length.toNat) := by
  cases region : f.region? p with
  | none => simp [readWords?, find, region, read_of_missing]
  | some r =>
      simp only [readWords?, find, region, Region.readWords?_eq r p (small r region)]
      by_cases inside : offset.toNat + length.toNat ≤ r.cells.size
      · simp [checkRange, inside, Except.map, read_of_inside region inside]
      · simp [checkRange, inside, Except.map, read_outOfRange region inside]

theorem writeWords?_eq (offset : UInt64) {data : Bytes} (short : data.length < UInt64.size) :
    f.writeWords? p offset data = some (f.write p offset.toNat data) := by
  cases refusing : f.refusing with
  | true => simp [writeWords?, checkWritable, refusing, write_of_refusing]
  | false =>
      cases region : f.region? p with
      | none =>
          simp [writeWords?, checkWritable, find, refusing, region, write_of_missing]
      | some r =>
          simp only [writeWords?, checkWritable, find, refusing, region, if_neg Bool.false_ne_true,
            Region.writeWords?_eq r p (small r region) offset short]
          by_cases inside : offset.toNat + data.length ≤ r.cells.size
          · rw [write_eq_ok.mpr ⟨refusing, r, region, inside, rfl⟩]
            simp [checkRange, inside, Except.map]
          · simp [checkRange, inside, Except.map, write_outOfRange refusing region inside]

end Nor
end ConnectedDevice
