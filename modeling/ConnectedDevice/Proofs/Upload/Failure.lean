import ConnectedDevice.Proofs.Server.Rejection
import ConnectedDevice.Proofs.Upload.Installation

/-!
Uploads that fail. The flash may refuse any of the operations that an upload asks of it, whatever it
did with the others: each chunk and the commit come with what is refused of them. Up to the commit a
failure is of no consequence but for the partition for received images. A commit that fails leaves
its record in memory.
-/

namespace ConnectedDevice

/-- The first act succeeds only where the second one does, and then does the same. -/
def Fallible.Within {α : Type} (x y : Fallible α) : Prop :=
  ∀ s a t, x.run s = (.ok a, t) → y.run s = (.ok a, t)

namespace Fallible.Within

variable {α β : Type}

theorem refl (x : Fallible α) : x.Within x := fun _ _ _ ran => ran

theorem bind {x y : Fallible α} {f g : α → Fallible β} (first : x.Within y)
    (next : ∀ a, (f a).Within (g a)) : (x >>= f).Within (y >>= g) := by
  intro s b t ran
  rw [Fallible.bind_apply] at ran ⊢
  rcases ends : x.run s with ⟨answer, u⟩
  rw [ends] at ran
  cases answer with
  | error e => cases ran
  | ok a =>
      rw [first s a u ends]
      exact next a u b t ran

theorem onFlash {first second : Nor → Except FlashError Nor}
    (within : ∀ f g, first f = .ok g → second f = .ok g) :
    (Act.onFlash first).Within (Act.onFlash second) := by
  intro s a t ran
  rw [Act.onFlash_run] at ran ⊢
  cases done : first s.board.flash with
  | error e =>
      rw [done] at ran
      cases ran
  | ok g =>
      rw [done] at ran
      rw [within _ _ done]
      exact ran

end Fallible.Within

theorem Fallible.failed_of_not_isOk {α : Type} {x : Fallible α} {s : Site}
    (failed : ¬(x.run s).1.isOk) : ∃ e, x.run s = (.error e, (x.run s).2) := by
  rcases ran : x.run s with ⟨e | a, t⟩
  · exact ⟨e, rfl⟩
  · rw [ran] at failed
    exact absurd rfl failed

/-- Which of an erase and the write that follows it the flash refuses, beyond what it refuses of
itself. -/
structure Refusals where
  erase : Bool
  write : Bool
deriving DecidableEq, Repr

namespace Refusals

def none : Refusals := ⟨false, false⟩

def eraseOf (x : Refusals) (p : Partition) (f : Nor) : Except FlashError Nor :=
  if x.erase then .error (.refused p) else f.erase p

def writeOf (x : Refusals) (p : Partition) (offset : Nat) (data : Bytes) (f : Nor) :
    Except FlashError Nor :=
  if x.write then .error (.refused p) else f.write p offset data

variable {x : Refusals} {p : Partition} {f g : Nor}

theorem eraseOf_eq_ok : x.eraseOf p f = .ok g ↔ x.erase = false ∧ f.erase p = .ok g := by
  cases refused : x.erase <;> simp [eraseOf, refused]

theorem writeOf_eq_ok {offset : Nat} {data : Bytes} :
    x.writeOf p offset data f = .ok g ↔ x.write = false ∧ f.write p offset data = .ok g := by
  cases refused : x.write <;> simp [writeOf, refused]

end Refusals

def Settings.commitUnder (x : Refusals) (s : Settings) (f : Nor) : Except Error Unit × Nor :=
  match s.record.toImage with
  | .error e => (.error (.image e), f)
  | .ok image =>
    let size := ((f.partition? .config).map (·.size)).getD 0
    if size < image.length then (.error (.recordTooLarge image.length size), f)
    else
      match x.eraseOf .config f with
      | .error e => (.error (.flash e), f)
      | .ok f =>
        match x.writeOf .config 0 image f with
        | .error e => (.error (.flash e), f)
        | .ok f => (.ok (), f)

def Store.commitUnder (x : Refusals) (s : Store) (f : Nor) : Except Error Unit × Nor :=
  match s.lock with
  | .ok settings => settings.commitUnder x f
  | .error e => (.error e, f)

def Act.commitUnder (x : Refusals) : Fallible Unit := ExceptT.mk fun s =>
  let (answer, flash) := s.device.store.commitUnder x s.board.flash
  (answer, s.setFlash flash)

namespace Upload

open Act

def appendUnder (x : Refusals) (u : Upload) (chunk : Bytes) : Fallible Upload := do
  onFlash (x.writeOf .otaTemp u.received.size chunk)
  return { u with received := u.received.update chunk }

def receiveUnder (x : Refusals) (u : Upload) (chunk : Bytes) : Fallible Upload :=
  u.receiveWith (onFlash (x.eraseOf .otaTemp)) (u.appendUnder x chunk) chunk

def receiveRestUnder (last : Refusals) (u : Upload) (fault : Option String) :
    List (Bytes × Refusals) → Fallible Nat
  | (chunk, x) :: chunks => do (← u.receiveUnder x chunk).receiveRestUnder last fault chunks
  | [] =>
    match fault with
    | some text => throw (.uploadInterrupted text)
    | none => u.finishWith (commitUnder last)

def receiveAllUnder (last : Refusals) (declared : Option Nat) (chunks : List (Bytes × Refusals))
    (fault : Option String) : Fallible Nat := do
  (← start declared).receiveRestUnder last fault chunks

end Upload

theorem Act.commitUnder_remember (x : Refusals) (s : Site) (st : Settings) :
    (commitUnder x).run (s.remember st) =
      ((st.commitUnder x s.board.flash).1,
        (s.remember st).setFlash (st.commitUnder x s.board.flash).2) :=
  rfl

namespace Upload

theorem receiveUnder_none : receiveUnder .none = receive := rfl

theorem receiveRestUnder_none (u : Upload) (fault : Option String) (chunks : List Bytes) :
    u.receiveRestUnder .none fault (chunks.map (·, .none)) = u.receiveRest fault chunks := by
  induction chunks generalizing u with
  | nil => rfl
  | cons chunk chunks ih =>
      simp only [List.map_cons, receiveRestUnder, receiveUnder_none, ih]
      rfl

/-- Where nothing is refused, these are the uploads of the device. -/
theorem receiveAllUnder_none (declared : Option Nat) (fault : Option String)
    (chunks : List Bytes) :
    receiveAllUnder .none declared (chunks.map (·, .none)) fault =
      receiveAll declared chunks fault := by
  simp only [receiveAllUnder, receiveRestUnder_none]
  rfl

end Upload

namespace Settings

variable {x : Refusals} (s : Settings) (f : Nor)

/-- A commit that fails leaves the flash as it is, but for a partition that it erased and then could
not write. -/
theorem commitUnder_cases :
    (∃ e, s.commitUnder x f = (.error e, f)) ∨
      (∃ e r, x.erase = false ∧ x.write = true ∧ f.region? .config = some r ∧
        s.commitUnder x f = (.error e, f.setRegion (.blank r.info) .config)) ∨
      ∃ g, s.commitUnder x f = (.ok (), g) := by
  cases written : s.record.toImage with
  | error e => exact .inl ⟨.image e, by simp only [commitUnder, written]⟩
  | ok image =>
      by_cases large : ((f.partition? .config).map (·.size)).getD 0 < image.length
      · exact .inl ⟨.recordTooLarge _ _, by simp only [commitUnder, written, large, if_true]; rfl⟩
      · cases erased : x.eraseOf .config f with
        | error e => exact .inl ⟨.flash e, by simp [commitUnder, written, large, erased]⟩
        | ok g =>
            obtain ⟨taken, done⟩ := Refusals.eraseOf_eq_ok.mp erased
            obtain ⟨-, r, region, rfl⟩ := Nor.erase_eq_ok.mp done
            cases refused : x.write with
            | true =>
                refine .inr (.inl ⟨.flash (.refused .config), r, taken, rfl, region, ?_⟩)
                simp [commitUnder, written, large, erased, Refusals.writeOf, refused]
            | false =>
                have whole : s.commitUnder x f = s.commit f := by
                  obtain ⟨erase, write⟩ := x
                  cases taken
                  cases refused
                  rfl
                rw [whole]
                rcases s.commit_cases f with failed | ⟨image, r, -, -, -, -, done⟩
                · exact .inl failed
                · exact .inr (.inr ⟨_, done⟩)

end Settings

namespace Upload

variable {s : Site} {x : Refusals}

theorem untouched_receiveUnder (u : Upload) (chunk : Bytes) :
    s.Untouched ((u.receiveUnder x chunk).run s).2 := by
  refine untouched_receiveWith u chunk (.onFlash fun f g done => ?_)
    fun t => .bind (.onFlash (fun f g done => ?_) t) fun _ t => .refl t
  · obtain ⟨-, r, -, same⟩ := Nor.erase_eq_ok.mp (Refusals.eraseOf_eq_ok.mp done).2
    exact ⟨_, same⟩
  · obtain ⟨-, r, -, -, same⟩ := Nor.write_eq_ok.mp (Refusals.writeOf_eq_ok.mp done).2
    exact ⟨_, same⟩

theorem within_receiveWith {erases erases' : Fallible Unit} {appends appends' : Fallible Upload}
    (u : Upload) (chunk : Bytes) (erased : erases.Within erases')
    (written : appends.Within appends') :
    (u.receiveWith erases appends chunk).Within (u.receiveWith erases' appends' chunk) := by
  unfold receiveWith
  split
  · exact .refl _
  · dsimp only
    split
    · exact .refl _
    · split
      · exact .bind erased fun _ => written
      · exact written

theorem within_receiveUnder (u : Upload) (chunk : Bytes) :
    (u.receiveUnder x chunk).Within (u.receive chunk) := by
  rw [receive_eq]
  refine within_receiveWith u chunk (.onFlash fun f g done => ?_)
    (.bind (.onFlash fun f g done => ?_) fun _ => .refl _)
  · exact (Refusals.eraseOf_eq_ok.mp done).2
  · exact (Refusals.writeOf_eq_ok.mp done).2

variable {r : Region} {declared : Option Nat} {sent : Bytes}

theorem untouched_received : s.Untouched (s.received r.info sent) := by
  unfold Site.received
  split
  · exact .refl s
  · exact ⟨some _, rfl⟩

/-- A chunk that was received fitted and is there. -/
theorem receive_after_eq_ok {chunk : Bytes} {u : Upload} {t : Site}
    (region : s.board.flash.region? .otaTemp = some r) (room : sent.length ≤ r.info.size)
    (ran : ((after r.info declared sent).receive chunk).run (s.received r.info sent) = (.ok u, t)) :
    (sent ++ chunk).length ≤ r.info.size ∧ u = after r.info declared (sent ++ chunk) ∧
      t = s.received r.info (sent ++ chunk) := by
  by_cases empty : chunk = []
  · subst empty
    rw [receive_nil] at ran
    cases ran
    rw [List.append_nil]
    exact ⟨room, rfl, rfl⟩
  · by_cases fits : sent.length + chunk.length ≤ r.info.size
    · cases refusing : s.board.flash.refusing with
      | true =>
          rw [receive_refused empty fits (by rwa [Site.refusing_received])] at ran
          cases ran
      | false =>
          rw [receive_after region refusing fits] at ran
          cases ran
          rw [List.length_append]
          exact ⟨fits, rfl, rfl⟩
    · rw [receive_tooLarge empty (Nat.lt_of_not_le fits)] at ran
      cases ran

/-- Until the chunks have arrived, a failure concerns the partition for received images alone. -/
theorem receiveRestUnder_failed {last : Refusals} {fault : Option String} {e : Error} {t : Site}
    {chunks : List (Bytes × Refusals)} (region : s.board.flash.region? .otaTemp = some r)
    (room : sent.length ≤ r.info.size)
    (failed : ((after r.info declared sent).receiveRestUnder last fault chunks).run
      (s.received r.info sent) = (.error e, t)) :
    s.Untouched t ∨
      let image := sent ++ (chunks.map Prod.fst).flatten
      fault = none ∧ image.length ≤ r.info.size ∧
        ((after r.info declared image).finishWith (Act.commitUnder last)).run
          (s.received r.info image) = (.error e, t) := by
  induction chunks generalizing sent with
  | nil =>
      cases fault with
      | some text =>
          cases failed
          exact .inl untouched_received
      | none =>
          simp only [List.map_nil, List.flatten_nil, List.append_nil]
          exact .inr ⟨trivial, room, failed⟩
  | cons next chunks ih =>
      obtain ⟨chunk, x⟩ := next
      rw [receiveRestUnder, Fallible.bind_apply] at failed
      rcases ran : ((after r.info declared sent).receiveUnder x chunk).run
        (s.received r.info sent) with ⟨answer, u⟩
      rw [ran] at failed
      cases answer with
      | error e' =>
          cases failed
          have kept := untouched_receiveUnder (s := s.received r.info sent) (x := x)
            (after r.info declared sent) chunk
          rw [ran] at kept
          exact .inl (untouched_received.trans kept)
      | ok v =>
          obtain ⟨fits, rfl, rfl⟩ :=
            receive_after_eq_ok region room (within_receiveUnder _ _ _ _ _ ran)
          simpa only [List.map_cons, List.flatten_cons, List.append_assoc] using ih fits failed

/-- When the chunks have arrived, nothing but the commit fails with a trace. -/
theorem finishWith_failed {last : Refusals} {e : Error} {t : Site} {info : PartitionInfo}
    {image : Bytes} (room : image.length ≤ info.size)
    (failed : ((after info declared image).finishWith (Act.commitUnder last)).run s =
      (.error e, t)) :
    t = s ∨ ∃ st flash, s.device.store.loaded = some st ∧ Complete info declared image ∧
      (install (tableOf info image) st).commitUnder last s.board.flash = (.error e, flash) ∧
      t = (s.remember (install (tableOf info image) st)).setFlash flash := by
  cases named : (after info declared image).bootTable with
  | error cause =>
      rw [finishWith_of_unnamed named] at failed
      cases failed
      exact .inl rfl
  | ok table =>
      obtain ⟨complete, rfl⟩ := complete_of_bootTable room named
      cases loaded : s.device.store.loaded with
      | none =>
          rw [finishWith_of_unloaded named loaded] at failed
          cases failed
          exact .inl rfl
      | some st =>
          rw [finishWith_of_named named loaded, Act.commitUnder_remember] at failed
          rcases done : (install (tableOf info image) st).commitUnder last s.board.flash with
            ⟨answer, flash⟩
          rw [done] at failed
          cases answer with
          | ok => cases failed
          | error cause =>
              cases failed
              exact .inr ⟨st, flash, rfl, complete, done, rfl⟩

/-- A whole image arrived at `s`, and its commit failed and left `t`. -/
structure CommitFailed (last : Refusals) (declared : Option Nat) (image : Bytes) (s : Site)
    (e : Error) (t : Site) (info : PartitionInfo) (st : Settings) : Prop where
  target : s.board.flash.partition? .otaTemp = some info
  complete : Complete info declared image
  loaded : s.device.store.loaded = some st
  failed : (install (tableOf info image) st).commitUnder last (s.received info image).board.flash =
    (.error e, t.board.flash)
  /-- The record stays in memory. -/
  device : t.device = (s.remember (install (tableOf info image) st)).device
  config : t.board.flash.region? .config = s.board.flash.region? .config ∨
    last.erase = false ∧ last.write = true ∧
      ∃ c, s.board.flash.region? .config = some c ∧
        t.board.flash.region? .config = some (.blank c.info)

theorem CommitFailed.intro {last : Refusals} {image : Bytes} {e : Error} {st : Settings}
    {flash : Nor}
    (target : s.board.flash.partition? .otaTemp = some r.info)
    (complete : Complete r.info declared image) (loaded : s.device.store.loaded = some st)
    (failed : (install (tableOf r.info image) st).commitUnder last
      (s.received r.info image).board.flash = (.error e, flash)) :
    CommitFailed last declared image s e
      (((s.received r.info image).remember (install (tableOf r.info image) st)).setFlash flash)
      r.info st where
  target := target
  complete := complete
  loaded := loaded
  failed := failed
  device := by simp only [Site.setFlash, Site.remember, Site.device_received]
  config := by
    have config : (s.received r.info image).board.flash.region? .config =
        s.board.flash.region? .config := by
      obtain ⟨ota, same⟩ : s.Untouched (s.received r.info image) := untouched_received
      rw [same]
      rfl
    rcases Settings.commitUnder_cases (x := last) (install (tableOf r.info image) st)
      (s.received r.info image).board.flash with
      ⟨_, kept⟩ | ⟨_, c, erased, unwritten, region, left⟩ | ⟨_, done⟩
    · cases failed.symm.trans kept
      exact .inl config
    · cases failed.symm.trans left
      rw [config] at region
      exact .inr ⟨erased, unwritten, c, region, by simp [Site.setFlash]⟩
    · cases failed.symm.trans done

theorem receiveAllUnder_failed {last : Refusals} {chunks : List (Bytes × Refusals)}
    {fault : Option String} {e : Error} {t : Site}
    (failed : (receiveAllUnder last declared chunks fault).run s = (.error e, t)) :
    s.Untouched t ∨ fault = none ∧
      ∃ info st, CommitFailed last declared (chunks.map Prod.fst).flatten s e t info st := by
  rw [receiveAllUnder, Fallible.bind_apply] at failed
  cases region : s.board.flash.region? .otaTemp with
  | none =>
      rcases start_cases declared s with ⟨cause, stopped⟩ | ⟨u, -, target, -⟩
      · rw [stopped] at failed
        cases failed
        exact .inl (.refl s)
      · simp [Nor.partition?, region] at target
  | some r =>
      rcases start_after region declared with ⟨length, -, -, stopped⟩ | opened
      · rw [stopped] at failed
        cases failed
        exact .inl (.refl s)
      · rw [opened] at failed
        rcases receiveRestUnder_failed region (Nat.zero_le _) failed with
          untouched | ⟨whole, room, failed⟩
        · exact .inl untouched
        · rw [List.nil_append] at room failed
          rcases finishWith_failed room failed with
            rfl | ⟨st, flash, loaded, complete, refused, rfl⟩
          · exact .inl untouched_received
          · rw [Site.device_received] at loaded
            have target : s.board.flash.partition? .otaTemp = some r.info := by
              simp [Nor.partition?, region]
            exact .inr ⟨whole, r.info, st, .intro target complete loaded refused⟩

/-- An upload that fails leaves the settings, the configuration partition and the power requests as
they were, whatever the flash refused and wherever the stream broke off, unless it is the commit of
a whole image that fails. That leaves the power requests alone too. -/
theorem receiveAll_failure :
    (∀ declared (chunks : List Bytes) fault,
      receiveAllUnder .none declared (chunks.map (·, .none)) fault =
        receiveAll declared chunks fault) ∧
    ∀ (s t : Site) (last : Refusals) (declared : Option Nat) (chunks : List (Bytes × Refusals))
      (fault : Option String) (e : Error),
      (receiveAllUnder last declared chunks fault).run s = (.error e, t) →
      t.device.power = s.device.power ∧
      (t.device.store = s.device.store ∧
          t.board.flash.region? .config = s.board.flash.region? .config ∨
        fault = none ∧ ∃ info st,
          CommitFailed last declared (chunks.map Prod.fst).flatten s e t info st) := by
  refine ⟨fun declared chunks fault => receiveAllUnder_none declared fault chunks,
    fun s t last declared chunks fault e failed => ?_⟩
  rcases receiveAllUnder_failed failed with ⟨ota, rfl⟩ | ⟨whole, info, st, late⟩
  · exact ⟨rfl, .inl ⟨rfl, rfl⟩⟩
  · exact ⟨by rw [late.device]; rfl, .inr ⟨whole, info, st, late⟩⟩

theorem receiveAll_failure_secondChunk :
    let s := usedSite (.blank ⟨0x4000, 96⟩)
    ∃ e t, (receiveAllUnder .none (some 3) [([1], .none), ([2], ⟨false, true⟩)] none).run s =
        (.error e, t) ∧
      t.device.power = s.device.power ∧ t.device.store = s.device.store ∧
      t.board.flash.contents? .otaTemp = some [1, 0xFF, 0xFF, 0xFF] := by
  obtain ⟨e, failed⟩ := Fallible.failed_of_not_isOk
    (x := receiveAllUnder .none (some 3) [([1], .none), ([2], ⟨false, true⟩)] none)
    (s := usedSite (.blank ⟨0x4000, 96⟩)) (by decide +kernel)
  obtain ⟨power, kept⟩ := receiveAll_failure.2 _ _ _ _ _ _ _ failed
  refine ⟨e, _, failed, power, ?_, by decide +kernel⟩
  rcases kept with ⟨store, -⟩ | ⟨-, info, st, late⟩
  · exact store
  · have announced := late.complete.announced
    simp at announced

/-- The record stays in memory where it has no room in flash, and the flash loses the one it holds
where it refuses the write of a commit after the erase. -/
theorem failedCommit_leavesTrace :
    (∃ e t, (receiveAll none [[1, 2, 3]] none).run (usedSite (.blank ⟨0x4000, 48⟩)) =
        (.error e, t) ∧
      t.device.store ≠ (usedSite (.blank ⟨0x4000, 48⟩)).device.store) ∧
    ∃ e t, (receiveAllUnder ⟨false, true⟩ none [([1, 2, 3], .none)] none).run
        (usedSite ⟨0x4000, Array.replicate 96 0⟩) = (.error e, t) ∧
      t.board.flash.contents? .config ≠ some (List.replicate 96 0) := by
  obtain ⟨e, noRoom⟩ := Fallible.failed_of_not_isOk (x := receiveAll none [[1, 2, 3]] none)
    (s := usedSite (.blank ⟨0x4000, 48⟩)) (by decide +kernel)
  obtain ⟨e', refused⟩ := Fallible.failed_of_not_isOk
    (x := receiveAllUnder ⟨false, true⟩ none [([1, 2, 3], .none)] none)
    (s := usedSite ⟨0x4000, Array.replicate 96 0⟩) (by decide +kernel)
  exact ⟨⟨e, _, noRoom, by decide +kernel⟩, e', _, refused, by decide +kernel⟩

end Upload
end ConnectedDevice
