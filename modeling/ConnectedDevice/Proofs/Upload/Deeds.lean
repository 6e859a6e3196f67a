import ConnectedDevice.Proofs.Device.Basic

/-!
The deeds of an upload: erases and writes in the partition for received images, and at the end the
boot table.
-/

namespace ConnectedDevice.Upload

open Act

variable {s : Site} (u : Upload)

inductive MayReceive : Deed → Prop
  | erase : MayReceive .erase
  | write (offset : Nat) (data : Bytes) : MayReceive (.write offset data)

inductive MayFinish : Deed → Prop
  | install {t : BootTable} : u.bootTable = .ok t → MayFinish (.change (.install t))
  | commit : MayFinish .commit

theorem silent_start (declared : Option Nat) : Silent (start declared).run := by
  refine .bindLift silent_get fun here => ?_
  cases here.board.flash.partition? .otaTemp with
  | none => exact silent_throw _
  | some target =>
      cases declared with
      | none => exact .pure _
      | some length =>
          dsimp only
          split
          · exact (silent_throw _).bindOk fun _ => .pure _
          · exact .pure _

/-- Writes a chunk after what was received. -/
def append (chunk : Bytes) : Fallible Upload := do
  onFlash (·.write .otaTemp u.received.size chunk)
  return { u with received := u.received.update chunk }

/-- Receives a chunk by other means to erase the partition and to write. -/
def receiveWith (erases : Fallible Unit) (appends : Fallible Upload) (chunk : Bytes) :
    Fallible Upload := do
  if chunk.isEmpty then return u
  if u.target.size < u.received.size + chunk.length then throw (.uploadTooLarge u.target.size)
  if u.received.isEmpty then erases
  appends

theorem receive_eq (chunk : Bytes) : u.receive chunk =
    u.receiveWith (onFlash (·.erase .otaTemp)) (u.append chunk) chunk :=
  rfl

theorem runs_receive (chunk : Bytes) : s.Runs MayReceive anyway (u.receive chunk).run := by
  have written (t : Site) : t.Runs MayReceive anyway (u.append chunk).run := by
    have wrote : t.Runs MayReceive anyway
        (onFlash (·.write .otaTemp u.received.size chunk)).run :=
      ⟨.deed (.write u.received.size chunk) .refl (.write _ _), trivial⟩
    exact .bindOk wrote (fun _ _ _ => .pure trivial) fun _ _ => trivial
  have erases (t : Site) : t.Runs MayReceive anyway (onFlash (·.erase .otaTemp)).run :=
    ⟨.deed .erase .refl .erase, trivial⟩
  unfold receive
  dsimp only
  split
  · exact .pure trivial
  · split
    · exact .bindSilentOk (silent_throw _) (fun _ t _ => by
        split
        · exact .bindOk (erases t) (fun _ t _ => written t) fun _ _ => trivial
        · exact written t) fun _ => trivial
    · split
      · exact .bindOk (erases s) (fun _ t _ => written t) fun _ _ => trivial
      · exact written s

theorem runs_finish : s.Runs u.MayFinish anyway u.finish.run := by
  refine .bindOfExcept (fun table named => ?_) fun _ => trivial
  refine .bindSettings (fun st loaded => ?_) fun _ => trivial
  refine .bindLift (runs_setSettings (.install table) loaded (.install named)) fun _ _ _ => ?_
  refine .bindOk (runs_commit .commit) (fun _ _ _ => ?_) fun _ _ => trivial
  exact .bindSilentLift (silent_requestPower _) fun _ _ _ => .pure trivial

end ConnectedDevice.Upload
