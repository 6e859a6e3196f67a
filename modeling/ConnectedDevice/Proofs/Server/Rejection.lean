import ConnectedDevice.Proofs.Server.Deeds
import ConnectedDevice.Proofs.Store
import ConnectedDevice.Proofs.Upload.Deeds
import ConnectedDevice.Proofs.Upload.Receive

/-!
A request that is rejected leaves everything as it was, except for the partition for received
images, which may hold what arrived of an image. Whatever can be wrong with a request is found
before the settings change; from then on only the flash can fail, and the answer blames the device.
-/

namespace ConnectedDevice

/-- The record in memory can be written as an image. -/
def Site.Encodable (s : Site) : Prop :=
  ∀ st ∈ s.device.store.loaded, st.record.payload.length < UInt32.size

/-- The sites differ in the partition for received images at most. -/
def Site.Untouched (s t : Site) : Prop :=
  ∃ ota, t = s.setFlash { s.board.flash with otaTemp := ota }

namespace Server

/-- The answer to the error blames the request. -/
def Rejects (e : Error) : Prop := statusOf e.kind < 500

/-- If the act is rejected, it changed nothing before. -/
def Resists {α : Type} (s : Site) (x : Fallible α) : Prop :=
  ∀ e, (x.run s).1 = .error e → Rejects e → (x.run s).2.Encodable → s.Untouched (x.run s).2

/-- If the act fails, the device is to blame. -/
def Accepts {α : Type} (s : Site) (x : Fallible α) : Prop :=
  ∀ e, (x.run s).1 = .error e → (x.run s).2.Encodable → ¬Rejects e

/-- If the response rejects the request, nothing was changed. -/
def Spares (s : Site) (act : Act Response) : Prop :=
  400 ≤ (act s).1.status → (act s).1.status < 500 → (act s).2.Encodable → s.Untouched (act s).2

end Server

namespace Site.Untouched

variable {s t u : Site}

theorem refl (s : Site) : s.Untouched s := ⟨s.board.flash.otaTemp, rfl⟩

theorem trans (first : s.Untouched t) (second : t.Untouched u) : s.Untouched u := by
  obtain ⟨_, rfl⟩ := first
  obtain ⟨ota, rfl⟩ := second
  exact ⟨ota, rfl⟩

/-- An operation on the partition for received images, whether it fails or not. -/
theorem onFlash {operation : Nor → Except FlashError Nor}
    (confined : ∀ f g, operation f = .ok g → ∃ r, g = f.setRegion r .otaTemp) (s : Site) :
    s.Untouched ((Act.onFlash operation).run s).2 := by
  rw [Act.onFlash_run]
  cases done : operation s.board.flash with
  | error e => exact .refl s
  | ok g =>
      obtain ⟨r, rfl⟩ := confined _ _ done
      exact ⟨some r, rfl⟩

theorem bind {α β : Type} {x : Fallible α} {f : α → Fallible β}
    (first : s.Untouched (x.run s).2) (next : ∀ a (t : Site), t.Untouched ((f a).run t).2) :
    s.Untouched ((x >>= f).run s).2 := by
  rw [Fallible.bind_apply]
  cases (x.run s).1 with
  | ok a => exact first.trans (next a _)
  | error e => exact first

end Site.Untouched

namespace Server

variable {α β : Type} {s : Site} {x : Fallible α} {f : α → Fallible β}

theorem Accepts.resists (accepts : Accepts s x) : Resists s x :=
  fun e failed rejects fits => absurd rejects (accepts e failed fits)

theorem Accepts.bindLift {act : Act α} (next : ∀ a t, Accepts t (f a)) :
    Accepts s (liftM act >>= f) :=
  fun e failed fits => next (act s).1 (act s).2 e failed fits

theorem Resists.bind (first : s.Untouched (x.run s).2)
    (next : ∀ a, Resists (x.run s).2 (f a)) : Resists s (x >>= f) := by
  unfold Resists at next ⊢
  intro e
  rw [Fallible.bind_apply]
  cases (x.run s).1 with
  | ok a => exact fun failed rejects fits => first.trans (next a e failed rejects fits)
  | error e => exact fun _ _ _ => first

theorem Resists.ofExcept {r : Except Error α} (next : ∀ a, Resists s (f a)) :
    Resists s (Fallible.ofExcept r >>= f) :=
  .bind (.refl s) next

theorem Resists.settings {f : Settings → Fallible β} (next : ∀ st, Resists s (f st)) :
    Resists s (Act.settings >>= f) :=
  .bind (.refl s) next

end Server

/-- A record that can be written is refused by the flash alone. -/
theorem Store.kind_of_commit {s : Store} {f : Nor} {e : Error} (failed : (s.commit f).1 = .error e)
    (fits : ∀ st ∈ s.loaded, st.record.payload.length < UInt32.size) :
    e.kind = .notInitialized ∨ e.kind = .flash := by
  cases loaded : s.loaded with
  | none =>
      simp only [commit, lock, loaded, Except.error.injEq] at failed
      exact .inl (failed ▸ rfl)
  | some st =>
      have written := (st.record.toImage_eq_ok_iff _).mpr ⟨fits st loaded, rfl⟩
      simp only [commit, lock, loaded, Settings.commit, written] at failed
      right
      split at failed
      · cases failed
        rfl
      · split at failed
        · cases failed
          rfl
        · split at failed
          · cases failed
            rfl
          · cases failed

namespace Server

variable {s : Site}

/-- Once the settings changed, nothing is left that could reject the request. -/
theorem accepts_commit {α : Type} {rest : Unit → Fallible α}
    (sure : ∀ t : Site, ((rest ()).run t).1.isOk) : Accepts s (Act.commit >>= rest) := by
  intro e
  rw [Fallible.bind_apply]
  cases ends : (Act.commit.run s).1 with
  | ok _ =>
      intro failed
      have ok := sure (Act.commit.run s).2
      rw [failed] at ok
      cases ok
  | error e' =>
      intro failed fits
      cases failed
      have kind := Store.kind_of_commit (f := s.board.flash) ends fits
      rcases kind with kind | kind <;> simp [Rejects, kind, statusOf]

theorem accepts_written (applied : Update.Applied) : Accepts s (written applied) := by
  refine accepts_commit fun t => ?_
  dsimp only
  split <;> split <;> rfl

theorem accepts_writtenSoftAp (system : SystemConfig) : Accepts s (writtenSoftAp system) :=
  accepts_commit fun _ => rfl

theorem resists_write (body : Bytes) : Resists s (write body) := by
  refine .ofExcept fun u => .settings fun st => Accepts.resists (.bindLift fun _ t => ?_)
  exact accepts_written (u.apply st.system).2

theorem resists_writeSoftAp (body : Bytes) : Resists s (writeSoftAp body) := by
  refine .ofExcept fun u => .settings fun st => Accepts.resists (.bindLift fun _ t => ?_)
  dsimp only
  split
  · exact .bindLift fun _ _ => accepts_writtenSoftAp _
  · exact accepts_writtenSoftAp _

end Server

namespace Upload

open Act Server

variable {s : Site}

theorem untouched_start (declared : Option Nat) :
    s.Untouched ((start declared).run s).2 := by
  rcases start_cases declared s with ⟨e, failed⟩ | ⟨u, opened, -⟩
  · rw [failed]
    exact .refl s
  · rw [opened]
    exact .refl s

theorem untouched_receiveWith {erases : Fallible Unit} {appends : Fallible Upload} (u : Upload)
    (chunk : Bytes) (erased : ∀ t : Site, t.Untouched (erases.run t).2)
    (written : ∀ t : Site, t.Untouched (appends.run t).2) :
    s.Untouched ((u.receiveWith erases appends chunk).run s).2 := by
  unfold receiveWith
  split
  · exact .refl s
  · dsimp only
    split
    · exact .refl s
    · split
      · exact .bind (erased s) fun _ t => written t
      · exact written s

/-- A chunk is of no consequence but for the partition for received images. -/
theorem untouched_receive (u : Upload) (chunk : Bytes) :
    s.Untouched ((u.receive chunk).run s).2 := by
  rw [receive_eq]
  refine untouched_receiveWith u chunk (.onFlash fun f g done => ?_)
    fun t => .bind (.onFlash (fun f g done => ?_) t) fun _ t => .refl t
  · obtain ⟨-, r, -, same⟩ := Nor.erase_eq_ok.mp done
    exact ⟨_, same⟩
  · obtain ⟨-, r, -, -, same⟩ := Nor.write_eq_ok.mp done
    exact ⟨_, same⟩

theorem resists_finish (u : Upload) : Resists s u.finish := by
  refine .ofExcept fun table => .settings fun st => Accepts.resists (.bindLift fun _ t => ?_)
  exact accepts_commit fun _ => rfl

theorem resists_receiveAll (declared : Option Nat) (chunks : List Bytes) (fault : Option String) :
    Resists s (receiveAll declared chunks fault) := by
  refine .bind (untouched_start declared) fun u => ?_
  generalize ((start declared).run s).2 = t
  induction chunks generalizing u t with
  | nil =>
      cases fault with
      | some text => exact fun _ _ _ _ => .refl t
      | none => exact resists_finish u
  | cons chunk chunks ih => exact .bind (untouched_receive u chunk) fun v => ih v _

end Upload

namespace Server

variable {s : Site}

theorem spares_of_untouched {act : Act Response} (untouched : s.Untouched (act s).2) :
    Spares s act :=
  fun _ _ _ => untouched

theorem spares_pure (response : Response) : Spares s (pure response) :=
  spares_of_untouched (.refl s)

theorem spares_conclude {α : Type} {x : Fallible α} (resists : Resists s x) :
    Spares s (conclude x) := by
  unfold Spares
  rw [conclude, Act.bind_apply]
  cases ends : (x.run s).1 with
  | ok _ => exact fun rejected => absurd (show 400 ≤ 200 from rejected) (by decide)
  | error e => exact fun _ rejected fits => resists e ends rejected fits

theorem spares_buffered (r : Request) {handler : Bytes → Fallible Unit}
    (resists : ∀ body, Resists s (handler body)) : Spares s (buffered r handler) := by
  unfold buffered
  split
  · exact spares_conclude (resists _)
  · exact spares_pure _

theorem spares_receiveFirmware (r : Request) : Spares s (receiveFirmware r) := by
  unfold Spares
  rw [receiveFirmware, Act.bind_apply]
  change Spares s _
  split
  · exact spares_pure _
  · split
    · exact spares_pure _
    · exact spares_conclude (Upload.resists_receiveAll _ _ _)

theorem untouched_report : s.Untouched (report.run s).2 := by
  refine .bind (.refl s) fun st t => ?_
  exact .refl t

theorem spares_answer (resource : Resource) (r : Request) : Spares s (answer resource r) := by
  cases resource with
  | report =>
      refine spares_of_untouched ?_
      rw [answer, Act.bind_apply]
      have untouched := untouched_report (s := s)
      cases (report.run s).1 with
      | ok _ => exact untouched
      | error _ => exact untouched
  | settings => exact spares_buffered r resists_write
  | softApSettings => exact spares_buffered r resists_writeSoftAp
  | firmware => exact spares_receiveFirmware r

theorem spares_respond (r : Request) : Spares s (respond r) := by
  unfold respond
  split
  · exact spares_pure _
  · split
    · exact spares_pure _
    · have spares := spares_answer (s := s) ‹Resource› r
      unfold Spares at spares ⊢
      rw [Act.bind_apply]
      split <;> exact spares

/-- Whatever the request is, and whatever the state of the system: an answer that rejects it means
that nothing was changed. The same holds of an upload whose chunks come among other requests. -/
theorem respond_rejects (s : Site) :
    (∀ r : Request, 400 ≤ (respond r s).1.status → (respond r s).1.status < 500 →
        (respond r s).2.Encodable → s.Untouched (respond r s).2) ∧
      (∀ declared, s.Untouched ((Upload.start declared).run s).2) ∧
      (∀ (u : Upload) (chunk : Bytes), s.Untouched ((u.receive chunk).run s).2) ∧
      ∀ (u : Upload) (e : Error), (u.finish.run s).1 = .error e → statusOf e.kind < 500 →
        (u.finish.run s).2.Encodable → s.Untouched (u.finish.run s).2 :=
  ⟨spares_respond, Upload.untouched_start, Upload.untouched_receive, Upload.resists_finish⟩

def factorySite : Site :=
  let blank := Nor.blank [(.config, ⟨0x4000, 96⟩), (.otaTemp, ⟨0x88000, 4⟩)]
  let hardware : Hardware := ⟨.error .stopped, .error .stopped, fun _ => .ok (), .ok⟩
  let device := Device.make .standard .product false
  let store := (Store.make "Kitchen" 1).set ⟨.factory "Kitchen" 1 0, .empty⟩
  ⟨0, .make blank 8 hardware, { device with store }, []⟩

/-- An image whose sender goes away after three bytes. -/
def brokenUpload : Request :=
  ⟨.post, "/OTA", some firmwareType, none, [[1, 2], [3]], some "connection reset"⟩

theorem respond_rejects_brokenUpload :
    (respond brokenUpload factorySite).1.status = 400 ∧
      factorySite.Untouched (respond brokenUpload factorySite).2 ∧
      (respond brokenUpload factorySite).2.board.flash.contents? .otaTemp =
        some [1, 2, 3, 0xFF] ∧
      factorySite.Untouched ((Upload.mk ⟨0x88000, 4⟩ none .empty).finish.run factorySite).2 := by
  obtain ⟨responses, -, -, ends⟩ := respond_rejects factorySite
  have rejected : (respond brokenUpload factorySite).1.status = 400 := by decide +kernel
  have fits {t : Site}
      (loaded : t.device.store.loaded = some ⟨.factory "Kitchen" 1 0, .empty⟩) : t.Encodable := by
    intro st known
    rw [loaded] at known
    cases known
    decide +kernel
  have spared := responses brokenUpload (Nat.le_of_eq rejected.symm)
    (Nat.lt_of_le_of_lt (Nat.le_of_eq rejected) (by decide)) (fits (by decide +kernel))
  exact ⟨rejected, spared, by decide +kernel, ends _ .uploadEmpty rfl (by decide) (fits rfl)⟩

end Server

end ConnectedDevice
