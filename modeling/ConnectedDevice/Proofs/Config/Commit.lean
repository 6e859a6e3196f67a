import ConnectedDevice.Proofs.Device.Basic
import ConnectedDevice.Proofs.Store

/-!
A commit is all or nothing. Everything that can go wrong is found out before the partition is
erased: the encoding, the size, and whether the flash can be written. The write behind the erase
finds erased bytes and enough of them, and so it neither fails nor mixes old bits with the new.
-/

namespace ConnectedDevice

/-- The flash `g` holds the image in the configuration partition, with erased bytes behind it, and
otherwise it is what `f` was. -/
structure Nor.Takes (f : Nor) (image : Bytes) (g : Nor) : Prop where
  config : ∃ info, f.partition? .config = some info ∧ image.length ≤ info.size ∧
    g.contents? .config = some (image ++ List.replicate (info.size - image.length) erased)
  others : ∀ p, p ≠ .config → g.contents? p = f.contents? p
  places : ∀ p, g.partition? p = f.partition? p
  refusing : g.refusing = f.refusing

theorem Settings.takes_imageRegion {f : Nor} {image : Bytes} {r : Region}
    (region : f.region? .config = some r) (fits : image.length ≤ r.cells.size) :
    f.Takes image (f.setRegion (imageRegion r image) .config) where
  config := ⟨r.info, by simp [Nor.partition?, region], fits,
    by simp [Nor.contents?, imageRegion, Region.info]⟩
  others p other := by simp [Nor.contents?, other.symm]
  places p := by
    rw [Nor.partition?_setRegion]
    split
    next config =>
      subst config
      simp [Nor.partition?, region, imageRegion, Region.info, fits]
    next => rfl
  refusing := Nor.setRegion_refusing _

/-- The room for a commit is as it was: the size of the partition, and whether it can be written. -/
structure Nor.SameRoom (f g : Nor) : Prop where
  config : g.partition? .config = f.partition? .config
  refusing : g.refusing = f.refusing

namespace Settings

variable {s : Settings} {f g : Nor}

theorem sameRoom_commit (s : Settings) (f : Nor) : f.SameRoom (s.commit f).2 := by
  rcases s.commit_cases f with ⟨e, failed⟩ | ⟨image, r, -, region, fits, -, done⟩
  · rw [failed]
    exact ⟨rfl, rfl⟩
  · rw [done]
    have takes := takes_imageRegion region fits
    exact ⟨takes.places .config, takes.refusing⟩

theorem commit_ok_of_sameRoom (room : f.SameRoom g) (accepted : (s.commit f).1 = .ok ()) :
    (s.commit g).1 = .ok () := by
  rw [commit_ok_iff] at accepted ⊢
  rwa [room.config, room.refusing]

theorem stored?_of_commit_ok (accepted : (s.commit f).1 = .ok ()) :
    (s.commit f).2.stored? = some s.record := by
  rcases s.commit_outcome f with ⟨e, failed⟩ | stored
  · rw [failed] at accepted
    cases accepted
  · exact stored

end Settings

/-- A commit fails and changes nothing at all, or it succeeds and the flash takes the image of the
record, while the rest of the system stays as it is. It succeeds exactly if there is a record, and
the configuration partition is there, has room for the image, and can be written. -/
theorem Act.commit_allOrNothing (s : Site) :
    ((∃ e, commit.run s = (.error e, s)) ∨
      ∃ st image flash, s.device.store.loaded = some st ∧ st.record.toImage = .ok image ∧
        s.board.flash.Takes image flash ∧ commit.run s = (.ok (), s.setFlash flash)) ∧
    ((commit.run s).1 = .ok () ↔ ∃ st image info, s.device.store.loaded = some st ∧
      st.record.toImage = .ok image ∧ s.board.flash.partition? .config = some info ∧
        image.length ≤ info.size ∧ s.board.flash.refusing = false) := by
  have ran : commit.run s = ((s.device.store.commit s.board.flash).1,
      s.setFlash (s.device.store.commit s.board.flash).2) := rfl
  cases loaded : s.device.store.loaded with
  | none =>
      have failed : s.device.store.commit s.board.flash =
          (.error .storeNotInitialized, s.board.flash) := by
        simp [Store.commit, Store.lock, loaded]
      rw [ran, failed]
      exact ⟨.inl ⟨_, rfl⟩, by simp⟩
  | some st =>
      have same : s.device.store.commit s.board.flash = st.commit s.board.flash := by
        simp [Store.commit, Store.lock, loaded]
      rw [ran, same]
      refine ⟨?_, by simp [st.commit_ok_iff]⟩
      rcases st.commit_cases s.board.flash with
        ⟨e, failed⟩ | ⟨image, r, written, region, fits, -, done⟩
      · rw [failed]
        exact .inl ⟨e, rfl⟩
      · rw [done]
        exact .inr ⟨st, image, _, rfl, written, Settings.takes_imageRegion region fits, rfl⟩

/-- All bits of the configuration partition are clear, and an upload stands in another one. -/
def scribbledSite (refusing : Bool) : Site :=
  let flash : Nor := ⟨none, none, some ⟨0x88000, #[1, 2, 3, 4]⟩,
    some ⟨0x4000, Array.replicate 96 0⟩, refusing⟩
  let hardware : Hardware := ⟨.error .stopped, .error .stopped, fun _ => .ok (), .ok⟩
  let device := Device.make .standard .product false
  let store := (Store.make "Kitchen" 1).set ⟨.factory "Kitchen" 1 0, .empty⟩
  ⟨0, .make flash 8 hardware, { device with store }, []⟩

theorem Act.commit_allOrNothing_scribbled :
    (∃ image flash, (scribbledSite false).board.flash.Takes image flash ∧
      commit.run (scribbledSite false) = (.ok (), (scribbledSite false).setFlash flash) ∧
        flash.contents? .otaTemp = some [1, 2, 3, 4]) ∧
    ∃ e, commit.run (scribbledSite true) = (.error e, scribbledSite true) := by
  constructor
  · have accepted : (commit.run (scribbledSite false)).1.isOk := by decide +kernel
    rcases (commit_allOrNothing (scribbledSite false)).1 with
      ⟨e, failed⟩ | ⟨st, image, flash, -, -, takes, done⟩
    · simp [failed, isOk_iff] at accepted
    · exact ⟨image, flash, takes, done, takes.others .otaTemp (by decide)⟩
  · have refused : (commit.run (scribbledSite true)).1.isOk = false := by decide +kernel
    rcases (commit_allOrNothing (scribbledSite true)).1 with failed | ⟨_, _, _, -, -, -, done⟩
    · exact failed
    · simp [done, isOk_iff, ← Bool.not_eq_true] at refused

end ConnectedDevice
