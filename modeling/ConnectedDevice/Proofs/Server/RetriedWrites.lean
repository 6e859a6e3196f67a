import ConnectedDevice.Proofs.Server.FailedWrites
import ConnectedDevice.Proofs.Update.Revision

/-!
Requests for other settings that are sent again after they failed. Whether a reset is needed is told
from the settings in memory, which have changed by then. So the second request writes the settings,
but it does not reset the device, which then goes on as if nothing had been changed.
-/

namespace ConnectedDevice

theorem SystemConfig.advance_advance (c : SystemConfig) (next : ConfigState) :
    (c.advance next).advance next = c.advance next := by
  unfold advance
  split
  · simp only [ConfigState.canAdvanceTo, Nat.le_refl, decide_true, if_true]
  · rfl

namespace Update

variable (u : Update) (st : Settings)

theorem change_update : (Change.update u).apply st =
    st.modifySystem fun c => (u.revised c).advance .allConfigured := by
  simp only [Change.apply, apply_fst]

/-- An update that comes again finds nothing to change. -/
theorem change_update_again :
    (Change.update u).apply ((Change.update u).apply st) = (Change.update u).apply st := by
  simp only [change_update, Settings.modifySystem, revised_advance, revised_revised,
    SystemConfig.advance_advance]

theorem needReboot_again :
    (u.apply ((Change.update u).apply st).system).2.needReboot = false := by
  rw [needReboot_eq, change_update]
  simp only [Settings.modifySystem, Settings.system, revised_advance, revised_revised,
    entries_advance, bne_self_eq_false]

end Update

namespace Server

open Act

theorem finish_settings (u : Update) (st : Settings) (t : Site) :
    (Writer.settings.finish u st t).2.board.flash = t.board.flash ∧
      (Writer.settings.finish u st t).2.device.power =
        if (u.apply st.system).2.needReboot then t.device.power.request .softwareReset
        else t.device.power := by
  simp only [Writer.settings]
  cases u.identifier <;> cases (u.apply st.system).2.needReboot <;> exact ⟨rfl, rfl⟩

variable {commits : Fallible Unit} {r : Request} {s t : Site}

/-- What the first request leaves behind, if the record could not be written. -/
theorem write_failed (confined : OnlyFlash commits)
    (names : Resource.ofPath? r.path = some .settings)
    (failed : (respondWith commits r s).1.status = 500) :
    ∃ u ∈ r.update?, ∃ st, s.device.store.loaded = some st ∧
      (respondWith commits r s).2.device.store.loaded = some ((Change.update u).apply st) ∧
      (respondWith commits r s).2.device.power = s.device.power := by
  have error : (respondWith commits r s).1.status ≠ 200 := by
    rw [failed]
    decide
  rcases respondWith_failed names rfl error with ⟨-, -, other⟩ | ⟨u, read, st, e, loaded, wrote⟩
  · exact absurd failed other
  · obtain ⟨flash, left⟩ := confined (Writer.settings.prepare u st s)
    rw [wrote] at left
    dsimp only at left
    refine ⟨u, read, st, loaded, ?_, ?_⟩
    · rw [left]
      rfl
    · rw [left]
      rfl

/-- What any request does that is granted. -/
theorem write_granted (names : Resource.ofPath? r.path = some .settings)
    (granted : (respond r t).1.status = 200) :
    ∃ u ∈ r.update?, ∃ st, t.device.store.loaded = some st ∧
      (respond r t).2.board.flash.stored? = some ((Change.update u).apply st).record ∧
      (respond r t).2.device.power =
        if (u.apply st.system).2.needReboot then t.device.power.request .softwareReset
        else t.device.power := by
  rw [← respondWith_commit] at granted ⊢
  obtain ⟨u, read, st, v, loaded, wrote, ends⟩ := respondWith_granted names rfl granted
  obtain ⟨known, flash, present, stored, left⟩ := commit_ok wrote
  cases present
  obtain ⟨kept, power⟩ := finish_settings u st v
  refine ⟨u, read, st, loaded, ?_, ?_⟩
  · rw [ends, kept, left]
    exact stored
  · rw [ends, power, left]
    rfl

/-- Whether a reset is asked for depends on the settings in memory and not on those in flash. So
where a failed write is retried and its settings are still in memory, they are written, but no reset
is asked for. -/
theorem retried_write (confined : OnlyFlash commits)
    (names : Resource.ofPath? r.path = some .settings)
    (failed : (respondWith commits r s).1.status = 500) :
    ∃ u ∈ r.update?, ∃ st, s.device.store.loaded = some st ∧
      (respondWith commits r s).2.device.store.loaded = some ((Change.update u).apply st) ∧
      (respondWith commits r s).2.device.power = s.device.power ∧
      ∀ t, (respond r t).1.status = 200 →
        ∃ now, t.device.store.loaded = some now ∧
          (respond r t).2.board.flash.stored? = some ((Change.update u).apply now).record ∧
          (respond r t).2.device.power =
            (if (u.apply now.system).2.needReboot then t.device.power.request .softwareReset
            else t.device.power) ∧
          (now = (Change.update u).apply st →
            (Change.update u).apply now = (Change.update u).apply st ∧
              (respond r t).2.device.power = t.device.power) := by
  obtain ⟨u, read, st, loaded, remembered, power⟩ := write_failed confined names failed
  refine ⟨u, read, st, loaded, remembered, power, fun t granted => ?_⟩
  obtain ⟨v, again, now, present, stored, asked⟩ := write_granted names granted
  -- it is the same request, so it carries the same update
  cases Option.mem_unique read again
  refine ⟨now, present, stored, asked, fun kept => ?_⟩
  subst kept
  refine ⟨u.change_update_again st, ?_⟩
  rw [asked, u.needReboot_again st]
  rfl

def nameDesk : Request := post "/config-write" "\x7b\"NAME\":\"Desk\"\x7d"

/-- What the request for a name leaves behind that fails, with a flash that can be written again. -/
def renamedSite : Site := (respond nameDesk refusingSite).2.setFlash factorySite.board.flash

theorem retried_write_renaming :
    (respond nameDesk renamedSite).1.status = 200 ∧
      (respond nameDesk renamedSite).2.device.power = refusingSite.device.power := by
  have granted : (respond nameDesk renamedSite).1.status = 200 := by decide +kernel
  obtain ⟨u, -, st, -, remembered, untouched, again⟩ := retried_write (s := refusingSite)
    (r := nameDesk) onlyFlash_commit (by decide +kernel) (by decide +kernel)
  rw [respondWith_commit] at remembered untouched
  obtain ⟨now, present, -, -, kept⟩ := again renamedSite granted
  have same : now = (Change.update u).apply st := Option.some.inj (present.symm.trans remembered)
  exact ⟨granted, (kept same).2.trans untouched⟩

/-- The name changes, and it is in flash after the second request, but no reset is asked for. -/
theorem retried_write_resetless :
    (refusingSite.device.store.loaded.map fun st =>
      nameDesk.update?.map fun u => (u.apply st.system).2.needReboot) = some (some true) ∧
    (respond nameDesk refusingSite).1.status = 500 ∧
    (respond nameDesk renamedSite).1.status = 200 ∧
    (respond nameDesk renamedSite).2.board.flash.stored?.map (·.system.name) = some "Desk" ∧
    (respond nameDesk renamedSite).2.device.power.requested = .normal := by
  decide +kernel

end Server
end ConnectedDevice
