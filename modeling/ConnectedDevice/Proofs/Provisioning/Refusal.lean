import ConnectedDevice.Proofs.Provisioning.Deeds

/-!
Runs on hardware that refuses all commands. No discovery starts and no soft access point opens, so
that a run fails at once and goes back to the settings from before it. Where these count as the
settings of a network, the record counts as fully configured afterwards.
-/

namespace ConnectedDevice

open Act

def ConfigRecord.isPromoted (r : ConfigRecord) : Bool := r.system.configured == .allConfigured

def Hardware.Refuses (h : Hardware) : Prop := ∀ c, ∃ e, h.answer c = .error e

def Device.Promoted (d : Device) : Prop := ∃ st ∈ d.store.loaded, st.record.isPromoted

instance (d : Device) : Decidable d.Promoted :=
  inferInstanceAs (Decidable (∃ st ∈ d.store.loaded, st.record.isPromoted))

/-- The discovery of a run failed, and nobody told the run to end. -/
structure Site.Failed (s : Site) (run : Nat) : Prop where
  refuses : s.board.hardware.Refuses
  loaded : s.device.store.loaded.isSome
  here : run < s.device.runs.length
  going : s.device.isCancelled run = false
  stage : (s.device.session run).stage = .failed
  permit : (s.device.session run).permit

namespace Device

variable {d : Device} {run : Nat}

theorem isCancelled_modifySession (f : Session → Session) :
    (d.modifySession run f).isCancelled run = d.isCancelled run := by
  simp only [isCancelled, modifySession, modifyRun, List.getElem?_modify_eq]
  cases d.runs[run]? <;> rfl

end Device

namespace Provisioning

variable {s : Site} {st : Settings} {run : Nat} {before : SystemConfig}

theorem promoted_rollBack (loaded : s.device.store.loaded = some st)
    (known : before.configured ≠ .unconfigured) : (rollBack before s).2.device.Promoted := by
  rw [rollBack, Act.device_bind]
  simp only [loaded, known, if_false]
  exact ⟨_, rfl, rfl⟩

theorem promoted_openSoftAp (refuses : s.board.hardware.Refuses)
    (loaded : s.device.store.loaded = some st) (known : before.configured ≠ .unconfigured) :
    (openSoftAp run before s).2.device.Promoted := by
  have quiet := quiet_hook .softApWillStart s
  rw [openSoftAp, Act.bind_apply, Act.bind_apply, Act.device_bind, Act.bind_apply]
  generalize (hook .softApWillStart s).2 = t at quiet ⊢
  have refuses : (renew run t).2.board.hardware.Refuses := by
    rw [← quiet.hardware] at refuses
    exact refuses
  have loaded : (renew run t).2.device.store.loaded = some st := by
    rw [← quiet.device] at loaded
    exact loaded
  generalize (renew run t).2 = u at refuses loaded ⊢
  obtain ⟨e, refused⟩ := refuses (.radio (.startSoftAp
    (.fallback (u.device.mac.getD (Vector.replicate 6 0)))))
  have answer : ((issue (.radio (.startSoftAp
      (.fallback (u.device.mac.getD (Vector.replicate 6 0)))))).run u).1 = .error e := refused
  rw [answer]
  exact promoted_rollBack loaded known

theorem promoted_fail (refuses : s.board.hardware.Refuses)
    (loaded : s.device.store.loaded = some st) (known : before.configured ≠ .unconfigured) :
    (fail run before s).2.device.Promoted := by
  rw [fail, Act.device_bind]
  split
  · exact promoted_openSoftAp refuses loaded known
  · exact promoted_rollBack loaded known

theorem attempt_refused {number : Nat} {method : DiscoveryMethod}
    (refuses : s.board.hardware.Refuses) (loaded : s.device.store.loaded = some st)
    (known : before.configured ≠ .unconfigured) (here : run < s.device.runs.length)
    (going : number ≤ s.device.options.maxAttempts → s.device.isCancelled run = false) :
    (attempt run number method before s).2.device.Promoted ∨
      ∃ t, attempt run number method before s = (.waiting (.discovering number before), t) ∧
        t.Failed run := by
  rw [attempt, Act.device_bind]
  dsimp only
  split
  · exact .inl (promoted_fail refuses loaded known)
  next left =>
    right
    rw [Act.bind_apply, Act.bind_apply]
    let command := Command.radio (.startDiscovery method s.device.options.discoveryTimeout)
    obtain ⟨e, refused⟩ := refuses command
    have answer : ((issue command).run (renew run s).2).1 = .error e := refused
    rw [answer]
    let fresh := s.device.modifySession run fun _ => .fresh
    have length : run < fresh.runs.length := by
      simpa [fresh, Device.modifySession, Device.modifyRun] using here
    have session : (fresh.modifySession run (·.finish false)).session run =
        Session.fresh.finish false := by
      rw [Device.session_modifySession _ length, Device.session_modifySession _ here]
    have later : run < (fresh.modifySession run (·.finish false)).runs.length := by
      simpa [Device.modifySession, Device.modifyRun] using length
    refine ⟨_, rfl, refuses, Option.isSome_of_eq_some loaded, later, ?_, ?_, ?_⟩
    · have kept : (fresh.modifySession run (·.finish false)).isCancelled run =
          fresh.isCancelled run := Device.isCancelled_modifySession _
      exact (kept.trans (Device.isCancelled_modifySession _)).trans (going (Nat.not_lt.mp left))
    · exact congrArg Session.stage session
    · exact congrArg Session.permit session

theorem promoted_afterDiscovery {number : Nat} (failed : s.Failed run)
    (known : before.configured ≠ .unconfigured) :
    (afterDiscovery run number before s).2.device.Promoted := by
  obtain ⟨st, loaded⟩ := Option.isSome_iff_exists.mp failed.loaded
  rw [afterDiscovery, Act.device_bind]
  simp only [failed.going, Bool.false_eq_true, if_false]
  rw [Act.bind_apply]
  have woken : (wake run s).1 = (s.device.session run).takePermit :=
    Device.session_modifySession _ failed.here _
  have stage : (wake run s).1.stage = .failed := by
    rw [woken]
    exact failed.stage
  rw [stage]
  exact promoted_fail (s := (wake run s).2) failed.refuses loaded known

/-- A run that starts from settings which count as those of a network fails at once. -/
theorem beginWith_refused (refuses : s.board.hardware.Refuses)
    (loaded : s.device.store.loaded = some st) (known : st.system.configured ≠ .unconfigured)
    (bypass : st.system.bypass ≠ .join) (going : s.device.givesUp run st = false) :
    (beginWith run st s).2.device.Promoted ∨
      ∃ t number before, beginWith run st s = (.waiting (.discovering number before), t) ∧
        before.configured ≠ .unconfigured ∧ t.Failed run := by
  let before := { st.system with bypass := .no }
  have known : before.configured ≠ .unconfigured := known
  cases asked : st.system.bypass with
  | join => exact absurd asked bypass
  | softAp =>
      left
      simp only [beginWith, asked, ne_eq, reduceCtorEq, not_false_eq_true, if_true]
      rw [Act.bind_apply, Act.bind_apply, Act.bind_apply]
      let cleared := ((discard commit.run : Act Unit)
        (setSettings (st.modifySystem fun _ => before) s).2).2
      have quiet := quiet_hook .configWillStart cleared
      have refuses : (hook .configWillStart cleared).2.board.hardware.Refuses := by
        rw [quiet.hardware]
        exact refuses
      have loaded : (hook .configWillStart cleared).2.device.store.loaded =
          some (st.modifySystem fun _ => before) := by
        rw [quiet.device]
        rfl
      exact promoted_openSoftAp refuses loaded known
  | no =>
      simp only [beginWith, asked, ne_eq, not_true_eq_false, if_false]
      rw [Act.bind_apply, Act.device_bind]
      have quiet := quiet_hook .configWillStart s
      generalize (hook .configWillStart s).2 = t at quiet ⊢
      rw [← quiet.hardware] at refuses
      rw [← quiet.device] at loaded going
      cases chosen : (t.device.runs[run]?).bind (·.method) with
      | none => exact .inl (promoted_openSoftAp refuses loaded known)
      | some method =>
          obtain ⟨r, registered, -⟩ := Option.bind_eq_some_iff.mp chosen
          have here := (List.getElem?_eq_some_iff.mp registered).1
          have going (left : 1 ≤ t.device.options.maxAttempts) :
              t.device.isCancelled run = false := by
            simpa [Device.givesUp, asked, chosen, left] using going
          refine (attempt_refused refuses loaded known here going).imp_right fun tried => ?_
          obtain ⟨u, waits, failed⟩ := tried
          exact ⟨u, 1, before, waits, known, failed⟩

theorem begin_refused (refuses : s.board.hardware.Refuses)
    (loaded : s.device.store.loaded = some st) (known : st.system.configured ≠ .unconfigured)
    (bypass : st.system.bypass ≠ .join) (going : s.device.givesUp run st = false) :
    (begin run s).2.device.Promoted ∨
      ∃ t number before, begin run s = (.waiting (.discovering number before), t) ∧
        before.configured ≠ .unconfigured ∧ t.Failed run := by
  rw [begin, Act.device_bind]
  dsimp only
  split
  · rw [Act.bind_apply, Act.device_bind]
    let t := (announce .station s).2
    have same : t.device.store.loaded = some st := loaded
    simp only [t] at same
    simp only [same]
    exact beginWith_refused (s := t) refuses loaded known bypass going
  · rw [Act.device_bind]
    simp only [loaded]
    exact beginWith_refused refuses loaded known bypass going

/-! Up to the next wait point -/

theorem promoted_resume {wait : RunWait} (promoted : (proceed run wait s).2.device.Promoted) :
    (resume run wait s).2.device.Promoted := by
  rw [resume_apply]
  generalize proceed run wait s = result at promoted ⊢
  obtain ⟨x, t⟩ := result
  cases x with
  | waiting wait => exact promoted
  | ended outcome =>
      rw [device_close]
      exact promoted

theorem resume_refused (refuses : s.board.hardware.Refuses)
    (loaded : s.device.store.loaded = some st) (known : st.system.configured ≠ .unconfigured)
    (bypass : st.system.bypass ≠ .join) (going : s.device.givesUp run st = false) :
    (resume run .start s).2.device.Promoted ∨
      ∃ number before, (resume run .start s).1 = some (.discovering number before) ∧
        before.configured ≠ .unconfigured ∧ (resume run .start s).2.Failed run := by
  refine (begin_refused refuses loaded known bypass going).imp promoted_resume ?_
  rintro ⟨t, number, before, waits, known, failed⟩
  have resumed : resume run .start s = (some (.discovering number before), t) := by
    rw [resume, Act.bind_apply, proceed, waits]
    rfl
  rw [resumed]
  exact ⟨number, before, rfl, known, failed⟩

end Provisioning

end ConnectedDevice
