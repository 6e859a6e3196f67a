import ConnectedDevice.Proofs.World.Orderly

/-!
How far runs came. A run stays where it waits, and as it ended, until it takes a step itself. Its
system keeps its options, and settings that were loaded once.
-/

namespace ConnectedDevice

open Provisioning (Progress)

def Device.outcome? (d : Device) (run : Nat) : Option Outcome := (d.runs[run]?).bind (·.outcome)

def Device.progress? (d : Device) (waits : List (Nat × RunWait)) (run : Nat) : Option Progress :=
  ((waits.lookup run).map .waiting).or ((d.outcome? run).map .ended)

def World.progress? (w : World) (i run : Nat) : Option Progress :=
  (w.devices[i]?).bind fun d => d.progress? (w.waits i) run

namespace Device

variable {d : Device} {waits : List (Nat × RunWait)} {run : Nat} {wait : RunWait}

theorem outcome?_eq_ledger : d.outcome? run = (d.ledger[run]?).bind (·.2) := by
  rw [outcome?, ledger, List.getElem?_map]
  cases d.runs[run]? <;> rfl

theorem Orderly.lookup_eq_none {o : Outcome} (orderly : d.OrderlyWith waits)
    (ended : d.outcome? run = some o) : waits.lookup run = none := by
  refine List.lookup_eq_none_iff.mpr fun waiting found => ?_
  rw [outcome?_eq_ledger] at ended
  obtain ⟨⟨method, outcome⟩, here, rfl⟩ := Option.bind_eq_some_iff.mp ended
  refine bne_iff_ne.mpr fun same => ?_
  subst same
  cases (orderly.outcome here).mpr (List.mem_map.mpr ⟨_, found, rfl⟩)

end Device

namespace World

variable {w : World} {i run : Nat} {wait : RunWait} {o : Outcome}

theorem Orderly.progress?_waiting (orderly : w.Orderly) :
    w.progress? i run = some (.waiting wait) ↔
      ∃ d, w.devices[i]? = some d ∧ w.waits i = [(run, wait)] := by
  constructor
  · intro waits
    obtain ⟨d, here, waits⟩ := Option.bind_eq_some_iff.mp waits
    refine ⟨d, here, ?_⟩
    rcases Option.or_eq_some_iff.mp waits with waits | ⟨-, ended⟩
    · obtain ⟨_, found, same⟩ := Option.map_eq_some_iff.mp waits
      cases same
      obtain ⟨_, _, split, -⟩ := List.lookup_eq_some_iff.mp found
      exact orderly.waits_eq here (split ▸ by simp)
    · obtain ⟨_, _, same⟩ := Option.map_eq_some_iff.mp ended
      cases same
  · rintro ⟨d, here, waits⟩
    simp [progress?, Device.progress?, here, waits]

theorem Orderly.progress?_ended (orderly : w.Orderly) :
    w.progress? i run = some (.ended o) ↔
      ∃ d, w.devices[i]? = some d ∧ d.outcome? run = some o := by
  constructor
  · intro ended
    obtain ⟨d, here, ended⟩ := Option.bind_eq_some_iff.mp ended
    refine ⟨d, here, ?_⟩
    rcases Option.or_eq_some_iff.mp ended with waits | ⟨-, ended⟩
    · obtain ⟨_, _, same⟩ := Option.map_eq_some_iff.mp waits
      cases same
    · obtain ⟨_, known, same⟩ := Option.map_eq_some_iff.mp ended
      cases same
      exact known
  · rintro ⟨d, here, ended⟩
    have gone := Device.Orderly.lookup_eq_none (orderly.device here) ended
    simp [progress?, Device.progress?, here, gone, ended]

end World

/-! What outlasts all deeds -/

theorem Device.options_kept (o : Options) : Kept (fun _ => True) fun d _ => d.options = o where
  same same known := same.options.trans known
  deed _ leaves known := by cases leaves <;> exact known

theorem Device.loaded_kept : Kept (fun _ => True) fun d _ => d.store.loaded.isSome where
  same same known := same.store ▸ known
  deed _ leaves known := by
    cases leaves with
    | change _ => simpa [Store.change] using known
    | load _ loaded => exact loaded
    | _ => exact known

/-- A run waits, and so it is the only one. -/
def Device.Waiting (run : Nat) (wait : RunWait) (d : Device) (ws : List (Nat × RunWait)) : Prop :=
  d.OrderlyWith ws ∧ ws = [(run, wait)]

theorem Device.waiting_kept {run : Nat} {wait : RunWait} :
    Kept Deed.IsForeign (Device.Waiting run wait) where
  same same known := ⟨Device.orderly_kept.same same known.1, known.2⟩
  deed {_ d _ _ new} foreign leaves known := by
    refine ⟨Device.orderly_kept.deed foreign leaves known.1, ?_⟩
    have nobody : new = [] := by
      cases leaves with
      | spawn t =>
          have forgets : t.run? = none := foreign
          simp [forgets]
      | enroll _ idle =>
          have count := known.1.count
          simp [known.2, idle] at count
      | _ => rfl
    simp [nobody, known.2]

theorem Device.ended_kept {run : Nat} {o : Outcome} :
    Kept (fun deed => ∀ other, deed ≠ .close run other) fun d _ => d.outcome? run = some o where
  same same known := by
    rw [outcome?_eq_ledger] at known ⊢
    rwa [same.ledger]
  deed {_ d _ _ _} spares leaves known := by
    obtain ⟨r, here, ended⟩ := Option.bind_eq_some_iff.mp known
    cases leaves with
    | enroll subscriptions _ =>
        have inside := (List.getElem?_eq_some_iff.mp here).1
        simp [outcome?, Device.enroll, List.getElem?_append_left inside, here, ended]
    | session other f =>
        simp only [outcome?, modifySession, modifyRun, List.getElem?_modify, here]
        split <;> exact ended
    | close other ended =>
        have apart : other ≠ run := by
          rintro rfl
          exact spares _ rfl
        simpa [outcome?, Device.close, modifyRun, List.getElem?_modify, here, apart]
    | _ => exact known

namespace Scene

variable {p : Scene} {e : Event} {i run : Nat} {d : Device}

/-- A run that waits, or that ended, does so until it takes a step. -/
theorem progress?_step {x : Progress} (orderly : p.world.Orderly) (permits : p.permits e)
    (powered : e ≠ .powerLoss) (progress : p.world.progress? i run = some x)
    (other : ∀ wait, p.goesOn? e ≠ some (i, run, wait)) :
    (p.step e).world.progress? i run = some x := by
  have later := orderly_step orderly permits
  cases x with
  | waiting wait =>
      obtain ⟨d, here, waits⟩ := orderly.progress?_waiting.mp progress
      -- No other run of the system can step, since no other one waits.
      have steps : ¬p.StepsRun e i := by
        rintro ⟨run', wait', goes⟩
        obtain ⟨k, rfl, task⟩ := goesOn?_eq_some.mp goes
        have found := World.mem_waits task
        rw [waits] at found
        cases List.mem_singleton.mp found
        exact other _ goes
      have kept : Kept (p.Does e i) (Device.Waiting run wait) :=
        Device.waiting_kept.mono fun _ does => does.isForeign steps
      obtain ⟨d, here, -, waits⟩ :=
        holds_step permits powered steps kept ⟨d, here, orderly.device here, waits⟩
      exact later.progress?_waiting.mpr ⟨d, here, waits⟩
  | ended o =>
      obtain ⟨d, here, ended⟩ := orderly.progress?_ended.mp progress
      have spares (deed : Deed) (does : p.Does e i deed) (o : Outcome) : deed ≠ .close run o := by
        rintro rfl
        cases does with
        | handle may => cases may
        | goOn task _ may =>
            cases may with
            | proceed may => cases may
            | close _ => exact other _ (goesOn?_eq_some.mpr ⟨_, rfl, task⟩)
        | boot boots => cases boots
        | answer may => cases may
        | receive _ receives => cases receives
        | finish _ finishes => cases finishes
      obtain ⟨d, here, ended⟩ :=
        device_step permits powered (Device.ended_kept.mono spares) here ended
      exact later.progress?_ended.mpr ⟨d, here, ended⟩

end Scene
end ConnectedDevice
