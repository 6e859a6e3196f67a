import ConnectedDevice.Proofs.World.Law

/-!
The application beside the events. Under the lock of a store it changes what is loaded, through the
setters of the settings or field by field; a store that was not loaded gives no lock.
-/

namespace ConnectedDevice

/-- What an application does under the lock of a store. -/
inductive Edit where
  | credentials (ssid key : String)
  | staticIp (localIp netmask gateway dns : String)
  | rename (name : String)
  | advance (next : ConfigState)
  | reconfigure
  | restoreDefaults
  | observe (status : RuntimeStatus)
  /-- without a setter -/
  | write (f : ConfigRecord → ConfigRecord)

namespace Edit

def apply : Edit → Settings → Settings
  | .credentials ssid key, s => s.modifySystem (·.setCredentials ssid key)
  | .staticIp localIp netmask gateway dns, s =>
    s.modifySystem (·.setStaticIp localIp netmask gateway dns)
  | .rename name, s => s.modifySystem (·.setName name)
  | .advance next, s => s.modifySystem (·.advance next)
  | .reconfigure, s => s.modifySystem (·.requestReconfiguration)
  | .restoreDefaults, s => { s with record := s.record.restoreDefaults }
  | .observe status, s => { s with status }
  | .write f, s => { s with record := f s.record }

def IsSetter : Edit → Prop
  | .write _ => False
  | _ => True

/-- The version of the defaults and the size of the application data stay. -/
def KeepsShape (x : Edit) : Prop :=
  ∀ s, (x.apply s).system.seed = s.system.seed ∧
    (x.apply s).record.appConfig.length = s.record.appConfig.length

theorem IsSetter.keepsShape {x : Edit} (setter : x.IsSetter) : x.KeepsShape := by
  intro s
  cases x with
  | write f => exact setter.elim
  | advance next =>
      refine ⟨?_, rfl⟩
      simp only [apply, Settings.modifySystem, Settings.system, SystemConfig.advance]
      split <;> rfl
  | reconfigure =>
      refine ⟨?_, rfl⟩
      simp only [apply, Settings.modifySystem, Settings.system,
        SystemConfig.requestReconfiguration]
      split <;> rfl
  | restoreDefaults => exact ⟨rfl, List.length_replicate⟩
  | _ => exact ⟨rfl, rfl⟩

end Edit

def Store.edit (x : Edit) (s : Store) : Store := { s with loaded := s.loaded.map x.apply }

def Device.edit (x : Edit) (d : Device) : Device := { d with store := d.store.edit x }

namespace Scene

def edit (p : Scene) (i : Nat) (x : Edit) : Scene :=
  { p with world := { p.world with devices := p.world.devices.modify i (·.edit x) } }

/-- The scenes that can come about by events of a kind and by edits of a kind. -/
inductive Reached (may : Scene → Event → Bool) (edits : Edit → Prop) (start : Scene) : Scene → Prop
  | start : Reached may edits start start
  | step {p : Scene} {e : Event} :
      Reached may edits start p → p.permits e → may p e → Reached may edits start (p.step e)
  | edit {p : Scene} {x : Edit} (i : Nat) :
      Reached may edits start p → edits x → Reached may edits start (p.edit i x)

variable {may : Scene → Event → Bool} {edits : Edit → Prop} {p q : Scene}

theorem Reachable.reached (reachable : Reachable may p q) : Reached may edits p q := by
  induction reachable with
  | start => exact .start
  | step _ permits allowed ih => exact .step ih permits allowed

theorem mem_edit {i : Nat} {x : Edit} {d : Device} (found : d ∈ (p.edit i x).world.devices) :
    ∃ old ∈ p.world.devices, d = old ∨ d = old.edit x := by
  obtain ⟨j, here⟩ := List.mem_iff_getElem?.mp found
  simp only [edit, List.getElem?_modify] at here
  obtain ⟨old, there, same⟩ := Option.map_eq_some_iff.mp here
  refine ⟨old, List.mem_of_getElem? there, ?_⟩
  split at same
  · exact .inr same.symm
  · exact .inl same.symm

theorem isEnding_edit {i j : Nat} {x : Edit} {t : Task} (told : p.world.isEnding j t) :
    (p.edit i x).world.isEnding j t := by
  obtain ⟨d, here, told⟩ := (Option.any_eq_true _ _).mp told
  have there : (p.edit i x).world.devices[j]? = some (if i = j then d.edit x else d) := by
    simp only [edit, List.getElem?_modify, here]
    split <;> rfl
  refine World.isEnding_of_getElem? there ?_
  split
  · cases t <;> exact told
  · exact told

end Scene

namespace Law

variable {L : Law} {p q : Scene} {x : Edit}

theorem OnWorld.edit {i : Nat} (law : L.OnWorld p.world)
    (keeps : ∀ s, L.store s → L.store (s.edit x)) : L.OnWorld (p.edit i x).world := by
  refine ⟨law.flash, fun d found => ?_, fun j t found => ?_⟩
  · obtain ⟨old, there, rfl | rfl⟩ := Scene.mem_edit found
    · exact law.devices d there
    · have known := law.devices old there
      exact ⟨keeps old.store known.store, known.outcomes⟩
  · exact (law.tasks j t found).imp_left Scene.isEnding_edit

theorem OnWorld.reached {may : Scene → Event → Bool} {edits : Edit → Prop}
    (law : L.OnWorld p.world) (reached : Scene.Reached may edits p q)
    (step : ∀ q e, q.permits e → may q e → L.OnWorld q.world → L.OnWorld (q.step e).world)
    (keeps : ∀ x, edits x → ∀ s, L.store s → L.store (s.edit x)) : L.OnWorld q.world := by
  induction reached with
  | start => exact law
  | step _ permits allowed ih => exact step _ _ permits allowed ih
  | edit i _ allowed ih => exact ih.edit (keeps _ allowed)

end Law
end ConnectedDevice
