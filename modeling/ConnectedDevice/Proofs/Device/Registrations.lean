import ConnectedDevice.Proofs.Device.Conduct

/-!
The registrations of a system and of its runs. Whoever holds a registration lists it, and nobody
else does; it is there only as long as its holder goes on.
-/

namespace ConnectedDevice

/-- The handler of a system, or of one of its runs. -/
def Handler.of (i : Nat) : Option Nat → Handler
  | none => .system i
  | some run => .provisioning i run

namespace Device

/-- The registrations that the system lists, or one of its runs. -/
def keys (d : Device) : Option Nat → List (NotificationKind × Nat)
  | none => d.subscriptions
  | some run => ((d.runs[run]?).map (·.subscriptions)).getD []

def GoesOn (d : Device) : Option Nat → Prop
  | none => d.stopped = false
  | some run => ∃ r, d.runs[run]? = some r ∧ r.outcome = none

end Device

/-- The registrations of a system are in order. -/
structure Site.Filed (s : Site) : Prop where
  numbered : ∀ x ∈ s.board.center.subscriptions, x.id < s.board.center.nextId
  listed : ∀ role, ∀ key ∈ s.device.keys role, key.2 < s.board.center.nextId
  /-- what is listed is registered for nobody else -/
  own : ∀ x ∈ s.board.center.subscriptions, ∀ role, x.key ∈ s.device.keys role →
    x.callback = .of s.index role
  held : ∀ x ∈ s.board.center.subscriptions, ∀ role, x.callback = .of s.index role →
    x.key ∈ s.device.keys role ∧ s.device.GoesOn role
  kinds : ∀ r ∈ s.device.runs, r.subscriptions.map (·.1) = Provisioning.kinds

theorem Handler.party?_eq_some {h : Handler} {i : Nat} :
    h.party? = some i ↔ ∃ role, h = .of i role := by
  constructor
  · intro known
    cases h with
    | application label => cases known
    | system j =>
        cases known
        exact ⟨none, rfl⟩
    | provisioning j run =>
        cases known
        exact ⟨some run, rfl⟩
  · rintro ⟨role, rfl⟩
    cases role <;> rfl

theorem Handler.party?_of (i : Nat) (role : Option Nat) : (Handler.of i role).party? = some i :=
  party?_eq_some.mpr ⟨role, rfl⟩

theorem Handler.of_inj {i : Nat} {role other : Option Nat} :
    Handler.of i role = .of i other ↔ role = other := by
  constructor
  · intro same
    cases role <;> cases other <;> cases same <;> rfl
  · rintro rfl
    rfl

namespace Device

variable {d later : Device} {role : Option Nat}

theorem Retains.keys (retains : d.Retains later) (role : Option Nat) :
    later.keys role = d.keys role := by
  cases role with
  | none => exact retains.subscriptions
  | some run =>
      have same := congrArg (fun l => (l[run]?).map (·.2)) retains.runs
      simp only [List.getElem?_map, Option.map_map, Function.comp_def] at same
      exact congrArg (Option.getD · []) same

theorem Retains.goesOn (retains : d.Retains later) (goes : d.GoesOn role) : later.GoesOn role := by
  cases role with
  | none => exact retains.stopped.trans goes
  | some run =>
      obtain ⟨r, here, going⟩ := goes
      have same := congrArg (fun l => (l[run]?).map (·.1)) retains.runs
      simp only [List.getElem?_map, Option.map_map, Function.comp_def, here, Option.map_some]
        at same
      obtain ⟨l, there, kept⟩ := Option.map_eq_some_iff.mp same
      exact ⟨l, there, kept.trans going⟩

theorem Retains.kinds (retains : d.Retains later)
    (kinds : ∀ r ∈ d.runs, r.subscriptions.map (·.1) = Provisioning.kinds) :
    ∀ r ∈ later.runs, r.subscriptions.map (·.1) = Provisioning.kinds := by
  intro r found
  have there : (r.outcome, r.subscriptions) ∈
      later.runs.map fun r => (r.outcome, r.subscriptions) := List.mem_map_of_mem found
  rw [retains.runs] at there
  obtain ⟨first, here, same⟩ := List.mem_map.mp there
  have listed : first.subscriptions = r.subscriptions := (Prod.ext_iff.mp same).2
  exact listed ▸ kinds first here

end Device

namespace Site

variable {s t u : Site} {keys : List (NotificationKind × Nat)} {may : Dealing → Prop}
  {asked : List PowerState}

/-- The center changes by registrations of the system alone. -/
def Files (s t : Site) : Prop :=
  t.index = s.index ∧ t.Filed ∧
    Center.Moves (·.party? = some s.index) (·.party? = some s.index) s.board.center t.board.center

theorem Filed.retains (filed : s.Filed) (index : t.index = s.index)
    (center : t.board.center = s.board.center) (retains : s.device.Retains t.device) :
    s.Files t := by
  refine ⟨index, ⟨?_, ?_, ?_, ?_, retains.kinds filed.kinds⟩, center ▸ .refl _⟩
  · exact center ▸ filed.numbered
  · intro role key found
    rw [retains.keys] at found
    exact center ▸ filed.listed role key found
  · intro x found role listed
    rw [retains.keys] at listed
    exact index ▸ filed.own x (center ▸ found) role listed
  · intro x found role callback
    obtain ⟨listed, goes⟩ := filed.held x (center ▸ found) role (index ▸ callback)
    rw [retains.keys]
    exact ⟨listed, retains.goesOn goes⟩

/-- What was registered and taken back at once leaves no trace but for the numbers. -/
theorem Registers.retracted {h : Handler} (registers : s.Registers h t keys)
    (numbered : ∀ x ∈ s.board.center.subscriptions, x.id < s.board.center.nextId) :
    (Act.unregister keys t).2.board.center.subscriptions = s.board.center.subscriptions := by
  obtain ⟨-, -, new, same, rfl, came⟩ := registers
  have stay : s.board.center.subscriptions.filter (·.key ∉ new.map (·.key)) =
      s.board.center.subscriptions := by
    refine List.filter_eq_self.mpr fun x found => decide_eq_true fun listed => ?_
    obtain ⟨y, made, key⟩ := List.mem_map.mp listed
    have older : x.id < y.id := Nat.lt_of_lt_of_le (numbered x found) (came y made).2.1
    exact Subscription.key_ne older key
  have go : new.filter (·.key ∉ new.map (·.key)) = [] := by
    refine List.filter_eq_nil_iff.mpr fun x found => ?_
    simpa using ⟨x, found, rfl⟩
  rw [Act.unregister_apply]
  simp only [same, List.filter_append, stay, go, List.append_nil]

/-- A new registration is listed nowhere. -/
theorem Filed.unlisted {x : Subscription Handler} (filed : s.Filed)
    (new : s.board.center.nextId ≤ x.id) (role : Option Nat) : x.key ∉ s.device.keys role :=
  fun listed => absurd (filed.listed role x.key listed) (Nat.not_lt.mpr new)

/-- Others may register and remove what they like, but for the system. -/
theorem Filed.moves {goes comes : Handler → Prop} (filed : s.Filed) (index : t.index = s.index)
    (device : t.device = s.device)
    (moves : Center.Moves goes comes s.board.center t.board.center)
    (others : ∀ h, comes h → h.party? ≠ some s.index) : t.Filed where
  numbered x found := by
    rcases moves.mem found with before | ⟨-, -, below⟩
    · exact Nat.lt_of_lt_of_le (filed.numbered x before) moves.numbers
    · exact below
  listed role key found :=
    Nat.lt_of_lt_of_le (filed.listed role key (device ▸ found)) moves.numbers
  own x found role listed := by
    rw [device] at listed
    rcases moves.mem found with before | ⟨-, above, -⟩
    · exact index ▸ filed.own x before role listed
    · exact absurd listed (filed.unlisted above role)
  held x found role callback := by
    rw [index] at callback
    rcases moves.mem found with before | ⟨comes, -, -⟩
    · exact device ▸ filed.held x before role callback
    · exact absurd (callback ▸ Handler.party?_of _ role) (others _ comes)
  kinds := device ▸ filed.kinds

/-- A role of the system is taken, with what was registered for it. -/
theorem Filed.takes (role : Option Nat) (filed : s.Filed)
    (registers : s.Registers (.of s.index role) t keys) (index : u.index = s.index)
    (center : u.board.center = t.board.center) (before : s.device.keys role = [])
    (now : u.device.keys role = keys)
    (others : ∀ other ≠ role, u.device.keys other = s.device.keys other)
    (goes : u.device.GoesOn role)
    (stay : ∀ other ≠ role, s.device.GoesOn other → u.device.GoesOn other)
    (kinds : ∀ r ∈ u.device.runs, r.subscriptions.map (·.1) = Provisioning.kinds) :
    s.Files u := by
  obtain ⟨-, numbers, new, same, rfl, came⟩ := registers
  rw [← center] at numbers same came
  have either {x : Subscription Handler} (found : x ∈ u.board.center.subscriptions) :
      x ∈ s.board.center.subscriptions ∨ x ∈ new := by
    rwa [← List.mem_append, ← same]
  have older {x y : Subscription Handler} (found : x ∈ s.board.center.subscriptions)
      (made : y ∈ new) : x.id < y.id :=
    Nat.lt_of_lt_of_le (filed.numbered x found) (came y made).2.1
  refine ⟨index, ⟨fun x found => ?_, fun other key found => ?_, fun x found other listed => ?_,
    fun x found other callback => ?_, kinds⟩, numbers, fun _ => true, new, ?_, by simp, ?_⟩
  · rcases either found with found | made
    · exact Nat.lt_of_lt_of_le (filed.numbered x found) numbers
    · exact (came x made).2.2
  · by_cases mine : other = role
    · subst mine
      obtain ⟨x, made, rfl⟩ := List.mem_map.mp (now ▸ found)
      exact (came x made).2.2
    · exact Nat.lt_of_lt_of_le (filed.listed other key (others other mine ▸ found)) numbers
  · rw [index]
    by_cases mine : other = role
    · subst mine
      obtain ⟨y, made, key⟩ := List.mem_map.mp (now ▸ listed)
      rcases either found with found | made
      · exact absurd key (Subscription.key_ne (older found made))
      · exact (came x made).1
    · rw [others other mine] at listed
      rcases either found with found | made
      · exact filed.own x found other listed
      · exact absurd listed (filed.unlisted (came x made).2.1 other)
  · rw [index] at callback
    by_cases mine : other = role
    · subst mine
      refine ⟨now ▸ ?_, goes⟩
      rcases either found with found | made
      · have listed := (filed.held x found other callback).1
        simp [before] at listed
      · exact List.mem_map_of_mem made
    · rcases either found with found | made
      · obtain ⟨listed, going⟩ := filed.held x found other callback
        exact ⟨others other mine ▸ listed, stay other mine going⟩
      · exact absurd (Handler.of_inj.mp ((came x made).1.symm.trans callback)).symm mine
  · simpa [List.filter_eq_self.mpr] using same
  · intro x made
    exact ⟨(came x made).1 ▸ Handler.party?_of _ role, (came x made).2⟩

/-- Nothing is left of what was registered and taken back at once. -/
theorem Filed.retracts {h : Handler} (filed : s.Filed) (registers : s.Registers h t keys) :
    s.Files (Act.unregister keys t).2 := by
  have retracted := registers.retracted filed.numbered
  obtain ⟨center, rfl⟩ := registers.rest
  have moves : Center.Moves (fun _ => False) (fun _ => False) s.board.center
      (Act.unregister keys { s with board := { s.board with center } }).2.board.center := by
    refine ⟨?_, fun _ => true, [], ?_, by simp, by simp⟩
    · rw [Act.unregister_apply]
      exact registers.numbers
    · rw [retracted, List.append_nil, List.filter_eq_self.mpr (by simp)]
  exact ⟨rfl, filed.moves rfl rfl moves (fun _ => False.elim),
    moves.mono (fun _ => False.elim) fun _ => False.elim⟩

theorem Filed.filter_keys (filed : s.Filed) (role : Option Nat) :
    s.board.center.subscriptions.filter (·.key ∉ s.device.keys role) =
      s.board.center.subscriptions.filter (·.callback ≠ .of s.index role) := by
  refine List.filter_congr fun x found => decide_eq_decide.mpr (not_congr ?_)
  exact ⟨filed.own x found role, fun callback => (filed.held x found role callback).1⟩

/-- A role of the system is given up, with its registrations and no other ones. -/
theorem Filed.gives (role : Option Nat) (filed : s.Filed) (index : t.index = s.index)
    (center : t.board.center = (Act.unregister (s.device.keys role) s).2.board.center)
    (same : ∀ other, t.device.keys other = s.device.keys other)
    (stay : ∀ other ≠ role, s.device.GoesOn other → t.device.GoesOn other)
    (kinds : ∀ r ∈ t.device.runs, r.subscriptions.map (·.1) = Provisioning.kinds) :
    s.Files t := by
  rw [Act.unregister_apply] at center
  have subscriptions : t.board.center.subscriptions =
      s.board.center.subscriptions.filter (·.callback ≠ .of s.index role) := by
    rw [center, ← filed.filter_keys]
  have kept {x : Subscription Handler} (found : x ∈ t.board.center.subscriptions) :
      x ∈ s.board.center.subscriptions ∧ x.callback ≠ .of s.index role := by
    rw [subscriptions, List.mem_filter] at found
    exact ⟨found.1, of_decide_eq_true found.2⟩
  have number : t.board.center.nextId = s.board.center.nextId := by rw [center]
  refine ⟨index, ⟨fun x found => ?_, fun other key found => ?_, fun x found other listed => ?_,
    fun x found other callback => ?_, kinds⟩, Nat.le_of_eq number.symm,
    fun x => x.callback ≠ .of s.index role, [], ?_, ?_, by simp⟩
  · exact number ▸ filed.numbered x (kept found).1
  · exact number ▸ filed.listed other key (same other ▸ found)
  · exact index ▸ filed.own x (kept found).1 other (same other ▸ listed)
  · rw [index] at callback
    have apart : other ≠ role := by
      rintro rfl
      exact (kept found).2 callback
    obtain ⟨listed, goes⟩ := filed.held x (kept found).1 other callback
    exact ⟨same other ▸ listed, stay other apart goes⟩
  · rw [subscriptions, List.append_nil]
  · intro x _ goes
    have callback : x.callback = .of s.index role := by simpa using goes
    exact callback ▸ Handler.party?_of _ role

/-! Roles -/

theorem keys_enroll {d : Device} {other : Option Nat} (apart : other ≠ some d.runs.length) :
    (d.enroll keys).keys other = d.keys other := by
  cases other with
  | none => rfl
  | some run =>
      have apart : run ≠ d.runs.length := fun same => apart (congrArg some same)
      rcases Nat.lt_or_ge run d.runs.length with inside | beyond
      · simp [Device.keys, Device.enroll, List.getElem?_append_left inside]
      · rw [Device.keys, Device.keys, List.getElem?_eq_none beyond,
          List.getElem?_eq_none (by simp [Device.enroll]; omega)]

theorem goesOn_enroll {d : Device} {other : Option Nat} (goes : d.GoesOn other) :
    (d.enroll keys).GoesOn other := by
  cases other with
  | none => exact goes
  | some run =>
      obtain ⟨r, here, going⟩ := goes
      have inside := (List.getElem?_eq_some_iff.mp here).1
      exact ⟨r, (List.getElem?_append_left inside).trans here, going⟩

theorem keys_close {d : Device} {run : Nat} {o : Outcome} (other : Option Nat) :
    (d.close run o).keys other = d.keys other := by
  cases other with
  | none => rfl
  | some run' =>
      simp only [Device.keys, Device.close, Device.modifyRun, List.getElem?_modify]
      cases d.runs[run']? with
      | none => rfl
      | some r => by_cases same : run = run' <;> simp [same]

theorem goesOn_close {d : Device} {run : Nat} {o : Outcome} {other : Option Nat}
    (apart : other ≠ some run) (goes : d.GoesOn other) : (d.close run o).GoesOn other := by
  cases other with
  | none => exact goes
  | some run' =>
      obtain ⟨r, here, going⟩ := goes
      have apart : run ≠ run' := fun same => apart (congrArg some same.symm)
      exact ⟨r, by simp [Device.close, Device.modifyRun, apart, here], going⟩

theorem Conduct.length_runs (conduct : s.Conduct may asked t) (enroll : ¬may .enroll) :
    t.device.runs.length = s.device.runs.length := by
  induction conduct with
  | aside aside => simpa using congrArg List.length aside.retains.runs
  | trans _ _ first second => exact second.trans first
  | take s _ => rw [Device.takePowerRequest_apply]
  | serve s _ | withdraw s _ | stop s _ => rfl
  | attach _ _ registers | retract _ registers =>
      obtain ⟨center, rfl⟩ := registers.rest
      rfl
  | enroll enrolls _ _ _ => exact absurd enrolls enroll
  | close s due _ => exact List.length_modify ..

theorem Conduct.files (conduct : s.Conduct may asked t) (filed : s.Filed) : s.Files t := by
  induction conduct with
  | aside aside => exact filed.retains aside.index aside.center aside.retains
  | trans _ _ first second =>
      obtain ⟨same, between, moves⟩ := first filed
      obtain ⟨later, after, others⟩ := second between
      rw [same] at others
      exact ⟨later.trans same, after, moves.trans others⟩
  | take s _ =>
      rw [Device.takePowerRequest_apply]
      refine filed.retains rfl ?_ ⟨rfl, rfl, rfl⟩
      dsimp only
      split <;> rfl
  | serve s _ => exact filed.retains rfl rfl (.refl _)
  | withdraw s _ => exact filed.retains rfl rfl (.refl _)
  | @attach s t keys _ fresh registers =>
      obtain ⟨center, rfl⟩ := registers.rest
      refine filed.takes none registers rfl rfl fresh.subscriptions rfl
        (fun other apart => ?_) fresh.stopped (fun other apart goes => ?_) filed.kinds
      · cases other with
        | none => exact absurd rfl apart
        | some run => rfl
      · cases other with
        | none => exact absurd rfl apart
        | some run => exact goes
  | @enroll s t keys _ idle kinds registers =>
      obtain ⟨center, rfl⟩ := registers.rest
      refine filed.takes (some s.device.runs.length) registers rfl rfl (by simp [Device.keys])
        (by simp [Device.keys, Site.enroll, Device.enroll]) (fun _ => keys_enroll) ?_
        (fun _ _ => goesOn_enroll) ?_
      · exact ⟨_, List.getElem?_concat_length, rfl⟩
      · intro r found
        rcases List.mem_append.mp found with found | found
        · exact filed.kinds r found
        · rw [List.mem_singleton.mp found]
          exact kinds
  | retract _ registers => exact filed.retracts registers
  | @close s due run o _ =>
      refine filed.gives (some run) rfl rfl keys_close (fun _ => goesOn_close) ?_
      intro r found
      obtain ⟨k, here⟩ := List.mem_iff_getElem?.mp found
      simp only [closing, Device.close, Device.modifyRun, List.getElem?_modify] at here
      obtain ⟨first, before, rfl⟩ := Option.map_eq_some_iff.mp here
      have known := filed.kinds first (List.mem_of_getElem? before)
      split <;> exact known
  | stop s _ =>
      refine filed.gives none rfl rfl (fun other => ?_) (fun other apart goes => ?_)
        filed.kinds
      · cases other <;> rfl
      · cases other with
        | none => exact absurd rfl apart
        | some run => exact goes

end Site
end ConnectedDevice
