import ConnectedDevice.Proofs.Device.Registrations
import ConnectedDevice.Proofs.World.Conduct

/-!
The registrations of all systems on a board. Whatever happens, those of a system change only where
it deals itself, or where the application removes them. Handlers of runs come with their run and go
with it, and so at any time only the run of a system that goes on hears anything.
-/

namespace ConnectedDevice

/-- The run goes on, and knows that it is registered. -/
def Device.Lists (d : Device) (run : Nat) (key : NotificationKind × Nat) : Prop :=
  ∃ r, d.runs[run]? = some r ∧ r.outcome = none ∧ key ∈ r.subscriptions

namespace World

/-- Every handler of a run belongs to one that goes on and that lists it. -/
def Tidy (w : World) : Prop :=
  ∀ x ∈ w.board.center.subscriptions, ∀ i run, x.callback = .provisioning i run →
    ∃ d, w.devices[i]? = some d ∧ d.Lists run x.key

/-- The registrations of all systems are in order, and no other system has any. -/
structure Filed (w : World) : Prop where
  numbered : ∀ x ∈ w.board.center.subscriptions, x.id < w.board.center.nextId
  site : ∀ {i : Nat} {d : Device}, w.devices[i]? = some d → Site.Filed ⟨i, w.board, d, []⟩
  known : ∀ x ∈ w.board.center.subscriptions, ∀ i, x.callback.party? = some i →
    i < w.devices.length

/-- If one system deals, only its registrations change. -/
def MovesOf (who : Option Nat) (c later : Center Handler) : Prop :=
  Center.Moves (fun h => ∀ i, who = some i → h.party? = some i) (·.party? = who) c later

variable {w u : World} {i : Nat} {d : Device} {who : Option Nat} {may : Dealing → Prop}
  {asked : List PowerState}

theorem Filed.tidy (filed : w.Filed) : w.Tidy := by
  intro x found i run callback
  have inside := filed.known x found i (callback ▸ rfl)
  have here := List.getElem?_eq_getElem inside
  obtain ⟨listed, r, there, goes⟩ := (filed.site here).held x found (some run) callback
  refine ⟨_, here, r, there, goes, ?_⟩
  have there : (w.devices[i]).runs[run]? = some r := there
  simpa [Device.keys, there] using listed

theorem Filed.enter {α : Type} {act : Act α} (filed : w.Filed) (here : w.devices[i]? = some d)
    (files : Site.Files ⟨i, w.board, d, []⟩ (act ⟨i, w.board, d, []⟩).2) :
    (w.enter i d act).2.Filed := by
  obtain ⟨index, own, moves⟩ := files
  refine ⟨own.numbered, fun {j e} there => ?_, fun x found j party => ?_⟩
  · by_cases same : i = j
    · subst same
      cases (devices_enter act here).symm.trans there
      let t := (act ⟨i, w.board, d, []⟩).2
      exact (own.retains (t := ⟨i, t.board, t.device, []⟩) index.symm rfl (.refl _)).2.1
    · refine (filed.site ((List.getElem?_set_ne same).symm.trans there)).moves rfl rfl moves ?_
      intro h party other
      exact same (Option.some_inj.mp (party.symm.trans other))
  · have length : (w.enter i d act).2.devices.length = w.devices.length := List.length_set
    rw [length]
    rcases moves.mem found with before | ⟨comes, -, -⟩
    · exact filed.known x before j party
    · cases comes.symm.trans party
      exact (List.getElem?_eq_some_iff.mp here).1

theorem Filed.board {b : Board} {goes comes : Handler → Prop} (filed : w.Filed)
    (moves : Center.Moves goes comes w.board.center b.center)
    (others : ∀ h, comes h → h.party? = none) : Filed { w with board := b } where
  numbered x found := by
    rcases moves.mem found with before | ⟨-, -, below⟩
    · exact Nat.lt_of_lt_of_le (filed.numbered x before) moves.numbers
    · exact below
  site here := (filed.site here).moves rfl rfl moves fun h comes => by simp [others h comes]
  known x found j party := by
    rcases moves.mem found with before | ⟨comes, -, -⟩
    · exact filed.known x before j party
    · cases (others _ comes).symm.trans party

theorem Conduct.files (conduct : w.Conduct who may asked u) (filed : w.Filed) :
    u.Filed ∧ MovesOf who w.board.center u.board.center := by
  induction conduct with
  | refl w => exact ⟨filed, .refl _⟩
  | trans _ _ first second =>
      obtain ⟨between, moves⟩ := first filed
      obtain ⟨after, others⟩ := second between
      exact ⟨after, moves.trans others⟩
  | @enter _ w i d _ act here conduct =>
      have files := conduct.files (filed.site here)
      refine ⟨filed.enter here files, ?_⟩
      by_cases deals : who = some i
      · subst deals
        refine files.2.2.mono (fun h party j same => ?_) fun _ => id
        exact party.trans same
      · have aside := conduct.isAside fun _ deal => deals deal.1
        have center : (w.enter i d act).2.board.center = w.board.center := aside.center
        exact center ▸ .refl _
  | @board w b _ center _ =>
      have moves : MovesOf none w.board.center b.center := center ▸ .refl _
      exact ⟨filed.board moves fun _ => id, center ▸ .refl _⟩
  | center nobody moves =>
      subst nobody
      exact ⟨filed.board moves fun _ => id, moves.mono (fun _ _ => nofun) fun _ => id⟩
  | @step w k i t next _ _ _ =>
      cases next with
      | waits next => exact ⟨⟨filed.numbered, filed.site, filed.known⟩, .refl _⟩
      | ends result => exact ⟨⟨filed.numbered, filed.site, filed.known⟩, .refl _⟩

/-- A system that was not started yet has no registrations. -/
theorem Filed.append (filed : w.Filed) (options : Options) (info : DeviceInfo) (hooked : Bool) :
    Filed { w with devices := w.devices ++ [.make options info hooked] } where
  numbered := filed.numbered
  site {i d} here := by
    rcases Nat.lt_or_ge i w.devices.length with inside | beyond
    · rw [List.getElem?_append_left inside] at here
      exact filed.site here
    · rw [List.getElem?_append_right beyond] at here
      obtain rfl := List.mem_singleton.mp (List.mem_of_getElem? here)
      have nothing (role : Option Nat) : (Device.make options info hooked).keys role = [] := by
        cases role <;> rfl
      refine ⟨filed.numbered, fun role key found => ?_, fun x _ role listed => ?_,
        fun x found role callback => ?_, nofun⟩
      · simp [nothing] at found
      · simp [nothing] at listed
      · have inside := filed.known x found i (callback ▸ Handler.party?_of i role)
        omega
  known x found i party := by
    have inside := filed.known x found i party
    simp only [List.length_append]
    omega

end World

namespace Scene

open World

variable {p : Scene} {e : Event}

theorem files_step (manned : p.world.Manned) (permits : p.permits e) (powered : e ≠ .powerLoss)
    (filed : p.world.Filed) : (p.step e).world.Filed ∧
      MovesOf (p.party? e) p.world.board.center (p.step e).world.board.center := by
  by_cases boots : ∃ options info hooked, e = .boot options info hooked
  · obtain ⟨options, info, hooked, rfl⟩ := boots
    exact conduct_boot.files (filed.append options info hooked)
  obtain ⟨asked, -, conduct⟩ := conduct_step manned permits powered
    fun options info hooked same => boots ⟨options, info, hooked, same⟩
  exact conduct.files filed

theorem filed_step (manned : p.world.Manned) (permits : p.permits e) (filed : p.world.Filed) :
    (p.step e).world.Filed := by
  by_cases powered : e = .powerLoss
  · subst powered
    exact ⟨fun _ => nofun, nofun, fun _ => nofun⟩
  exact (files_step manned permits powered filed).1

theorem filed_onBoard {board : Board} (empty : board.center.subscriptions = []) :
    (onBoard board).world.Filed := by
  have nobody : (onBoard board).world.board.center.subscriptions = [] := empty
  exact ⟨by simp [nobody], nofun, by simp [nobody]⟩

theorem filed_reachable {board : Board} {may : Scene → Event → Bool}
    (empty : board.center.subscriptions = [])
    (reachable : Reachable may (onBoard board) p) : p.world.Filed :=
  reachable.invariant (filed_onBoard empty) fun _ _ before permits _ filed =>
    filed_step (orderly_reachable before).manned permits filed

theorem filed_run {q : Scene} {may : Scene → Event → Bool} {events : List Event}
    (orderly : p.world.Orderly) (filed : p.world.Filed) (ran : p.run may events = some q) :
    q.world.Filed := by
  induction events generalizing p with
  | nil =>
      cases ran
      exact filed
  | cons e events ih =>
      obtain ⟨permits, -, ran⟩ := run_cons ran
      exact ih (orderly_step orderly permits) (filed_step orderly.manned permits filed) ran

theorem tidy_reachable {board : Board} {may : Scene → Event → Bool}
    (empty : board.center.subscriptions = [])
    (reachable : Reachable may (onBoard board) p) : p.world.Tidy :=
  (filed_reachable empty reachable).tidy

end Scene

namespace World

variable {w : World} {kind : NotificationKind} {i run : Nat}

/-- A run that hears anything is the one that waits. -/
theorem Tidy.waits_of_listens (tidy : w.Tidy) (orderly : w.Orderly)
    (listens : w.Listens kind i run) : ∃ wait, w.waits i = [(run, wait)] := by
  obtain ⟨x, found, callback⟩ := List.mem_map.mp listens
  obtain ⟨d, here, r, there, goes, -⟩ := tidy x (List.mem_filter.mp found).1 i run callback
  have entry : d.ledger[run]? = some (r.method, none) := by simp [Device.ledger, there, goes]
  have going := ((orderly.device here).outcome entry).mp rfl
  obtain ⟨⟨_, wait⟩, waits, rfl⟩ := List.mem_map.mp going
  exact ⟨wait, orderly.waits_eq here waits⟩

end World
end ConnectedDevice
