import ConnectedDevice.Proofs.Provisioning.Step

/-!
The commands of one provisioning run to the radio. Whatever the driver answers and whatever happens
between the steps of the run, its commands are a word of a small language, which says with each word
how far the run came: attempts of a discovery and a join, and at the end the soft access point or
the roll back.
-/

namespace ConnectedDevice

open Provisioning (Progress)

/-- What a run starts from. -/
structure Setup where
  options : Options
  system : SystemConfig

namespace Setup

def method? (setup : Setup) : Option DiscoveryMethod := setup.options.mode.discoveryMethod?

def opensSoftAp (setup : Setup) : Bool :=
  setup.system.bypass = .softAp || setup.options.mode.fallsBackToSoftAp

def discovery (setup : Setup) (method : DiscoveryMethod) : RadioCommand :=
  .startDiscovery method setup.options.discoveryTimeout

end Setup

theorem JoinParams.normal_rolledBack (system : SystemConfig) :
    JoinParams.normal system.cleared.rolledBack = .normal system := by
  unfold SystemConfig.rolledBack
  split <;> rfl

namespace Provisioning

variable (setup : Setup)

/-- The settings that the run started from decide how it goes back. -/
inductive Rollback : List Call → Outcome → Prop
  | rejoins (accepted : Bool) : setup.system.configured ≠ .unconfigured →
      Rollback [⟨.connect (.normal setup.system), accepted⟩] .rolledBack
  | off (accepted : Bool) : setup.system.configured = .unconfigured →
      Rollback [⟨.powerOff, accepted⟩] .poweredDown

/-- How far a run comes whose soft access point is open. -/
inductive Served : Progress → Prop
  | waits : Served (.waiting .softAp)
  | connected : Served (.ended .softApConnected)
  | cancelled : Served (.ended .cancelled)

inductive Tail : List Call → Progress → Prop
  | opened (mac : MacAddress) {x : Progress} : setup.opensSoftAp → Served x →
      Tail [⟨.startSoftAp (.fallback mac), true⟩] x
  | refused (mac : MacAddress) {calls : List Call} {o : Outcome} : setup.opensSoftAp →
      Rollback setup calls o → Tail (⟨.startSoftAp (.fallback mac), false⟩ :: calls) (.ended o)
  | backs {calls : List Call} {o : Outcome} : setup.opensSoftAp = false →
      Rollback setup calls o → Tail calls (.ended o)

/-- Discoveries whose networks were all tried to join. -/
inductive Attempts (method : DiscoveryMethod) : Nat → List Call → Prop
  | zero : Attempts method 0 []
  | succ {n : Nat} {calls : List Call} (system : SystemConfig) (started accepted : Bool) :
      Attempts method n calls → Attempts method (n + 1)
        (calls ++
          [⟨setup.discovery method, started⟩, ⟨.connect (.normal system), accepted⟩])

inductive Attempted (method : DiscoveryMethod) : List Call → Progress → Prop
  | discovering {n : Nat} {calls : List Call} (started : Bool) : n < setup.options.maxAttempts →
      Attempts setup method n calls → Attempted method
        (calls ++ [⟨setup.discovery method, started⟩])
        (.waiting (.discovering (n + 1) setup.system.cleared))
  | stopped {n : Nat} {calls : List Call} (started accepted : Bool) :
      n < setup.options.maxAttempts → Attempts setup method n calls → Attempted method
        (calls ++ [⟨setup.discovery method, started⟩, ⟨.stopDiscovery, accepted⟩])
        (.ended .cancelled)
  | failed {n : Nat} {calls tail : List Call} {x : Progress} (started : Bool) :
      n < setup.options.maxAttempts → Attempts setup method n calls → Tail setup tail x →
        Attempted method (calls ++ ⟨setup.discovery method, started⟩ :: tail) x
  | joining {n due : Nat} {calls : List Call} : n < setup.options.maxAttempts →
      Attempts setup method (n + 1) calls →
        Attempted method calls (.waiting (.joining (n + 1) due setup.system.cleared))
  | connected {n : Nat} {calls : List Call} : n < setup.options.maxAttempts →
      Attempts setup method (n + 1) calls → Attempted method calls (.ended .connected)
  | cancelled {n : Nat} {calls : List Call} : n < setup.options.maxAttempts →
      Attempts setup method (n + 1) calls → Attempted method calls (.ended .cancelled)
  | exhausted {calls tail : List Call} {x : Progress} :
      Attempts setup method setup.options.maxAttempts calls → Tail setup tail x →
        Attempted method (calls ++ tail) x

/-- What a run says from its start until it came so far. -/
inductive Protocol : List Call → Progress → Prop
  | bypassed (accepted : Bool) : setup.system.bypass = .join →
      Protocol [⟨.connect (.fast setup.system), accepted⟩] (.ended .bypassed)
  | direct {calls : List Call} {x : Progress} :
      setup.system.bypass = .softAp ∨ setup.system.bypass = .no ∧ setup.method? = none →
        Tail setup calls x → Protocol calls x
  | attempted {method : DiscoveryMethod} {calls : List Call} {x : Progress} :
      setup.system.bypass = .no → setup.method? = some method →
        Attempted setup method calls x → Protocol calls x

variable {setup : Setup} {v w : Outlook} {x : Progress}

/-! What a turn says -/

/-- What a run sees of what it started from. -/
structure Stands (setup : Setup) (v : Outlook) : Prop where
  options : v.options = setup.options
  method : v.method = setup.method?
  loaded : v.settings.isSome

/-- The outlook came about with some commands more. -/
def Said (v w : Outlook) (post : List Call → Prop) : Prop :=
  ∃ calls, w.calls = v.calls ++ calls ∧ post calls

theorem Said.mono {post other : List Call → Prop} (said : Said v w post)
    (implied : ∀ calls, post calls → other calls) : Said v w other :=
  let ⟨calls, same, known⟩ := said
  ⟨calls, same, implied calls known⟩

theorem Said.nothing {post : List Call → Prop} (same : w.calls = v.calls) (known : post []) :
    Said v w post := ⟨[], by simp [same], known⟩

theorem Said.after {post : List Call → Prop} {c : RadioCommand} (said : Said (v.say c) w post) :
    Said v w fun calls => ∃ rest, calls = ⟨c, v.hardware.accepts c⟩ :: rest ∧ post rest := by
  obtain ⟨rest, same, known⟩ := said
  exact ⟨_, by rw [same, Outlook.say, List.append_assoc]; rfl, rest, rfl, known⟩

theorem Backs.said {o : Outcome} (backs : Backs setup.system.cleared v o w)
    (loaded : v.settings.isSome) : Said v w fun calls => Rollback setup calls o := by
  cases backs with
  | unloaded missing => simp [missing] at loaded
  | off _ fresh => exact ⟨_, rfl, .off _ fresh⟩
  | rejoins _ known =>
      refine ⟨_, rfl, ?_⟩
      rw [JoinParams.normal_rolledBack]
      exact .rejoins _ known

theorem Opens.said (opens : Opens setup.system.cleared v x w) (loaded : v.settings.isSome)
    (allowed : setup.opensSoftAp) : Said v w fun calls => Tail setup calls x := by
  cases opens with
  | opens accepted =>
      refine ⟨_, rfl, ?_⟩
      have accepted : (v.withSession .fresh).hardware.accepts v.softAp = true := accepted
      rw [accepted]
      exact .opened _ allowed .waits
  | refused refused backs =>
      refine (backs.said loaded).after.mono ?_
      rintro calls ⟨rest, rfl, rollback⟩
      have refused : (v.withSession .fresh).hardware.accepts v.softAp = false := refused
      rw [refused]
      exact .refused _ allowed rollback

theorem Fails.said (fails : Fails setup.system.cleared v x w) (stands : Stands setup v)
    (bypass : setup.system.bypass = .no) : Said v w fun calls => Tail setup calls x := by
  cases fails with
  | opens falls opens =>
      rw [stands.options] at falls
      exact opens.said stands.loaded (by simp [Setup.opensSoftAp, falls])
  | backs falls backs =>
      rw [stands.options] at falls
      exact (backs.said stands.loaded).mono fun _ =>
        .backs (by simp [Setup.opensSoftAp, falls, bypass])

theorem Tries.said {method : DiscoveryMethod} {n : Nat} {done : List Call}
    (tries : Tries setup.system.cleared method (n + 1) v x w) (stands : Stands setup v)
    (bypass : setup.system.bypass = .no) (attempts : Attempts setup method n done)
    (most : n ≤ setup.options.maxAttempts) :
    Said v w fun calls => Attempted setup method (done ++ calls) x := by
  cases tries with
  | discovers left =>
      rw [stands.options] at left
      have command : v.discovery method = setup.discovery method := by
        rw [Outlook.discovery, stands.options]
        rfl
      refine ⟨_, rfl, ?_⟩
      rw [command]
      exact .discovering _ left attempts
  | fails none fails =>
      rw [stands.options] at none
      have all : n = setup.options.maxAttempts := by omega
      subst all
      exact (fails.said stands bypass).mono fun _ => .exhausted attempts

theorem Begins.said (begins : Begins v x w) (stands : Stands setup v)
    (system : v.settings.map (·.system) = some setup.system) :
    Said v w fun calls => Protocol setup calls x := by
  obtain ⟨st, loaded, same⟩ := Option.map_eq_some_iff.mp system
  cases begins with
  | unloaded missing => cases missing.symm.trans loaded
  | joins known bypass =>
      cases known.symm.trans loaded
      rw [same] at bypass
      refine ⟨_, rfl, ?_⟩
      rw [same]
      exact .bypassed _ bypass
  | opens known bypass opens =>
      cases known.symm.trans loaded
      rw [same] at bypass opens
      have said := opens.said (v := v.save st.clear) rfl (by simp [Setup.opensSoftAp, bypass])
      exact said.mono fun _ => .direct (.inl bypass)
  | opensWithout known bypass without opens =>
      cases known.symm.trans loaded
      rw [same] at bypass opens
      have without := stands.method.symm.trans without
      have allowed : setup.opensSoftAp := by
        simp only [Setup.method?] at without
        cases mode : setup.options.mode <;>
          simp [mode, ProvisioningMode.discoveryMethod?] at without
        simp [Setup.opensSoftAp, mode, ProvisioningMode.fallsBackToSoftAp]
      exact (opens.said stands.loaded allowed).mono fun _ => .direct (.inr ⟨bypass, without⟩)
  | tries known bypass chosen tries =>
      cases known.symm.trans loaded
      rw [same] at bypass tries
      have chosen := stands.method.symm.trans chosen
      exact (tries.said stands bypass .zero (Nat.zero_le _)).mono fun _ => .attempted bypass chosen

theorem Tail.turn {wait : RunWait} {done : List Call} (tail : Tail setup done (.waiting wait))
    (turn : Turn v wait x w) : w.calls = v.calls ∧ Tail setup done x := by
  obtain ⟨mac, allowed, served⟩ := tail
  cases served
  cases turn with
  | ends _ _ => exact ⟨rfl, .opened mac allowed .cancelled⟩
  | wakes _ _ wakes =>
      cases wakes with
      | served _ => exact ⟨rfl, .opened mac allowed .connected⟩
      | serves _ => exact ⟨rfl, .opened mac allowed .waits⟩

theorem Attempted.turn {method : DiscoveryMethod} {wait : RunWait} {done : List Call}
    (attempted : Attempted setup method done (.waiting wait)) (stands : Stands setup v)
    (bypass : setup.system.bypass = .no) (chosen : setup.method? = some method)
    (turn : Turn v wait x w) : Said v w fun calls => Attempted setup method (done ++ calls) x := by
  have woken : Stands setup v.woken := ⟨stands.options, stands.method, stands.loaded⟩
  cases attempted with
  -- The next attempt ends with the join; until then the discovery is left over at the end.
  | @discovering n calls started left attempts =>
      have joined (tail : List Call) : calls ++ [⟨setup.discovery method, started⟩] ++ tail =
          calls ++ ⟨setup.discovery method, started⟩ :: tail := List.append_assoc ..
      simp only [joined]
      cases turn with
      | ends _ _ => exact ⟨_, rfl, .stopped started _ left attempts⟩
      | wakes _ _ wakes =>
          cases wakes with
          | pending _ => exact .nothing rfl (.discovering started left attempts)
          | failed _ fails =>
              exact (fails.said woken bypass).mono fun _ => .failed started left attempts
          | unloaded _ missing _ =>
              have loaded := woken.loaded
              simp [missing] at loaded
          | @joins _ _ st _ loaded =>
              refine ⟨_, rfl, ?_⟩
              have attempts := attempts.succ st.joining.system started
                (v.hardware.accepts (.connect (.normal st.joining.system)))
              split
              · exact .connected left attempts
              · exact .joining left attempts
  | @joining n due _ left attempts =>
      cases turn with
      | ends _ _ => exact .nothing rfl (by simpa using .cancelled left attempts)
      | wakes _ _ wakes =>
          cases wakes with
          | joined _ => exact .nothing rfl (by simpa using .connected left attempts)
          | early _ _ => exact .nothing rfl (by simpa using .joining left attempts)
          | late _ _ known tries =>
              cases known.symm.trans (stands.method.trans chosen)
              exact tries.said woken bypass attempts left
          | lateWithout _ _ missing _ =>
              cases missing.symm.trans (stands.method.trans chosen)
  | failed started left attempts tail =>
      obtain ⟨same, tail⟩ := tail.turn turn
      exact .nothing same (by simpa using .failed started left attempts tail)
  | exhausted attempts tail =>
      obtain ⟨same, tail⟩ := tail.turn turn
      exact .nothing same (by simpa using .exhausted attempts tail)

/-- A step of a run that waits says what its protocol says next. -/
theorem Protocol.turn {wait : RunWait} {done : List Call}
    (protocol : Protocol setup done (.waiting wait)) (stands : Stands setup v)
    (turn : Turn v wait x w) : Said v w fun calls => Protocol setup (done ++ calls) x := by
  cases protocol with
  | direct bypass tail =>
      obtain ⟨same, tail⟩ := tail.turn turn
      exact .nothing same (by simpa using .direct bypass tail)
  | attempted bypass chosen attempted =>
      exact (attempted.turn stands bypass chosen turn).mono fun _ => .attempted bypass chosen

end Provisioning

/-! Runs among all events -/

/-- The system is set up as a run found it, and still has settings. -/
def Device.Fits (setup : Setup) (d : Device) : Prop :=
  d.options = setup.options ∧ d.store.loaded.isSome

theorem Device.fits_kept {setup : Setup} : Kept (fun _ => True) fun d _ => d.Fits setup :=
  (options_kept _).and loaded_kept

namespace Scene

variable {p q : Scene} {e : Event} {i run : Nat} {setup : Setup} {wait : RunWait}

def powered (_ : Scene) : Event → Bool
  | .powerLoss => false
  | _ => true

theorem ne_of_powered (quiet : p.powered e) : e ≠ .powerLoss := by
  rintro rfl
  cases quiet

/-- What a run of the system starts from if it starts now. Without settings there is nothing. -/
def setup? (p : Scene) (i : Nat) : Option Setup :=
  (p.world.devices[i]?).bind fun d => d.store.loaded.map fun st => ⟨d.options, st.system⟩

theorem setup?_eq_some : p.setup? i = some setup ↔ ∃ d st, p.world.devices[i]? = some d ∧
    d.store.loaded = some st ∧ ⟨d.options, st.system⟩ = setup := by
  simp [setup?, Option.bind_eq_some_iff]

/-- What the run says in an event. Other events than its own steps are silent to it. -/
def callsIn (p : Scene) (i run : Nat) (e : Event) : List Call :=
  match p.goesOn? e with
  | some (j, other, _) =>
    if j = i ∧ other = run then (p.step e).world.board.calls.drop p.world.board.calls.length else []
  | none => []

def calls (p : Scene) (i run : Nat) : List Event → List Call
  | [] => []
  | e :: events => p.callsIn i run e ++ (p.step e).calls i run events

theorem callsIn_of_other (other : ∀ wait, p.goesOn? e ≠ some (i, run, wait)) :
    p.callsIn i run e = [] := by
  unfold callsIn
  split
  next j run' wait goes =>
    split
    next same =>
      obtain ⟨rfl, rfl⟩ := same
      exact absurd goes (other wait)
    next => rfl
  next => rfl

theorem callsIn_of_goesOn? {v w : Outlook} {calls : List Call}
    (goes : p.goesOn? e = some (i, run, wait)) (before : p.world.outlook? i run = some v)
    (after : (p.step e).world.outlook? i run = some w) (said : w.calls = v.calls ++ calls) :
    p.callsIn i run e = calls := by
  obtain ⟨d, -, rfl⟩ := Option.map_eq_some_iff.mp before
  obtain ⟨later, -, rfl⟩ := Option.map_eq_some_iff.mp after
  have said : (p.step e).world.board.calls = p.world.board.calls ++ calls := said
  simp [callsIn, goes, said]

theorem stands_of_outlook? {v : Outlook} {d : Device} (orderly : p.world.Orderly)
    (goes : p.goesOn? e = some (i, run, wait)) (sees : p.world.outlook? i run = some v)
    (here : p.world.devices[i]? = some d) (fits : d.Fits setup) :
    Provisioning.Stands setup v := by
  obtain ⟨options, loaded⟩ := fits
  obtain ⟨_, same, known⟩ := known_of_goesOn? orderly goes
  cases here.symm.trans same
  have listed : d.ledger[run]? = some ((d.runs[run]).method, (d.runs[run]).outcome) := by
    simp [Device.ledger, known]
  have method : (d.runs[run]).method = setup.method? := by
    rw [(orderly.device here).method listed, options]
    rfl
  obtain ⟨_, same, rfl⟩ := Option.map_eq_some_iff.mp sees
  cases here.symm.trans same
  exact ⟨options, by simp [Site.outlook, known, method], loaded⟩

/-- The run came so far by what it said, and its system is as the run found it. -/
structure Speaks (p : Scene) (i run : Nat) (setup : Setup) (said : List Call) (x : Progress) :
    Prop where
  orderly : p.world.Orderly
  system : ∃ d, p.world.devices[i]? = some d ∧ d.Fits setup
  progress : p.world.progress? i run = some x
  protocol : Provisioning.Protocol setup said x

theorem Speaks.start (orderly : p.world.Orderly) (permits : p.permits e)
    (goes : p.goesOn? e = some (i, run, .start)) (known : p.setup? i = some setup) :
    ∃ x, (p.step e).Speaks i run setup (p.callsIn i run e) x := by
  obtain ⟨d, st, here, loaded, rfl⟩ := setup?_eq_some.mp known
  have fits : d.Fits ⟨d.options, st.system⟩ := ⟨rfl, by simp [loaded]⟩
  obtain ⟨v, x, w, before, after, turn, progress⟩ := turn_step orderly permits goes
  have stands := stands_of_outlook? orderly goes before here fits
  have settings : v.settings = some st := by
    obtain ⟨_, same, rfl⟩ := Option.map_eq_some_iff.mp before
    cases here.symm.trans same
    exact loaded
  have quiet := ne_powerLoss_of_goesOn? goes
  refine ⟨x, orderly_step orderly permits, ?_, progress, ?_⟩
  · exact device_step permits quiet (Device.fits_kept.mono fun _ _ => trivial) here fits
  · cases turn with
    | begins begins =>
        obtain ⟨calls, said, protocol⟩ := begins.said stands (by rw [settings, Option.map_some])
        rwa [callsIn_of_goesOn? goes before after said]
    | ends waits _ => exact absurd rfl waits
    | wakes waits _ _ => exact absurd rfl waits

theorem Speaks.step {said : List Call} {x : Progress} (speaks : p.Speaks i run setup said x)
    (permits : p.permits e) (quiet : p.powered e) :
    ∃ y, (p.step e).Speaks i run setup (said ++ p.callsIn i run e) y := by
  have quiet := ne_of_powered quiet
  obtain ⟨orderly, ⟨d, here, fits⟩, progress, protocol⟩ := speaks
  have later := orderly_step orderly permits
  have system := device_step permits quiet (Device.fits_kept.mono fun _ _ => trivial) here fits
  -- Events other than a step of the run neither speak for it nor take it further.
  rcases p.goesOn?_cases e i run with ⟨wait, goes⟩ | other
  · cases (progress?_of_goesOn? orderly goes).symm.trans progress
    obtain ⟨v, y, w, before, after, turn, progress⟩ := turn_step orderly permits goes
    have stands := stands_of_outlook? orderly goes before here fits
    obtain ⟨calls, said, protocol⟩ := protocol.turn stands turn
    rw [callsIn_of_goesOn? goes before after said]
    exact ⟨y, later, system, progress, protocol⟩
  · rw [callsIn_of_other other, List.append_nil]
    exact ⟨x, later, system, progress?_step orderly permits quiet progress other, protocol⟩

theorem Speaks.events {said : List Call} {x : Progress} {events : List Event}
    (speaks : p.Speaks i run setup said x) (ran : p.run powered events = some q) :
    ∃ y, q.Speaks i run setup (said ++ p.calls i run events) y := by
  induction events generalizing p said x with
  | nil =>
      cases ran
      exact ⟨x, by simpa [calls] using speaks⟩
  | cons e events ih =>
      obtain ⟨permits, quiet, ran⟩ := run_cons ran
      obtain ⟨y, speaks⟩ := speaks.step permits quiet
      simpa [calls] using ih speaks ran

/-- Whatever happens from the start of a run on, as long as the power lasts, the run says a word of
its protocol, and came as far as the word tells. -/
theorem run_speaks_protocol {board : Board} {events : List Event}
    (reachable : Reachable always (onBoard board) p) (goes : p.goesOn? e = some (i, run, .start))
    (known : p.setup? i = some setup) (ran : p.run powered (e :: events) = some q) :
    ∃ x, q.world.progress? i run = some x ∧
      Provisioning.Protocol setup (p.calls i run (e :: events)) x := by
  obtain ⟨permits, quiet, ran⟩ := run_cons ran
  obtain ⟨x, speaks⟩ := Speaks.start (orderly_reachable reachable) permits goes known
  obtain ⟨y, speaks⟩ := speaks.events ran
  exact ⟨y, speaks.progress, speaks.protocol⟩

set_option maxRecDepth 4000 in
theorem run_speaks_protocol_failedJoin :
    let p := sample.step (.boot sampleOptions DeviceInfo.product false)
    ∃ setup ∈ p.setup? 0, ∃ q ∈ p.run powered (failedJoin.drop 1),
      (∃ x, q.world.progress? 0 0 = some x ∧
        Provisioning.Protocol setup (p.calls 0 0 (failedJoin.drop 1)) x) ∧
      q.world.progress? 0 0 = some (.ended .poweredDown) ∧
        (p.calls 0 0 (failedJoin.drop 1)).length = 4 := by
  intro p
  have booted : Reachable always sample p := .step .start rfl rfl
  have goes : p.goesOn? (.resume 1) = some (0, 0, .start) := by decide +kernel
  have loaded : (p.setup? 0).isSome := by decide +kernel
  have ran : (p.run powered (failedJoin.drop 1)).any fun q =>
      q.world.progress? 0 0 = some (.ended .poweredDown) := by
    decide +kernel
  obtain ⟨setup, known⟩ := Option.isSome_iff_exists.mp loaded
  obtain ⟨q, ran, ended⟩ := (Option.any_eq_true _ _).mp ran
  have speaks := run_speaks_protocol booted goes known ran
  exact ⟨setup, known, q, ran, speaks, of_decide_eq_true ended, by decide +kernel⟩

end Scene
end ConnectedDevice
