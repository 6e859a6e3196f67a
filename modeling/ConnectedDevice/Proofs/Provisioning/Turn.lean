import ConnectedDevice.Proofs.Provisioning.Deeds

/-!
What a step of a provisioning run makes of what the run sees: the settings, the flash, its session,
and the commands to the radio. The relations follow the ways through a step, from the roll back up
to the step as a whole.
-/

namespace ConnectedDevice

open Act

/-- A command to the radio, and whether it was accepted. -/
structure Call where
  command : RadioCommand
  accepted : Bool
deriving DecidableEq, Repr

def Hardware.accepts (h : Hardware) (c : RadioCommand) : Bool := (h.answer (.radio c)).isOk

/-- The commands to the radio, with the answers that the hardware gives now. -/
def Board.calls (b : Board) : List Call :=
  b.issued.filterMap fun
    | .radio c => some ⟨c, b.hardware.accepts c⟩
    | _ => none

/-- What a run sees of its system and of the board. -/
structure Outlook where
  options : Options
  method : Option DiscoveryMethod
  /-- whether the run is told to end -/
  told : Bool
  now : Nat
  hardware : Hardware
  mac : Option MacAddress
  settings : Option Settings
  flash : Nor
  session : Session
  calls : List Call

def Site.outlook (s : Site) (run : Nat) : Outlook where
  options := s.device.options
  method := (s.device.runs[run]?).bind (·.method)
  told := s.device.isCancelled run
  now := s.board.now
  hardware := s.board.hardware
  mac := s.device.mac
  settings := s.device.store.loaded
  flash := s.board.flash
  session := s.device.session run
  calls := s.board.calls

namespace Outlook

variable (v : Outlook)

def say (c : RadioCommand) : Outlook :=
  { v with calls := v.calls ++ [⟨c, v.hardware.accepts c⟩] }

/-- The settings change, and are written to flash. -/
def save (st : Settings) : Outlook :=
  { v with settings := some st, flash := (st.commit v.flash).2 }

def withSession (session : Session) : Outlook := { v with session }

/-- The permit that the session stored is taken. -/
def woken : Outlook := v.withSession v.session.takePermit

def softAp : RadioCommand := .startSoftAp (.fallback (v.mac.getD (Vector.replicate 6 0)))

def discovery (method : DiscoveryMethod) : RadioCommand :=
  .startDiscovery method v.options.discoveryTimeout

/-- A discovery that does not start has failed. -/
def discovering (method : DiscoveryMethod) : Outlook :=
  (v.withSession
    (if v.hardware.accepts (v.discovery method) then .fresh else Session.fresh.finish false)).say
      (v.discovery method)

/-- A run that is told to end stops its discovery. -/
def farewell : RunWait → Outlook
  | .discovering .. => v.say .stopDiscovery
  | _ => v

end Outlook

def SystemConfig.cleared (c : SystemConfig) : SystemConfig := { c with bypass := .no }

def Settings.clear (s : Settings) : Settings := s.modifySystem (·.cleared)

def Settings.joining (s : Settings) : Settings := s.modifySystem (·.advance .wlanUnconfigured)

def Settings.restore (s : Settings) (before : SystemConfig) : Settings :=
  s.modifySystem fun _ => before.rolledBack

namespace Provisioning

inductive Backs (before : SystemConfig) (v : Outlook) : Outcome → Outlook → Prop
  | unloaded : v.settings = none → Backs before v .poweredDown v
  | off {st : Settings} : v.settings = some st → before.configured = .unconfigured →
      Backs before v .poweredDown ((v.save (st.restore before)).say .powerOff)
  | rejoins {st : Settings} : v.settings = some st → before.configured ≠ .unconfigured →
      Backs before v .rolledBack
        ((v.save (st.restore before)).say (.connect (.normal before.rolledBack)))

inductive Opens (before : SystemConfig) (v : Outlook) : Progress → Outlook → Prop
  | opens : v.hardware.accepts v.softAp →
      Opens before v (.waiting .softAp) ((v.withSession .fresh).say v.softAp)
  | refused {o : Outcome} {w : Outlook} : v.hardware.accepts v.softAp = false →
      Backs before ((v.withSession .fresh).say v.softAp) o w → Opens before v (.ended o) w

inductive Fails (before : SystemConfig) (v : Outlook) : Progress → Outlook → Prop
  | opens {x : Progress} {w : Outlook} : v.options.mode.fallsBackToSoftAp →
      Opens before v x w → Fails before v x w
  | backs {o : Outcome} {w : Outlook} : v.options.mode.fallsBackToSoftAp = false →
      Backs before v o w → Fails before v (.ended o) w

inductive Tries (before : SystemConfig) (method : DiscoveryMethod) (number : Nat) (v : Outlook) :
    Progress → Outlook → Prop
  | discovers : number ≤ v.options.maxAttempts →
      Tries before method number v (.waiting (.discovering number before)) (v.discovering method)
  | fails {x : Progress} {w : Outlook} : v.options.maxAttempts < number →
      Fails before v x w → Tries before method number v x w

inductive Begins (v : Outlook) : Progress → Outlook → Prop
  | unloaded : v.settings = none → Begins v (.ended .poweredDown) v
  | joins {st : Settings} : v.settings = some st → st.system.bypass = .join →
      Begins v (.ended .bypassed) ((v.save st.clear).say (.connect (.fast st.system.cleared)))
  | opens {st : Settings} {x : Progress} {w : Outlook} : v.settings = some st →
      st.system.bypass = .softAp → Opens st.system.cleared (v.save st.clear) x w → Begins v x w
  | opensWithout {st : Settings} {x : Progress} {w : Outlook} : v.settings = some st →
      st.system.bypass = .no → v.method = none → Opens st.system.cleared v x w → Begins v x w
  | tries {st : Settings} {method : DiscoveryMethod} {x : Progress} {w : Outlook} :
      v.settings = some st → st.system.bypass = .no → v.method = some method →
        Tries st.system.cleared method 1 v x w → Begins v x w

/-- What comes of a wait point that the run was not told to leave, with the permit taken. -/
inductive Wakes (v : Outlook) : RunWait → Progress → Outlook → Prop
  | pending {number : Nat} {before : SystemConfig} : v.session.stage = .pending →
      Wakes v (.discovering number before) (.waiting (.discovering number before)) v
  | failed {number : Nat} {before : SystemConfig} {x : Progress} {w : Outlook} :
      v.session.stage = .failed → Fails before v x w → Wakes v (.discovering number before) x w
  | unloaded {number : Nat} {before : SystemConfig} {x : Progress} {w : Outlook} :
      v.session.stage = .succeeded → v.settings = none → Fails before v x w →
        Wakes v (.discovering number before) x w
  | joins {number : Nat} {before : SystemConfig} {st : Settings} :
      v.session.stage = .succeeded → v.settings = some st →
        Wakes v (.discovering number before)
          (if v.session.connected then .ended .connected
          else .waiting (.joining number (v.now + v.options.connectTimeout) before))
          ((v.save st.joining).say (.connect (.normal st.joining.system)))
  | joined {number due : Nat} {before : SystemConfig} : v.session.connected →
      Wakes v (.joining number due before) (.ended .connected) v
  | early {number due : Nat} {before : SystemConfig} : v.session.connected = false → v.now < due →
      Wakes v (.joining number due before) (.waiting (.joining number due before)) v
  | late {number due : Nat} {before : SystemConfig} {method : DiscoveryMethod} {x : Progress}
      {w : Outlook} : v.session.connected = false → due ≤ v.now → v.method = some method →
        Tries before method (number + 1) v x w → Wakes v (.joining number due before) x w
  | lateWithout {number due : Nat} {before : SystemConfig} {x : Progress} {w : Outlook} :
      v.session.connected = false → due ≤ v.now → v.method = none → Fails before v x w →
        Wakes v (.joining number due before) x w
  | served : v.session.connected → Wakes v .softAp (.ended .softApConnected) v
  | serves : v.session.connected = false → Wakes v .softAp (.waiting .softAp) v

inductive Turn (v : Outlook) : RunWait → Progress → Outlook → Prop
  | begins {x : Progress} {w : Outlook} : Begins v x w → Turn v .start x w
  | ends {wait : RunWait} : wait ≠ .start → v.told →
      Turn v wait (.ended .cancelled) (v.farewell wait)
  | wakes {wait : RunWait} {x : Progress} {w : Outlook} : wait ≠ .start → v.told = false →
      Wakes v.woken wait x w → Turn v wait x w

end Provisioning

/-! Acts -/

/-- The site looks so to the run, which it knows. -/
structure Site.Sees (s : Site) (run : Nat) (v : Outlook) : Prop where
  outlook : s.outlook run = v
  known : run < s.device.runs.length

/-- The radio does not hear the command. -/
theorem Site.Sees.tell {s : Site} {run : Nat} {v : Outlook} (sees : s.Sees run v) (c : Command)
    (other : ∀ r, c ≠ .radio r) : (Act.tell c s).2.Sees run v := by
  have calls : (Act.tell c s).2.board.calls = s.board.calls := by
    have appended : (Act.tell c s).2.board.calls = s.board.calls ++ _ := List.filterMap_append
    rw [appended]
    cases c with
    | radio r => exact absurd rfl (other r)
    | _ => exact List.append_nil _
  obtain ⟨rfl, known⟩ := sees
  exact ⟨congrArg (fun calls => { s.outlook run with calls }) calls, known⟩

/-- What the act makes of an outlook, wherever the run has it, with the answer of the act. -/
def Outlook.Yields {α : Type} (v : Outlook) (run : Nat) (act : Act α)
    (post : α → Outlook → Prop) : Prop :=
  ∀ s : Site, s.Sees run v → ∃ w, (act s).2.Sees run w ∧ post (act s).1 w

namespace Outlook.Yields

variable {α β : Type} {v : Outlook} {run : Nat} {act : Act α} {rest : α → Act β}
  {mid : α → Outlook → Prop} {post : β → Outlook → Prop}

theorem pure {b : β} (right : post b v) : v.Yields run (Pure.pure b) post :=
  fun _ sees => ⟨v, sees, right⟩

theorem bind (first : v.Yields run act mid)
    (next : ∀ a w, mid a w → w.Yields run (rest a) post) : v.Yields run (act >>= rest) post := by
  intro s sees
  obtain ⟨w, seen, known⟩ := first s sees
  exact next _ w known _ seen

theorem mono {other : β → Outlook → Prop} {act : Act β} (yields : v.Yields run act post)
    (implied : ∀ b w, post b w → other b w) : v.Yields run act other := by
  intro s sees
  obtain ⟨w, seen, known⟩ := yields s sees
  exact ⟨w, seen, implied _ w known⟩

theorem device {rest : Device → Act β}
    (next : ∀ s : Site, s.Sees run v → v.Yields run (rest s.device) post) :
    v.Yields run (Act.device >>= rest) post :=
  fun s sees => next s sees s sees

theorem now {rest : Nat → Act β} (next : v.Yields run (rest v.now) post) :
    v.Yields run (Act.now >>= rest) post := by
  intro s sees
  have time : s.board.now = v.now := congrArg Outlook.now sees.outlook
  have same : (Act.now >>= rest) s = rest v.now s := congrArg (rest · s) time
  exact same ▸ next s sees

/-- The command is given, and the answer is heard. -/
theorem ask {rest : Except Error Unit → Act β} (c : RadioCommand)
    (next : (v.say c).Yields run (rest (v.hardware.answer (.radio c))) post) :
    v.Yields run ((issue (.radio c)).run >>= rest) post := by
  intro s sees
  obtain ⟨rfl, known⟩ := sees
  refine next ((issue (.radio c)).run s).2 ⟨?_, known⟩
  have calls : ((issue (.radio c)).run s).2.board.calls =
      s.board.calls ++ [⟨c, s.board.hardware.accepts c⟩] := List.filterMap_append
  exact congrArg (fun calls => { s.outlook run with calls }) calls

theorem say {rest : Unit → Act β} (c : RadioCommand)
    (next : (v.say c).Yields run (rest ()) post) :
    v.Yields run (tell (.radio c) >>= rest) post :=
  have asked : v.Yields run ((issue (.radio c)).run >>= fun _ => rest ()) post := ask c next
  asked

theorem hook {rest : Unit → Act β} (h : Hook) (next : v.Yields run (rest ()) post) :
    v.Yields run (Act.hook h >>= rest) post := by
  intro s sees
  refine next (Act.hook h s).2 ?_
  rw [Act.hook, device_bind]
  split
  · exact sees.tell (.hook h) (by simp)
  · exact sees

theorem announce {rest : Unit → Act β} (i : Interface) (next : v.Yields run (rest ()) post) :
    v.Yields run (Act.announce i >>= rest) post :=
  fun s sees => next _ (sees.tell (.announce i (s.device.announcement i)) (by simp))

theorem save {rest : Unit → Act β} (st : Settings) (next : (v.save st).Yields run (rest ()) post) :
    v.Yields run (setSettings st >>= fun _ => discard commit.run >>= rest) post := by
  intro s sees
  obtain ⟨rfl, known⟩ := sees
  exact next _ ⟨rfl, known⟩

theorem session {rest : Unit → Act β} (f : Session → Session)
    (next : (v.withSession (f v.session)).Yields run (rest ()) post) :
    v.Yields run ((modifyDevice fun d => d.modifySession run f) >>= rest) post := by
  intro s sees
  obtain ⟨rfl, known⟩ := sees
  refine next _ ⟨?_, ?_⟩
  · have session : (s.device.modifySession run f).session run = f (s.device.session run) := by
      simp [Device.session, Device.modifySession, Device.modifyRun, known]
    have told : (s.device.modifySession run f).isCancelled run = s.device.isCancelled run := by
      simp [Device.isCancelled, Device.modifySession, Device.modifyRun, known]
    have method : ((s.device.modifySession run f).runs[run]?).bind (·.method) =
        (s.device.runs[run]?).bind (·.method) := by
      simp [Device.modifySession, Device.modifyRun, known]
    simp only [Site.outlook, withSession, session, told, method]
    rfl
  · simpa [modifyDevice, Device.modifySession, Device.modifyRun] using known

end Outlook.Yields

namespace Provisioning

/-! Ways through a step -/

variable {v : Outlook} {run : Nat} {before : SystemConfig}

theorem yields_rollBack : v.Yields run (rollBack before) fun x w =>
    ∃ o, x = .ended o ∧ Backs before v o w := by
  refine .device fun s sees => ?_
  have settings : s.device.store.loaded = v.settings := congrArg Outlook.settings sees.outlook
  rw [settings]
  cases loaded : v.settings with
  | none => exact .pure ⟨_, rfl, .unloaded loaded⟩
  | some st =>
      by_cases fresh : before.configured = .unconfigured
      · have same : before.rolledBack = before := by simp [SystemConfig.rolledBack, fresh]
        simp only [fresh, if_true]
        refine .save _ (.say _ (.pure ⟨_, rfl, ?_⟩))
        have backs := Backs.off loaded fresh
        rwa [Settings.restore, same] at backs
      · have same : before.rolledBack = { before with configured := .allConfigured } := by
          simp [SystemConfig.rolledBack, fresh]
        simp only [fresh, if_false]
        refine .save _ (.say _ (.pure ⟨_, rfl, ?_⟩))
        have backs := Backs.rejoins loaded fresh
        rwa [Settings.restore, same] at backs

theorem Hardware.accepts_of_ok {h : Hardware} {c : RadioCommand} {u : Unit}
    (answer : h.answer (.radio c) = .ok u) : h.accepts c = true := by
  simp [Hardware.accepts, answer, Except.isOk, Except.toBool]

theorem Hardware.accepts_of_error {h : Hardware} {c : RadioCommand} {e : Error}
    (answer : h.answer (.radio c) = .error e) : h.accepts c = false := by
  simp [Hardware.accepts, answer, Except.isOk, Except.toBool]

theorem yields_openSoftAp : v.Yields run (openSoftAp run before) (Opens before v) := by
  refine .hook _ (.session _ (.device fun s sees => ?_))
  have mac : s.device.mac = v.mac := congrArg Outlook.mac sees.outlook
  rw [mac]
  refine .ask _ ?_
  cases answer : (v.withSession .fresh).hardware.answer
      (.radio (.startSoftAp (.fallback (v.mac.getD (Vector.replicate 6 0))))) with
  | error e =>
      refine yields_rollBack.mono ?_
      rintro x w ⟨o, rfl, backs⟩
      exact .refused (Hardware.accepts_of_error answer) backs
  | ok _ => exact .announce _ (.pure (.opens (Hardware.accepts_of_ok answer)))

theorem yields_fail : v.Yields run (fail run before) (Fails before v) := by
  refine .device fun s sees => ?_
  have options : s.device.options = v.options := congrArg Outlook.options sees.outlook
  rw [options]
  cases falls : v.options.mode.fallsBackToSoftAp with
  | true => exact yields_openSoftAp.mono fun _ _ => .opens falls
  | false =>
      refine yields_rollBack.mono ?_
      rintro x w ⟨o, rfl, backs⟩
      exact .backs falls backs

theorem yields_attempt {number : Nat} {method : DiscoveryMethod} :
    v.Yields run (attempt run number method before) (Tries before method number v) := by
  refine .device fun s sees => ?_
  have options : s.device.options = v.options := congrArg Outlook.options sees.outlook
  rw [options]
  dsimp only
  split
  next none => exact yields_fail.mono fun _ _ => .fails none
  next left =>
    have discovers : Tries before method number v _ _ := .discovers (Nat.not_lt.mp left)
    refine .session _ (.ask _ ?_)
    cases answer : (v.withSession .fresh).hardware.answer
        (.radio (.startDiscovery method v.options.discoveryTimeout)) with
    | ok _ =>
        have accepted : v.hardware.accepts (v.discovery method) := Hardware.accepts_of_ok answer
        rw [Outlook.discovering, if_pos accepted] at discovers
        exact .pure discovers
    | error e =>
        have refused : v.hardware.accepts (v.discovery method) = false :=
          Hardware.accepts_of_error answer
        rw [Outlook.discovering, if_neg (by simp [refused])] at discovers
        exact .session (·.finish false) (.pure discovers)

theorem yields_beginWith {st : Settings} (loaded : v.settings = some st) :
    v.Yields run (beginWith run st) (Begins v) := by
  cases bypass : st.system.bypass with
  | no =>
      have same : st.system.cleared = { st.system with bypass := .no } := rfl
      simp only [beginWith, bypass, ← same]
      refine .hook _ (.device fun s sees => ?_)
      have method : (s.device.runs[run]?).bind (·.method) = v.method :=
        congrArg Outlook.method sees.outlook
      rw [method]
      cases chosen : v.method with
      | none => exact yields_openSoftAp.mono fun _ _ => .opensWithout loaded bypass chosen
      | some method => exact yields_attempt.mono fun _ _ => .tries loaded bypass chosen
  | join =>
      simp only [beginWith, bypass]
      exact .save st.clear (.say _ (.pure (.joins loaded bypass)))
  | softAp =>
      simp only [beginWith, bypass]
      exact .save st.clear (.hook _ (yields_openSoftAp.mono fun _ _ => .opens loaded bypass))

theorem yields_beginStored : v.Yields run (beginStored run) (Begins v) := by
  refine .device fun s sees => ?_
  have settings : s.device.store.loaded = v.settings := congrArg Outlook.settings sees.outlook
  rw [settings]
  cases loaded : v.settings with
  | none => exact .pure (.unloaded loaded)
  | some st => exact yields_beginWith loaded

theorem yields_begin : v.Yields run (begin run) (Begins v) := by
  rw [begin_eq]
  refine .device fun s sees => ?_
  split
  · exact .announce _ yields_beginStored
  · exact yields_beginStored

/-! Wait points -/

theorem yields_join {number : Nat} (stage : v.session.stage = .succeeded) :
    v.Yields run (join run number before) (Wakes v (.discovering number before)) := by
  refine .hook _ (.device fun s sees => ?_)
  have settings : s.device.store.loaded = v.settings := congrArg Outlook.settings sees.outlook
  rw [settings]
  cases loaded : v.settings with
  | none => exact yields_fail.mono fun _ _ => .unloaded stage loaded
  | some st =>
      refine .save _ (.say _ (.device fun s sees => ?_))
      have session : s.device.session run = v.session := congrArg Outlook.session sees.outlook
      have options : s.device.options = v.options := congrArg Outlook.options sees.outlook
      rw [session, options]
      have joins : Wakes v (.discovering number before) _ _ := .joins stage loaded
      cases connected : v.session.connected with
      | true =>
          rw [if_pos connected] at joins
          exact .pure joins
      | false =>
          rw [if_neg (by simpa using connected)] at joins
          exact .now (.pure joins)

theorem yields_wake : v.Yields run (wake run) fun session w =>
    session = v.woken.session ∧ w = v.woken := by
  refine .session _ (.device fun s sees => .pure ⟨?_, rfl⟩)
  exact congrArg Outlook.session sees.outlook

/-- A run that waits ends if it was told to, and looks at its session otherwise. -/
theorem yields_unless {wait : RunWait} {leave : Act Progress} {rest : Session → Act Progress}
    (waits : wait ≠ .start) (leaves : v.Yields run leave fun x w =>
      x = .ended .cancelled ∧ w = v.farewell wait)
    (wakes : v.woken.Yields run (rest v.woken.session) (Wakes v.woken wait)) :
    v.Yields run (do
      if (← device).isCancelled run then leave
      else
        let session ← wake run
        rest session) (Turn v wait) := by
  refine .device fun s sees => ?_
  have told : s.device.isCancelled run = v.told := congrArg Outlook.told sees.outlook
  rw [told]
  cases told : v.told with
  | true =>
      refine leaves.mono ?_
      rintro x w ⟨rfl, rfl⟩
      exact .ends waits told
  | false =>
      refine yields_wake.bind ?_
      rintro session w ⟨rfl, rfl⟩
      exact wakes.mono fun _ _ => .wakes waits told

theorem yields_afterDiscovery {number : Nat} :
    v.Yields run (afterDiscovery run number before) (Turn v (.discovering number before)) := by
  refine yields_unless (by simp) (.say _ (.pure ⟨rfl, rfl⟩)) ?_
  cases stage : v.woken.session.stage with
  | pending => exact .pure (.pending stage)
  | failed => exact yields_fail.mono fun _ _ => .failed stage
  | succeeded => exact yields_join stage

theorem yields_afterJoin {number due : Nat} :
    v.Yields run (afterJoin run number due before) (Turn v (.joining number due before)) := by
  refine yields_unless (by simp) (.pure ⟨rfl, rfl⟩) ?_
  cases connected : v.woken.session.connected with
  | true => exact .pure (.joined connected)
  | false =>
      refine .now ?_
      split
      next early => exact .pure (.early connected early)
      next late =>
        refine .device fun s sees => ?_
        have method : (s.device.runs[run]?).bind (·.method) = v.woken.method :=
          congrArg Outlook.method sees.outlook
        rw [method]
        cases chosen : v.woken.method with
        | none =>
            exact yields_fail.mono fun _ _ => .lateWithout connected (Nat.not_lt.mp late) chosen
        | some method =>
            exact yields_attempt.mono fun _ _ => .late connected (Nat.not_lt.mp late) chosen

theorem yields_afterSoftAp : v.Yields run (afterSoftAp run) (Turn v .softAp) := by
  refine yields_unless (by simp) (.pure ⟨rfl, rfl⟩) ?_
  cases connected : v.woken.session.connected with
  | true => exact .pure (.served connected)
  | false => exact .pure (.serves connected)

theorem yields_proceed (wait : RunWait) : v.Yields run (proceed run wait) (Turn v wait) := by
  cases wait with
  | start => exact yields_begin.mono fun _ _ => .begins
  | discovering number before => exact yields_afterDiscovery
  | joining number due before => exact yields_afterJoin
  | softAp => exact yields_afterSoftAp

end Provisioning
end ConnectedDevice
