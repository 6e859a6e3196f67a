import ConnectedDevice.Proofs.Config.Commit
import ConnectedDevice.Proofs.Provisioning.RollBack

/-!
What a failed run keeps of the credentials that it received, which is nothing. They are committed
before their network was joined, and notifications go on writing the settings; a run that goes back
takes all of this back in memory, and commits once more.
-/

namespace ConnectedDevice

open Provisioning (Progress)

/-- What the provisioning receives: the network, and the place of the device in it. -/
structure Taught where
  ssid : String
  userKey : String
  key : String
  bssid : MacAddress
  channel : UInt8
  security : Security
  dhcpEnable : Bool
  localIp : String
  netmask : String
  gateway : String
  dnsServer : String
deriving DecidableEq

namespace SystemConfig

def taught (c : SystemConfig) : Taught :=
  ⟨c.ssid, c.userKey, c.key, c.bssid, c.channel, c.security, c.dhcpEnable, c.localIp, c.netmask,
    c.gateway, c.dnsServer⟩

theorem taught_rolledBack (before : SystemConfig) : before.rolledBack.taught = before.taught := by
  unfold rolledBack
  split <;> rfl

theorem configured_rolledBack (before : SystemConfig) : before.rolledBack.configured =
    if before.configured = .unconfigured then .unconfigured else .allConfigured := by
  unfold rolledBack
  split
  next fresh => exact fresh
  next => rfl

end SystemConfig

/-- The settings in `w` are in its flash as well, if the flash in `v` accepts them. -/
def Outlook.Writes (v w : Outlook) : Prop :=
  ∀ st, w.settings = some st → (st.commit v.flash).1 = .ok () → w.flash.stored? = some st.record

/-- A commit takes no room away. -/
theorem Outlook.Writes.before {v w : Outlook} {st : Settings} (writes : (v.save st).Writes w) :
    v.Writes w := fun later settings accepted =>
  writes later settings (later.commit_ok_of_sameRoom (st.sameRoom_commit v.flash) accepted)

namespace Provisioning

variable {before : SystemConfig} {v w : Outlook} {st : Settings} {x : Progress} {wait : RunWait}

theorem Backs.writes {o : Outcome} (backs : Backs before v o w) (loaded : v.settings = some st) :
    v.Writes w := by
  have saves (st : Settings) (c : RadioCommand) : v.Writes ((v.save st).say c) := by
    intro after settings accepted
    cases settings
    exact Settings.stored?_of_commit_ok accepted
  cases backs with
  | unloaded missing => cases missing.symm.trans loaded
  | off _ _ | rejoins _ _ => exact saves _ _

theorem Opens.writes (opens : Opens before v x w) (loaded : v.settings = some st)
    (goesBack : x.isRetreat) : v.Writes w := by
  cases opens with
  | opens _ => cases goesBack
  | refused _ backs => exact backs.writes loaded

theorem Fails.writes (fails : Fails before v x w) (loaded : v.settings = some st)
    (goesBack : x.isRetreat) : v.Writes w := by
  cases fails with
  | opens _ opens => exact opens.writes loaded goesBack
  | backs _ backs => exact backs.writes loaded

theorem Tries.writes {method : DiscoveryMethod} {number : Nat}
    (tries : Tries before method number v x w) (loaded : v.settings = some st)
    (goesBack : x.isRetreat) : v.Writes w := by
  cases tries with
  | discovers _ => cases goesBack
  | fails _ fails => exact fails.writes loaded goesBack

theorem Begins.writes (begins : Begins v x w) (loaded : v.settings = some st)
    (goesBack : x.isRetreat) : v.Writes w := by
  cases begins with
  | unloaded missing => cases missing.symm.trans loaded
  | joins _ _ => cases goesBack
  | opens _ _ opens => exact (opens.writes rfl goesBack).before
  | opensWithout _ _ _ opens => exact opens.writes loaded goesBack
  | tries _ _ _ tries => exact tries.writes loaded goesBack

theorem Wakes.writes (wakes : Wakes v wait x w) (loaded : v.settings = some st)
    (goesBack : x.isRetreat) : v.Writes w := by
  cases wakes with
  | failed _ fails | lateWithout _ _ _ fails => exact fails.writes loaded goesBack
  | unloaded _ missing _ => cases missing.symm.trans loaded
  | joins _ _ => split at goesBack <;> cases goesBack
  | late _ _ _ tries => exact tries.writes loaded goesBack
  | _ => cases goesBack

theorem Turn.writes (turn : Turn v wait x w) (loaded : v.settings = some st)
    (goesBack : x.isRetreat) : v.Writes w := by
  cases turn with
  | begins begins => exact begins.writes loaded goesBack
  | ends _ _ => cases goesBack
  | wakes _ _ wakes => exact wakes.writes loaded goesBack

end Provisioning

theorem World.flash_of_outlook? {w : World} {i run : Nat} {v : Outlook}
    (sees : w.outlook? i run = some v) : v.flash = w.board.flash := by
  obtain ⟨d, -, rfl⟩ := Option.map_eq_some_iff.mp sees
  rfl

namespace Scene

variable {p q : Scene} {e : Event} {i run : Nat} {setup : Setup} {wait : RunWait}

/-- Whatever a run received, and whatever was written and committed meanwhile: when the run has
gone back, the network in memory is the one that the run found when it started, and the device
counts as configured exactly if it had a network then. If the flash accepts the commit, the record
in flash is the one in memory. -/
theorem failed_run_forgets {board : Board} {events : List Event} {last : Event} {x : Progress}
    (reachable : Reachable always (onBoard board) p) (known : p.setup? i = some setup)
    (continues : p.Continues e events q last i run wait)
    (ended : (q.step last).world.progress? i run = some x) (goesBack : x.isRetreat) :
    ∃ st, (q.step last).world.settings? i = some st ∧
      st.system.taught = setup.system.taught ∧
      st.system.configured =
        (if setup.system.configured = .unconfigured then .unconfigured else .allConfigured) ∧
      ((st.commit q.world.board.flash).1 = .ok () →
        (q.step last).world.board.flash.stored? = some st.record) := by
  obtain ⟨orderly, st, settings, remembers⟩ :=
    continues.snapshot (orderly_reachable reachable) known
  obtain ⟨v, y, w, sees, later, turn, progress⟩ :=
    turn_step orderly continues.permits continues.goes
  cases progress.symm.trans ended
  rw [World.settings?_of_outlook? sees] at settings
  have writes := turn.writes settings goesBack
  obtain ⟨after, stands, settles⟩ := turn.settles settings
  refine ⟨after, (World.settings?_of_outlook? later).trans stands, ?_⟩
  cases settles with
  | keeps goesOn | clears goesOn | joins goesOn => simp [goesOn] at goesBack
  | retreats snapshot =>
      cases remembers _ snapshot
      refine ⟨SystemConfig.taught_rolledBack _, SystemConfig.configured_rolledBack _, ?_⟩
      rw [← World.flash_of_outlook? sees, ← World.flash_of_outlook? later]
      exact writes _ stands

/-- The device has joined a network, and another run starts. -/
def joined : List Event :=
  joining ++ [.notify (.wifiStatusChanged .stationUp), .resume 1, .startRun 0]

/-- The device is told another network, with a place in it, but does not reach it in time, and the
next discovery fails. -/
def misled : List Event :=
  [.resume 2, .notify (.easyLinkCompleted (some ⟨"Away", "guess"⟩)),
    .notify (.easyLinkExtraData
      [0x23, 1, 0, 0, 0, 10, 0, 0, 9, 255, 0, 0, 0, 10, 0, 0, 1, 10, 0, 0, 1]),
    .resume 2, .pass 20000, .resume 2, .notify (.easyLinkCompleted none)]

set_option maxRecDepth 8000 in
theorem failed_run_forgets_misled :
    let p := (sample.run always joined).getD sample
    let q := (p.run powered misled).getD p
    ∃ (setup : Setup) (x : Progress) (st : Settings), p.setup? 0 = some setup ∧
      setup.system.ssid = "Home" ∧ (q.setup? 0).map (·.system.ssid) = some "Away" ∧
      (q.step (.resume 2)).world.progress? 0 1 = some x ∧ x.isRetreat ∧
      (q.step (.resume 2)).world.settings? 0 = some st ∧
      st.system.taught = setup.system.taught ∧
      st.system.configured =
        (if setup.system.configured = .unconfigured then .unconfigured else .allConfigured) ∧
      (st.commit q.world.board.flash).1 = .ok () ∧
      (q.step (.resume 2)).world.board.flash.stored? = some st.record := by
  intro p q
  have found {o : Option Scene} (r : Scene) (isSome : o.isSome) : o = some (o.getD r) := by
    obtain ⟨_, rfl⟩ := Option.isSome_iff_exists.mp isSome
    rfl
  have joins : sample.run always joined = some p := found sample (by decide +kernel)
  have fails : p.run powered misled = some q := found p (by decide +kernel)
  obtain ⟨starts, home⟩ : p.goesOn? (.resume 2) = some (0, 1, .start) ∧
      (p.setup? 0).any (·.system.ssid = "Home") := by
    decide +kernel
  obtain ⟨permits, away, goes, ended, accepted⟩ : q.permits (.resume 2) ∧
      (q.setup? 0).map (·.system.ssid) = some "Away" ∧
      ((q.goesOn? (.resume 2)).any fun goes => goes.1 = 0 && goes.2.1 = 1) ∧
      ((q.step (.resume 2)).world.progress? 0 1).any (·.isRetreat) ∧
      ((q.step (.resume 2)).world.settings? 0).all fun st =>
        (st.commit q.world.board.flash).1.isOk := by
    decide +kernel
  obtain ⟨setup, known, home⟩ := (Option.any_eq_true _ _).mp home
  obtain ⟨⟨i, run, wait⟩, goes, numbers⟩ := (Option.any_eq_true _ _).mp goes
  obtain ⟨rfl, rfl⟩ : i = 0 ∧ run = 1 := by simpa using numbers
  obtain ⟨x, ended, goesBack⟩ := (Option.any_eq_true _ _).mp ended
  obtain ⟨st, settings, taught, configured, writes⟩ := failed_run_forgets (reachable_run joins)
    known ⟨starts, fails, rfl, permits, goes⟩ ended goesBack
  have accepted : (st.commit q.world.board.flash).1 = .ok () := by
    rw [settings, Option.all_some] at accepted
    obtain ⟨_, accepted⟩ := isOk_iff.mp accepted
    exact accepted
  exact ⟨setup, x, st, known, of_decide_eq_true home, away, ended, goesBack, settings, taught,
    configured, accepted, writes accepted⟩

end Scene
end ConnectedDevice
