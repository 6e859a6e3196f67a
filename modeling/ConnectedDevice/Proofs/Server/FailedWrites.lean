import ConnectedDevice.Proofs.Server.Rejection
import ConnectedDevice.Proofs.Server.Writing

/-!
Requests for other settings that fail, at the latest when the record is written. They may leave
their settings in memory, as every failed commit does. One that comes through the soft access point
also leaves its session identifier behind.
-/

namespace ConnectedDevice

/-- Beyond the settings nothing happened. -/
structure Site.Undisturbed (s t : Site) : Prop where
  identifier : t.device.identifier = s.device.identifier
  /-- what was commanded, announcements among it -/
  issued : t.board.issued = s.board.issued
  power : t.device.power = s.device.power
  /-- joins that are yet to come -/
  spawned : t.spawned = s.spawned

/-- The site with other settings of the system in memory, and another flash. -/
def Site.storing (s : Site) (f : SystemConfig → SystemConfig) (flash : Nor) : Site :=
  let loaded := s.device.store.loaded.map (·.modifySystem f)
  { s with
    device := { s.device with store := { s.device.store with loaded } }
    board := { s.board with flash } }

theorem Site.storing_self (s : Site) : s.storing id s.board.flash = s := by
  have same : s.device.store.loaded.map (·.modifySystem id) = s.device.store.loaded := by
    cases s.device.store.loaded <;> rfl
  rw [storing, same]

theorem Site.storing_of_loaded {s : Site} {st : Settings} {f : SystemConfig → SystemConfig}
    {flash : Nor} (loaded : s.device.store.loaded = some st) :
    s.storing f flash = (s.remember (st.modifySystem f)).setFlash flash := by
  rw [storing, loaded]
  rfl

theorem Site.undisturbed_identify {s : Site} {f : SystemConfig → SystemConfig} {flash : Nor}
    (identifier : Option UInt32) :
    s.Undisturbed ((s.storing f flash).identify identifier) ↔
      ∀ i ∈ identifier, i = s.device.identifier := by
  constructor
  · rintro same _ rfl
    exact same.identifier
  · intro known
    refine ⟨?_, rfl, rfl, rfl⟩
    cases identifier with
    | none => rfl
    | some i => exact known i rfl

namespace Server

open Act

/-- The identifier that the site takes on before the record is written. -/
def Request.early? (r : Request) (s : Site) : Option UInt32 :=
  if Resource.ofPath? r.path = some .softApSettings ∧ s.device.store.loaded.isSome then
    r.update?.bind (·.identifier)
  else none

theorem status_ofError (e : Error) : (Response.ofError e).status ≠ 200 := by
  change statusOf e.kind ≠ 200
  cases e.kind <;> decide

section Requests

variable {resource : Resource} {w : Writer} {commits : Fallible Unit} {s : Site} {r : Request}

theorem early?_of_names (names : Resource.ofPath? r.path = some resource)
    (takes : resource.writer? = some w) :
    r.early? s = if s.device.store.loaded.isSome then r.update?.bind w.early else none := by
  cases resource with
  | settings =>
      cases takes
      cases r.update? <;> simp [Request.early?, names, Writer.settings]
  | softApSettings =>
      cases takes
      simp [Request.early?, names, Writer.softApSettings]
  | report | firmware => cases takes

/-- What a request to change the settings leaves behind that fails. -/
theorem respondWith_failed (names : Resource.ofPath? r.path = some resource)
    (takes : resource.writer? = some w) (failed : (respondWith commits r s).1.status ≠ 200) :
    ((r.update? = none ∨ s.device.store.loaded = none) ∧ (respondWith commits r s).2 = s ∧
        (respondWith commits r s).1.status ≠ 500) ∨
      ∃ u ∈ r.update?, ∃ st e, s.device.store.loaded = some st ∧
        commits.run (w.prepare u st s) = (.error e, (respondWith commits r s).2) := by
  rcases respondWith_of_names names takes with ⟨unread, refusal, refuses, status⟩ | ⟨u, read, ends⟩
  · rw [refuses]
    refine .inl ⟨.inl unread, rfl, fun error => ?_⟩
    rw [error] at status
    exact absurd status (by decide)
  · rcases w.outcome_cases with ⟨unloaded, ended⟩ | ⟨st, t, loaded, ⟨e, wrote, ended⟩ | ⟨-, ended⟩⟩
    · rw [ends, ended]
      exact .inl ⟨.inr unloaded, rfl, show 503 ≠ 500 by decide⟩
    · rw [ends, ended]
      exact .inr ⟨u, read, st, e, loaded, wrote⟩
    · rw [ends, ended] at failed
      exact absurd rfl failed

/-- What a request to change the settings leaves behind that is granted. -/
theorem respondWith_granted (names : Resource.ofPath? r.path = some resource)
    (takes : resource.writer? = some w) (granted : (respondWith commits r s).1.status = 200) :
    ∃ u ∈ r.update?, ∃ st t, s.device.store.loaded = some st ∧
      commits.run (w.prepare u st s) = (.ok (), t) ∧
      (respondWith commits r s).2 = (w.finish u st t).2 := by
  rcases respondWith_of_names names takes with ⟨-, refusal, refuses, status⟩ | ⟨u, read, ends⟩
  · rw [refuses] at granted
    rw [granted] at status
    exact absurd status (by decide)
  · rcases w.outcome_cases with ⟨-, ended⟩ | ⟨st, t, loaded, ⟨e, -, ended⟩ | ⟨wrote, ended⟩⟩
    · rw [ends, ended] at granted
      exact absurd granted (status_ofError _)
    · rw [ends, ended] at granted
      exact absurd granted (status_ofError e)
    · rw [ends, ended]
      exact ⟨u, read, st, t, loaded, wrote, rfl⟩

theorem change_of_names (takes : resource.writer? = some w) (u : Update) :
    ∃ f, ∀ st, (w.change u).apply st = st.modifySystem f := by
  cases resource with
  | settings =>
      cases takes
      exact ⟨fun c => (u.apply c).1.advance .allConfigured, fun _ => rfl⟩
  | softApSettings =>
      cases takes
      exact ⟨fun c => (u.apply { c with bypass := .no }).1, fun _ => rfl⟩
  | report | firmware => cases takes

theorem storing_of_failed (confined : OnlyFlash commits)
    (names : Resource.ofPath? r.path = some resource) (takes : resource.writer? = some w)
    (failed : (respondWith commits r s).1.status ≠ 200) :
    ∃ f flash, (respondWith commits r s).2 = (s.storing f flash).identify (r.early? s) := by
  rw [early?_of_names names takes]
  rcases respondWith_failed names takes failed with ⟨nothing, same, -⟩ |
    ⟨u, read, st, e, loaded, wrote⟩
  · have none : (if s.device.store.loaded.isSome then r.update?.bind w.early else none) = none := by
      rcases nothing with nothing | nothing <;> simp [nothing]
    refine ⟨id, s.board.flash, ?_⟩
    rw [same, none, s.storing_self]
    rfl
  · obtain ⟨flash, left⟩ := confined (w.prepare u st s)
    rw [wrote] at left
    dsimp only at left
    obtain ⟨f, changed⟩ := change_of_names takes u
    refine ⟨f, flash, ?_⟩
    rw [left, Site.storing_of_loaded loaded, loaded, Option.mem_def.mp read, ← changed]
    rfl

end Requests

/-- A failed request to change the settings leaves its settings in memory, at most; through the soft
access point, its identifier too, once the settings are loaded. -/
theorem failed_write (r : Request) (s : Site)
    (writes : Resource.ofPath? r.path ∈ [some .settings, some .softApSettings]) :
    (∀ commits, OnlyFlash commits → (respondWith commits r s).1.status ≠ 200 →
        (∃ f flash, (respondWith commits r s).2 = (s.storing f flash).identify (r.early? s)) ∧
        (s.Undisturbed (respondWith commits r s).2 ↔
          ∀ i ∈ r.early? s, i = s.device.identifier)) ∧
      respondWith commit = respond ∧ OnlyFlash commit ∧
      ((respond r s).1.status ≠ 200 → (respond r s).2.board.flash = s.board.flash) := by
  obtain ⟨resource, w, names, takes⟩ : ∃ resource w, Resource.ofPath? r.path = some resource ∧
      resource.writer? = some w := by
    simp only [List.mem_cons, List.not_mem_nil, or_false] at writes
    rcases writes with named | named
    · exact ⟨_, _, named, rfl⟩
    · exact ⟨_, _, named, rfl⟩
  refine ⟨fun commits confined failed => ?_, respondWith_commit, onlyFlash_commit, fun failed => ?_⟩
  · obtain ⟨f, flash, left⟩ := storing_of_failed confined names takes failed
    refine ⟨⟨f, flash, left⟩, ?_⟩
    rw [left, Site.undisturbed_identify]
  · rw [← respondWith_commit] at failed ⊢
    rcases respondWith_failed names takes failed with ⟨-, same, -⟩ | ⟨u, -, st, e, -, wrote⟩
    · rw [same]
    · rw [commit_error wrote]
      rfl

/-- A site whose flash refuses to be written. -/
def refusingSite : Site := factorySite.setFlash { factorySite.board.flash with refusing := true }

def post (path body : String) : Request :=
  ⟨.post, path, none, none, [body.toUTF8.data.toList], none⟩

theorem failed_write_refused :
    let r := post "/config-write" "\x7b\"NAME\":\"Desk\",\"IDENTIFIER\":77\x7d"
    (respond r refusingSite).1.status = 500 ∧
      refusingSite.Undisturbed (respond r refusingSite).2 := by
  intro r
  have failed : (respond r refusingSite).1.status = 500 := by decide +kernel
  obtain ⟨every, same, confined, -⟩ := failed_write r refusingSite (by decide +kernel)
  rw [← same] at failed ⊢
  have nothing : r.early? refusingSite = none := by decide +kernel
  have kept := (every commit confined (by rw [failed]; decide)).2
  exact ⟨failed, kept.mpr (by simp [nothing])⟩

/-- The identifier of a failed request stays. -/
theorem failed_write_identifies :
    let r := post "/config-write-uap" "\x7b\"IDENTIFIER\":77\x7d"
    (respond r refusingSite).1.status = 500 ∧ refusingSite.device.identifier = 0 ∧
      (respond r refusingSite).2.device.identifier = 77 := by
  decide +kernel

end Server
end ConnectedDevice
