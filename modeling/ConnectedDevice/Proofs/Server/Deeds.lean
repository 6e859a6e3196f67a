import ConnectedDevice.Proofs.Device.Basic

/-!
The deeds that a request asks for. Only a body that was read as an update changes the settings.
-/

namespace ConnectedDevice.Server

open Act

/-- The update that a request carries, if it is of the method that writes, and its body can be
buffered and read. -/
def Request.update? (r : Request) : Option Update :=
  if r.method = .post then
    r.buffer.toOption.bind fun body => (parseUpdate body).toOption
  else none

/-- What may be done to answer a request that is not for firmware. -/
inductive Request.May (r : Request) : Deed → Prop
  | update {u : Update} :
      Resource.ofPath? r.path = some .settings → u ∈ r.update? → r.May (.change (.update u))
  | updateSoftAp {u : Update} :
      Resource.ofPath? r.path = some .softApSettings → u ∈ r.update? →
        r.May (.change (.updateSoftAp u))
  | commit {u : Update} : u ∈ r.update? → r.May .commit
  | softApJoin {u : Update} (due : Nat) (params : JoinParams) :
      Resource.ofPath? r.path = some .softApSettings → u ∈ r.update? →
        r.May (.spawn (.softApJoin due params))

variable {s : Site} {may : Deed → Prop}

theorem runs_report : s.Runs may anyway report.run := by
  refine .bindSettings (fun st _ => .liftDevice ?_) fun _ => trivial
  exact .pure trivial

/-- What follows the change of the settings by a request from the network that the device is on. -/
def written (applied : Update.Applied) : Fallible Unit := do
  commit
  match applied.identifier with
  | some identifier =>
    setIdentifier identifier
    reannounce .station
  | none => pure ()
  if applied.needReboot then requestPower .softwareReset

/-- What follows it when the request comes from the soft access point. -/
def writtenSoftAp (system : SystemConfig) : Fallible Unit := do
  commit
  spawn (.softApJoin ((← now) + limits.softApJoinDelay) (.normal system))

theorem runs_written (applied : Update.Applied) :
    s.Runs (· = .commit) anyway (written applied).run := by
  refine .bindOk (runs_commit rfl) (fun _ _ _ => ?_) fun _ _ => trivial
  refine .ofSilent ?_
  have finished : Silent (if applied.needReboot then
      requestPower .softwareReset else pure () : Fallible Unit).run := by
    split
    · exact .lift (silent_requestPower _)
    · exact .pure _
  dsimp only
  split
  · refine .bindLift (silent_setIdentifier _) fun _ => ?_
    exact .bindLift (silent_reannounce _) fun _ => finished
  · exact finished

section Write

variable {r : Request} {body : Bytes}

theorem runs_write (path : Resource.ofPath? r.path = some .settings)
    (carries : ∀ u, parseUpdate body = .ok u → u ∈ r.update?) :
    s.Runs r.May anyway (write body).run := by
  refine .bindOfExcept (fun u parsed => ?_) fun _ => trivial
  have read := carries u parsed
  refine .bindSettings (fun st loaded => ?_) fun _ => trivial
  refine .bindLift (runs_setSettings (.update u) loaded (.update path read)) fun _ t _ => ?_
  have written := runs_written (s := t) (u.apply st.system).2
  exact written.mono (fun _ commits => commits ▸ .commit read) fun _ => id

theorem runs_writeSoftAp (path : Resource.ofPath? r.path = some .softApSettings)
    (carries : ∀ u, parseUpdate body = .ok u → u ∈ r.update?) :
    s.Runs r.May anyway (writeSoftAp body).run := by
  refine .bindOfExcept (fun u parsed => ?_) fun _ => trivial
  have read := carries u parsed
  refine .bindSettings (fun st loaded => ?_) fun _ => trivial
  refine .bindLift (runs_setSettings (.updateSoftAp u) loaded (.updateSoftAp path read))
    fun _ t _ => ?_
  let system := (u.apply { st.system with bypass := .no }).1
  have joined (t : Site) : t.Runs r.May anyway (writtenSoftAp system).run := by
    refine .bindOk (runs_commit (.commit read)) (fun _ _ _ => .liftNow ?_) fun _ _ => trivial
    exact .bindLift (runs_spawn (.softApJoin _ _ path read)) fun _ _ _ => .pure trivial
  dsimp only
  split
  · exact .bindSilentLift (silent_setIdentifier _) fun _ t _ => joined t
  · exact joined t

end Write

theorem runs_conclude {α : Type} {x : Fallible α} (runs : s.Runs may anyway x.run) :
    s.Runs may anyway (conclude x) := by
  refine .bind runs fun answer _ _ => ?_
  cases answer with
  | ok _ => exact .pure trivial
  | error e => exact .pure trivial

theorem runs_buffered {r : Request} {handler : Bytes → Fallible Unit} (posted : r.method = .post)
    (runs : ∀ body, (∀ u, parseUpdate body = .ok u → u ∈ r.update?) →
      s.Runs may anyway (handler body).run) : s.Runs may anyway (buffered r handler) := by
  cases whole : r.buffer with
  | ok body =>
      simp only [buffered, whole]
      refine runs_conclude (runs body fun u parsed => ?_)
      simp [Request.update?, posted, whole, parsed, Except.toOption]
  | error response =>
      simp only [buffered, whole]
      exact .pure trivial

theorem Resource.post_of_allows {resource : Resource} {method : Method}
    (allowed : resource.allows method) (writes : resource ≠ .report) : method = .post := by
  cases resource with
  | report => exact absurd rfl writes
  | settings => cases method <;> simp [allows] at allowed ⊢
  | softApSettings => cases method <;> simp [allows] at allowed ⊢
  | firmware => cases method <;> simp [allows] at allowed ⊢

theorem runs_answer {resource : Resource} {r : Request}
    (named : Resource.ofPath? r.path = some resource) (allowed : resource.allows r.method)
    (settings : resource ≠ .firmware) : s.Runs r.May anyway (answer resource r) := by
  cases resource with
  | report =>
      refine .bind runs_report fun answer _ _ => ?_
      cases answer with
      | ok _ => exact .pure trivial
      | error e => exact .pure trivial
  | settings =>
      have posted := Resource.post_of_allows allowed (by decide)
      exact runs_buffered posted fun _ carries => runs_write named carries
  | softApSettings =>
      have posted := Resource.post_of_allows allowed (by decide)
      exact runs_buffered posted fun _ carries => runs_writeSoftAp named carries
  | firmware => exact absurd rfl settings

theorem runs_respond (r : Request) (settings : Resource.ofPath? r.path ≠ some .firmware) :
    s.Runs r.May anyway (respond r) := by
  unfold respond
  cases named : Resource.ofPath? r.path with
  | none => exact .pure trivial
  | some resource =>
      dsimp only
      split
      next => exact .pure trivial
      next refused =>
        have allowed : resource.allows r.method := by simpa using refused
        have other : resource ≠ .firmware := by
          rintro rfl
          exact settings named
        exact .bind (runs_answer named allowed other) fun _ _ _ => .pure trivial

end ConnectedDevice.Server
