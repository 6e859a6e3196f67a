import ConnectedDevice.Proofs.Server.Deeds
import ConnectedDevice.Proofs.Upload.Installation

/-!
Both resources that take settings deal with them alike: the update is read, the settings in memory
change, the record is written to flash, and what is left cannot fail. They differ in what they
change, in whether the device takes on the identifier of the update before the record is written,
and in what is left. Here the record may be written by any means, so that it may fail in any way.
-/

namespace ConnectedDevice

/-- The site under the session identifier that is given, if one is. -/
def Site.identify (s : Site) (identifier : Option UInt32) : Site :=
  { s with
    device := { s.device with identifier := identifier.getD s.device.identifier } }

/-- Whatever the act does, it does to the flash. -/
def Act.OnlyFlash (act : Fallible Unit) : Prop := ∀ s, ∃ flash, (act.run s).2 = s.setFlash flash

namespace Act

variable {s t : Site}

theorem onlyFlash_commit : OnlyFlash commit := fun _ => ⟨_, rfl⟩

theorem commit_error {e : Error} (failed : commit.run s = (.error e, t)) : t = s := by
  have left : t = s.setFlash (s.device.store.commit s.board.flash).2 :=
    (congrArg Prod.snd failed).symm
  have error : (s.device.store.commit s.board.flash).1 = .error e := congrArg Prod.fst failed
  rw [left]
  cases loaded : s.device.store.loaded with
  | none => simp [Store.commit, Store.lock, loaded, Site.setFlash]
  | some st =>
      have same : s.device.store.commit s.board.flash = st.commit s.board.flash := by
        simp [Store.commit, Store.lock, loaded]
      rw [same] at error ⊢
      rcases st.commit_cases s.board.flash with ⟨e, failed⟩ | ⟨image, r, -, -, -, -, done⟩
      · rw [failed]
        rfl
      · rw [done] at error
        cases error

theorem commit_ok (done : commit.run s = (.ok (), t)) :
    ∃ st flash, s.device.store.loaded = some st ∧ flash.stored? = some st.record ∧
      t = s.setFlash flash := by
  have left : t = s.setFlash (s.device.store.commit s.board.flash).2 :=
    (congrArg Prod.snd done).symm
  have ok : (s.device.store.commit s.board.flash).1 = .ok () := congrArg Prod.fst done
  rcases s.device.store.commit_outcome s.board.flash with ⟨e, failed⟩ | ⟨st, loaded, stored⟩
  · rw [failed] at ok
    cases ok
  · exact ⟨st, _, loaded, stored, left⟩

end Act

namespace Server

open Act

/-- How a resource deals with an update of the settings. -/
structure Writer where
  change : Update → Change
  /-- the identifier that the device takes on before the record is written -/
  early : Update → Option UInt32
  /-- what is done once the record is written -/
  finish : Update → Settings → Act Unit

namespace Writer

def settings : Writer where
  change := .update
  early _ := none
  finish u st := do
    match u.identifier with
    | some identifier =>
      setIdentifier identifier
      reannounce .station
    | none => pure ()
    if (u.apply st.system).2.needReboot then requestPower .softwareReset

def softApSettings : Writer where
  change := .updateSoftAp
  early := (·.identifier)
  finish u st := do
    spawn (.softApJoin ((← now) + limits.softApJoinDelay)
      (.normal (u.apply { st.system with bypass := .no }).1))

/-- The site when the record is about to be written. -/
def prepare (w : Writer) (u : Update) (st : Settings) (s : Site) : Site :=
  (s.remember ((w.change u).apply st)).identify (w.early u)

/-- Deals with a body, with the given means to write the record. -/
def handle (w : Writer) (commits : Fallible Unit) (body : Bytes) : Fallible Unit := do
  let update ← Fallible.ofExcept (parseUpdate body)
  let s ← Act.settings
  modify (w.prepare update s)
  commits
  w.finish update s

end Writer

/-- How the resource takes settings, if it does. -/
def Resource.writer? : Resource → Option Writer
  | .settings => some .settings
  | .softApSettings => some .softApSettings
  | .report | .firmware => none

/-- The answer of a resource where settings are written to flash by the given means. -/
def answerWith (commits : Fallible Unit) (resource : Resource) (r : Request) : Act Response :=
  match resource.writer? with
  | some w => buffered r (w.handle commits)
  | none => answer resource r

def respondWith (commits : Fallible Unit) (r : Request) : Act Response := do
  match Resource.ofPath? r.path with
  | none => return .bare 404
  | some resource =>
    if !resource.allows r.method then return .bare 405
    let response ← answerWith commits resource r
    return if r.method = .head then { response with body := "" } else response

/-- Once the record is written, what is left of a request cannot fail. -/
theorem written_eq (u : Update) (st : Settings) : written (u.apply st.system).2 =
    commit >>= fun _ => liftM (Writer.settings.finish u st) := by
  refine congrArg (bind commit) (funext fun _ => ?_)
  cases named : u.identifier <;> cases asks : (u.apply st.system).2.needReboot <;>
    simp only [Writer.settings, Update.apply, named] at asks ⊢ <;> simp only [asks] <;> rfl

theorem write_eq : write = Writer.settings.handle commit := by
  funext body
  refine congrArg (bind _) (funext fun u => congrArg (bind _) (funext fun st => ?_))
  exact congrArg (bind _) (funext fun _ => written_eq u st)

theorem writeSoftAp_eq : writeSoftAp = Writer.softApSettings.handle commit := by
  funext body
  refine congrArg (bind _) (funext fun u => congrArg (bind _) (funext fun st => ?_))
  -- the identifier is taken on inside of the act, so the act differs with whether there is one
  have prepares : Writer.softApSettings.prepare u st =
      fun s => (s.remember ((Change.updateSoftAp u).apply st)).identify u.identifier := rfl
  cases named : u.identifier <;> simp only [prepares, Update.apply, named] <;> rfl

theorem respondWith_commit : respondWith commit = respond := by
  have same : answerWith commit = answer := by
    funext resource r
    cases resource with
    | report | firmware => rfl
    | settings => simp only [answerWith, answer, Resource.writer?, write_eq]
    | softApSettings => simp only [answerWith, answer, Resource.writer?, writeSoftAp_eq]
  funext r
  rw [respondWith, same]
  rfl

section Handle

variable {w : Writer} {commits : Fallible Unit} {body : Bytes} {u : Update} {s : Site}

/-- What becomes of an update, once it is read. -/
def Writer.outcome (w : Writer) (commits : Fallible Unit) (u : Update) (s : Site) :
    Except Error Unit × Site :=
  match s.device.store.loaded with
  | none => (.error .storeNotInitialized, s)
  | some st =>
    match commits.run (w.prepare u st s) with
    | (.ok (), t) => (.ok (), (w.finish u st t).2)
    | (.error e, t) => (.error e, t)

theorem Writer.handle_of_unread {e : Error} (unread : parseUpdate body = .error e) :
    (w.handle commits body).run s = (.error e, s) := by
  rw [handle, unread]
  rfl

theorem Writer.handle_of_read (read : parseUpdate body = .ok u) :
    (w.handle commits body).run s = w.outcome commits u s := by
  rw [handle, Fallible.ofExcept_bind read, Fallible.bind_apply, outcome]
  cases loaded : s.device.store.loaded with
  | none => rw [settings_of_unloaded loaded]
  | some st =>
      rw [settings_of_loaded loaded]
      change (commits >>= fun _ => (liftM (w.finish u st) : Fallible Unit)).run
        (w.prepare u st s) = _
      rw [Fallible.bind_apply]
      dsimp only
      generalize commits.run (w.prepare u st s) = ended
      obtain ⟨answer, t⟩ := ended
      cases answer <;> rfl

/-- An update finds no settings, or its record cannot be written, or all of it is done. -/
theorem Writer.outcome_cases :
    (s.device.store.loaded = none ∧ w.outcome commits u s = (.error .storeNotInitialized, s)) ∨
      ∃ st t, s.device.store.loaded = some st ∧
        ((∃ e, commits.run (w.prepare u st s) = (.error e, t) ∧
            w.outcome commits u s = (.error e, t)) ∨
          commits.run (w.prepare u st s) = (.ok (), t) ∧
            w.outcome commits u s = (.ok (), (w.finish u st t).2)) := by
  unfold outcome
  cases loaded : s.device.store.loaded with
  | none => exact .inl ⟨rfl, rfl⟩
  | some st =>
      right
      rcases ended : commits.run (w.prepare u st s) with ⟨answer, t⟩
      cases answer with
      | error e => exact ⟨st, t, rfl, .inl ⟨e, ended, by simp only [ended]⟩⟩
      | ok _ => exact ⟨st, t, rfl, .inr ⟨ended, by simp only [ended]⟩⟩

theorem status_of_unread {e : Error} (unread : parseUpdate body = .error e) :
    (Response.ofError e).status = 400 := by
  unfold parseUpdate at unread
  split at unread
  · cases unread
    rfl
  · split at unread
    · cases unread
    · cases unread
      rfl

theorem status_of_unbuffered {r : Request} {refusal : Response}
    (unbuffered : r.buffer = .error refusal) : refusal.status ∈ [400, 413] := by
  unfold Request.buffer at unbuffered
  split at unbuffered
  · cases unbuffered
    simp [Response.plain]
  · split at unbuffered
    · cases unbuffered
      simp [Response.plain]
    · cases unbuffered

/-- The answer to an act that ended so. -/
def Response.ofEnd : Except Error Unit → Response
  | .ok _ => .bare 200
  | .error e => .ofError e

theorem conclude_run (x : Fallible Unit) :
    conclude x s = (.ofEnd (x.run s).1, (x.run s).2) := by
  rw [conclude, Act.bind_apply]
  cases (x.run s).1 <;> rfl

/-- A request to a resource that takes settings is refused, and changes nothing, unless it carries
an update. -/
theorem respondWith_of_names {resource : Resource} {r : Request}
    (names : Resource.ofPath? r.path = some resource) (takes : resource.writer? = some w) :
    (r.update? = none ∧ ∃ refusal : Response, respondWith commits r s = (refusal, s) ∧
        refusal.status ∈ [400, 405, 413]) ∨
      ∃ u ∈ r.update?, respondWith commits r s =
        (.ofEnd (w.outcome commits u s).1, (w.outcome commits u s).2) := by
  have writes : resource ≠ .report := by
    rintro rfl
    cases takes
  by_cases posted : r.method = .post
  · -- the answer to a POST keeps its body
    have answers : respondWith commits r s = buffered r (w.handle commits) s := by
      have allowed : resource.allows .post := by
        cases resource with
        | settings | softApSettings => rfl
        | report | firmware => cases takes
      simp [respondWith, answerWith, names, takes, allowed, posted]
    rw [answers]
    cases whole : r.buffer with
    | error refusal =>
        have status := status_of_unbuffered whole
        refine .inl ⟨by simp [Request.update?, whole, Except.toOption], refusal, ?_, ?_⟩
        · simp only [buffered, whole]
          rfl
        · simp only [List.mem_cons, List.not_mem_nil, or_false] at status ⊢
          omega
    | ok body =>
        simp only [buffered, whole, conclude_run]
        cases parsed : parseUpdate body with
        | error e =>
            rw [Writer.handle_of_unread parsed]
            refine .inl ⟨by simp [Request.update?, whole, parsed, Except.toOption], _, rfl, ?_⟩
            simp [Response.ofEnd, status_of_unread parsed]
        | ok u =>
            rw [Writer.handle_of_read parsed]
            exact .inr ⟨u, by simp [Request.update?, posted, whole, parsed, Except.toOption], rfl⟩
  · refine .inl ⟨by simp [Request.update?, posted], .bare 405, ?_, by simp [Response.bare]⟩
    have refused : ¬resource.allows r.method := fun allowed =>
      posted (Resource.post_of_allows allowed writes)
    simp only [respondWith, names, refused, Bool.not_false, if_true]
    rfl

end Handle
end Server
end ConnectedDevice
