import ConnectedDevice.Proofs.Codec.Writer
import ConnectedDevice.Proofs.Server.Deeds
import ConnectedDevice.Proofs.Store
import ConnectedDevice.Proofs.Upload.Deeds

/-!
No answer of the configuration server tells anything of the Wi-Fi keys but their lengths. Two
systems that differ in the contents of the keys give the same answers, and differ no further than
before. What else they differ in, such as the bytes in flash and the power requests, is not seen.
-/

namespace ConnectedDevice

/-- The same settings, but for the contents of the Wi-Fi keys. Their lengths are the same. -/
def SystemConfig.SameButKeys (c d : SystemConfig) : Prop :=
  ∃ userKey key, userKey.utf8ByteSize = c.userKey.utf8ByteSize ∧
    key.utf8ByteSize = c.key.utf8ByteSize ∧ d = { c with userKey, key }

def Settings.SameButKeys (s t : Settings) : Prop :=
  ∃ c, s.system.SameButKeys c ∧ t = s.modifySystem fun _ => c

/-- The same partitions, and both refuse changes or neither does. -/
structure Nor.Alike (f g : Nor) : Prop where
  partitions : ∀ p, f.partition? p = g.partition? p
  refusing : f.refusing = g.refusing

/-- Alike in all that an answer can depend on. -/
structure Site.Alike (s t : Site) : Prop where
  info : s.device.info = t.device.info
  loaded : Option.Rel Settings.SameButKeys s.device.store.loaded t.device.store.loaded
  flash : s.board.flash.Alike t.board.flash

/-- On sites that are alike, the acts give related answers, and leave sites that are alike. -/
def Act.Agree {α β : Type} (related : α → β → Prop) (x : Act α) (y : Act β) : Prop :=
  ∀ s t : Site, s.Alike t → related (x s).1 (y t).1 ∧ (x s).2.Alike (y t).2

namespace SystemConfig

variable {c d : SystemConfig}

theorem SameButKeys.advance (same : c.SameButKeys d) (next : ConfigState) :
    (c.advance next).SameButKeys (d.advance next) := by
  obtain ⟨userKey, key, entered, derived, rfl⟩ := same
  simp only [SystemConfig.advance]
  split <;> exact ⟨userKey, key, entered, derived, rfl⟩

theorem SameButKeys.clearBypass (same : c.SameButKeys d) :
    { c with bypass := .no }.SameButKeys { d with bypass := .no } := by
  obtain ⟨userKey, key, entered, derived, rfl⟩ := same
  exact ⟨userKey, key, entered, derived, rfl⟩

theorem SameButKeys.length_encode (same : c.SameButKeys d) :
    d.encode.length = c.encode.length := by
  obtain ⟨userKey, key, entered, derived, rfl⟩ := same
  simp only [encode, List.length_append, Writer.length_text, entered, derived]

end SystemConfig

/-- A change of a field that is made alike in settings that differ in the keys. -/
def Update.Blind {α : Type} (put : SystemConfig → α → SystemConfig) : Prop :=
  ∀ c d x, c.SameButKeys d → (put c x).SameButKeys (put d x)

namespace Update

/-- A field apart from the keys. -/
theorem blind_of_apart {α : Type} {put : SystemConfig → α → SystemConfig}
    (entered : ∀ c x, (put c x).userKey = c.userKey) (derived : ∀ c x, (put c x).key = c.key)
    (apart : ∀ c userKey key x, put { c with userKey, key } x = { put c x with userKey, key }) :
    Blind put := by
  rintro c _ x ⟨userKey, key, sameEntered, sameDerived, rfl⟩
  exact ⟨userKey, key, by rw [sameEntered, entered], by rw [sameDerived, derived], apart ..⟩

theorem blind_putSsid : Blind putSsid := by
  rintro c _ ssid ⟨userKey, key, entered, derived, rfl⟩
  exact ⟨userKey, userKey, entered, entered, rfl⟩

theorem blind_putPassword : Blind putPassword :=
  fun _ _ password ⟨_, _, _, _, same⟩ => ⟨password, password, rfl, rfl, by rw [same]; rfl⟩

theorem Edited.sameButKeys_set {α : Type} [BEq α] {e f : Edited} {get : SystemConfig → α}
    {put : SystemConfig → α → SystemConfig} (same : e.config.SameButKeys f.config)
    (blind : Blind put) (o : Option α) :
    (e.set get put o).config.SameButKeys (f.set get put o).config := by
  cases o with
  | none => exact same
  | some x => exact blind _ _ x same

/-- An update may copy one key into the other, which makes the lengths agree as well. -/
theorem sameButKeys_apply (u : Update) {c d : SystemConfig} (same : c.SameButKeys d) :
    (u.apply c).1.SameButKeys (u.apply d).1 := by
  simp only [apply, edit, Edited.setText]
  -- from the last field to the first: only the password and the network name concern the keys
  iterate 7
    refine Edited.sameButKeys_set ?_
      (by exact blind_of_apart (fun _ _ => rfl) (fun _ _ => rfl) fun _ _ _ _ => rfl) _
  refine Edited.sameButKeys_set ?_ blind_putPassword _
  refine Edited.sameButKeys_set ?_ blind_putSsid _
  exact Edited.sameButKeys_set same
    (by exact blind_of_apart (fun _ _ => rfl) (fun _ _ => rfl) fun _ _ _ _ => rfl) _

end Update

namespace Nor.Alike

variable {f g : Nor} {p : Partition}

theorem region? (alike : f.Alike g) (p : Partition) :
    (f.region? p = none ∧ g.region? p = none) ∨
      ∃ r s, f.region? p = some r ∧ g.region? p = some s ∧ r.info = s.info := by
  have same := alike.partitions p
  simp only [partition?] at same
  cases here : f.region? p <;> cases there : g.region? p <;> simp [here, there] at same ⊢
  exact same

theorem setRegion (alike : f.Alike g) {r s : Region} (same : r.info = s.info) :
    (f.setRegion r p).Alike (g.setRegion s p) where
  partitions q := by
    rw [partition?_setRegion, partition?_setRegion, same, alike.partitions]
  refusing := by rw [setRegion_refusing, setRegion_refusing, alike.refusing]

theorem erase (alike : f.Alike g) (p : Partition) : SameEnd Alike (f.erase p) (g.erase p) := by
  cases refusing : f.refusing with
  | true =>
      rw [erase_of_refusing refusing, erase_of_refusing (alike.refusing ▸ refusing)]
      exact .error _
  | false =>
      have accepting : g.refusing = false := alike.refusing ▸ refusing
      rcases alike.region? p with ⟨here, there⟩ | ⟨r, s, here, there, same⟩
      · rw [erase_of_missing refusing here, erase_of_missing accepting there]
        exact .error _
      · rw [erase_eq_ok.mpr ⟨refusing, r, here, rfl⟩, erase_eq_ok.mpr ⟨accepting, s, there, rfl⟩]
        exact .ok (alike.setRegion (by rw [same]))

/-- Of the bytes that are written only their number is seen. -/
theorem write (alike : f.Alike g) (p : Partition) (offset : Nat) {a b : Bytes}
    (length : a.length = b.length) :
    SameEnd Alike (f.write p offset a) (g.write p offset b) := by
  cases refusing : f.refusing with
  | true =>
      rw [write_of_refusing refusing, write_of_refusing (alike.refusing ▸ refusing)]
      exact .error _
  | false =>
      have accepting : g.refusing = false := alike.refusing ▸ refusing
      rcases alike.region? p with ⟨here, there⟩ | ⟨r, s, here, there, same⟩
      · rw [write_of_missing refusing here, write_of_missing accepting there]
        exact .error _
      · have size : r.cells.size = s.cells.size := congrArg PartitionInfo.size same
        by_cases fits : offset + a.length ≤ r.cells.size
        · rw [write_eq_ok.mpr ⟨refusing, r, here, fits, rfl⟩,
            write_eq_ok.mpr ⟨accepting, s, there, length ▸ size ▸ fits, rfl⟩]
          refine .ok (alike.setRegion ?_)
          simpa [Region.info, Region.size_program] using same
        · rw [write_outOfRange refusing here fits,
            write_outOfRange accepting there (length ▸ size ▸ fits), ← length, ← size]
          exact .error _

end Nor.Alike

namespace Settings.SameButKeys

variable {s t : Settings}

theorem length_payload (same : s.SameButKeys t) :
    t.record.payload.length = s.record.payload.length := by
  obtain ⟨c, keys, rfl⟩ := same
  have length := keys.length_encode
  simp only [system] at length
  simp only [ConfigRecord.length_payload, modifySystem, ConfigRecord.encode, List.length_append,
    length]

theorem toImage (same : s.SameButKeys t) :
    SameEnd (fun a b => a.length = b.length) s.record.toImage t.record.toImage := by
  have length := same.length_payload
  simp only [ConfigRecord.toImage, length]
  split
  · exact .ok (by simp [length])
  · exact .error _

theorem install (same : s.SameButKeys t) (table : BootTable) :
    (Upload.install table s).SameButKeys (Upload.install table t) := by
  obtain ⟨c, ⟨userKey, key, entered, derived, rfl⟩, rfl⟩ := same
  exact ⟨_, ⟨userKey, key, entered, derived, rfl⟩, rfl⟩

theorem system (same : s.SameButKeys t) : s.system.SameButKeys t.system := by
  obtain ⟨_, keys, rfl⟩ := same
  exact keys

theorem modifySystem (same : s.SameButKeys t) {c d : SystemConfig} (keys : c.SameButKeys d) :
    (s.modifySystem fun _ => c).SameButKeys (t.modifySystem fun _ => d) := by
  obtain ⟨_, _, rfl⟩ := same
  exact ⟨d, keys, rfl⟩

/-- A commit that fails tells the length of the image at most. -/
theorem commit {f g : Nor} (same : s.SameButKeys t) (alike : f.Alike g) :
    (s.commit f).1 = (t.commit g).1 ∧ (s.commit f).2.Alike (t.commit g).2 := by
  have images := same.toImage
  simp only [Settings.commit]
  generalize s.record.toImage = x at images ⊢
  generalize t.record.toImage = y at images ⊢
  cases images with
  | error e => exact ⟨rfl, alike⟩
  | @ok a b length =>
      dsimp only
      rw [← alike.partitions, ← length]
      split
      · exact ⟨rfl, alike⟩
      · have erases := alike.erase .config
        generalize f.erase .config = x at erases ⊢
        generalize g.erase .config = y at erases ⊢
        cases erases with
        | error e => exact ⟨rfl, alike⟩
        | @ok f g blank =>
            have writes := blank.write .config 0 length
            dsimp only
            generalize f.write .config 0 a = x at writes ⊢
            generalize g.write .config 0 b = y at writes ⊢
            cases writes with
            | error e => exact ⟨rfl, blank⟩
            | ok written => exact ⟨rfl, written⟩

end Settings.SameButKeys

/-- What an act leaves as it is if no answer can depend on it. -/
structure Site.Unseen (s t : Site) : Prop where
  info : t.device.info = s.device.info
  store : t.device.store = s.device.store
  flash : t.board.flash = s.board.flash

def Act.Unseen {α : Type} (act : Act α) : Prop := ∀ s : Site, s.Unseen (act s).2

namespace Act

variable {α β α' β' : Type} {related : α → β → Prop} {final : α' → β' → Prop}

namespace Agree

theorem pure {a : α} {b : β} (both : related a b) :
    Agree related (Pure.pure a) (Pure.pure b) :=
  fun _ _ alike => ⟨both, alike⟩

theorem bind {x : Act α} {y : Act β} {f : α → Act α'} {g : β → Act β'} (first : Agree related x y)
    (next : ∀ a b, related a b → Agree final (f a) (g b)) : Agree final (x >>= f) (y >>= g) :=
  fun s t alike =>
    have ⟨both, later⟩ := first s t alike
    next _ _ both _ _ later

/-- Of acts that can fail both go on, or both end with one error. -/
theorem bindOk {x : Fallible α} {y : Fallible β} {f : α → Fallible α'} {g : β → Fallible β'}
    (first : Agree (SameEnd related) x.run y.run)
    (next : ∀ a b, related a b → Agree (SameEnd final) (f a).run (g b).run) :
    Agree (SameEnd final) (x >>= f).run (y >>= g).run := by
  rw [ExceptT.run_bind, ExceptT.run_bind]
  refine first.bind fun a b ends => ?_
  cases ends with
  | ok both => exact next _ _ both
  | error e => exact .pure (.error e)

theorem lift {x : Act α} {y : Act β} (agree : Agree related x y) :
    Agree (SameEnd related) (liftM x : Fallible α).run (liftM y : Fallible β).run :=
  fun s t alike =>
    have ⟨both, later⟩ := agree s t alike
    ⟨.ok both, later⟩

theorem get : Agree Site.Alike MonadState.get MonadState.get := fun _ _ alike => ⟨alike, alike⟩

theorem device : Agree (fun d e : Device => d.info = e.info) device device :=
  fun _ _ alike => ⟨alike.info, alike⟩

theorem ofExcept {x : Except Error α} {y : Except Error β} (ends : SameEnd related x y) :
    Agree (SameEnd related) (Fallible.ofExcept x).run (Fallible.ofExcept y).run :=
  .pure ends

theorem throw (e : Error) :
    Agree (SameEnd related) (throw e : Fallible α).run (MonadExcept.throw e : Fallible β).run :=
  .pure (.error e)

/-- Acts that no answer depends on need not be the same. -/
theorem ofUnseen {x : Act α} {y : Act β} (here : x.Unseen) (there : y.Unseen)
    (both : ∀ s t, related (x s).1 (y t).1) : Agree related x y := by
  intro s t alike
  refine ⟨both s t, ?_, ?_, ?_⟩
  · rw [(here s).info, (there t).info, alike.info]
  · rw [(here s).store, (there t).store]
    exact alike.loaded
  · rw [(here s).flash, (there t).flash]
    exact alike.flash

theorem unseen {x : Act Unit} (unseen : x.Unseen) : Agree Eq x x :=
  .ofUnseen unseen unseen fun _ _ => rfl

theorem settings : Agree (SameEnd Settings.SameButKeys) settings.run settings.run := by
  intro s t alike
  have read (u : Site) : Act.settings.run u = (u.device.store.lock, u) := rfl
  have loaded := alike.loaded
  refine ⟨?_, alike⟩
  rw [read, read, Store.lock, Store.lock]
  generalize s.device.store.loaded = x at loaded ⊢
  generalize t.device.store.loaded = y at loaded ⊢
  cases loaded with
  | none => exact .error _
  | some same => exact .ok same

theorem setSettings {a b : Settings} (same : a.SameButKeys b) :
    Agree Eq (setSettings a) (setSettings b) :=
  fun _ _ alike => ⟨rfl, alike.info, .some same, alike.flash⟩

theorem commit : Agree (SameEnd Eq) commit.run commit.run := by
  intro s t alike
  have ran (u : Site) : Act.commit.run u = ((u.device.store.commit u.board.flash).1,
      u.setFlash (u.device.store.commit u.board.flash).2) := rfl
  have outcome : (s.device.store.commit s.board.flash).1 = (t.device.store.commit t.board.flash).1 ∧
      (s.device.store.commit s.board.flash).2.Alike (t.device.store.commit t.board.flash).2 := by
    have loaded := alike.loaded
    simp only [Store.commit, Store.lock]
    generalize s.device.store.loaded = x at loaded ⊢
    generalize t.device.store.loaded = y at loaded ⊢
    cases loaded with
    | none => exact ⟨rfl, alike.flash⟩
    | some same => exact same.commit alike.flash
  exact ⟨.ofEq outcome.1, alike.info, alike.loaded, outcome.2⟩

theorem onFlash {first second : Nor → Except FlashError Nor}
    (ends : ∀ f g : Nor, f.Alike g → SameEnd Nor.Alike (first f) (second g)) :
    Agree (SameEnd Eq) (onFlash first).run (onFlash second).run := by
  intro s t alike
  have ends := ends _ _ alike.flash
  rw [show (Act.onFlash first).run s = _ from onFlash_run first s,
    show (Act.onFlash second).run t = _ from onFlash_run second t]
  generalize first s.board.flash = x at ends ⊢
  generalize second t.board.flash = y at ends ⊢
  cases ends with
  | ok both => exact ⟨.ok rfl, alike.info, alike.loaded, both⟩
  | error e => exact ⟨.error _, alike⟩

end Agree

theorem unseen_reannounce (i : Interface) : Unseen (reannounce i) := fun _ => ⟨rfl, rfl, rfl⟩

theorem unseen_setIdentifier (identifier : UInt32) : Unseen (setIdentifier identifier) :=
  fun _ => ⟨rfl, rfl, rfl⟩

theorem unseen_requestPower (state : PowerState) : Unseen (requestPower state) :=
  fun _ => ⟨rfl, rfl, rfl⟩

end Act

namespace Upload

open Act

theorem agree_start (declared : Option Nat) :
    Agree (SameEnd Eq) (start declared).run (start declared).run := by
  refine .bindOk (.lift .get) fun s t alike => ?_
  rw [alike.flash.partitions]
  split
  · exact .throw _
  · split
    · split
      · exact .throw _
      · exact .pure (.ok rfl)
    · exact .pure (.ok rfl)

theorem agree_receive (u : Upload) (chunk : Bytes) :
    Agree (SameEnd Eq) (u.receive chunk).run (u.receive chunk).run := by
  have written : Agree (SameEnd Eq) (u.append chunk).run (u.append chunk).run :=
    .bindOk (.onFlash fun _ _ alike => alike.write _ _ rfl) fun _ _ _ => .pure (.ok rfl)
  unfold receive
  split
  · exact .pure (.ok rfl)
  · dsimp only
    split
    · exact .throw _
    · split
      · exact .bindOk (.onFlash fun _ _ alike => alike.erase _) fun _ _ _ => written
      · exact written

theorem agree_finish (u : Upload) : Agree (SameEnd Eq) u.finish.run u.finish.run := by
  refine .bindOk (.ofExcept (.ofEq rfl)) fun table _ same => ?_
  subst same
  refine .bindOk .settings fun s t keys => ?_
  refine .bindOk (.lift (.setSettings (keys.install table))) fun _ _ _ => ?_
  refine .bindOk .commit fun _ _ _ => ?_
  refine .bindOk (.lift (.unseen (unseen_requestPower _))) fun _ _ _ => ?_
  exact .pure (.ok rfl)

theorem agree_receiveAll (declared : Option Nat) (chunks : List Bytes) (fault : Option String) :
    Agree (SameEnd Eq) (receiveAll declared chunks fault).run
      (receiveAll declared chunks fault).run := by
  refine .bindOk (agree_start declared) fun u _ same => ?_
  subst same
  induction chunks generalizing u with
  | nil =>
      cases fault with
      | some text => exact .throw _
      | none => exact agree_finish u
  | cons chunk chunks ih =>
      refine .bindOk (agree_receive u chunk) fun v _ same => ?_
      subst same
      exact ih v

end Upload

namespace Server

open Act

theorem agree_report : Agree (SameEnd Eq) report.run report.run := by
  refine .bindOk .settings fun a b ⟨c, ⟨_, _, _, _, keys⟩, same⟩ => ?_
  refine .bindOk (.lift .device) fun d e info => .pure (.ok ?_)
  subst keys same
  rw [info]
  rfl

/-- The changes that were seen may differ: they decide on a reset, not on the answer. -/
theorem agree_written {here there : Update.Applied} (same : here.identifier = there.identifier) :
    Agree (SameEnd Eq) (written here).run (written there).run := by
  have unseen (applied : Update.Applied) : Unseen (if applied.needReboot then
      requestPower .softwareReset else pure () : Fallible Unit).run := by
    split
    · exact unseen_requestPower _
    · exact fun _ => ⟨rfl, rfl, rfl⟩
  have done (applied : Update.Applied) (s : Site) : ((if applied.needReboot then
      requestPower .softwareReset else pure () : Fallible Unit).run s).1 = .ok () := by
    split <;> rfl
  have finished : Agree (SameEnd Eq)
      (if here.needReboot then requestPower .softwareReset else pure () : Fallible Unit).run
      (if there.needReboot then requestPower .softwareReset else pure () : Fallible Unit).run :=
    .ofUnseen (unseen here) (unseen there) fun s t =>
      .ofEq ((done here s).trans (done there t).symm)
  unfold written
  refine .bindOk .commit fun _ _ _ => ?_
  rw [same]
  dsimp only
  split
  · refine .bindOk (.lift (.unseen (unseen_setIdentifier _))) fun _ _ _ => ?_
    exact .bindOk (.lift (.unseen (unseen_reannounce _))) fun _ _ _ => finished
  · exact finished

theorem agree_write (body : Bytes) : Agree (SameEnd Eq) (write body).run (write body).run := by
  refine .bindOk (.ofExcept (.ofEq rfl)) fun u _ same => ?_
  subst same
  refine .bindOk .settings fun a b same => ?_
  have applied := (u.sameButKeys_apply same.system).advance .allConfigured
  exact .bindOk (.lift (.setSettings (same.modifySystem applied))) fun _ _ _ => agree_written rfl

theorem agree_writeSoftAp (body : Bytes) :
    Agree (SameEnd Eq) (writeSoftAp body).run (writeSoftAp body).run := by
  refine .bindOk (.ofExcept (.ofEq rfl)) fun u _ same => ?_
  subst same
  refine .bindOk .settings fun a b same => ?_
  have applied := u.sameButKeys_apply same.system.clearBypass
  refine .bindOk (.lift (.setSettings (same.modifySystem applied))) fun _ _ _ => ?_
  have joined (c d : SystemConfig) : Agree (SameEnd Eq) (writtenSoftAp c).run
      (writtenSoftAp d).run := by
    refine .bindOk .commit fun _ _ _ => ?_
    exact .ofUnseen (fun _ => ⟨rfl, rfl, rfl⟩) (fun _ => ⟨rfl, rfl, rfl⟩) fun _ _ => .ok rfl
  dsimp only
  split
  · refine .bindOk (.lift (.unseen (unseen_setIdentifier _))) fun _ _ _ => ?_
    exact joined _ _
  · exact joined _ _

theorem agree_conclude {α : Type} {x y : Fallible α} (agree : Agree (SameEnd Eq) x.run y.run) :
    Agree Eq (conclude x) (conclude y) := by
  refine .bind agree fun a b ends => ?_
  cases ends with
  | ok _ => exact .pure rfl
  | error e => exact .pure rfl

theorem agree_receiveFirmware (r : Request) : Agree Eq (receiveFirmware r) (receiveFirmware r) := by
  refine .bind .get fun s t alike => ?_
  rw [alike.flash.partitions]
  split
  · exact .pure rfl
  · split
    · exact .pure rfl
    · exact agree_conclude (Upload.agree_receiveAll _ _ _)

theorem agree_buffered (r : Request) {handler : Bytes → Fallible Unit}
    (agree : ∀ body, Agree (SameEnd Eq) (handler body).run (handler body).run) :
    Agree Eq (buffered r handler) (buffered r handler) := by
  unfold buffered
  split
  · exact agree_conclude (agree _)
  · exact .pure rfl

theorem agree_answer (resource : Resource) (r : Request) :
    Agree Eq (answer resource r) (answer resource r) := by
  cases resource with
  | report =>
      refine .bind agree_report fun a b ends => ?_
      cases ends with
      | ok same => exact .pure (by rw [same])
      | error e => exact .pure rfl
  | settings => exact agree_buffered r agree_write
  | softApSettings => exact agree_buffered r agree_writeSoftAp
  | firmware => exact agree_receiveFirmware r

theorem agree_respond (r : Request) : Agree Eq (respond r) (respond r) := by
  unfold respond
  split
  · exact .pure rfl
  · split
    · exact .pure rfl
    · exact .bind (agree_answer _ r) fun a b same => .pure (by rw [same])

theorem agree_responses (rs : List Request) : Agree Eq (rs.mapM respond) (rs.mapM respond) := by
  induction rs with
  | nil => exact .pure rfl
  | cons r rs ih =>
      rw [List.mapM_cons]
      refine .bind (agree_respond r) fun a _ same => ?_
      subst same
      refine .bind ih fun as _ same => ?_
      subst same
      exact .pure rfl

/-- Whatever is asked, in whatever order, the answers do not tell the keys apart. -/
theorem responses_hide_keys {s t : Site} (alike : s.Alike t) (rs : List Request) :
    (rs.mapM respond s).1 = (rs.mapM respond t).1 ∧
      (rs.mapM respond s).2.Alike (rs.mapM respond t).2 :=
  agree_responses rs s t alike

def keyedSettings (userKey key : String) : Settings :=
  let system := { SystemConfig.factory "Kitchen" 1 with
    ssid := "Home", userKey, key, configured := .allConfigured }
  ⟨⟨.empty, system, []⟩, .empty⟩

/-- A device in its network, with the given keys in memory and in flash. -/
def keyedSite (userKey key : String) : Site :=
  let settings := keyedSettings userKey key
  let blank := Nor.blank [(.config, ⟨0x4000, 96⟩), (.otaTemp, ⟨0x88000, 4⟩)]
  let hardware : Hardware := ⟨.error .stopped, .error .stopped, fun _ => .ok (), .ok⟩
  let device := Device.make .standard .product false
  ⟨0, .make (settings.commit blank).2 8 hardware,
    { device with store := (Store.make "Kitchen" 1).set settings }, []⟩

/-- The key of one device is sent to it again, then a name that is too long for the partition, and
an image that is too large. -/
def keyProbes : List Request :=
  [⟨.get, "/config-read", none, none, [], none⟩,
    ⟨.post, "/config-write", none, none,
      ["\x7b\"SSID\":\"Home\",\"PASSWORD\":\"12345678\"\x7d".toUTF8.data.toList], none⟩,
    ⟨.post, "/config-write-uap", none, none,
      ["\x7b\"NAME\":\"A kitchen with a longer name\"\x7d".toUTF8.data.toList], none⟩,
    ⟨.post, "/OTA", some firmwareType, none, [[1, 2, 3], [4, 5]], none⟩,
    ⟨.get, "/config-read", none, none, [], none⟩]

/-- Only one of the two devices is reset, but both answer alike. -/
theorem responses_hide_keys_probed :
    (keyedSite "12345678" "abc").Alike (keyedSite "87654321" "xyz") ∧
      (keyProbes.mapM respond (keyedSite "12345678" "abc")).1 =
        (keyProbes.mapM respond (keyedSite "87654321" "xyz")).1 ∧
      ((keyProbes.mapM respond (keyedSite "12345678" "abc")).1.map (·.status),
        (keyProbes.mapM respond (keyedSite "12345678" "abc")).2.device.power.permit,
        (keyProbes.mapM respond (keyedSite "87654321" "xyz")).2.device.power.permit) =
          ([200, 200, 500, 400, 200], false, true) := by
  have same : (keyedSettings "12345678" "abc").SameButKeys (keyedSettings "87654321" "xyz") :=
    ⟨_, ⟨"87654321", "xyz", by decide, by decide, rfl⟩, rfl⟩
  have alike : (keyedSite "12345678" "abc").Alike (keyedSite "87654321" "xyz") :=
    ⟨rfl, .some same, (same.commit ⟨fun _ => rfl, rfl⟩).2⟩
  exact ⟨alike, (responses_hide_keys alike keyProbes).1, by decide +kernel⟩

end Server

end ConnectedDevice
