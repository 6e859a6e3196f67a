import ConnectedDevice.Proofs.Config.Image
import ConnectedDevice.Proofs.Flash.Nor
import ConnectedDevice.Store

/-!
A commit either leaves the flash as it is, or leaves the image of the record and erased bytes in
the configuration partition, from which the record is read back.
-/

namespace ConnectedDevice

/-- The record that the configuration partition holds, if it holds one. -/
def Nor.stored? (f : Nor) : Option ConfigRecord :=
  (f.contents? .config).bind fun image => (ConfigRecord.ofImage image).toOption

theorem ConfigRecord.length_toImage {r : ConfigRecord} {image : Bytes}
    (written : r.toImage = .ok image) : 8 ≤ image.length := by
  obtain ⟨_, rfl⟩ := (r.toImage_eq_ok_iff image).mp written
  simp
  omega

theorem ConfigRecord.length_resizeApp (r : ConfigRecord) (n : Nat) :
    (r.resizeApp n).appConfig.length = n := by
  simp [resizeApp]
  omega

theorem ConfigRecord.resizeApp_length (r : ConfigRecord) :
    r.resizeApp r.appConfig.length = r := by
  simp [resizeApp]

namespace Settings

variable (s : Settings) (f : Nor)

/-- The region `r` with an image at its front and erased bytes behind. -/
def imageRegion (r : Region) (image : Bytes) : Region :=
  { r with cells := (image ++ List.replicate (r.cells.size - image.length) erased).toArray }

theorem commit_written {image : Bytes} {r : Region} (written : s.record.toImage = .ok image)
    (region : f.region? .config = some r) (fits : image.length ≤ r.cells.size)
    (accepting : f.refusing = false) :
    s.commit f = (.ok (), f.setRegion (imageRegion r image) .config) := by
  let blank := f.setRegion (.blank r.info) .config
  have size : ((f.partition? .config).map (·.size)).getD 0 = r.cells.size := by
    simp [Nor.partition?, region, Region.info]
  have blanked : f.erase .config = .ok blank := Nor.erase_eq_ok.mpr ⟨accepting, r, region, rfl⟩
  have filled : Region.program (Region.blank r.info).cells 0 image =
      (image ++ List.replicate (r.cells.size - image.length) erased).toArray := by
    rw [← Array.toList_inj, Region.program_blank fits]
    rfl
  have programmed : blank.write .config 0 image =
      .ok (f.setRegion (imageRegion r image) .config) := by
    refine Nor.write_eq_ok.mpr ⟨accepting, .blank r.info, by simp [blank], ?_, ?_⟩
    · simpa [Region.blank, Region.info] using fits
    · simp only [imageRegion, filled]
      rfl
  simp [commit, written, size, Nat.not_lt.mpr fits, blanked, programmed]

section Refused

variable {image : Bytes} {info : PartitionInfo}

theorem commit_tooLarge (written : s.record.toImage = .ok image)
    (place : f.partition? .config = some info) (large : info.size < image.length) :
    s.commit f = (.error (.recordTooLarge image.length info.size), f) := by
  simp [commit, written, place, large]

theorem commit_refused (written : s.record.toImage = .ok image)
    (place : f.partition? .config = some info) (fits : image.length ≤ info.size)
    (refusing : f.refusing = true) : s.commit f = (.error (.flash (.refused .config)), f) := by
  simp [commit, written, place, Nat.not_lt.mpr fits, Nor.erase_of_refusing refusing]

end Refused

theorem commit_cases :
    (∃ e, s.commit f = (.error e, f)) ∨
      ∃ image r, s.record.toImage = .ok image ∧ f.region? .config = some r ∧
        image.length ≤ r.cells.size ∧ f.refusing = false ∧
        s.commit f = (.ok (), f.setRegion (imageRegion r image) .config) := by
  cases written : s.record.toImage with
  | error e => exact .inl ⟨.image e, by simp [commit, written]⟩
  | ok image =>
      have nonempty := ConfigRecord.length_toImage written
      cases region : f.region? .config with
      | none =>
          have size : ((f.partition? .config).map (·.size)).getD 0 = 0 := by
            simp [Nor.partition?, region]
          exact .inl ⟨.recordTooLarge image.length 0,
            by simp [commit, written, size, show 0 < image.length by omega]⟩
      | some r =>
          have place : f.partition? .config = some r.info := by simp [Nor.partition?, region]
          by_cases fits : image.length ≤ r.cells.size
          · cases refusing : f.refusing with
            | true => exact .inl ⟨_, s.commit_refused f written place fits refusing⟩
            | false =>
                exact .inr ⟨image, r, rfl, rfl, fits, rfl,
                  s.commit_written f written region fits refusing⟩
          · exact .inl ⟨_, s.commit_tooLarge f written place (Nat.lt_of_not_le fits)⟩

/-- A commit succeeds exactly if the partition is there, has room for the image, and is writable. -/
theorem commit_ok_iff : (s.commit f).1 = .ok () ↔ ∃ image info, s.record.toImage = .ok image ∧
    f.partition? .config = some info ∧ image.length ≤ info.size ∧ f.refusing = false := by
  constructor
  · intro committed
    rcases s.commit_cases f with ⟨e, failed⟩ | ⟨image, r, written, region, fits, accepting, -⟩
    · simp [failed] at committed
    · exact ⟨image, r.info, written, by simp [Nor.partition?, region], fits, accepting⟩
  · rintro ⟨image, info, written, place, fits, accepting⟩
    obtain ⟨r, region, rfl⟩ := Option.map_eq_some_iff.mp place
    rw [s.commit_written f written region fits accepting]

/-- A commit concerns the configuration partition alone. -/
theorem region?_commit {p : Partition} (other : p ≠ .config) :
    (s.commit f).2.region? p = f.region? p := by
  rcases s.commit_cases f with ⟨e, failed⟩ | ⟨image, r, _, _, _, _, done⟩
  · rw [failed]
  · rw [done]
    simp [Ne.symm other]

theorem commit_outcome :
    (∃ e, s.commit f = (.error e, f)) ∨ (s.commit f).2.stored? = some s.record := by
  rcases s.commit_cases f with failed | ⟨image, r, written, _, _, _, done⟩
  · exact .inl failed
  · rw [done]
    have back := ConfigRecord.ofImage_append written
      (List.replicate (r.cells.size - image.length) erased)
    exact .inr (by simp [Nor.stored?, Nor.contents?, imageRegion, back, Except.toOption])

end Settings

namespace Nor

variable {f : Nor}

theorem stored?_setRegion {p : Partition} (other : p ≠ .config) (r : Region) :
    (f.setRegion r p).stored? = f.stored? := by
  simp [stored?, contents?, other]

/-- Erased bytes are no image. -/
theorem stored?_blank (layout : Layout) : (blank layout).stored? = none := by
  cases place : layout.find? .config with
  | none => simp [stored?, contents?, region?, blank, place]
  | some info =>
      cases read : ConfigRecord.ofImage (List.replicate info.size erased) with
      | error e =>
          simp [stored?, contents?, region?, blank, place, Region.blank, read, Except.toOption]
      | ok r =>
          obtain ⟨rest, image⟩ := ConfigRecord.ofImage_eq_ok read
          have mark : 0x4F ∈ List.replicate info.size erased := by
            rw [image]
            simp [Bytes.ofWord32, ConfigRecord.magic]
          exact absurd (List.eq_of_mem_replicate mark) (by decide)

end Nor

namespace Store

variable {s s' : Store} {f : Nor} {n : Nat}

/-- A commit fails and changes nothing, or what is in memory is in flash. -/
theorem commit_outcome (s : Store) (f : Nor) : (∃ e, s.commit f = (.error e, f)) ∨
    ∃ st, s.loaded = some st ∧ (s.commit f).2.stored? = some st.record := by
  cases loaded : s.loaded with
  | none => exact .inl ⟨.storeNotInitialized, by simp [commit, lock, loaded]⟩
  | some st =>
      have same : s.commit f = st.commit f := by simp [commit, lock, loaded]
      rw [same]
      exact (st.commit_outcome f).imp_right fun stored => ⟨st, rfl, stored⟩

theorem init_of_region {r : Region} (s : Store) (region : f.region? .config = some r) :
    s.init f n = .ok (s.set ⟨s.recordOf r.cells.toList n, .empty⟩) := by
  have whole : f.read .config 0 r.cells.size = .ok r.cells.toList := by
    simp [Nor.read, Nor.find, region, checkRange, bind, Except.bind, pure, Except.pure]
  simp [init, Nor.partition?, region, Region.info, whole]

theorem init_eq_ok (read : s.init f n = .ok s') :
    ∃ image, f.contents? .config = some image ∧ s' = s.set ⟨s.recordOf image n, .empty⟩ := by
  cases region : f.region? .config with
  | none => simp [init, Nor.partition?, region] at read
  | some r =>
      rw [s.init_of_region region] at read
      exact ⟨r.cells.toList, by simp [Nor.contents?, region], (Except.ok.inj read).symm⟩

/-- A loaded record is the stored or a factory one, up to the size of the application data. -/
theorem recordOf_cases (s : Store) (image : Bytes) (n : Nat) :
    (∃ r, ConfigRecord.ofImage image = .ok r ∧ r.system.seed = s.seed ∧
        s.recordOf image n = r.resizeApp n) ∨
      s.recordOf image n = (ConfigRecord.factory s.defaultName s.seed n).resizeApp n := by
  cases read : ConfigRecord.ofImage image with
  | error e => exact .inr (by simp [recordOf, read])
  | ok r =>
      by_cases seed : r.system.seed = s.seed
      · exact .inl ⟨r, rfl, seed, by simp [recordOf, read, seed]⟩
      · exact .inr (by simp [recordOf, read, seed])

/-- What a start loads: the stored record or a factory record. -/
theorem init_cases (read : s.init f n = .ok s') :
    ∃ r, s' = s.set ⟨r.resizeApp n, .empty⟩ ∧
      (f.stored? = some r ∨ r = .factory s.defaultName s.seed n) := by
  obtain ⟨image, contents, rfl⟩ := init_eq_ok read
  rcases s.recordOf_cases image n with ⟨r, decoded, -, same⟩ | same
  · exact ⟨r, by rw [same], .inl (by simp [Nor.stored?, contents, decoded, Except.toOption])⟩
  · exact ⟨_, by rw [same], .inr rfl⟩

/-- A loaded record is of the version of its store. -/
theorem seed_recordOf (s : Store) (image : Bytes) (n : Nat) :
    (s.recordOf image n).system.seed = s.seed := by
  rcases s.recordOf_cases image n with ⟨r, -, seed, same⟩ | same
  · rw [same]
    exact seed
  · rw [same]
    rfl

theorem length_recordOf (s : Store) (image : Bytes) (n : Nat) :
    (s.recordOf image n).appConfig.length = n := by
  rcases s.recordOf_cases image n with ⟨r, -, -, same⟩ | same <;>
    rw [same, ConfigRecord.length_resizeApp]

/-- What a commit wrote is what a store of the same version loads. -/
theorem init_of_commit {st : Settings} {g : Nor} (committed : st.commit f = (.ok (), g))
    (seed : s.seed = st.system.seed) :
    s.init g n = .ok (s.set ⟨st.record.resizeApp n, .empty⟩) := by
  rcases st.commit_cases f with ⟨e, failed⟩ | ⟨image, r, written, -, -, -, done⟩
  · rw [failed] at committed
    cases committed
  · rw [done] at committed
    cases committed
    have back := ConfigRecord.ofImage_append written
      (List.replicate (r.cells.size - image.length) erased)
    have found : s.recordOf (Settings.imageRegion r image).cells.toList n =
        st.record.resizeApp n := by
      have same : st.record.system.seed = s.seed := seed.symm
      simp [recordOf, Settings.imageRegion, back, same]
    have region : (f.setRegion (Settings.imageRegion r image) .config).region? .config =
        some (Settings.imageRegion r image) := by
      simp
    rw [s.init_of_region region, found]

end Store
end ConnectedDevice
