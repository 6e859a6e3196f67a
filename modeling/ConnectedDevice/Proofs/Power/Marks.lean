import ConnectedDevice.Proofs.Power.Daemon

/-!
What becomes of settings that are marked as changed. The daemon takes the mark before it commits,
and it takes it once for a transition: a commit that fails is not tried again, and settings that
change after the mark was taken wait for the next request, which a reset may never see.
-/

namespace ConnectedDevice

namespace Daemon

variable {b c d e : Daemon} {m : Move} {moves after : List Move}

/-- What the flash holds is changed by commits alone. -/
theorem stored?_step (stepped : d.step m = some e) : e.flash.stored? = d.flash.stored? ∨
    ∃ st, d.store.loaded = some st ∧ e.flash.stored? = some st.record := by
  have commits : d.committed.flash.stored? = d.flash.stored? ∨
      ∃ st, d.store.loaded = some st ∧ d.committed.flash.stored? = some st.record := by
    rcases d.store.commit_outcome d.flash with ⟨error, failed⟩ | written
    · exact .inl (by rw [committed, failed])
    · exact .inr written
  cases moves_of_step stepped with
  | commit | write s _ => exact commits
  | flash f same => exact .inl (by simp only [Nor.stored?, Nor.contents?, same])
  | _ => exact .inl rfl

/-- A record that was in memory at some moment since is in flash. -/
def Kept (b : Daemon) (after : List Move) (c : Daemon) : Prop :=
  ∃ one two moment st, after = one ++ two ∧ b.run one = some moment ∧
    moment.store.loaded = some st ∧ c.flash.stored? = some st.record

/-- The daemon took the mark, and its commit failed. -/
def Refused (b : Daemon) (after : List Move) : Prop :=
  ∃ one two moment s error, after = one ++ .write :: two ∧ b.run one = some moment ∧
    moment.stand = .drained s true ∧ moment.store.commit moment.flash = (.error error, moment.flash)

/-- The fate of settings that were marked in `b`, after some moves. -/
inductive Fate (b : Daemon) (after : List Move) (c : Daemon) : Prop
  | kept : Kept b after c → Fate b after c
  /-- the daemon took no mark since -/
  | late : .drain ∉ after → c.power.dirty → c.flash.stored? = b.flash.stored? → Fate b after c
  | refused : Refused b after → (.mark ∉ after → c.power.dirty = false) →
      c.flash.stored? = b.flash.stored? → Fate b after c

/-- The daemon took the mark, and commits next. -/
structure Due (b : Daemon) (after : List Move) (c : Daemon) : Prop where
  stand : ∃ s, c.stand = .drained s true
  dirty : .mark ∉ after → c.power.dirty = false
  stored : c.flash.stored? = b.flash.stored?

theorem Kept.step (kept : Kept b after c) (ran : b.run after = some c)
    (stepped : c.step m = some d) : Kept b (after ++ [m]) d := by
  rcases stored?_step stepped with same | ⟨st, loaded, written⟩
  · obtain ⟨one, two, moment, st, rfl, before, loaded, stored⟩ := kept
    exact ⟨one, two ++ [m], moment, st, List.append_assoc .., before, loaded, same.trans stored⟩
  · exact ⟨after, [m], c, st, rfl, ran, loaded, written⟩

/-- Unless a commit succeeds, the flash holds what it held. -/
theorem kept_or_stored (ran : b.run after = some c) (stepped : c.step m = some d)
    (stored : c.flash.stored? = b.flash.stored?) :
    Kept b (after ++ [m]) d ∨ d.flash.stored? = b.flash.stored? := by
  rcases stored?_step stepped with same | ⟨st, loaded, written⟩
  · exact .inr (same.trans stored)
  · exact .inl ⟨after, [m], c, st, rfl, ran, loaded, written⟩

theorem Refused.step (refused : Refused b after) : Refused b (after ++ [m]) := by
  obtain ⟨one, two, moment, s, error, rfl, rest⟩ := refused
  exact ⟨one, two ++ [m], moment, s, error, by simp, rest⟩

def Move.dirties : Move → Bool → Bool
  | .mark, _ => true
  | .drain, _ => false
  | _, dirty => dirty

theorem dirty_step (stepped : c.step m = some d) : d.power.dirty = m.dirties c.power.dirty := by
  cases moves_of_step stepped <;> rfl

theorem clean_step (clean : .mark ∉ after → c.power.dirty = false) (stepped : c.step m = some d)
    (unmarked : .mark ∉ after ++ [m]) : d.power.dirty = false := by
  rw [List.mem_append, not_or, List.mem_singleton] at unmarked
  rw [dirty_step stepped, clean unmarked.1]
  cases m with
  | mark => exact absurd rfl unmarked.2
  | _ => rfl

theorem Due.step (due : Due b after c) (ran : b.run after = some c) (stepped : c.step m = some d) :
    Fate b (after ++ [m]) d ∨ Due b (after ++ [m]) d := by
  obtain ⟨⟨s, drained⟩, clean, stored⟩ := due
  have clean := clean_step clean stepped
  rcases kept_or_stored ran stepped stored with kept | stored
  · exact .inl (.kept kept)
  cases moves_of_step stepped with
  | write t _ =>
      rcases c.store.commit_outcome c.flash with ⟨error, failed⟩ | ⟨st, loaded, written⟩
      · refine .inl (.refused ?_ clean stored)
        exact ⟨after, [], c, s, error, rfl, ran, drained, failed⟩
      · exact .inl (.kept ⟨after, [.write], c, st, rfl, ran, loaded, written⟩)
  | set _ | commit | flash _ _ | mark | ask _ | signal _ _ =>
      exact .inr ⟨⟨s, drained⟩, clean, stored⟩
  | wake stands _ | take stands | drain _ stands | skip _ stands | execute _ stands | quit stands =>
      cases drained.symm.trans stands

/-- What a move makes of the marked settings. -/
theorem Fate.step (fate : Fate b after c) (ran : b.run after = some c)
    (stepped : c.step m = some d) : Fate b (after ++ [m]) d ∨ Due b (after ++ [m]) d := by
  cases fate with
  | kept kept => exact .inl (.kept (kept.step ran stepped))
  | late untaken dirty stored =>
      rcases kept_or_stored ran stepped stored with kept | stored
      · exact .inl (.kept kept)
      -- The daemon takes the mark, or it still stands.
      by_cases takes : m = .drain
      · subst takes
        cases moves_of_step stepped with
        | drain s took => exact .inr ⟨⟨s, by rw [dirty]⟩, fun _ => rfl, stored⟩
      · refine .inl (.late (by simp [untaken, Ne.symm takes]) ?_ stored)
        rw [dirty_step stepped, dirty]
        cases m with
        | drain => exact absurd rfl takes
        | _ => rfl
  | refused refused clean stored =>
      rcases kept_or_stored ran stepped stored with kept | stored
      · exact .inl (.kept kept)
      · exact .inl (.refused refused.step (clean_step clean stepped) stored)

theorem Fate.run (fate : Fate b after c ∨ Due b after c) (before : b.run after = some c)
    (ran : c.run moves = some d) : Fate b (after ++ moves) d ∨ Due b (after ++ moves) d := by
  induction moves generalizing after c with
  | nil =>
      cases ran
      simpa using fate
  | cons m moves ih =>
      obtain ⟨next, stepped, ran⟩ := run_cons ran
      have later : b.run (after ++ [m]) = some next := by
        simp [before, Daemon.run, stepped]
      have fate : Fate b (after ++ [m]) next ∨ Due b (after ++ [m]) next :=
        fate.elim (·.step before stepped) (·.step before stepped)
      simpa using ih fate later ran

/-- Settings that were marked before a transition is carried out are kept, unless they were marked
after the daemon had taken the mark for this transition, or its commit failed. -/
theorem fate_of_marked {s : PowerState} (marks : d.step .mark = some b)
    (ran : b.run after = some c) (executes : c.executes? .execute = some s) : Fate b after c := by
  have marked : b.power.dirty := by rw [dirty_step marks]; rfl
  have start : Fate b [] b := .late (by simp) marked rfl
  rcases Fate.run (.inl start) rfl ran with fate | ⟨⟨t, drained⟩, -, -⟩
  · exact fate
  · simp [executes?, drained] at executes

/-! A store on a small flash -/

def sampleFlash : Nor := .blank [(.config, ⟨0x4000, 256⟩)]

def sample : Daemon :=
  start ((Store.make "Device" 1).set ⟨.factory "Device" 1 0, .empty⟩) sampleFlash

def renamed : Settings := ⟨.factory "Kitchen" 1 0, .empty⟩

/-- A reset is requested and announced. -/
def announcing : List Move := [.ask .softwareReset, .signal, .wake, .take, .drain, .write]

theorem fate_of_marked_renamed : ∃ d b c, sample.run [.set renamed] = some d ∧
    d.step .mark = some b ∧ b.run announcing = some c ∧ Fate b announcing c ∧
      c.flash.stored? = some renamed.record := by
  let d : Daemon := { sample with store := sample.store.set renamed }
  let b : Daemon := { d with power := d.power.markDirty }
  have announced : (b.run announcing).any fun c =>
      c.executes? .execute = some .softwareReset ∧ c.flash.stored? = some renamed.record := by
    decide +kernel
  obtain ⟨c, ran, known⟩ := (Option.any_eq_true _ _).mp announced
  obtain ⟨executes, stored⟩ := of_decide_eq_true known
  exact ⟨d, b, c, rfl, rfl, ran, fate_of_marked rfl ran executes, stored⟩

theorem not_kept (empty : c.flash.stored?.isNone) : ¬Kept b after c := by
  rintro ⟨one, two, moment, st, -, -, -, stored⟩
  simp [stored] at empty

/-- A mark does not outlast a commit that fails, and settings that are marked while the reset is
announced are not committed at all. -/
theorem marked_settings_lost :
    (¬∀ before d b after c s, sample.run before = some d → d.step .mark = some b →
      b.run after = some c → c.executes? .execute = some s → Kept b after c ∨ c.power.dirty) ∧
    ¬∀ before d b after c s, sample.run before = some d → d.step .mark = some b →
      b.run after = some c → c.executes? .execute = some s → Kept b after c ∨ Refused b after := by
  constructor
  · intro always
    let d : Daemon :=
      { sample with
        store := sample.store.set renamed
        flash := { sampleFlash with refusing := true } }
    let b : Daemon := { d with power := d.power.markDirty }
    have announced : (b.run announcing).any fun c =>
        c.executes? .execute = some .softwareReset ∧ c.flash.stored?.isNone ∧ !c.power.dirty := by
      decide +kernel
    obtain ⟨c, ran, known⟩ := (Option.any_eq_true _ _).mp announced
    obtain ⟨executes, empty, clean⟩ := of_decide_eq_true known
    let flash : Nor := { sampleFlash with refusing := true }
    have refuses : sample.run [.set renamed, .flash flash] = some d := by
      have turned : { sample with store := sample.store.set renamed }.step (.flash flash) =
          some d := step_flash rfl
      rw [Daemon.run, step, Option.bind_some, Daemon.run, turned]
      rfl
    rcases always _ d b announcing c _ refuses rfl ran executes with kept | dirty
    · exact not_kept empty kept
    · simp [dirty] at clean
  · intro always
    have announced : (sample.run (announcing ++ [.set renamed])).any fun d =>
        d.executes? .execute = some .softwareReset ∧ d.flash.stored?.isNone := by
      decide +kernel
    obtain ⟨d, ran, known⟩ := (Option.any_eq_true _ _).mp announced
    obtain ⟨executes, empty⟩ := of_decide_eq_true known
    rcases always _ d { d with power := d.power.markDirty } [] _ _ ran rfl rfl executes
      with kept | ⟨one, two, moment, t, error, divided, -⟩
    · exact not_kept empty kept
    · simp at divided

end Daemon
end ConnectedDevice
