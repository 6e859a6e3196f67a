import ConnectedDevice.Proofs.Store
import ConnectedDevice.Proofs.Upload.Receive
import ConnectedDevice.Proofs.World.Law

/-!
Laws about records: what is true of every record in memory and of the one in flash. A commit carries
it from memory to flash and a start carries it back, so that only the changes of the settings count.
-/

namespace ConnectedDevice.Law

def ofRecords (good : ConfigRecord → Prop) (outcome : Outcome → Prop)
    (before : SystemConfig → Prop) : Law where
  flash f := ∀ r ∈ f.stored?, good r
  store s := ∀ st ∈ s.loaded, good st.record
  outcome := outcome
  before := before

structure Loadable (good : ConfigRecord → Prop) : Prop where
  factory : ∀ name seed n, good (.factory name seed n)
  resizeApp : ∀ r n, good r → good (r.resizeApp n)

variable {good : ConfigRecord → Prop} {outcome : Outcome → Prop} {before : SystemConfig → Prop}

theorem ofRecords_allows_change {c : Change}
    (keeps : ∀ st : Settings, good st.record → good (c.apply st).record) :
    (ofRecords good outcome before).Allows (.change c) := by
  refine allows_change fun s known st loaded => ?_
  obtain ⟨old, was, rfl⟩ := Option.map_eq_some_iff.mp loaded
  exact keeps old (known old was)

theorem ofRecords_mono {more : ConfigRecord → Prop} {w : World}
    (weaker : ∀ r, good r → more r) (law : (ofRecords good outcome before).OnWorld w) :
    (ofRecords more outcome before).OnWorld w where
  flash r stored := weaker r (law.flash r stored)
  devices d found :=
    let kept := law.devices d found
    ⟨fun st loaded => weaker st.record (kept.store st loaded), kept.outcomes⟩
  tasks := law.tasks

theorem ofRecords_stands (loadable : Loadable good) :
    (ofRecords good outcome before).Stands where
  commit := by
    refine allows_commit fun s f store flash r stored => ?_
    rcases s.commit_outcome f with ⟨e, failed⟩ | ⟨st, loaded, written⟩
    · exact flash r (by rwa [failed] at stored)
    · cases written.symm.trans stored
      exact store st loaded
  load := by
    refine allows_load fun s f n s' _ flash read st loaded => ?_
    obtain ⟨r, rfl, source⟩ := Store.init_cases read
    have known : good r := by
      rcases source with stored | rfl
      · exact flash r stored
      · exact loadable.factory _ _ _
    rw [← Option.some.inj loaded]
    exact loadable.resizeApp r n known
  observe status := ofRecords_allows_change fun _ known => known
  refusing f refusing known := known
  fresh := by
    intro st loaded
    cases loaded

theorem ofRecords_allows_receive {d : Deed} (receives : Upload.MayReceive d) :
    (ofRecords good outcome before).Allows d := by
  intro s law
  have kept (r : Region) : (ofRecords good outcome before).OnSite
      (s.setFlash (s.board.flash.setRegion r .otaTemp)) := by
    have other : Partition.otaTemp ≠ .config := by decide
    refine ⟨fun r stored => ?_, law.device, law.spawned⟩
    exact law.flash r (Nor.stored?_setRegion other _ ▸ stored)
  cases receives with
  | erase =>
      simp only [Deed.perform, Act.onFlash_run]
      split
      next flash erases =>
        obtain ⟨-, r, -, rfl⟩ := Nor.erase_eq_ok.mp erases
        exact kept _
      next => exact law
  | write offset data =>
      simp only [Deed.perform, Act.onFlash_run]
      split
      next flash writes =>
        obtain ⟨-, r, -, -, rfl⟩ := Nor.write_eq_ok.mp writes
        exact kept _
      next => exact law

theorem ofRecords_allows {p : Scene} {e : Event} {d : Deed} (loadable : Loadable good)
    (may : May p e d)
    (changes : ∀ c, d = .change c → ∀ st : Settings, good st.record → good (c.apply st).record) :
    (ofRecords good outcome before).Allows d := by
  cases may.occasion with
  | commit => exact (ofRecords_stands loadable).commit
  | softApJoin due params => exact allows_spawn (onTask_of_forgets rfl)
  | received _ receives => exact ofRecords_allows_receive receives
  | _ => exact ofRecords_allows_change (changes _ rfl)

theorem ofRecords_allowsTarget {target : Option SystemConfig} (loadable : Loadable good)
    (remembered : ∀ b ∈ target, before b)
    (changes : ∀ run c, Provisioning.May run target (.change c) →
      ∀ st : Settings, good st.record → good (c.apply st).record)
    (ended : ∀ told o, (Provisioning.Progress.ended o).Within told target → outcome o) :
    (ofRecords good outcome before).AllowsTarget target where
  before := remembered
  deeds run d may := by
    cases may with
    | proceed may =>
        cases may with
        | commit => exact (ofRecords_stands loadable).commit
        | clearBypass => exact ofRecords_allows_change (changes run _ .clearBypass)
        | advance => exact ofRecords_allows_change (changes run _ .advance)
        | restore known => exact ofRecords_allows_change (changes run _ (.restore known))
        | session f => exact allows_session
    | linger due => exact allows_spawn (onTask_of_forgets rfl)
    | close within => exact allows_close (ended _ _ within)

theorem ofRecords_erased {layout : Layout} {capacity : Nat} {hardware : Hardware} :
    (ofRecords good outcome before).OnWorld (Scene.erased layout capacity hardware).world := by
  refine ⟨fun r stored => ?_, ?_, ?_⟩
  · have nothing := Nor.stored?_blank layout
    simp [Scene.erased, World.make, Board.make, nothing] at stored
  · simp [Scene.erased, World.make]
  · simp [Scene.erased, World.make]

end ConnectedDevice.Law
