import ConnectedDevice.Proofs.Upload.Ledger

/-!
Requests that bring firmware. Such an upload does to the world what its chunks do one after the
other, and then its end.
-/

namespace ConnectedDevice

namespace World

variable {α β : Type} {w : World} {i : Nat} {d : Device}

theorem attempt_eq (x : Fallible α) (here : w.devices[i]? = some d) :
    w.attempt i x = (w.enter i d x.run).2 := by
  simp only [attempt, run, on, here, Option.map_some, Option.getD_some]
  rfl

theorem attempt_board {x : Fallible α} {a : Except Error α} {board : Board}
    (here : w.devices[i]? = some d)
    (ran : x.run ⟨i, w.board, d, []⟩ = (a, ⟨i, board, d, []⟩)) :
    w.attempt i x = { w with board } := by
  have done := on_board here ran
  rw [attempt_eq x here]
  simp only [on, here, Option.map_some, Option.some.injEq] at done
  rw [done]

theorem enter_board {first second : Act α} {board : Board}
    (same : first ⟨i, w.board, d, []⟩ = second ⟨i, board, d, []⟩) :
    w.enter i d first = { w with board }.enter i d second := by
  simp only [enter, same]

end World

namespace Server

variable {r : Request} (s : Site)

theorem state_conclude {α : Type} (x : Fallible α) : (conclude x s).2 = (x.run s).2 := by
  rw [conclude, Act.bind_apply]
  cases (x.run s).1 <;> rfl

theorem state_receiveFirmware : (receiveFirmware r s).2 = s ∨
    (receiveFirmware r s).2 = ((Upload.receiveAll r.declared r.chunks r.fault).run s).2 := by
  rw [receiveFirmware, Act.bind_apply]
  split
  · exact .inl rfl
  · split
    · exact .inl rfl
    · exact .inr (state_conclude s _)

theorem state_respond (firmware : Resource.ofPath? r.path = some .firmware) :
    (respond r s).2 = s ∨
      (respond r s).2 = ((Upload.receiveAll r.declared r.chunks r.fault).run s).2 := by
  simp only [respond, firmware]
  split
  · exact .inl rfl
  · exact state_receiveFirmware s

end Server

namespace Scene

variable {p : Scene} {x : Transfer} {k : Nat} {d : Device} {chunk : Bytes}

theorem chunk_received {u : Upload} {board : Board} (running : p.running? k = some x)
    (here : p.world.devices[x.device]? = some d)
    (ran : (x.upload.receive chunk).run ⟨x.device, p.world.board, d, []⟩ =
      (.ok u, ⟨x.device, board, d, []⟩)) :
    (p.step (.chunk k chunk)).world = { p.world with board } ∧
      (p.step (.chunk k chunk)).running? k =
        some { x with upload := u, sent := x.sent ++ chunk } := by
  obtain ⟨found, state⟩ := running?_eq_some.mp running
  have done := World.on_board here ran
  have stepped : p.step (.chunk k chunk) = p.chunk k x chunk := by simp [step, running]
  rw [stepped]
  simp only [Scene.chunk, done, setTransfer, running?_eq_some, state, and_true, true_and]
  exact List.getElem?_set_self (List.getElem?_eq_some_iff.mp found).1

theorem reachable_receiveRest (fault : Option String) (chunks : List Bytes)
    (running : p.running? k = some x) (here : p.world.devices[x.device]? = some d)
    (target : p.world.board.flash.partition? .otaTemp = some x.upload.target) :
    ∃ q, Reachable always p q ∧
      q.world = p.world.attempt x.device (x.upload.receiveRest fault chunks) := by
  induction chunks generalizing p x with
  | nil =>
      cases fault with
      | some text =>
          refine ⟨p.step (.breakOff k), .step .start rfl rfl, ?_⟩
          have failed : (x.upload.receiveRest (some text) []).run
              ⟨x.device, p.world.board, d, []⟩ = (.error (.uploadInterrupted text),
                ⟨x.device, p.world.board, d, []⟩) := rfl
          rw [World.attempt_board here failed]
          simp [step, running, setTransfer]
      | none =>
          refine ⟨p.step (.finish k), .step .start rfl rfl, ?_⟩
          have done : p.world.on x.device x.upload.finish.run =
              some (p.world.enter x.device d x.upload.finish.run) := by
            simp only [World.on, here, Option.map_some]
          rw [World.attempt_eq _ here]
          simp [step, running, Scene.finish, done, setTransfer, Upload.receiveRest]
  | cons chunk chunks ih =>
      obtain ⟨r, region, info⟩ := Option.map_eq_some_iff.mp target
      let s : Site := ⟨x.device, p.world.board, d, []⟩
      have next : p.permits (.chunk k chunk) := rfl
      have goesOn {u : Upload} {board : Board}
          (ran : (x.upload.receive chunk).run s = (.ok u, ⟨x.device, board, d, []⟩))
          (target : board.flash.partition? .otaTemp = some u.target) :
          ∃ q, Reachable always p q ∧ q.world =
            p.world.attempt x.device (x.upload.receiveRest fault (chunk :: chunks)) := by
        obtain ⟨world, running⟩ := chunk_received running here ran
        obtain ⟨q, reachable, same⟩ := ih running (by rwa [world]) (by rwa [world])
        refine ⟨q, (Reachable.step .start next rfl).trans reachable, same.trans ?_⟩
        have rest : (x.upload.receiveRest fault (chunk :: chunks)).run s =
            (u.receiveRest fault chunks).run ⟨x.device, board, d, []⟩ := by
          rw [Upload.receiveRest, Fallible.bind_apply, ran]
        have later : ({ p.world with board } : World).devices[x.device]? = some d := here
        rw [world, World.attempt_eq _ here, World.enter_board rest]
        exact World.attempt_eq _ later
      rcases Upload.receive_cases (s := s) (u := x.upload) chunk region info.symm with
        ⟨-, same⟩ | ⟨e, failed⟩ | ⟨-, -, wrote⟩
      · exact goesOn same target
      · refine ⟨p.step (.chunk k chunk), .step .start next rfl, ?_⟩
        have stopped : (x.upload.receiveRest fault (chunk :: chunks)).run s = (.error e, s) := by
          rw [Upload.receiveRest, Fallible.bind_apply, failed]
        have done := World.on_board here failed
        rw [World.attempt_board here stopped]
        simp [step, running, Scene.chunk, done, setTransfer]
      · refine goesOn wrote ?_
        simp [Nor.partition?, Upload.info_programmed, info]

/-- A whole upload takes its steps among the events of scenes. -/
theorem reachable_receiveAll {i : Nat} (declared : Option Nat) (fault : Option String)
    (chunks : List Bytes) (listening : p.world.isListening i) :
    ∃ q, Reachable always p q ∧
      q.world = p.world.attempt i (Upload.receiveAll declared chunks fault) := by
  obtain ⟨d, here, -⟩ := (Option.any_eq_true ..).mp listening
  have opens : p.permits (.openUpload i declared) := listening
  let s : Site := ⟨i, p.world.board, d, []⟩
  rcases Upload.start_cases declared s with ⟨e, failed⟩ | ⟨u, opened, target, -⟩
  · refine ⟨p.step (.openUpload i declared), .step .start opens rfl, ?_⟩
    have stopped : (Upload.receiveAll declared chunks fault).run s = (.error e, s) := by
      rw [Upload.receiveAll, Fallible.bind_apply, failed]
    have done := World.on_board here failed
    rw [World.attempt_board here stopped]
    simp [step, openUpload, done]
  · let x : Transfer := ⟨i, u, [], .running⟩
    have done := World.on_board here opened
    have stepped : p.step (.openUpload i declared) =
        { p with transfers := p.transfers ++ [x] } := by
      simp [step, openUpload, done, x]
    have running : (p.step (.openUpload i declared)).running? p.transfers.length = some x := by
      rw [stepped, running?_eq_some]
      exact ⟨List.getElem?_concat_length, rfl⟩
    have same : (Upload.receiveAll declared chunks fault).run s =
        (u.receiveRest fault chunks).run s := by
      rw [Upload.receiveAll, Fallible.bind_apply, opened]
    obtain ⟨q, reachable, world⟩ := reachable_receiveRest fault chunks running
      (by rwa [stepped]) (by rwa [stepped])
    refine ⟨q, (Reachable.step .start opens rfl).trans reachable, ?_⟩
    rw [world, stepped, World.attempt_eq _ here, World.attempt_eq _ here]
    exact congrArg Prod.snd (World.enter_board same.symm)

theorem reachable_respond {i : Nat} {r : Server.Request}
    (firmware : Server.Resource.ofPath? r.path = some .firmware)
    (listening : p.world.isListening i) :
    ∃ q, Reachable always p q ∧ q.world = p.world.run i (discard (Server.respond r)) := by
  obtain ⟨d, here, -⟩ := (Option.any_eq_true ..).mp listening
  let s : Site := ⟨i, p.world.board, d, []⟩
  rcases Server.state_respond s firmware with same | received
  · have ran : (discard (Server.respond r) : Act Unit) s = ((), s) := congrArg (Prod.mk ()) same
    refine ⟨p, .start, ?_⟩
    simp [World.run, World.on_board here ran]
  · obtain ⟨q, reachable, world⟩ := reachable_receiveAll r.declared r.fault r.chunks listening
    refine ⟨q, reachable, world.trans ?_⟩
    have same : (discard (Server.respond r) : Act Unit) s =
        (discard (Upload.receiveAll r.declared r.chunks r.fault).run : Act Unit) s :=
      congrArg (Prod.mk ()) received
    have entered := World.enter_board (w := p.world) same
    simp only [World.attempt, World.run, World.on, here, Option.map_some, Option.getD_some]
    exact congrArg Prod.snd entered.symm

end Scene
end ConnectedDevice
