import ConnectedDevice.Notification.Script
import ConnectedDevice.Proofs.Notification.Center

/-!
The notification center is an ordered registry, whatever callbacks do while they run. A dispatch
runs the callbacks that were registered for its kind when it started, one after the other, whoever
is registered or removed meanwhile, and whatever is dispatched in between.
-/

namespace ConnectedDevice

namespace Center

variable {α : Type} {c d : Center α}

/-- No kind holds more than it can, and of two registrations the later has the greater number. -/
structure Orderly (c : Center α) : Prop where
  bounded : ∀ kind, c.count kind ≤ c.capacity
  ordered : c.subscriptions.Pairwise (·.id < ·.id)
  numbered : ∀ x ∈ c.subscriptions, x.id < c.nextId

theorem register_of_full {kind : NotificationKind} (full : c.capacity ≤ c.count kind)
    (callback : α) : c.register kind callback = .error (.kindFull kind c.capacity) := by
  simp [register, full]

theorem register_of_room {kind : NotificationKind} (room : c.count kind < c.capacity)
    (callback : α) :
    ∃ later, c.register kind callback = .ok (c.nextId, later) ∧ later.capacity = c.capacity ∧
      ∀ k, later.subscribers k =
        c.subscribers k ++ if k = kind then [⟨c.nextId, kind, callback⟩] else [] := by
  refine ⟨_, if_neg (Nat.not_le.mpr room), rfl, fun k => ?_⟩
  by_cases own : kind = k
  · simp [subscribers, own]
  · simp [subscribers, own, Ne.symm own]

theorem subscribers_remove (kind k : NotificationKind) (id : Nat) :
    (c.remove kind id).subscribers k =
      if k = kind then (c.subscribers k).filter (·.id != id) else c.subscribers k := by
  simp only [subscribers, remove, List.filter_filter]
  split
  next own =>
    subst own
    refine List.filter_congr fun x _ => ?_
    by_cases listed : x.kind = k
    · simp [listed, bne]
    · simp [beq_eq_false_iff_ne.mpr listed]
  next other =>
    refine List.filter_congr fun x _ => ?_
    by_cases listed : x.kind = k <;> simp [listed, other]

theorem remove_remove (kind : NotificationKind) (id : Nat) :
    (c.remove kind id).remove kind id = c.remove kind id := by
  simp [remove, List.filter_filter]

theorem subscribers_removeAll (kind k : NotificationKind) :
    (c.removeAll kind).subscribers k = if k = kind then [] else c.subscribers k := by
  simp only [subscribers, removeAll, List.filter_filter]
  split
  next own => simp [own]
  next other =>
    refine List.filter_congr fun x _ => ?_
    by_cases listed : x.kind = k <;> simp [listed, other]

namespace Orderly

theorem empty (capacity : Nat) : (Center.empty capacity : Center α).Orderly :=
  ⟨fun _ => Nat.zero_le _, .nil, by simp [Center.empty]⟩

theorem ids (orderly : c.Orderly) (kind : NotificationKind) :
    ((c.subscribers kind).map (·.id)).Pairwise (· < ·) :=
  List.pairwise_map.mpr (orderly.ordered.sublist List.filter_sublist)

/-- Registrations that go do no harm. -/
theorem ofFilter (orderly : c.Orderly) (stays : Subscription α → Bool) :
    { c with subscriptions := c.subscriptions.filter stays }.Orderly where
  bounded kind :=
    Nat.le_trans (List.filter_sublist.filter _).length_le (orderly.bounded kind)
  ordered := orderly.ordered.sublist List.filter_sublist
  numbered x found := orderly.numbered x (List.mem_filter.mp found).1

theorem register {kind : NotificationKind} {callback : α} {id : Nat} (orderly : c.Orderly)
    (registered : c.register kind callback = .ok (id, d)) : d.Orderly := by
  have room : c.count kind < c.capacity := by
    refine Nat.lt_of_not_le fun full => ?_
    rw [register_of_full full] at registered
    cases registered
  obtain ⟨later, done, capacity, lists⟩ := register_of_room room callback
  cases done.symm.trans registered
  obtain ⟨-, rfl⟩ := register_eq_ok registered
  refine ⟨fun k => ?_, ?_, ?_⟩
  · rw [count, lists, List.length_append]
    have bounded := orderly.bounded k
    rw [count] at bounded room
    by_cases own : k = kind
    · subst own
      simp
      omega
    · simpa [own] using bounded
  · refine List.pairwise_append.mpr ⟨orderly.ordered, by simp, ?_⟩
    simpa using orderly.numbered
  · intro x found
    rcases List.mem_append.mp found with found | found
    · exact Nat.lt_succ_of_lt (orderly.numbered x found)
    · cases List.mem_singleton.mp found
      exact Nat.lt_succ_self _

end Orderly
end Center

namespace Script

/-- What can happen to a stage. Callbacks are free in what they do: the one that runs may go on with
any actions, and a label may stand for any registration. Calls may come from anywhere at any time, a
dispatch from a callback that runs, or from outside if none is under way. -/
inductive Stage.Move (s : Stage) : Stage → Prop
  | step : Move s s.step
  | redirect {label : String} {old : List Action} {below : List Frame} (new : List Action) :
      s.stack = .running label old :: below →
        Move s { s with stack := .running label new :: below }
  | call {a : Action} {answer : Answer} {t : Stage} : s.perform a = some (answer, t) → Move s t
  | relabel (labels : List (String × Nat)) : Move s { s with labels }
  | begin (n : Notification) : s.stack = [] → Move s (s.startDispatch n)

inductive Stage.Leads (s : Stage) : Stage → Prop
  | refl : Leads s s
  | move {t u : Stage} : Leads s t → t.Move u → Leads s u

/-- The marks of a callback under the label between its start and its end: the answers to its calls,
and the marks of whatever callbacks it caused to run. -/
inductive Says : String → List Mark → Prop
  | nothing (label : String) : Says label []
  | answered {label : String} {said : List Mark} (answer : Answer) :
      Says label said → Says label (said ++ [.answered label answer])
  | caused {label : String} {said inner : List Mark} (c : Callback) (kind : NotificationKind) :
      Says label said → Says c.label inner →
        Says label (said ++ .started c.label kind :: inner ++ [.finished c.label])

/-- The callbacks ran, each to its end before the next. -/
inductive Ran (kind : NotificationKind) : List Callback → List Mark → Prop
  | none : Ran kind [] []
  | next {done : List Callback} {marks said : List Mark} (c : Callback) :
      Ran kind done marks → Says c.label said →
        Ran kind (done ++ [c]) (marks ++ .started c.label kind :: said ++ [.finished c.label])

/-- A dispatch to the callbacks is under way, with these frames, and has left these marks. -/
inductive Running : NotificationKind → List Callback → List Frame → List Mark → Prop
  | between {kind : NotificationKind} {done : List Callback} {marks : List Mark}
      (left : List Callback) :
      Ran kind done marks → Running kind (done ++ left) [.pending kind left] marks
  | inside {kind : NotificationKind} {done : List Callback} {marks said : List Mark} (c : Callback)
      (left : List Callback) (actions : List Action) :
      Ran kind done marks → Says c.label said →
        Running kind (done ++ c :: left) [.running c.label actions, .pending kind left]
          (marks ++ .started c.label kind :: said)
  | nested {kind k : NotificationKind} {done callbacks : List Callback}
      {marks said inner : List Mark} {frames : List Frame} (c : Callback) (left : List Callback)
      (actions : List Action) :
      Ran kind done marks → Says c.label said → Running k callbacks frames inner →
        Running kind (done ++ c :: left)
          (frames ++ [.awaiting c.label, .running c.label actions, .pending kind left])
          (marks ++ .started c.label kind :: said ++ inner)
  | returned {kind : NotificationKind} {done : List Callback} {marks said : List Mark}
      (c : Callback) (left : List Callback) (actions : List Action) :
      Ran kind done marks → Says c.label said →
        Running kind (done ++ c :: left)
          [.awaiting c.label, .running c.label actions, .pending kind left]
          (marks ++ .started c.label kind :: said)

variable {kind : NotificationKind} {callbacks : List Callback} {frames : List Frame}
  {marks said : List Mark} {label : String} {s t u : Stage}

/-- The dispatch that began on the stage `s` is under way. -/
def Stage.Serves (s : Stage) (kind : NotificationKind) (callbacks : List Callback) (t : Stage) :
    Prop :=
  ∃ frames marks, t.stack = frames ++ s.stack ∧ t.trace = s.trace ++ marks ∧
    Running kind callbacks frames marks

/-- The dispatch that began on the stage `s` has just returned. -/
def Stage.Served (s : Stage) (kind : NotificationKind) (callbacks : List Callback) (t : Stage) :
    Prop :=
  t.stack = s.stack ∧ ∃ marks, t.trace = s.trace ++ marks ∧ Ran kind callbacks marks

/-- The stage with further frames on top and further marks. -/
def Stage.deeper (s : Stage) (frames : List Frame) (marks : List Mark) : Stage :=
  { s with stack := frames ++ s.stack, trace := s.trace ++ marks }

theorem Says.append (spoken : Says label said) (ran : Ran kind callbacks marks) :
    Says label (said ++ marks) := by
  induction ran with
  | none => rwa [List.append_nil]
  | next c _ body ih =>
      have caused := Says.caused c kind ih body
      simpa only [List.append_assoc, List.cons_append] using caused

theorem Running.ne_nil (running : Running kind callbacks frames marks) : frames ≠ [] := by
  cases running <;> simp

namespace Stage

/-- A call concerns the lists and the labels. -/
theorem perform_keeps {a : Action} {answer : Answer} (called : s.perform a = some (answer, t)) :
    t.stack = s.stack ∧ t.trace = s.trace := by
  cases a with
  | register label kind actions =>
      simp only [perform] at called
      split at called <;> cases called <;> exact ⟨rfl, rfl⟩
  | remove label kind =>
      simp only [perform] at called
      split at called <;> cases called <;> exact ⟨rfl, rfl⟩
  | removeAll kind => cases called; exact ⟨rfl, rfl⟩
  | count kind => cases called; exact ⟨rfl, rfl⟩
  | dispatch n => cases called

theorem step_finished {below : List Frame} (stack : t.stack = .running label [] :: below) :
    t.step = { t with stack := below }.mark (.finished label) := by
  simp only [step, stack]

theorem step_dispatch {below : List Frame} {actions : List Action} {n : Notification}
    (stack : t.stack = .running label (.dispatch n :: actions) :: below) :
    t.step =
      { t with stack := .awaiting label :: .running label actions :: below }.startDispatch n := by
  simp only [step, stack]
  rfl

/-- The running callback makes a call and is told the answer. -/
theorem step_call {below : List Frame} {a : Action} {actions : List Action}
    (stack : t.stack = .running label (a :: actions) :: below) (call : ∀ n, a ≠ .dispatch n) :
    ∃ answer u, { t with stack := .running label actions :: below }.perform a = some (answer, u) ∧
      t.step = u.mark (.answered label answer) := by
  cases a with
  | register l kind more =>
      simp only [step, stack, push, perform]
      split
      next id center registered => exact ⟨_, _, rfl, rfl⟩
      next e refused => exact ⟨_, _, rfl, rfl⟩
  | remove l kind =>
      simp only [step, stack, push, perform]
      split
      next id known => exact ⟨_, _, rfl, rfl⟩
      next unknown => exact ⟨_, _, rfl, rfl⟩
  | removeAll kind => exact ⟨_, _, rfl, by simp only [step, stack, push, perform]⟩
  | count kind => exact ⟨_, _, rfl, by simp only [step, stack, push, perform]⟩
  | dispatch n => exact absurd rfl (call n)

end Stage

namespace Running

open Stage

/-- The running callback ends, makes a call, or dispatches in its turn. -/
theorem step_inside {done left : List Callback} {c : Callback} {actions : List Action}
    (ran : Ran kind done marks) (spoken : Says c.label said)
    (stack : t.stack = .running c.label actions :: .pending kind left :: s.stack)
    (trace : t.trace = s.trace ++ (marks ++ .started c.label kind :: said)) :
    s.Serves kind (done ++ c :: left) t.step := by
  cases actions with
  | nil =>
      have ended := between left (ran.next c spoken)
      rw [List.append_assoc, List.singleton_append] at ended
      rw [step_finished stack]
      exact ⟨_, _, rfl, by simp [mark, trace], ended⟩
  | cons a actions =>
      by_cases call : ∀ n, a ≠ .dispatch n
      · obtain ⟨answer, u, called, stepped⟩ := step_call stack call
        obtain ⟨sameStack, sameTrace⟩ := perform_keeps called
        rw [stepped]
        refine ⟨[_, _], _, sameStack, ?_, .inside c left actions ran (.answered answer spoken)⟩
        simp [mark, sameTrace, trace]
      · obtain ⟨n, rfl⟩ : ∃ n, a = .dispatch n := by simpa using call
        have begun : Running n.kind _ _ _ := .between (t.center.callbacks n.kind) .none
        rw [step_dispatch stack]
        refine ⟨_, _, rfl, ?_, .nested c left actions ran spoken begun⟩
        simp [startDispatch, push, trace]

/-- A step takes the dispatch further, or ends it once all callbacks ran. -/
theorem step (running : Running kind callbacks frames marks) (stack : t.stack = frames ++ s.stack)
    (trace : t.trace = s.trace ++ marks) :
    s.Serves kind callbacks t.step ∨ s.Served kind callbacks t.step := by
  induction running generalizing s t with
  | between left ran =>
      cases left with
      | nil =>
          right
          simp only [Stage.step, stack, List.cons_append, List.nil_append]
          exact ⟨rfl, _, trace, by rwa [List.append_nil]⟩
      | cons c left =>
          left
          simp only [Stage.step, stack, List.cons_append, List.nil_append]
          refine ⟨_, _, rfl, ?_, .inside c left c.actions ran (.nothing _)⟩
          simp [mark, push, trace]
  | inside c left actions ran spoken => exact .inl (step_inside ran spoken stack trace)
  | @nested kind k done callbacks marks said inner frames c left actions ran spoken running ih =>
      left
      -- the inner dispatch is one that began deeper on the stage
      let outer := s.deeper [.awaiting c.label, .running c.label actions, .pending kind left]
        (marks ++ .started c.label kind :: said)
      rcases ih (s := outer) (by simpa [outer, deeper] using stack)
        (by simpa [outer, deeper] using trace) with
        ⟨frames, inner, stack, trace, running⟩ | ⟨stack, inner, trace, ended⟩
      · refine ⟨_, _, ?_, ?_, .nested c left actions ran spoken running⟩
        · simpa [outer, deeper] using stack
        · simpa [outer, deeper] using trace
      · refine ⟨_, _, stack, ?_, .returned c left actions ran (spoken.append ended)⟩
        simpa [outer, deeper] using trace
  | returned c left actions ran spoken =>
      left
      simp only [Stage.step, stack, List.cons_append, List.nil_append]
      refine ⟨_, _, rfl, ?_, .inside c left actions ran (.answered .done spoken)⟩
      simp [mark, trace]

/-- A running callback may do anything else instead of what it still does. -/
theorem redirect {below : List Frame} {old : List Action} (new : List Action)
    (running : Running kind callbacks frames marks)
    (stack : frames ++ s.stack = .running label old :: below) :
    ∃ others, .running label new :: below = others ++ s.stack ∧
      Running kind callbacks others marks := by
  induction running generalizing s below with
  | between left ran => cases stack
  | inside c left actions ran spoken =>
      cases stack
      exact ⟨_, rfl, .inside c left new ran spoken⟩
  | @nested kind k done callbacks marks said inner frames c left actions ran spoken running ih =>
      let outer := s.deeper [.awaiting c.label, .running c.label actions, .pending kind left] []
      obtain ⟨others, same, running⟩ := ih (s := outer) (by simpa [outer, deeper] using stack)
      exact ⟨_, by simpa [outer, deeper] using same, .nested c left actions ran spoken running⟩
  | returned c left actions ran spoken => cases stack

end Running

namespace Stage

theorem Serves.move (serves : s.Serves kind callbacks t) (move : t.Move u) :
    s.Serves kind callbacks u ∨ s.Served kind callbacks u := by
  obtain ⟨frames, marks, stack, trace, running⟩ := serves
  cases move with
  | step => exact running.step stack trace
  | redirect new busy =>
      obtain ⟨others, same, running⟩ := running.redirect new (stack.symm.trans busy)
      exact .inl ⟨others, marks, same, trace, running⟩
  | call called =>
      obtain ⟨sameStack, sameTrace⟩ := perform_keeps called
      exact .inl ⟨frames, marks, sameStack.trans stack, sameTrace.trans trace, running⟩
  | relabel labels => exact .inl ⟨frames, marks, stack, trace, running⟩
  | begin n idle =>
      rw [stack] at idle
      exact absurd (List.append_eq_nil_iff.mp idle).1 running.ne_nil

theorem serves_startDispatch (s : Stage) (n : Notification) :
    s.Serves n.kind (s.center.callbacks n.kind) (s.startDispatch n) :=
  ⟨_, _, rfl, (List.append_nil _).symm, .between (s.center.callbacks n.kind) .none⟩

/-- Whatever happens after a dispatch began, it is under way, or it returned before. -/
theorem Leads.serves_or_served {n : Notification} (leads : (s.startDispatch n).Leads t) :
    s.Serves n.kind (s.center.callbacks n.kind) t ∨
      ∃ e, (s.startDispatch n).Leads e ∧ s.Served n.kind (s.center.callbacks n.kind) e ∧
        e.Leads t := by
  induction leads with
  | refl => exact .inl (serves_startDispatch s n)
  | @move t u before move ih =>
      rcases ih with serves | ⟨e, first, served, later⟩
      · rcases serves.move move with serves | served
        · exact .inl serves
        · exact .inr ⟨u, .move before move, served, .refl⟩
      · exact .inr ⟨e, first, served, .move later move⟩

theorem Leads.trans (first : s.Leads t) (second : t.Leads u) : s.Leads u := by
  induction second with
  | refl => exact first
  | move _ move ih => exact .move ih move

/-- A running callback can return at once. -/
theorem leads_finished {below : List Frame} {actions : List Action}
    (stack : t.stack = .running label actions :: below) :
    ∃ u, t.Leads u ∧ u.stack = below ∧ u.trace = t.trace ++ [.finished label] := by
  refine ⟨_, .move (.move .refl (.redirect [] stack)) .step, ?_⟩
  rw [step_finished rfl]
  exact ⟨rfl, rfl⟩

end Stage

namespace Running

open Stage

/-- Where no callback runs, those that are left can run, each returning at once. -/
theorem ends_between {done left : List Callback} (ran : Ran kind done marks)
    (stack : t.stack = .pending kind left :: s.stack) (trace : t.trace = s.trace ++ marks) :
    ∃ e, t.Leads e ∧ s.Served kind (done ++ left) e := by
  induction left generalizing t done marks with
  | nil =>
      refine ⟨t.step, .move .refl .step, ?_⟩
      simp only [Stage.step, stack]
      exact ⟨rfl, _, trace, by rwa [List.append_nil]⟩
  | cons c left ih =>
      have started : t.step.stack = .running c.label c.actions :: .pending kind left :: s.stack ∧
          t.step.trace = t.trace ++ [.started c.label kind] := by
        simp only [Stage.step, stack]
        exact ⟨rfl, rfl⟩
      obtain ⟨u, finishes, back, said⟩ := leads_finished started.1
      obtain ⟨e, later, served⟩ :=
        ih (ran.next c (.nothing _)) back (by simp [said, started, trace])
      refine ⟨e, (Leads.move .refl .step).trans (finishes.trans later), ?_⟩
      simpa using served

theorem ends_inside {done left : List Callback} {c : Callback} {actions : List Action}
    (ran : Ran kind done marks) (spoken : Says c.label said)
    (stack : t.stack = .running c.label actions :: .pending kind left :: s.stack)
    (trace : t.trace = s.trace ++ (marks ++ .started c.label kind :: said)) :
    ∃ e, t.Leads e ∧ s.Served kind (done ++ c :: left) e := by
  obtain ⟨u, finishes, back, marked⟩ := leads_finished stack
  obtain ⟨e, later, served⟩ := ends_between (ran.next c spoken) back (by simp [marked, trace])
  exact ⟨e, finishes.trans later, by simpa using served⟩

theorem ends_returned {done left : List Callback} {c : Callback} {actions : List Action}
    (ran : Ran kind done marks) (spoken : Says c.label said)
    (stack : t.stack =
      .awaiting c.label :: .running c.label actions :: .pending kind left :: s.stack)
    (trace : t.trace = s.trace ++ (marks ++ .started c.label kind :: said)) :
    ∃ e, t.Leads e ∧ s.Served kind (done ++ c :: left) e := by
  have back : t.step.stack = .running c.label actions :: .pending kind left :: s.stack ∧
      t.step.trace = t.trace ++ [.answered c.label .done] := by
    simp only [Stage.step, stack]
    exact ⟨rfl, rfl⟩
  obtain ⟨e, later, served⟩ :=
    ends_inside ran (.answered .done spoken) back.1 (by simp [back.2, trace])
  exact ⟨e, (Leads.move .refl .step).trans later, served⟩

theorem ends (running : Running kind callbacks frames marks) (stack : t.stack = frames ++ s.stack)
    (trace : t.trace = s.trace ++ marks) : ∃ e, t.Leads e ∧ s.Served kind callbacks e := by
  induction running generalizing s t with
  | between left ran => exact ends_between ran stack trace
  | inside c left actions ran spoken => exact ends_inside ran spoken stack trace
  | @nested kind k done callbacks marks said inner frames c left actions ran spoken running ih =>
      let outer := s.deeper [.awaiting c.label, .running c.label actions, .pending kind left]
        (marks ++ .started c.label kind :: said)
      obtain ⟨u, first, stack, inner, trace, ended⟩ := ih (s := outer)
        (by simpa [outer, deeper] using stack) (by simpa [outer, deeper] using trace)
      obtain ⟨e, later, served⟩ := ends_returned ran (spoken.append ended) (t := u) stack
        (by simpa [outer, deeper] using trace)
      exact ⟨e, first.trans later, served⟩
  | returned c left actions ran spoken => exact ends_returned ran spoken stack trace

end Running

namespace Stage

section Registry

variable {capacity : Nat}

/-- The lists of the stage are as they should be. -/
structure Sound (s : Stage) (capacity : Nat) : Prop where
  orderly : s.center.Orderly
  capacity : s.center.capacity = capacity

theorem Sound.perform {a : Action} {answer : Answer} (sound : s.Sound capacity)
    (called : s.perform a = some (answer, t)) : t.Sound capacity := by
  obtain ⟨orderly, rfl⟩ := sound
  cases a with
  | register label kind actions =>
      simp only [Stage.perform] at called
      split at called
      next id center registered =>
        cases called
        exact ⟨orderly.register registered, by rw [(Center.register_eq_ok registered).2]⟩
      next e refused =>
        cases called
        exact ⟨orderly, rfl⟩
  | remove label kind =>
      simp only [Stage.perform] at called
      split at called <;> cases called
      · exact ⟨orderly.ofFilter _, rfl⟩
      · exact ⟨orderly, rfl⟩
  | removeAll kind =>
      cases called
      exact ⟨orderly.ofFilter _, rfl⟩
  | count kind =>
      cases called
      exact ⟨orderly, rfl⟩
  | dispatch n => cases called

/-- A step is a call or concerns no list. -/
theorem Sound.step (sound : s.Sound capacity) : s.step.Sound capacity := by
  have kept {t : Stage} (same : t.center = s.center) : t.Sound capacity :=
    ⟨by rw [same]; exact sound.orderly, by rw [same]; exact sound.capacity⟩
  cases stack : s.stack with
  | nil =>
      rw [Stage.step, stack]
      exact sound
  | cons frame below =>
      cases frame with
      | pending kind left =>
          cases left <;> simp only [Stage.step, stack] <;> exact kept rfl
      | awaiting label =>
          simp only [Stage.step, stack]
          exact kept rfl
      | running label actions =>
          cases actions with
          | nil =>
              rw [step_finished stack]
              exact kept rfl
          | cons a actions =>
              by_cases call : ∀ n, a ≠ .dispatch n
              · obtain ⟨answer, u, called, stepped⟩ := step_call stack call
                have before : Sound { s with stack := .running label actions :: below } capacity :=
                  kept rfl
                have later := before.perform called
                rw [stepped]
                exact ⟨later.orderly, later.capacity⟩
              · obtain ⟨n, rfl⟩ : ∃ n, a = .dispatch n := by simpa using call
                rw [step_dispatch stack]
                exact kept rfl

theorem Sound.leads (sound : s.Sound capacity) (leads : s.Leads t) : t.Sound capacity := by
  induction leads with
  | refl => exact sound
  | move _ move ih =>
      cases move with
      | step => exact ih.step
      | redirect new busy => exact ⟨ih.orderly, ih.capacity⟩
      | call called => exact ih.perform called
      | relabel labels => exact ⟨ih.orderly, ih.capacity⟩
      | begin n idle => exact ⟨ih.orderly, ih.capacity⟩

/-- The lists of the kinds are bounded and in the order of registration, and the calls do to them
what they should. -/
structure IsRegistry (s : Stage) (capacity : Nat) : Prop where
  bounded : ∀ kind, s.center.count kind ≤ capacity
  ordered : ∀ kind, ((s.center.subscribers kind).map (·.id)).Pairwise (· < ·)
  /-- a full kind takes no registration, and nothing changes -/
  refuses : ∀ label kind actions, s.center.count kind = capacity →
    s.perform (.register label kind actions) = some (.refused (.kindFull kind capacity), s)
  /-- any other kind takes it, behind all that it holds -/
  registers : ∀ label kind actions, s.center.count kind ≠ capacity →
    ∃ id t, s.perform (.register label kind actions) = some (.registered id, t) ∧
      (∀ k, ∀ x ∈ s.center.subscribers k, x.id < id) ∧
      ∀ k, t.center.subscribers k = s.center.subscribers k ++
        if k = kind then [⟨id, kind, ⟨label, actions⟩⟩] else []
  removes : ∀ kind id k, (s.center.remove kind id).subscribers k =
    if k = kind then (s.center.subscribers k).filter (·.id != id) else s.center.subscribers k
  removesOnce : ∀ kind id, (s.center.remove kind id).remove kind id = s.center.remove kind id
  clears : ∀ kind k, (s.center.removeAll kind).subscribers k =
    if k = kind then [] else s.center.subscribers k

theorem Sound.isRegistry (sound : s.Sound capacity) : s.IsRegistry capacity := by
  obtain ⟨orderly, rfl⟩ := sound
  refine ⟨orderly.bounded, orderly.ids, ?_, ?_, fun _ _ _ => Center.subscribers_remove ..,
    fun _ _ => Center.remove_remove .., fun _ _ => Center.subscribers_removeAll ..⟩
  · intro label kind actions full
    simp only [Stage.perform, Center.register_of_full (Nat.le_of_eq full.symm)]
  · intro label kind actions room
    have room := Nat.lt_of_le_of_ne (orderly.bounded kind) room
    obtain ⟨later, registered, -, lists⟩ := Center.register_of_room room ⟨label, actions⟩
    simp only [Stage.perform, registered]
    exact ⟨_, _, rfl, fun k x found => orderly.numbered x (List.mem_filter.mp found).1, lists⟩

theorem sound_empty (capacity : Nat) : (empty capacity).Sound capacity := ⟨.empty capacity, rfl⟩

end Registry

section Steps

theorem steps_idle (fuel : Nat) (idle : t.stack = []) : steps fuel t = t := by
  cases fuel with
  | zero => rfl
  | succ fuel => simp [steps, idle]

theorem leads_steps (fuel : Nat) (t : Stage) : t.Leads (steps fuel t) := by
  induction fuel generalizing t with
  | zero => exact .refl
  | succ fuel ih =>
      rw [steps]
      split
      · exact .refl
      · exact (Leads.move .refl .step).trans (ih t.step)

/-- What comes from outside of all callbacks is made of these moves, too. -/
theorem leads_act (fuel : Nat) (a : Action) (idle : s.stack = []) : s.Leads (s.act fuel a).2 := by
  have called (a : Action) : s.Leads ((s.perform a).getD (.done, s)).2 := by
    cases known : s.perform a with
    | none => exact .refl
    | some result => exact .move .refl (.call known)
  cases a with
  | dispatch n => exact (Leads.move .refl (.begin n idle)).trans (leads_steps fuel _)
  | register label kind actions => exact called _
  | remove label kind => exact called _
  | removeAll kind => exact called _
  | count kind => exact called _

theorem steps_busy (fuel : Nat) (busy : t.stack ≠ []) : steps (fuel + 1) t = steps fuel t.step := by
  simp [steps, busy]

/-- A dispatch from outside of all callbacks that was taken to its end. -/
theorem Serves.steps {fuel : Nat} (serves : s.Serves kind callbacks t) (idle : s.stack = [])
    (ended : (steps fuel t).stack = []) : s.Served kind callbacks (steps fuel t) := by
  induction fuel generalizing t with
  | zero =>
      obtain ⟨frames, _, stack, _, running⟩ := serves
      rw [steps, stack] at ended
      exact absurd (List.append_eq_nil_iff.mp ended).1 running.ne_nil
  | succ fuel ih =>
      have busy : t.stack ≠ [] := by
        obtain ⟨frames, _, stack, _, running⟩ := serves
        simp [stack, running.ne_nil]
      rw [steps_busy fuel busy] at ended ⊢
      rcases serves.move .step with serves | served
      · exact ih serves ended
      · rwa [steps_idle fuel (served.1.trans idle)]

/-- With enough steps nothing is left under way. -/
def Ends (t : Stage) : Prop := ∃ enough, ∀ fuel, enough ≤ fuel → (steps fuel t).stack = []

theorem ends_idle (idle : t.stack = []) : t.Ends :=
  ⟨0, fun fuel _ => by rw [steps_idle fuel idle, idle]⟩

theorem ends_of_step (ends : t.step.Ends) : t.Ends := by
  by_cases idle : t.stack = []
  · exact ends_idle idle
  · obtain ⟨enough, ends⟩ := ends
    refine ⟨enough + 1, fun fuel within => ?_⟩
    obtain ⟨fuel, rfl⟩ := Nat.exists_eq_add_of_le' (Nat.le_trans (Nat.le_add_left 1 enough) within)
    rw [steps_busy fuel idle]
    exact ends fuel (Nat.le_of_succ_le_succ within)

theorem ends_running {actions : List Action} {below : List Frame}
    (calls : ∀ n, .dispatch n ∉ actions) (stack : t.stack = .running label actions :: below)
    (after : ∀ u : Stage, u.stack = below → u.Ends) : t.Ends := by
  induction actions generalizing t with
  | nil =>
      refine ends_of_step (after _ ?_)
      rw [step_finished stack]
      rfl
  | cons a actions ih =>
      have call : ∀ n, a ≠ .dispatch n := by
        rintro n rfl
        exact calls n List.mem_cons_self
      obtain ⟨answer, u, called, stepped⟩ := step_call stack call
      refine ends_of_step (ih (fun n later => calls n (List.mem_cons_of_mem _ later)) ?_)
      rw [stepped]
      exact (perform_keeps called).1

theorem ends_pending {below : List Frame}
    (calls : ∀ c ∈ callbacks, ∀ n, .dispatch n ∉ c.actions)
    (stack : t.stack = .pending kind callbacks :: below)
    (after : ∀ u : Stage, u.stack = below → u.Ends) : t.Ends := by
  induction callbacks generalizing t with
  | nil =>
      refine ends_of_step (after _ ?_)
      simp only [step, stack]
  | cons c callbacks ih =>
      have started :
          t.step.stack = .running c.label c.actions :: .pending kind callbacks :: below := by
        simp only [step, stack]
        rfl
      refine ends_of_step (ends_running (calls c List.mem_cons_self) started fun u back => ?_)
      exact ih (fun c later => calls c (List.mem_cons_of_mem _ later)) back

/-- Callbacks that do not dispatch themselves are run to their ends by enough steps. -/
theorem act_ends {n : Notification} (idle : s.stack = [])
    (calls : ∀ c ∈ s.center.callbacks n.kind, ∀ m, .dispatch m ∉ c.actions) :
    ∃ enough, ∀ fuel, enough ≤ fuel → (s.act fuel (.dispatch n)).2.stack = [] :=
  ends_pending calls (congrArg _ idle) fun _ empty => ends_idle empty

end Steps

end Stage

/-- The notification center is an ordered registry, and a dispatch runs what was registered for its
kind when it began: while it is under way, after it returned, and in a session from outside. -/
theorem center_is_registry (capacity : Nat) :
    (∀ s, (Stage.empty capacity).Leads s → s.IsRegistry capacity) ∧
      (∀ (s t : Stage) (n : Notification), (s.startDispatch n).Leads t →
        s.Serves n.kind (s.center.callbacks n.kind) t ∨
          ∃ e, (s.startDispatch n).Leads e ∧ s.Served n.kind (s.center.callbacks n.kind) e ∧
            e.Leads t) ∧
      (∀ (s t : Stage) (kind : NotificationKind) (callbacks : List Callback),
        s.Serves kind callbacks t → ∃ e, t.Leads e ∧ s.Served kind callbacks e) ∧
      (∀ (s : Stage) (n : Notification), s.stack = [] →
        (∀ fuel, (s.act fuel (.dispatch n)).2.stack = [] →
          s.Served n.kind (s.center.callbacks n.kind) (s.act fuel (.dispatch n)).2) ∧
        ((∀ c ∈ s.center.callbacks n.kind, ∀ m, .dispatch m ∉ c.actions) →
          ∃ enough, ∀ fuel, enough ≤ fuel → (s.act fuel (.dispatch n)).2.stack = [])) := by
  refine ⟨fun s leads => ?_, fun s t n leads => leads.serves_or_served, ?_,
    fun s n idle => ⟨?_, ?_⟩⟩
  · exact ((Stage.sound_empty capacity).leads leads).isRegistry
  · rintro s t kind callbacks ⟨frames, marks, stack, trace, running⟩
    exact running.ends stack trace
  · exact fun fuel ended => (Stage.serves_startDispatch s n).steps idle ended
  · exact Stage.act_ends idle

/-- The first of two callbacks gives up its place, takes another one and dispatches; the kind that
it dispatches has one callback. -/
def busyStage : Stage :=
  let calls : List Action :=
    [.register "first" .wifiStatusChanged
        [.remove "first" .wifiStatusChanged, .register "late" .wifiStatusChanged [],
          .dispatch .wifiFatalError],
      .register "second" .wifiStatusChanged [],
      .register "other" .wifiFatalError [.count .wifiStatusChanged]]
  calls.foldl (fun s a => (s.act 0 a).2) (.empty 2)

theorem center_is_registry_busyStage :
    busyStage.IsRegistry 2 ∧
      busyStage.perform (.register "third" .wifiStatusChanged []) =
        some (.refused (.kindFull .wifiStatusChanged 2), busyStage) ∧
      busyStage.Served .wifiStatusChanged (busyStage.center.callbacks .wifiStatusChanged)
        (busyStage.act 20 (.dispatch (.wifiStatusChanged .stationUp))).2 ∧
      (busyStage.act 20 (.dispatch (.wifiStatusChanged .stationUp))).2.trace =
        [.started "first" .wifiStatusChanged, .answered "first" (.removed true),
          .answered "first" (.registered 3), .started "other" .wifiFatalError,
          .answered "other" (.counted 2), .finished "other", .answered "first" .done,
          .finished "first", .started "second" .wifiStatusChanged, .finished "second"] ∧
      (∃ enough, ∀ fuel, enough ≤ fuel →
        (busyStage.act fuel (.dispatch .wifiFatalError)).2.stack = []) ∧
      ∃ e, (busyStage.startDispatch .wifiFatalError).Leads e ∧
        busyStage.Served .wifiFatalError (busyStage.center.callbacks .wifiFatalError) e := by
  obtain ⟨lists, dispatches, ends, sessions⟩ := center_is_registry 2
  have reached : (Stage.empty 2).Leads busyStage :=
    ((Stage.leads_act 0 _ rfl).trans (Stage.leads_act 0 _ rfl)).trans (Stage.leads_act 0 _ rfl)
  have registry := lists busyStage reached
  refine ⟨registry, registry.refuses "third" .wifiStatusChanged [] rfl,
    (sessions busyStage (.wifiStatusChanged .stationUp) rfl).1 20 rfl, rfl,
    (sessions busyStage .wifiFatalError rfl).2 ?_, ?_⟩
  · rintro c listed m found
    cases List.mem_singleton.mp listed
    cases List.mem_singleton.mp found
  · rcases dispatches busyStage _ .wifiFatalError .refl with serves | ⟨e, first, served, -⟩
    · exact ends _ _ _ _ serves
    · exact ⟨e, first, served⟩

end Script

end ConnectedDevice
