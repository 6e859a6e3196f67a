import ConnectedDevice.Device.Board

/-!
How a notification center changes. Registrations go, those that stay keep their order, and new ones
come behind them, with numbers that no earlier one had.
-/

namespace ConnectedDevice

def Subscription.key {α : Type} (x : Subscription α) : NotificationKind × Nat := (x.kind, x.id)

/-- The system that a handler belongs to. -/
def Handler.party? : Handler → Option Nat
  | .system i | .provisioning i _ => some i
  | .application _ => none

theorem Subscription.key_ne {α : Type} {x y : Subscription α} (older : x.id < y.id) :
    y.key ≠ x.key := fun same => Nat.ne_of_gt older (congrArg Prod.snd same)

namespace Center

variable {α : Type} {c d e later : Center α} {goes comes : α → Prop}

theorem register_eq_ok {kind : NotificationKind} {callback : α} {id : Nat}
    (registered : c.register kind callback = .ok (id, later)) :
    id = c.nextId ∧ later =
      { c with
        nextId := c.nextId + 1
        subscriptions := c.subscriptions ++ [⟨id, kind, callback⟩] } := by
  unfold register at registered
  split at registered
  · cases registered
  · cases registered
    exact ⟨rfl, rfl⟩

/-- Removing one registration after the other removes exactly those. -/
theorem foldl_remove (keys : List (NotificationKind × Nat)) :
    keys.foldl (fun c (kind, id) => c.remove kind id) c =
      { c with subscriptions := c.subscriptions.filter (·.key ∉ keys) } := by
  induction keys generalizing c with
  | nil => rw [List.filter_eq_self.mpr (by simp)]; rfl
  | cons key keys ih =>
      have same (x : Subscription α) : (decide (x.key ∉ keys) &&
          !(x.kind == key.1 && x.id == key.2)) = decide (x.key ∉ key :: keys) := by
        rw [Bool.eq_iff_iff, Bool.and_eq_true_iff, decide_eq_true_iff, decide_eq_true_iff]
        simp [Subscription.key, Prod.ext_iff, Decidable.imp_iff_not_or, and_comm, or_comm]
      rw [List.foldl_cons, ih]
      simp only [remove, List.filter_filter, same]

/-- Only such registrations go, and only such come. -/
structure Moves (goes comes : α → Prop) (c later : Center α) : Prop where
  numbers : c.nextId ≤ later.nextId
  change : ∃ (stays : Subscription α → Bool) (new : List (Subscription α)),
    later.subscriptions = c.subscriptions.filter stays ++ new ∧
      (∀ x ∈ c.subscriptions, stays x = false → goes x.callback) ∧
        ∀ x ∈ new, comes x.callback ∧ c.nextId ≤ x.id ∧ x.id < later.nextId

namespace Moves

theorem refl (c : Center α) : Moves goes comes c c :=
  ⟨Nat.le_refl _, fun _ => true, [], by simp [List.filter_eq_self.mpr]⟩

theorem ofRegister {kind : NotificationKind} {callback : α} {id : Nat}
    (registered : c.register kind callback = .ok (id, later)) (own : comes callback) :
    Moves goes comes c later := by
  obtain ⟨rfl, rfl⟩ := register_eq_ok registered
  refine ⟨Nat.le_succ _, fun _ => true, [⟨c.nextId, kind, callback⟩], ?_, by simp, ?_⟩
  · rw [List.filter_eq_self.mpr (by simp)]
  · simpa using own

theorem ofRemove (kind : NotificationKind) (id : Nat) (anybody : ∀ h, goes h) :
    Moves goes comes c (c.remove kind id) :=
  ⟨Nat.le_refl _, _, [], (List.append_nil _).symm, fun _ _ _ => anybody _, by simp⟩

theorem trans (first : Moves goes comes c d) (second : Moves goes comes d e) :
    Moves goes comes c e := by
  obtain ⟨numbers, stays, new, same, gone, came⟩ := first
  obtain ⟨further, stays', new', same', gone', came'⟩ := second
  refine ⟨Nat.le_trans numbers further, fun x => stays x && stays' x,
    new.filter stays' ++ new', ?_, ?_, ?_⟩
  · rw [same', same, List.filter_append, List.filter_filter, List.append_assoc]
    simp only [Bool.and_comm]
  · intro x found leaves
    rcases Bool.and_eq_false_iff.mp leaves with leaves | leaves
    · exact gone x found leaves
    · cases stayed : stays x with
      | false => exact gone x found stayed
      | true =>
          refine gone' x ?_ leaves
          exact same ▸ List.mem_append_left _ (List.mem_filter.mpr ⟨found, stayed⟩)
  · intro x found
    rcases List.mem_append.mp found with found | found
    · obtain ⟨comes, above, below⟩ := came x (List.mem_filter.mp found).1
      exact ⟨comes, above, Nat.lt_of_lt_of_le below further⟩
    · obtain ⟨comes, above, below⟩ := came' x found
      exact ⟨comes, Nat.le_trans numbers above, below⟩

theorem mono {leaves enters : α → Prop} (moves : Moves goes comes c d)
    (further : ∀ h, goes h → leaves h) (others : ∀ h, comes h → enters h) :
    Moves leaves enters c d := by
  obtain ⟨numbers, stays, new, same, gone, came⟩ := moves
  exact ⟨numbers, stays, new, same, fun x found goes => further _ (gone x found goes),
    fun x found => ⟨others _ (came x found).1, (came x found).2⟩⟩

theorem mem {x : Subscription α} (moves : Moves goes comes c d) (found : x ∈ d.subscriptions) :
    x ∈ c.subscriptions ∨ comes x.callback ∧ c.nextId ≤ x.id ∧ x.id < d.nextId := by
  obtain ⟨-, stays, new, same, -, came⟩ := moves
  rw [same, List.mem_append] at found
  rcases found with found | found
  · exact .inl (List.mem_filter.mp found).1
  · exact .inr (came x found)

end Moves
end Center
end ConnectedDevice
