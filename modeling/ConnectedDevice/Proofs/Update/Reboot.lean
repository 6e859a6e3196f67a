import ConnectedDevice.Proofs.Update.Revision

/-!
When an update asks for a reset. It does exactly if it changes an entry of the settings. An update
that repeats the network or its password changes no entry, but the settings forget all the same what
the last join learned, and no reset is asked for.
-/

namespace ConnectedDevice.Update

variable (u : Update) (c : SystemConfig)

/-- The settings after the network and the password, as far as the update has them, were entered
once more as they are. -/
def reentered : SystemConfig :=
  let c := if u.ssid.isSome then putSsid c c.ssid else c
  if u.password.isSome then putPassword c c.userKey else c

/-- Of what a join learned, there is nothing that the update would forget. -/
def NothingToForget : Prop :=
  (u.ssid.isSome → c.bssid = Vector.replicate 6 0 ∧ c.channel = 0) ∧
    (u.renews → c.key = c.userKey ∧ c.security = .auto)

instance : Decidable (u.NothingToForget c) := inferInstanceAs (Decidable (_ ∧ _))

theorem reentered_eq_iff : u.reentered c = c ↔ u.NothingToForget c := by
  obtain ⟨⟩ := c
  cases network : u.ssid <;> cases password : u.password <;>
    simp [NothingToForget, reentered, renews, network, password, putSsid, putPassword, eq_comm,
      and_left_comm, and_assoc]

theorem revised_of_entries (same : (u.revised c).entries = c.entries) :
    u.revised c = u.reentered c := by
  simp only [SystemConfig.entries, revised, Entries.mk.injEq] at same
  obtain ⟨name, ssid, userKey, dhcp, ip, netmask, gateway, dns, rf, mcu⟩ := same
  simp only [revised, name, ssid, userKey, dhcp, ip, netmask, gateway, dns, rf, mcu]
  cases network : u.ssid <;> cases password : u.password <;>
    simp [reentered, renews, network, password, putSsid, putPassword]

theorem needReboot_iff :
    (u.apply c).2.needReboot = true ↔ (u.apply c).1.entries ≠ c.entries := by
  rw [needReboot_eq, apply_fst, bne_iff_ne, ne_comm]

theorem needReboot_eq_false_iff :
    (u.apply c).2.needReboot = false ↔ (u.apply c).1.entries = c.entries := by
  rw [← Bool.not_eq_true, needReboot_iff, not_not]

/-- An update asks for a reset exactly if it changes an entry. If it changes none, it does no more
than to enter the network and the password once more, and so it may change the settings unsaid. -/
theorem needReboot_tells :
    ((u.apply c).2.needReboot = true ↔ (u.apply c).1.entries ≠ c.entries) ∧
      ((u.apply c).2.needReboot = false → (u.apply c).1 = u.reentered c) ∧
      (((u.apply c).2.needReboot = true ↔ (u.apply c).1 ≠ c) ↔
        (u.apply c).2.needReboot = true ∨ u.NothingToForget c) := by
  have unchanged (kept : (u.apply c).2.needReboot = false) : (u.apply c).1 = u.reentered c := by
    rw [needReboot_eq_false_iff, apply_fst] at kept
    rw [apply_fst, u.revised_of_entries c kept]
  refine ⟨u.needReboot_iff c, unchanged, ?_⟩
  cases asks : (u.apply c).2.needReboot with
  | true =>
      have changed : (u.apply c).1 ≠ c := fun same =>
        (u.needReboot_iff c).mp asks (congrArg SystemConfig.entries same)
      simp [changed]
  | false => simp [unchanged asks, reentered_eq_iff]

/-- The network is named as it is. -/
def sameNetwork : Update := { empty with ssid := some "Home" }

theorem needReboot_tells_sameNetwork :
    (sameNetwork.apply joined).2.needReboot = false ∧
      (sameNetwork.apply joined).1 = sameNetwork.reentered joined ∧
      ¬sameNetwork.NothingToForget joined := by
  have silent : (sameNetwork.apply joined).2.needReboot = false := by decide +kernel
  exact ⟨silent, (needReboot_tells sameNetwork joined).2.1 silent, by decide⟩

/-- No change is seen, but the access point, the key of the join and its security are gone. -/
theorem sameNetwork_forgets :
    (sameNetwork.apply joined).2.needReboot = false ∧ (sameNetwork.apply joined).1 ≠ joined ∧
      ((sameNetwork.apply joined).1.bssid, (sameNetwork.apply joined).1.channel,
        (sameNetwork.apply joined).1.security, (sameNetwork.apply joined).1.key) =
          (Vector.replicate 6 0, 0, .auto, "12345678") := by
  decide +kernel

end ConnectedDevice.Update
