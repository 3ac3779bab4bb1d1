import TemplatedRequests.Proofs.Store.Reachable

/-!
Which environments are active. In every state that operations lead to it is none or a single one,
and an environment that was just activated, or created or updated as active, is that one.
-/

namespace TemplatedRequests.Store

def active (s : Store) : List EnvironmentRow := s.environments.filter (·.isActive)

variable {s : Store} {id : Int} {row : EnvironmentRow}

@[simp] theorem mem_active : row ∈ s.active ↔ row ∈ s.environments ∧ row.isActive = true :=
  List.mem_filter

theorem mem_replaceEnvironment_deactivateOthers {e : EnvironmentRow} (he : e ∈ s.environments)
    (hid : e.id = row.id) : row ∈ ((s.deactivateOthers id).replaceEnvironment row).environments := by
  refine List.mem_map.2 ⟨_, List.mem_map_of_mem he, if_pos ?_⟩
  split <;> exact hid

namespace Sound

variable (h : s.Sound)
include h

theorem nodup_active : s.active.Nodup :=
  (h.ordered.imp fun hlt heq => by simp [heq] at hlt).filter _

theorem active_eq_singleton (hr : row ∈ s.environments) (ha : row.isActive = true) :
    s.active = [row] := by
  have hmem : row ∈ s.active := mem_active.2 ⟨hr, ha⟩
  have hall : ∀ e ∈ s.active, e = row := by
    intro e he
    obtain ⟨he, hea⟩ := mem_active.1 he
    exact h.eq_of_id he hr (h.oneActive e he row hr hea ha)
  have hrep := List.eq_replicate_of_mem hall
  have hle : s.active.length ≤ 1 := List.nodup_replicate.1 (hrep ▸ h.nodup_active)
  have hpos : 0 < s.active.length := List.length_pos_of_mem hmem
  rw [hrep, show s.active.length = 1 by omega, List.replicate_one]

theorem length_active_le_one : s.active.length ≤ 1 := by
  cases hs : s.active with
  | nil => exact Nat.zero_le _
  | cons row rest =>
    obtain ⟨hr, ha⟩ := mem_active.1 (hs ▸ List.mem_cons_self)
    rw [h.active_eq_singleton hr ha] at hs
    rw [← hs]
    exact Nat.le_refl _

theorem active_of_create {new : NewEnvironment} {p : Store × EnvironmentRow}
    (hp : s.create new = .ok p) (hn : new.isActive = true) : p.1.active = [p.2] := by
  have hsound := h.create hp
  obtain ⟨-, hs⟩ := create_eq_ok hp
  rw [row_of_create hp]
  refine hsound.active_eq_singleton ?_ hn
  rw [hs]
  exact List.mem_append_right _ (List.mem_singleton_self _)

theorem active_of_update {changes : EnvironmentChanges} {p : Store × EnvironmentRow}
    (hp : s.update id changes = .ok p) (hc : changes.isActive = .set true) :
    (p.2.id : Int) = id ∧ p.1.active = [p.2] := by
  have hsound := h.update hp
  obtain ⟨e, he, hid, hrow, -, hs⟩ := update_eq_ok hp
  obtain ⟨hrid, ha, -⟩ := EnvironmentChanges.apply?_eq_some hrow
  rw [hc] at ha
  refine ⟨hrid ▸ hid, hsound.active_eq_singleton ?_ ha.symm⟩
  rw [hs, if_pos hc]
  exact mem_replaceEnvironment_deactivateOthers he hrid.symm

theorem active_of_activate {p : Store × EnvironmentRow} (hp : s.activate id = .ok p) :
    (p.2.id : Int) = id ∧ p.1.active = [p.2] := by
  have hsound := h.activate hp
  obtain ⟨e, he, hid, -, hrow, hs⟩ := activate_eq_ok hp
  have hrid : e.id = p.2.id := by rw [hrow]
  refine ⟨hrid ▸ hid, hsound.active_eq_singleton ?_ (by rw [hrow])⟩
  rw [hs]
  exact mem_replaceEnvironment_deactivateOthers he hrid

end Sound

/-- At most one environment is active and none is both active and shared, every variable belongs to
an environment, and one that was just made active is the only one. -/
theorem active_of_reachable {s : Store} (h : s.Reachable) :
    s.active.length ≤ 1 ∧
    (∀ e ∈ s.environments, ¬(e.isActive = true ∧ e.isShared = true)) ∧
    (∀ v ∈ s.variableRows, ∃ e ∈ s.environments, e.id = v.environmentId) ∧
    (∀ id p, s.activate id = .ok p → (p.2.id : Int) = id ∧ p.1.active = [p.2]) ∧
    (∀ new p, s.create new = .ok p → new.isActive = true → p.1.active = [p.2]) ∧
    (∀ id changes p, s.update id changes = .ok p → changes.isActive = .set true →
      (p.2.id : Int) = id ∧ p.1.active = [p.2]) := by
  have hsound := h.sound
  refine ⟨hsound.length_active_le_one, fun e he => ?_, hsound.owned,
    fun _ _ => hsound.active_of_activate, fun _ _ => hsound.active_of_create,
    fun _ _ _ => hsound.active_of_update⟩
  rintro ⟨ha, hs⟩
  rw [hsound.notShared e he ha] at hs
  cases hs

section HandedOver

/-- Two environments that were created as active, one after the other. -/
def handedOver : Store where
  environments := [⟨1, "dev", false, false⟩, ⟨2, "prod", true, false⟩]

theorem reachable_handedOver : handedOver.Reachable :=
  .perform (.create ⟨"prod", true, false, []⟩) (.perform (.create ⟨"dev", true, false, []⟩) .empty)

theorem active_handedOver : handedOver.active.length ≤ 1 ∧ ∃ p, handedOver.activate 1 = .ok p ∧
    p.1.active = [⟨1, "dev", true, false⟩] := by
  obtain ⟨hle, -, -, hactivate, -⟩ := active_of_reachable reachable_handedOver
  exact ⟨hle, _, rfl, (hactivate 1 _ rfl).2⟩

end HandedOver

end TemplatedRequests.Store
