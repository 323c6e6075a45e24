import EditorSession.Registration.Registry
import Mathlib.Data.List.Nodup

/-! # Changes of attempts with distinct identifiers

Among attempts with distinct identifiers a change that addresses an identifier is a change of single
attempts: `update` is a `map`, and `drop` and `restore` are a `filterMap` (`update_eq_map`,
`drop_eq_filterMap`, `restore_eq_filterMap`).  A change of single attempts that keeps their
identifiers keeps them distinct (`nodup_filterMap`), and two such changes can be made in either
order exactly when they can for each attempt (`filterMap_comm_iff`). -/

namespace EditorSession.Attempts

/-! ### Changes that address an identifier -/

section distinct
variable {attempts : List Attempt}

theorem hasId_eq_false_iff {id : RegistrationId} {a : Attempt} :
    a.hasId id = false ↔ a.id ≠ some id := by
  simp [Attempt.hasId]

theorem hasId_eq_false_of_distinct {id : RegistrationId} {a : Attempt} {rest : List Attempt}
    (ha : a.hasId id = true) (hd : ((a :: rest).map Attempt.id).Nodup) :
    ∀ b ∈ rest, b.hasId id = false := by
  intro b hb
  rw [List.map_cons, List.nodup_cons] at hd
  rw [hasId_eq_false_iff]
  intro hbid
  have hab : b.id = a.id := hbid.trans (Attempt.hasId_eq_true_iff.mp ha).symm
  exact hd.1 (hab ▸ List.mem_map_of_mem hb)

theorem update_eq_map {id : RegistrationId} {change : Attempt → Attempt}
    (hd : (attempts.map Attempt.id).Nodup) :
    update id change attempts = attempts.map fun a => if a.hasId id then change a else a := by
  induction attempts with
  | nil => rfl
  | cons a rest ih =>
      by_cases ha : a.hasId id = true
      · have hrest := hasId_eq_false_of_distinct ha hd
        have hmap : rest.map (fun b => if b.hasId id then change b else b) = rest := by
          rw [List.map_congr_left (g := fun b => b) (fun b hb => by simp [hrest b hb])]
          exact List.map_id' rest
        simp [update, ha, hmap]
      · rw [List.map_cons, List.nodup_cons] at hd
        simp [update, ha, ih hd.2]

theorem update_append_of_forall_not {id : RegistrationId} {change : Attempt → Attempt}
    (h : ∀ a ∈ attempts, a.hasId id = false) (rest : List Attempt) :
    update id change (attempts ++ rest) = attempts ++ update id change rest := by
  induction attempts with
  | nil => rfl
  | cons a attempts ih =>
      rw [List.forall_mem_cons] at h
      simp [update, h.1, ih h.2]

theorem drop_eq_filterMap (id : RegistrationId) (attempts : List Attempt) :
    drop id attempts = attempts.filterMap fun a => if a.hasId id then none else some a := by
  induction attempts with
  | nil => rfl
  | cons a rest ih =>
      unfold drop at ih ⊢
      by_cases ha : a.hasId id = true <;> simp [ha, ih]

theorem restore_eq_filterMap {id : RegistrationId} (hd : (attempts.map Attempt.id).Nodup) :
    restore id attempts = attempts.filterMap fun a =>
      if a.hasId id then
        if a.registered then some (a.withState .complete) else none
      else some a := by
  have hsub : ((dropUnregistered id attempts).map Attempt.id).Nodup :=
    hd.sublist (List.filter_sublist.map _)
  unfold restore
  rw [update_eq_map hsub]
  clear hsub hd
  induction attempts with
  | nil => rfl
  | cons a rest ih =>
      unfold dropUnregistered at ih ⊢
      by_cases ha : a.hasId id = true <;> by_cases hr : a.registered = true <;>
        simpa [ha, hr] using ih

/-- Dropping a new attempt takes back what was recorded. -/
theorem drop_append_start {id : RegistrationId} (h : ∀ a ∈ attempts, a.hasId id = false) :
    drop id (attempts ++ [.start id]) = attempts := by
  unfold drop
  rw [List.filter_append, List.filter_eq_self.mpr fun a ha => by rw [h a ha]; rfl,
    List.filter_eq_nil_iff.mpr fun a ha => by
      rw [List.mem_singleton.mp ha]
      simp [Attempt.hasId, Attempt.start], List.append_nil]

end distinct

/-! ### Changes of single attempts -/

/-- The change keeps the identifiers of the attempts that it keeps. -/
def KeepsId (change : Attempt → Option Attempt) : Prop := ∀ a b, change a = some b → b.id = a.id

section changes
variable {f g : Attempt → Option Attempt} {attempts : List Attempt}

theorem KeepsId.bind (hf : KeepsId f) (hg : KeepsId g) : KeepsId fun a => (f a).bind g := by
  intro a c h
  obtain ⟨b, hb, hc⟩ := Option.bind_eq_some_iff.mp h
  rw [hg b c hc, hf a b hb]

theorem ids_filterMap_sublist (hf : KeepsId f) (attempts : List Attempt) :
    ((attempts.filterMap f).map Attempt.id).Sublist (attempts.map Attempt.id) := by
  induction attempts with
  | nil => exact List.Sublist.refl _
  | cons a rest ih =>
      cases h : f a with
      | none =>
          rw [List.filterMap_cons_none h, List.map_cons]
          exact ih.cons _
      | some b =>
          rw [List.filterMap_cons_some h, List.map_cons, List.map_cons, hf a b h]
          exact ih.cons_cons _

theorem nodup_filterMap (hf : KeepsId f) (hd : (attempts.map Attempt.id).Nodup) :
    ((attempts.filterMap f).map Attempt.id).Nodup :=
  hd.sublist (ids_filterMap_sublist hf attempts)

/-- What a change makes of an attempt is what bears its identifier afterwards. -/
theorem mem_filterMap_iff_of_id_eq (hf : KeepsId f) (hd : (attempts.map Attempt.id).Nodup)
    {a b : Attempt} (ha : a ∈ attempts) (he : b.id = a.id) :
    b ∈ attempts.filterMap f ↔ f a = some b := by
  rw [List.mem_filterMap]
  constructor
  · rintro ⟨c, hc, hcb⟩
    have hid : c.id = a.id := by rw [← hf c b hcb, he]
    have hca : c = a := List.inj_on_of_nodup_map hd hc ha hid
    exact hca ▸ hcb
  · exact fun h => ⟨a, ha, h⟩

theorem filterMap_eq_iff (hf : KeepsId f) (hg : KeepsId g) (hd : (attempts.map Attempt.id).Nodup) :
    attempts.filterMap f = attempts.filterMap g ↔ ∀ a ∈ attempts, f a = g a := by
  constructor
  · intro h a ha
    apply Option.ext
    intro b
    by_cases he : b.id = a.id
    · rw [← mem_filterMap_iff_of_id_eq hf hd ha he, ← mem_filterMap_iff_of_id_eq hg hd ha he, h]
    · exact iff_of_false (fun hb => he (hf a b hb)) (fun hb => he (hg a b hb))
  · exact List.filterMap_congr

/-- Two changes can be made in either order exactly when they can for each attempt. -/
theorem filterMap_comm_iff (hf : KeepsId f) (hg : KeepsId g)
    (hd : (attempts.map Attempt.id).Nodup) :
    (attempts.filterMap f).filterMap g = (attempts.filterMap g).filterMap f ↔
      ∀ a ∈ attempts, (f a).bind g = (g a).bind f := by
  rw [List.filterMap_filterMap, List.filterMap_filterMap]
  exact filterMap_eq_iff (hf.bind hg) (hg.bind hf) hd

end changes

end EditorSession.Attempts
