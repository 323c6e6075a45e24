import EditorSession.Config.Overlay
import EditorSession.Proofs.Layers
import Mathlib.Data.List.Induction

/-! # What a merger makes of layers

A merger that keeps its laws gathers one object from the layers, in which every key holds what the
values under it make when each is laid over the lower ones (`Merger.Laws.gathered`).  So layers,
some of which holds something, are merged exactly when all of them are objects and the stacked
values fill a configuration (`Merger.Laws.merge_eq_ok_iff`), and a layer that is no object fails the
merge wherever it stands (`Merger.Laws.exists_merge_eq_error`).  The merger that runs keeps the laws
(`Config.merger_laws`). -/

namespace EditorSession

open Json (stacked overlay? Ordered OverlayLaws bind_eq_ok_iff)

namespace Config

/-- The values that layers hold under a key, that of the highest layer first. -/
def valuesIn (layers : List Layer) (key : String) : List Json :=
  layers.reverse.filterMap fun l => l.value.member? key

theorem valuesIn_concat (layers : List Layer) (l : Layer) (key : String) :
    valuesIn (layers ++ [l]) key = (l.value.member? key).toList ++ valuesIn layers key := by
  unfold valuesIn
  rw [List.reverse_append, List.reverse_singleton, List.singleton_append, List.filterMap_cons]
  cases l.value.member? key <;> rfl

end Config

open Config (valuesIn valuesIn_concat)

/-! ### Any merger -/

namespace Merger.Laws

variable {ε : Type} {m : Merger ε} {layers : List Layer} {s s' : m.State} {l : Layer}

/-- A layer that is taken is an object, which is laid over what was gathered before. -/
theorem exists_of_add (hm : m.Laws) (h : m.add s l = .ok s') : ∃ upper, l.value = .object upper ∧
    .object (m.members s') = m.overlay (.object upper) (.object (m.members s)) := by
  by_cases hv : ∃ upper, l.value = .object upper
  · obtain ⟨upper, hv⟩ := hv
    obtain ⟨_, hadd, hmembers⟩ := hm.add_object s l upper hv
    cases hadd.symm.trans h
    exact ⟨upper, hv, hmembers⟩
  · obtain ⟨e, herror⟩ := hm.add_other s l (not_exists.mp hv)
    cases herror.symm.trans h

/-- After a layer every key holds what its value makes of what was gathered under that key. -/
theorem find_of_add (hm : m.Laws) (hneat : l.value.Neat) (h : m.add s l = .ok s') (key : String) :
    Json.find key (m.members s') =
      overlay? m.overlay (l.value.member? key) (Json.find key (m.members s)) := by
  obtain ⟨upper, hv, hmembers⟩ := hm.exists_of_add h
  obtain ⟨members, hmerging, hfind⟩ := hm.overlay.merging upper (m.members s)
  rw [hmerging, Json.object.injEq] at hmembers
  rw [hmembers, hfind (hneat upper hv), hv]
  rfl

/-- What is gathered holds under every key what the values of the layers make. -/
theorem gathered (hm : m.Laws) (hneat : ∀ l ∈ layers, l.value.Neat)
    (h : layers.foldlM m.add m.start = .ok s) :
    Ordered (m.members s) ∧
      ∀ key, Json.find key (m.members s) = stacked m.overlay (valuesIn layers key) := by
  induction layers using List.reverseRecOn generalizing s with
  | nil =>
      cases h
      rw [hm.start]
      exact ⟨List.Pairwise.nil, fun _ => rfl⟩
  | append_singleton layers l ih =>
      rw [List.foldlM_append, bind_eq_ok_iff] at h
      obtain ⟨below, hbelow, h⟩ := h
      obtain ⟨hordered, hfind⟩ := ih (fun l hl => hneat l (List.mem_append_left _ hl)) hbelow
      rw [List.foldlM_cons, bind_eq_ok_iff] at h
      obtain ⟨_, h, hpure⟩ := h
      cases hpure
      refine ⟨hm.add_ordered below l s h hordered, fun key => ?_⟩
      have hl := hneat l (List.mem_append_right _ (List.mem_singleton_self l))
      rw [hm.find_of_add hl h, hfind, valuesIn_concat, Json.stacked_toList_append]

theorem exists_gathered (hm : m.Laws) (h : ∀ l ∈ layers, ∃ members, l.value = .object members)
    (s : m.State) : ∃ s', layers.foldlM m.add s = .ok s' := by
  induction layers generalizing s with
  | nil => exact ⟨s, rfl⟩
  | cons l rest ih =>
      rw [List.forall_mem_cons] at h
      obtain ⟨upper, hv⟩ := h.1
      obtain ⟨s', hadd, -⟩ := hm.add_object s l upper hv
      obtain ⟨s'', hrest⟩ := ih h.2 s'
      refine ⟨s'', ?_⟩
      rw [List.foldlM_cons, bind_eq_ok_iff]
      exact ⟨s', hadd, hrest⟩

/-- A layer that is no object is refused when its turn comes, unless something is refused before. -/
theorem exists_gathered_eq_error (hm : m.Laws)
    (h : ∃ l ∈ layers, ∀ members, l.value ≠ .object members) (s : m.State) :
    ∃ e, layers.foldlM m.add s = .error e := by
  induction layers generalizing s with
  | nil =>
      obtain ⟨l, hl, -⟩ := h
      exact absurd hl List.not_mem_nil
  | cons l rest ih =>
      rw [List.foldlM_cons]
      cases hadd : m.add s l with
      | error e => exact ⟨e, rfl⟩
      | ok s' =>
          obtain ⟨upper, hv, -⟩ := hm.exists_of_add hadd
          obtain ⟨l', hl', hne⟩ := h
          rcases List.mem_cons.mp hl' with rfl | hl'
          · exact absurd hv (hne upper)
          · exact ih ⟨l', hl', hne⟩ s'

theorem exists_merge_eq_error (hm : m.Laws)
    (h : ∃ l ∈ layers, ∀ members, l.value ≠ .object members) :
    ∃ e, m.merge layers = .error e := by
  obtain ⟨e, herror⟩ := hm.exists_gathered_eq_error h m.start
  exact ⟨e, by rw [merge, herror]; rfl⟩

/-- Layers that are objects, some of which holds something, make one object that is read. -/
theorem exists_merged (hm : m.Laws) (hneat : ∀ l ∈ layers, l.value.Neat)
    (hobject : ∀ l ∈ layers, ∃ members, l.value = .object members) {key : String}
    (hkey : valuesIn layers key ≠ []) : ∃ members, Ordered members ∧
      (∀ key, Json.find key members = stacked m.overlay (valuesIn layers key)) ∧
      m.merge layers = (Config.ofValue (.object members)).mapError m.invalid := by
  obtain ⟨s, hfold⟩ := hm.exists_gathered hobject m.start
  obtain ⟨hordered, hfind⟩ := hm.gathered hneat hfold
  have hne : m.members s ≠ [] := by
    intro hnil
    have hnone : stacked m.overlay (valuesIn layers key) = none := by
      rw [← hfind key, hnil]
      rfl
    exact Json.stacked_ne_none hkey hnone
  refine ⟨m.members s, hordered, hfind, ?_⟩
  rw [merge, hfold, ← hm.finish_members s hne]
  rfl

/-- Layers, some of which holds something, are merged exactly when all of them are objects and their
stacked values fill a configuration. -/
theorem merge_eq_ok_iff (hm : m.Laws) (hneat : ∀ l ∈ layers, l.value.Neat) {key : String}
    (hkey : valuesIn layers key ≠ []) {c : Config} :
    m.merge layers = .ok c ↔ (∀ l ∈ layers, ∃ members, l.value = .object members) ∧
      c.FilledBy fun key => stacked m.overlay (valuesIn layers key) := by
  by_cases hobject : ∀ l ∈ layers, ∃ members, l.value = .object members
  · obtain ⟨members, hordered, hfind, hmerged⟩ := hm.exists_merged hneat hobject hkey
    rw [and_iff_right hobject, hmerged]
    simp only [← hfind, ← Config.ofValue_object_eq_ok_iff hordered.nodup]
    cases Config.ofValue (.object members) <;> simp [Except.mapError]
  · refine iff_of_false (fun h => ?_) fun h => hobject h.1
    push Not at hobject
    obtain ⟨e, herror⟩ := hm.exists_merge_eq_error hobject
    cases herror.symm.trans h

/-- Whatever the layers hold, a configuration that they make is filled by their stacked values. -/
theorem filledBy_of_merge (hm : m.Laws) (hneat : ∀ l ∈ layers, l.value.Neat) {c : Config}
    (h : m.merge layers = .ok c) :
    c.FilledBy fun key => stacked m.overlay (valuesIn layers key) := by
  rw [merge, bind_eq_ok_iff] at h
  obtain ⟨s, hfold, hfinish⟩ := h
  obtain ⟨hordered, hfind⟩ := hm.gathered hneat hfold
  simp only [← hfind]
  by_cases hnil : m.members s = []
  · cases hm.finish_nothing s c hnil hfinish
    rw [hnil]
    exact ⟨rfl, rfl, rfl, rfl⟩
  · rw [hm.finish_members s hnil] at hfinish
    rw [← Config.ofValue_object_eq_ok_iff hordered.nodup]
    cases hread : Config.ofValue (.object (m.members s)) with
    | ok c' =>
        rw [hread] at hfinish
        cases hfinish
        rfl
    | error e =>
        rw [hread] at hfinish
        cases hfinish

end Merger.Laws

/-! ### The merger that runs -/

namespace Json

variable {base upper : List (String × Json)}

theorem Ordered.overlayMembers (h : Ordered base) (upper : List (String × Json)) :
    Ordered (overlayMembers upper base) := by
  induction upper generalizing base with
  | nil => exact (overlayMembers_nil base).symm ▸ h
  | cons m rest ih =>
      unfold Json.overlayMembers
      exact ih (h.insert m.1 _)

theorem find_overlayMembers (hd : (upper.map Prod.fst).Nodup) (name : String)
    (base : List (String × Json)) :
    find name (overlayMembers upper base) =
      overlay? overlay (find name upper) (find name base) := by
  induction upper generalizing base with
  | nil => rw [overlayMembers_nil]; rfl
  | cons m rest ih =>
      obtain ⟨key, value⟩ := m
      rw [List.map_cons, List.nodup_cons] at hd
      unfold overlayMembers
      rw [ih hd.2]
      by_cases hm : key = name
      · subst hm
        have hrest : find key rest = none := find_eq_none_iff.mpr hd.1
        rw [hrest, find_insert_self]
        cases hb : find key base <;> simp [find, overlay?]
      · rw [find_insert_of_ne (Ne.symm hm)]
        simp [find, hm]

theorem overlayLaws : OverlayLaws overlay where
  replacing _ below h := overlay_of_not_object h below
  replaced members below h := by
    cases below with
    | object base => exact absurd rfl (h base)
    | _ => simp [overlay]
  merging upper base := ⟨overlayMembers upper base, by simp [overlay], fun hd name =>
    find_overlayMembers hd name base⟩

end Json

namespace Config

theorem addLayer_eq_ok_iff {base members : List (String × Json)} {l : Layer} :
    addLayer base l = .ok members ↔
      ∃ upper, l.value = .object upper ∧ Json.overlayMembers upper base = members := by
  unfold addLayer
  split
  · next upper hv => simp [hv]
  · next hv => exact iff_of_false (by simp) (by rintro ⟨upper, h, -⟩; exact hv upper h)

theorem merger_laws : merger.Laws where
  overlay := Json.overlayLaws
  start := rfl
  add_object base l upper hv := ⟨Json.overlayMembers upper base,
    addLayer_eq_ok_iff.mpr ⟨upper, hv, rfl⟩, by simp [merger, Json.overlay]⟩
  add_ordered base l members h hordered := by
    obtain ⟨upper, -, rfl⟩ := addLayer_eq_ok_iff.mp h
    exact hordered.overlayMembers upper
  add_other base l h := by
    cases hadd : addLayer base l with
    | error e => exact ⟨e, hadd⟩
    | ok members =>
        obtain ⟨upper, hv, -⟩ := addLayer_eq_ok_iff.mp hadd
        exact absurd hv (h upper)
  finish_members members hne := by
    cases members with
    | nil => exact absurd rfl hne
    | cons m rest => rfl
  finish_nothing members c hnil h := by
    cases hnil
    cases h

end Config

end EditorSession
