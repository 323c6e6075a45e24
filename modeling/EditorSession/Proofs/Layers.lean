import EditorSession.Config.Merger
import EditorSession.Proofs.Filling

/-! # Values laid over each other

Where several layers hold a value under one key, what counts is what these values make when each is
laid over the lower ones (`stacked`).  For a field that no object can fill, the highest value alone
counts (`Decoder.fills_stacked_iff`); for the log format an empty object in a higher layer leaves
the lower value as it is (`LogFormat.fills_of_fills_stacked`).  All of this follows from
`OverlayLaws`, whatever else a way to lay values over each other may do. -/

namespace EditorSession

namespace Json

variable {overlay : Json → Json → Json}

/-- What values make when each is laid over the ones behind it. -/
def stacked (overlay : Json → Json → Json) : List Json → Option Json
  | [] => none
  | value :: below => overlay? overlay (some value) (stacked overlay below)

theorem stacked_toList_append (value : Option Json) (below : List Json) :
    stacked overlay (value.toList ++ below) = overlay? overlay value (stacked overlay below) := by
  cases value <;> rfl

theorem stacked_ne_none {values : List Json} (h : values ≠ []) : stacked overlay values ≠ none := by
  cases values with
  | nil => exact absurd rfl h
  | cons value below =>
      rw [stacked]
      cases stacked overlay below <;> simp [overlay?]

theorem OverlayLaws.stacked_cons_of_not_object (ho : OverlayLaws overlay) {value : Json}
    (h : ∀ members, value ≠ object members) (below : List Json) :
    stacked overlay (value :: below) = some value := by
  rw [stacked]
  cases stacked overlay below with
  | none => rfl
  | some v => exact congrArg some (ho.replacing value v h)

/-- An object replaces what is below unless that is an object too; then the two are merged. -/
theorem OverlayLaws.stacked_cons_object (ho : OverlayLaws overlay) (upper : List (String × Json))
    (below : List Json) : stacked overlay (object upper :: below) = some (object upper) ∨
    ∃ base members, stacked overlay below = some (object base) ∧
      stacked overlay (object upper :: below) = some (object members) ∧
      ((upper.map Prod.fst).Nodup → ∀ name,
        find name members = overlay? overlay (find name upper) (find name base)) := by
  rw [stacked]
  cases stacked overlay below with
  | none => exact .inl rfl
  | some v =>
      by_cases hv : ∃ base, v = object base
      · obtain ⟨base, rfl⟩ := hv
        obtain ⟨members, hmembers, hfind⟩ := ho.merging upper base
        exact .inr ⟨base, members, rfl, congrArg some hmembers, hfind⟩
      · exact .inl (congrArg some (ho.replaced upper v (not_exists.mp hv)))

theorem OverlayLaws.eq_null (ho : OverlayLaws overlay) {v below : Json}
    (h : overlay v below = null) : v = null := by
  by_cases hv : ∃ members, v = object members
  · obtain ⟨members, rfl⟩ := hv
    by_cases hb : ∃ base, below = object base
    · obtain ⟨base, rfl⟩ := hb
      obtain ⟨_, hmembers, -⟩ := ho.merging members base
      cases hmembers.symm.trans h
    · cases (ho.replaced members below (not_exists.mp hb)).symm.trans h
  · exact (ho.replacing v below (not_exists.mp hv)).symm.trans h

/-- Of the values for a field that no object can fill, only the first matters. -/
theorem Decoder.fills_stacked_iff {α : Type} {d : Decoder α} (ho : OverlayLaws overlay)
    (hd : ∀ members a, decodeValue d (.object members) ≠ .ok a) (otherwise a : α)
    (values : List Json) :
    d.Fills otherwise (stacked overlay values) a ↔ d.Fills otherwise values.head? a := by
  cases values with
  | nil => exact Iff.rfl
  | cons value below =>
      by_cases hobject : ∃ members, value = object members
      · obtain ⟨members, rfl⟩ := hobject
        refine iff_of_false (fun h => ?_) (hd members a)
        rcases ho.stacked_cons_object members below with hs | ⟨_, _, -, hs, -⟩
        · rw [hs] at h
          exact hd _ a h
        · rw [hs] at h
          exact hd _ a h
      · rw [ho.stacked_cons_of_not_object (not_exists.mp hobject)]
        rfl

/-! ### Decoders of single values -/

theorem decode_string_eq_ok_iff {v : Json} {a : String} :
    decodeValue Decoder.string v = .ok a ↔ v = .string a := by
  by_cases h : ∃ s, v = .string s
  · obtain ⟨s, rfl⟩ := h
    exact ⟨fun h => by cases h; rfl, fun h => by cases h; rfl⟩
  · have hmismatch : decodeValue Decoder.string v = (Outline.ofValue v).mismatch .string := by
      cases v with
      | string s => exact absurd ⟨s, rfl⟩ h
      | _ => rfl
    rw [hmismatch]
    exact iff_of_false (mismatch_ne_ok _ .string a) fun hv => h ⟨a, hv⟩

theorem decode_boolean_eq_ok_iff {v : Json} {a : Bool} :
    decodeValue Decoder.boolean v = .ok a ↔ v = .boolean a := by
  by_cases h : ∃ b, v = .boolean b
  · obtain ⟨b, rfl⟩ := h
    exact ⟨fun h => by cases h; rfl, fun h => by cases h; rfl⟩
  · have hmismatch : decodeValue Decoder.boolean v = (Outline.ofValue v).mismatch .boolean := by
      cases v with
      | boolean b => exact absurd ⟨b, rfl⟩ h
      | _ => rfl
    rw [hmismatch]
    exact iff_of_false (mismatch_ne_ok _ .boolean a) fun hv => h ⟨a, hv⟩

theorem decode_unit_eq_ok_iff {v : Json} {u : Unit} :
    decodeValue Decoder.unit v = .ok u ↔ v = .null := by
  by_cases h : v = .null
  · subst h
    exact iff_of_true rfl rfl
  · have hmismatch : decodeValue Decoder.unit v = (Outline.ofValue v).mismatch .unit := by
      cases v with
      | null => exact absurd rfl h
      | _ => rfl
    rw [hmismatch]
    exact iff_of_false (mismatch_ne_ok _ .unit u) h

/-! ### Objects with one member -/

theorem eq_singleton_of_forall_mem {members : List (String × Json)} {m : String × Json}
    (hd : (members.map Prod.fst).Nodup) (hne : members ≠ []) (h : ∀ m' ∈ members, m' = m) :
    members = [m] := by
  cases members with
  | nil => exact absurd rfl hne
  | cons first rest =>
      rw [List.forall_mem_cons] at h
      have hrest : rest = [] := by
        rw [List.eq_nil_iff_forall_not_mem]
        intro m' hm'
        rw [List.map_cons, List.nodup_cons, h.1, ← h.2 m' hm'] at hd
        exact hd.1 (List.mem_map_of_mem hm')
      rw [hrest, h.1]

/-- An object holds a null under that name and nothing else, as far as looking up shows. -/
def ShowsNull (name : String) (members : List (String × Json)) : Prop :=
  ∀ key, find key members = find key [(name, null)]

theorem ShowsNull.eq_singleton {name : String} {members : List (String × Json)}
    (h : ShowsNull name members) (hd : (members.map Prod.fst).Nodup) :
    members = [(name, null)] := by
  have hname : find name members = some null := (h name).trans (by simp [find])
  refine eq_singleton_of_forall_mem hd (List.ne_nil_of_mem (mem_of_find hname)) fun m hm => ?_
  have hfind := h m.1
  rw [find_of_mem hd hm] at hfind
  by_cases hm' : name = m.1
  · exact Prod.ext hm'.symm (by simpa [find, hm'] using hfind)
  · simp [find, hm'] at hfind

/-- Members that show a null when they are laid over others show it themselves, unless there are
none. -/
theorem OverlayLaws.eq_singleton_of_showsNull (ho : OverlayLaws overlay) {name : String}
    {upper base members : List (String × Json)} (hd : (upper.map Prod.fst).Nodup)
    (hne : upper ≠ []) (h : ShowsNull name members)
    (hfind : ∀ key, find key members = overlay? overlay (find key upper) (find key base)) :
    upper = [(name, null)] := by
  refine eq_singleton_of_forall_mem hd hne fun m hm => ?_
  have hshown : overlay? overlay (some m.2) (find m.1 base) = find m.1 [(name, null)] := by
    rw [← h m.1, hfind, find_of_mem hd hm]
  by_cases hname : name = m.1
  · have hnull : m.2 = null := by
      cases hb : find m.1 base with
      | none => simpa [hb, find, hname, overlay?] using hshown
      | some below => exact ho.eq_null (by simpa [hb, find, hname, overlay?] using hshown)
    exact Prod.ext hname.symm hnull
  · cases hb : find m.1 base <;> simp [hb, find, hname, overlay?] at hshown

end Json

open Json (Decoder decodeValue stacked OverlayLaws ShowsNull)

/-! ### Log formats -/

namespace LogFormat

variable {overlay : Json → Json → Json}

/-- An object spells a format if its only member is the name of the format with a null. -/
theorem decode_object_eq_ok_iff {members : List (String × Json)} {f : LogFormat} :
    decodeValue decoder (.object members) = .ok f ↔
      ∃ name, members = [(name, .null)] ∧ Decoder.named known name = .ok f := by
  match members with
  | [] => exact iff_of_false (by rintro ⟨⟩) (by rintro ⟨_, ⟨⟩, -⟩)
  | [(name, value)] =>
      have hdecode : decodeValue decoder (.object [(name, value)]) =
          (Decoder.named known name >>= fun a => decodeValue Decoder.unit value >>= fun _ =>
            pure a) := by
        simp only [decodeValue, Json.Outline.ofValue, Json.Outline.ofMembers, decoder,
          Decoder.variant]
      rw [hdecode]
      simp only [Json.bind_eq_ok_iff, Json.decode_unit_eq_ok_iff]
      constructor
      · rintro ⟨_, hname, _, rfl, hf⟩
        cases hf
        exact ⟨name, rfl, hname⟩
      · rintro ⟨_, hmembers, hname⟩
        cases hmembers
        exact ⟨f, hname, (), rfl, rfl⟩
  | first :: second :: rest =>
      exact iff_of_false (by rintro ⟨⟩) (by rintro ⟨_, ⟨⟩, -⟩)

/-- If what values make shows the spelling of a format, the first value that is no empty object
spells it. -/
theorem find?_eq_of_showsNull (ho : OverlayLaws overlay) {values : List Json}
    (hneat : ∀ v ∈ values, v.Neat) {name : String} {members : List (String × Json)}
    (hs : stacked overlay values = some (.object members)) (h : ShowsNull name members) :
    values.find? (· ≠ .object []) = some (.object [(name, .null)]) := by
  induction values generalizing members with
  | nil => cases hs
  | cons v below ih =>
      rw [List.forall_mem_cons] at hneat
      by_cases hv : ∃ upper, v = .object upper
      · obtain ⟨upper, rfl⟩ := hv
        have hd := hneat.1 upper rfl
        rcases ho.stacked_cons_object upper below with hs' | ⟨base, merged, hb, hs', hfind⟩
        · -- Nothing is below, or something that is no object: it is this object that shows.
          rw [hs', Option.some.injEq, Json.object.injEq] at hs
          subst hs
          rw [h.eq_singleton hd]
          rfl
        · rw [hs', Option.some.injEq, Json.object.injEq] at hs
          subst hs
          by_cases hnil : upper = []
          · subst hnil
            rw [List.find?_cons_of_neg (by simp)]
            refine ih hneat.2 hb fun key => ?_
            rw [← h key, hfind hd key]
            rfl
          · rw [ho.eq_singleton_of_showsNull hd hnil h (hfind hd)]
            rfl
      · rw [ho.stacked_cons_of_not_object (not_exists.mp hv), Option.some.injEq] at hs
        exact absurd ⟨members, hs⟩ hv

/-- The format that values spell together is the one that the first of them spells, apart from empty
objects. -/
theorem fills_of_fills_stacked (ho : OverlayLaws overlay) {values : List Json}
    (hneat : ∀ v ∈ values, v.Neat) {otherwise f : LogFormat}
    (h : decoder.Fills otherwise (stacked overlay values) f) :
    decoder.Fills otherwise (values.find? (· ≠ .object [])) f := by
  cases values with
  | nil => exact h
  | cons v below =>
      by_cases hv : ∃ upper, v = .object upper
      · obtain ⟨upper, rfl⟩ := hv
        have hobject : ∃ members, stacked overlay (.object upper :: below) =
            some (.object members) := by
          rcases ho.stacked_cons_object upper below with hs | ⟨_, members, -, hs, -⟩
          · exact ⟨upper, hs⟩
          · exact ⟨members, hs⟩
        obtain ⟨members, hs⟩ := hobject
        rw [hs] at h
        obtain ⟨name, rfl, hname⟩ := decode_object_eq_ok_iff.mp h
        rw [find?_eq_of_showsNull ho hneat hs fun _ => rfl]
        exact decode_object_eq_ok_iff.mpr ⟨name, rfl, hname⟩
      · have hne : v ≠ .object [] := fun he => hv ⟨[], he⟩
        rw [ho.stacked_cons_of_not_object (not_exists.mp hv)] at h
        rw [List.find?_cons_of_pos (by simpa using hne)]
        exact h

end LogFormat

end EditorSession
