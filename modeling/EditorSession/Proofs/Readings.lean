import EditorSession.Proofs.Members
import EditorSession.Proofs.Selecting

/-! # What a text shows is read as its value

An outline that has a value is whole: its members have names and end where they should
(`Outline.exists_named_of_value?`), and it can be passed over (`Outline.skip_of_value?`).  So a
decoder that reads it from the text reads what its value says, a scalar as well as a field that may
be missing or null (`Decoder.string_iff`, `Decoder.int64_iff`, `Decoder.optional_iff`). -/

namespace EditorSession.Json

/-! ### Outlines that have a value -/

namespace Outline

variable {o : Outline} {room : Nat} {v : Json} {tail : Tail}

theorem orElse_defect?_eq_ok_iff {u : Unit} :
    Defect.orElse tail.defect? = .ok u ↔ tail = .closed := by
  cases tail <;> simp [Defect.orElse, Tail.defect?]

theorem literal_eq_ok_iff {α : Type} {content : Option α} {a : α} :
    literal content = .ok a ↔ content = some a := by
  cases content <;> simp [literal]

/-- A value without parts is shown in one way. -/
theorem value?_eq_ok_iff_of_leaf (ha : ∀ items, v ≠ .array items)
    (ho : ∀ members, v ≠ .object members) : o.value? room = .ok v ↔ o = .ofValue v := by
  cases o with
  | array items tail => cases room <;> cases v <;> simp_all [value?, ofValue, map_eq_ok_iff]
  | object members tail => cases room <;> cases v <;> simp_all [value?, ofValue, map_eq_ok_iff]
  | number content => cases v <;> simp_all [value?, ofValue, map_eq_ok_iff, literal_eq_ok_iff]
  | string content => cases v <;> simp_all [value?, ofValue, map_eq_ok_iff, literal_eq_ok_iff]
  | _ => cases v <;> simp_all [value?, ofValue]

/-- An outline without brackets has a value without parts. -/
theorem leaf_of_value? (h : o.value? room = .ok v) (ha : ∀ items tail, o ≠ .array items tail)
    (ho : ∀ written tail, o ≠ .object written tail) :
    (∀ items, v ≠ .array items) ∧ ∀ members, v ≠ .object members := by
  cases o with
  | array items tail => exact absurd rfl (ha items tail)
  | object written tail => exact absurd rfl (ho written tail)
  | number content =>
      obtain ⟨n, -, rfl⟩ := map_eq_ok_iff.mp h
      simp
  | string content =>
      obtain ⟨s, -, rfl⟩ := map_eq_ok_iff.mp h
      simp
  | broken begun defect => cases h
  | _ =>
      cases h
      simp

/-- Only an object has the value of one. -/
theorem exists_object_of_value? {members : List (String × Json)}
    (h : o.value? room = .ok (.object members)) : ∃ written tail, o = object written tail := by
  cases o with
  | object written tail => exact ⟨written, tail, rfl⟩
  | array items tail => cases room <;> simp [value?, map_eq_ok_iff] at h
  | number content => simp [value?, map_eq_ok_iff] at h
  | string content => simp [value?, map_eq_ok_iff] at h
  | _ => simp [value?] at h

/-- The values of items are those of the outlines, one for each. -/
theorem forall₂_of_itemValues {items : List Outline} {values : List Json}
    (h : itemValues room items tail = .ok values) :
    tail = .closed ∧ List.Forall₂ (fun o v => o.value? room = .ok v) items values := by
  induction items generalizing values with
  | nil =>
      rw [itemValues, map_eq_ok_iff] at h
      obtain ⟨_, hend, rfl⟩ := h
      exact ⟨orElse_defect?_eq_ok_iff.mp hend, .nil⟩
  | cons item rest ih =>
      simp only [itemValues, bind_eq_ok_iff] at h
      obtain ⟨first, hfirst, others, hothers, hvalues⟩ := h
      cases hvalues
      obtain ⟨hclosed, hrest⟩ := ih hothers
      exact ⟨hclosed, .cons hfirst hrest⟩

/-- The member has that name and that value. -/
def Holds (room : Nat) (m : String × Outline) (m' : String × Json) : Prop :=
  m.1 = m'.1 ∧ m.2.value? room = .ok m'.2

/-- The values of members are inserted one after the other. -/
theorem forall₂_of_memberValues {written : List (Option String × Outline)}
    {base members : List (String × Json)}
    (h : memberValues room written tail base = .ok members) :
    tail = .closed ∧ ∃ contents values, written = named contents ∧
      List.Forall₂ (Holds room) contents values ∧ members = values.foldl
        (fun acc m => insert m.1 m.2 acc) base := by
  induction written generalizing base with
  | nil =>
      rw [memberValues, map_eq_ok_iff] at h
      obtain ⟨_, hend, rfl⟩ := h
      exact ⟨orElse_defect?_eq_ok_iff.mp hend, [], [], rfl, .nil, rfl⟩
  | cons m rest ih =>
      obtain ⟨label, content⟩ := m
      simp only [memberValues, bind_eq_ok_iff, literal_eq_ok_iff] at h
      obtain ⟨name, rfl, value, hvalue, hrest⟩ := h
      obtain ⟨hclosed, contents, values, rfl, hvalues, rfl⟩ := ih hrest
      exact ⟨hclosed, (name, content) :: contents, (name, value) :: values, rfl,
        .cons ⟨rfl, hvalue⟩ hvalues, rfl⟩

mutual
/-- What has a value can be passed over. -/
theorem skip_of_value? : ∀ (o : Outline) {room : Nat} {v : Json},
    o.value? room = .ok v → o.skip = .ok ()
  | null, _, _, _ | boolean _, _, _, _ | number _, _, _, _ | string _, _, _, _ => rfl
  | array items tail, 0, _, h => by simp [value?] at h
  | array items tail, room + 1, v, h => by
      rw [value?, map_eq_ok_iff] at h
      obtain ⟨values, hvalues, -⟩ := h
      exact skipItems_of_itemValues items hvalues
  | object members tail, 0, _, h => by simp [value?] at h
  | object members tail, room + 1, v, h => by
      rw [value?, map_eq_ok_iff] at h
      obtain ⟨values, hvalues, -⟩ := h
      exact skipMembers_of_memberValues members hvalues
  | broken _ _, _, _, h => by simp [value?] at h

theorem skipItems_of_itemValues : ∀ (items : List Outline) {room : Nat} {tail : Tail}
    {values : List Json}, itemValues room items tail = .ok values → skipItems items tail = .ok ()
  | [], room, tail, values, h => by
      rw [(forall₂_of_itemValues h).1]
      rfl
  | item :: rest, room, tail, values, h => by
      simp only [itemValues, bind_eq_ok_iff] at h
      obtain ⟨_, hfirst, _, hothers, -⟩ := h
      rw [skipItems, skip_of_value? item hfirst]
      exact skipItems_of_itemValues rest hothers

theorem skipMembers_of_memberValues : ∀ (written : List (Option String × Outline)) {room : Nat}
    {tail : Tail} {base members : List (String × Json)},
    memberValues room written tail base = .ok members → skipMembers written tail = .ok ()
  | [], room, tail, base, members, h => by
      rw [(forall₂_of_memberValues h).1]
      rfl
  | (label, content) :: rest, room, tail, base, members, h => by
      simp only [memberValues, bind_eq_ok_iff] at h
      obtain ⟨_, -, _, hvalue, hrest⟩ := h
      rw [skipMembers, skip_of_value? content hvalue]
      exact skipMembers_of_memberValues rest hrest
end

mutual
/-- What has a value has it where there is more room. -/
theorem value?_succ : ∀ (o : Outline) {room : Nat} {v : Json},
    o.value? room = .ok v → o.value? (room + 1) = .ok v
  | null, _, _, h | boolean _, _, _, h | number _, _, _, h | string _, _, _, h => h
  | array items tail, 0, _, h => by simp [value?] at h
  | array items tail, room + 1, v, h => by
      rw [value?, map_eq_ok_iff] at h ⊢
      obtain ⟨values, hvalues, hv⟩ := h
      exact ⟨values, itemValues_succ items hvalues, hv⟩
  | object members tail, 0, _, h => by simp [value?] at h
  | object members tail, room + 1, v, h => by
      rw [value?, map_eq_ok_iff] at h ⊢
      obtain ⟨values, hvalues, hv⟩ := h
      exact ⟨values, memberValues_succ members hvalues, hv⟩
  | broken _ _, _, _, h => by simp [value?] at h

theorem itemValues_succ : ∀ (items : List Outline) {room : Nat} {tail : Tail} {values : List Json},
    itemValues room items tail = .ok values → itemValues (room + 1) items tail = .ok values
  | [], _, _, _, h => h
  | item :: rest, room, tail, values, h => by
      simp only [itemValues, bind_eq_ok_iff] at h ⊢
      obtain ⟨first, hfirst, others, hothers, hv⟩ := h
      exact ⟨first, value?_succ item hfirst, others, itemValues_succ rest hothers, hv⟩

theorem memberValues_succ : ∀ (written : List (Option String × Outline)) {room : Nat}
    {tail : Tail} {base members : List (String × Json)},
    memberValues room written tail base = .ok members →
      memberValues (room + 1) written tail base = .ok members
  | [], _, _, _, _, h => h
  | (label, content) :: rest, room, tail, base, members, h => by
      simp only [memberValues, bind_eq_ok_iff] at h ⊢
      obtain ⟨name, hname, value, hvalue, hrest⟩ := h
      exact ⟨name, hname, value, value?_succ content hvalue, memberValues_succ rest hrest⟩
end

/-- What stands under a name in the text has the value that the name holds. -/
def Shows (room : Nat) (contents : List (String × Outline)) (members : List (String × Json)) :
    Prop :=
  ∀ name, Option.Rel (fun o v => o.value? room = .ok v) (contents.lookup name) (find name members)

section members
variable {contents : List (String × Outline)} {values members : List (String × Json)}

theorem map_fst_of_forall₂ (h : List.Forall₂ (Holds room) contents values) :
    contents.map Prod.fst = values.map Prod.fst := by
  induction h with
  | nil => rfl
  | cons hm _ ih => rw [List.map_cons, List.map_cons, hm.1, ih]

theorem skip_of_forall₂ (h : List.Forall₂ (Holds room) contents values) :
    ∀ m ∈ contents, m.2.skip = .ok () := by
  induction h with
  | nil => exact fun m hm => absurd hm List.not_mem_nil
  | cons hm _ ih => exact List.forall_mem_cons.mpr ⟨skip_of_value? _ hm.2, ih⟩

theorem shows_of_forall₂ (h : List.Forall₂ (Holds room) contents values) :
    Shows room contents values := by
  induction h with
  | nil => exact fun name => .none
  | @cons m m' _ _ hm _ ih =>
      intro name
      obtain ⟨key, content⟩ := m
      obtain ⟨key', value⟩ := m'
      obtain ⟨rfl, hvalue⟩ := hm
      by_cases hk : key = name
      · rw [hk, List.lookup_cons_self, find, if_pos rfl]
        exact .some hvalue
      · rw [List.lookup_cons, beq_false_of_ne (Ne.symm hk), find, if_neg hk]
        exact ih name

/-- An object that has a value, and that names its members once, shows that value. -/
theorem exists_named_of_value? {written : List (Option String × Outline)}
    (h : (object written tail).value? room = .ok (.object members))
    (hd : (written.map Prod.fst).Nodup) :
    ∃ inner contents, room = inner + 1 ∧ tail = .closed ∧ written = named contents ∧
      (contents.map Prod.fst).Nodup ∧ (∀ m ∈ contents, m.2.skip = .ok ()) ∧
      Shows inner contents members := by
  cases room with
  | zero => simp [value?] at h
  | succ inner =>
      rw [value?, map_eq_ok_iff] at h
      obtain ⟨_, hvalues, hm⟩ := h
      cases hm
      obtain ⟨hclosed, contents, values, rfl, hholds, rfl⟩ := forall₂_of_memberValues hvalues
      have hd' : (contents.map Prod.fst).Nodup := by
        refine List.Nodup.of_map some ?_
        simpa [named, Function.comp_def] using hd
      refine ⟨inner, contents, rfl, hclosed, rfl, hd', skip_of_forall₂ hholds, fun name => ?_⟩
      rw [find_foldl_insert (map_fst_of_forall₂ hholds ▸ hd') name [], find, Option.or_none]
      exact shows_of_forall₂ hholds name

end members

end Outline

/-! ### Decoders of scalars -/

namespace Decoder

open Outline (value?_eq_ok_iff_of_leaf)

variable {o : Outline} {room : Nat} {v : Json} {source : Source}

theorem string_eq_ok_iff {s : String} :
    Decoder.string source o = .ok s ↔ o = .string (some s) := by
  by_cases h : ∃ s, o = .string (some s)
  · obtain ⟨s', rfl⟩ := h
    simp [Decoder.string]
  · have hmismatch : Decoder.string source o = o.mismatch .string := by
      unfold Decoder.string
      split
      · next s' => exact absurd ⟨s', rfl⟩ h
      · rfl
    rw [hmismatch]
    exact iff_of_false (mismatch_ne_ok _ _ _) fun ho => h ⟨s, ho⟩

/-- A string is read where the value is one. -/
theorem string_iff (h : o.value? room = .ok v) {s : String} :
    Decoder.string source o = .ok s ↔ v = .string s := by
  rw [string_eq_ok_iff]
  constructor
  · rintro rfl
    cases h
    rfl
  · rintro rfl
    exact (value?_eq_ok_iff_of_leaf (by simp) (by simp)).mp h

end Decoder

/-- The value is an integer of 64 bits with a sign. -/
def IsInt64 (v : Json) (n : Int) : Prop := v = .int n ∧ -Int.pow 2 63 ≤ n ∧ n < Int.pow 2 63

namespace Decoder

open Outline (value?_eq_ok_iff_of_leaf)

variable {o : Outline} {room : Nat} {v : Json} {source : Source}

theorem int64_eq_ok_iff {n : Int} : Decoder.int64 source o = .ok n ↔
    o = .number (some (.integer n)) ∧ -Int.pow 2 63 ≤ n ∧ n < Int.pow 2 63 := by
  by_cases h : ∃ n, o = .number (some (.integer n))
  · obtain ⟨k, rfl⟩ := h
    have hint : Decoder.int64 source (.number (some (.integer k))) =
        if -Int.pow 2 63 ≤ k ∧ k < Int.pow 2 63 then .ok k
        else (Fault.invalidValue (.integer k) .int64).raise := rfl
    rw [hint]
    split_ifs with hk
    · constructor
      · rintro ⟨⟩
        exact ⟨rfl, hk⟩
      · rintro ⟨ho, -⟩
        cases ho
        rfl
    · refine iff_of_false nofun ?_
      rintro ⟨ho, hn⟩
      cases ho
      exact hk hn
  · have hmismatch : Decoder.int64 source o = o.mismatch .int64 := by
      unfold Decoder.int64
      split
      · next n' => exact absurd ⟨n', rfl⟩ h
      · rfl
    rw [hmismatch]
    exact iff_of_false (mismatch_ne_ok _ _ _) fun ho => h ⟨n, ho.1⟩

/-- An integer of 64 bits is read where the value is one. -/
theorem int64_iff (h : o.value? room = .ok v) {n : Int} :
    Decoder.int64 source o = .ok n ↔ v.IsInt64 n := by
  rw [int64_eq_ok_iff]
  refine and_congr_left fun _ => ?_
  constructor
  · rintro rfl
    cases h
    rfl
  · rintro rfl
    exact (value?_eq_ok_iff_of_leaf (by simp [Json.int]) (by simp [Json.int])).mp h

/-- The value itself is read where the text has room for it. -/
theorem value_iff (h : o.value? room = .ok v) {w : Json} :
    Decoder.value (.text room) o = .ok w ↔ v = w := by
  rw [Decoder.value, h]
  exact ⟨by rintro ⟨⟩; rfl, by rintro rfl; rfl⟩

end Decoder

/-! ### Fields that may be missing or null -/

/-- What a field holds that may be null: null is nothing. -/
def notNull (value : Option Json) : Option Json := value.filter (· ≠ .null)

section fields
variable {α : Type} {o : Outline} {room : Nat} {v : Json} {means : Json → α → Prop}

@[simp] theorem notNull_null : notNull (some .null) = none := rfl

theorem notNull_of_ne (h : v ≠ .null) : notNull (some v) = some v := by simp [notNull, h]

theorem rel_eq_iff {x y : Option α} : Option.Rel (fun a b => a = b) x y ↔ x = y := by
  cases x <;> cases y <;> simp

/-- What is read of the outline under a name is what the value that it has means. -/
theorem rel_reads_iff {given : Option Outline} {value : Option Json} {content : Option α}
    {reads : Outline → α → Prop}
    (h : Option.Rel (fun o v => o.value? room = .ok v) given value)
    (hreads : ∀ o v, given = some o → o.value? room = .ok v → ∀ a, reads o a ↔ means v a) :
    Option.Rel reads given content ↔ Option.Rel means value content := by
  cases h with
  | none => cases content <;> simp
  | some hv => cases content <;> simp [hreads _ _ rfl hv]

theorem Decoder.optional_iff {d : Decoder α} (h : o.value? room = .ok v)
    (hd : ∀ a, d (.text room) o = .ok a ↔ means v a) {content : Option α} :
    Decoder.optional d (.text room) o = .ok content ↔
      Option.Rel means (notNull (some v)) content := by
  by_cases hv : v = .null
  · subst hv
    obtain rfl : o = .null := (Outline.value?_eq_ok_iff_of_leaf (by simp) (by simp)).mp h
    rw [notNull_null, Decoder.optional]
    cases content <;> simp
  · have hread : Decoder.optional d (.text room) o = (d (.text room) o).map some := by
      unfold Decoder.optional
      split
      · cases h
        exact absurd rfl hv
      · rfl
    rw [hread, map_eq_ok_iff, notNull_of_ne hv]
    cases content <;> simp [hd]

/-- A field that is missing and one that is null are the same. -/
theorem rel_join_iff {value : Option Json} {a : Option α} :
    (∃ content, Option.Rel (fun v c => Option.Rel means (notNull (some v)) c) value content ∧
      content.join = a) ↔ Option.Rel means (notNull value) a := by
  cases value with
  | none =>
      constructor
      · rintro ⟨_, ⟨⟩, rfl⟩
        exact .none
      · rintro ⟨⟩
        exact ⟨none, .none, rfl⟩
  | some v =>
      constructor
      · rintro ⟨_, ⟨h⟩, rfl⟩
        exact h
      · exact fun h => ⟨some a, .some h, rfl⟩

end fields

/-! ### Fields of a record -/

section record
variable {α : Type} {r : Record} {name : String} {d : Decoder α} {means : Json → α → Prop}
  {room : Nat} {contents : List (String × Outline)} {members : List (String × Json)}

/-- A field that may be missing is what the value under its name means. -/
theorem field?_iff (hf : (r.field? name).isSome = true)
    (hshows : Outline.Shows room contents members)
    (hd : ∀ o v, contents.lookup name = some o → o.value? room = .ok v →
      ∀ a, d (.text room) o = .ok a ↔ means v a) {content : Option α} :
    (⟨.text room, r.chosen contents⟩ : Selection).field? name d = .ok content ↔
      Option.Rel means (find name members) content :=
  (Record.field?_chosen hf).trans (rel_reads_iff (hshows name) hd)

/-- A field that has to be there is what the value under its name means. -/
theorem field_iff (hf : (r.field? name).isSome = true)
    (hshows : Outline.Shows room contents members)
    (hd : ∀ o v, o.value? room = .ok v → ∀ a, d (.text room) o = .ok a ↔ means v a) {a : α} :
    (⟨.text room, r.chosen contents⟩ : Selection).field name d = .ok a ↔
      ∃ v, find name members = some v ∧ means v a := by
  rw [Record.field_chosen hf]
  have hname := hshows name
  generalize contents.lookup name = given at hname
  generalize find name members = value at hname
  cases hname with
  | none => simp
  | @some o v hv => simp [hd o v hv]

end record

/-! ### Whole texts -/

/-- An object of the text names each of its members once. -/
def Outline.NamesOnce (o : Outline) : Prop :=
  ∀ written tail, o = .object written tail → (written.map Prod.fst).Nodup

instance (o : Outline) : Decidable o.NamesOnce :=
  match o with
  | .object written tail => decidable_of_iff (written.map Prod.fst).Nodup
      ⟨fun h _ _ ho => (Outline.object.inj ho).1 ▸ h, fun h => h written tail rfl⟩
  | .null | .boolean _ | .number _ | .string _ | .array _ _ | .broken _ _ => .isTrue nofun

/-- A text with the value of an object is decoded from the outline of that object. -/
theorem exists_object_of_parse {text : String} {members : List (String × Json)}
    (h : parse text = .ok (.object members)) : ∃ written tail,
      (Outline.ofText text).1 = .object written tail ∧
      (Outline.object written tail).value? 127 = .ok (.object members) ∧
      ∀ {α : Type} (d : Decoder α) (a : α), decodeText d text = .ok a ↔
        d (.text 127) (.object written tail) = .ok a := by
  unfold parse at h
  unfold decodeText
  generalize Outline.ofText text = read at h ⊢
  obtain ⟨o, rest⟩ := read
  dsimp only at h ⊢
  split at h
  · cases h
  · next v hv =>
    split_ifs at h with hblank
    cases h
    obtain ⟨written, tail, rfl⟩ := Outline.exists_object_of_value? hv
    refine ⟨written, tail, rfl, hv, fun d a => ?_⟩
    cases d (.text 127) (.object written tail) <;> simp [hblank]

end EditorSession.Json
