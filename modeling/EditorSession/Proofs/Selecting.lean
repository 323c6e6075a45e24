import EditorSession.Json.Decoder
import Mathlib.Data.List.Nodup

/-! # The fields of a record

A record is read from the members of an object, each of which has a name and can be passed over.  A
member that is a field has to be acceptable as that field, a field that is required has to be there,
and all other members are passed over whatever they hold (`Record.select_named_eq_ok_iff`).  What is
read of a field afterwards is what its member holds (`Record.field?_chosen`, `Record.field_chosen`).
-/

namespace EditorSession.Json

theorem bind_eq_ok_iff {ε α β : Type} {x : Except ε α} {f : α → Except ε β} {b : β} :
    (x >>= f) = .ok b ↔ ∃ a, x = .ok a ∧ f a = .ok b := by
  cases x <;> simp [bind, Except.bind]

theorem map_eq_ok_iff {ε α β : Type} {x : Except ε α} {f : α → β} {b : β} :
    x.map f = .ok b ↔ ∃ a, x = .ok a ∧ f a = b := by
  cases x <;> simp [Except.map]

theorem mismatch_ne_ok {α : Type} (outline : Outline) (wanted : Wanted) (a : α) :
    outline.mismatch wanted ≠ .ok a := by
  unfold Outline.mismatch
  cases outline.found <;> rintro ⟨⟩

/-- Members all of whose names can be read. -/
def Outline.named (contents : List (String × Outline)) : List (Option String × Outline) :=
  contents.map fun m => (some m.1, m.2)

namespace Record

variable {r : Record} {source : Source} {contents : List (String × Outline)}
  {present found : List (String × Outline)} {name : String}

/-- The field of that name. -/
def field? (r : Record) (name : String) : Option Field := r.fields.find? fun f => f.name = name

/-- The member is no field, or is acceptable as the field that it is. -/
def Admits (r : Record) (source : Source) (m : String × Outline) : Prop :=
  ∀ field, r.field? m.1 = some field → field.check source m.2 = .ok ()

/-- The members that are fields. -/
def chosen (r : Record) (contents : List (String × Outline)) : List (String × Outline) :=
  contents.filter fun m => (r.field? m.1).isSome

theorem lookup_chosen (hf : (r.field? name).isSome = true) (contents : List (String × Outline)) :
    (r.chosen contents).lookup name = contents.lookup name := by
  induction contents with
  | nil => rfl
  | cons m rest ih =>
      obtain ⟨key, content⟩ := m
      unfold chosen at ih ⊢
      by_cases hk : key = name
      · simp [hk, hf]
      · have hne : (name == key) = false := beq_false_of_ne (Ne.symm hk)
        by_cases hp : (r.field? key).isSome = true <;> simp [hp, hne, ih, List.lookup_cons]

/-- The members are met one after the other; each that is a field has to be acceptable. -/
theorem selectMembers_named_eq_ok_iff (hd : (contents.map Prod.fst).Nodup)
    (hskip : ∀ m ∈ contents, m.2.skip = .ok ())
    (hp : ∀ m ∈ contents, present.lookup m.1 = none) :
    r.selectMembers source .closed present (Outline.named contents) = .ok found ↔
      (∀ m ∈ contents, r.Admits source m) ∧ found = present ++ r.chosen contents := by
  induction contents generalizing present with
  | nil => simp [Outline.named, selectMembers, chosen, liftForm, Defect.orElse, Tail.defect?,
      Except.map, eq_comm]
  | cons m rest ih =>
      obtain ⟨name, content⟩ := m
      rw [List.map_cons, List.nodup_cons] at hd
      rw [List.forall_mem_cons] at hp hskip ⊢
      cases hf : r.field? name with
      | none =>
          have hstep : r.selectMembers source .closed present
              (Outline.named ((name, content) :: rest)) =
              r.selectMembers source .closed present (Outline.named rest) := by
            have hf' : (r.fields.find? fun f => f.name = name) = none := hf
            simp only [Outline.named, List.map_cons, selectMembers, hf', hskip.1]
            rfl
          have hadmits : r.Admits source (name, content) := fun field h => by cases hf.symm.trans h
          rw [hstep, ih hd.2 hskip.2 hp.2]
          simp [chosen, hf, hadmits]
      | some field =>
          have hstep : r.selectMembers source .closed present
              (Outline.named ((name, content) :: rest)) =
              (field.check source content >>= fun _ => r.selectMembers source .closed
                (present ++ [(name, content)]) (Outline.named rest)) := by
            have hf' : (r.fields.find? fun f => f.name = name) = some field := hf
            simp only [Outline.named, List.map_cons, selectMembers, hf', hp.1]
            rfl
          have hadmits : r.Admits source (name, content) ↔ field.check source content = .ok () := by
            simp [Admits, hf]
          have hnext : ∀ m ∈ rest, (present ++ [(name, content)]).lookup m.1 = none := by
            intro m hm
            have hne : m.1 ≠ name := fun h => hd.1 (List.mem_map.mpr ⟨m, hm, h⟩)
            simp [List.lookup_append, hp.2 m hm, List.lookup_cons, beq_false_of_ne hne]
          have hchosen : present ++ r.chosen ((name, content) :: rest) =
              present ++ [(name, content)] ++ r.chosen rest := by
            simp [chosen, hf]
          rw [hstep, bind_eq_ok_iff, hadmits, hchosen]
          simp only [ih hd.2 hskip.2 hnext]
          exact ⟨fun ⟨_, hcheck, ha, he⟩ => ⟨⟨hcheck, ha⟩, he⟩,
            fun ⟨⟨hcheck, ha⟩, he⟩ => ⟨(), hcheck, ha, he⟩⟩

/-- Members that are no field leave no trace. -/
theorem selectMembers_chosen (hskip : ∀ m ∈ contents, m.2.skip = .ok ()) :
    r.selectMembers source .closed present (Outline.named contents) =
      r.selectMembers source .closed present (Outline.named (r.chosen contents)) := by
  induction contents generalizing present with
  | nil => rfl
  | cons m rest ih =>
      obtain ⟨name, content⟩ := m
      rw [List.forall_mem_cons] at hskip
      cases hf : r.field? name with
      | none =>
          have hchosen : r.chosen ((name, content) :: rest) = r.chosen rest := by simp [chosen, hf]
          have hf' : (r.fields.find? fun f => f.name = name) = none := hf
          rw [hchosen, ← ih hskip.2]
          simp only [Outline.named, List.map_cons, selectMembers, hf', hskip.1]
          rfl
      | some field =>
          have hchosen : r.chosen ((name, content) :: rest) = (name, content) :: r.chosen rest := by
            simp [chosen, hf]
          rw [hchosen]
          simp only [Outline.named, List.map_cons, selectMembers] at ih ⊢
          simp only [ih hskip.2]

theorem select_chosen (hskip : ∀ m ∈ contents, m.2.skip = .ok ()) :
    r.select source (.object (Outline.named contents) .closed) =
      r.select source (.object (Outline.named (r.chosen contents)) .closed) := by
  unfold select
  simp only [selectMembers_chosen hskip]

/-- Nothing but an object or a sequence is a record. -/
theorem select_ne_ok {o : Outline} (ha : ∀ items tail, o ≠ .array items tail)
    (ho : ∀ members tail, o ≠ .object members tail) (selection : Selection) :
    r.select source o ≠ .ok selection := by
  unfold select
  split
  · next members tail => exact absurd rfl (ho members tail)
  · next items tail => exact absurd rfl (ha items tail)
  · exact mismatch_ne_ok _ _ _

/-- Every field is there or may be left out. -/
theorem requireFields_eq_ok_iff {fields : List Field} : requireFields present fields = .ok () ↔
    ∀ f ∈ fields, (present.lookup f.name).isSome = true ∨ f.optional = true := by
  induction fields with
  | nil => simp [requireFields]
  | cons f rest ih =>
      rw [List.forall_mem_cons, ← ih, requireFields]
      split_ifs with h
      · exact (and_iff_right (Bool.or_eq_true _ _ ▸ h)).symm
      · exact iff_of_false nofun fun hall => h (Bool.or_eq_true _ _ ▸ hall.1)

/-- A record is read from the members of an object if those that are fields are acceptable and all
fields that are required are there. -/
theorem select_named_eq_ok_iff {selection : Selection} (hd : (contents.map Prod.fst).Nodup)
    (hskip : ∀ m ∈ contents, m.2.skip = .ok ()) :
    r.select source (.object (Outline.named contents) .closed) = .ok selection ↔
      ∃ inside, source.enter = .ok inside ∧ (∀ m ∈ contents, r.Admits inside m) ∧
        (∀ f ∈ r.fields, (contents.lookup f.name).isSome = true ∨ f.optional = true) ∧
        selection = ⟨inside, r.chosen contents⟩ := by
  have hselect : r.select source (.object (Outline.named contents) .closed) =
      (source.enter >>= fun inside =>
        r.selectMembers inside .closed [] (Outline.named contents) >>= fun present =>
          requireFields present r.fields >>= fun _ => pure ⟨inside, present⟩) := rfl
  have hchosen : ∀ f ∈ r.fields, (r.chosen contents).lookup f.name = contents.lookup f.name :=
    fun f hf => lookup_chosen (List.find?_isSome.mpr ⟨f, hf, decide_eq_true rfl⟩) contents
  have hrequire : requireFields (r.chosen contents) r.fields = .ok () ↔
      ∀ f ∈ r.fields, (contents.lookup f.name).isSome = true ∨ f.optional = true := by
    rw [requireFields_eq_ok_iff]
    exact forall₂_congr fun f hf => by rw [hchosen f hf]
  simp only [hselect, bind_eq_ok_iff,
    selectMembers_named_eq_ok_iff hd hskip fun _ _ => List.lookup_nil, List.nil_append]
  constructor
  · rintro ⟨inside, hinside, _, ⟨ha, rfl⟩, _, hr, h⟩
    cases h
    exact ⟨inside, hinside, ha, hrequire.mp hr, rfl⟩
  · rintro ⟨inside, hinside, ha, hr, rfl⟩
    exact ⟨inside, hinside, _, ⟨ha, rfl⟩, (), hrequire.mpr hr, rfl⟩

theorem lookup_of_mem (hd : (contents.map Prod.fst).Nodup) {m : String × Outline}
    (hm : m ∈ contents) : contents.lookup m.1 = some m.2 := by
  induction contents with
  | nil => exact absurd hm List.not_mem_nil
  | cons first rest ih =>
      rw [List.map_cons, List.nodup_cons] at hd
      rcases List.mem_cons.mp hm with rfl | hm
      · exact List.lookup_cons_self
      · have hne : first.1 ≠ m.1 := fun h => hd.1 (h ▸ List.mem_map_of_mem hm)
        rw [List.lookup_cons, beq_false_of_ne hne.symm]
        exact ih hd.2 hm

/-- Members are acceptable if every field is by the member of its name. -/
theorem admits_of_forall_field (hd : (contents.map Prod.fst).Nodup)
    (h : ∀ f ∈ r.fields, ∀ o, contents.lookup f.name = some o → f.check source o = .ok ()) :
    ∀ m ∈ contents, r.Admits source m := by
  intro m hm field hfield
  have hname : field.name = m.1 := by simpa using List.find?_some hfield
  refine h field (List.mem_of_find?_eq_some hfield) m.2 ?_
  rw [hname]
  exact lookup_of_mem hd hm

/-! ### Reading the fields -/

variable {α : Type} {d : Decoder α} {a : α} {content : Option α}

/-- A field that may be missing is read from its member, if that is there. -/
theorem field?_chosen (hf : (r.field? name).isSome = true) :
    (⟨source, r.chosen contents⟩ : Selection).field? name d = .ok content ↔
      Option.Rel (fun o a => d source o = .ok a) (contents.lookup name) content := by
  unfold Selection.field?
  simp only [lookup_chosen hf]
  cases contents.lookup name with
  | none => cases content <;> simp
  | some o =>
      rw [map_eq_ok_iff]
      cases content <;> simp

/-- A field that has to be there is read from its member. -/
theorem field_chosen (hf : (r.field? name).isSome = true) :
    (⟨source, r.chosen contents⟩ : Selection).field name d = .ok a ↔
      ∃ o, contents.lookup name = some o ∧ d source o = .ok a := by
  unfold Selection.field
  simp only [lookup_chosen hf]
  cases contents.lookup name with
  | none => simp [Fault.raise]
  | some o => simp

/-- What can be read is acceptable. -/
theorem check_of_read {o : Outline} (name : String) (optional fillable : Bool)
    (h : d source o = .ok a) : (Field.of name d optional fillable).check source o = .ok () :=
  map_eq_ok_iff.mpr ⟨a, h, rfl⟩

theorem check_of_field? (hf : (r.field? name).isSome = true)
    (h : (⟨source, r.chosen contents⟩ : Selection).field? name d = .ok content)
    (optional fillable : Bool) {o : Outline} (ho : contents.lookup name = some o) :
    (Field.of name d optional fillable).check source o = .ok () := by
  rw [field?_chosen hf, ho] at h
  cases h with
  | some hread => exact check_of_read name optional fillable hread

theorem check_of_field (hf : (r.field? name).isSome = true)
    (h : (⟨source, r.chosen contents⟩ : Selection).field name d = .ok a)
    (optional fillable : Bool) {o : Outline} (ho : contents.lookup name = some o) :
    (Field.of name d optional fillable).check source o = .ok () := by
  obtain ⟨o', ho', hread⟩ := (field_chosen hf).mp h
  rw [ho, Option.some.injEq] at ho'
  exact check_of_read name optional fillable (ho' ▸ hread)

theorem isSome_of_field (hf : (r.field? name).isSome = true)
    (h : (⟨source, r.chosen contents⟩ : Selection).field name d = .ok a) :
    (contents.lookup name).isSome = true := by
  obtain ⟨o, ho, -⟩ := (field_chosen hf).mp h
  rw [ho]
  rfl

/-! ### Sequences of fields -/

/-- A sequence holds the first fields of a record; those that it does not reach may be filled in. -/
theorem selectItems_eq_ok_iff {length index : Nat} {fields : List Field} {items : List Outline} :
    r.selectItems source length .closed index fields items = .ok present ↔
      items.length ≤ fields.length ∧
        (∀ p ∈ fields.zip items, p.1.check source p.2 = .ok ()) ∧
        (∀ f ∈ fields.drop items.length, f.fillable = true) ∧
        present = (fields.map Field.name).zip items := by
  induction fields generalizing items index present with
  | nil =>
      cases items with
      | nil =>
          have hend : r.selectItems source length .closed index [] [] = .ok [] := rfl
          rw [hend, Except.ok.injEq]
          simp
      | cons item items =>
          refine iff_of_false ?_ (by simp)
          cases source <;> exact nofun
  | cons field fields ih =>
      cases items with
      | nil =>
          have hstep : r.selectItems source length .closed index (field :: fields) [] =
              if field.fillable then r.selectItems source length .closed (index + 1) fields []
              else (Fault.invalidLength index (.fields r.name r.fields.length)).raise := rfl
          rw [hstep]
          split_ifs with hf
          · rw [ih]
            simp [hf]
          · exact iff_of_false nofun (by simp [hf])
      | cons item items =>
          have hstep : r.selectItems source length .closed index (field :: fields) (item :: items) =
              (field.check source item >>= fun _ =>
                r.selectItems source length .closed (index + 1) fields items >>= fun others =>
                  pure ((field.name, item) :: others)) := rfl
          rw [hstep]
          simp only [bind_eq_ok_iff, ih, List.length_cons, List.zip_cons_cons, List.forall_mem_cons,
            List.drop_succ_cons, List.map_cons, Nat.succ_le_succ_iff]
          constructor
          · rintro ⟨_, hcheck, _, ⟨hl, hz, hd, rfl⟩, h⟩
            cases h
            exact ⟨hl, ⟨hcheck, hz⟩, hd, rfl⟩
          · rintro ⟨hl, ⟨hcheck, hz⟩, hd, rfl⟩
            exact ⟨(), hcheck, _, ⟨hl, hz, hd, rfl⟩, rfl⟩

theorem select_array_eq_ok_iff {selection : Selection} {items : List Outline} :
    r.select source (.array items .closed) = .ok selection ↔ ∃ inside,
      source.enter = .ok inside ∧ items.length ≤ r.fields.length ∧
        (∀ p ∈ r.fields.zip items, p.1.check inside p.2 = .ok ()) ∧
        (∀ f ∈ r.fields.drop items.length, f.fillable = true) ∧
        selection = ⟨inside, (r.fields.map Field.name).zip items⟩ := by
  have hselect : r.select source (.array items .closed) = (source.enter >>= fun inside =>
      r.selectItems inside items.length .closed 0 r.fields items >>= fun present =>
        pure ⟨inside, present⟩) := rfl
  simp only [hselect, bind_eq_ok_iff, selectItems_eq_ok_iff]
  constructor
  · rintro ⟨inside, hinside, _, ⟨hl, hz, hd, rfl⟩, h⟩
    cases h
    exact ⟨inside, hinside, hl, hz, hd, rfl⟩
  · rintro ⟨inside, hinside, hl, hz, hd, rfl⟩
    exact ⟨inside, hinside, _, ⟨hl, hz, hd, rfl⟩, rfl⟩

end Record

end EditorSession.Json
