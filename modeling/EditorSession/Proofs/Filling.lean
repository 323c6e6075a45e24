import EditorSession.Config.Basic
import EditorSession.Proofs.Members
import EditorSession.Proofs.Selecting

/-! # Records filled from the members of an object

A record all of whose fields may be left out is read from any object: a member that is a field has
to be readable as that field, and all other members are passed over, whatever they hold
(`Record.select_eq_ok_iff`).  So each field holds what its member says or its default, and nothing
else about the object matters (`Decoder.Reads`).  For a configuration this is
`Config.decoder_named_eq_ok_iff`, and `Config.ofValue_object_eq_ok_iff` where the object is a value
that was read before. -/

namespace EditorSession

namespace Json

/-! ### Members that are passed over -/

mutual
/-- A value that was read before can be passed over. -/
theorem skip_ofValue : ∀ v : Json, (Outline.ofValue v).skip = .ok ()
  | null | boolean _ | number _ | string _ => rfl
  | array items => by
      simp only [Outline.ofValue, Outline.skip]
      exact skipItems_ofItems items
  | object members => by
      simp only [Outline.ofValue, Outline.skip]
      exact skipMembers_ofMembers members

theorem skipItems_ofItems : ∀ items : List Json,
    Outline.skipItems (Outline.ofItems items) .closed = .ok ()
  | [] => rfl
  | item :: rest => by
      simp only [Outline.ofItems, Outline.skipItems, skip_ofValue item]
      exact skipItems_ofItems rest

theorem skipMembers_ofMembers : ∀ members : List (String × Json),
    Outline.skipMembers (Outline.ofMembers members) .closed = .ok ()
  | [] => rfl
  | (name, value) :: rest => by
      simp only [Outline.ofMembers, Outline.skipMembers, skip_ofValue value]
      exact skipMembers_ofMembers rest
end

/-! ### Selecting fields -/

/-- The outlines of members. -/
def Outline.contents (members : List (String × Json)) : List (String × Outline) :=
  members.map fun m => (m.1, .ofValue m.2)

namespace Outline

theorem ofMembers_eq_named (members : List (String × Json)) :
    ofMembers members = named (contents members) := by
  induction members with
  | nil => rfl
  | cons m rest ih => simp only [ofMembers, ih, named, contents, List.map_cons]

theorem map_fst_contents (members : List (String × Json)) :
    (contents members).map Prod.fst = members.map Prod.fst := by simp [contents]

theorem lookup_contents (name : String) (members : List (String × Json)) :
    (contents members).lookup name = (find name members).map ofValue := by
  induction members with
  | nil => rfl
  | cons m rest ih =>
      obtain ⟨key, value⟩ := m
      unfold contents at ih ⊢
      by_cases hk : key = name
      · simp [hk, find]
      · simp [hk, find, List.lookup_cons, beq_false_of_ne (Ne.symm hk), ih]

theorem skip_contents {members : List (String × Json)} :
    ∀ m ∈ contents members, m.2.skip = .ok () := by
  intro m hm
  obtain ⟨m', -, rfl⟩ := List.mem_map.mp hm
  exact skip_ofValue m'.2

end Outline

namespace Record

variable {r : Record} {source inside : Source} {contents : List (String × Outline)}

/-- The members that are fields. -/
def shown (r : Record) (members : List (String × Json)) : List (String × Outline) :=
  (members.filter fun m => (r.field? m.1).isSome).map fun m => (m.1, .ofValue m.2)

theorem shown_eq_chosen (r : Record) (members : List (String × Json)) :
    r.shown members = r.chosen (Outline.contents members) := by
  unfold shown chosen Outline.contents
  rw [List.filter_map]
  rfl

theorem chosen_chosen (r : Record) (contents : List (String × Outline)) :
    r.chosen (r.chosen contents) = r.chosen contents := by
  simp [chosen, List.filter_filter]

theorem nodup_chosen (hd : (contents.map Prod.fst).Nodup) :
    ((r.chosen contents).map Prod.fst).Nodup :=
  hd.sublist (List.filter_sublist.map Prod.fst)

/-- A record without fields that are required is read from every object whose fields are acceptable
and not named twice. -/
theorem select_eq_ok_iff {selection : Selection} (ho : ∀ f ∈ r.fields, f.optional = true)
    (hinside : source.enter = .ok inside) (hskip : ∀ m ∈ contents, m.2.skip = .ok ())
    (hd : ((r.chosen contents).map Prod.fst).Nodup) :
    r.select source (.object (Outline.named contents) .closed) = .ok selection ↔
      (∀ m ∈ r.chosen contents, r.Admits inside m) ∧ selection = ⟨inside, r.chosen contents⟩ := by
  have hskip' : ∀ m ∈ r.chosen contents, m.2.skip = .ok () :=
    fun m hm => hskip m (List.mem_of_mem_filter hm)
  rw [select_chosen hskip, select_named_eq_ok_iff hd hskip', chosen_chosen]
  constructor
  · rintro ⟨_, hinside', ha, -, rfl⟩
    cases hinside.symm.trans hinside'
    exact ⟨ha, rfl⟩
  · rintro ⟨ha, rfl⟩
    exact ⟨inside, hinside, ha, fun f hf => .inr (ho f hf), rfl⟩

end Record

/-! ### Fields with defaults -/

variable {α : Type} {d : Decoder α} {otherwise a : α}

/-- What a field holds: what is read of its outline, or else its default. -/
def Decoder.Reads (d : Decoder α) (source : Source) (otherwise : α) (given : Option Outline)
    (a : α) : Prop :=
  match given with
  | none => a = otherwise
  | some o => d source o = .ok a

/-- What a field holds: what is given for it, or else its default. -/
def Decoder.Fills (d : Decoder α) (otherwise : α) (given : Option Json) (a : α) : Prop :=
  match given with
  | none => a = otherwise
  | some v => decodeValue d v = .ok a

theorem reads_ofValue_iff {given : Option Json} :
    d.Reads .tree otherwise (given.map Outline.ofValue) a ↔ d.Fills otherwise given a := by
  cases given <;> rfl

section fields
variable {r : Record} {source : Source} {contents : List (String × Outline)} {name : String}

theorem reads_iff (hf : (r.field? name).isSome = true) :
    (∃ content, (⟨source, r.chosen contents⟩ : Selection).field? name d = .ok content ∧
      content.getD otherwise = a) ↔ d.Reads source otherwise (contents.lookup name) a := by
  simp only [Record.field?_chosen hf]
  unfold Decoder.Reads
  cases contents.lookup name with
  | none =>
      constructor
      · rintro ⟨_, ⟨⟩, rfl⟩
        rfl
      · exact fun h => ⟨none, .none, h.symm⟩
  | some o =>
      constructor
      · rintro ⟨_, ⟨h⟩, rfl⟩
        exact h
      · exact fun h => ⟨some a, .some h, rfl⟩

/-- A field that is read is acceptable. -/
theorem check_of_reads {given : Option Outline} {o : Outline} (name : String)
    (optional fillable : Bool) (h : d.Reads source otherwise given a) (ho : given = some o) :
    (Field.of name d optional fillable).check source o = .ok () := by
  subst ho
  exact Record.check_of_read name optional fillable h

end fields

end Json

/-! ### Configurations -/

namespace Config

open Json (Decoder Outline bind_eq_ok_iff reads_iff check_of_reads)

variable {c : Config} {source inside : Json.Source} {contents : List (String × Outline)}

/-- Every field of the configuration holds what is read of the outline under its key, or else its
default. -/
structure ReadFrom (c : Config) (source : Json.Source) (given : String → Option Outline) : Prop where
  logFilter : Decoder.string.Reads source defaultLogFilter (given logFilterKey) c.logFilter
  logFormat : LogFormat.decoder.Reads source defaultLogFormat (given logFormatKey) c.logFormat
  configurationSection : Decoder.string.Reads source defaultConfigurationSection (given sectionKey)
    c.configurationSection
  formatOnType : Decoder.boolean.Reads source defaultFormatOnType (given formatOnTypeKey)
    c.formatOnType

/-- Every field of the configuration holds what is given under its key, or else its default. -/
structure FilledBy (c : Config) (given : String → Option Json) : Prop where
  logFilter : Decoder.string.Fills defaultLogFilter (given logFilterKey) c.logFilter
  logFormat : LogFormat.decoder.Fills defaultLogFormat (given logFormatKey) c.logFormat
  configurationSection :
    Decoder.string.Fills defaultConfigurationSection (given sectionKey) c.configurationSection
  formatOnType : Decoder.boolean.Fills defaultFormatOnType (given formatOnTypeKey) c.formatOnType

theorem readFrom_ofValue_iff {given : String → Option Json} :
    c.ReadFrom .tree (fun key => (given key).map .ofValue) ↔ c.FilledBy given := by
  constructor
  · rintro ⟨filter, format, part, switch⟩
    exact ⟨Json.reads_ofValue_iff.mp filter, Json.reads_ofValue_iff.mp format,
      Json.reads_ofValue_iff.mp part, Json.reads_ofValue_iff.mp switch⟩
  · rintro ⟨filter, format, part, switch⟩
    exact ⟨Json.reads_ofValue_iff.mpr filter, Json.reads_ofValue_iff.mpr format,
      Json.reads_ofValue_iff.mpr part, Json.reads_ofValue_iff.mpr switch⟩

/-- Only what is given under the keys of the fields matters. -/
theorem filledBy_congr {given given' : String → Option Json}
    (h : ∀ f ∈ shape.fields, given f.name = given' f.name) :
    c.FilledBy given ↔ c.FilledBy given' := by
  simp only [shape, List.forall_mem_cons] at h
  obtain ⟨hfilter, hformat, hpart, hswitch, -⟩ := h
  constructor
  · rintro ⟨filter, format, part, switch⟩
    exact ⟨hfilter ▸ filter, hformat ▸ format, hpart ▸ part, hswitch ▸ switch⟩
  · rintro ⟨filter, format, part, switch⟩
    exact ⟨hfilter.symm ▸ filter, hformat.symm ▸ format, hpart.symm ▸ part, hswitch.symm ▸ switch⟩

theorem ReadFrom.admits (h : c.ReadFrom inside fun key => contents.lookup key)
    (hd : ((shape.chosen contents).map Prod.fst).Nodup) :
    ∀ m ∈ shape.chosen contents, shape.Admits inside m := by
  have hlookup (f : Json.Field) (hf : f ∈ shape.fields) :
      (shape.chosen contents).lookup f.name = contents.lookup f.name :=
    Json.Record.lookup_chosen (List.find?_isSome.mpr ⟨f, hf, decide_eq_true rfl⟩) contents
  refine Json.Record.admits_of_forall_field hd fun f hf o ho => ?_
  rw [hlookup f hf] at ho
  revert f
  simp only [shape, List.forall_mem_cons]
  exact ⟨fun ho => check_of_reads _ _ _ h.logFilter ho,
    fun ho => check_of_reads _ _ _ h.logFormat ho,
    fun ho => check_of_reads _ _ _ h.configurationSection ho,
    fun ho => check_of_reads _ _ _ h.formatOnType ho,
    fun _ h => absurd h List.not_mem_nil⟩

/-- A configuration is read from the members of an object, of which those that are no field do not
matter. -/
theorem decoder_named_eq_ok_iff (hinside : source.enter = .ok inside)
    (hskip : ∀ m ∈ contents, m.2.skip = .ok ())
    (hd : ((shape.chosen contents).map Prod.fst).Nodup) :
    Config.decoder source (.object (Outline.named contents) .closed) = .ok c ↔
      c.ReadFrom inside fun key => contents.lookup key := by
  have hselect (selection : Json.Selection) :
      shape.select source (.object (Outline.named contents) .closed) = .ok selection ↔
        (∀ m ∈ shape.chosen contents, shape.Admits inside m) ∧
          selection = ⟨inside, shape.chosen contents⟩ :=
    shape.select_eq_ok_iff (by decide) hinside hskip hd
  unfold Config.decoder
  simp only [bind_eq_ok_iff, hselect]
  constructor
  · rintro ⟨_, ⟨-, rfl⟩, filter, hfilter, format, hformat, part, hpart, switch, hswitch, hc⟩
    cases hc
    exact ⟨(reads_iff (by decide)).mp ⟨filter, hfilter, rfl⟩,
      (reads_iff (by decide)).mp ⟨format, hformat, rfl⟩,
      (reads_iff (by decide)).mp ⟨part, hpart, rfl⟩,
      (reads_iff (by decide)).mp ⟨switch, hswitch, rfl⟩⟩
  · intro h
    obtain ⟨filter, hfilter, hf⟩ := (reads_iff (r := shape) (by decide)).mpr h.logFilter
    obtain ⟨format, hformat, hm⟩ := (reads_iff (r := shape) (by decide)).mpr h.logFormat
    obtain ⟨part, hpart, hp⟩ := (reads_iff (r := shape) (by decide)).mpr h.configurationSection
    obtain ⟨switch, hswitch, hs⟩ := (reads_iff (r := shape) (by decide)).mpr h.formatOnType
    refine ⟨_, ⟨h.admits hd, rfl⟩, filter, hfilter, format, hformat, part, hpart, switch, hswitch,
      ?_⟩
    rw [hf, hm, hp, hs]
    rfl

/-- A configuration is read from an object exactly when its members fill it. -/
theorem ofValue_object_eq_ok_iff {members : List (String × Json)}
    (hd : (members.map Prod.fst).Nodup) :
    Config.ofValue (.object members) = .ok c ↔ c.FilledBy fun key => Json.find key members := by
  have hd' : ((shape.chosen (Outline.contents members)).map Prod.fst).Nodup :=
    Json.Record.nodup_chosen (Outline.map_fst_contents members ▸ hd)
  show Config.decoder .tree (.ofValue (.object members)) = .ok c ↔ _
  rw [Outline.ofValue, Outline.ofMembers_eq_named,
    decoder_named_eq_ok_iff rfl Outline.skip_contents hd']
  simp only [Outline.lookup_contents]
  exact readFrom_ofValue_iff

end Config

end EditorSession
