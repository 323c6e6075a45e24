import EditorSession.Proofs.Merging

/-! # The last layer that holds a key wins

Where no layer holds an object under a key of a configuration, nothing is laid over anything else,
and each field is what the last layer that has it says (`Config.filledBy_iff_of_flat`).  So the
layers make a configuration exactly when those last values are valid, and two lists of layers with
the same last values make the same, be it a configuration or a failure, whatever else they hold and
wherever they come from (`Merger.last_layer_wins`).  One layer that is no object spoils all. -/

namespace EditorSession

open Json (Decoder decodeValue stacked Ordered)

/-! ### Members that are no field -/

namespace Json

variable {members members' : List (String × Json)} {name : String}

theorem find_filter_of_neg {p : String → Bool} (hp : p name = false)
    (members : List (String × Json)) : find name (members.filter fun m => p m.1) = none := by
  rw [find_eq_none_iff]
  intro hmem
  obtain ⟨m, hm, rfl⟩ := List.mem_map.mp hmem
  rw [(List.mem_filter.mp hm).2] at hp
  cases hp

/-- The fields that are shown are known once it is known what each of them holds. -/
theorem Record.shown_congr {r : Record} (h : Ordered members) (h' : Ordered members')
    (hfind : ∀ f ∈ r.fields, find f.name members = find f.name members') :
    r.shown members = r.shown members' := by
  unfold shown
  congr 1
  have hfilter {members : List (String × Json)} (h : Ordered members) :
      Ordered (members.filter fun m => (r.field? m.1).isSome) := List.Pairwise.filter _ h
  refine (hfilter h).eq_of_find (hfilter h') fun name => ?_
  cases hf : (r.field? name).isSome with
  | false =>
      rw [find_filter_of_neg (p := fun name => (r.field? name).isSome) hf,
        find_filter_of_neg (p := fun name => (r.field? name).isSome) hf]
  | true =>
      rw [find_filter (p := fun name => (r.field? name).isSome) hf,
        find_filter (p := fun name => (r.field? name).isSome) hf]
      obtain ⟨f, hf⟩ := Option.isSome_iff_exists.mp hf
      obtain rfl : f.name = name := by simpa using List.find?_some hf
      exact hfind f (List.mem_of_find?_eq_some hf)

end Json

/-! ### Values that are no object -/

namespace LogFormat

theorem named_known_eq_ok_iff {name : String} {f : LogFormat} :
    Decoder.named known name = .ok f ↔ name = f.name := by
  constructor
  · intro h
    unfold Decoder.named at h
    split at h
    · next g hg =>
      cases h
      obtain ⟨_, _, hknown, -⟩ := List.lookup_eq_some_iff.mp hg
      have hmem : (name, f) ∈ known := by rw [hknown]; simp
      rcases List.mem_cons.mp hmem with h | h
      · cases h; rfl
      · cases List.mem_singleton.mp h; rfl
    · cases h
  · rintro rfl
    cases f <;> rfl

/-- Apart from objects, a format is spelled by its name alone. -/
theorem decode_eq_ok_iff_of_not_object {v : Json} (hv : ∀ members, v ≠ .object members)
    {f : LogFormat} : decodeValue decoder v = .ok f ↔ v = .string f.name := by
  by_cases h : ∃ s, v = .string s
  · obtain ⟨s, rfl⟩ := h
    exact named_known_eq_ok_iff.trans ⟨congrArg Json.string, Json.string.inj⟩
  · have hmismatch : decodeValue decoder v = (Json.Outline.ofValue v).mismatch .variant := by
      cases v with
      | string s => exact absurd ⟨s, rfl⟩ h
      | object members => exact absurd rfl (hv members)
      | _ => rfl
    rw [hmismatch]
    exact iff_of_false (Json.mismatch_ne_ok _ .variant f) fun hv => h ⟨_, hv⟩

end LogFormat

namespace Json

theorem OverlayLaws.stacked_of_flat {overlay : Json → Json → Json} (ho : OverlayLaws overlay)
    {values : List Json} (h : ∀ v ∈ values, ∀ members, v ≠ object members) :
    stacked overlay values = values.head? := by
  cases values with
  | nil => rfl
  | cons v below => exact ho.stacked_cons_of_not_object (h v List.mem_cons_self) below

/-- What a field holds is what is given, or else what stands for its default. -/
theorem fills_iff_getD {α : Type} {d : Decoder α} {write : α → Json} {otherwise a : α}
    {given : Option Json} (hwrite : Function.Injective write)
    (hd : ∀ v, given = some v → ∀ a, decodeValue d v = .ok a ↔ v = write a) :
    d.Fills otherwise given a ↔ given.getD (write otherwise) = write a := by
  cases given with
  | none => exact ⟨fun h => congrArg write h.symm, fun h => (hwrite h).symm⟩
  | some v => exact hd v rfl a

end Json

/-! ### Configurations -/

namespace Config

variable {ε : Type} {m : Merger ε} {layers : List Layer} {c : Config}

/-- Only the members that are fields matter. -/
theorem ofValue_congr {members members' : List (String × Json)} (h : Ordered members)
    (h' : Ordered members')
    (hfind : ∀ f ∈ shape.fields, Json.find f.name members = Json.find f.name members') :
    Config.ofValue (.object members) = Config.ofValue (.object members') := by
  have hselect (members : List (String × Json)) :
      shape.select .tree (.ofValue (.object members)) =
        shape.select .tree (.object (Json.Outline.named (shape.shown members)) .closed) := by
    rw [Json.Outline.ofValue, Json.Outline.ofMembers_eq_named,
      Json.Record.select_chosen Json.Outline.skip_contents, Json.Record.shown_eq_chosen]
  show Config.decoder .tree _ = Config.decoder .tree _
  unfold decoder
  rw [hselect, hselect, Json.Record.shown_congr h h' hfind]

/-- No object is given for a field. -/
def FlatlyGiven (given : String → Option Json) : Prop :=
  ∀ f ∈ shape.fields, ∀ members, given f.name ≠ some (.object members)

/-- Whatever is given for a field is valid for it: a text for the log filter and for the section,
the name of a format for the log format, and a boolean for formatting while typing. -/
structure Admissible (given : String → Option Json) : Prop where
  logFilter : ∀ v, given logFilterKey = some v → ∃ text, v = .string text
  logFormat : ∀ v, given logFormatKey = some v → ∃ format : LogFormat, v = .string format.name
  configurationSection : ∀ v, given sectionKey = some v → ∃ name, v = .string name
  formatOnType : ∀ v, given formatOnTypeKey = some v → ∃ enabled, v = .boolean enabled

/-- What a configuration holds under the key of a field. -/
def value (c : Config) (key : String) : Json := (c.toJson.member? key).getD .null

/-- A configuration is filled with values that are no objects if it has each of them under its key,
and the default under every other. -/
theorem filledBy_iff_of_flat {given : String → Option Json} (h : FlatlyGiven given) :
    c.FilledBy given ↔ ∀ f ∈ shape.fields, (given f.name).getD (default.value f.name) =
      c.value f.name := by
  have hformat (v : Json) (hv : given logFormatKey = some v) (f : LogFormat) :
      decodeValue LogFormat.decoder v = .ok f ↔ v = .string f.name := by
    refine LogFormat.decode_eq_ok_iff_of_not_object fun members hobject => ?_
    exact h (.of logFormatKey LogFormat.decoder true true) (by simp [shape]) members
      (hv.trans (congrArg some hobject))
  have hname : Function.Injective fun f : LogFormat => Json.string f.name := by
    intro f g hfg
    cases f <;> cases g <;> first | rfl | exact absurd hfg (by decide)
  have hstring (otherwise a : String) (key : String) :
      Decoder.string.Fills otherwise (given key) a ↔
        (given key).getD (.string otherwise) = .string a :=
    Json.fills_iff_getD (fun _ _ => Json.string.inj) fun _ _ _ => Json.decode_string_eq_ok_iff
  have hboolean (otherwise a : Bool) (key : String) :
      Decoder.boolean.Fills otherwise (given key) a ↔
        (given key).getD (.boolean otherwise) = .boolean a :=
    Json.fills_iff_getD (fun _ _ => Json.boolean.inj) fun _ _ _ => Json.decode_boolean_eq_ok_iff
  simp only [shape, List.forall_mem_cons]
  constructor
  · rintro ⟨filter, format, part, switch⟩
    exact ⟨(hstring _ _ _).mp filter, (Json.fills_iff_getD hname hformat).mp format,
      (hstring _ _ _).mp part, (hboolean _ _ _).mp switch, fun _ h => absurd h List.not_mem_nil⟩
  · rintro ⟨filter, format, part, switch, -⟩
    exact ⟨(hstring _ _ _).mpr filter, (Json.fills_iff_getD hname hformat).mpr format,
      (hstring _ _ _).mpr part, (hboolean _ _ _).mpr switch⟩

theorem exists_getD_iff {α : Type} {given : Option Json} (write : α → Json) (otherwise : α) :
    (∃ a, given.getD (write otherwise) = write a) ↔ ∀ v, given = some v → ∃ a, v = write a := by
  cases given with
  | none => exact iff_of_true ⟨otherwise, rfl⟩ nofun
  | some v => simp

/-- What is given fills some configuration if all of it is valid. -/
theorem exists_forall_value_iff {given : String → Option Json} :
    (∃ c : Config, ∀ f ∈ shape.fields,
      (given f.name).getD (default.value f.name) = c.value f.name) ↔ Admissible given := by
  have hfilter {given} := @exists_getD_iff _ given Json.string defaultLogFilter
  have hformat {given} :=
    @exists_getD_iff _ given (fun f : LogFormat => Json.string f.name) defaultLogFormat
  have hpart {given} := @exists_getD_iff _ given Json.string defaultConfigurationSection
  have hswitch {given} := @exists_getD_iff _ given Json.boolean defaultFormatOnType
  simp only [shape, List.forall_mem_cons]
  constructor
  · rintro ⟨c, filter, format, part, switch, -⟩
    exact ⟨hfilter.mp ⟨_, filter⟩, hformat.mp ⟨_, format⟩, hpart.mp ⟨_, part⟩,
      hswitch.mp ⟨_, switch⟩⟩
  · rintro ⟨filter, format, part, switch⟩
    obtain ⟨logFilter, filter⟩ := hfilter.mpr filter
    obtain ⟨logFormat, format⟩ := hformat.mpr format
    obtain ⟨configurationSection, part⟩ := hpart.mpr part
    obtain ⟨formatOnType, switch⟩ := hswitch.mpr switch
    exact ⟨⟨logFilter, logFormat, configurationSection, formatOnType⟩, filter, format, part,
      switch, fun _ h => absurd h List.not_mem_nil⟩

/-! ### Layers without objects for the fields -/

/-- The value of the last layer that holds the key. -/
def lastValue? (layers : List Layer) (key : String) : Option Json :=
  layers.reverse.findSome? fun l => l.value.member? key

/-- The layers are objects that name their members once, some layer is not empty, and no layer holds
an object for a field. -/
structure Flat (layers : List Layer) : Prop where
  objects : ∀ l ∈ layers, ∃ members, l.value = .object members ∧ (members.map Prod.fst).Nodup
  filled : ∃ l ∈ layers, l.value ≠ .object []
  values : ∀ l ∈ layers, FlatlyGiven fun key => l.value.member? key

namespace Flat

theorem isObject (h : Flat layers) : ∀ l ∈ layers, ∃ members, l.value = .object members := by
  intro l hl
  obtain ⟨members, hv, -⟩ := h.objects l hl
  exact ⟨members, hv⟩

theorem neat (h : Flat layers) : ∀ l ∈ layers, l.value.Neat := by
  intro l hl
  obtain ⟨members, hv, hd⟩ := h.objects l hl
  rw [hv]
  exact Json.neat_object hd

theorem exists_key (h : Flat layers) : ∃ key, valuesIn layers key ≠ [] := by
  obtain ⟨l, hl, hne⟩ := h.filled
  obtain ⟨members, hv, -⟩ := h.objects l hl
  cases members with
  | nil => exact absurd hv hne
  | cons m rest =>
      refine ⟨m.1, List.ne_nil_of_mem (a := m.2) ?_⟩
      refine List.mem_filterMap.mpr ⟨l, List.mem_reverse.mpr hl, ?_⟩
      rw [hv]
      simp [Json.member?, Json.find]

theorem ne_object_of_mem (h : Flat layers) {f : Json.Field} (hf : f ∈ shape.fields) :
    ∀ v ∈ valuesIn layers f.name, ∀ members, v ≠ .object members := by
  intro v hv members hobject
  obtain ⟨l, hl, hmember⟩ := List.mem_filterMap.mp hv
  exact h.values l (List.mem_reverse.mp hl) f hf members (hmember.trans (congrArg some hobject))

/-- No value is laid over another: the last one stays. -/
theorem stacked_eq (h : Flat layers) (hm : m.Laws) {f : Json.Field} (hf : f ∈ shape.fields) :
    stacked m.overlay (valuesIn layers f.name) = lastValue? layers f.name := by
  rw [hm.overlay.stacked_of_flat (h.ne_object_of_mem hf), valuesIn, List.head?_filterMap]
  rfl

theorem flatlyGiven (h : Flat layers) : FlatlyGiven (lastValue? layers) := by
  intro f hf members hlast
  rw [lastValue?, ← List.head?_filterMap] at hlast
  exact h.ne_object_of_mem hf _ (List.mem_of_head? hlast) members rfl

/-- The layers make the configuration that has each last value under its key. -/
theorem merge_eq_ok_iff_value (h : Flat layers) (hm : m.Laws) :
    m.merge layers = .ok c ↔ ∀ f ∈ shape.fields,
      (lastValue? layers f.name).getD (default.value f.name) = c.value f.name := by
  obtain ⟨key, hkey⟩ := h.exists_key
  rw [hm.merge_eq_ok_iff h.neat hkey, and_iff_right h.isObject,
    filledBy_congr fun f hf => h.stacked_eq hm hf, filledBy_iff_of_flat h.flatlyGiven]

/-- The layers make one object, which holds the last values. -/
theorem exists_merged (h : Flat layers) (hm : m.Laws) : ∃ members, Ordered members ∧
    (∀ f ∈ shape.fields, Json.find f.name members = lastValue? layers f.name) ∧
    m.merge layers = (Config.ofValue (.object members)).mapError m.invalid := by
  obtain ⟨key, hkey⟩ := h.exists_key
  obtain ⟨members, hordered, hfind, heq⟩ := hm.exists_merged h.neat h.isObject hkey
  exact ⟨members, hordered, fun f hf => (hfind f.name).trans (h.stacked_eq hm hf), heq⟩

/-- The same last values make the same, a failure included. -/
theorem merge_congr {layers' : List Layer} (h : Flat layers) (h' : Flat layers') (hm : m.Laws)
    (hlast : ∀ f ∈ shape.fields, lastValue? layers' f.name = lastValue? layers f.name) :
    m.merge layers' = m.merge layers := by
  obtain ⟨members, hordered, hfind, heq⟩ := h.exists_merged hm
  obtain ⟨members', hordered', hfind', heq'⟩ := h'.exists_merged hm
  rw [heq, heq', ofValue_congr hordered' hordered]
  intro f hf
  rw [hfind f hf, hfind' f hf, hlast f hf]

end Flat

end Config

open Config (Flat Admissible shape lastValue?)

/-- Whatever merges layers by the laws, the last value for each field counts where the layers are
objects that hold no object for a field and one of which is not empty: they make a configuration
exactly if those values are valid, it has these values and the defaults elsewhere, and any other
such layers with the same last values make the same.  A layer that is no object fails the merge,
wherever it stands. -/
theorem Merger.last_layer_wins {ε : Type} {m : Merger ε} (hm : m.Laws) {layers : List Layer}
    (h : Flat layers) :
    ((∃ c, m.merge layers = .ok c) ↔ Admissible (lastValue? layers)) ∧
      (∀ c, m.merge layers = .ok c ↔ ∀ f ∈ shape.fields,
        (lastValue? layers f.name).getD (Config.default.value f.name) = c.value f.name) ∧
      (∀ layers', Flat layers' →
        (∀ f ∈ shape.fields, lastValue? layers' f.name = lastValue? layers f.name) →
        m.merge layers' = m.merge layers) ∧
      ∀ mixed : List Layer, (∃ l ∈ mixed, ∀ members, l.value ≠ .object members) →
        ∃ e, m.merge mixed = .error e := by
  refine ⟨?_, fun c => h.merge_eq_ok_iff_value hm, fun layers' h' => h.merge_congr h' hm,
    fun mixed => hm.exists_merge_eq_error⟩
  rw [← Config.exists_forall_value_iff]
  exact exists_congr fun c => h.merge_eq_ok_iff_value hm

namespace Config

/-- Four layers: one without keys, one with two values that are not valid and are replaced later,
and one with a key that is no field. -/
def fourLayers : List Layer :=
  [⟨.defaults, .object []⟩,
    ⟨.file none, .object [(logFilterKey, .array []), (formatOnTypeKey, .null)]⟩,
    ⟨.commandLine, .object [(formatOnTypeKey, .boolean true), ("other", .object [])]⟩,
    ⟨.environment, .object [(logFilterKey, .string "warn")]⟩]

/-- The merger that runs takes from them the filter of the last layer, the switch of the third, and
the defaults. -/
theorem last_layer_wins_of_fourLayers :
    merger.Laws ∧ Flat fourLayers ∧
      lastValue? fourLayers logFilterKey = some (.string "warn") ∧
      merger.merge fourLayers = .ok ⟨"warn", .json, "puppet", true⟩ := by
  have hflat : Flat fourLayers := by
    refine ⟨?_, ⟨⟨.environment, .object [(logFilterKey, .string "warn")]⟩, ?_, ?_⟩, ?_⟩
    · simp [fourLayers, logFilterKey, formatOnTypeKey]
    · simp [fourLayers]
    · simp
    · simp [fourLayers, FlatlyGiven, shape, Json.Field.of, Json.member?, Json.find, logFilterKey,
        logFormatKey, sectionKey, formatOnTypeKey]
  have hlast : lastValue? fourLayers logFilterKey = some (.string "warn") := by decide +kernel
  refine ⟨merger_laws, hflat, hlast, ((Merger.last_layer_wins merger_laws hflat).2.1 _).mpr ?_⟩
  decide +kernel

end Config

end EditorSession
