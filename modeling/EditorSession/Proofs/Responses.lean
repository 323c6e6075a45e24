import EditorSession.Message.Response
import EditorSession.Proofs.Numerals
import EditorSession.Proofs.Readings

/-! # Responses as texts

A response is read from an object by four names, each with its own rule for what is missing and what
is null (`Response.Shows`), and an error in it is an object or a sequence
(`ResponseError.SpelledBy`).  A text whose objects name their members once is decoded exactly as
that (`Response.decoded_iff_shown`). -/

namespace EditorSession

open Json (Outline Field notNull bind_eq_ok_iff)

/-! ### Errors -/

namespace ResponseError

/-- The value spells the error. -/
inductive SpelledBy : Json → ResponseError → Prop
  | object {members : List (String × Json)} {v : Json} {code : Int} {message : String} :
      Json.find "code" members = some v → v.IsInt64 code →
      Json.find "message" members = some (.string message) →
      SpelledBy (.object members) ⟨code, message, notNull (Json.find "data" members)⟩
  | pair {v : Json} {code : Int} {message : String} : v.IsInt64 code →
      SpelledBy (.array [v, .string message]) ⟨code, message, none⟩
  | triple {v data : Json} {code : Int} {message : String} : v.IsInt64 code →
      SpelledBy (.array [v, .string message, data]) ⟨code, message, notNull (some data)⟩

section decoder
variable {e : ResponseError} {room : Nat} {o : Outline} {v : Json}

/-- Data that is null is no data. -/
theorem data_iff (h : o.value? room = .ok v) {data : Option Json} :
    Json.Decoder.optional .value (.text room) o = .ok data ↔
      Option.Rel (fun v w => v = w) (notNull (some v)) data :=
  Json.Decoder.optional_iff h fun _ => Json.Decoder.value_iff h

/-- An error is read from an object by the names of its fields. -/
theorem decoder_object_iff {contents : List (String × Outline)} {members : List (String × Json)}
    (hd : (contents.map Prod.fst).Nodup) (hskip : ∀ m ∈ contents, m.2.skip = .ok ())
    (hshows : Outline.Shows room contents members) :
    decoder (.text (room + 1)) (.object (Outline.named contents) .closed) = .ok e ↔
      SpelledBy (.object members) e := by
  have hcode (code : Int) := @Json.field_iff Int shape "code" .int64 Json.IsInt64 room contents
    members (by decide) hshows (fun o v h _ => Json.Decoder.int64_iff h) code
  have hmessage (message : String) := @Json.field_iff String shape "message" .string
    (fun v s => v = .string s) room contents members (by decide) hshows
    (fun o v h _ => Json.Decoder.string_iff h) message
  have hdata (data : Option (Option Json)) := @Json.field?_iff (Option Json) shape "data"
    (.optional .value) (fun v => Option.Rel (fun v w => v = w) (notNull (some v))) room contents
    members (by decide) hshows (fun o v _ h _ => data_iff h) data
  unfold decoder
  simp only [bind_eq_ok_iff, Json.Record.select_named_eq_ok_iff hd hskip]
  constructor
  · rintro ⟨_, ⟨_, hinside, -, -, rfl⟩, code, hc, message, hm, data, hd, h⟩
    cases hinside
    cases h
    obtain ⟨v, hv, hint⟩ := (hcode code).mp hc
    obtain ⟨_, hstring, rfl⟩ := (hmessage message).mp hm
    have hjoin := Json.rel_join_iff.mp ⟨data, (hdata data).mp hd, rfl⟩
    rw [← Json.rel_eq_iff.mp hjoin]
    exact .object hv hint hstring
  · rintro ⟨hv, hint, hstring⟩
    rename_i v code message
    have hc := (hcode code).mpr ⟨v, hv, hint⟩
    have hm := (hmessage message).mpr ⟨_, hstring, rfl⟩
    obtain ⟨data, hrel, hjoin⟩ := Json.rel_join_iff.mpr
      (Json.rel_eq_iff.mpr (rfl : notNull (Json.find "data" members) = _))
    have hd' := (hdata data).mpr hrel
    refine ⟨_, ⟨.text room, rfl, Json.Record.admits_of_forall_field hd ?_, ?_, rfl⟩, code, hc,
      message, hm, data, hd', ?_⟩
    · simp only [shape, List.forall_mem_cons]
      exact ⟨fun o => Json.Record.check_of_field (by decide) hc _ _,
        fun o => Json.Record.check_of_field (by decide) hm _ _,
        fun o => Json.Record.check_of_field? (by decide) hd' _ _,
        fun _ h => absurd h List.not_mem_nil⟩
    · simp only [shape, List.forall_mem_cons]
      exact ⟨.inl (Json.Record.isSome_of_field (by decide) hc),
        .inl (Json.Record.isSome_of_field (by decide) hm), .inr rfl,
        fun _ h => absurd h List.not_mem_nil⟩
    · rw [hjoin]
      rfl

/-- The first fields of an error, given by the items of a sequence. -/
def taken (source : Json.Source) (items : List Outline) : Json.Selection :=
  ⟨source, (shape.fields.map Field.name).zip items⟩

section taken
variable {α : Type} {source : Json.Source} {first second : Outline} {rest : List Outline}

theorem taken_code (d : Json.Decoder α) :
    (taken source (first :: rest)).field "code" d = d source first := by
  simp [taken, Json.Selection.field, shape, Json.Field.of]

theorem taken_message (d : Json.Decoder α) :
    (taken source (first :: second :: rest)).field "message" d = d source second := by
  simp [taken, Json.Selection.field, shape, Json.Field.of, List.lookup_cons]

theorem taken_data (d : Json.Decoder α) :
    (taken source (first :: second :: rest)).field? "data" d =
      match rest with
      | [] => .ok none
      | third :: _ => (d source third).map some := by
  cases rest <;> simp [taken, Json.Selection.field?, shape, Json.Field.of, List.lookup_cons]

end taken

/-- The fields of an error in a sequence of two or three items. -/
theorem exists_select_array_iff {items : List Outline} :
    decoder (.text (room + 1)) (.array items .closed) = .ok e ↔
      ∃ code message data, e = ⟨code, message, data⟩ ∧ ∃ first second,
        Json.Decoder.int64 (.text room) first = .ok code ∧
        Json.Decoder.string (.text room) second = .ok message ∧
        (items = [first, second] ∧ data = none ∨ ∃ third, items = [first, second, third] ∧
          Json.Decoder.optional .value (.text room) third = .ok data) := by
  unfold decoder
  simp only [bind_eq_ok_iff, Json.Record.select_array_eq_ok_iff]
  constructor
  · rintro ⟨_, ⟨_, hinside, hl, -, hfill, rfl⟩, code, hc, message, hm, data, hd, h⟩
    cases hinside
    cases h
    obtain _ | ⟨first, _ | ⟨second, _ | ⟨third, _ | _⟩⟩⟩ := items
    · simp [shape, Json.Field.of] at hfill
    · simp [shape, Json.Field.of] at hfill
    · have hdata := (taken_data _).symm.trans hd
      cases hdata
      exact ⟨code, message, none, rfl, first, second, (taken_code _).symm.trans hc,
        (taken_message _).symm.trans hm, .inl ⟨rfl, rfl⟩⟩
    · obtain ⟨data, hthird, rfl⟩ := Json.map_eq_ok_iff.mp ((taken_data _).symm.trans hd)
      exact ⟨code, message, data, rfl, first, second, (taken_code _).symm.trans hc,
        (taken_message _).symm.trans hm, .inr ⟨third, rfl, hthird⟩⟩
    · simp only [shape, List.length_cons, List.length_nil] at hl
      omega
  · rintro ⟨code, message, data, rfl, first, second, hc, hm, ⟨rfl, rfl⟩ | ⟨third, rfl, hthird⟩⟩
    · refine ⟨_, ⟨.text room, rfl, by simp [shape], ?_, by simp [shape, Json.Field.of], rfl⟩, code,
        (taken_code _).trans hc, message, (taken_message _).trans hm, none, taken_data _, rfl⟩
      simp [shape, Json.Field.of, hc, hm, Except.map]
    · refine ⟨_, ⟨.text room, rfl, by simp [shape], ?_, by simp [shape], rfl⟩, code,
        (taken_code _).trans hc, message, (taken_message _).trans hm, some data, ?_, rfl⟩
      · simp [shape, Json.Field.of, hc, hm, hthird, Except.map]
      · exact (taken_data _).trans (Json.map_eq_ok_iff.mpr ⟨data, hthird, rfl⟩)

theorem decoder_array_iff {items : List Outline} {values : List Json}
    (hvalues : List.Forall₂ (fun o v => o.value? room = .ok v) items values) :
    decoder (.text (room + 1)) (.array items .closed) = .ok e ↔ SpelledBy (.array values) e := by
  rw [exists_select_array_iff]
  constructor
  · rintro ⟨code, message, data, rfl, first, second, hc, hm, ⟨rfl, rfl⟩ | ⟨third, rfl, hdata⟩⟩
    · obtain _ | ⟨hfirst, _ | ⟨hsecond, _ | _⟩⟩ := hvalues
      obtain rfl := (Json.Decoder.string_iff hsecond).mp hm
      exact .pair ((Json.Decoder.int64_iff hfirst).mp hc)
    · obtain _ | ⟨hfirst, _ | ⟨hsecond, _ | ⟨hthird, _ | _⟩⟩⟩ := hvalues
      obtain rfl := (Json.Decoder.string_iff hsecond).mp hm
      obtain rfl := Json.rel_eq_iff.mp ((data_iff hthird).mp hdata)
      exact .triple ((Json.Decoder.int64_iff hfirst).mp hc)
  · rintro (_ | hint | hint)
    · obtain _ | ⟨hfirst, _ | ⟨hsecond, _ | _⟩⟩ := hvalues
      exact ⟨_, _, _, rfl, _, _, (Json.Decoder.int64_iff hfirst).mpr hint,
        (Json.Decoder.string_iff hsecond).mpr rfl, .inl ⟨rfl, rfl⟩⟩
    · obtain _ | ⟨hfirst, _ | ⟨hsecond, _ | ⟨hthird, _ | _⟩⟩⟩ := hvalues
      exact ⟨_, _, _, rfl, _, _, (Json.Decoder.int64_iff hfirst).mpr hint,
        (Json.Decoder.string_iff hsecond).mpr rfl,
        .inr ⟨_, rfl, (data_iff hthird).mpr (Json.rel_eq_iff.mpr rfl)⟩⟩

theorem decoder_leaf_iff (h : o.value? room = .ok v) (ha : ∀ items tail, o ≠ .array items tail)
    (ho : ∀ written tail, o ≠ .object written tail) :
    decoder (.text room) o = .ok e ↔ SpelledBy v e := by
  obtain ⟨harray, hobject⟩ := Outline.leaf_of_value? h ha ho
  refine iff_of_false (fun hread => ?_) ?_
  · obtain ⟨selection, hselect, -⟩ := bind_eq_ok_iff.mp hread
    exact Json.Record.select_ne_ok ha ho selection hselect
  · rintro (_ | _ | _)
    · exact hobject _ rfl
    · exact harray _ rfl
    · exact harray _ rfl

/-- An error is read where the value spells it. -/
theorem decoder_iff (h : o.value? room = .ok v) (hd : o.NamesOnce) :
    decoder (.text room) o = .ok e ↔ SpelledBy v e := by
  cases o with
  | object written tail =>
      cases room with
      | zero => simp [Outline.value?] at h
      | succ inner =>
          obtain ⟨members, -, rfl⟩ := Json.map_eq_ok_iff.mp h
          obtain ⟨_, contents, hroom, rfl, rfl, hdistinct, hskip, hshows⟩ :=
            Outline.exists_named_of_value? h (hd _ _ rfl)
          rw [Nat.succ.inj hroom]
          exact decoder_object_iff hdistinct hskip hshows
  | array items tail =>
      cases room with
      | zero => simp [Outline.value?] at h
      | succ inner =>
          obtain ⟨values, hitems, rfl⟩ := Json.map_eq_ok_iff.mp h
          obtain ⟨rfl, hvalues⟩ := Outline.forall₂_of_itemValues hitems
          exact decoder_array_iff hvalues
  | _ => exact decoder_leaf_iff h (by simp) (by simp)

end decoder

end ResponseError

/-! ### Responses -/

namespace Response

/-- The members of an object show the response. Members of other names have no part in it. -/
@[mk_iff shows_iff]
structure Shows (members : List (String × Json)) (r : Response) : Prop where
  version : (Json.find "jsonrpc" members).getD (.string "") = .string r.version
  id : Option.Rel Json.IsInt64 (notNull (Json.find "id" members)) r.id
  result : Json.find "result" members = r.result
  error : Option.Rel ResponseError.SpelledBy (notNull (Json.find "error" members)) r.error

/-- The members of an object show some response. -/
structure Acceptable (members : List (String × Json)) : Prop where
  version : ∀ v, Json.find "jsonrpc" members = some v → ∃ s, v = .string s
  id : ∀ v, Json.find "id" members = some v → v = .null ∨ ∃ n, v.IsInt64 n
  error : ∀ v, Json.find "error" members = some v → v = .null ∨ ∃ e, ResponseError.SpelledBy v e

section shown
variable {members members' : List (String × Json)} {r : Response}

theorem exists_rel_notNull_iff {α : Type} {means : Json → α → Prop} {value : Option Json} :
    (∃ a, Option.Rel means (notNull value) a) ↔
      ∀ v, value = some v → v = .null ∨ ∃ a, means v a := by
  cases value with
  | none => exact iff_of_true ⟨none, .none⟩ nofun
  | some v =>
      simp only [Option.some.injEq, forall_eq']
      by_cases hv : v = .null
      · subst hv
        exact iff_of_true ⟨none, .none⟩ (.inl rfl)
      · rw [Json.notNull_of_ne hv]
        constructor
        · rintro ⟨_, h⟩
          cases h with
          | some h => exact .inr ⟨_, h⟩
        · rintro (h | ⟨a, h⟩)
          · exact absurd h hv
          · exact ⟨some a, .some h⟩

theorem acceptable_iff : Acceptable members ↔ ∃ r, Shows members r := by
  constructor
  · rintro ⟨hversion, hid, herror⟩
    obtain ⟨id, hid⟩ := exists_rel_notNull_iff.mpr hid
    obtain ⟨error, herror⟩ := exists_rel_notNull_iff.mpr herror
    obtain ⟨version, hversion⟩ : ∃ version,
        (Json.find "jsonrpc" members).getD (.string "") = .string version := by
      cases hv : Json.find "jsonrpc" members with
      | none => exact ⟨"", rfl⟩
      | some v => exact hversion v hv
    exact ⟨⟨version, id, Json.find "result" members, error⟩, hversion, hid, rfl, herror⟩
  · rintro ⟨r, hversion, hid, -, herror⟩
    refine ⟨fun v hv => ⟨r.version, ?_⟩, exists_rel_notNull_iff.mp ⟨_, hid⟩,
      exists_rel_notNull_iff.mp ⟨_, herror⟩⟩
    rwa [hv, Option.getD_some] at hversion

theorem shows_congr
    (h : ∀ name ∈ shape.fields.map Field.name, Json.find name members' = Json.find name members) :
    Shows members' r ↔ Shows members r := by
  simp only [shape, Json.Field.of, List.map_cons, List.map_nil, List.forall_mem_cons] at h
  obtain ⟨hversion, hid, hresult, herror, -⟩ := h
  simp only [shows_iff, hversion, hid, hresult, herror]

end shown

section decoder
variable {r : Response} {room : Nat} {contents : List (String × Outline)}
  {members : List (String × Json)}

/-- A version that is missing is empty. -/
theorem version_iff {value : Option Json} {version : String} :
    (∃ content, Option.Rel (fun v s => v = Json.string s) value content ∧
      content.getD "" = version) ↔ value.getD (.string "") = .string version := by
  cases value with
  | none =>
      constructor
      · rintro ⟨_, ⟨⟩, rfl⟩
        rfl
      · intro h
        exact ⟨none, .none, Json.string.inj h⟩
  | some v =>
      constructor
      · rintro ⟨_, ⟨h⟩, rfl⟩
        exact h
      · exact fun h => ⟨some version, .some h, rfl⟩

/-- A response is read from an object by the names of its fields. -/
theorem decoder_object_iff (hd : (contents.map Prod.fst).Nodup)
    (hskip : ∀ m ∈ contents, m.2.skip = .ok ()) (hshows : Outline.Shows room contents members)
    (herrors : ∀ o, contents.lookup "error" = some o → o.NamesOnce) :
    decoder (.text (room + 1)) (.object (Outline.named contents) .closed) = .ok r ↔
      Shows members r := by
  have hversion (version : Option String) := @Json.field?_iff String shape "jsonrpc" .string
    (fun v s => v = .string s) room contents members (by decide) hshows
    (fun o v _ h _ => Json.Decoder.string_iff h) version
  have hid (id : Option (Option Int)) := @Json.field?_iff (Option Int) shape "id"
    (.optional .int64) (fun v => Option.Rel Json.IsInt64 (notNull (some v))) room contents members
    (by decide) hshows
    (fun o v _ h _ => Json.Decoder.optional_iff h fun _ => Json.Decoder.int64_iff h) id
  have hresult (result : Option Json) := @Json.field?_iff Json shape "result" .value
    (fun v w => v = w) room contents members (by decide) hshows
    (fun o v _ h _ => Json.Decoder.value_iff h) result
  have herror (error : Option (Option ResponseError)) := @Json.field?_iff (Option ResponseError)
    shape "error" (.optional ResponseError.decoder)
    (fun v => Option.Rel ResponseError.SpelledBy (notNull (some v))) room contents members
    (by decide) hshows
    (fun o v ho h _ => Json.Decoder.optional_iff h fun _ =>
      ResponseError.decoder_iff h (herrors o ho)) error
  unfold decoder
  simp only [bind_eq_ok_iff, Json.Record.select_named_eq_ok_iff hd hskip]
  constructor
  · rintro ⟨_, ⟨_, hinside, -, -, rfl⟩, version, hv, id, hi, result, hr, error, he, h⟩
    cases hinside
    cases h
    exact ⟨version_iff.mp ⟨version, (hversion version).mp hv, rfl⟩,
      Json.rel_join_iff.mp ⟨id, (hid id).mp hi, rfl⟩, Json.rel_eq_iff.mp ((hresult result).mp hr),
      Json.rel_join_iff.mp ⟨error, (herror error).mp he, rfl⟩⟩
  · rintro ⟨hv, hi, hr, he⟩
    obtain ⟨version, hrel, hgetD⟩ := version_iff.mpr hv
    have hv := (hversion version).mpr hrel
    obtain ⟨id, hrel, hid'⟩ := Json.rel_join_iff.mpr hi
    have hi := (hid id).mpr hrel
    have hr := (hresult r.result).mpr (Json.rel_eq_iff.mpr hr)
    obtain ⟨error, hrel, herror'⟩ := Json.rel_join_iff.mpr he
    have he := (herror error).mpr hrel
    refine ⟨_, ⟨.text room, rfl, Json.Record.admits_of_forall_field hd ?_, ?_, rfl⟩, version, hv,
      id, hi, r.result, hr, error, he, ?_⟩
    · simp only [shape, List.forall_mem_cons]
      exact ⟨fun o => Json.Record.check_of_field? (by decide) hv _ _,
        fun o => Json.Record.check_of_field? (by decide) hi _ _,
        fun o => Json.Record.check_of_field? (by decide) hr _ _,
        fun o => Json.Record.check_of_field? (by decide) he _ _,
        fun _ h => absurd h List.not_mem_nil⟩
    · simp [shape, Json.Field.of]
    · rw [hgetD, hid', herror']
      rfl

end decoder

/-- An object names its members once, and so does an object that is its error. -/
structure Unambiguous (o : Outline) : Prop where
  members : o.NamesOnce
  error : ∀ written tail, o = .object written tail →
    ∀ m ∈ written, m.1 = some "error" → m.2.NamesOnce

theorem unambiguous_object_iff {written : List (Option String × Outline)} {tail : Json.Tail} :
    Unambiguous (.object written tail) ↔ (Outline.object written tail).NamesOnce ∧
      ∀ m ∈ written, m.1 = some "error" → m.2.NamesOnce := by
  constructor
  · exact fun h => ⟨h.members, h.error written tail rfl⟩
  · rintro ⟨hmembers, herror⟩
    refine ⟨hmembers, fun _ _ h => ?_⟩
    cases h
    exact herror

instance : DecidablePred Unambiguous
  | .object _ _ => decidable_of_iff _ unambiguous_object_iff.symm
  | .null | .boolean _ | .number _ | .string _ | .array _ _ | .broken _ _ => .isTrue ⟨nofun, nofun⟩

section text
variable {text text' : String} {members members' : List (String × Json)}

theorem ofText_eq_ok_iff (hparse : Json.parse text = .ok (.object members))
    (hnames : Unambiguous (Outline.ofText text).1) {r : Response} :
    ofText text = .ok r ↔ Shows members r := by
  obtain ⟨written, tail, houtline, hvalue, hdecode⟩ := Json.exists_object_of_parse hparse
  rw [houtline] at hnames
  obtain ⟨_, contents, hroom, rfl, rfl, hd, hskip, hshows⟩ :=
    Outline.exists_named_of_value? hvalue (hnames.members _ _ rfl)
  obtain rfl := Nat.succ.inj hroom
  refine (hdecode decoder r).trans (decoder_object_iff hd hskip hshows fun o ho => ?_)
  refine hnames.error _ _ rfl (some "error", o) (List.mem_map.mpr ⟨("error", o), ?_, rfl⟩) rfl
  obtain ⟨before, after, rfl, -⟩ := List.lookup_eq_some_iff.mp ho
  exact List.mem_append_right _ List.mem_cons_self

/-- A text with the value of an object, which names its members once, is decoded as the response
that the members of four names show, if they show one: whatever the order of the members, and
whatever stands under other names.  An integer stands in the text in one way. -/
theorem decoded_iff_shown (hparse : Json.parse text = .ok (.object members))
    (hnames : Unambiguous (Outline.ofText text).1) :
    ((∃ r, ofText text = .ok r) ↔ Acceptable members) ∧
      (∀ r, ofText text = .ok r ↔ Shows members r) ∧
      (∀ r, ofText text = .ok r → r.hasResult = (Json.find "result" members).isSome) ∧
      (∀ text' members', Json.parse text' = .ok (.object members') →
        Unambiguous (Outline.ofText text').1 →
        (∀ name ∈ shape.fields.map Field.name,
          Json.find name members' = Json.find name members) →
        ∀ r, ofText text' = .ok r ↔ ofText text = .ok r) ∧
      ∀ fuel cs rest n, Outline.readValue (fuel + 1) cs =
          (.number (some (.integer n)), some rest) ↔
        Outline.skipBlanks cs = Json.integerText n ++ rest ∧ Json.Literal.Ended rest ∧
          -Int.pow 2 63 ≤ n ∧ n < Int.pow 2 64 := by
  refine ⟨?_, fun r => ofText_eq_ok_iff hparse hnames, fun r hr => ?_,
    fun text' members' hparse' hnames' hfind r => ?_,
    fun fuel cs rest n => Outline.readValue_eq_integer_iff⟩
  · rw [acceptable_iff]
    exact exists_congr fun r => ofText_eq_ok_iff hparse hnames
  · rw [((ofText_eq_ok_iff hparse hnames).mp hr).result, hasResult]
  · rw [ofText_eq_ok_iff hparse' hnames', ofText_eq_ok_iff hparse hnames, shows_congr hfind]

/-- A text with a null result, an error in a sequence and a member that is no field. -/
def nullResult : String :=
  "\x7b\"x\":1,\"result\":null,\"id\":7,\"error\":[1,\"m\"]\x7d"

theorem decoded_iff_shown_of_nullResult :
    Json.parse nullResult = .ok (.object [("error", .array [.int 1, .string "m"]), ("id", .int 7),
        ("result", .null), ("x", .int 1)]) ∧
      Unambiguous (Outline.ofText nullResult).1 ∧
      ofText nullResult = .ok ⟨"", some 7, some .null, some ⟨1, "m", none⟩⟩ := by
  have hparse : Json.parse nullResult = .ok (.object [("error", .array [.int 1, .string "m"]),
      ("id", .int 7), ("result", .null), ("x", .int 1)]) := by decide +kernel
  have hnames : Unambiguous (Outline.ofText nullResult).1 := by decide +kernel
  obtain ⟨-, hshown, -⟩ := decoded_iff_shown hparse hnames
  refine ⟨hparse, hnames, (hshown _).mpr ⟨rfl, ?_, rfl, ?_⟩⟩
  · exact .some ⟨rfl, by decide, by decide⟩
  · exact .some (.pair ⟨rfl, by decide, by decide⟩)

end text

end Response

end EditorSession
