import EditorSession.Proofs.Filling
import EditorSession.Proofs.Grammar
import EditorSession.Proofs.Lossless

/-! # Texts that spell a configuration

The text of an object is that of its members between brackets, with blanks wherever the form of a
text allows them (`ObjectText`); every text that has an object as its value is of this form
(`ObjectText.exists_of_parse`).  If the parts of the members have names and values by themselves, the
whole reads as the object of these (`ObjectText.exists_readsAs`).  So a text that holds some
members of a configuration, in any order and among members of other names, is decoded to what it
holds of that configuration, with defaults for the rest; the text of the configuration itself holds
all of them (`Config.ofText_of_part`). -/

namespace EditorSession

namespace Json

open Outline (ReadsAs ReadsAsMember Holds)

/-! ### Texts of objects -/

/-- The text of a member: that of its name and that of its value, with any blanks around them. -/
structure MemberText where
  name : String
  value : String

/-- The text of an object: its members, the blanks behind the opening bracket, and those around the
brackets. -/
structure ObjectText where
  before : List Char
  inside : List Char
  members : List MemberText
  after : List Char
  before_blank : before.all Outline.isBlank = true
  inside_blank : inside.all Outline.isBlank = true
  after_blank : after.all Outline.isBlank = true

namespace MemberText

/-- The characters of a member, whose name and value a colon separates. -/
def chars (t : MemberText) : List Char := t.name.toList ++ ':' :: t.value.toList

/-- The parts of the text have that name and that value by themselves. -/
def Shows (t : MemberText) (m : String × Json) : Prop :=
  parse t.name = .ok (.string m.1) ∧ parse t.value = .ok m.2

/-- The text of a member as it is printed. -/
def printed (m : String × Json) : MemberText := ⟨String.ofList (quote m.1), m.2.render⟩

theorem chars_printed (m : String × Json) : (printed m).chars = memberText m := by
  simp [printed, chars, memberText, render]

theorem shows_printed {m : String × Json} (hv : Integral m.2) (hsorted : Sorted m.2)
    (hdepth : (Outline.ofValue m.2).depth ≤ 127) : (printed m).Shows m :=
  ⟨(Outline.readsAs_quote m.1).parse rfl, parse_render hv hsorted hdepth⟩

/-- What a text shows by itself it shows inside an object. -/
theorem Shows.exists_readsAs {t : MemberText} {m : String × Json} (h : t.Shows m) :
    ∃ o, ReadsAsMember t.chars (some m.1, o) ∧ o.value? 127 = .ok m.2 := by
  obtain ⟨name, hname, hstring⟩ := parse_eq_ok_iff.mp h.1
  obtain ⟨value, hvalue, hv⟩ := parse_eq_ok_iff.mp h.2
  obtain rfl : name = .string (some m.1) :=
    (Outline.value?_eq_ok_iff_of_leaf (by simp) (by simp)).mp hstring
  exact ⟨value, .intro hname hvalue, hv⟩

end MemberText

namespace ObjectText

/-- The characters of an object, whose members commas separate. -/
def chars (t : ObjectText) : List Char :=
  t.before ++ ('\x7b' :: t.inside ++ [','].intercalate (t.members.map MemberText.chars) ++
    ['\x7d']) ++ t.after

/-- The text of an object. -/
def text (t : ObjectText) : String := String.ofList t.chars

theorem exists_contents {texts : List MemberText} {members : List (String × Json)}
    (h : List.Forall₂ MemberText.Shows texts members) :
    ∃ contents,
      List.Forall₂ ReadsAsMember (texts.map MemberText.chars) (Outline.named contents) ∧
      List.Forall₂ (Holds 127) contents members := by
  induction h with
  | nil => exact ⟨[], .nil, .nil⟩
  | @cons t m texts members hm _ ih =>
      obtain ⟨o, ho, hv⟩ := hm.exists_readsAs
      obtain ⟨contents, hcontents, hvalues⟩ := ih
      exact ⟨(m.1, o) :: contents, .cons ho hcontents, .cons ⟨rfl, hv⟩ hvalues⟩

/-- The text reads as an object of what its members show. -/
theorem exists_readsAs {t : ObjectText} {members : List (String × Json)}
    (h : List.Forall₂ MemberText.Shows t.members members) :
    ∃ contents, ReadsAs t.chars (.object (Outline.named contents) .closed) ∧
      List.Forall₂ (Holds 127) contents members := by
  obtain ⟨contents, hcontents, hvalues⟩ := exists_contents h
  have hobject := Outline.readsAs_object t.inside_blank hcontents
  exact ⟨contents, (hobject.append_left t.before_blank).append_right t.after_blank, hvalues⟩

theorem exists_memberTexts {texts : List (List Char)} {contents : List (String × Outline)}
    {members : List (String × Json)}
    (htexts : List.Forall₂ ReadsAsMember texts (Outline.named contents))
    (hvalues : List.Forall₂ (Holds 126) contents members) :
    ∃ ts : List MemberText, texts = ts.map MemberText.chars ∧
      List.Forall₂ MemberText.Shows ts members := by
  induction hvalues generalizing texts with
  | nil =>
      cases htexts
      exact ⟨[], rfl, .nil⟩
  | @cons content m contents members hm _ ih =>
      obtain ⟨hname, hvalue⟩ := hm
      cases htexts with
      | @cons t _ texts _ ht htexts =>
          obtain ⟨ts, rfl, hshows⟩ := ih htexts
          obtain ⟨hlabel, hcontent⟩ := ht
          rename_i name value
          refine ⟨⟨String.ofList name, String.ofList value⟩ :: ts, ?_, .cons ⟨?_, ?_⟩ hshows⟩
          · simp [MemberText.chars]
          · exact hlabel.parse (hname ▸ rfl)
          · exact hcontent.parse (Outline.value?_succ _ hvalue)

/-- Every text with the value of an object is of this form. -/
theorem exists_of_parse {s : String} {own : List (String × Json)}
    (h : parse s = .ok (.object own)) : ∃ (t : ObjectText) (members : List (String × Json)),
      t.text = s ∧ List.Forall₂ MemberText.Shows t.members members ∧
        ofMembers members = .object own := by
  obtain ⟨o, hreads, hv⟩ := parse_eq_ok_iff.mp h
  obtain ⟨written, tail, rfl⟩ := Outline.exists_object_of_value? hv
  rw [Outline.value?, map_eq_ok_iff] at hv
  obtain ⟨_, hvalues, hown⟩ := hv
  obtain ⟨rfl, contents, members, rfl, hholds, rfl⟩ := Outline.forall₂_of_memberValues hvalues
  obtain ⟨before, inside, texts, after, hs, hbefore, hinside, hafter, htexts⟩ := hreads.exists_texts
  obtain ⟨ts, rfl, hshows⟩ := exists_memberTexts htexts hholds
  refine ⟨⟨before, inside, ts, after, hbefore, hinside, hafter⟩, members, ?_, hshows, hown⟩
  rw [text, chars, ← hs, String.ofList_toList]

end ObjectText

/-! ### Members among others -/

section members
variable {members own : List (String × Json)} {p : String → Bool}

/-- Where the members of some names are among those of an object, each holds what it does there. -/
theorem find_of_subperm (hown : (own.map Prod.fst).Nodup)
    (h : List.Subperm (members.filter fun m => p m.1) own) {name : String} (hp : p name = true)
    (hname : name ∈ members.map Prod.fst) : find name members = find name own := by
  obtain ⟨v, hv⟩ := Option.ne_none_iff_exists'.mp (mt find_eq_none_iff.mp (not_not_intro hname))
  have hmem : (name, v) ∈ members.filter fun m => p m.1 := by
    refine mem_of_find ?_
    rw [find_filter hp, hv]
  rw [hv, find_of_mem hown (h.subset hmem)]

theorem nodup_of_subperm (hown : (own.map Prod.fst).Nodup)
    (h : List.Subperm (members.filter fun m => p m.1) own) :
    ((members.filter fun m => p m.1).map Prod.fst).Nodup := by
  obtain ⟨part, hperm, hsub⟩ := h
  exact (hperm.map Prod.fst).nodup_iff.mp (hown.sublist (hsub.map Prod.fst))

end members

/-- A field whose name is among those that are kept holds what is written for it. -/
theorem reads_of_kept {α : Type} {d : Decoder α} {source : Source} {otherwise a : α} {v : Json}
    {given : Option Outline} {kept : Prop} [Decidable kept] (hin : kept → given = some (.ofValue v))
    (hout : ¬kept → given = none) (hd : d source (.ofValue v) = .ok a) :
    d.Reads source otherwise given (if kept then a else otherwise) := by
  split_ifs with hkept
  · rw [hin hkept]
    exact hd
  · rw [hout hkept]
    rfl

end Json

/-! ### Configurations -/

namespace Config

open Json (MemberText ObjectText Outline)

variable {c : Config}

/-- The names of the fields. -/
def keys : List String := shape.fields.map Json.Field.name

/-- The members of the object that a configuration is written as. -/
def members (c : Config) : List (String × Json) := [
  (logFilterKey, .string c.logFilter),
  (logFormatKey, .string c.logFormat.name),
  (sectionKey, .string c.configurationSection),
  (formatOnTypeKey, .boolean c.formatOnType)]

/-- The configuration with its own values in the fields of these names and defaults in all others. -/
def keeping (c : Config) (names : List String) : Config where
  logFilter := if logFilterKey ∈ names then c.logFilter else defaultLogFilter
  logFormat := if logFormatKey ∈ names then c.logFormat else defaultLogFormat
  configurationSection :=
    if sectionKey ∈ names then c.configurationSection else defaultConfigurationSection
  formatOnType := if formatOnTypeKey ∈ names then c.formatOnType else defaultFormatOnType

/-- Those of the members that name a field are some of the configuration, in any order. -/
def Has (c : Config) (members : List (String × Json)) : Prop :=
  List.Subperm (members.filter fun m => m.1 ∈ keys) c.members

theorem toJson_eq (c : Config) : c.toJson = .object c.members := rfl

theorem map_fst_members (c : Config) : c.members.map Prod.fst = keys := rfl

theorem nodup_members (c : Config) : (c.members.map Prod.fst).Nodup := by
  rw [map_fst_members]
  decide

theorem keeping_keys (c : Config) : c.keeping keys = c := rfl

theorem isSome_field?_eq (name : String) : (shape.field? name).isSome = decide (name ∈ keys) := by
  rw [Bool.eq_iff_iff, decide_eq_true_iff, Json.Record.field?, List.find?_isSome]
  simp [keys]

theorem Has.find_eq {members : List (String × Json)} (h : c.Has members) {key : String}
    (hkey : key ∈ keys) (hname : key ∈ members.map Prod.fst) :
    Json.find key members = Json.find key c.members :=
  Json.find_of_subperm (p := fun name => decide (name ∈ keys)) c.nodup_members h
    (decide_eq_true hkey) hname

theorem Has.nodup_chosen {members : List (String × Json)} {contents : List (String × Outline)}
    (h : c.Has members) (hcontents : List.Forall₂ (Outline.Holds 127) contents members) :
    ((shape.chosen contents).map Prod.fst).Nodup := by
  have hnames : (shape.chosen contents).map Prod.fst =
      (members.filter fun m => m.1 ∈ keys).map Prod.fst := by
    have hfilter {α : Type} (ms : List (String × α)) :
        (ms.filter fun m => m.1 ∈ keys).map Prod.fst =
          (ms.map Prod.fst).filter fun name => name ∈ keys := by
      rw [List.filter_map]
      rfl
    simp only [Json.Record.chosen, isSome_field?_eq, hfilter,
      Outline.map_fst_of_forall₂ hcontents]
  rw [hnames]
  exact Json.nodup_of_subperm (p := fun name => decide (name ∈ keys)) c.nodup_members h

/-- The outline under the name of a field is that of the value that the configuration has there. -/
theorem Has.lookup_eq {members : List (String × Json)} {contents : List (String × Outline)}
    (h : c.Has members) (hcontents : List.Forall₂ (Outline.Holds 127) contents members)
    {key : String} (hkey : key ∈ keys) (hname : key ∈ members.map Prod.fst) {v : Json}
    (hv : Json.find key c.members = some v) (ha : ∀ items, v ≠ .array items)
    (ho : ∀ members, v ≠ .object members) : contents.lookup key = some (.ofValue v) := by
  have hshows := Outline.shows_of_forall₂ hcontents key
  rw [h.find_eq hkey hname, hv] at hshows
  generalize contents.lookup key = given at hshows ⊢
  cases hshows with
  | some hvalue => rw [(Outline.value?_eq_ok_iff_of_leaf ha ho).mp hvalue]

theorem lookup_eq_none {members : List (String × Json)} {contents : List (String × Outline)}
    (hcontents : List.Forall₂ (Outline.Holds 127) contents members) {key : String}
    (hname : key ∉ members.map Prod.fst) : contents.lookup key = none := by
  have hshows := Outline.shows_of_forall₂ hcontents key
  rw [Json.find_eq_none_iff.mpr hname] at hshows
  generalize contents.lookup key = given at hshows ⊢
  cases hshows with
  | none => rfl

theorem Has.readFrom {members : List (String × Json)} {contents : List (String × Outline)}
    (h : c.Has members) (hcontents : List.Forall₂ (Outline.Holds 127) contents members)
    (source : Json.Source) :
    (c.keeping (members.map Prod.fst)).ReadFrom source fun key => contents.lookup key where
  logFilter := Json.reads_of_kept
    (fun hname => h.lookup_eq hcontents (by decide) hname rfl (by simp) (by simp))
    (lookup_eq_none hcontents) rfl
  logFormat := Json.reads_of_kept
    (fun hname => h.lookup_eq hcontents (by decide) hname rfl (by simp) (by simp))
    (lookup_eq_none hcontents) (by cases c.logFormat <;> rfl)
  configurationSection := Json.reads_of_kept
    (fun hname => h.lookup_eq hcontents (by decide) hname rfl (by simp) (by simp))
    (lookup_eq_none hcontents) rfl
  formatOnType := Json.reads_of_kept
    (fun hname => h.lookup_eq hcontents (by decide) hname rfl (by simp) (by simp))
    (lookup_eq_none hcontents) rfl

/-- A text that holds some members of a configuration is decoded to what it holds of that
configuration. -/
theorem ofText_of_shows {t : ObjectText} {members : List (String × Json)}
    (hshows : List.Forall₂ MemberText.Shows t.members members) (h : c.Has members) :
    ofText t.text = .ok (c.keeping (members.map Prod.fst)) := by
  obtain ⟨contents, hreads, hcontents⟩ := ObjectText.exists_readsAs hshows
  rw [ofText, ObjectText.text, hreads.decodeText]
  exact (decoder_named_eq_ok_iff rfl (Outline.skip_of_forall₂ hcontents)
    (h.nodup_chosen hcontents)).mpr (h.readFrom hcontents (.text 126))

/-- The text of a configuration as one of an object. -/
def written (c : Config) : ObjectText where
  before := []
  inside := []
  members := c.members.map MemberText.printed
  after := []
  before_blank := rfl
  inside_blank := rfl
  after_blank := rfl

theorem text_written (c : Config) : c.written.text = c.text := by
  have hchars : c.members.map (MemberText.chars ∘ MemberText.printed) =
      c.members.map Json.memberText :=
    List.map_congr_left fun m _ => MemberText.chars_printed m
  simp only [ObjectText.text, ObjectText.chars, written, List.map_map, hchars, text, toJson_eq,
    Json.render, Json.text_object, List.nil_append, List.append_nil]

theorem shows_written (c : Config) : List.Forall₂ MemberText.Shows c.written.members c.members := by
  rw [written, List.forall₂_map_left_iff]
  refine List.forall₂_same.mpr fun m hm => ?_
  have hstring (s : String) : (MemberText.printed (m.1, .string s)).Shows (m.1, .string s) :=
    MemberText.shows_printed (.string s) (.string s) (Nat.zero_le _)
  simp only [members, List.mem_cons, List.not_mem_nil, or_false] at hm
  rcases hm with rfl | rfl | rfl | rfl
  · exact hstring c.logFilter
  · exact hstring c.logFormat.name
  · exact hstring c.configurationSection
  · exact MemberText.shows_printed (.boolean _) (.boolean _) (Nat.zero_le _)

theorem has_members (c : Config) : c.Has c.members := List.filter_sublist.subperm

theorem ofText_text (c : Config) : ofText c.text = .ok c := by
  rw [← c.text_written, ofText_of_shows c.shows_written c.has_members, c.map_fst_members,
    c.keeping_keys]

/-- The text of a configuration is decoded to that configuration.  So is the text of any object that
holds some of its members, in any order and in any spelling, among members whose names are no field,
but for the fields that are left out: these have their defaults. -/
theorem ofText_of_part (c : Config) :
    ofText c.text = .ok c ∧
    ∀ (t : ObjectText) (members : List (String × Json)),
      List.Forall₂ MemberText.Shows t.members members → c.Has members →
      ofText t.text = .ok (c.keeping (members.map Prod.fst)) :=
  ⟨c.ofText_text, fun _ _ => ofText_of_shows⟩

/-- A configuration without a default. -/
def quotedFilter : Config := ⟨"a\"\\é", .compact, "other", true⟩

/-- A text with two of its members: the switch, and the filter with escapes in its name and its
value.  A name that is no field stands before and behind them, once with the key of a field inside.
-/
def quotedFilterText : ObjectText where
  before := ['\n']
  inside := []
  members := [
    ⟨" \"zz\" ", "[1, \x7b\"log_filter\": 3\x7d]"⟩,
    ⟨"\"format_on_type\"", " true"⟩,
    ⟨"\"\\u006cog_filter\"", "\"a\\\"\\\\\\u00e9\" "⟩,
    ⟨"\"zz\"", "null"⟩]
  after := [' ']
  before_blank := rfl
  inside_blank := rfl
  after_blank := rfl

theorem ofText_of_part_of_quotedFilter :
    ofText quotedFilter.text = .ok quotedFilter ∧
      ofText quotedFilterText.text = .ok ⟨"a\"\\é", .json, "puppet", true⟩ := by
  obtain ⟨hown, hpart⟩ := ofText_of_part quotedFilter
  have hshows : List.Forall₂ MemberText.Shows quotedFilterText.members
      [("zz", .array [.int 1, .object [("log_filter", .int 3)]]), ("format_on_type", .boolean true),
        ("log_filter", .string "a\"\\é"), ("zz", .null)] :=
    .cons ⟨by decide +kernel, by decide +kernel⟩ (.cons ⟨by decide +kernel, by decide +kernel⟩
      (.cons ⟨by decide +kernel, by decide +kernel⟩ (.cons ⟨by decide +kernel, by decide +kernel⟩
        .nil)))
  refine ⟨hown, hpart quotedFilterText _ hshows ?_⟩
  exact ⟨[("log_filter", .string "a\"\\é"), ("format_on_type", .boolean true)],
    by decide, by decide⟩

end Config

end EditorSession
