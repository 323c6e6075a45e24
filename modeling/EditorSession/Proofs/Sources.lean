import EditorSession.Config.Load
import EditorSession.Proofs.Documents

/-! # What the layers of the sources hold

The loader that runs keeps what is relied on of each source: a layer holds what the command line,
the environment or a document gives for the options that take a value (`CommandLine.layer_holds`,
`Environment.layer_holds`, `FileTree.layer_holds`), and the objects among these values name each of
their members once (`Environment.decode_neat`, `FileTree.document_neat`). -/

namespace EditorSession

open Json (Neat neat_object neat_null neat_boolean neat_number neat_string neat_array neat_ofMembers
  Ordered)

/-- A layer of members holds what they hold. -/
theorem Layer.holds_of_ofMembers {l : Layer} {members : List (String × Json)}
    {given : String → Option Json} (hv : l.value = .ofMembers members)
    (hd : (members.map Prod.fst).Nodup)
    (hgiven : ∀ key ∈ Config.valuedKeys, Json.find key members = given key) : l.Holds given := by
  refine ⟨_, hv, neat_ofMembers members _ rfl, fun key hk => ?_⟩
  rw [← hgiven key hk]
  exact Json.find_ofMembers hd key

theorem Config.mem_valuedKeys_iff {key : String} : key ∈ valuedKeys ↔
    key = logFilterKey ∨ key = logFormatKey ∨ key = sectionKey := by
  simp [valuedKeys, Environment.variables]

/-! ### Values in shorthand -/

namespace Shorthand

theorem number?_neat {n : Numeral} {v : Json} (h : number? n = some v) : v.Neat := by
  unfold number? at h
  split at h
  · dsimp only at h
    split_ifs at h
    cases h
    cases n.double with
    | none => exact neat_null
    | some d => exact neat_number _
  · split_ifs at h
    cases h
    exact neat_number _

theorem word_neat (cs : List Char) : (word cs).Neat := by
  show ((number? (.ofChars (Text.trim cs))).getD (.string (String.ofList (Text.trim cs)))).Neat
  cases hn : number? (.ofChars (Text.trim cs)) with
  | none => exact neat_string _
  | some v => exact number?_neat hn

/-- Only braces make an object. -/
theorem value_neat {room : Nat} {cs rest : List Char} {v : Json}
    (h : value room cs = some (v, rest)) : v.Neat := by
  unfold value at h
  obtain ⟨_, hfound, heq⟩ := Option.map_eq_some_iff.mp h
  cases heq
  split at hfound
  · cases hfound
    exact neat_boolean _
  · split at hfound
    · obtain ⟨_, -, heq⟩ := Option.map_eq_some_iff.mp hfound
      cases heq
      exact neat_string _
    · cases hfound
      exact neat_string _
    · cases hfound
    · obtain ⟨_, -, heq⟩ := Option.map_eq_some_iff.mp hfound
      cases heq
      exact neat_array _
    · obtain ⟨_, -, heq⟩ := Option.map_eq_some_iff.mp hfound
      cases heq
      exact neat_ofMembers _
    · cases hfound
      exact word_neat _

theorem whole_neat (cs : List Char) : (whole cs).Neat := by
  unfold whole
  split
  · exact neat_boolean _
  · split
    · next hvalue => exact value_neat hvalue
    · exact neat_string _

theorem read_neat (text : String) : (read text).Neat := by
  unfold read
  dsimp only
  split_ifs
  · exact neat_array _
  · exact whole_neat _

end Shorthand

/-! ### The environment -/

namespace Environment

theorem nest_neat {v : Json} (h : v.Neat) (names : List String) : (nest names v).Neat := by
  cases names with
  | nil => exact h
  | cons name rest => exact neat_object (List.nodup_singleton _)

theorem decode_neat (entry : String × String) : (decode entry).Neat :=
  nest_neat (Shorthand.read_neat _) _

theorem ordered_foldl_addVariable {members : List (String × Json)} (h : Ordered members)
    (entries : List (String × String)) : Ordered (entries.foldl addVariable members) := by
  induction entries generalizing members with
  | nil => exact h
  | cons entry rest ih =>
      refine ih ?_
      unfold addVariable
      split
      · exact h.insert _ _
      · exact h

/-- A key holds the value of the variable that denotes it, or what it held before. -/
theorem find_foldl_addVariable {entries : List (String × String)}
    (hd : (entries.filterMap fun entry => key? entry.1).Nodup) (key : String)
    (members : List (String × Json)) : Json.find key (entries.foldl addVariable members) =
      ((entries.find? fun entry => key? entry.1 = some key).map decode).or
        (Json.find key members) := by
  induction entries generalizing members with
  | nil => rfl
  | cons entry rest ih =>
      rw [List.foldl_cons]
      cases hk : key? entry.1 with
      | none =>
          simp only [List.filterMap_cons, hk] at hd
          have hadd : addVariable members entry = members := by simp only [addVariable, hk]
          rw [hadd, ih hd, List.find?_cons_of_neg (by simp [hk])]
      | some k =>
          simp only [List.filterMap_cons, hk, List.nodup_cons] at hd
          have hadd : addVariable members entry = Json.insert k (decode entry) members := by
            simp only [addVariable, hk]
          rw [hadd, ih hd.2]
          by_cases hkey : k = key
          · subst hkey
            have hrest : rest.find? (fun entry => key? entry.1 = some k) = none := by
              rw [List.find?_eq_none]
              intro entry' hentry' hk'
              exact hd.1 (List.mem_filterMap.mpr ⟨entry', hentry', of_decide_eq_true hk'⟩)
            rw [hrest, List.find?_cons_of_pos (by simp [hk]), Json.find_insert_self]
            rfl
          · rw [List.find?_cons_of_neg (by simp [hk, hkey]),
              Json.find_insert_of_ne (Ne.symm hkey)]

theorem layer_holds {env : Environment} (hd : (Config.loader.keys env).Nodup) :
    env.layer.Holds (Config.loader.given? env) :=
  ⟨env.entries.foldl addVariable [], rfl,
    (ordered_foldl_addVariable List.Pairwise.nil env.entries).nodup,
    fun key _ => (find_foldl_addVariable hd key []).trans (Option.or_none ..)⟩

end Environment

/-! ### The command line -/

namespace CommandLine

variable (c : CommandLine)

/-- The members of the layer in the order of the options. -/
def members : List (String × Json) :=
  optionMember Config.logFilterKey c.logFilter
    ++ optionMember Config.logFormatKey (c.logFormat.map LogFormat.name)
    ++ optionMember Config.sectionKey c.configurationSection
    ++ [(Config.formatOnTypeKey, .boolean c.formatOnType)]

theorem sublist_optionMember (name : String) (value : Option String) :
    ((optionMember name value).map Prod.fst).Sublist [name] := by
  cases value with
  | none => exact List.nil_sublist _
  | some v => exact List.Sublist.refl _

theorem nodup_members : (c.members.map Prod.fst).Nodup := by
  have hsublist : (c.members.map Prod.fst).Sublist
      ([Config.logFilterKey] ++ [Config.logFormatKey] ++ [Config.sectionKey]
        ++ [Config.formatOnTypeKey]) := by
    simp only [members, List.map_append]
    exact (((sublist_optionMember ..).append (sublist_optionMember ..)).append
      (sublist_optionMember ..)).append (List.Sublist.refl _)
  exact List.Nodup.sublist hsublist (by decide)

theorem find_optionMember (key name : String) (value : Option String) :
    Json.find key (optionMember name value) =
      if name = key then value.map Json.string else none := by
  cases value <;> simp [optionMember, Json.find]

theorem layer_holds : c.layer.Holds c.given? := by
  have hv : c.layer.value = .ofMembers c.members := rfl
  refine Layer.holds_of_ofMembers hv c.nodup_members fun key hk => ?_
  rcases Config.mem_valuedKeys_iff.mp hk with rfl | rfl | rfl
  all_goals simp [members, given?, Json.find_append, find_optionMember, Json.find,
    Config.logFilterKey, Config.logFormatKey, Config.sectionKey, Config.formatOnTypeKey]

end CommandLine

/-! ### Files -/

namespace FileTree

variable {t : FileTree} {place : Location} {document : Document}

theorem document_eq_ok_iff {content : String} :
    FileTree.document place content = .ok document ↔
      ¬ (place.extension?.map Text.lower).any otherFormats.contains ∧
        Toml.parse content = some document := by
  unfold FileTree.document
  split_ifs with hother
  · simp [hother]
  · cases Toml.parse content <;> simp [hother]

/-- A document that is read names each member once, and so does every object in it. -/
theorem document_neat (h : Config.document? t place = some document) :
    (document.map Prod.fst).Nodup ∧ ∀ m ∈ document, m.2.Neat := by
  obtain ⟨content, -, hread⟩ := Option.bind_eq_some_iff.mp h
  cases hdocument : FileTree.document place content with
  | error e => rw [hdocument] at hread; cases hread
  | ok document' =>
      rw [hdocument] at hread
      cases hread
      exact Toml.parse_neat (document_eq_ok_iff.mp hdocument).2

theorem ne_baseKey_of_mem_valuedKeys {key : String} (hk : key ∈ Config.valuedKeys) :
    key ≠ baseKey := by
  rcases Config.mem_valuedKeys_iff.mp hk with rfl | rfl | rfl <;> decide

/-- The layer of a file holds what its document holds, since no option has the key of the file to
extend. -/
theorem layer_holds (hd : (document.map Prod.fst).Nodup) :
    (layer place document).Holds fun key => Json.find key document := by
  refine Layer.holds_of_ofMembers rfl (hd.sublist (List.filter_sublist.map Prod.fst))
    fun key hk => ?_
  exact Json.find_filter (p := fun name => name ≠ baseKey)
    (by simpa using ne_baseKey_of_mem_valuedKeys hk) document

end FileTree

end EditorSession
