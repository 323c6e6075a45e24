import EditorSession.Proofs.Chains

/-! # Which source a field is taken from

Whatever loads configurations by the laws, each option that takes a value is taken from the highest
source that gives one: the command line, the environment, the file that is used, the files that it
extends (`Loader.taken_of_load`).  For the log format an empty object gives nothing, because objects
are laid over each other recursively (`Loader.not_forall_logFormat_of_highest`). -/

namespace EditorSession

open Json (Decoder stacked overlay? OverlayLaws)
open Config (valuesIn valuesIn_concat valuedKeys)

/-! ### Options above other values -/

namespace Json.Decoder

variable {α : Type} {d : Decoder α} {otherwise a a' : α} {option option' : Option α}
  {below below' : Option Json}

/-- What a field with an option holds: the option if it is given, what lies below it if that is
given, or else its default. -/
def Takes (d : Decoder α) (otherwise : α) (option : Option α) (below : Option Json) (a : α) :
    Prop :=
  match option with
  | some value => a = value
  | none => d.Fills otherwise below a

/-- What lies below decides only if there is no option, and nothing else decides. -/
theorem Takes.agrees (h : d.Takes otherwise option below a)
    (h' : d.Takes otherwise option' below' a') (hoption : option = option')
    (hbelow : option = none → below = below') : a = a' := by
  subst hoption
  cases option with
  | some _ => exact Eq.trans h (Eq.symm h')
  | none =>
      cases hbelow rfl
      cases below with
      | none => exact Eq.trans h (Eq.symm h')
      | some _ => exact Except.ok.inj (Eq.trans (Eq.symm h) h')

end Json.Decoder

section

variable {overlay : Json → Json → Json} {below : List Json}

/-- An option for a text stands above everything else. -/
theorem Json.OverlayLaws.takes_string (ho : OverlayLaws overlay) {otherwise a : String}
    {option : Option String} (h : Decoder.string.Fills otherwise
      (stacked overlay ((option.map Json.string).toList ++ below)) a) :
    Decoder.string.Takes otherwise option below.head? a := by
  have hobject (members : List (String × Json)) (a : String) :
      decodeValue Decoder.string (.object members) ≠ .ok a := by
    simp [decode_string_eq_ok_iff]
  rw [Decoder.fills_stacked_iff ho hobject] at h
  cases option with
  | none => exact h
  | some s =>
      cases decode_string_eq_ok_iff.mp h
      rfl

theorem LogFormat.decode_name (f : LogFormat) :
    Json.decodeValue LogFormat.decoder (.string f.name) = .ok f := by
  cases f <;> decide +kernel

/-- An option for the log format stands above everything else. -/
theorem Json.OverlayLaws.takes_logFormat (ho : OverlayLaws overlay) {otherwise a : LogFormat}
    {option : Option LogFormat} (hneat : ∀ v ∈ below, v.Neat)
    (h : LogFormat.decoder.Fills otherwise
      (stacked overlay (((option.map LogFormat.name).map Json.string).toList ++ below)) a) :
    LogFormat.decoder.Takes otherwise option (below.find? (· ≠ .object [])) a := by
  cases option with
  | none => exact LogFormat.fills_of_fills_stacked ho hneat h
  | some f =>
      have hstacked : stacked overlay (.string f.name :: below) = some (.string f.name) :=
        ho.stacked_cons_of_not_object (by simp) below
      have hdecode : Json.decodeValue LogFormat.decoder (.string f.name) = .ok a := by
        change LogFormat.decoder.Fills otherwise (stacked overlay (.string f.name :: below)) a at h
        rwa [hstacked] at h
      rw [LogFormat.decode_name] at hdecode
      cases hdecode
      rfl

end

/-! ### The values of the sources -/

theorem Layer.Holds.neat {l : Layer} {given : String → Option Json} (h : l.Holds given) :
    l.value.Neat := by
  obtain ⟨members, hv, hd, -⟩ := h
  rw [hv]
  exact Json.neat_object hd

theorem Layer.Holds.member?_eq {l : Layer} {given : String → Option Json} (h : l.Holds given)
    {key : String} (hk : key ∈ valuedKeys) : l.value.member? key = given key := by
  obtain ⟨members, hv, -, hfind⟩ := h
  rw [hv]
  exact hfind key hk

namespace Loader

variable {Files : Type} {L : Loader Files} {arguments : List String} {env : Environment}
  {files : Files} {config : Config} {line : CommandLine} {place : L.Place}
  {chain : List (L.Place × Document)} {key : String}

/-- The values below the command line, the highest first: that of the environment, that of the file
that is used and those of the files that it extends one after the other. -/
def beneath (L : Loader Files) (env : Environment) (chain : List (L.Place × Document))
    (key : String) : List Json :=
  (L.given? env key).toList ++ chain.filterMap fun file => Json.find key file.2

theorem Chain.document?_eq (h : L.Chain files place chain) :
    ∀ file ∈ chain, L.document? files file.1 = some file.2 := by
  induction h with
  | last hread => exact List.forall_mem_singleton.mpr hread
  | extending hread _ _ ih => exact List.forall_mem_cons.mpr ⟨hread, ih⟩

theorem Chain.unique {chain' : List (L.Place × Document)} (h : L.Chain files place chain)
    (h' : L.Chain files place chain') : chain = chain' := by
  induction h generalizing chain' with
  | last hread hbase =>
      cases h' with
      | last hread' _ =>
          cases hread.symm.trans hread'
          rfl
      | extending hread' hbase' _ =>
          cases hread.symm.trans hread'
          cases hbase.symm.trans hbase'
  | extending hread hbase _ ih =>
      cases h' with
      | last hread' hbase' =>
          cases hread.symm.trans hread'
          cases hbase.symm.trans hbase'
      | extending hread' hbase' hbelow' =>
          cases hread.symm.trans hread'
          cases hbase.symm.trans hbase'
          rw [ih hbelow']

theorem Uses.unique {place? : Option L.Place} {chain' : List (L.Place × Document)}
    (h : L.Uses files place? chain) (h' : L.Uses files place? chain') : chain = chain' := by
  cases h with
  | nothing =>
      cases h'
      rfl
  | selected hchain =>
      cases h' with
      | selected hchain' => exact hchain.unique hchain'

theorem Uses.document?_eq {place? : Option L.Place} (h : L.Uses files place? chain) :
    ∀ file ∈ chain, L.document? files file.1 = some file.2 := by
  cases h with
  | nothing => exact fun _ h => absurd h List.not_mem_nil
  | selected hchain => exact hchain.document?_eq

namespace Laws

theorem fileLayer_holds_of_mem (hL : L.Laws)
    (hread : ∀ file ∈ chain, L.document? files file.1 = some file.2) :
    ∀ file ∈ chain, (L.fileLayer file).Holds fun key => Json.find key file.2 :=
  fun file hfile => hL.fileLayer_holds files file.1 file.2 (hread file hfile)

theorem layers_neat (hL : L.Laws) (hkeys : (L.keys env).Nodup)
    (hread : ∀ file ∈ chain, L.document? files file.1 = some file.2) :
    ∀ l ∈ L.layers line env chain, l.value.Neat := by
  intro l hl
  simp only [layers, List.mem_append, List.mem_reverse, List.mem_map, List.mem_cons,
    List.not_mem_nil, or_false] at hl
  rcases hl with ⟨file, hfile, rfl⟩ | rfl | rfl
  · exact (hL.fileLayer_holds_of_mem hread file hfile).neat
  · exact (hL.environmentLayer_holds env hkeys).neat
  · exact (hL.lineLayer_holds line).neat

/-- The layers hold the values of the sources, those of the command line above all others. -/
theorem valuesIn_layers (hL : L.Laws) (hkeys : (L.keys env).Nodup)
    (hread : ∀ file ∈ chain, L.document? files file.1 = some file.2) (hk : key ∈ valuedKeys) :
    valuesIn (L.layers line env chain) key =
      (line.given? key).toList ++ L.beneath env chain key := by
  have hfiles : valuesIn (chain.map L.fileLayer).reverse key =
      chain.filterMap fun file => Json.find key file.2 := by
    unfold valuesIn
    rw [List.reverse_reverse, List.filterMap_map]
    refine List.filterMap_congr fun file hfile => ?_
    exact (hL.fileLayer_holds_of_mem hread file hfile).member?_eq hk
  have hlayers : L.layers line env chain =
      (chain.map L.fileLayer).reverse ++ [L.environmentLayer env] ++ [L.lineLayer line] := by
    simp [layers]
  rw [hlayers, valuesIn_concat, valuesIn_concat, hfiles,
    (hL.environmentLayer_holds env hkeys).member?_eq hk, (hL.lineLayer_holds line).member?_eq hk]
  rfl

theorem beneath_neat (hL : L.Laws)
    (hread : ∀ file ∈ chain, L.document? files file.1 = some file.2) :
    ∀ v ∈ L.beneath env chain key, v.Neat := by
  intro v hv
  rcases List.mem_append.mp hv with hv | hv
  · obtain ⟨entry, -, rfl⟩ := Option.map_eq_some_iff.mp (Option.mem_toList.mp hv)
    exact hL.decode_neat entry
  · obtain ⟨file, hfile, hfind⟩ := List.mem_filterMap.mp hv
    exact hL.document_neat files file.1 file.2 (hread file hfile) _ (Json.mem_of_find hfind)

end Laws

/-- Of entries no two of which have the same key, the one that has a key is found by it. -/
theorem find?_of_nodup {α κ : Type} [DecidableEq κ] {key? : α → Option κ} {entries : List α}
    (hd : (entries.filterMap key?).Nodup) {entry : α} (hentry : entry ∈ entries) {key : κ}
    (hk : key? entry = some key) : entries.find? (fun e => key? e = some key) = some entry := by
  induction entries with
  | nil => exact absurd hentry List.not_mem_nil
  | cons first rest ih =>
      rcases List.mem_cons.mp hentry with rfl | hrest
      · exact List.find?_cons_of_pos (decide_eq_true hk)
      · have hfirst : key? first ≠ some key := by
          intro hsame
          simp only [List.filterMap_cons, hsame, List.nodup_cons] at hd
          exact hd.1 (List.mem_filterMap.mpr ⟨entry, hrest, hk⟩)
        rw [List.find?_cons_of_neg (by simpa using hfirst)]
        exact ih (hd.sublist ((List.sublist_cons_self first rest).filterMap key?)) hrest

/-- Of variables no two of which denote the same key, the one of an option gives its value. -/
theorem given?_of_mem (hkeys : (L.keys env).Nodup) {entry : String × String}
    (hentry : entry ∈ env.entries) (hk : L.key? entry.1 = some key) :
    L.given? env key = some (L.decode entry) := by
  rw [given?, find?_of_nodup hkeys hentry hk]
  rfl

end Loader

/-! ### Options that take a value -/

namespace Config

/-- Each option that takes a value holds what the command line gives, or else the highest of the
values beneath it, or else its default. -/
structure TakenFrom (config : Config) (line : CommandLine) (beneath : String → List Json) :
    Prop where
  logFilter : Decoder.string.Takes defaultLogFilter line.logFilter
    (beneath logFilterKey).head? config.logFilter
  /-- An empty object beneath the command line gives no format. -/
  logFormat : LogFormat.decoder.Takes defaultLogFormat line.logFormat
    ((beneath logFormatKey).find? (· ≠ .object [])) config.logFormat
  configurationSection : Decoder.string.Takes defaultConfigurationSection
    line.configurationSection (beneath sectionKey).head? config.configurationSection

/-- Two configurations agree on each option that the same decides: the command line if it gives the
option, or else the highest of the values beneath it. -/
structure AgreesWhereDecided (config config' : Config) (line line' : CommandLine)
    (beneath beneath' : String → List Json) : Prop where
  logFilter : line.logFilter = line'.logFilter →
    (line.logFilter = none → (beneath logFilterKey).head? = (beneath' logFilterKey).head?) →
    config.logFilter = config'.logFilter
  logFormat : line.logFormat = line'.logFormat →
    (line.logFormat = none → (beneath logFormatKey).find? (· ≠ .object []) =
      (beneath' logFormatKey).find? (· ≠ .object [])) →
    config.logFormat = config'.logFormat
  configurationSection : line.configurationSection = line'.configurationSection →
    (line.configurationSection = none →
      (beneath sectionKey).head? = (beneath' sectionKey).head?) →
    config.configurationSection = config'.configurationSection

/-- Nothing but the highest value decides an option. -/
theorem TakenFrom.agrees {config config' : Config} {line line' : CommandLine}
    {beneath beneath' : String → List Json} (h : config.TakenFrom line beneath)
    (h' : config'.TakenFrom line' beneath') :
    config.AgreesWhereDecided config' line line' beneath beneath' where
  logFilter := h.logFilter.agrees h'.logFilter
  logFormat := h.logFormat.agrees h'.logFormat
  configurationSection := h.configurationSection.agrees h'.configurationSection

theorem TakenFrom.of_filledBy {overlay : Json → Json → Json} (ho : OverlayLaws overlay)
    {config : Config} {line : CommandLine} {beneath values : String → List Json}
    (hvalues : ∀ key ∈ valuedKeys, values key = (line.given? key).toList ++ beneath key)
    (hneat : ∀ v ∈ beneath logFormatKey, v.Neat)
    (h : config.FilledBy fun key => stacked overlay (values key)) :
    config.TakenFrom line beneath := by
  obtain ⟨hfilter, hformat, hpart, -⟩ := h
  rw [hvalues _ (by decide)] at hfilter hformat hpart
  exact ⟨ho.takes_string hfilter, ho.takes_logFormat hneat hformat, ho.takes_string hpart⟩

end Config

namespace Loader

variable {Files : Type} {L : Loader Files} {arguments : List String} {env : Environment}
  {files : Files} {config : Config}

/-- A configuration that is loaded takes each option from the highest source that gives it. -/
theorem takenFrom_of_load (hL : L.Laws) (hkeys : (L.keys env).Nodup)
    (h : L.load arguments env files = .ok config) :
    ∃ line chain, L.line? arguments = some line ∧
      L.Uses files (L.selected? line env files) chain ∧
      config.TakenFrom line (L.beneath env chain) := by
  obtain ⟨line, chain, hline, huses, hmerge⟩ := hL.load_ok arguments env files config h
  have hread := huses.document?_eq
  have hfilled := hL.merger.filledBy_of_merge (hL.layers_neat hkeys hread) hmerge
  exact ⟨line, chain, hline, huses, .of_filledBy hL.merger.overlay
    (fun key hk => hL.valuesIn_layers hkeys hread hk) (hL.beneath_neat hread) hfilled⟩

/-- Whatever loads by the laws: if no two variables denote the same key and a configuration is
loaded, then the command line can be read, and each option that takes a value is that of the highest
source that gives one, where the variable of an option is the one that counts for it.  Nothing else
that the sources hold has a say: whenever another configuration is loaded and the same decides an
option there, it has the same value. -/
theorem taken_of_load (hL : L.Laws) (hkeys : (L.keys env).Nodup)
    (h : L.load arguments env files = .ok config) :
    ∃ line chain, L.line? arguments = some line ∧
      L.Uses files (L.selected? line env files) chain ∧
      config.TakenFrom line (L.beneath env chain) ∧
      (∀ option ∈ Environment.variables, ∀ text, (option.2, text) ∈ env.entries →
        L.given? env option.1 = some (L.decode (option.2, text))) ∧
      ∀ arguments' env' files' config' line' chain', (L.keys env').Nodup →
        L.load arguments' env' files' = .ok config' → L.line? arguments' = some line' →
        L.Uses files' (L.selected? line' env' files') chain' →
        config'.AgreesWhereDecided config line' line (L.beneath env' chain')
          (L.beneath env chain) := by
  obtain ⟨line, chain, hline, huses, htaken⟩ := takenFrom_of_load hL hkeys h
  refine ⟨line, chain, hline, huses, htaken, fun option hoption text htext => ?_, ?_⟩
  · exact given?_of_mem hkeys htext (hL.key?_variable option hoption)
  · intro arguments' env' files' config' line' chain' hkeys' h' hline' huses'
    obtain ⟨line'', chain'', hline'', huses'', htaken'⟩ := takenFrom_of_load hL hkeys' h'
    cases hline'.symm.trans hline''
    cases huses'.unique huses''
    exact htaken'.agrees htaken

/-- Every source gives something: the command line the log filter, the environment the section, the
file an empty object for the format, and the file that it extends the format. -/
def fourSources : List String × Environment × FileTree :=
  (["--config-path", "own.toml", "-l=debug"],
    ⟨[("PUPPET_LSP_CONFIGURATION_SECTION", "puppet.editor")]⟩,
    ⟨[(⟨["w", "own.toml"]⟩,
        "extends = 'base.toml'\nlog_filter = 1\nlog_format = \x7b\x7d\n"),
      (⟨["w", "base.toml"]⟩, "log_format = \x7bcompact = nan\x7d\nlog_filter = 'warn'\n")],
      ⟨["w"]⟩⟩)

theorem load_fourSources : Config.load fourSources.1 fourSources.2.1 fourSources.2.2 =
    .ok ⟨"debug", .compact, "puppet.editor", false⟩ := by
  decide +kernel

theorem nodup_keys_fourSources : (Config.loader.keys fourSources.2.1).Nodup := by
  decide +kernel

theorem taken_of_load_of_fourSources :
    Config.loader.Laws ∧ (Config.loader.keys fourSources.2.1).Nodup ∧
    Config.loader.load fourSources.1 fourSources.2.1 fourSources.2.2 =
      .ok ⟨"debug", .compact, "puppet.editor", false⟩ ∧
    ∃ line chain, Config.loader.line? fourSources.1 = some line ∧
      Config.loader.Uses fourSources.2.2
        (Config.loader.selected? line fourSources.2.1 fourSources.2.2) chain ∧
      (⟨"debug", .compact, "puppet.editor", false⟩ : Config).TakenFrom line
        (Config.loader.beneath fourSources.2.1 chain) := by
  obtain ⟨line, chain, hline, huses, htaken, -⟩ :=
    taken_of_load Config.loader_laws nodup_keys_fourSources load_fourSources
  exact ⟨Config.loader_laws, nodup_keys_fourSources, load_fourSources, line, chain, hline, huses,
    htaken⟩

/-! ### Empty objects for the log format -/

/-- The log format is that of the highest source that gives anything for it. -/
def HighestFormat (L : Loader Files) (arguments : List String) (env : Environment) (files : Files)
    (config : Config) : Prop :=
  ∃ line chain, L.line? arguments = some line ∧
    L.Uses files (L.selected? line env files) chain ∧
    LogFormat.decoder.Takes Config.defaultLogFormat line.logFormat
      (L.beneath env chain Config.logFormatKey).head? config.logFormat

/-- No configuration has the format of an empty object, however it was loaded. -/
theorem not_highestFormat_of_empty {line : CommandLine} (hline : L.line? arguments = some line)
    (hoption : line.logFormat = none)
    (hempty : L.given? env Config.logFormatKey = some (.object [])) :
    ¬ L.HighestFormat arguments env files config := by
  rintro ⟨line', chain, hline', -, htakes⟩
  cases hline.symm.trans hline'
  rw [hoption, beneath, hempty] at htakes
  cases htakes

/-- A variable with an empty object for the log format, above a file with an object that spells one.
-/
def emptyAbove : List String × Environment × FileTree :=
  (["--config-path", "x.toml"], ⟨[("PUPPET_LSP_LOG_FORMAT", "\x7b\x7d")]⟩,
    ⟨[(⟨["w", "x.toml"]⟩, "log_format = \x7bcompact = nan\x7d\n")], ⟨["w"]⟩⟩)

theorem load_emptyAbove : Config.load emptyAbove.1 emptyAbove.2.1 emptyAbove.2.2 =
    .ok ⟨"info", .compact, "puppet", false⟩ := by
  decide +kernel

/-- The log format is not always that of the highest source: an empty object in a variable is laid
over the object in a file and leaves it as it is. -/
theorem not_forall_logFormat_of_highest :
    ¬ ∀ (Files : Type) (L : Loader Files) arguments env files config, L.Laws →
      (L.keys env).Nodup → L.load arguments env files = .ok config →
      L.HighestFormat arguments env files config := by
  intro h
  have hkeys : (Config.loader.keys emptyAbove.2.1).Nodup := by decide +kernel
  have hhighest := h FileTree Config.loader emptyAbove.1 emptyAbove.2.1 emptyAbove.2.2 _
    Config.loader_laws hkeys load_emptyAbove
  have hline : Config.loader.line? emptyAbove.1 =
      some ⟨none, none, none, false, some "x.toml"⟩ := by decide +kernel
  have hempty : Config.loader.given? emptyAbove.2.1 Config.logFormatKey = some (.object []) := by
    decide +kernel
  exact not_highestFormat_of_empty hline rfl hempty hhighest

end Loader

end EditorSession
