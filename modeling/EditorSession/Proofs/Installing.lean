import EditorSession.Log.Telemetry
import Mathlib.Data.List.Induction

/-! # One log output for a process

A call installs an output exactly if none is there and its filter is valid (`Holds.initialise`).  So
along any sequence of calls the output in use is that of the first configuration whose filter is
valid; until then every call is refused for its own filter, and from then on every call succeeds and
reports the same format, whatever it asks for (`Telemetry.initialised_once`).  Where another part of
the process was first, no call ever succeeds. -/

namespace EditorSession.Log

/-- The text for the log filter of the configuration is a filter. -/
def hasFilter (config : Config) : Bool := (Filter.parse config.logFilter).isOk

/-- The first of the configurations whose filter is valid. -/
def firstValid? (configs : List Config) : Option Config := configs.find? hasFilter

/-- The process uses the output of that configuration, or none. -/
inductive Holds : Option Config → Telemetry → Prop
  | vacant : Holds none .vacant
  | installed {first : Config} {filter : Filter} : Filter.parse first.logFilter = .ok filter →
      Holds (some first) (.installed ⟨filter, first.logFormat⟩)

/-- What a call returns when the output of that configuration is in use after it, or none is. -/
inductive Returns : Option Config → Config → Except TelemetryError LogFormat → Prop
  | inUse (first config : Config) : Returns (some first) config (.ok first.logFormat)
  | refused {config : Config} {cause : FilterError} :
      Filter.parse config.logFilter = .error cause →
      Returns none config (.error (.filter config.logFilter cause))

/-- What a call returns when another part of the process was first. -/
inductive Denied : Config → Except TelemetryError LogFormat → Prop
  | taken {config : Config} {filter : Filter} : Filter.parse config.logFilter = .ok filter →
      Denied config (.error .alreadyInstalled)
  | refused {config : Config} {cause : FilterError} :
      Filter.parse config.logFilter = .error cause →
      Denied config (.error (.filter config.logFilter cause))

theorem firstValid?_concat (before : List Config) (config : Config) :
    firstValid? (before ++ [config]) =
      (firstValid? before).or (if hasFilter config then some config else none) := by
  unfold firstValid?
  rw [List.find?_append, List.find?_singleton]

/-! ### One call -/

variable {t : Telemetry} {first : Option Config}

/-- A call keeps the output in use; if there is none, it installs its own if its filter is valid. -/
theorem Holds.initialise (h : Holds first t) (config : Config) :
    Holds (first.or (if hasFilter config then some config else none)) (t.initialise config).2 ∧
      Returns (first.or (if hasFilter config then some config else none)) config
        (t.initialise config).1 := by
  cases h with
  | installed hparse => exact ⟨.installed hparse, .inUse _ config⟩
  | vacant =>
      unfold Telemetry.initialise Output.ofConfig hasFilter
      cases hparse : Filter.parse config.logFilter with
      | ok filter => exact ⟨.installed hparse, .inUse config config⟩
      | error cause => exact ⟨.vacant, .refused hparse⟩

/-- Where another part of the process was first, a call changes nothing and fails. -/
theorem initialise_foreign (config : Config) :
    (Telemetry.foreign.initialise config).2 = .foreign ∧
      Denied config (Telemetry.foreign.initialise config).1 := by
  unfold Telemetry.initialise Output.ofConfig
  cases hparse : Filter.parse config.logFilter with
  | ok filter => exact ⟨rfl, .taken hparse⟩
  | error cause => exact ⟨rfl, .refused hparse⟩

namespace Telemetry

/-! ### Successive calls -/

/-- What the process has installed after the calls. -/
def after (t : Telemetry) (configs : List Config) : Telemetry :=
  configs.foldl (fun t config => (t.initialise config).2) t

theorem after_concat (t : Telemetry) (before : List Config) (config : Config) :
    t.after (before ++ [config]) = ((t.after before).initialise config).2 := by
  simp [after]

/-- Each call returns what it returns where the calls before it have led. -/
theorem getElem?_initialiseAll (t : Telemetry) (configs : List Config) (k : Nat) :
    (t.initialiseAll configs)[k]? =
      configs[k]?.map fun config => ((t.after (configs.take k)).initialise config).1 := by
  induction configs generalizing t k with
  | nil => rfl
  | cons config rest ih =>
      cases k with
      | zero => rfl
      | succ k => exact ih (t.initialise config).2 k

/-- After any calls the process uses the output of the first configuration whose filter is valid. -/
theorem holds_after (configs : List Config) : Holds (firstValid? configs) (vacant.after configs) := by
  induction configs using List.reverseRecOn with
  | nil => exact .vacant
  | append_singleton before config ih =>
      rw [firstValid?_concat, after_concat]
      exact (ih.initialise config).1

theorem after_foreign (configs : List Config) : foreign.after configs = foreign := by
  induction configs using List.reverseRecOn with
  | nil => rfl
  | append_singleton before config ih =>
      rw [after_concat, ih]
      exact (initialise_foreign config).1

/-- Whatever the sequence of calls: in a process of their own, each of them returns what the first
configuration up to it with a valid filter demands, and that one's output, if there is one, is then
installed.  In a process that another part has taken, each of them fails and installs nothing. -/
theorem initialised_once (configs : List Config) (k : Fin configs.length) :
    (∃ result, (vacant.initialiseAll configs)[k.val]? = some result ∧
      Returns (firstValid? (configs.take (k + 1))) configs[k] result ∧
      Holds (firstValid? (configs.take (k + 1))) (vacant.after (configs.take (k + 1)))) ∧
    ∃ result, (foreign.initialiseAll configs)[k.val]? = some result ∧
      Denied configs[k] result ∧ foreign.after (configs.take (k + 1)) = foreign := by
  have hcall : configs[k.val]? = some configs[k] := List.getElem?_eq_getElem k.isLt
  have htake : configs.take (k + 1) = configs.take k ++ [configs[k]] := by
    rw [List.take_add_one, hcall, Option.toList_some]
  refine ⟨⟨((vacant.after (configs.take k)).initialise configs[k]).1, ?_, ?_, holds_after _⟩,
    ((foreign.after (configs.take k)).initialise configs[k]).1, ?_, ?_, after_foreign _⟩
  · rw [getElem?_initialiseAll, hcall, Option.map_some]
  · rw [htake, firstValid?_concat]
    exact ((holds_after _).initialise _).2
  · rw [getElem?_initialiseAll, hcall, Option.map_some]
  · rw [after_foreign]
    exact (initialise_foreign _).2

/-- A filter that is refused, two that are valid, and again the first. -/
example : vacant.initialiseAll [⟨"a=b", .json, "", false⟩, ⟨"info", .compact, "", false⟩,
      ⟨"warn", .json, "", false⟩, ⟨"a=b", .json, "", false⟩] =
    [.error (.filter "a=b" .unknownLevel), .ok .compact, .ok .compact, .ok .compact] := by
  decide +kernel

end Telemetry

end EditorSession.Log
