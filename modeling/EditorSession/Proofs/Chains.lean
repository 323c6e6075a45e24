import EditorSession.Proofs.Merging
import EditorSession.Proofs.Sources

/-! # The loader that runs

The loader that runs keeps the laws of loaders (`Config.loader_laws`).  What is left to prove after
the layers of its sources is that the files whose layers it finds are those that are used: the first
candidate that loads, and the files that this one extends one after the other
(`FileTree.exists_chain`, `FileTree.exists_uses`). -/

namespace EditorSession

open Config (loader selected? document?)

/-! ### The files that are used -/

namespace FileTree

variable {t : FileTree} {place : Location} {document : Document} {layers : List Layer}

theorem document?_eq_some {content : String} (hfile : t.content? place = some content)
    (hread : FileTree.document place content = .ok document) :
    document? t place = some document := by
  rw [document?, hfile, Option.bind_some, hread]
  rfl

theorem base?_eq {base? : Option Location} (hbase : t.base? place document = .ok base?) :
    loader.base? t place document = base? := by
  show (t.base? place document).toOption.join = base?
  rw [hbase]
  rfl

/-- The layers of a chain are those of a file and of the files that it extends, the lowest first. -/
theorem exists_chain {visited : List Location} (h : t.chain visited place = .ok layers) :
    ∃ chain, loader.Chain t place chain ∧ layers = (chain.map loader.fileLayer).reverse := by
  fun_induction t.chain visited place generalizing layers with
  | case1 | case2 | case3 | case4 | case6 => cases h
  | case5 visited place _ content hfile members hread hbase =>
      cases h
      exact ⟨[(place, members)], .last (document?_eq_some hfile hread) (base?_eq hbase), rfl⟩
  | case7 visited place _ content hfile members hread base hbase below hbelow ih =>
      cases h
      obtain ⟨chain, hchain, rfl⟩ := ih hbelow
      refine ⟨(place, members) :: chain,
        .extending (document?_eq_some hfile hread) (base?_eq hbase) hchain, ?_⟩
      rw [List.map_cons, List.reverse_cons]
      rfl

theorem layers_eq_ok_iff {path : String} :
    t.layers path = .ok layers ↔ ∃ place, t.filePlace path = .ok place ∧
      t.chain [] place = .ok layers := by
  unfold FileTree.layers
  cases t.filePlace path <;> simp

theorem exists_layers_eq_error_of_isMissing {path : String} (h : t.isMissing path = true) :
    ∃ e, t.layers path = .error e := by
  unfold isMissing at h
  unfold FileTree.layers
  cases hplace : t.filePlace path with
  | ok place => simp [hplace] at h
  | error fault => exact ⟨_, rfl⟩

/-- A search finds the layers of the files that are used. -/
theorem exists_uses (t : FileTree) (candidates : List Candidate) :
    ∃ chain, loader.Uses t (selected? t candidates) chain ∧
      (Config.search t candidates).layers = (chain.map loader.fileLayer).reverse := by
  induction candidates with
  | nil => exact ⟨[], .nothing, rfl⟩
  | cons c rest ih =>
      cases hlayers : t.layers c.path with
      | ok layers =>
          obtain ⟨place, hplace, hread⟩ := layers_eq_ok_iff.mp hlayers
          obtain ⟨chain, hchain, rfl⟩ := exists_chain hread
          have hselected : selected? t (c :: rest) = some place := by
            simp [selected?, hlayers, hplace, Except.toOption]
          have hpresent : ¬ (!c.required && t.isMissing c.path) = true := by
            intro hmissing
            rw [Bool.and_eq_true] at hmissing
            obtain ⟨e, herror⟩ := exists_layers_eq_error_of_isMissing hmissing.2
            cases herror.symm.trans hlayers
          refine ⟨chain, hselected ▸ .selected hchain, ?_⟩
          rw [Config.search, if_neg hpresent, hlayers]
      | error e =>
          have hselected : selected? t (c :: rest) = selected? t rest := by
            simp [selected?, hlayers, Except.toOption]
          obtain ⟨chain, huses, hsearch⟩ := ih
          refine ⟨chain, hselected ▸ huses, ?_⟩
          rw [← hsearch, Config.search, hlayers]
          split_ifs <;> rfl

end FileTree

/-! ### The laws -/

namespace Config

variable {arguments : List String} {env : Environment} {tree : FileTree} {config : Config}

/-- A configuration is loaded when no source fails and the layers make it. -/
theorem load_eq_ok_iff : load arguments env tree = .ok config ↔
    ∃ line, CommandLine.parse arguments = .ok line ∧
      (search tree (candidates line env tree)).errors = [] ∧
      ofLayers ((search tree (candidates line env tree)).layers ++ [env.layer] ++ [line.layer]) =
        .ok config := by
  unfold load
  cases hline : CommandLine.parse arguments with
  | error e =>
      refine iff_of_false (fun h => ?_) (by simp)
      simp only [sources, hline, List.cons_append] at h
      split at h <;> simp_all
  | ok line =>
      have hsources : sources arguments env tree =
          ⟨(search tree (candidates line env tree)).layers ++ [env.layer] ++ [line.layer],
            (search tree (candidates line env tree)).errors.map .file⟩ := by
        simp only [sources, hline, List.nil_append]
        rfl
      simp only [hsources, Except.ok.injEq, exists_eq_left']
      cases herrors : (search tree (candidates line env tree)).errors with
      | nil => cases ofLayers _ <;> simp
      | cons e rest => cases ofLayers _ <;> simp

theorem loader_load_ok (h : load arguments env tree = .ok config) :
    ∃ line chain, loader.line? arguments = some line ∧
      loader.Uses tree (loader.selected? line env tree) chain ∧
      loader.merger.merge (loader.layers line env chain) = .ok config := by
  obtain ⟨line, hline, -, hmerge⟩ := load_eq_ok_iff.mp h
  obtain ⟨chain, huses, hsearch⟩ := tree.exists_uses (candidates line env tree)
  refine ⟨line, chain, ?_, huses, ?_⟩
  · show (CommandLine.parse arguments).toOption = some line
    rw [hline]
    rfl
  · rw [hsearch, List.append_assoc] at hmerge
    exact hmerge

theorem loader_laws : loader.Laws where
  merger := merger_laws
  key?_variable := by decide +kernel
  decode_neat := Environment.decode_neat
  document_neat _ _ _ h := (FileTree.document_neat h).2
  lineLayer_holds := CommandLine.layer_holds
  environmentLayer_holds _ := Environment.layer_holds
  fileLayer_holds _ _ _ h := FileTree.layer_holds (FileTree.document_neat h).1
  load_ok _ _ _ _ := loader_load_ok

end Config

end EditorSession
