import EditorSession.Proofs.Convergence

/-! # Paths through a tree of values

A path leads through nested objects, and no further than that (`Json.Leads`).  What a lookup finds is
what the path leads to, unless that is null (`Json.lookup_eq_some_iff`).  But for the empty path a
lookup is a fold over the keys (`Json.lookup_eq_foldlM`), so it can be made in two steps, and nothing
is found below what is no object (`Json.lookup_composes`).  A tree with one leaf has one path that
leads to a boolean (`Json.leads_leafAt_iff`).  A method name is told from all others by its segments,
which are the texts without a slash that make up the name when slashes are put between them
(`Method.segments_eq_iff`).  Hence a client that declares support for one method supports that method
and no other (`Capabilities.supported_per_method`). -/

namespace EditorSession

/-! ### Lookup -/

namespace Json

open Session (leafAt)

/-- The path leads from the first value to the second, through one object for each of its keys. -/
inductive Leads : Json → List String → Json → Prop
  | here (value : Json) : Leads value [] value
  | down {members : List (String × Json)} {key : String} {child value : Json}
      {rest : List String} : find key members = some child → Leads child rest value →
      Leads (.object members) (key :: rest) value

variable {tree value value' : Json} {key : String} {path rest front back : List String}

theorem leads_nil_iff : tree.Leads [] value ↔ value = tree := by
  constructor
  · rintro ⟨⟩
    rfl
  · rintro rfl
    exact .here _

theorem leads_cons_iff :
    tree.Leads (key :: rest) value ↔ ∃ child, tree.member? key = some child ∧
      child.Leads rest value := by
  constructor
  · rintro ⟨⟩
    next hfind hrest => exact ⟨_, hfind, hrest⟩
  · rintro ⟨child, hmember, hrest⟩
    cases tree with
    | object members => exact .down hmember hrest
    | _ => cases hmember

theorem leads_append_iff :
    tree.Leads (front ++ back) value ↔ ∃ middle, tree.Leads front middle ∧
      middle.Leads back value := by
  induction front generalizing tree with
  | nil => simp only [List.nil_append, leads_nil_iff, exists_eq_left]
  | cons key front ih =>
      simp only [List.cons_append, leads_cons_iff, ih]
      constructor
      · rintro ⟨child, hmember, middle, hfront, hback⟩
        exact ⟨middle, ⟨child, hmember, hfront⟩, hback⟩
      · rintro ⟨middle, ⟨child, hmember, hfront⟩, hback⟩
        exact ⟨child, hmember, middle, hfront, hback⟩

/-- A path leads to one value at most. -/
theorem leads_unique (h : tree.Leads path value) (h' : tree.Leads path value') :
    value = value' := by
  induction h with
  | here => exact (leads_nil_iff.mp h').symm
  | down hfind hrest ih =>
      obtain ⟨child, hmember, hchild⟩ := leads_cons_iff.mp h'
      obtain rfl := Option.some.inj (hfind.symm.trans hmember)
      exact ih hchild

/-- Nothing is below a value that is no object. -/
theorem exists_members_of_leads_cons (h : tree.Leads (key :: rest) value) :
    ∃ members, tree = .object members := by
  cases h
  exact ⟨_, rfl⟩

/-- Nothing is below a null. -/
theorem ne_null_of_leads_cons (h : tree.Leads (key :: rest) value) : tree ≠ .null := by
  obtain ⟨members, rfl⟩ := exists_members_of_leads_cons h
  simp

/-- A lookup finds what the path leads to, unless the path is empty or leads to null. -/
theorem lookup_eq_some_iff :
    tree.lookup path = some value ↔ path ≠ [] ∧ value ≠ .null ∧ tree.Leads path value := by
  induction path generalizing tree with
  | nil => simp
  | cons key rest ih =>
      rw [leads_cons_iff]
      cases rest with
      | nil =>
          rw [lookup_singleton, child?_eq_some_iff]
          simp only [leads_nil_iff, exists_eq_right', ne_eq, List.cons_ne_nil, not_false_eq_true,
            true_and]
          exact And.comm
      | cons next rest =>
          rw [lookup_cons_cons, Option.bind_eq_some_iff]
          constructor
          · rintro ⟨child, hchild, hlookup⟩
            obtain ⟨-, hvalue, hleads⟩ := ih.mp hlookup
            exact ⟨List.cons_ne_nil _ _, hvalue, child, (child?_eq_some_iff.mp hchild).1, hleads⟩
          · rintro ⟨-, hvalue, child, hmember, hleads⟩
            have hchild := child?_eq_some_iff.mpr ⟨hmember, ne_null_of_leads_cons hleads⟩
            exact ⟨child, hchild, ih.mpr ⟨List.cons_ne_nil _ _, hvalue, hleads⟩⟩

/-- A lookup goes from child to child along the keys of the path.  The empty path is the exception:
the fold ends at the tree itself there, and the lookup finds nothing. -/
theorem lookup_eq_foldlM (hpath : path ≠ []) :
    tree.lookup path = path.foldlM (fun node key => node.child? key) tree := by
  induction path generalizing tree with
  | nil => exact absurd rfl hpath
  | cons key rest ih =>
      rw [List.foldlM_cons]
      cases rest with
      | nil => exact (Option.bind_fun_some _).symm
      | cons next rest =>
          rw [lookup_cons_cons]
          exact Option.bind_congr fun child _ => ih (List.cons_ne_nil _ _)

theorem lookup_append (hfront : front ≠ []) (hback : back ≠ []) :
    tree.lookup (front ++ back) = (tree.lookup front).bind fun middle => middle.lookup back := by
  have happend : front ++ back ≠ [] := List.append_ne_nil_of_left_ne_nil hfront back
  -- The fold composes along any two paths; only for those that are not empty is it a lookup.
  rw [lookup_eq_foldlM happend, lookup_eq_foldlM hfront, List.foldlM_append]
  exact Option.bind_congr fun middle _ => (lookup_eq_foldlM hback).symm

theorem isSome_lookup_of_append (hfront : front ≠ [])
    (h : (tree.lookup (front ++ back)).isSome = true) : (tree.lookup front).isSome = true := by
  by_cases hback : back = []
  · rwa [hback, List.append_nil] at h
  · rw [lookup_append hfront hback] at h
    exact Option.isSome_of_isSome_bind h

/-- A path that goes on below a value that is no object finds nothing. -/
theorem lookup_append_eq_none (h : tree.Leads front value)
    (hobject : ∀ members, value ≠ .object members) (hback : back ≠ []) :
    tree.lookup (front ++ back) = none := by
  refine Option.eq_none_iff_forall_ne_some.mpr fun found hfound => ?_
  -- The value need not be found itself (the front may be empty, or lead to a null), so the argument
  -- is on what the paths lead to.
  obtain ⟨middle, hfront, hleads⟩ := leads_append_iff.mp (lookup_eq_some_iff.mp hfound).2.2
  obtain rfl := leads_unique h hfront
  obtain ⟨key, rest, rfl⟩ := List.exists_cons_of_ne_nil hback
  obtain ⟨members, hmembers⟩ := exists_members_of_leads_cons hleads
  exact hobject members hmembers

/-- Along two paths, one behind the other, a lookup finds what the second path finds in what the
first one finds.  It never finds null, and nothing along the empty path; it finds exactly what the
path leads to through nested objects, unless that is null.  Hence something is found along each
front of a path along which something is found, and nothing below an array, a scalar or a null. -/
theorem lookup_composes (tree : Json) :
    (∀ front back, front ≠ [] → back ≠ [] →
      tree.lookup (front ++ back) = (tree.lookup front).bind fun middle => middle.lookup back) ∧
    (∀ path, tree.lookup path ≠ some .null) ∧
    tree.lookup [] = none ∧
    (∀ path value, tree.lookup path = some value ↔
      path ≠ [] ∧ value ≠ .null ∧ tree.Leads path value) ∧
    (∀ front path, front <+: path → front ≠ [] → (tree.lookup path).isSome = true →
      (tree.lookup front).isSome = true) ∧
    ∀ front back value, tree.Leads front value → (∀ members, value ≠ .object members) →
      back ≠ [] → tree.lookup (front ++ back) = none := by
  refine ⟨fun front back => lookup_append, ?_, lookup_nil tree,
    fun path value => lookup_eq_some_iff, ?_, fun front back value => lookup_append_eq_none⟩
  · intro path hnull
    exact (lookup_eq_some_iff.mp hnull).2.1 rfl
  · rintro front path ⟨back, rfl⟩ hfront hpath
    exact isSome_lookup_of_append hfront hpath

/-- An object with objects, an array and a null below it. -/
def nested : Json :=
  .object [("a", .object [("b", .object [("c", int 3)]), ("n", .null)]),
    ("list", .array [int 1, int 2])]

theorem lookup_composes_of_nested :
    nested.lookup ["a", "b", "c"] = some (int 3) ∧
      ((nested.lookup ["a", "b"]).bind fun middle => middle.lookup ["c"]) = some (int 3) ∧
      nested.Leads ["a", "b", "c"] (int 3) ∧ (nested.lookup ["a"]).isSome = true ∧
      nested.Leads ["list"] (.array [int 1, int 2]) ∧ nested.lookup ["list", "0"] = none ∧
      nested.Leads ["a", "n"] .null ∧ nested.lookup ["a", "n", "x"] = none := by
  obtain ⟨happend, -, -, hfound, hfronts, hbelow⟩ := lookup_composes nested
  have hdeep : nested.lookup ["a", "b", "c"] = some (int 3) := by decide
  have hfront : ["a"] <+: ["a", "b", "c"] := ⟨["b", "c"], rfl⟩
  have harray : nested.Leads ["list"] (.array [int 1, int 2]) := .down rfl (.here _)
  have hnull : nested.Leads ["a", "n"] .null := .down rfl (.down rfl (.here _))
  refine ⟨hdeep, ?_, ((hfound _ _).mp hdeep).2.2, ?_, harray, ?_, hnull, ?_⟩
  · rw [← happend ["a", "b"] ["c"] (by simp) (by simp)]
    exact hdeep
  · exact hfronts _ _ hfront (by simp) (by rw [hdeep]; rfl)
  · exact hbelow ["list"] ["0"] _ harray (by simp) (by simp)
  · exact hbelow ["a", "n"] ["x"] _ hnull (by simp) (by simp)

/-! ### Booleans -/

theorem lookupBool_eq_some_iff {b : Bool} (hpath : path ≠ []) :
    tree.lookupBool path = some b ↔ tree.Leads path (.boolean b) := by
  have hfound : tree.lookup path = some (.boolean b) ↔ tree.Leads path (.boolean b) := by
    rw [lookup_eq_some_iff]
    exact ⟨fun h => h.2.2, fun h => ⟨hpath, by simp, h⟩⟩
  rw [← hfound, lookupBool, Option.bind_eq_some_iff]
  constructor
  · rintro ⟨found, hlookup, hb⟩
    cases found with
    | boolean c =>
        cases hb
        exact hlookup
    | _ => cases hb
  · exact fun h => ⟨_, h, rfl⟩

/-- In a tree with one leaf, only the path to the leaf leads to a boolean. -/
theorem leads_leafAt_iff {b c : Bool} {other : List String} :
    (leafAt path (.boolean b)).Leads other (.boolean c) ↔ other = path ∧ c = b := by
  induction path generalizing other with
  | nil =>
      cases other with
      | nil => simp [leafAt, leads_nil_iff]
      | cons key rest => simp [leafAt, leads_cons_iff, member?]
  | cons key path ih =>
      cases other with
      | nil => simp [leafAt, leads_nil_iff]
      | cons next rest =>
          have hmember : ∀ child, (leafAt (key :: path) (.boolean b)).member? next = some child ↔
              key = next ∧ leafAt path (.boolean b) = child := by
            intro child
            simp [leafAt, member?, find]
          simp only [leads_cons_iff, hmember, and_assoc, exists_and_left, exists_eq_left', ih,
            List.cons.injEq, eq_comm (a := key)]

end Json

/-! ### Segments of a method name -/

theorem Text.pieces_eq_splitOn (separator : Char) (cs : List Char) :
    pieces separator cs = cs.splitOn separator := by
  induction cs with
  | nil => rfl
  | cons c cs ih =>
      rw [List.splitOn_cons_eq_if_modifyHead, ← ih]
      obtain ⟨piece, rest, hpieces⟩ := List.exists_cons_of_ne_nil (pieces_ne_nil separator cs)
      by_cases hc : c = separator
      · simp [pieces, hc]
      · simp [pieces, hc, hpieces]

theorem Text.not_mem_of_mem_pieces {separator : Char} {cs piece : List Char}
    (h : piece ∈ pieces separator cs) : separator ∉ piece := by
  induction cs generalizing piece with
  | nil =>
      rw [List.mem_singleton.mp h]
      exact List.not_mem_nil
  | cons c cs ih =>
      obtain ⟨first, rest, hpieces⟩ := List.exists_cons_of_ne_nil (pieces_ne_nil separator cs)
      by_cases hc : c = separator
      · have hcases : piece = [] ∨ piece ∈ pieces separator cs := by simpa [pieces, hc] using h
        rcases hcases with rfl | hmem
        · exact List.not_mem_nil
        · exact ih hmem
      · have hcases : piece = c :: first ∨ piece ∈ rest := by simpa [pieces, hc, hpieces] using h
        rw [hpieces] at ih
        rcases hcases with rfl | hmem
        · have hfirst : separator ∉ first := ih List.mem_cons_self
          simp [hfirst, Ne.symm hc]
        · exact ih (List.mem_cons_of_mem _ hmem)

namespace Method

/-- The segments of a name are the texts without a slash that give the name when slashes are put
between them. -/
theorem segments_eq_iff {method : String} {names : List String} :
    segments method = names ↔ names ≠ [] ∧ (∀ name ∈ names, '/' ∉ name.toList) ∧
      "/".intercalate names = method := by
  constructor
  · rintro rfl
    refine ⟨segments_ne_nil method, ?_, ?_⟩
    · intro name hname
      obtain ⟨piece, hpiece, rfl⟩ := List.mem_map.mp hname
      rw [String.toList_ofList]
      exact Text.not_mem_of_mem_pieces hpiece
    · have hsplit : (segments method).map String.toList = method.toList.splitOn '/' := by
        simp [segments, Text.pieces_eq_splitOn, Function.comp_def]
      rw [← String.toList_inj, String.toList_intercalate, hsplit]
      exact List.intercalate_splitOn '/'
  · rintro ⟨hne, hslash, rfl⟩
    have hjoined : ("/".intercalate names).toList = ['/'].intercalate (names.map String.toList) :=
      String.toList_intercalate
    have hsplit : ("/".intercalate names).toList.splitOn '/' = names.map String.toList := by
      rw [hjoined]
      exact List.splitOn_intercalate '/' (List.forall_mem_map.mpr hslash) (by simpa using hne)
    rw [segments, Text.pieces_eq_splitOn, hsplit, List.map_map]
    simp [Function.comp_def]

theorem segments_injective : Function.Injective segments := by
  intro m m' h
  rw [← (segments_eq_iff.mp (Eq.refl (segments m))).2.2, h]
  exact (segments_eq_iff.mp rfl).2.2

end Method

/-! ### Methods that may be registered -/

namespace Capabilities

/-- The client declares that one method may be registered. -/
def declaring (method : String) : Capabilities :=
  ⟨Session.leafAt (Method.segments method) (.object [(dynamicRegistrationKey, .boolean true)])⟩

theorem supportsDynamicRegistration_iff {c : Capabilities} {method : String} :
    c.supportsDynamicRegistration method = true ↔
      c.tree.Leads (registrationPath method) (.boolean true) := by
  have hpath : registrationPath method ≠ [] := List.append_ne_nil_of_right_ne_nil _ (by simp)
  rw [← Json.lookupBool_eq_some_iff hpath]
  exact decide_eq_true_iff

/-- Methods are supported one by one.  A method name is made up of its segments and of nothing else,
slashes at its ends and next to each other included; a client that declares support for one method
supports no other; and any client supports a method exactly where its segments, and the key behind
them, lead to true. -/
theorem supported_per_method (method : String) :
    (∀ names, Method.segments method = names ↔ names ≠ [] ∧
      (∀ name ∈ names, '/' ∉ name.toList) ∧ "/".intercalate names = method) ∧
    (∀ other, (declaring method).supportsDynamicRegistration other = true ↔ other = method) ∧
    ∀ c : Capabilities, c.supportsDynamicRegistration method = true ↔
      c.tree.Leads (Method.segments method ++ ["dynamicRegistration"]) (.boolean true) := by
  refine ⟨fun names => Method.segments_eq_iff, fun other => ?_,
    fun c => supportsDynamicRegistration_iff⟩
  have hdeclared : (declaring method).tree =
      Session.leafAt (registrationPath method) (.boolean true) := by
    simp [declaring, Session.leafAt, registrationPath]
  rw [supportsDynamicRegistration_iff, hdeclared, Json.leads_leafAt_iff]
  simp only [registrationPath, List.append_left_inj, and_true]
  exact Method.segments_injective.eq_iff

example : (declaring "a//").supportsDynamicRegistration "a//" = true ∧
    (declaring "a//").supportsDynamicRegistration "a/" = false ∧
    (declaring "a").supportsDynamicRegistration "a/dynamicRegistration" = false := by decide

end Capabilities

end EditorSession
