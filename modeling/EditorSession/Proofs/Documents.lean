import EditorSession.Proofs.Members
import EditorSession.Toml.Reader

/-! # The members of a document

A document names each of its members once, and so does every object that it holds as a value of its
own (`parse_neat`).  Values have this property as they are read (`value_neat`).  Tables are built
step by step, and a step puts at most one node under a key of the table in which it works: whatever
happens below that key, the node of a table stands for an object whose members are ordered, so that
no induction over the keys of a header is needed (`Members.Sound.change`). -/

namespace EditorSession.Toml

open Json (Neat neat_object neat_null neat_boolean neat_number neat_string neat_array
  neat_ofMembers)

/-! ### Values -/

theorem integer?_neat {n : Int} {v : Json} (h : integer? n = some v) : v.Neat := by
  unfold integer? at h
  split_ifs at h
  cases h
  exact neat_number _

theorem based?_neat {base : Nat} {cs : List Char} {v : Json} (h : based? base cs = some v) :
    v.Neat := by
  unfold based? at h
  simp only [Option.bind_eq_bind, Option.bind_eq_some_iff] at h
  obtain ⟨_, -, h⟩ := h
  exact integer?_neat h

theorem decimalNumber?_neat {n : Numeral} {v : Json} (h : decimalNumber? n = some v) : v.Neat := by
  unfold decimalNumber? at h
  simp only [Option.bind_eq_bind, Option.bind_eq_some_iff] at h
  obtain ⟨_, -, _, -, _, -, h⟩ := h
  split_ifs at h
  · exact integer?_neat h
  · obtain ⟨_, -, rfl⟩ := Option.map_eq_some_iff.mp h
    exact neat_number _

theorem number?_neat {cs : List Char} {v : Json} (h : number? cs = some v) : v.Neat := by
  unfold number? at h
  split at h
  · exact based?_neat h
  · exact based?_neat h
  · exact based?_neat h
  · dsimp only at h
    split_ifs at h
    · cases h
      exact neat_null
    · exact decimalNumber?_neat h

theorem Moment.toJson_neat (cs : List Char) : (Moment.toJson cs).Neat :=
  neat_object (List.nodup_singleton _)

theorem wordValue?_neat {cs : List Char} {v : Json} (h : wordValue? cs = some v) : v.Neat := by
  unfold wordValue? at h
  split_ifs at h
  · cases h
    exact neat_boolean _
  · cases h
    exact neat_boolean _
  · cases h
    exact Moment.toJson_neat cs
  · exact number?_neat h

theorem word_neat {cs rest : List Char} {v : Json} (h : word cs = some (v, rest)) : v.Neat := by
  have hword {cs rest' : List Char}
      (h : ((wordValue? cs).map fun value => (value, rest')) = some (v, rest)) : v.Neat := by
    obtain ⟨_, hv, heq⟩ := Option.map_eq_some_iff.mp h
    cases heq
    exact wordValue?_neat hv
  unfold word at h
  dsimp only at h
  split at h
  · split_ifs at h
    · cases h
      exact Moment.toJson_neat _
    · exact hword h
  · exact hword h

theorem inlineTable_neat {value : List Char → Option (Json × List Char)} {cs rest : List Char}
    {v : Json} (h : inlineTable value cs = some (v, rest)) : v.Neat := by
  unfold inlineTable at h
  split at h
  · cases h
    exact neat_object List.nodup_nil
  · simp only [Option.bind_eq_bind, Option.bind_eq_some_iff] at h
    obtain ⟨_, -, _, -, h⟩ := h
    cases h
    exact neat_ofMembers _

/-- Only braces and moments make an object. -/
theorem value_neat {room : Nat} {cs rest : List Char} {v : Json}
    (h : value room cs = some (v, rest)) : v.Neat := by
  unfold value at h
  split at h
  · obtain ⟨_, -, heq⟩ := Option.map_eq_some_iff.mp h
    cases heq
    exact neat_string _
  · split at h
    · obtain ⟨_, -, heq⟩ := Option.map_eq_some_iff.mp h
      cases heq
      exact neat_array _
    · exact inlineTable_neat h
    · exact word_neat h

/-! ### Tables -/

theorem Node.toJson_table_neat (opening : Opening) (members : Members) :
    (Node.table opening members).toJson.Neat := by
  rw [Node.toJson]
  exact neat_ofMembers _

theorem Node.toJson_tables_neat (newest : Members) (older : List Members) :
    (Node.tables newest older).toJson.Neat := by
  rw [Node.toJson]
  exact neat_array _

namespace Members

/-- Each key stands once, and what stands under it is neat. -/
structure Sound (members : Members) : Prop where
  nodup : (members.map Prod.fst).Nodup
  neat : ∀ m ∈ members, m.2.toJson.Neat

theorem sound_nil : Sound [] := ⟨List.nodup_nil, fun _ h => absurd h List.not_mem_nil⟩

theorem mem_of_mem_set {key : String} {node : Node} {members : Members} {m : String × Node}
    (h : m ∈ set key node members) : m = (key, node) ∨ m ∈ members := by
  induction members with
  | nil => exact .inl (List.mem_singleton.mp h)
  | cons first rest ih =>
      unfold set at h
      split_ifs at h
      · exact (List.mem_cons.mp h).imp_right (List.mem_cons_of_mem _)
      · rcases List.mem_cons.mp h with h | h
        · exact .inr (h ▸ List.mem_cons_self)
        · exact (ih h).imp_right (List.mem_cons_of_mem _)

theorem Sound.set {key : String} {node : Node} {members : Members} (h : Sound members)
    (hn : node.toJson.Neat) : Sound (set key node members) := by
  refine ⟨?_, fun m hm => ?_⟩
  · have hd := h.nodup
    clear h
    induction members with
    | nil => exact List.nodup_singleton _
    | cons first rest ih =>
        rw [List.map_cons, List.nodup_cons] at hd
        unfold Members.set
        split_ifs with heq
        · exact List.nodup_cons.mpr ⟨heq ▸ hd.1, hd.2⟩
        · refine List.nodup_cons.mpr ⟨fun hmem => ?_, ih hd.2⟩
          obtain ⟨m, hm, hfirst⟩ := List.mem_map.mp hmem
          rcases mem_of_mem_set hm with rfl | hm
          · exact heq hfirst.symm
          · exact hd.1 (List.mem_map.mpr ⟨m, hm, hfirst⟩)
  · rcases mem_of_mem_set hm with rfl | hm
    · exact hn
    · exact h.neat m hm

variable {members changed : Members}

/-- A change in a table further down only puts a new table under the first key. -/
theorem Sound.change {f : Members → Option Members} {path : List String} (h : Sound members)
    (hf : ∀ ms, f members = some ms → Sound ms)
    (hc : Members.change f path members = some changed) : Sound changed := by
  cases path with
  | nil => exact hf changed (by simpa only [Members.change] using hc)
  | cons key rest =>
      rw [Members.change] at hc
      split at hc
      · obtain ⟨_, -, rfl⟩ := Option.map_eq_some_iff.mp hc
        exact h.set (Node.toJson_table_neat _ _)
      · obtain ⟨_, -, rfl⟩ := Option.map_eq_some_iff.mp hc
        exact h.set (Node.toJson_table_neat _ _)
      · obtain ⟨_, -, rfl⟩ := Option.map_eq_some_iff.mp hc
        exact h.set (Node.toJson_tables_neat _ _)
      · cases hc

theorem Sound.openTable {key : String} (h : Sound members)
    (ho : Members.openTable key members = some changed) : Sound changed := by
  unfold Members.openTable at ho
  split at ho
  · cases ho
    exact h.set (Node.toJson_table_neat _ _)
  · cases ho
    exact h.set (Node.toJson_table_neat _ _)
  · cases ho

theorem Sound.addTable {key : String} (h : Sound members)
    (ha : Members.addTable key members = some changed) : Sound changed := by
  unfold Members.addTable at ha
  split at ha
  · cases ha
    exact h.set (Node.toJson_tables_neat _ _)
  · cases ha
    exact h.set (Node.toJson_tables_neat _ _)
  · cases ha

theorem Sound.atLast {f : String → Members → Option Members} {path : List String}
    (h : Sound members) (hf : ∀ key ms, f key members = some ms → Sound ms)
    (ha : Members.atLast f path members = some changed) : Sound changed := by
  unfold Members.atLast at ha
  split at ha
  · cases ha
  · exact h.change (hf _) ha

theorem Sound.assign {value : Json} {path : List String} (h : Sound members) (hv : value.Neat)
    (ha : Members.assign value path members = some changed) : Sound changed := by
  match path with
  | [] => cases ha
  | [key] =>
      rw [Members.assign] at ha
      split_ifs at ha
      cases ha
      exact h.set (by rwa [Node.toJson])
  | key :: next :: rest =>
      rw [Members.assign] at ha
      split at ha
      · obtain ⟨_, -, rfl⟩ := Option.map_eq_some_iff.mp ha
        exact h.set (Node.toJson_table_neat _ _)
      · obtain ⟨_, -, rfl⟩ := Option.map_eq_some_iff.mp ha
        exact h.set (Node.toJson_table_neat _ _)
      · split_ifs at ha
        obtain ⟨_, -, rfl⟩ := Option.map_eq_some_iff.mp ha
        exact h.set (Node.toJson_table_neat _ _)
      · split_ifs at ha
        obtain ⟨_, -, rfl⟩ := Option.map_eq_some_iff.mp ha
        exact h.set (Node.toJson_tables_neat _ _)
      · cases ha
      · cases ha

theorem toJson_eq_map (members : Members) :
    Members.toJson members = members.map fun m => (m.1, m.2.toJson) := by
  induction members with
  | nil => rw [Members.toJson]; rfl
  | cons m rest ih => rw [Members.toJson, ih]; rfl

end Members

/-! ### Statements -/

/-- What a statement assigns is neat. -/
def Statement.Sound : Statement → Prop
  | .assignment _ value => value.Neat
  | .table _ | .element _ => True

theorem pair_neat {room : Nat} {cs rest : List Char} {path : List String} {v : Json}
    (h : pair (value room) cs = some ((path, v), rest)) : v.Neat := by
  unfold pair at h
  simp only [Option.bind_eq_bind, Option.bind_eq_some_iff] at h
  obtain ⟨_, -, h⟩ := h
  split at h
  · obtain ⟨_, hv, h⟩ := Option.bind_eq_some_iff.mp h
    cases h
    exact value_neat hv
  · cases h

theorem statement_sound {cs rest : List Char} {s : Statement}
    (h : statement cs = some (s, rest)) : s.Sound := by
  unfold statement at h
  split at h
  · split at h
    · cases h
      trivial
    · cases h
  · split at h
    · cases h
      trivial
    · cases h
  · obtain ⟨_, hpair, heq⟩ := Option.map_eq_some_iff.mp h
    cases heq
    exact pair_neat hpair

theorem statements_sound {fuel : Nat} {cs : List Char} {found : List Statement}
    (h : statements fuel cs = some found) : ∀ s ∈ found, s.Sound := by
  induction fuel generalizing cs found with
  | zero => cases h
  | succ fuel ih =>
      rw [statements] at h
      split at h
      · cases h
        exact fun _ hs => absurd hs List.not_mem_nil
      · simp only [Option.bind_eq_bind, Option.bind_eq_some_iff] at h
        obtain ⟨_, hfirst, _, -, rest, hrest, h⟩ := h
        cases h
        exact List.forall_mem_cons.mpr ⟨statement_sound hfirst, ih hrest⟩

/-! ### Documents -/

theorem Draft.sound_add {d d' : Draft} {s : Statement} (h : d.members.Sound) (hs : s.Sound)
    (ha : d.add s = some d') : d'.members.Sound := by
  cases s with
  | table path =>
      obtain ⟨_, hchange, rfl⟩ := Option.map_eq_some_iff.mp ha
      exact h.atLast (fun _ _ => h.openTable) hchange
  | element path =>
      obtain ⟨_, hchange, rfl⟩ := Option.map_eq_some_iff.mp ha
      exact h.atLast (fun _ _ => h.addTable) hchange
  | assignment path value =>
      obtain ⟨_, hchange, rfl⟩ := Option.map_eq_some_iff.mp ha
      exact h.change (fun _ => h.assign hs) hchange

theorem Draft.sound_foldlM {d d' : Draft} {found : List Statement} (h : d.members.Sound)
    (hs : ∀ s ∈ found, s.Sound) (hf : found.foldlM Draft.add d = some d') : d'.members.Sound := by
  induction found generalizing d with
  | nil =>
      cases hf
      exact h
  | cons s rest ih =>
      rw [List.forall_mem_cons] at hs
      obtain ⟨next, hnext, hf⟩ := Option.bind_eq_some_iff.mp hf
      exact ih (Draft.sound_add h hs.1 hnext) hs.2 hf

/-- A document names each member once, and so does every object under one of its keys. -/
theorem parse_neat {text : String} {members : List (String × Json)}
    (h : parse text = some members) :
    (members.map Prod.fst).Nodup ∧ ∀ m ∈ members, m.2.Neat := by
  unfold parse at h
  simp only [Option.bind_eq_bind, Option.bind_eq_some_iff] at h
  obtain ⟨found, hfound, draft, hdraft, h⟩ := h
  have hsound := Draft.sound_foldlM Members.sound_nil (statements_sound hfound) hdraft
  split_ifs at h
  cases h
  rw [Members.toJson_eq_map]
  refine ⟨by rw [List.map_map]; exact hsound.nodup, fun _ hm => ?_⟩
  obtain ⟨m, hm', rfl⟩ := List.mem_map.mp hm
  exact hsound.neat m hm'

end EditorSession.Toml
