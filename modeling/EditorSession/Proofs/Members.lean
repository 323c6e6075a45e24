import EditorSession.Json.Basic
import Mathlib.Data.List.Nodup
import Mathlib.Data.List.Perm.Basic

/-! # Members in the order of their names

Members in ascending order of their names name each of them once (`Ordered.nodup`), and inserting
keeps the order (`Ordered.insert`).  They are known once it is known what each name holds
(`Ordered.eq_of_find`). -/

namespace EditorSession.Json

/-! ### The order of names -/

theorem precedes_cons_iff {c d : Char} {cs ds : List Char} : precedes (c :: cs) (d :: ds) = true ↔
    c.toNat < d.toNat ∨ c.toNat = d.toNat ∧ precedes cs ds = true := by
  show (if c.toNat < d.toNat then true else if d.toNat < c.toNat then false else precedes cs ds)
    = true ↔ _
  rcases Nat.lt_trichotomy c.toNat d.toNat with hlt | heq | hgt
  · simp [hlt]
  · simp [heq]
  · simp [hgt, Nat.lt_asymm hgt, Nat.ne_of_gt hgt]

theorem precedes_irrefl (cs : List Char) : precedes cs cs = false := by
  induction cs with
  | nil => rfl
  | cons c cs ih => simp [precedes, ih]

theorem precedes_trans {a b c : List Char} (hab : precedes a b = true)
    (hbc : precedes b c = true) : precedes a c = true := by
  induction a generalizing b c with
  | nil =>
      cases c with
      | nil => simp [precedes] at hbc
      | cons z c => rfl
  | cons x a ih =>
      cases b with
      | nil => simp [precedes] at hab
      | cons y b =>
          cases c with
          | nil => simp [precedes] at hbc
          | cons z c =>
              rw [precedes_cons_iff] at hab hbc ⊢
              rcases hab with hxy | ⟨hxy, hab⟩
              · exact .inl (by omega)
              · rcases hbc with hyz | ⟨hyz, hbc⟩
                · exact .inl (by omega)
                · exact .inr ⟨hxy.trans hyz, ih hab hbc⟩

theorem precedes_total {a b : List Char} (h : a ≠ b) :
    precedes a b = true ∨ precedes b a = true := by
  induction a generalizing b with
  | nil =>
      cases b with
      | nil => exact absurd rfl h
      | cons d b => exact .inl rfl
  | cons c a ih =>
      cases b with
      | nil => exact .inr rfl
      | cons d b =>
          rw [precedes_cons_iff, precedes_cons_iff]
          rcases Nat.lt_trichotomy c.toNat d.toNat with hlt | heq | hgt
          · exact .inl (.inl hlt)
          · have hrest : a ≠ b := fun hab => h (by rw [Char.toNat_inj.mp heq, hab])
            exact (ih hrest).imp (fun h => .inr ⟨heq, h⟩) (fun h => .inr ⟨heq.symm, h⟩)
          · exact .inr (.inl hgt)

/-! ### Ordered members -/

variable {members base : List (String × Json)} {name key : String} {value : Json}

theorem neat_object (hd : (members.map Prod.fst).Nodup) : (object members).Neat := by
  rintro _ ⟨⟩
  exact hd

theorem neat_of_not_object (h : ∀ members, value ≠ object members) : value.Neat :=
  fun members hv => absurd hv (h members)

theorem neat_null : null.Neat := neat_of_not_object (by simp)

theorem neat_boolean (b : Bool) : (boolean b).Neat := neat_of_not_object (by simp)

theorem neat_number (n : Json.Number) : (number n).Neat := neat_of_not_object (by simp)

theorem neat_string (s : String) : (string s).Neat := neat_of_not_object (by simp)

theorem neat_array (items : List Json) : (array items).Neat := neat_of_not_object (by simp)

theorem Ordered.nodup (h : Ordered members) : (members.map Prod.fst).Nodup := by
  refine List.Pairwise.map Prod.fst (fun m m' hm heq => ?_) h
  rw [heq, precedes_irrefl] at hm
  cases hm

theorem ordered_singleton (name : String) (value : Json) : Ordered [(name, value)] :=
  List.pairwise_singleton _ _

theorem mem_of_mem_insert {m : String × Json} (h : m ∈ insert name value members) :
    m = (name, value) ∨ m ∈ members := by
  induction members with
  | nil => exact .inl (List.mem_singleton.mp h)
  | cons first rest ih =>
      unfold insert at h
      split_ifs at h
      · rcases List.mem_cons.mp h with h | h
        · exact .inl h
        · exact .inr (List.mem_cons_of_mem _ h)
      · exact List.mem_cons.mp h
      · rcases List.mem_cons.mp h with h | h
        · exact .inr (h ▸ List.mem_cons_self)
        · exact (ih h).imp_right (List.mem_cons_of_mem _)

theorem Ordered.insert (h : Ordered members) (name : String) (value : Json) :
    Ordered (insert name value members) := by
  induction members with
  | nil => exact ordered_singleton name value
  | cons first rest ih =>
      obtain ⟨hfirst, hrest⟩ := List.pairwise_cons.mp h
      unfold Json.insert
      split_ifs with heq hlt
      · exact List.pairwise_cons.mpr ⟨fun m hm => heq ▸ hfirst m hm, hrest⟩
      · refine List.pairwise_cons.mpr ⟨fun m hm => ?_, h⟩
        rcases List.mem_cons.mp hm with rfl | hm
        · exact hlt
        · exact precedes_trans hlt (hfirst m hm)
      · refine List.pairwise_cons.mpr ⟨fun m hm => ?_, ih hrest⟩
        rcases mem_of_mem_insert hm with rfl | hm
        · have hne : first.1.toList ≠ name.toList := fun he => heq (String.toList_injective he)
          exact (precedes_total hne).resolve_right hlt
        · exact hfirst m hm

theorem Ordered.foldl_insert (h : Ordered base) (members : List (String × Json)) :
    Ordered (members.foldl (fun acc m => Json.insert m.1 m.2 acc) base) := by
  induction members generalizing base with
  | nil => exact h
  | cons m rest ih => exact ih (h.insert m.1 m.2)

/-- A name behind all others is inserted at the end. -/
theorem insert_of_forall_precedes
    (h : ∀ m ∈ members, precedes m.1.toList name.toList = true) (value : Json) :
    Json.insert name value members = members ++ [(name, value)] := by
  induction members with
  | nil => rfl
  | cons m rest ih =>
      rw [List.forall_mem_cons] at h
      have hne : m.1 ≠ name := by
        rintro rfl
        rw [precedes_irrefl] at h
        cases h.1
      have hbehind : ¬ precedes name.toList m.1.toList = true := by
        intro hbefore
        have hcycle := precedes_trans h.1 hbefore
        rw [precedes_irrefl] at hcycle
        cases hcycle
      rw [Json.insert, if_neg hne, if_neg hbehind, ih h.2, List.cons_append]

/-- Members that are in order already stay as they are. -/
theorem Ordered.foldl_insert_eq (h : Ordered (base ++ members)) :
    members.foldl (fun acc m => Json.insert m.1 m.2 acc) base = base ++ members := by
  induction members generalizing base with
  | nil => rw [List.foldl_nil, List.append_nil]
  | cons m rest ih =>
      have hlast : ∀ m' ∈ base, precedes m'.1.toList m.1.toList = true := fun m' hm' =>
        (List.pairwise_append.mp h).2.2 m' hm' m List.mem_cons_self
      rw [List.foldl_cons, insert_of_forall_precedes hlast, ih (by simpa using h)]
      simp

theorem Ordered.ofMembers_eq (h : Ordered members) : ofMembers members = object members := by
  have hfoldl : members.foldl (fun acc m => Json.insert m.1 m.2 acc) [] = [] ++ members :=
    Ordered.foldl_insert_eq h
  rw [ofMembers, hfoldl, List.nil_append]

theorem neat_ofMembers (members : List (String × Json)) : (ofMembers members).Neat :=
  neat_object (Ordered.foldl_insert List.Pairwise.nil members).nodup

/-! ### Looking up -/

theorem find_eq_none_iff : find name members = none ↔ name ∉ members.map Prod.fst := by
  induction members with
  | nil => simp [find]
  | cons m rest ih => grind [find]

theorem find_append (name : String) (members others : List (String × Json)) :
    find name (members ++ others) = (find name members).or (find name others) := by
  induction members with
  | nil => rfl
  | cons m rest ih => by_cases hm : m.1 = name <;> simp [find, hm, ih]

theorem mem_of_find (h : find name members = some value) : (name, value) ∈ members := by
  induction members with
  | nil => cases h
  | cons m rest ih => grind [find]

theorem find_of_mem (hd : (members.map Prod.fst).Nodup) {m : String × Json} (hm : m ∈ members) :
    find m.1 members = some m.2 := by
  induction members with
  | nil => exact absurd hm List.not_mem_nil
  | cons first rest ih =>
      rw [List.map_cons, List.nodup_cons] at hd
      rcases List.mem_cons.mp hm with rfl | hm
      · simp [find]
      · have hne : first.1 ≠ m.1 := fun h => hd.1 (h ▸ List.mem_map_of_mem hm)
        simp [find, hne, ih hd.2 hm]

theorem mem_iff_find (hd : (members.map Prod.fst).Nodup) {m : String × Json} :
    m ∈ members ↔ find m.1 members = some m.2 :=
  ⟨find_of_mem hd, mem_of_find⟩

/-- Members in the order of their names are known once it is known what each name holds. -/
theorem Ordered.eq_of_find (h : Ordered members) (hbase : Ordered base)
    (hfind : ∀ name, find name members = find name base) : members = base := by
  have hperm : members.Perm base := by
    refine (List.perm_ext_iff_of_nodup (h.nodup.of_map _) (hbase.nodup.of_map _)).mpr fun m => ?_
    rw [mem_iff_find h.nodup, mem_iff_find hbase.nodup, hfind]
  refine List.Perm.eq_of_pairwise (fun m m' _ _ hm hm' => ?_) h hbase hperm
  have hcycle := precedes_trans hm hm'
  rw [precedes_irrefl] at hcycle
  cases hcycle

/-- The members of an object are what was given, if no name was given twice. -/
theorem find_foldl_insert (hd : (members.map Prod.fst).Nodup) (name : String)
    (base : List (String × Json)) :
    find name (members.foldl (fun acc m => insert m.1 m.2 acc) base) =
      (find name members).or (find name base) := by
  induction members generalizing base with
  | nil => rfl
  | cons m rest ih =>
      rw [List.map_cons, List.nodup_cons] at hd
      rw [List.foldl_cons, ih hd.2]
      by_cases hm : m.1 = name
      · have hrest : find name rest = none := find_eq_none_iff.mpr (hm ▸ hd.1)
        simp [find, hm, hrest, find_insert_self]
      · rw [find_insert_of_ne (Ne.symm hm)]
        simp [find, hm]

theorem find_ofMembers (hd : (members.map Prod.fst).Nodup) (name : String) :
    (ofMembers members).member? name = find name members :=
  (find_foldl_insert hd name []).trans (Option.or_none ..)

theorem find_filter {p : String → Bool} (hp : p name = true) (members : List (String × Json)) :
    find name (members.filter fun m => p m.1) = find name members := by
  induction members with
  | nil => rfl
  | cons m rest ih =>
      by_cases hm : m.1 = name
      · simp [find, hm, hp]
      · by_cases hpm : p m.1 = true <;> simp [find, hm, hpm, ih]

end EditorSession.Json
