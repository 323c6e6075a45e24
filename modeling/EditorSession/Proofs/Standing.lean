import EditorSession.Proofs.Numerals
import Mathlib.Data.List.DropRight

/-! # Texts that read the same wherever they stand

Characters read as an outline if they do so in front of anything that would not go on with a number
(`Outline.ReadsAs`).  This holds of the literals as they are written (`Outline.readsAs_quote`,
`Outline.readsAs_integer`), and brackets around such texts give such a text again, with commas
between them and, in an object, a colon behind each name (`Outline.readsAs_array`,
`Outline.readsAs_object`). -/

namespace EditorSession.Json

/-! ### Quoted texts -/

namespace Literal

theorem unit?_control : ∀ n < 0x20,
    unit? '0' '0' (hexDigit (n / 16)) (hexDigit (n % 16)) = some n := by
  decide

/-- A written character is one part, which spells that character. -/
theorem exists_part_escape (c : Char) :
    ∃ part, (∀ rest, parts (escape c ++ rest) = (part :: (parts rest).1, (parts rest).2)) ∧
      ∀ ps, spell (part :: ps) = (spell ps).map (c :: ·) := by
  unfold escape
  split_ifs with h₁ h₂ h₃ h₄ h₅ h₆ h₇ h₈
  · exact ⟨.plain '"', fun rest => by simp [parts, unescape?], fun ps => h₁ ▸ rfl⟩
  · exact ⟨.plain '\\', fun rest => by simp [parts, unescape?], fun ps => h₂ ▸ rfl⟩
  · exact ⟨.plain '\x08', fun rest => by simp [parts, unescape?], fun ps => h₃ ▸ rfl⟩
  · exact ⟨.plain '\t', fun rest => by simp [parts, unescape?], fun ps => h₄ ▸ rfl⟩
  · exact ⟨.plain '\n', fun rest => by simp [parts, unescape?], fun ps => h₅ ▸ rfl⟩
  · exact ⟨.plain '\x0c', fun rest => by simp [parts, unescape?], fun ps => h₆ ▸ rfl⟩
  · exact ⟨.plain '\r', fun rest => by simp [parts, unescape?], fun ps => h₇ ▸ rfl⟩
  · refine ⟨.unit c.toNat, fun rest => ?_, fun ps => ?_⟩
    · simp [parts, unit?_control c.toNat h₈]
    · rw [spell.eq_def]
      dsimp only
      rw [if_pos (.inl (by omega)), Char.ofNat_toNat]
  · refine ⟨.plain c, fun rest => ?_, fun ps => rfl⟩
    simp [parts, h₈]

theorem exists_parts_flatMap_escape (cs rest : List Char) :
    ∃ ps, parts (cs.flatMap escape ++ '"' :: rest) = (ps, .ok rest) ∧ spell ps = some cs := by
  induction cs with
  | nil => exact ⟨[], by simp [parts], rfl⟩
  | cons c cs ih =>
      obtain ⟨ps, hparts, hspell⟩ := ih
      obtain ⟨part, hpart, hcons⟩ := exists_part_escape c
      refine ⟨part :: ps, ?_, by rw [hcons, hspell, Option.map_some]⟩
      rw [List.flatMap_cons, List.append_assoc, hpart, hparts]

/-- What is written between quotes is read as the text itself. -/
theorem quoted_escape (s : String) (rest : List Char) :
    quoted (s.toList.flatMap escape ++ '"' :: rest) = .ok (some s, rest) := by
  obtain ⟨ps, hparts, hspell⟩ := exists_parts_flatMap_escape s.toList rest
  rw [quoted, hparts]
  simp only [hspell, Option.map_some, String.ofList_toList]

end Literal

namespace Outline

open Literal (Ended Starts)

variable {cs rest : List Char} {fuel : Nat} {o : Outline}

/-! ### Blanks -/

theorem skipBlanks_of_blank {blanks : List Char} (h : blanks.all isBlank = true) (cs : List Char) :
    skipBlanks (blanks ++ cs) = skipBlanks cs := by
  unfold skipBlanks
  rw [List.dropWhile_append_of_pos (by simpa using h)]

theorem skipBlanks_cons {c : Char} (h : isBlank c = false) (cs : List Char) :
    skipBlanks (c :: cs) = c :: cs := by
  simp [skipBlanks, h]

/-- Blanks in front do not matter to any reader. -/
theorem readValue_congr {cs' : List Char} (h : skipBlanks cs = skipBlanks cs') (fuel : Nat) :
    readValue fuel cs = readValue fuel cs' := by
  cases fuel with
  | zero => simp only [readValue]
  | succ fuel => simp only [readValue, h]

theorem readItems_congr {cs' : List Char} (h : skipBlanks cs = skipBlanks cs') (fuel : Nat) :
    readItems fuel cs = readItems fuel cs' := by
  cases fuel with
  | zero => simp only [readItems]
  | succ fuel => simp only [readItems, readValue_congr h]

theorem readMembers_congr {cs' : List Char} (h : skipBlanks cs = skipBlanks cs') (fuel : Nat) :
    readMembers fuel cs = readMembers fuel cs' := by
  cases fuel with
  | zero => simp only [readMembers]
  | succ fuel => simp only [readMembers, h]

theorem skipBlanks_skipBlanks (cs : List Char) : skipBlanks (skipBlanks cs) = skipBlanks cs :=
  List.dropWhile_idempotent _ _

/-- Characters that are no blank, no digit, no point and no exponent mark end a number. -/
theorem ended_cons {c : Char} (hd : c.isDigit = false) (hc : c ≠ '.' ∧ c ≠ 'e' ∧ c ≠ 'E') :
    Ended (c :: rest) := by
  intro d hmem
  cases hmem
  exact ⟨hd, hc⟩

theorem isDigit_of_isBlank {c : Char} (h : isBlank c = true) :
    c.isDigit = false ∧ c ≠ '.' ∧ c ≠ 'e' ∧ c ≠ 'E' := by
  simp only [isBlank, Bool.or_eq_true, decide_eq_true_eq] at h
  rcases h with ((rfl | rfl) | rfl) | rfl <;> decide

/-- A number starts with no blank. -/
theorem isBlank_of_starts {c : Char} (h : Starts c) : isBlank c = false := by
  rw [Bool.eq_false_iff]
  intro hblank
  obtain ⟨hdigit, -⟩ := isDigit_of_isBlank hblank
  rcases h with rfl | h
  · cases hblank
  · rw [h] at hdigit
    cases hdigit

/-! ### One value -/

/-- A string is read where its literal stands. -/
theorem readValue_eq_string_iff {s : Option String} :
    readValue (fuel + 1) cs = (string s, some rest) ↔
      ∃ front, skipBlanks cs = '"' :: front ∧ Literal.quoted front = .ok (s, rest) := by
  constructor
  · intro h
    rw [readValue] at h
    split at h <;> rename_i hcs
    case h_5 front =>
      refine ⟨front, hcs, ?_⟩
      generalize Literal.quoted front = scan at h ⊢
      cases scan <;> cases h
      rfl
    case h_1 => cases h
    case h_2 front =>
      generalize Literal.keyword _ front = scan at h
      cases scan <;> cases h
    case h_3 front =>
      generalize Literal.keyword _ front = scan at h
      cases scan <;> cases h
    case h_4 front =>
      generalize Literal.keyword _ front = scan at h
      cases scan <;> cases h
    case h_6 => split at h <;> cases h
    case h_7 => split at h <;> cases h
    case h_8 c front _ _ _ _ _ _ =>
      split_ifs at h
      · generalize Literal.numeral (c :: front) = scan at h
        cases scan <;> cases h
      · cases h
  · rintro ⟨front, hcs, hquoted⟩
    rw [readValue, hcs]
    simp only [hquoted, ofScan]

/-- Nothing is read at the end of a text or in front of a closing bracket. -/
theorem exists_head_of_readValue (h : readValue fuel cs = (o, some rest)) :
    ∃ c front, skipBlanks cs = c :: front ∧ c ≠ ']' := by
  cases fuel with
  | zero => cases (Prod.mk.inj (readValue.eq_def 0 cs ▸ h)).2
  | succ fuel =>
      cases hcs : skipBlanks cs with
      | nil =>
          rw [readValue, hcs] at h
          cases h
      | cons c front =>
          refine ⟨c, front, rfl, ?_⟩
          rintro rfl
          rw [readValue, hcs] at h
          cases h

/-- Behind an opening bracket that is not closed at once come items. -/
theorem readValue_array {c : Char} {front body : List Char} (hcs : skipBlanks cs = '[' :: front)
    (hfront : skipBlanks front = c :: body) (hc : c ≠ ']') :
    readValue (fuel + 1) cs = (array (readItems fuel front).1 (readItems fuel front).2.1,
      (readItems fuel front).2.2) := by
  rw [readValue, hcs]
  simp only [hfront]
  split
  · next h => exact absurd (List.cons.inj h).1 hc
  · next h => cases h
  · rw [← hfront, readItems_congr (skipBlanks_skipBlanks front)]

theorem readValue_object {c : Char} {front body : List Char} (hcs : skipBlanks cs = '{' :: front)
    (hfront : skipBlanks front = c :: body) (hc : c ≠ '}') :
    readValue (fuel + 1) cs = (object (readMembers fuel front).1 (readMembers fuel front).2.1,
      (readMembers fuel front).2.2) := by
  rw [readValue, hcs]
  simp only [hfront]
  split
  · next h => exact absurd (List.cons.inj h).1 hc
  · rw [← hfront, readMembers_congr (skipBlanks_skipBlanks front)]

/-! ### Reading in front of anything -/

/-- The characters read as the outline in front of anything that would not go on with a number. What
is left over of them are blanks. -/
def ReadsAs (cs : List Char) (o : Outline) : Prop :=
  ∀ fuel rest, fuelFor cs ≤ fuel → Ended rest →
    ∃ blanks, blanks.all isBlank = true ∧ readValue fuel (cs ++ rest) = (o, some (blanks ++ rest))

/-- It is enough to know what is read with some fuel to spare. -/
theorem readsAs_of_succ (h : ∀ fuel rest, 2 * cs.length ≤ fuel → Ended rest →
    readValue (fuel + 1) (cs ++ rest) = (o, some rest)) : ReadsAs cs o := by
  intro fuel rest hfuel hrest
  obtain ⟨fuel, rfl⟩ : ∃ k, fuel = k + 1 := ⟨fuel - 1, by unfold fuelFor at hfuel; omega⟩
  exact ⟨[], rfl, h fuel rest (Nat.le_of_succ_le_succ hfuel) hrest⟩

theorem readsAs_null : ReadsAs ['n', 'u', 'l', 'l'] null :=
  readsAs_of_succ fun fuel rest _ _ => by
    simp [readValue, skipBlanks, isBlank, Literal.keyword, ofKeyword]

theorem readsAs_true : ReadsAs ['t', 'r', 'u', 'e'] (boolean true) :=
  readsAs_of_succ fun fuel rest _ _ => by
    simp [readValue, skipBlanks, isBlank, Literal.keyword, ofKeyword]

theorem readsAs_false : ReadsAs ['f', 'a', 'l', 's', 'e'] (boolean false) :=
  readsAs_of_succ fun fuel rest _ _ => by
    simp [readValue, skipBlanks, isBlank, Literal.keyword, ofKeyword]

theorem readsAs_integer {n : Int} (h : -Int.pow 2 63 ≤ n ∧ n < Int.pow 2 64) :
    ReadsAs (integerText n) (number (some (.integer n))) := by
  refine readsAs_of_succ fun fuel rest _ hrest => readValue_eq_integer_iff.mpr ⟨?_, hrest, h⟩
  obtain ⟨c, others, hcs, hc⟩ := Literal.exists_starts_of_integerText n
  rw [hcs]
  exact skipBlanks_cons (isBlank_of_starts hc) _

theorem readsAs_string {s : Option String} {used : List Char}
    (h : ∀ more, Literal.quoted (used ++ more) = .ok (s, more)) :
    ReadsAs ('"' :: used) (string s) :=
  readsAs_of_succ fun fuel rest _ _ =>
    readValue_eq_string_iff.mpr ⟨used ++ rest, skipBlanks_cons (by decide) _, h rest⟩

theorem readsAs_quote (s : String) : ReadsAs (quote s) (string (some s)) := by
  show ReadsAs ('"' :: (s.toList.flatMap escape ++ ['"'])) _
  refine readsAs_string fun more => ?_
  rw [List.append_assoc]
  exact Literal.quoted_escape s more

theorem ended_comma (rest : List Char) : Ended (',' :: rest) := ended_cons (by decide) (by decide)

theorem ended_colon (rest : List Char) : Ended (':' :: rest) := ended_cons (by decide) (by decide)

theorem ended_bracket (rest : List Char) : Ended (']' :: rest) := ended_cons (by decide) (by decide)

theorem ended_brace (rest : List Char) : Ended ('\x7d' :: rest) :=
  ended_cons (by decide) (by decide)

/-! ### Items -/

theorem exists_head_of_readItems {items : List Outline} {tail : Tail}
    (h : readItems fuel cs = (items, tail, some rest)) :
    ∃ c front, skipBlanks cs = c :: front ∧ c ≠ ']' := by
  cases fuel with
  | zero => cases (Prod.mk.inj (Prod.mk.inj (readItems.eq_def 0 cs ▸ h)).2).2
  | succ fuel =>
      cases hread : readValue fuel cs with
      | mk item after =>
          cases after with
          | none =>
              rw [readItems, hread] at h
              cases h
          | some after => exact exists_head_of_readValue hread

theorem readItems_last {t : List Char} (h : ReadsAs t o) (hfuel : 2 * t.length + 1 ≤ fuel)
    (rest : List Char) : readItems (fuel + 1) (t ++ ']' :: rest) = ([o], .closed, some rest) := by
  obtain ⟨blanks, hblanks, hread⟩ := h fuel (']' :: rest) hfuel (ended_bracket rest)
  have hleft : skipBlanks (blanks ++ ']' :: rest) = ']' :: rest := by
    rw [skipBlanks_of_blank hblanks, skipBlanks_cons (by decide)]
  rw [readItems, hread]
  simp only [hleft]

theorem readItems_next {t : List Char} (h : ReadsAs t o) (hfuel : 2 * t.length + 1 ≤ fuel)
    (rest : List Char) : readItems (fuel + 1) (t ++ ',' :: rest) = (o :: (readItems fuel rest).1,
      (readItems fuel rest).2.1, (readItems fuel rest).2.2) := by
  obtain ⟨blanks, hblanks, hread⟩ := h fuel (',' :: rest) hfuel (ended_comma rest)
  have hleft : skipBlanks (blanks ++ ',' :: rest) = ',' :: rest := by
    rw [skipBlanks_of_blank hblanks, skipBlanks_cons (by decide)]
  rw [readItems, hread]
  simp only [hleft]

/-- Texts of items, with commas between them, are read up to the closing bracket. -/
theorem readItems_of_readsAs {texts : List (List Char)} {items : List Outline}
    (h : List.Forall₂ ReadsAs texts items) (hne : texts ≠ []) (fuel : Nat) (rest : List Char)
    (hfuel : 2 * ([','].intercalate texts).length + 2 ≤ fuel) :
    readItems fuel ([','].intercalate texts ++ ']' :: rest) = (items, .closed, some rest) := by
  induction h generalizing fuel with
  | nil => exact absurd rfl hne
  | @cons t item texts items ht htail ih =>
      obtain ⟨fuel, rfl⟩ : ∃ k, fuel = k + 1 := ⟨fuel - 1, by omega⟩
      cases htail with
      | nil =>
          rw [List.intercalate_singleton] at hfuel ⊢
          exact readItems_last ht (by omega) rest
      | cons ht' htail =>
          rw [List.intercalate_cons_cons] at hfuel ⊢
          simp only [List.length_append, List.length_singleton] at hfuel
          rw [List.append_assoc, List.append_assoc, List.singleton_append,
            readItems_next ht (by omega), ih (List.cons_ne_nil _ _) fuel (by omega)]

/-- Texts of items with commas between them make an array in brackets. Without items blanks may
stand there. -/
theorem readsAs_array {inside : List Char} {texts : List (List Char)} {items : List Outline}
    (hinside : inside.all isBlank = true) (h : List.Forall₂ ReadsAs texts items) :
    ReadsAs ('[' :: inside ++ [','].intercalate texts ++ [']']) (array items .closed) := by
  refine readsAs_of_succ fun fuel rest hfuel _ => ?_
  simp only [List.length_append, List.length_cons, List.length_nil] at hfuel
  rw [List.append_assoc, List.singleton_append, List.append_assoc, List.cons_append]
  have hopen := skipBlanks_cons (by decide : isBlank '[' = false)
    (inside ++ ([','].intercalate texts ++ ']' :: rest))
  cases h with
  | nil =>
      rw [readValue, hopen]
      simp only [List.intercalate_nil, List.nil_append, skipBlanks_of_blank hinside,
        skipBlanks_cons (by decide : isBlank ']' = false)]
  | cons ht htail =>
      have hread := readItems_of_readsAs (.cons ht htail) (List.cons_ne_nil _ _) fuel rest
        (by omega)
      obtain ⟨c, front, hfront, hc⟩ := exists_head_of_readItems hread
      rw [← readItems_congr (skipBlanks_of_blank hinside _)] at hread
      rw [← skipBlanks_of_blank hinside] at hfront
      rw [readValue_array hopen hfront hc, hread]

/-! ### Members -/

/-- The text of a member: its name, a colon, and its value. -/
inductive ReadsAsMember : List Char → Option String × Outline → Prop
  | intro {name value : List Char} {m : Option String × Outline} : ReadsAs name (string m.1) →
      ReadsAs value m.2 → ReadsAsMember (name ++ ':' :: value) m

theorem exists_head_of_readMembers {members : List (Option String × Outline)} {tail : Tail}
    (h : readMembers fuel cs = (members, tail, some rest)) :
    ∃ front, skipBlanks cs = '"' :: front := by
  cases fuel with
  | zero => cases (Prod.mk.inj (Prod.mk.inj (readMembers.eq_def 0 cs ▸ h)).2).2
  | succ fuel =>
      rw [readMembers] at h
      split at h
      · cases h
      · next front hcs => exact ⟨front, hcs⟩
      · cases h

/-- The name of a member is read up to a colon, and its value up to what stands behind it. -/
theorem exists_read_of_readsAsMember {t : List Char} {m : Option String × Outline}
    (h : ReadsAsMember t m) (hfuel : 2 * t.length + 1 ≤ fuel) (hrest : Ended rest) :
    ∃ front gap behind left, skipBlanks (t ++ rest) = '"' :: front ∧
      Literal.quoted front = .ok (m.1, gap) ∧ skipBlanks gap = ':' :: behind ∧
      readValue fuel behind = (m.2, some left) ∧ skipBlanks left = skipBlanks rest := by
  obtain ⟨hname, hvalue⟩ := h
  rename_i name value
  simp only [List.length_append, List.length_cons] at hfuel
  obtain ⟨fuel, rfl⟩ : ∃ k, fuel = k + 1 := ⟨fuel - 1, by omega⟩
  obtain ⟨blanks, hblanks, hread⟩ := hname (fuel + 1) (':' :: (value ++ rest))
    (by unfold fuelFor; omega) (ended_colon _)
  obtain ⟨front, hfront, hquoted⟩ := readValue_eq_string_iff.mp hread
  obtain ⟨left, hleft, hread'⟩ := hvalue (fuel + 1) rest (by unfold fuelFor; omega) hrest
  refine ⟨front, _, value ++ rest, _, ?_, hquoted, ?_, hread', skipBlanks_of_blank hleft rest⟩
  · rw [List.append_assoc, List.cons_append, hfront]
  · rw [skipBlanks_of_blank hblanks, skipBlanks_cons (by decide)]

theorem readMembers_last {t : List Char} {m : Option String × Outline} (h : ReadsAsMember t m)
    (hfuel : 2 * t.length + 1 ≤ fuel) (rest : List Char) :
    readMembers (fuel + 1) (t ++ '\x7d' :: rest) = ([m], .closed, some rest) := by
  obtain ⟨front, gap, behind, left, hfront, hquoted, hgap, hvalue, hleft⟩ :=
    exists_read_of_readsAsMember h hfuel (ended_brace rest)
  rw [skipBlanks_cons (by decide)] at hleft
  rw [readMembers, hfront]
  simp only [hquoted, hgap, hvalue, hleft]

theorem readMembers_next {t : List Char} {m : Option String × Outline} (h : ReadsAsMember t m)
    (hfuel : 2 * t.length + 1 ≤ fuel) (rest : List Char) :
    readMembers (fuel + 1) (t ++ ',' :: rest) = (m :: (readMembers fuel rest).1,
      (readMembers fuel rest).2.1, (readMembers fuel rest).2.2) := by
  obtain ⟨front, gap, behind, left, hfront, hquoted, hgap, hvalue, hleft⟩ :=
    exists_read_of_readsAsMember h hfuel (ended_comma rest)
  rw [skipBlanks_cons (by decide)] at hleft
  rw [readMembers, hfront]
  simp only [hquoted, hgap, hvalue, hleft]

/-- Texts of members, with commas between them, are read up to the closing bracket. -/
theorem readMembers_of_readsAs {texts : List (List Char)} {members : List (Option String × Outline)}
    (h : List.Forall₂ ReadsAsMember texts members) (hne : texts ≠ []) (fuel : Nat)
    (rest : List Char) (hfuel : 2 * ([','].intercalate texts).length + 2 ≤ fuel) :
    readMembers fuel ([','].intercalate texts ++ '\x7d' :: rest) =
      (members, .closed, some rest) := by
  induction h generalizing fuel with
  | nil => exact absurd rfl hne
  | @cons t m texts members ht htail ih =>
      obtain ⟨fuel, rfl⟩ : ∃ k, fuel = k + 1 := ⟨fuel - 1, by omega⟩
      cases htail with
      | nil =>
          rw [List.intercalate_singleton] at hfuel ⊢
          exact readMembers_last ht (by omega) rest
      | cons ht' htail =>
          rw [List.intercalate_cons_cons] at hfuel ⊢
          simp only [List.length_append, List.length_singleton] at hfuel
          rw [List.append_assoc, List.append_assoc, List.singleton_append,
            readMembers_next ht (by omega), ih (List.cons_ne_nil _ _) fuel (by omega)]

/-- Texts of members with commas between them make an object in brackets. Without members blanks
may stand there. -/
theorem readsAs_object {inside : List Char} {texts : List (List Char)}
    {members : List (Option String × Outline)} (hinside : inside.all isBlank = true)
    (h : List.Forall₂ ReadsAsMember texts members) :
    ReadsAs ('\x7b' :: inside ++ [','].intercalate texts ++ ['\x7d'])
      (object members .closed) := by
  refine readsAs_of_succ fun fuel rest hfuel _ => ?_
  simp only [List.length_append, List.length_cons, List.length_nil] at hfuel
  rw [List.append_assoc, List.singleton_append, List.append_assoc, List.cons_append]
  have hopen := skipBlanks_cons (by decide : isBlank '\x7b' = false)
    (inside ++ ([','].intercalate texts ++ '\x7d' :: rest))
  cases h with
  | nil =>
      rw [readValue, hopen]
      simp only [List.intercalate_nil, List.nil_append, skipBlanks_of_blank hinside,
        skipBlanks_cons (by decide : isBlank '\x7d' = false)]
  | cons ht htail =>
      have hread := readMembers_of_readsAs (.cons ht htail) (List.cons_ne_nil _ _) fuel rest
        (by omega)
      obtain ⟨front, hfront⟩ := exists_head_of_readMembers hread
      rw [← readMembers_congr (skipBlanks_of_blank hinside _)] at hread
      rw [← skipBlanks_of_blank hinside] at hfront
      rw [readValue_object hopen hfront (by decide), hread]

/-! ### Blanks around a text -/

theorem ReadsAs.append_left {blanks : List Char} (h : ReadsAs cs o)
    (hblanks : blanks.all isBlank = true) : ReadsAs (blanks ++ cs) o := by
  intro fuel rest hfuel hrest
  simp only [fuelFor, List.length_append] at hfuel
  obtain ⟨left, hleft, hread⟩ := h fuel rest (by unfold fuelFor; omega) hrest
  refine ⟨left, hleft, ?_⟩
  rw [List.append_assoc, readValue_congr (skipBlanks_of_blank hblanks _), hread]

theorem ended_of_blank {blanks : List Char} (hblanks : blanks.all isBlank = true)
    (hrest : Ended rest) : Ended (blanks ++ rest) := by
  cases blanks with
  | nil => exact hrest
  | cons c blanks =>
      rw [List.all_cons, Bool.and_eq_true] at hblanks
      exact ended_cons (isDigit_of_isBlank hblanks.1).1 (isDigit_of_isBlank hblanks.1).2

theorem ReadsAs.append_right {blanks : List Char} (h : ReadsAs cs o)
    (hblanks : blanks.all isBlank = true) : ReadsAs (cs ++ blanks) o := by
  intro fuel rest hfuel hrest
  simp only [fuelFor, List.length_append] at hfuel
  obtain ⟨left, hleft, hread⟩ := h fuel (blanks ++ rest) (by unfold fuelFor; omega)
    (ended_of_blank hblanks hrest)
  refine ⟨left ++ blanks, by rw [List.all_append, hleft, hblanks, Bool.and_self], ?_⟩
  rw [List.append_assoc, hread, List.append_assoc]

theorem ReadsAsMember.append_right {t blanks : List Char} {m : Option String × Outline}
    (h : ReadsAsMember t m) (hblanks : blanks.all isBlank = true) :
    ReadsAsMember (t ++ blanks) m := by
  obtain ⟨hname, hvalue⟩ := h
  rw [List.append_assoc, List.cons_append]
  exact .intro hname (hvalue.append_right hblanks)

/-! ### Whole texts -/

/-- A text that reads as an outline by itself has that outline, and only blanks are left over. -/
theorem ReadsAs.ofText (h : ReadsAs cs o) : ∃ blanks, blanks.all isBlank = true ∧
    Outline.ofText (String.ofList cs) = (o, some blanks) := by
  obtain ⟨blanks, hblanks, hread⟩ := h (fuelFor cs) [] (Nat.le_refl _) nofun
  refine ⟨blanks, hblanks, ?_⟩
  rw [Outline.ofText, String.toList_ofList]
  simpa using hread

/-- A text that reads as an outline has the value of that outline. -/
theorem ReadsAs.parse {v : Json} (h : ReadsAs cs o) (hv : o.value? 127 = .ok v) :
    Json.parse (String.ofList cs) = .ok v := by
  obtain ⟨blanks, hblanks, htext⟩ := h.ofText
  rw [Json.parse, htext]
  simp only [hv, onlyBlanks, hblanks, if_true]

/-- A text that reads as an outline is decoded from that outline. -/
theorem ReadsAs.decodeText {α : Type} (h : ReadsAs cs o) (d : Decoder α) :
    Json.decodeText d (String.ofList cs) = d (.text 127) o := by
  obtain ⟨blanks, hblanks, htext⟩ := h.ofText
  rw [Json.decodeText, htext]
  dsimp only
  cases d (.text 127) o with
  | error e => rfl
  | ok a => exact if_pos hblanks

/-- Characters read as one outline only. -/
theorem ReadsAs.unique {o' : Outline} (h : ReadsAs cs o) (h' : ReadsAs cs o') : o = o' := by
  obtain ⟨_, -, hread⟩ := h.ofText
  obtain ⟨_, -, hread'⟩ := h'.ofText
  exact (Prod.mk.inj (hread.symm.trans hread')).1

end Outline

end EditorSession.Json
