import EditorSession.Proofs.Readings
import EditorSession.Proofs.Standing

/-! # Texts come apart into what is read of them

What was read as a value is a text of its own that reads as that value wherever it stands
(`Outline.exists_readsAs_of_readValue`): a literal is read from its own characters, and the inside
of brackets comes apart into the texts of the items or members with commas between them.  Where
reading stopped at a break there is no value (`Outline.value?_ne_ok_of_readValue`).  So a text has a
value exactly when it reads as an outline of that value wherever it stands (`parse_eq_ok_iff`). -/

namespace EditorSession.Json

/-! ### Literals -/

namespace Literal

variable {cs rest : List Char} {ds : List Nat}

theorem eq_append_of_keyword {ks : List Char} (h : keyword ks cs = .ok rest) : cs = ks ++ rest := by
  induction ks generalizing cs with
  | nil =>
      cases h
      rfl
  | cons k ks ih =>
      cases cs with
      | nil => cases h
      | cons c cs =>
          rw [keyword] at h
          split_ifs at h with hc
          rw [hc, ih h, List.cons_append]

/-- The parts of a quoted text are read from the characters up to the closing quote. -/
theorem exists_of_parts {ps : List Part} (h : parts cs = (ps, .ok rest)) :
    ∃ used, cs = used ++ rest ∧ ∀ more, parts (used ++ more) = (ps, .ok more) := by
  fun_induction parts cs generalizing ps with
  | case1 | case3 | case5 | case6 | case8 | case9 => cases h
  | case2 front =>
      cases h
      exact ⟨['"'], rfl, fun more => rfl⟩
  | case4 a b c d front code hcode ps' fin hfin ih =>
      cases h
      obtain ⟨used, rfl, hread⟩ := ih hfin
      refine ⟨'\\' :: 'u' :: a :: b :: c :: d :: used, rfl, fun more => ?_⟩
      simp only [List.cons_append, parts, hcode, hread more]
  | case7 c front _ hu e he ps' fin hfin ih =>
      cases h
      obtain ⟨used, rfl, hread⟩ := ih hfin
      refine ⟨'\\' :: c :: used, rfl, fun more => ?_⟩
      rw [List.cons_append, List.cons_append, parts]
      · simp only [he, hread more]
      · exact fun _ _ _ _ _ hc _ => hu hc
      · exact hu
  | case10 c front hquote hslash hc ps' fin hfin ih =>
      cases h
      obtain ⟨used, rfl, hread⟩ := ih hfin
      refine ⟨c :: used, rfl, fun more => ?_⟩
      rw [List.cons_append, parts.eq_def]
      simp [hc, hread more]

theorem exists_of_quoted {s : Option String} (h : quoted cs = .ok (s, rest)) :
    ∃ used, cs = used ++ rest ∧ ∀ more, quoted (used ++ more) = .ok (s, more) := by
  unfold quoted at h
  split at h
  · next ps after hparts =>
    cases h
    obtain ⟨used, hcs, hread⟩ := exists_of_parts hparts
    refine ⟨used, hcs, fun more => ?_⟩
    rw [quoted, hread more]
  · split_ifs at h

/-! ### Numbers -/

theorem forall_head?_append {p : Char → Prop} {more : List Char} (hrest : ∀ c ∈ rest.head?, p c)
    (hmore : ∀ c ∈ more.head?, p c) : ∀ c ∈ (rest ++ more).head?, p c := by
  cases rest with
  | nil => exact hmore
  | cons c rest => exact hrest

theorem someDigits_eq_ok_iff :
    someDigits cs = .ok (ds, rest) ↔ digits cs = (ds, rest) ∧ ds ≠ [] := by
  unfold someDigits
  split
  · next after h =>
    rw [h]
    refine iff_of_false nofun ?_
    rintro ⟨h, hne⟩
    cases h
    exact hne rfl
  · next found hne =>
    rw [Except.ok.injEq, iff_self_and]
    rintro h rfl
    exact hne rest h

/-- Digits are read from their own characters. -/
theorem exists_of_someDigits (h : someDigits cs = .ok (ds, rest)) :
    ∃ c used, cs = c :: used ++ rest ∧ c.isDigit = true ∧
      ∀ more, (∀ c ∈ more.head?, c.isDigit = false) →
        someDigits (c :: used ++ more) = .ok (ds, more) := by
  obtain ⟨hdigits, hne⟩ := someDigits_eq_ok_iff.mp h
  obtain ⟨rfl, hlt, -⟩ := digits_eq_iff.mp hdigits
  obtain ⟨d, others, rfl⟩ := List.exists_cons_of_ne_nil hne
  refine ⟨Nat.digitChar d, others.map Nat.digitChar, rfl,
    isDigit_digitChar (hlt d List.mem_cons_self), fun more hmore => ?_⟩
  exact someDigits_eq_ok_iff.mpr ⟨digits_eq_iff.mpr ⟨rfl, hlt, hmore⟩, hne⟩

theorem exists_of_map_someDigits {β : Type} {f : List Nat → β} {b : β}
    (h : ((someDigits cs).map fun found => (f found.1, found.2)) = .ok (b, rest)) :
    ∃ c used, cs = c :: used ++ rest ∧ c.isDigit = true ∧
      ∀ more, (∀ c ∈ more.head?, c.isDigit = false) →
        ((someDigits (c :: used ++ more)).map fun found => (f found.1, found.2)) =
          .ok (b, more) := by
  obtain ⟨⟨ds, after⟩, hsome, h⟩ := map_eq_ok_iff.mp h
  cases h
  obtain ⟨c, used, hcs, hc, hread⟩ := exists_of_someDigits hsome
  exact ⟨c, used, hcs, hc, fun more hmore => map_eq_ok_iff.mpr ⟨_, hread more hmore, rfl⟩⟩

theorem exists_of_fractionPart (h : fractionPart cs = .ok (ds, rest)) :
    ∃ used, cs = used ++ rest ∧ (∀ c ∈ used.head?, c = '.') ∧
      ∀ more, (∀ c ∈ more.head?, c.isDigit = false ∧ c ≠ '.') →
        fractionPart (used ++ more) = .ok (ds, more) := by
  unfold fractionPart at h
  split at h
  · next cs =>
    obtain ⟨c, used, rfl, -, hread⟩ := exists_of_someDigits h
    exact ⟨'.' :: c :: used, rfl, by simp, fun more hmore =>
      hread more fun c hc => (hmore c hc).1⟩
  · cases h
    exact ⟨[], rfl, by simp, fun more hmore =>
      fractionPart_eq_nil_iff.mpr ⟨rfl, fun c hc => (hmore c hc).2⟩⟩

/-- A digit is no sign. -/
theorem ne_sign_of_isDigit {c : Char} (h : c.isDigit = true) : c ≠ '-' ∧ c ≠ '+' := by
  constructor <;> (rintro rfl; exact absurd h (by decide))

theorem exists_of_exponentPart {e : Option Int} (h : exponentPart cs = .ok (e, rest)) :
    ∃ used, cs = used ++ rest ∧ (∀ c ∈ used.head?, c = 'e' ∨ c = 'E') ∧
      ∀ more, (∀ c ∈ more.head?, c.isDigit = false ∧ c ≠ 'e' ∧ c ≠ 'E') →
        exponentPart (used ++ more) = .ok (e, more) := by
  cases e with
  | none =>
      obtain ⟨rfl, -⟩ := exponentPart_eq_none_iff.mp h
      exact ⟨[], rfl, by simp, fun more hmore =>
        exponentPart_eq_none_iff.mpr ⟨rfl, fun c hc => (hmore c hc).2⟩⟩
  | some e =>
      cases cs with
      | nil => cases h
      | cons mark cs =>
          unfold exponentPart at h
          dsimp only at h
          split_ifs at h with hmark
          · split at h
            · obtain ⟨c, used, rfl, -, hread⟩ :=
                exists_of_map_someDigits (f := fun ds => some (-(natural ds : Int))) h
              refine ⟨mark :: '-' :: c :: used, rfl, by simpa using hmark, fun more hmore => ?_⟩
              unfold exponentPart
              exact (if_pos hmark).trans (hread more fun c hc => (hmore c hc).1)
            · obtain ⟨c, used, rfl, -, hread⟩ :=
                exists_of_map_someDigits (f := fun ds => some (natural ds : Int)) h
              refine ⟨mark :: '+' :: c :: used, rfl, by simpa using hmark, fun more hmore => ?_⟩
              unfold exponentPart
              exact (if_pos hmark).trans (hread more fun c hc => (hmore c hc).1)
            · obtain ⟨c, used, rfl, hc, hread⟩ :=
                exists_of_map_someDigits (f := fun ds => some (natural ds : Int)) h
              obtain ⟨hminus, hplus⟩ := ne_sign_of_isDigit hc
              refine ⟨mark :: c :: used, rfl, by simpa using hmark, fun more hmore => ?_⟩
              unfold exponentPart
              refine (if_pos hmark).trans ?_
              split
              · next hcs => exact absurd (List.cons.inj hcs).1 hminus
              · next hcs => exact absurd (List.cons.inj hcs).1 hplus
              · exact hread more fun c hc => (hmore c hc).1
          · cases h

theorem exists_of_unsigned {negative : Bool} {n : Option Number}
    (h : unsigned negative cs = .ok (n, rest)) :
    ∃ used, cs = used ++ rest ∧ ∀ more, Ended more →
      unsigned negative (used ++ more) = .ok (n, more) := by
  simp only [unsigned, bind_eq_ok_iff] at h
  obtain ⟨⟨whole, _⟩, hwhole, ⟨fraction, _⟩, hfraction, ⟨exponent, _⟩, hexponent, h⟩ := h
  cases h
  obtain ⟨hwritten, rfl, -⟩ := wholePart_eq_ok_iff.mp hwhole
  obtain ⟨point, rfl, hpoint, hreadPoint⟩ := exists_of_fractionPart hfraction
  obtain ⟨mark, rfl, hmark, hreadMark⟩ := exists_of_exponentPart hexponent
  refine ⟨Nat.toDigits 10 (natural whole) ++ point ++ mark, by simp, fun more hmore => ?_⟩
  -- what stands behind each part does not go on with it
  have hbehindMark : ∀ c ∈ more.head?, c.isDigit = false ∧ c ≠ 'e' ∧ c ≠ 'E' :=
    fun c hc => ⟨(hmore c hc).1, (hmore c hc).2.2⟩
  have hbehindPoint : ∀ c ∈ (mark ++ more).head?, c.isDigit = false ∧ c ≠ '.' := by
    refine forall_head?_append (fun c hc => ?_) fun c hc => ⟨(hmore c hc).1, (hmore c hc).2.1⟩
    rcases hmark c hc with rfl | rfl <;> decide
  have hbehindWhole : ∀ c ∈ (point ++ (mark ++ more)).head?, c.isDigit = false := by
    refine forall_head?_append (fun c hc => ?_) fun c hc => (hbehindPoint c hc).1
    rw [hpoint c hc]
    decide
  simp only [unsigned, bind_eq_ok_iff, List.append_assoc]
  exact ⟨_, wholePart_eq_ok_iff.mpr ⟨hwritten, rfl, hbehindWhole⟩, _,
    hreadPoint (mark ++ more) hbehindPoint, _, hreadMark more hbehindMark, rfl⟩

/-- No number without its sign starts with one. -/
theorem unsigned_minus_ne_ok {negative : Bool} (cs : List Char) (n : Option Number) :
    unsigned negative ('-' :: cs) ≠ .ok (n, rest) := by
  have hdigits : digits ('-' :: cs) = ([], '-' :: cs) := digits_eq_iff.mpr ⟨rfl, by simp, by simp⟩
  simp [unsigned, wholePart, hdigits, bind, Except.bind]

/-- A number is read from its own characters, in front of anything that does not go on with it. -/
theorem exists_of_numeral {n : Option Number} (h : numeral cs = .ok (n, rest)) :
    ∃ used, cs = used ++ rest ∧ ∀ more, Ended more → numeral (used ++ more) = .ok (n, more) := by
  unfold numeral at h
  split at h
  · next cs =>
    obtain ⟨used, rfl, hread⟩ := exists_of_unsigned h
    exact ⟨'-' :: used, rfl, hread⟩
  · obtain ⟨used, rfl, hread⟩ := exists_of_unsigned h
    refine ⟨used, rfl, fun more hmore => ?_⟩
    unfold numeral
    split
    · next hcs =>
      have hread := hread more hmore
      rw [hcs] at hread
      exact absurd hread (unsigned_minus_ne_ok _ n)
    · exact hread more hmore

end Literal

/-! ### Values -/

namespace Outline

open Literal (Ended Starts)

variable {cs rest : List Char} {o : Outline} {fuel : Nat}

theorem ofScan_eq_some_iff {α : Type} {begun : Begun} {build : α → Outline}
    {scan : Literal.Scan α} : ofScan begun build scan = (o, some rest) ↔
      ∃ a, scan = .ok (a, rest) ∧ o = build a := by
  rcases scan with defect | ⟨a, after⟩
  · simp [ofScan]
  · simp only [ofScan, Prod.mk.injEq, Option.some.injEq, Except.ok.injEq]
    constructor
    · rintro ⟨rfl, hrest⟩
      exact ⟨a, ⟨rfl, hrest⟩, rfl⟩
    · rintro ⟨_, ⟨rfl, hrest⟩, rfl⟩
      exact ⟨rfl, hrest⟩

theorem ofKeyword_eq_some_iff {value : Outline} {scan : Except Break (List Char)} :
    ofKeyword value scan = (o, some rest) ↔ scan = .ok rest ∧ o = value := by
  cases scan with
  | error defect => simp [ofKeyword]
  | ok after => simp [ofKeyword, and_comm, eq_comm]

theorem exists_blanks {front : List Char} (h : skipBlanks cs = front) :
    ∃ blanks, blanks.all isBlank = true ∧ cs = blanks ++ front := by
  subst h
  exact ⟨cs.takeWhile isBlank, List.all_takeWhile, List.takeWhile_append_dropWhile.symm⟩

theorem readsAs_number {n : Option Number} {c : Char} {used : List Char} (hc : Starts c)
    (h : ∀ more, Ended more → Literal.numeral (c :: used ++ more) = .ok (n, more)) :
    ReadsAs (c :: used) (number n) := by
  refine readsAs_of_succ fun fuel rest _ hrest => ?_
  rw [List.cons_append, readValue_of_starts hc (skipBlanks_cons (isBlank_of_starts hc) _)]
  exact ofScan_eq_some_iff.mpr ⟨n, h rest hrest, rfl⟩

/-! ### Values come apart -/

/-- What is read as a value with so much fuel is a text that reads as it anywhere. -/
def ValuesApart (fuel : Nat) : Prop :=
  ∀ cs o rest, readValue fuel cs = (o, some rest) → ∃ used, cs = used ++ rest ∧ ReadsAs used o

/-- What is read as items with so much fuel are texts of them with commas in between. -/
def ItemsApart (fuel : Nat) : Prop :=
  ∀ cs items tail rest, readItems fuel cs = (items, tail, some rest) →
    tail = .closed ∧ ∃ texts, cs = [','].intercalate texts ++ ']' :: rest ∧ texts ≠ [] ∧
      List.Forall₂ ReadsAs texts items

/-- What is read as members with so much fuel are texts of them with commas in between. -/
def MembersApart (fuel : Nat) : Prop :=
  ∀ cs members tail rest, readMembers fuel cs = (members, tail, some rest) →
    tail = .closed ∧ ∃ texts, cs = [','].intercalate texts ++ '\x7d' :: rest ∧ texts ≠ [] ∧
      List.Forall₂ ReadsAsMember texts members

theorem append_intercalate {texts : List (List Char)} (hne : texts ≠ [])
    (used blanks rest : List Char) :
    used ++ (blanks ++ ',' :: ([','].intercalate texts ++ rest)) =
      [','].intercalate ((used ++ blanks) :: texts) ++ rest := by
  rw [List.intercalate_cons_of_ne_nil hne]
  simp only [List.append_assoc, List.cons_append, List.nil_append]

theorem itemsApart_succ (hvalues : ValuesApart fuel) (hitems : ItemsApart fuel) :
    ItemsApart (fuel + 1) := by
  intro cs items tail rest h
  rw [readItems] at h
  split at h
  · cases h
  · next item after hitem =>
    obtain ⟨used, rfl, hreads⟩ := hvalues cs item after hitem
    split at h
    · next left hafter =>
      cases h
      obtain ⟨blanks, hblanks, rfl⟩ := exists_blanks hafter
      refine ⟨rfl, [used ++ blanks], ?_, List.cons_ne_nil _ _,
        .cons (hreads.append_right hblanks) .nil⟩
      rw [List.intercalate_singleton, List.append_assoc]
    · next left hafter =>
      obtain ⟨blanks, hblanks, rfl⟩ := exists_blanks hafter
      cases hrest : readItems fuel left with
      | mk others found =>
          obtain ⟨tail', after'⟩ := found
          rw [hrest] at h
          cases h
          obtain ⟨rfl, texts, rfl, hne, htexts⟩ := hitems left others tail rest hrest
          exact ⟨rfl, (used ++ blanks) :: texts, append_intercalate hne _ _ _,
            List.cons_ne_nil _ _, .cons (hreads.append_right hblanks) htexts⟩
    · cases h
    · cases h

/-- The text of a member comes apart at the colon behind its name. -/
theorem exists_readsAsMember {front gap behind after : List Char} {name : Option String}
    {value : Outline} (hvalues : ValuesApart fuel) (hcs : skipBlanks cs = '"' :: front)
    (hquoted : Literal.quoted front = .ok (name, gap)) (hgap : skipBlanks gap = ':' :: behind)
    (hvalue : readValue fuel behind = (value, some after)) :
    ∃ used, cs = used ++ after ∧ ReadsAsMember used (name, value) := by
  obtain ⟨before, hbefore, rfl⟩ := exists_blanks hcs
  obtain ⟨label, rfl, hlabel⟩ := Literal.exists_of_quoted hquoted
  obtain ⟨blanks, hblanks, rfl⟩ := exists_blanks hgap
  obtain ⟨used, rfl, hreads⟩ := hvalues behind value after hvalue
  have hname : ReadsAs (before ++ '"' :: label ++ blanks) (string name) :=
    ((readsAs_string hlabel).append_left hbefore).append_right hblanks
  refine ⟨before ++ '"' :: label ++ blanks ++ ':' :: used, ?_, .intro hname hreads⟩
  simp only [List.append_assoc, List.cons_append]

theorem membersApart_succ (hvalues : ValuesApart fuel) (hmembers : MembersApart fuel) :
    MembersApart (fuel + 1) := by
  intro cs members tail rest h
  rw [readMembers] at h
  split at h
  · cases h
  · next front hcs =>
    split at h
    · cases h
    · next name gap hquoted =>
      split at h
      · cases h
      · next behind hgap =>
        split at h
        · cases h
        · next value after hvalue =>
          obtain ⟨used, rfl, hreads⟩ := exists_readsAsMember hvalues hcs hquoted hgap hvalue
          split at h
          · next left hafter =>
            cases h
            obtain ⟨blanks, hblanks, rfl⟩ := exists_blanks hafter
            refine ⟨rfl, [used ++ blanks], ?_, List.cons_ne_nil _ _,
              .cons (hreads.append_right hblanks) .nil⟩
            rw [List.intercalate_singleton, List.append_assoc]
          · next left hafter =>
            obtain ⟨blanks, hblanks, rfl⟩ := exists_blanks hafter
            cases hrest : readMembers fuel left with
            | mk others found =>
                obtain ⟨tail', after'⟩ := found
                rw [hrest] at h
                cases h
                obtain ⟨rfl, texts, rfl, hne, htexts⟩ := hmembers left others tail rest hrest
                exact ⟨rfl, (used ++ blanks) :: texts, append_intercalate hne _ _ _,
                  List.cons_ne_nil _ _, .cons (hreads.append_right hblanks) htexts⟩
          · cases h
          · cases h
      · cases h
  · cases h

/-- An array comes apart into the texts of its items. -/
theorem exists_readsAs_of_array {front : List Char} (hitems : ItemsApart fuel)
    (hcs : skipBlanks cs = '[' :: front) (h : readValue (fuel + 1) cs = (o, some rest)) :
    ∃ used, cs = used ++ rest ∧ ReadsAs used o := by
  obtain ⟨before, hbefore, hfront⟩ := exists_blanks hcs
  cases hleft : skipBlanks front with
  | nil =>
      rw [readValue, hcs] at h
      simp only [hleft] at h
      cases h
  | cons c body =>
      by_cases hc : c = ']'
      · subst hc
        rw [readValue, hcs] at h
        simp only [hleft] at h
        cases h
        obtain ⟨inside, hinside, rfl⟩ := exists_blanks hleft
        refine ⟨before ++ ('[' :: inside ++ [','].intercalate [] ++ [']']), ?_,
          (readsAs_array hinside .nil).append_left hbefore⟩
        rw [hfront]
        simp
      · rw [readValue_array hcs hleft hc] at h
        obtain ⟨rfl, hrest⟩ := Prod.mk.inj h
        obtain ⟨htail, texts, rfl, -, htexts⟩ := hitems front _ _ rest (by rw [← hrest])
        rw [htail]
        refine ⟨before ++ ('[' :: [] ++ [','].intercalate texts ++ [']']), ?_,
          (readsAs_array rfl htexts).append_left hbefore⟩
        rw [hfront]
        simp

/-- An object comes apart into the texts of its members. -/
theorem exists_texts_of_object {front : List Char} (hmembers : MembersApart fuel)
    (hcs : skipBlanks cs = '\x7b' :: front) (h : readValue (fuel + 1) cs = (o, some rest)) :
    ∃ before inside texts members,
      cs = before ++ ('\x7b' :: inside ++ [','].intercalate texts ++ ['\x7d']) ++ rest ∧
        before.all isBlank = true ∧ inside.all isBlank = true ∧
        List.Forall₂ ReadsAsMember texts members ∧ o = object members .closed := by
  obtain ⟨before, hbefore, hfront⟩ := exists_blanks hcs
  cases hleft : skipBlanks front with
  | nil =>
      rw [readValue, hcs] at h
      simp only [hleft] at h
      obtain ⟨-, hrest⟩ := Prod.mk.inj h
      have hread : readMembers fuel [] =
          ((readMembers fuel []).1, (readMembers fuel []).2.1, some rest) := by rw [← hrest]
      obtain ⟨_, hnil⟩ := exists_head_of_readMembers hread
      cases hnil
  | cons c body =>
      by_cases hc : c = '\x7d'
      · subst hc
        rw [readValue, hcs] at h
        simp only [hleft] at h
        cases h
        obtain ⟨inside, hinside, rfl⟩ := exists_blanks hleft
        refine ⟨before, inside, [], [], ?_, hbefore, hinside, .nil, rfl⟩
        rw [hfront]
        simp
      · rw [readValue_object hcs hleft hc] at h
        obtain ⟨rfl, hrest⟩ := Prod.mk.inj h
        obtain ⟨htail, texts, rfl, -, htexts⟩ := hmembers front _ _ rest (by rw [← hrest])
        rw [htail]
        refine ⟨before, [], texts, _, ?_, hbefore, rfl, htexts, rfl⟩
        rw [hfront]
        simp

theorem exists_readsAs_of_keyword {k : Char} {ks front : List Char} {value : Outline}
    (hvalue : ReadsAs (k :: ks) value) (hcs : skipBlanks cs = k :: front)
    (h : ofKeyword value (Literal.keyword ks front) = (o, some rest)) :
    ∃ used, cs = used ++ rest ∧ ReadsAs used o := by
  obtain ⟨hword, rfl⟩ := ofKeyword_eq_some_iff.mp h
  obtain ⟨before, hbefore, rfl⟩ := exists_blanks hcs
  obtain rfl := Literal.eq_append_of_keyword hword
  exact ⟨before ++ k :: ks, by simp, hvalue.append_left hbefore⟩

theorem exists_readsAs_of_quoted {front : List Char} {s : Option String}
    (hcs : skipBlanks cs = '"' :: front) (h : Literal.quoted front = .ok (s, rest)) :
    ∃ used, cs = used ++ rest ∧ ReadsAs used (string s) := by
  obtain ⟨before, hbefore, rfl⟩ := exists_blanks hcs
  obtain ⟨used, rfl, hread⟩ := Literal.exists_of_quoted h
  exact ⟨before ++ '"' :: used, by simp, (readsAs_string hread).append_left hbefore⟩

theorem exists_readsAs_of_numeral {c : Char} {front : List Char} {n : Option Number}
    (hc : Starts c) (hcs : skipBlanks cs = c :: front)
    (h : Literal.numeral (c :: front) = .ok (n, rest)) :
    ∃ used, cs = used ++ rest ∧ ReadsAs used (number n) := by
  obtain ⟨before, hbefore, rfl⟩ := exists_blanks hcs
  obtain ⟨used, hused, hread⟩ := Literal.exists_of_numeral h
  cases used with
  | nil => cases hread [] nofun
  | cons d used =>
      obtain ⟨rfl, rfl⟩ := List.cons.inj hused
      exact ⟨before ++ c :: used, by simp, (readsAs_number hc hread).append_left hbefore⟩

theorem valuesApart_succ (hitems : ItemsApart fuel) (hmembers : MembersApart fuel) :
    ValuesApart (fuel + 1) := by
  intro cs o rest h
  have hread := h
  rw [readValue] at h
  split at h <;> rename_i hcs
  case h_1 => cases h
  case h_2 => exact exists_readsAs_of_keyword readsAs_null hcs h
  case h_3 => exact exists_readsAs_of_keyword readsAs_true hcs h
  case h_4 => exact exists_readsAs_of_keyword readsAs_false hcs h
  case h_5 =>
    obtain ⟨s, hquoted, rfl⟩ := ofScan_eq_some_iff.mp h
    exact exists_readsAs_of_quoted hcs hquoted
  case h_6 => exact exists_readsAs_of_array hitems hcs hread
  case h_7 =>
    obtain ⟨before, inside, texts, members, rfl, hbefore, hinside, htexts, rfl⟩ :=
      exists_texts_of_object hmembers hcs hread
    exact ⟨_, rfl, (readsAs_object hinside htexts).append_left hbefore⟩
  case h_8 =>
    split_ifs at h with hc
    · obtain ⟨n, hnumeral, rfl⟩ := ofScan_eq_some_iff.mp h
      exact exists_readsAs_of_numeral hc hcs hnumeral
    · cases h

theorem apart (fuel : Nat) : ValuesApart fuel ∧ ItemsApart fuel ∧ MembersApart fuel := by
  induction fuel with
  | zero =>
      refine ⟨fun cs o rest h => ?_, fun cs items tail rest h => ?_,
        fun cs members tail rest h => ?_⟩
      · rw [readValue] at h
        cases h
      · rw [readItems] at h
        cases h
      · rw [readMembers] at h
        cases h
  | succ fuel ih =>
      obtain ⟨hvalues, hitems, hmembers⟩ := ih
      exact ⟨valuesApart_succ hitems hmembers, itemsApart_succ hvalues hitems,
        membersApart_succ hvalues hmembers⟩

/-- What was read of a text is a text of its own, which reads the same wherever it stands. -/
theorem exists_readsAs_of_readValue (h : readValue fuel cs = (o, some rest)) :
    ∃ used, cs = used ++ rest ∧ ReadsAs used o :=
  (apart fuel).1 cs o rest h

/-! ### Objects -/

theorem exists_head_of_object {members : List (Option String × Outline)} {tail : Tail}
    (h : readValue (fuel + 1) cs = (object members tail, some rest)) :
    ∃ front, skipBlanks cs = '\x7b' :: front := by
  rw [readValue] at h
  split at h <;> rename_i hcs
  case h_7 => exact ⟨_, hcs⟩
  case h_2 | h_3 | h_4 => cases (ofKeyword_eq_some_iff.mp h).2
  case h_5 =>
    obtain ⟨_, -, ho⟩ := ofScan_eq_some_iff.mp h
    cases ho
  case h_6 => split at h <;> cases (Prod.mk.inj h).1
  case h_8 =>
    split_ifs at h
    · obtain ⟨_, -, ho⟩ := ofScan_eq_some_iff.mp h
      cases ho
    · cases (Prod.mk.inj h).1
  case h_1 => cases (Prod.mk.inj h).1

/-- What reads as an object comes apart into brackets, blanks and the texts of its members. -/
theorem ReadsAs.exists_texts {members : List (Option String × Outline)} {tail : Tail}
    (h : ReadsAs cs (object members tail)) : ∃ before inside texts after,
      cs = before ++ ('\x7b' :: inside ++ [','].intercalate texts ++ ['\x7d']) ++ after ∧
        before.all isBlank = true ∧ inside.all isBlank = true ∧ after.all isBlank = true ∧
        List.Forall₂ ReadsAsMember texts members := by
  obtain ⟨blanks, hblanks, hread⟩ := h (fuelFor cs) [] (Nat.le_refl _) nofun
  rw [List.append_nil, List.append_nil] at hread
  obtain ⟨front, hfront⟩ := exists_head_of_object hread
  obtain ⟨before, inside, texts, members', hcs, hbefore, hinside, htexts, ho⟩ :=
    exists_texts_of_object (apart _).2.2 hfront hread
  cases ho
  exact ⟨before, inside, texts, blanks, hcs, hbefore, hinside, hblanks, htexts⟩

/-! ### Values that break off -/

/-- The outline has no value, whatever the room. -/
def Valueless (o : Outline) : Prop := ∀ room v, o.value? room ≠ .ok v

theorem valueless_broken (begun : Begun) (defect : Break) : Valueless (broken begun defect) :=
  fun _ _ h => by simp [value?] at h

theorem exists_of_forall₂ {α β : Type} {r : α → β → Prop} {as : List α} {bs : List β}
    (h : List.Forall₂ r as bs) : ∀ a ∈ as, ∃ b, r a b :=
  ((@List.forall₂_and_left α β r (fun a => ∃ b, r a b) as bs).mp
    (h.imp fun _ b hab => ⟨⟨b, hab⟩, hab⟩)).1

theorem valueless_array {items : List Outline} {tail : Tail}
    (h : tail = .closed → ∃ item ∈ items, Valueless item) : Valueless (array items tail) := by
  intro room v hv
  cases room with
  | zero => simp [value?] at hv
  | succ room =>
      rw [value?, map_eq_ok_iff] at hv
      obtain ⟨values, hvalues, -⟩ := hv
      obtain ⟨hclosed, hall⟩ := forall₂_of_itemValues hvalues
      obtain ⟨item, hitem, hnone⟩ := h hclosed
      obtain ⟨v, hv⟩ := exists_of_forall₂ hall item hitem
      exact hnone room v hv

theorem valueless_object {members : List (Option String × Outline)} {tail : Tail}
    (h : tail = .closed → ∃ m ∈ members, Valueless m.2) : Valueless (object members tail) := by
  intro room v hv
  cases room with
  | zero => simp [value?] at hv
  | succ room =>
      rw [value?, map_eq_ok_iff] at hv
      obtain ⟨_, hvalues, -⟩ := hv
      obtain ⟨hclosed, contents, values, rfl, hall, -⟩ := forall₂_of_memberValues hvalues
      obtain ⟨m, hm, hnone⟩ := h hclosed
      obtain ⟨m', hm', rfl⟩ := List.mem_map.mp hm
      obtain ⟨v, -, hv⟩ := exists_of_forall₂ hall m' hm'
      exact hnone room v.2 hv

theorem ofScan_eq_none {α : Type} {begun : Begun} {build : α → Outline} {scan : Literal.Scan α}
    (h : ofScan begun build scan = (o, none)) : Valueless o := by
  cases scan <;> cases h
  exact valueless_broken _ _

theorem ofKeyword_eq_none {value : Outline} {scan : Except Break (List Char)}
    (h : ofKeyword value scan = (o, none)) : Valueless o := by
  cases scan <;> cases h
  exact valueless_broken _ _

/-- Values that break off have no value. -/
def ValuesBreak (fuel : Nat) : Prop := ∀ cs o, readValue fuel cs = (o, none) → Valueless o

/-- Items that break off are not closed, or one of them has no value. -/
def ItemsBreak (fuel : Nat) : Prop :=
  ∀ cs items tail, readItems fuel cs = (items, tail, none) →
    tail = .closed → ∃ item ∈ items, Valueless item

/-- Members that break off are not closed, or one of them has no value. -/
def MembersBreak (fuel : Nat) : Prop :=
  ∀ cs members tail, readMembers fuel cs = (members, tail, none) →
    tail = .closed → ∃ m ∈ members, Valueless m.2

theorem itemsBreak_succ (hvalues : ValuesBreak fuel) (hitems : ItemsBreak fuel) :
    ItemsBreak (fuel + 1) := by
  intro cs items tail h hclosed
  rw [readItems] at h
  split at h
  · next item hitem =>
    cases h
    exact ⟨item, List.mem_singleton_self item, hvalues cs item hitem⟩
  · next item after hitem =>
    split at h
    · cases h
    · next left hafter =>
      cases hrest : readItems fuel left with
      | mk others found =>
          obtain ⟨tail', after'⟩ := found
          rw [hrest] at h
          cases h
          obtain ⟨broken, hmem, hnone⟩ := hitems left others tail hrest hclosed
          exact ⟨broken, List.mem_cons_of_mem item hmem, hnone⟩
    · cases h
      cases hclosed
    · cases h
      cases hclosed

theorem membersBreak_succ (hvalues : ValuesBreak fuel) (hmembers : MembersBreak fuel) :
    MembersBreak (fuel + 1) := by
  intro cs members tail h hclosed
  rw [readMembers] at h
  split at h
  · cases h
    cases hclosed
  · next front hcs =>
    split at h
    · cases h
      cases hclosed
    · next name gap hquoted =>
      split at h
      · cases h
        exact ⟨_, List.mem_singleton_self _, valueless_broken _ _⟩
      · next behind hgap =>
        split at h
        · next value hvalue =>
          cases h
          exact ⟨_, List.mem_singleton_self _, hvalues behind value hvalue⟩
        · next value after hvalue =>
          split at h
          · cases h
          · next left hafter =>
            cases hrest : readMembers fuel left with
            | mk others found =>
                obtain ⟨tail', after'⟩ := found
                rw [hrest] at h
                cases h
                obtain ⟨m, hmem, hnone⟩ := hmembers left others tail hrest hclosed
                exact ⟨m, List.mem_cons_of_mem _ hmem, hnone⟩
          · cases h
            cases hclosed
          · cases h
            cases hclosed
      · cases h
        exact ⟨_, List.mem_singleton_self _, valueless_broken _ _⟩
  · cases h
    cases hclosed

theorem valuesBreak_succ (hitems : ItemsBreak fuel) (hmembers : MembersBreak fuel) :
    ValuesBreak (fuel + 1) := by
  intro cs o h
  rw [readValue] at h
  split at h
  case h_1 =>
    cases h
    exact valueless_broken _ _
  case h_2 | h_3 | h_4 => exact ofKeyword_eq_none h
  case h_5 => exact ofScan_eq_none h
  case h_6 front _ =>
    split at h
    · cases h
    · cases h
      refine valueless_array fun hclosed => ?_
      cases hclosed
    · obtain ⟨rfl, hnone⟩ := Prod.mk.inj h
      exact valueless_array (hitems _ _ _ (by rw [← hnone]))
  case h_7 front _ =>
    split at h
    · cases h
    · obtain ⟨rfl, hnone⟩ := Prod.mk.inj h
      exact valueless_object (hmembers _ _ _ (by rw [← hnone]))
  case h_8 =>
    split_ifs at h
    · exact ofScan_eq_none h
    · cases h
      exact valueless_broken _ _

theorem breaks (fuel : Nat) : ValuesBreak fuel ∧ ItemsBreak fuel ∧ MembersBreak fuel := by
  induction fuel with
  | zero =>
      refine ⟨fun cs o h => ?_, fun cs items tail h => ?_, fun cs members tail h => ?_⟩
      · rw [readValue] at h
        cases h
        exact valueless_broken _ _
      · rw [readItems] at h
        cases h
        intro hclosed
        cases hclosed
      · rw [readMembers] at h
        cases h
        intro hclosed
        cases hclosed
  | succ fuel ih =>
      obtain ⟨hvalues, hitems, hmembers⟩ := ih
      exact ⟨valuesBreak_succ hitems hmembers, itemsBreak_succ hvalues hitems,
        membersBreak_succ hvalues hmembers⟩

/-- Where reading stopped at a break, there is no value. -/
theorem value?_ne_ok_of_readValue (h : readValue fuel cs = (o, none)) (room : Nat) (v : Json) :
    o.value? room ≠ .ok v :=
  (breaks fuel).1 cs o h room v

end Outline

/-- A text has a value exactly when it reads as an outline of that value, wherever it stands. -/
theorem parse_eq_ok_iff {s : String} {v : Json} :
    parse s = .ok v ↔ ∃ o, Outline.ReadsAs s.toList o ∧ o.value? 127 = .ok v := by
  constructor
  · intro h
    rw [parse, Outline.ofText] at h
    cases hread : Outline.readValue (Outline.fuelFor s.toList) s.toList with
    | mk o after =>
        rw [hread] at h
        dsimp only at h
        split at h
        · cases h
        · next v' hv =>
          split_ifs at h with hblanks
          cases h
          cases after with
          | none => exact absurd hv (Outline.value?_ne_ok_of_readValue hread 127 _)
          | some blanks =>
              obtain ⟨used, htext, hreads⟩ := Outline.exists_readsAs_of_readValue hread
              exact ⟨o, htext ▸ hreads.append_right hblanks, hv⟩
  · rintro ⟨o, hreads, hv⟩
    exact String.ofList_toList (s := s) ▸ hreads.parse hv

end EditorSession.Json
