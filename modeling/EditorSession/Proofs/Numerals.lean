import EditorSession.Json.Printer
import EditorSession.Json.Reader
import EditorSession.Proofs.Selecting

/-! # Integers in a text

The digits before the point of a number are those of a natural number, as it is written
(`wholePart_eq_ok_iff`).  A number without point and exponent is an integer as long as its digits
fit; so an integer has one literal, its decimal digits after its sign, and `-0` is none
(`Literal.numeral_eq_integer_iff`).  It is read as a value wherever that literal stands
(`Outline.readValue_eq_integer_iff`). -/

namespace EditorSession.Json

namespace Literal

variable {cs rest : List Char} {ds : List Nat}

/-! ### Digits -/

theorem digitChar_of_isDigit {c : Char} (h : c.isDigit = true) :
    Nat.digitChar (c.toNat - '0'.toNat) = c := by
  obtain ⟨hl, hu⟩ := Char.isDigit_iff_toNat.mp h
  have h0 : '0'.toNat = 48 := rfl
  have h9 : '9'.toNat = 57 := rfl
  refine Char.toNat_inj.mp ?_
  rw [Nat.toNat_digitChar_of_lt_ten (by omega)]
  omega

theorem isDigit_digitChar {d : Nat} (h : d < 10) : (Nat.digitChar d).isDigit = true := by
  rw [Nat.isDigit_digitChar, decide_eq_true h]

theorem digits_cons_digitChar {d : Nat} (h : d < 10) (cs : List Char) :
    digits (Nat.digitChar d :: cs) = (d :: (digits cs).1, (digits cs).2) := by
  have h0 : '0'.toNat = 48 := rfl
  rw [digits, if_pos (isDigit_digitChar h), Nat.toNat_digitChar_of_lt_ten h, h0,
    Nat.add_sub_cancel_left]

/-- The digits at the front are all that stand there. -/
theorem digits_eq_iff : digits cs = (ds, rest) ↔ cs = ds.map Nat.digitChar ++ rest ∧
    (∀ d ∈ ds, d < 10) ∧ ∀ c ∈ rest.head?, c.isDigit = false := by
  constructor
  · intro h
    induction cs generalizing ds with
    | nil =>
        cases h
        exact ⟨rfl, by simp, by simp⟩
    | cons c cs ih =>
        rw [digits] at h
        split_ifs at h with hc
        · cases h
          obtain ⟨hcs, hlt, hrest⟩ := ih rfl
          have hbounds := Char.isDigit_iff_toNat.mp hc
          have h0 : '0'.toNat = 48 := rfl
          have h9 : '9'.toNat = 57 := rfl
          refine ⟨?_, List.forall_mem_cons.mpr ⟨by omega, hlt⟩, hrest⟩
          rw [List.map_cons, digitChar_of_isDigit hc, List.cons_append, ← hcs]
        · cases h
          exact ⟨rfl, by simp, by simpa using hc⟩
  · rintro ⟨rfl, hlt, hrest⟩
    induction ds with
    | nil =>
        cases rest with
        | nil => rfl
        | cons c rest => simp [digits, hrest c rfl]
    | cons d ds ih =>
        obtain ⟨hd, hlt⟩ := List.forall_mem_cons.mp hlt
        rw [List.map_cons, List.cons_append, digits_cons_digitChar hd, ih hlt]

/-! ### Natural numbers -/

/-- The digits of a number as it is written: a zero stands alone. -/
structure Written (ds : List Nat) : Prop where
  nonempty : ds ≠ []
  digits : ∀ d ∈ ds, d < 10
  alone : ∀ others, ds = 0 :: others → others = []

theorem le_foldl (n : Nat) (ds : List Nat) : n ≤ ds.foldl (fun n d => 10 * n + d) n := by
  induction ds generalizing n with
  | nil => exact Nat.le_refl n
  | cons d ds ih => exact Nat.le_trans (by omega) (ih (10 * n + d))

/-- The digits of a number stand in front of those that follow it, unless it is zero. -/
theorem toDigits_foldl {n : Nat} (hn : 0 < n) (h : ∀ d ∈ ds, d < 10) :
    Nat.toDigits 10 (ds.foldl (fun n d => 10 * n + d) n) =
      Nat.toDigits 10 n ++ ds.map Nat.digitChar := by
  induction ds generalizing n with
  | nil => rw [List.foldl_nil, List.map_nil, List.append_nil]
  | cons d ds ih =>
      obtain ⟨hd, h⟩ := List.forall_mem_cons.mp h
      rw [List.foldl_cons, ih (by omega) h, ← Nat.toDigits_append_toDigits (by decide) hn hd,
        Nat.toDigits_of_lt_base hd, List.append_assoc]
      rfl

theorem natural_cons (d : Nat) (ds : List Nat) :
    natural (d :: ds) = ds.foldl (fun n d => 10 * n + d) d := by
  rw [natural, List.foldl_cons, Nat.mul_zero, Nat.zero_add]

/-- Written digits are those of the number that they make. -/
theorem toDigits_natural (h : Written ds) :
    Nat.toDigits 10 (natural ds) = ds.map Nat.digitChar := by
  cases ds with
  | nil => exact absurd rfl h.nonempty
  | cons d ds =>
      obtain ⟨hd, hlt⟩ := List.forall_mem_cons.mp h.digits
      rcases Nat.eq_zero_or_pos d with rfl | hpos
      · rw [h.alone ds rfl]
        rfl
      · rw [natural_cons, toDigits_foldl hpos hlt, Nat.toDigits_of_lt_base hd]
        rfl

theorem natural_concat (ds : List Nat) (d : Nat) : natural (ds ++ [d]) = 10 * natural ds + d := by
  simp [natural]

theorem Written.concat {d : Nat} (h : Written ds) (hpos : 0 < natural ds) (hd : d < 10) :
    Written (ds ++ [d]) := by
  refine ⟨by simp, fun e he => ?_, fun others he => ?_⟩
  · rcases List.mem_append.mp he with he | he
    · exact h.digits e he
    · exact List.mem_singleton.mp he ▸ hd
  · cases ds with
    | nil => exact absurd rfl h.nonempty
    | cons first ds =>
        obtain ⟨rfl, -⟩ := List.cons.inj he
        obtain rfl := h.alone ds rfl
        exact absurd hpos (Nat.lt_irrefl 0)

/-- Every number is written in digits. -/
theorem exists_written (n : Nat) : ∃ ds, Written ds ∧ natural ds = n := by
  induction n using Nat.strongRecOn with
  | ind n ih =>
    by_cases hn : n < 10
    · exact ⟨[n], ⟨by simp, by simpa using hn, by simp⟩, by simp [natural]⟩
    · obtain ⟨ds, hds, hvalue⟩ := ih (n / 10) (by omega)
      refine ⟨ds ++ [n % 10], hds.concat (by omega) (Nat.mod_lt n (by decide)), ?_⟩
      rw [natural_concat, hvalue]
      omega

/-- The digits before the point are those of a number. -/
theorem wholePart_eq_ok_iff : wholePart cs = .ok (ds, rest) ↔ Written ds ∧
    cs = Nat.toDigits 10 (natural ds) ++ rest ∧ ∀ c ∈ rest.head?, c.isDigit = false := by
  have hdigits : wholePart cs = .ok (ds, rest) ↔ digits cs = (ds, rest) ∧ ds ≠ [] ∧
      ∀ others, ds = 0 :: others → others = [] := by
    unfold wholePart
    generalize digits cs = found
    obtain ⟨front, after⟩ := found
    split
    · next front h =>
        cases h
        refine iff_of_false nofun ?_
        rintro ⟨h, hne, -⟩
        cases h
        exact hne rfl
    · next other others _ h =>
        cases h
        refine iff_of_false nofun ?_
        rintro ⟨h, -, halone⟩
        cases h
        exact absurd (halone _ rfl) (by simp)
    · next hnone hzero =>
        rw [Except.ok.injEq, iff_self_and]
        intro h
        cases h
        refine ⟨fun hds => hnone rest (by rw [hds]), fun others hds => ?_⟩
        cases others with
        | nil => rfl
        | cons other others => exact absurd (by rw [hds]) (hzero other others rest)
  rw [hdigits, digits_eq_iff]
  constructor
  · rintro ⟨⟨rfl, hlt, hrest⟩, hne, halone⟩
    have hwritten : Written ds := ⟨hne, hlt, halone⟩
    exact ⟨hwritten, by rw [toDigits_natural hwritten], hrest⟩
  · rintro ⟨hwritten, rfl, hrest⟩
    exact ⟨⟨by rw [toDigits_natural hwritten], hwritten.digits, hrest⟩, hwritten.nonempty,
      hwritten.alone⟩

/-! ### Numbers -/

/-- The bounds of the integers of 64 bits, compared. -/
theorem pow_bounds : Int.pow 2 63 = Nat.pow 2 63 ∧ Int.pow 2 64 = Nat.pow 2 64 ∧
    0 < Nat.pow 2 63 ∧ Nat.pow 2 63 < Nat.pow 2 64 := by
  decide

/-- All digits are taken in if the number fits. -/
theorem absorb_of_fits {n : Nat} (h : ds.foldl (fun n d => 10 * n + d) n < Nat.pow 2 64) :
    absorb n ds = (ds.foldl (fun n d => 10 * n + d) n, []) := by
  induction ds generalizing n with
  | nil => rfl
  | cons d ds ih =>
      rw [List.foldl_cons] at h ⊢
      rw [absorb, if_pos (Nat.lt_of_le_of_lt (le_foldl (10 * n + d) ds) h), ih h]

/-- Digits are left over if the number does not fit. -/
theorem absorb_of_not_fits {n : Nat} (hn : n < Nat.pow 2 64)
    (h : Nat.pow 2 64 ≤ ds.foldl (fun n d => 10 * n + d) n) : (absorb n ds).2 ≠ [] := by
  induction ds generalizing n with
  | nil => exact absurd hn (Nat.not_lt.mpr h)
  | cons d ds ih =>
      rw [absorb]
      split_ifs with hfits
      · exact ih hfits h
      · simp

theorem map_double_ne_integer {content : Option Double} {n : Int} :
    content.map Number.double ≠ some (.integer n) := by
  cases content <;> simp

/-- Digits without point and exponent that fit are an integer, after a minus sign only if they are
neither zero nor beyond the integers of 64 bits. -/
theorem number_of_fits {negative : Bool} (h : natural ds < Nat.pow 2 64) {n : Int} :
    number negative ds [] none = some (.integer n) ↔
      if negative then n = -natural ds ∧ 0 < natural ds ∧ natural ds ≤ Nat.pow 2 63
      else n = natural ds := by
  have habsorb : absorb 0 ds = (natural ds, []) := absorb_of_fits h
  simp only [number, habsorb, List.isEmpty_nil, Option.isNone_none, and_self, if_true]
  cases negative with
  | false => simp [eq_comm]
  | true =>
      rw [if_neg (by decide), if_pos rfl]
      split_ifs with hn
      · rw [Option.some.injEq, Number.integer.injEq, and_iff_left hn, eq_comm]
      · exact iff_of_false map_double_ne_integer fun ⟨_, hr⟩ => hn hr

/-- Any other digits are no integer. -/
theorem number_ne_integer {negative : Bool} {whole fraction : List Nat} {exponent : Option Int}
    (h : ¬(fraction = [] ∧ exponent = none ∧ natural whole < Nat.pow 2 64)) (n : Int) :
    number negative whole fraction exponent ≠ some (.integer n) := by
  have hexcess : ¬(fraction.isEmpty ∧ exponent.isNone ∧ (absorb 0 whole).2.isEmpty) := by
    rw [List.isEmpty_iff, List.isEmpty_iff, Option.isNone_iff_eq_none]
    rintro ⟨hf, he, hx⟩
    refine absorb_of_not_fits (by decide) (Nat.not_lt.mp fun hlt => ?_) hx
    exact h ⟨hf, he, hlt⟩
  unfold number
  dsimp only
  rw [if_neg hexcess]
  exact map_double_ne_integer

theorem number_eq_integer_iff {negative : Bool} {whole fraction : List Nat} {exponent : Option Int}
    {n : Int} : number negative whole fraction exponent = some (.integer n) ↔
      fraction = [] ∧ exponent = none ∧ natural whole < Nat.pow 2 64 ∧
        if negative then n = -natural whole ∧ 0 < natural whole ∧ natural whole ≤ Nat.pow 2 63
        else n = natural whole := by
  by_cases h : fraction = [] ∧ exponent = none ∧ natural whole < Nat.pow 2 64
  · obtain ⟨rfl, rfl, hfits⟩ := h
    rw [number_of_fits hfits, eq_self, eq_self, true_and, true_and, and_iff_right hfits]
  · exact iff_of_false (number_ne_integer h n) fun ⟨hf, he, hfits, _⟩ => h ⟨hf, he, hfits⟩

/-- Neither digits nor a point nor an exponent go on there. -/
def Ended (rest : List Char) : Prop :=
  ∀ c ∈ rest.head?, c.isDigit = false ∧ c ≠ '.' ∧ c ≠ 'e' ∧ c ≠ 'E'

theorem someDigits_ne_nil : someDigits cs ≠ .ok ([], rest) := by
  unfold someDigits
  generalize digits cs = found
  split
  · exact nofun
  · next hne =>
    intro h
    exact hne rest (Except.ok.inj h)

/-- No digits after the point means no point. -/
theorem fractionPart_eq_nil_iff : fractionPart cs = .ok ([], rest) ↔
    cs = rest ∧ ∀ c ∈ rest.head?, c ≠ '.' := by
  unfold fractionPart
  split
  · next cs =>
    refine iff_of_false someDigits_ne_nil ?_
    rintro ⟨rfl, hpoint⟩
    exact hpoint '.' rfl rfl
  · next hpoint =>
    simp only [Except.ok.injEq, Prod.mk.injEq, true_and, iff_self_and]
    rintro rfl c hc rfl
    obtain ⟨after, rfl⟩ := List.head?_eq_some_iff.mp hc
    exact hpoint after rfl

theorem map_some_ne_none {scan : Scan (List Nat)} {f : List Nat × List Char → Int} :
    (scan.map fun found => (some (f found), found.2)) ≠ .ok (none, rest) := by
  rw [Ne, map_eq_ok_iff]
  rintro ⟨_, -, h⟩
  cases h

theorem exponentPart_eq_none_iff : exponentPart cs = .ok (none, rest) ↔
    cs = rest ∧ ∀ c ∈ rest.head?, c ≠ 'e' ∧ c ≠ 'E' := by
  cases cs with
  | nil =>
      simp only [exponentPart, Except.ok.injEq, Prod.mk.injEq, true_and, iff_self_and]
      rintro rfl
      exact nofun
  | cons c cs =>
      unfold exponentPart
      dsimp only
      split_ifs with h
      · have hnone : ¬(c :: cs = rest ∧ ∀ c ∈ rest.head?, c ≠ 'e' ∧ c ≠ 'E') := by
          rintro ⟨rfl, hmark⟩
          exact (not_or.mpr (hmark c rfl)) h
        refine iff_of_false ?_ hnone
        split <;> exact map_some_ne_none
      · simp only [Except.ok.injEq, Prod.mk.injEq, true_and, iff_self_and]
        rintro rfl
        simpa using h

/-- Without its sign, an integer is written in digits that end there. -/
theorem unsigned_eq_integer_iff {negative : Bool} {n : Int} :
    unsigned negative cs = .ok (some (.integer n), rest) ↔
      cs = Nat.toDigits 10 n.natAbs ++ rest ∧ Ended rest ∧
        if negative then -Int.pow 2 63 ≤ n ∧ n < 0 else 0 ≤ n ∧ n < Int.pow 2 64 := by
  simp only [unsigned, bind_eq_ok_iff]
  constructor
  · rintro ⟨⟨ds, _⟩, hwhole, ⟨_, _⟩, hfraction, ⟨_, _⟩, hexponent, h⟩
    obtain ⟨hnumber, rfl⟩ := Prod.mk.inj (Except.ok.inj h)
    obtain ⟨rfl, rfl, hfits, hsign⟩ := number_eq_integer_iff.mp hnumber
    obtain ⟨rfl, hmark⟩ := exponentPart_eq_none_iff.mp hexponent
    obtain ⟨rfl, hpoint⟩ := fractionPart_eq_nil_iff.mp hfraction
    obtain ⟨-, rfl, hdigit⟩ := wholePart_eq_ok_iff.mp hwhole
    have hended : Ended _ := fun c hc => ⟨hdigit c hc, hpoint c hc, hmark c hc⟩
    have hbounds := pow_bounds
    split_ifs at hsign ⊢
    · exact ⟨by rw [hsign.1, Int.natAbs_neg, Int.natAbs_natCast], hended, by omega⟩
    · exact ⟨by rw [hsign, Int.natAbs_natCast], hended, by omega⟩
  · rintro ⟨rfl, hended, hrange⟩
    obtain ⟨ds, hwritten, hvalue⟩ := exists_written n.natAbs
    refine ⟨(ds, rest), wholePart_eq_ok_iff.mpr ⟨hwritten, by rw [hvalue], fun c hc =>
      (hended c hc).1⟩, ([], rest), fractionPart_eq_nil_iff.mpr ⟨rfl, fun c hc =>
      (hended c hc).2.1⟩, (none, rest), exponentPart_eq_none_iff.mpr ⟨rfl, fun c hc =>
      (hended c hc).2.2⟩, ?_⟩
    have hnumber : number negative ds [] none = some (.integer n) := by
      rw [number_eq_integer_iff, hvalue]
      have hbounds := pow_bounds
      refine ⟨rfl, rfl, ?_⟩
      split_ifs at hrange ⊢ <;> omega
    rw [hnumber]
    rfl

theorem toDigits_append_ne_sign (n : Nat) : Nat.toDigits 10 n ++ rest ≠ '-' :: cs := by
  obtain ⟨c, others, hdigits⟩ := List.exists_cons_of_ne_nil (@Nat.toDigits_ne_nil n 10)
  have hc : c.isDigit = true :=
    Nat.isDigit_of_mem_toDigits (by decide) (by decide) (hdigits ▸ List.mem_cons_self)
  rw [hdigits, List.cons_append]
  rintro ⟨⟩
  exact absurd hc (by decide)

/-- An integer has one literal: its digits without superfluous zeros, after a minus sign if it is
negative. -/
theorem numeral_eq_integer_iff {n : Int} : numeral cs = .ok (some (.integer n), rest) ↔
    cs = integerText n ++ rest ∧ Ended rest ∧ -Int.pow 2 63 ≤ n ∧ n < Int.pow 2 64 := by
  have hbounds := pow_bounds
  unfold numeral
  split
  · next cs =>
    rw [unsigned_eq_integer_iff, if_pos rfl, integerText]
    split_ifs with hn
    · rw [List.cons_append, List.cons.injEq, eq_self, true_and]
      refine and_congr_right fun _ => and_congr_right fun _ => ?_
      omega
    · exact iff_of_false (fun ⟨_, _, _, h⟩ => hn h) fun ⟨h, _⟩ =>
        toDigits_append_ne_sign n.natAbs h.symm
  · next hsign =>
    rw [unsigned_eq_integer_iff, if_neg (by decide), integerText]
    split_ifs with hn
    · exact iff_of_false (fun ⟨_, _, h, _⟩ => absurd hn (Int.not_lt.mpr h)) fun ⟨h, _⟩ =>
        hsign _ h
    · refine and_congr_right fun _ => and_congr_right fun _ => ?_
      omega

/-- A number starts with a sign or a digit. -/
def Starts (c : Char) : Prop := c = '-' ∨ c.isDigit = true

theorem exists_starts_of_integerText (n : Int) :
    ∃ c others, integerText n = c :: others ∧ Starts c := by
  unfold integerText
  split_ifs with hn
  · exact ⟨'-', _, rfl, .inl rfl⟩
  · obtain ⟨c, others, hdigits⟩ := List.exists_cons_of_ne_nil (@Nat.toDigits_ne_nil n.natAbs 10)
    refine ⟨c, others, hdigits, .inr ?_⟩
    exact Nat.isDigit_of_mem_toDigits (by decide) (by decide) (hdigits ▸ List.mem_cons_self)

end Literal

namespace Outline

open Literal (Ended Starts)

variable {cs rest : List Char} {fuel : Nat}

/-- A number is read where one starts. -/
theorem readValue_of_starts {c : Char} {front : List Char} (hc : Starts c)
    (hcs : skipBlanks cs = c :: front) :
    readValue (fuel + 1) cs = ofScan .word number (Literal.numeral (c :: front)) := by
  rw [readValue, hcs]
  split <;> rename_i h
  -- The last alternative is that of a number; no other starts with a sign or a digit.
  case h_8 =>
    obtain ⟨rfl, rfl⟩ := List.cons.inj h
    exact if_pos hc
  all_goals cases h
  all_goals exact absurd hc (by unfold Starts; decide)

theorem ofKeyword_ne_number {v : Outline} {scan : Except Break (List Char)}
    {content : Option Number} {after : Option (List Char)} (hv : v ≠ number content) :
    ofKeyword v scan ≠ (number content, after) := by
  cases scan with
  | error defect => exact fun h => nomatch (Prod.mk.inj h).1
  | ok rest => exact fun h => hv (Prod.mk.inj h).1

/-- Nothing else is read as a number. -/
theorem exists_starts_of_readValue {content : Option Number} {after : Option (List Char)}
    (h : readValue (fuel + 1) cs = (number content, after)) :
    ∃ c front, skipBlanks cs = c :: front ∧ Starts c := by
  rw [readValue] at h
  split at h <;> rename_i hcs
  case h_8 =>
    split_ifs at h with hc
    · exact ⟨_, _, hcs, hc⟩
    · cases h
  case h_1 => cases h
  case h_2 | h_3 | h_4 => exact absurd h (ofKeyword_ne_number nofun)
  case h_5 cs =>
    generalize Literal.quoted cs = scan at h
    cases scan <;> cases h
  case h_6 => split at h <;> cases h
  case h_7 => split at h <;> cases h

/-- An integer is read where its literal stands. -/
theorem readValue_eq_integer_iff {n : Int} :
    readValue (fuel + 1) cs = (number (some (.integer n)), some rest) ↔
      skipBlanks cs = integerText n ++ rest ∧ Ended rest ∧ -Int.pow 2 63 ≤ n ∧ n < Int.pow 2 64 := by
  rw [← Literal.numeral_eq_integer_iff]
  constructor
  · intro h
    obtain ⟨c, front, hcs, hc⟩ := exists_starts_of_readValue h
    rw [readValue_of_starts hc hcs] at h
    rw [hcs]
    generalize Literal.numeral (c :: front) = scan at h ⊢
    rcases scan with defect | ⟨content, after⟩
    · cases h
    · cases h
      rfl
  · intro h
    obtain ⟨c, others, hcs, hc⟩ := Literal.exists_starts_of_integerText n
    have hfront := (Literal.numeral_eq_integer_iff.mp h).1
    rw [hcs, List.cons_append] at hfront
    rw [readValue_of_starts hc hfront, ← hfront, h]
    rfl

end Outline

end EditorSession.Json
