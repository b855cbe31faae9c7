import Clarisal.Lib.Lines
import Clarisal.Lib.Numeral
import Clarisal.Payroll.TaxMasters
import Mathlib.Data.List.DropRight

/-!
# Fiscal-year labels that match

A year has one label for each spelling, and three things are meant to see through the
spelling: the normal form, the set of aliases, and the filter of a query by the aliases.

Both lose digits. The normal form prints the years without the zeros in front, so
`2024-0025` becomes `2024-25`, which is read as another label
(`normalizeFiscalYearLabel_normalizeFiscalYearLabel_iff`). The short alias keeps two digits
of the last year and not its century, so `2024-2025` and `2024-2125` both have the alias
`2024-25`. What an alias is, `mem_fiscalYearLabelAliases` says; the rest is which two labels
have one in common.
-/

namespace Payroll

variable {a b : String} {s e y z : ℕ}

/-! ## The text of a label -/

/-- The text the label is read from. -/
def labelText (fiscalYear : String) : List Char :=
  (strip fiscalYear.toList).map (fun c => if c = '/' then '-' else c)

/-- **A stripped text has nothing to strip.** -/
theorem strip_strip (text : List Char) : strip (strip text) = strip text :=
  Lines.strip_strip isSpace text

/-- Stripping does not see a letter replaced by another that is no space. -/
theorem strip_map {f : Char → Char} (hf : ∀ c, isSpace (f c) = isSpace c) (text : List Char) :
    strip (text.map f) = (strip text).map f := by
  have hcomp : isSpace ∘ f = isSpace := funext hf
  unfold strip
  rw [List.dropWhile_map, hcomp, ← List.map_reverse, List.dropWhile_map, hcomp, List.map_reverse]

/-- The text of a label is a label of the same text. -/
theorem labelText_labelText (fiscalYear : String) :
    labelText (String.ofList (labelText fiscalYear)) = labelText fiscalYear := by
  unfold labelText
  rw [String.toList_ofList, strip_map, strip_strip, List.map_map]
  · refine List.map_congr_left fun c _ => ?_
    show (if (if c = '/' then '-' else c) = '/' then '-' else if c = '/' then '-' else c) = _
    split <;> simp_all
  · intro c
    split
    · next h => rw [h]; decide
    · rfl

theorem normalizeFiscalYearLabel_eq (fiscalYear : String) :
    normalizeFiscalYearLabel fiscalYear
      = match fiscalYears (labelText fiscalYear) with
        | none => String.ofList (labelText fiscalYear)
        | some (startYear, endYear) => s!"{startYear}-{endYear}" := rfl

/-! ## The reading of a label -/

/-- **A label** `YYYY-YY` or `YYYY-YYYY`, with a hyphen or a slash, and the numbers it writes. -/
structure YearLabel (fiscalYear : String) where
  startToken : List Char
  endToken : List Char
  text : labelText fiscalYear = startToken ++ '-' :: endToken
  length_startToken : startToken.length = 4
  length_endToken : endToken.length = 2 ∨ endToken.length = 4
  startYear : ℕ
  number_startToken : decimalNumber startToken = some startYear
  endNumber : ℕ
  number_endToken : decimalNumber endToken = some endNumber

/-- **The last year** the label names. -/
def YearLabel.endYear (A : YearLabel a) : ℕ :=
  if A.endToken.length = 2 then completed A.startYear A.endNumber else A.endNumber

/-- A token of `w` digits writes a number below `10 ^ w`. -/
theorem decimalNumber_lt {token : List Char} {n : ℕ} (h : decimalNumber token = some n) :
    n < 10 ^ token.length := by
  induction token using List.reverseRecOn generalizing n with
  | nil =>
    rw [decimalNumber_nil] at h
    cases h
    exact Nat.one_pos
  | append_singleton token c ih =>
    rw [decimalNumber_concat] at h
    obtain ⟨m, hm, hlast⟩ := Option.bind_eq_some_iff.mp h
    obtain ⟨v, hv, rfl⟩ := Option.map_eq_some_iff.mp hlast
    have hm := ih hm
    have hv := decimalValue_lt hv
    rw [List.length_append, List.length_singleton, Nat.pow_succ]
    omega

/-- A text splits at its first hyphen in one way. -/
theorem append_hyphen_inj {xs ys zs ws : List Char} (hxs : '-' ∉ xs) (hys : '-' ∉ ys)
    (h : xs ++ '-' :: zs = ys ++ '-' :: ws) : xs = ys ∧ zs = ws := by
  induction xs generalizing ys with
  | nil =>
    cases ys with
    | nil => exact ⟨rfl, (List.cons.inj h).2⟩
    | cons y ys => exact absurd ((List.cons.inj h).1 ▸ List.mem_cons_self) hys
  | cons x xs ih =>
    cases ys with
    | nil => exact absurd ((List.cons.inj h).1 ▸ List.mem_cons_self) hxs
    | cons y ys =>
      obtain ⟨rfl, htail⟩ := List.cons.inj h
      have htail := ih (List.not_mem_of_not_mem_cons hxs) (List.not_mem_of_not_mem_cons hys) htail
      exact ⟨congrArg _ htail.1, htail.2⟩

namespace YearLabel

theorem startYear_lt (A : YearLabel a) : A.startYear < 10000 := by
  have hlt := decimalNumber_lt A.number_startToken
  rwa [A.length_startToken] at hlt

/-- The years of a label are what the code reads. -/
theorem fiscalYears_labelText (A : YearLabel a) :
    fiscalYears (labelText a) = some (A.startYear, A.endYear) := by
  rw [A.text, fiscalYears_append_hyphen A.number_startToken A.number_endToken]
  unfold endYear
  have hstart := A.length_startToken
  rcases A.length_endToken with h | h
  · rw [if_pos ⟨hstart, h⟩, if_pos h]
  · rw [if_neg (by omega), if_pos ⟨hstart, h⟩, if_neg (by omega)]

/-- **What the code reads as years is a label.** -/
theorem of_fiscalYears {years : ℕ × ℕ} (h : fiscalYears (labelText a) = some years) :
    ∃ A : YearLabel a, (A.startYear, A.endYear) = years := by
  suffices hlabel : Nonempty (YearLabel a) by
    obtain ⟨A⟩ := hlabel
    exact ⟨A, Option.some.inj (A.fiscalYears_labelText.symm.trans h)⟩
  generalize hvalue : labelText a = value at h
  unfold fiscalYears at h
  split at h
  · next endToken hdrop =>
    have hfour : (value.take 4).length = 4 := by
      by_contra hne
      rw [if_neg hne] at h
      cases h
    rw [if_pos hfour] at h
    obtain ⟨startYear, hstart, h⟩ := Option.bind_eq_some_iff.mp h
    obtain ⟨endNumber, hend, h⟩ := Option.bind_eq_some_iff.mp h
    have hlength : endToken.length = 2 ∨ endToken.length = 4 := by
      by_contra hne
      rw [not_or] at hne
      rw [if_neg hne.1, if_neg hne.2] at h
      cases h
    exact ⟨{
      startToken := value.take 4
      endToken := endToken
      text := by rw [hvalue, ← hdrop, List.take_append_drop]
      length_startToken := hfour
      length_endToken := hlength
      startYear := startYear
      number_startToken := hstart
      endNumber := endNumber
      number_endToken := hend }⟩
  · cases h

/-- **The normal form** prints the years of the label. -/
theorem normalize (A : YearLabel a) :
    normalizeFiscalYearLabel a = s!"{A.startYear}-{A.endYear}" := by
  rw [normalizeFiscalYearLabel_eq, A.fiscalYears_labelText]

end YearLabel

/-! ## The normal form, again -/

/-- A text without spaces and slashes is the label's text. -/
theorem labelText_eq_toList (h : ∀ c ∈ a.toList, isSpace c = false ∧ c ≠ '/') :
    labelText a = a.toList := by
  unfold labelText
  rw [strip_of_not_isSpace fun c hc => (h c hc).1]
  exact (List.map_congr_left fun c hc => if_neg (h c hc).2).trans (List.map_id _)

theorem plain_append_hyphen {xs ys : List Char} (hxs : ∀ c ∈ xs, isSpace c = false ∧ c ≠ '/')
    (hys : ∀ c ∈ ys, isSpace c = false ∧ c ≠ '/') :
    ∀ c ∈ xs ++ '-' :: ys, isSpace c = false ∧ c ≠ '/' := by
  intro c hc
  rcases List.mem_append.mp hc with hc | hc
  · exact hxs c hc
  · rcases List.mem_cons.mp hc with rfl | hc
    · decide
    · exact hys c hc

theorem plain_toDigits (n : ℕ) : ∀ c ∈ Nat.toDigits 10 n, isSpace c = false ∧ c ≠ '/' :=
  fun _ hc => ⟨(isSpace_of_mem_toDigits hc).1, (isSpace_of_mem_toDigits hc).2.1⟩

theorem plain_zeroPad (w n : ℕ) : ∀ c ∈ zeroPad w n, isSpace c = false ∧ c ≠ '/' := by
  intro c hc
  rw [zeroPad_eq] at hc
  rcases List.mem_append.mp hc with hc | hc
  · rw [List.eq_of_mem_replicate hc]
    decide
  · exact plain_toDigits n c hc

/-- The text of a printed label. -/
theorem labelText_label (s e : ℕ) :
    labelText s!"{s}-{e}" = Nat.toDigits 10 s ++ '-' :: Nat.toDigits 10 e := by
  rw [labelText_eq_toList, toList_label]
  rw [toList_label]
  exact plain_append_hyphen (plain_toDigits s) (plain_toDigits e)

theorem toDigits_inj {n m : ℕ} (h : Nat.toDigits 10 n = Nat.toDigits 10 m) : n = m :=
  Option.some.inj (by rw [← decimalNumber_toDigits n, ← decimalNumber_toDigits m, h])

/-- The part before the hyphen tells the first year. -/
theorem toDigits_hyphen_inj {xs ys : List Char}
    (h : Nat.toDigits 10 s ++ '-' :: xs = Nat.toDigits 10 y ++ '-' :: ys) :
    s = y ∧ xs = ys :=
  (append_hyphen_inj (hyphen_notMem_of_decimalNumber (decimalNumber_toDigits s))
    (hyphen_notMem_of_decimalNumber (decimalNumber_toDigits y)) h).imp_left toDigits_inj

/-- **Labels print alike only for the same years.** -/
theorem label_inj : s!"{s}-{e}" = s!"{y}-{z}" ↔ s = y ∧ e = z := by
  constructor
  · intro h
    have htext := congrArg String.toList h
    rw [toList_label, toList_label] at htext
    exact (toDigits_hyphen_inj htext).imp_right toDigits_inj
  · rintro ⟨rfl, rfl⟩
    rfl

theorem length_toDigits_eq_two (n : ℕ) :
    (Nat.toDigits 10 n).length = 2 ↔ 10 ≤ n ∧ n < 100 := by
  have hone := Nat.length_toDigits_le_iff (n := n) (by decide : 1 < 10) (by decide : 0 < 1)
  have htwo := Nat.length_toDigits_le_iff (n := n) (by decide : 1 < 10) (by decide : 0 < 2)
  norm_num at hone htwo
  omega

theorem length_toDigits_eq_four (n : ℕ) :
    (Nat.toDigits 10 n).length = 4 ↔ 1000 ≤ n ∧ n < 10000 := by
  have hthree := Nat.length_toDigits_le_iff (n := n) (by decide : 1 < 10) (by decide : 0 < 3)
  have hfour := Nat.length_toDigits_le_iff (n := n) (by decide : 1 < 10) (by decide : 0 < 4)
  norm_num at hthree hfour
  omega

/-- **What a printed label is read as.** -/
theorem fiscalYears_printed (s e : ℕ) :
    fiscalYears (labelText s!"{s}-{e}")
      = if (1000 ≤ s ∧ s < 10000) ∧ 10 ≤ e ∧ e < 100 then some (s, completed s e)
        else if (1000 ≤ s ∧ s < 10000) ∧ 1000 ≤ e ∧ e < 10000 then some (s, e) else none := by
  rw [labelText_label,
    fiscalYears_append_hyphen (decimalNumber_toDigits s) (decimalNumber_toDigits e)]
  simp only [length_toDigits_eq_two, length_toDigits_eq_four]

/-- A completed year comes after the year it is completed from. -/
theorem lt_completed (s : ℕ) {n : ℕ} (hn : n < 100) :
    s < completed s n ∧ completed s n ≤ s + 100 ∧ completed s n % 100 = n := by
  unfold completed
  split <;> omega

/-- **The normal form drops zeros it needs**: those of a last year `00YY`. -/
def YearLabel.DropsZeros (A : YearLabel a) : Prop :=
  A.endToken.length = 4 ∧ 1000 ≤ A.startYear ∧ 10 ≤ A.endNumber ∧ A.endNumber < 100

namespace YearLabel

theorem endNumber_lt (A : YearLabel a) (h : A.endToken.length = 2) : A.endNumber < 100 := by
  have hlt := decimalNumber_lt A.number_endToken
  rwa [h] at hlt

theorem endYear_eq_endNumber (A : YearLabel a) (h : A.endToken.length = 4) :
    A.endYear = A.endNumber := by
  rw [endYear, if_neg (by omega)]

theorem endYear_eq_completed (A : YearLabel a) (h : A.endToken.length = 2) :
    A.endYear = completed A.startYear A.endNumber :=
  if_pos h

/-- The last year has two digits, after a first year of four, only by its zeros. -/
theorem dropsZeros_iff (A : YearLabel a) :
    A.DropsZeros ↔ 1000 ≤ A.startYear ∧ 10 ≤ A.endYear ∧ A.endYear < 100 := by
  unfold DropsZeros endYear
  have hlength := A.length_endToken
  split
  · next h =>
    have hlt := lt_completed A.startYear (A.endNumber_lt h)
    omega
  · omega

end YearLabel

/-- **The normal form is its own normal form** unless it drops zeros. -/
theorem normalizeFiscalYearLabel_idem_iff (a : String) :
    normalizeFiscalYearLabel (normalizeFiscalYearLabel a) = normalizeFiscalYearLabel a
      ↔ ∀ A : YearLabel a, ¬ A.DropsZeros := by
  cases hread : fiscalYears (labelText a) with
  | none =>
    have hnorm : normalizeFiscalYearLabel a = String.ofList (labelText a) := by
      rw [normalizeFiscalYearLabel_eq, hread]
    refine iff_of_true ?_ fun A _ => ?_
    · rw [hnorm, normalizeFiscalYearLabel_eq, labelText_labelText, hread]
    · rw [A.fiscalYears_labelText] at hread
      cases hread
  | some years =>
    obtain ⟨A, hA⟩ := YearLabel.of_fiscalYears hread
    have hsame : ∀ B : YearLabel a, B.DropsZeros ↔ A.DropsZeros := by
      intro B
      have hyears := hread ▸ B.fiscalYears_labelText
      rw [← hA] at hyears
      obtain ⟨hs, he⟩ := Prod.mk.inj (Option.some.inj hyears)
      rw [B.dropsZeros_iff, A.dropsZeros_iff, hs, he]
    have hall : (∀ B : YearLabel a, ¬ B.DropsZeros) ↔ ¬ A.DropsZeros :=
      ⟨fun h => h A, fun h B hB => h ((hsame B).mp hB)⟩
    rw [hall, A.dropsZeros_iff, A.normalize, normalizeFiscalYearLabel_eq, fiscalYears_printed]
    have hstart := A.startYear_lt
    by_cases hdrops : 1000 ≤ A.startYear ∧ 10 ≤ A.endYear ∧ A.endYear < 100
    · rw [if_pos ⟨⟨hdrops.1, hstart⟩, hdrops.2⟩]
      refine iff_of_false (fun h => ?_) (not_not_intro hdrops)
      have hlt := lt_completed A.startYear hdrops.2.2
      have hend := (label_inj.mp h).2
      omega
    · rw [if_neg fun h => hdrops ⟨h.1.1, h.2⟩]
      refine iff_of_true ?_ hdrops
      by_cases hread : (1000 ≤ A.startYear ∧ A.startYear < 10000) ∧ 1000 ≤ A.endYear
          ∧ A.endYear < 10000
      · rw [if_pos hread]
      · rw [if_neg hread]
        show String.ofList _ = _
        rw [labelText_label, ← toList_label, String.ofList_toList]

/-! ## Aliases -/

/-- The short form of a label: the last year by its last two digits. -/
def shortLabel (s e : ℕ) : String :=
  String.ofList (Nat.toDigits 10 s ++ '-' :: zeroPad 2 (e % 100))

/-- **The short form** of a number of four digits is its last two. -/
theorem drop_toDigits (h : 1000 ≤ e ∧ e < 10000) :
    (Nat.toDigits 10 e).drop 2 = zeroPad 2 (e % 100) := by
  have hlast (n : ℕ) (hn : 10 ≤ n) :
      Nat.toDigits 10 n = Nat.toDigits 10 (n / 10) ++ [Nat.digitChar (n % 10)] :=
    Nat.toDigits_of_base_le (by decide) hn
  have htwo : (Nat.toDigits 10 (e / 10 / 10)).length = 2 :=
    (length_toDigits_eq_two _).mpr (by omega)
  rw [hlast e (by omega), hlast (e / 10) (by omega), List.append_assoc, List.drop_left' htwo,
    zeroPad_succ Nat.one_pos, zeroPad_eq, Nat.toDigits_of_lt_base (by omega),
    show e % 100 / 10 = e / 10 % 10 by omega, show e % 100 % 10 = e % 10 by omega]
  rfl

/-- Which printed labels have two years of four digits. -/
theorem four_digits_iff (hs : s < 10000) :
    ((Nat.toDigits 10 s ++ '-' :: Nat.toDigits 10 e).length = 9
        ∧ (fiscalYears (Nat.toDigits 10 s ++ '-' :: Nat.toDigits 10 e)).isSome = true)
      ↔ 1000 ≤ s ∧ 1000 ≤ e ∧ e < 10000 := by
  have htwo := length_toDigits_eq_two e
  have hfour := length_toDigits_eq_four e
  have hstart := length_toDigits_eq_four s
  rw [← labelText_label, fiscalYears_printed, labelText_label, List.length_append,
    List.length_cons]
  constructor
  · rintro ⟨hlength, hsome⟩
    split at hsome
    · omega
    · split at hsome
      · omega
      · cases hsome
  · intro h
    rw [if_neg (by omega), if_pos ⟨⟨h.1, hs⟩, h.2⟩]
    exact ⟨by omega, rfl⟩

/-- **Aliases**: the normal form and, when its years have four digits, the short form. -/
theorem mem_fiscalYearLabelAliases (A : YearLabel a) (label : String) :
    label ∈ fiscalYearLabelAliases a
      ↔ label = s!"{A.startYear}-{A.endYear}"
        ∨ (1000 ≤ A.startYear ∧ 1000 ≤ A.endYear ∧ A.endYear < 10000)
          ∧ label = shortLabel A.startYear A.endYear := by
  have hne : s!"{A.startYear}-{A.endYear}" ≠ "" := by
    intro h
    have htext := congrArg String.toList h
    rw [toList_label] at htext
    exact List.cons_ne_nil _ _ (List.append_eq_nil_iff.mp htext).2
  unfold fiscalYearLabelAliases
  rw [A.normalize]
  dsimp only
  rw [if_neg hne, toList_label]
  by_cases hfull : 1000 ≤ A.startYear ∧ 1000 ≤ A.endYear ∧ A.endYear < 10000
  · rw [if_pos ((four_digits_iff A.startYear_lt).mpr hfull), List.mem_pair, and_iff_right hfull]
    have hs := (length_toDigits_eq_four A.startYear).mpr ⟨hfull.1, A.startYear_lt⟩
    have htake (rest : List Char) :
        (Nat.toDigits 10 A.startYear ++ '-' :: rest).take 5
          = Nat.toDigits 10 A.startYear ++ ['-'] := by
      rw [List.append_cons, List.take_left' (by rw [List.length_append, hs]; rfl)]
    have hdrop (rest : List Char) :
        (Nat.toDigits 10 A.startYear ++ '-' :: rest).drop 7 = rest.drop 2 := by
      rw [List.drop_append, List.drop_eq_nil_of_le (by omega), hs]
      rfl
    rw [htake, hdrop, drop_toDigits hfull.2, List.append_assoc]
    rfl
  · rw [if_neg fun h => hfull ((four_digits_iff A.startYear_lt).mp h), List.mem_singleton]
    exact (or_iff_left fun h => hfull h.1).symm

/-- A padded numeral is read as its number. -/
theorem decimalNumber_zeroPad (w n : ℕ) : decimalNumber (zeroPad w n) = some n := by
  have hzeros : ∀ k : ℕ, decimalNumber (List.replicate k '0') = some 0 := by
    intro k
    induction k with
    | zero => rfl
    | succ k ih =>
      rw [List.replicate_succ', decimalNumber_concat, ih]
      decide
  have hdigits := decimalNumber_toDigits n
  unfold decimalNumber at hzeros hdigits ⊢
  rw [zeroPad_eq, List.foldlM_append, hzeros]
  exact hdigits

/-- A number with the digits asked for is not padded. -/
theorem zeroPad_eq_toDigits {w n : ℕ} (h : w ≤ (Nat.toDigits 10 n).length) :
    zeroPad w n = Nat.toDigits 10 n := by
  rw [zeroPad_eq, Nat.sub_eq_zero_of_le h]
  rfl

theorem toList_shortLabel (s e : ℕ) :
    (shortLabel s e).toList = Nat.toDigits 10 s ++ '-' :: zeroPad 2 (e % 100) :=
  String.toList_ofList

/-- **Short forms agree** when the first years do and the last two digits. -/
theorem shortLabel_inj : shortLabel s e = shortLabel y z ↔ s = y ∧ e % 100 = z % 100 := by
  constructor
  · intro h
    have htext := congrArg String.toList h
    rw [toList_shortLabel, toList_shortLabel] at htext
    refine (toDigits_hyphen_inj htext).imp_right fun hend => Option.some.inj ?_
    rw [← decimalNumber_zeroPad 2 (e % 100), ← decimalNumber_zeroPad 2 (z % 100), hend]
  · rintro ⟨rfl, he⟩
    rw [shortLabel, he]
    rfl

/-- **A printed label is a short form** when its last year has two digits. -/
theorem label_eq_shortLabel_iff :
    s!"{y}-{z}" = shortLabel s e ↔ y = s ∧ 10 ≤ z ∧ z = e % 100 := by
  have hlt := Nat.mod_lt e (by decide : 0 < 100)
  constructor
  · intro h
    have htext := congrArg String.toList h
    rw [toList_label, toList_shortLabel] at htext
    refine (toDigits_hyphen_inj htext).imp_right fun hend => ⟨?_, Option.some.inj ?_⟩
    · refine ((length_toDigits_eq_two z).mp ?_).1
      rw [hend, length_zeroPad (by decide) hlt]
    · rw [← decimalNumber_toDigits z, ← decimalNumber_zeroPad 2 (e % 100), hend]
  · rintro ⟨rfl, hten, rfl⟩
    have hlength := (length_toDigits_eq_two _).mpr ⟨hten, hlt⟩
    refine String.toList_inj.mp ?_
    rw [toList_label, toList_shortLabel, zeroPad_eq_toDigits hlength.ge]

/-! ## Two labels with an alias in common -/

namespace YearLabel

variable (A : YearLabel a) (B : YearLabel b)

/-- The same years. -/
def SameYears : Prop := A.startYear = B.startYear ∧ A.endYear = B.endYear

/-- The last year has four digits, as has the first: there is a short form. -/
def HasShortForm : Prop := 1000 ≤ A.startYear ∧ 1000 ≤ A.endYear ∧ A.endYear < 10000

/-- The normal form has a last year of two digits, after a first year of four. -/
def IsShortForm : Prop := 1000 ≤ A.startYear ∧ 10 ≤ A.endYear ∧ A.endYear < 100

/-- **Two labels share a short form** of different years: the last years differ by their
century. -/
def SharesShortForm : Prop :=
  A.startYear = B.startYear ∧ A.endYear ≠ B.endYear ∧ A.endYear % 100 = B.endYear % 100
    ∧ (A.HasShortForm ∨ A.IsShortForm) ∧ (B.HasShortForm ∨ B.IsShortForm)

variable {A B}

/-- **Normal forms are equal** for the same years. -/
theorem normalize_eq_iff :
    normalizeFiscalYearLabel a = normalizeFiscalYearLabel b ↔ A.SameYears B := by
  rw [A.normalize, B.normalize, label_inj]
  exact Iff.rfl

/-- A normal form is an alias of another label as its short form. -/
theorem normalize_mem_aliases_iff :
    normalizeFiscalYearLabel b ∈ fiscalYearLabelAliases a
      ↔ A.SameYears B ∨ A.HasShortForm ∧ A.startYear = B.startYear ∧ 10 ≤ B.endYear
        ∧ B.endYear = A.endYear % 100 := by
  rw [mem_fiscalYearLabelAliases A, ← A.normalize, eq_comm, normalize_eq_iff, B.normalize,
    label_eq_shortLabel_iff, eq_comm (a := B.startYear)]
  exact Iff.rfl

theorem shortLabel_mem_aliases (A : YearLabel a) (h : A.HasShortForm ∨ A.IsShortForm) :
    shortLabel A.startYear A.endYear ∈ fiscalYearLabelAliases a := by
  rw [mem_fiscalYearLabelAliases A]
  rcases h with h | ⟨-, hten, hlt⟩
  · exact Or.inr ⟨h, rfl⟩
  · exact Or.inl (label_eq_shortLabel_iff.mpr ⟨rfl, hten, (Nat.mod_eq_of_lt hlt).symm⟩).symm

/-- **Aliases meet** for the same years and for a shared short form. -/
theorem aliases_meet_iff :
    (∃ label ∈ fiscalYearLabelAliases a, label ∈ fiscalYearLabelAliases b)
      ↔ A.SameYears B ∨ A.SharesShortForm B := by
  unfold SameYears SharesShortForm HasShortForm IsShortForm
  constructor
  · rintro ⟨label, hlabelA, hlabelB⟩
    rw [mem_fiscalYearLabelAliases A] at hlabelA
    rw [mem_fiscalYearLabelAliases B] at hlabelB
    rcases hlabelA with rfl | ⟨hA, rfl⟩
    · rcases hlabelB with h | ⟨hB, h⟩
      · exact Or.inl (label_inj.mp h)
      · have h := label_eq_shortLabel_iff.mp h
        omega
    · rcases hlabelB with h | ⟨hB, h⟩
      · have h := label_eq_shortLabel_iff.mp h.symm
        omega
      · have h := shortLabel_inj.mp h
        omega
  · rintro (hsame | ⟨hs, -, hmod, hA, hB⟩)
    · have hA : A.SameYears A := ⟨rfl, rfl⟩
      refine ⟨normalizeFiscalYearLabel a, normalize_mem_aliases_iff.mpr (Or.inl hA), ?_⟩
      exact normalize_mem_aliases_iff.mpr (Or.inl ⟨hsame.1.symm, hsame.2.symm⟩)
    · refine ⟨shortLabel A.startYear A.endYear, A.shortLabel_mem_aliases hA, ?_⟩
      rw [shortLabel_inj.mpr ⟨hs, hmod⟩]
      exact B.shortLabel_mem_aliases hB

/-! ## The rows a query finds -/

/-- A query filters by the aliases. -/
theorem ofFiscalYear_iff (A : YearLabel a) (row : PayrollTaxSlabSetRow) :
    ofFiscalYear a row = true ↔ row.fiscalYear ∈ fiscalYearLabelAliases a := by
  have hA : A.SameYears A := ⟨rfl, rfl⟩
  have hmem := (normalize_mem_aliases_iff (A := A)).mpr (Or.inl hA)
  unfold ofFiscalYear
  split
  · next hnil =>
    rw [hnil] at hmem
    cases hmem
  · exact decide_eq_true_iff

/-- **Spelt plainly**: with a hyphen, the ten ASCII digits and no space around. -/
def Plain (B : YearLabel b) : Prop :=
  b.toList = zeroPad 4 B.startYear ++ '-' :: zeroPad B.endToken.length B.endNumber

/-- **A row that is missed**: of the same years, stored under a spelling that is no alias. -/
def Missed (A : YearLabel a) (B : YearLabel b) : Prop :=
  A.SameYears B ∧ ¬ (B.Plain ∧ A.HasShortForm)

/-- **A row that is mistaken**: of another century, stored under a short label that is an
alias. -/
def Mistaken (A : YearLabel a) (B : YearLabel b) : Prop :=
  A.startYear = B.startYear ∧ A.endYear ≠ B.endYear ∧ B.Plain ∧ B.endToken.length = 2
    ∧ B.endNumber = A.endYear % 100 ∧ (A.HasShortForm ∨ A.IsShortForm)

/-- The tokens of a label that is stored as it is printed. -/
theorem tokens_of_printed (B : YearLabel b) {ys : List Char}
    (hys : ∀ c ∈ ys, isSpace c = false ∧ c ≠ '/')
    (h : b.toList = Nat.toDigits 10 s ++ '-' :: ys) :
    B.startYear = s ∧ zeroPad 4 s = Nat.toDigits 10 s ∧ 1000 ≤ s ∧ B.endToken = ys := by
  have htext : labelText b = b.toList := by
    refine labelText_eq_toList ?_
    rw [h]
    exact plain_append_hyphen (plain_toDigits s) hys
  obtain ⟨hstart, hend⟩ := append_hyphen_inj (hyphen_notMem_of_decimalNumber B.number_startToken)
    (hyphen_notMem_of_decimalNumber (decimalNumber_toDigits s))
    (B.text.symm.trans (htext.trans h))
  have hlength := B.length_startToken
  have hnumber := B.number_startToken
  rw [hstart] at hlength hnumber
  refine ⟨?_, zeroPad_eq_toDigits hlength.ge, ((length_toDigits_eq_four s).mp hlength).1, hend⟩
  exact Option.some.inj (hnumber.symm.trans (decimalNumber_toDigits s))

/-- **A stored label is an alias** when it is spelt plainly, and writes the last year or its
last two digits. -/
theorem mem_aliases_iff :
    b ∈ fiscalYearLabelAliases a
      ↔ B.Plain ∧ A.startYear = B.startYear ∧ 1000 ≤ A.startYear
        ∧ ((B.endToken.length = 4 ∧ 1000 ≤ A.endYear ∧ B.endNumber = A.endYear)
          ∨ (B.endToken.length = 2 ∧ (A.HasShortForm ∨ A.IsShortForm)
            ∧ B.endNumber = A.endYear % 100)) := by
  have hB := B.number_endToken
  have hmod := Nat.mod_lt A.endYear (by decide : 0 < 100)
  constructor
  · intro h
    rcases (mem_fiscalYearLabelAliases A b).mp h with h | ⟨hA, h⟩
    · have hprinted := (congrArg String.toList h).trans (toList_label _ _)
      obtain ⟨hs, hpad, hlarge, hend⟩ := B.tokens_of_printed (plain_toDigits _) hprinted
      rw [hend, decimalNumber_toDigits] at hB
      have he := Option.some.inj hB
      have hplain : B.Plain := by
        rw [Plain, hprinted, hs, ← he, hpad, hend, zeroPad_eq_toDigits le_rfl]
      refine ⟨hplain, hs.symm, hlarge, ?_⟩
      have hlength := B.length_endToken
      rw [hend, length_toDigits_eq_two, length_toDigits_eq_four] at hlength ⊢
      unfold HasShortForm IsShortForm
      omega
    · have hprinted := (congrArg String.toList h).trans (toList_shortLabel _ _)
      obtain ⟨hs, hpad, hlarge, hend⟩ := B.tokens_of_printed (plain_zeroPad _ _) hprinted
      rw [hend, decimalNumber_zeroPad] at hB
      have he := Option.some.inj hB
      have hlength : B.endToken.length = 2 := by
        rw [hend]
        exact length_zeroPad (by decide) hmod
      have hplain : B.Plain := by
        rw [Plain, hprinted, hs, ← he, hpad, hlength]
      exact ⟨hplain, hs.symm, hlarge, Or.inr ⟨hlength, Or.inl hA, he.symm⟩⟩
  · rintro ⟨hplain, hs, hstart, hend⟩
    have hpad : zeroPad 4 B.startYear = Nat.toDigits 10 A.startYear := by
      rw [← hs]
      exact zeroPad_eq_toDigits ((length_toDigits_eq_four _).mpr ⟨hstart, A.startYear_lt⟩).ge
    rcases hend with ⟨hlength, hlarge, he⟩ | ⟨hlength, hA, he⟩
    · have hlt := decimalNumber_lt hB
      rw [hlength] at hlt
      have hfour := (length_toDigits_eq_four A.endYear).mpr (by omega)
      refine (mem_fiscalYearLabelAliases A b).mpr (Or.inl (String.toList_inj.mp ?_))
      rw [hplain, hpad, hlength, he, zeroPad_eq_toDigits hfour.ge, toList_label]
    · have hshort : b = shortLabel A.startYear A.endYear := by
        refine String.toList_inj.mp ?_
        rw [hplain, hpad, hlength, he, toList_shortLabel]
      rw [hshort]
      exact A.shortLabel_mem_aliases hA

/-! ## When labels match -/

/-- **A row stored under the normal form** is found for its years only, unless the normal
form has dropped zeros. -/
theorem finds_normalized_iff (A : YearLabel a) (B : YearLabel b) :
    (normalizeFiscalYearLabel b ∈ fiscalYearLabelAliases a ↔ A.SameYears B)
      ↔ ¬ (B.DropsZeros ∧ A.HasShortForm ∧ A.SharesShortForm B) := by
  have hother : A.HasShortForm ∧ A.startYear = B.startYear ∧ 10 ≤ B.endYear
        ∧ B.endYear = A.endYear % 100
      ↔ B.DropsZeros ∧ A.HasShortForm ∧ A.SharesShortForm B := by
    rw [dropsZeros_iff]
    unfold SharesShortForm HasShortForm IsShortForm
    constructor
    · intro h
      omega
    · intro h
      omega
  rw [normalize_mem_aliases_iff (A := A) (B := B), hother, or_iff_left_iff_imp]
  exact ⟨fun h hshared => hshared.2.2.2.1 (h hshared).2, fun h hshared => absurd hshared h⟩

/-- **A row stored as the label was typed** is found for its years only, unless it is missed or
mistaken. -/
theorem finds_typed_iff (A : YearLabel a) (B : YearLabel b) :
    (b ∈ fiscalYearLabelAliases a ↔ A.SameYears B) ↔ ¬ A.Missed B ∧ ¬ A.Mistaken B := by
  have hmem := mem_aliases_iff (A := A) (B := B)
  by_cases hsame : A.SameYears B
  · have hmistaken : ¬ A.Mistaken B := fun h => h.2.1 hsame.2
    have hfound : b ∈ fiscalYearLabelAliases a ↔ B.Plain ∧ A.HasShortForm := by
      obtain ⟨hs, he⟩ := hsame
      rw [hmem, and_iff_right hs]
      refine and_congr_right fun _ => ?_
      unfold HasShortForm IsShortForm
      rcases B.length_endToken with hlength | hlength
      · have hlt := lt_completed B.startYear (B.endNumber_lt hlength)
        rw [B.endYear_eq_completed hlength] at he
        omega
      · have hlt := decimalNumber_lt B.number_endToken
        rw [B.endYear_eq_endNumber hlength] at he
        rw [hlength] at hlt
        omega
    rw [hfound, iff_true_right hsame, and_iff_left hmistaken, Missed, and_iff_right hsame,
      not_not]
  · have hmissed : ¬ A.Missed B := fun h => hsame h.1
    have hfound : b ∈ fiscalYearLabelAliases a ↔ A.Mistaken B := by
      rw [hmem]
      unfold Mistaken
      constructor
      · rintro ⟨hplain, hs, -, ⟨hlength, -, he⟩ | ⟨hlength, hA, he⟩⟩
        · have hend : A.endYear = B.endYear := by
            rw [B.endYear_eq_endNumber hlength, he]
          exact absurd ⟨hs, hend⟩ hsame
        · exact ⟨hs, fun he => hsame ⟨hs, he⟩, hplain, hlength, he, hA⟩
      · rintro ⟨hs, -, hplain, hlength, he, hA⟩
        exact ⟨hplain, hs, hA.elim And.left And.left, Or.inr ⟨hlength, hA, he⟩⟩
    rw [hfound, iff_false_right hsame, and_iff_right hmissed]

/-- **Labels match as their normal forms do**, unless zeros are dropped or two years share a
short form; and a query finds the rows of its years, unless one is missed or mistaken. -/
theorem labels_match_iff (A : YearLabel a) (B : YearLabel b) (row : PayrollTaxSlabSetRow) :
    (∀ text : String, normalizeFiscalYearLabel (normalizeFiscalYearLabel text)
          = normalizeFiscalYearLabel text ↔ ∀ L : YearLabel text, ¬ L.DropsZeros)
      ∧ (((∃ label ∈ fiscalYearLabelAliases a, label ∈ fiscalYearLabelAliases b)
            ↔ normalizeFiscalYearLabel a = normalizeFiscalYearLabel b)
          ↔ ¬ A.SharesShortForm B)
      ∧ ((ofFiscalYear a { row with fiscalYear := normalizeFiscalYearLabel b } = true
            ↔ normalizeFiscalYearLabel b = normalizeFiscalYearLabel a)
          ↔ ¬ (B.DropsZeros ∧ A.HasShortForm ∧ A.SharesShortForm B))
      ∧ ((ofFiscalYear a { row with fiscalYear := b } = true
            ↔ normalizeFiscalYearLabel b = normalizeFiscalYearLabel a)
          ↔ ¬ A.Missed B ∧ ¬ A.Mistaken B) := by
  have hcomm : normalizeFiscalYearLabel b = normalizeFiscalYearLabel a ↔ A.SameYears B :=
    eq_comm.trans normalize_eq_iff
  refine ⟨normalizeFiscalYearLabel_idem_iff, ?_, ?_, ?_⟩
  · rw [aliases_meet_iff (A := A) (B := B), normalize_eq_iff (A := A) (B := B),
      or_iff_left_iff_imp]
    exact ⟨fun h hshared => hshared.2.1 (h hshared).2, fun h hshared => absurd hshared h⟩
  · rw [ofFiscalYear_iff A, hcomm]
    exact finds_normalized_iff A B
  · rw [ofFiscalYear_iff A, hcomm]
    exact finds_typed_iff A B

end YearLabel

theorem aliases_2024_2025 : fiscalYearLabelAliases "2024-2025" = ["2024-2025", "2024-25"] := by
  have hnorm : normalizeFiscalYearLabel "2024-2025" = "2024-2025" := by decide +kernel
  unfold fiscalYearLabelAliases
  rw [hnorm]
  decide +kernel

/-- **Labels that go wrong**: the normal form `2024-25` of `2024-0025` has another normal form;
`2024-2025` and `2024-2125` share an alias; and `2024-2025` finds what is stored for
`2024-0025`. -/
theorem labels_of_other_years :
    normalizeFiscalYearLabel (normalizeFiscalYearLabel "2024-0025")
        ≠ normalizeFiscalYearLabel "2024-0025"
      ∧ ((∃ label ∈ fiscalYearLabelAliases "2024-2025",
            label ∈ fiscalYearLabelAliases "2024-2125")
          ∧ normalizeFiscalYearLabel "2024-2025" ≠ normalizeFiscalYearLabel "2024-2125")
      ∧ (ofFiscalYear "2024-2025" ⟨0, none, "", "IN", normalizeFiscalYearLabel "2024-0025",
            true, true, false, .individual⟩ = true
          ∧ normalizeFiscalYearLabel "2024-0025" ≠ normalizeFiscalYearLabel "2024-2025") := by
  have hshort : normalizeFiscalYearLabel "2024-0025" = "2024-25" := by decide +kernel
  have hnorm : normalizeFiscalYearLabel "2024-25" = "2024-2025" := by decide +kernel
  have hown : normalizeFiscalYearLabel "2024-2025" = "2024-2025" := by decide +kernel
  have hother : normalizeFiscalYearLabel "2024-2125" = "2024-2125" := by decide +kernel
  have haliases : fiscalYearLabelAliases "2024-2125" = ["2024-2125", "2024-25"] := by
    unfold fiscalYearLabelAliases
    rw [hother]
    decide +kernel
  refine ⟨?_, ⟨?_, ?_⟩, ?_, ?_⟩
  · rw [hshort, hnorm]
    decide +kernel
  · refine ⟨"2024-25", ?_, ?_⟩
    · rw [aliases_2024_2025]
      decide +kernel
    · rw [haliases]
      decide +kernel
  · rw [hown, hother]
    decide +kernel
  · unfold ofFiscalYear
    rw [aliases_2024_2025, hshort]
    decide +kernel
  · rw [hshort, hown]
    decide +kernel

end Payroll
