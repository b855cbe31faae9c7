import Mathlib.Algebra.Order.Ring.Nat
import Mathlib.Data.List.Induction
import Mathlib.Tactic.Common

/-!
# Fiscal-year labels

A fiscal year is stored as the text it was typed in, such as `2024-25`,
`2024/25` or `2024-2025`. `normalizeFiscalYearLabel` is the form labels of one
year share.
-/

namespace Payroll

/-! ## Text -/

/-- White space, as stripping a text sees it. -/
def isSpace (c : Char) : Bool :=
  c.toNat ∈ [0x9, 0xa, 0xb, 0xc, 0xd, 0x1c, 0x1d, 0x1e, 0x1f, 0x20, 0x85, 0xa0, 0x1680, 0x2000,
    0x2001, 0x2002, 0x2003, 0x2004, 0x2005, 0x2006, 0x2007, 0x2008, 0x2009, 0x200a, 0x2028,
    0x2029, 0x202f, 0x205f, 0x3000]

def strip (text : List Char) : List Char :=
  ((text.dropWhile isSpace).reverse.dropWhile isSpace).reverse

/-- The zeros of the scripts with decimal digits; each begins a run of ten. -/
def decimalZeros : List ℕ :=
  [0x30, 0x660, 0x6f0, 0x7c0, 0x966, 0x9e6, 0xa66, 0xae6, 0xb66, 0xbe6, 0xc66, 0xce6, 0xd66,
    0xde6, 0xe50, 0xed0, 0xf20, 0x1040, 0x1090, 0x17e0, 0x1810, 0x1946, 0x19d0, 0x1a80, 0x1a90,
    0x1b50, 0x1bb0, 0x1c40, 0x1c50, 0xa620, 0xa8d0, 0xa900, 0xa9d0, 0xa9f0, 0xaa50, 0xabf0,
    0xff10, 0x104a0, 0x10d30, 0x11066, 0x110f0, 0x11136, 0x111d0, 0x112f0, 0x11450, 0x114d0,
    0x11650, 0x116c0, 0x11730, 0x118e0, 0x11950, 0x11c50, 0x11d50, 0x11da0, 0x16a60, 0x16ac0,
    0x16b50, 0x1d7ce, 0x1d7d8, 0x1d7e2, 0x1d7ec, 0x1d7f6, 0x1e140, 0x1e2f0, 0x1e950, 0x1fbf0]

/-- The value of a decimal digit of any script, which is what `\d` matches. -/
def decimalValue (c : Char) : Option ℕ :=
  (decimalZeros.find? (fun z => z ≤ c.toNat ∧ c.toNat < z + 10)).map (c.toNat - ·)

/-- The number a token of digits writes, if it has nothing else. -/
def decimalNumber (token : List Char) : Option ℕ :=
  token.foldlM (fun n c => (decimalValue c).map (10 * n + ·)) 0

/-! ## The normal form -/

/-- The years of a label `\d{4}-(\d{2}|\d{4})`. A two-digit year is one after
the first year. -/
def fiscalYears (value : List Char) : Option (ℕ × ℕ) :=
  match value.drop 4 with
  | '-' :: endToken => do
    let startYear ← if (value.take 4).length = 4 then decimalNumber (value.take 4) else none
    let end_ ← decimalNumber endToken
    if endToken.length = 2 then
      let endYear := startYear / 100 * 100 + end_
      return (startYear, if endYear ≤ startYear then endYear + 100 else endYear)
    else if endToken.length = 4 then return (startYear, end_)
    else none
  | _ => none

/-- The first year after `startYear` that ends in the digits `n`. -/
def completed (startYear n : ℕ) : ℕ :=
  if startYear / 100 * 100 + n ≤ startYear then startYear / 100 * 100 + n + 100
  else startYear / 100 * 100 + n

def normalizeFiscalYearLabel (fiscalYear : String) : String :=
  let value := (strip fiscalYear.toList).map (fun c => if c = '/' then '-' else c)
  match fiscalYears value with
  | none => String.ofList value
  | some (startYear, endYear) => s!"{startYear}-{endYear}"

example : normalizeFiscalYearLabel " 2099/00 " = "2099-2100" := by decide +kernel

/-! ## The label of a period -/

/-- The label of the fiscal year a month is in. It begins in April. -/
def fiscalYearForPeriod (periodYear periodMonth : ℕ) : String :=
  if 4 ≤ periodMonth then normalizeFiscalYearLabel s!"{periodYear}-{periodYear + 1}"
  else normalizeFiscalYearLabel s!"{periodYear - 1}-{periodYear}"

section

variable {c : Char} {n : ℕ}

theorem decimalValue_lt {c : Char} {v : ℕ} (h : decimalValue c = some v) : v < 10 := by
  obtain ⟨z, hz, rfl⟩ := Option.map_eq_some_iff.mp h
  have hrange := List.find?_some hz
  simp only [decide_eq_true_eq] at hrange
  omega

theorem decimalNumber_nil : decimalNumber [] = some 0 := rfl

/-- **The last digit** of a number. -/
theorem decimalNumber_concat (token : List Char) (c : Char) :
    decimalNumber (token ++ [c])
      = (decimalNumber token).bind (fun n => (decimalValue c).map (10 * n + ·)) := by
  unfold decimalNumber
  rw [List.foldlM_append]
  cases List.foldlM (fun n c => (decimalValue c).map (10 * n + ·)) 0 token with
  | none => rfl
  | some n =>
    show (decimalValue c).map (10 * n + ·) >>= pure = _
    rw [bind_pure, Option.bind_some]

/-- **A printed number is read back.** -/
theorem decimalNumber_toDigits (n : ℕ) : decimalNumber (Nat.toDigits 10 n) = some n := by
  induction n using Nat.strongRecOn with
  | ind n ih =>
    have hlast : ∀ k < 10, decimalValue (Nat.digitChar k) = some k := by decide
    rcases lt_or_ge n 10 with hlt | hge
    · rw [Nat.toDigits_of_lt_base hlt]
      simp [decimalNumber, hlast n hlt]
    · rw [Nat.toDigits_of_base_le (by decide) hge, decimalNumber_concat,
        ih (n / 10) (Nat.div_lt_self (by omega) (by decide)), Option.bind_some,
        hlast _ (Nat.mod_lt n (by decide)), Option.map_some, Nat.div_add_mod]

/-- A digit is neither space nor punctuation. -/
theorem isSpace_of_mem_toDigits (h : c ∈ Nat.toDigits 10 n) :
    isSpace c = false ∧ c ≠ '/' ∧ c ≠ '-' ∧ c ≠ '+' ∧ c ≠ '_' := by
  have hdigit := Nat.isDigit_of_mem_toDigits (by decide) (by decide) h
  have hrange : 48 ≤ c.toNat ∧ c.toNat ≤ 57 := by
    simpa [Char.isDigit, UInt32.le_iff_toNat_le] using hdigit
  refine ⟨?_, ?_, ?_, ?_, ?_⟩
  · unfold isSpace
    rw [decide_eq_false_iff_not]
    intro hmem
    simp only [List.mem_cons, List.not_mem_nil, or_false] at hmem
    omega
  all_goals
    rintro rfl
    revert hrange
    decide

theorem strip_of_not_isSpace {text : List Char} (h : ∀ c ∈ text, isSpace c = false) :
    strip text = text := by
  have hdrop : ∀ text : List Char, (∀ c ∈ text, isSpace c = false) →
      text.dropWhile isSpace = text := by
    intro text h
    cases text with
    | nil => rfl
    | cons c text => rw [List.dropWhile_cons_of_neg (by simp [h c List.mem_cons_self])]
  unfold strip
  rw [hdrop text h, hdrop _ (by simpa using h), List.reverse_reverse]

theorem toList_label (y z : ℕ) :
    s!"{y}-{z}".toList = Nat.toDigits 10 y ++ '-' :: Nat.toDigits 10 z := by
  show (toString y ++ "-" ++ toString z).toList = _
  rw [String.toList_append, String.toList_append, Nat.toString_eq_repr, Nat.toString_eq_repr,
    Nat.toList_repr, Nat.toList_repr, List.append_assoc]
  rfl

/-- What writes a number has no hyphen. -/
theorem hyphen_notMem_of_decimalNumber {token : List Char} {n : ℕ}
    (h : decimalNumber token = some n) : '-' ∉ token := by
  induction token using List.reverseRecOn generalizing n with
  | nil => exact List.not_mem_nil
  | append_singleton token c ih =>
    rw [decimalNumber_concat] at h
    obtain ⟨m, hm, hlast⟩ := Option.bind_eq_some_iff.mp h
    obtain ⟨v, hv, -⟩ := Option.map_eq_some_iff.mp hlast
    intro hmem
    rcases List.mem_append.mp hmem with hmem | hmem
    · exact ih hm hmem
    · have hnone : decimalValue '-' = none := by decide
      rw [← List.mem_singleton.mp hmem, hnone] at hv
      cases hv

theorem fiscalYears_eq_none {value : List Char} (h : ∀ rest, value.drop 4 ≠ '-' :: rest) :
    fiscalYears value = none := by
  unfold fiscalYears
  split
  · next rest heq => exact absurd heq (h rest)
  · rfl

/-- **A reading needs its hyphen after four digits.** -/
theorem fiscalYears_append_hyphen {xs ys : List Char} {n m : ℕ} (hxs : decimalNumber xs = some n)
    (hys : decimalNumber ys = some m) :
    fiscalYears (xs ++ '-' :: ys)
      = if xs.length = 4 ∧ ys.length = 2 then some (n, completed n m)
        else if xs.length = 4 ∧ ys.length = 4 then some (n, m) else none := by
  rcases Nat.lt_trichotomy xs.length 4 with hlt | heq | hgt
  · rw [if_neg (fun h => hlt.ne h.1), if_neg (fun h => hlt.ne h.1)]
    obtain ⟨k, hk⟩ : ∃ k, 4 - xs.length = k + 1 := ⟨3 - xs.length, by omega⟩
    refine fiscalYears_eq_none fun rest h => hyphen_notMem_of_decimalNumber hys ?_
    rw [List.drop_append, List.drop_eq_nil_of_le hlt.le, hk, List.drop_succ_cons,
      List.nil_append] at h
    exact List.mem_of_mem_drop (h ▸ List.mem_cons_self)
  · unfold fiscalYears
    rw [List.drop_left' heq, List.take_left' heq]
    simp only [hxs, hys, heq, if_true, true_and, Option.bind_eq_bind, Option.bind_some]
    rfl
  · rw [if_neg (fun h => hgt.ne' h.1), if_neg (fun h => hgt.ne' h.1)]
    refine fiscalYears_eq_none fun rest h => hyphen_notMem_of_decimalNumber hxs ?_
    rw [List.drop_append_of_le_length hgt.le] at h
    cases hdrop : xs.drop 4 with
    | nil => exact absurd (List.drop_eq_nil_iff.mp hdrop) (by omega)
    | cons c tail =>
      rw [hdrop] at h
      have hc : c = '-' := (List.cons.inj h).1
      exact List.mem_of_mem_drop (i := 4) (hdrop ▸ hc ▸ List.mem_cons_self)

/-- What a label of two years in a row is read as, if anything. -/
theorem fiscalYears_label (y : ℕ) :
    fiscalYears (Nat.toDigits 10 y ++ '-' :: Nat.toDigits 10 (y + 1)) = none
      ∨ fiscalYears (Nat.toDigits 10 y ++ '-' :: Nat.toDigits 10 (y + 1)) = some (y, y + 1) := by
  rw [fiscalYears_append_hyphen (decimalNumber_toDigits y) (decimalNumber_toDigits (y + 1))]
  split
  · next h =>
    -- a year of four digits is not followed by one of two
    have hlarge : ¬ y < 10 ^ 3 := by
      rw [← Nat.length_toDigits_le_iff (by decide) (by decide), h.1]
      decide
    have hsmall : y + 1 < 10 ^ 2 := by
      rw [← Nat.length_toDigits_le_iff (by decide) (by decide), h.2]
    omega
  · split
    · exact Or.inr rfl
    · exact Or.inl rfl

/-- A label of two years in a row is in normal form. -/
theorem normalizeFiscalYearLabel_label (y : ℕ) :
    normalizeFiscalYearLabel s!"{y}-{y + 1}" = s!"{y}-{y + 1}" := by
  have hplain : ∀ c ∈ Nat.toDigits 10 y ++ '-' :: Nat.toDigits 10 (y + 1),
      isSpace c = false ∧ c ≠ '/' := by
    intro c hc
    rcases List.mem_append.mp hc with hc | hc
    · exact ⟨(isSpace_of_mem_toDigits hc).1, (isSpace_of_mem_toDigits hc).2.1⟩
    · rcases List.mem_cons.mp hc with rfl | hc
      · decide
      · exact ⟨(isSpace_of_mem_toDigits hc).1, (isSpace_of_mem_toDigits hc).2.1⟩
  unfold normalizeFiscalYearLabel
  rw [toList_label, strip_of_not_isSpace (fun c hc => (hplain c hc).1)]
  have hmap : (Nat.toDigits 10 y ++ '-' :: Nat.toDigits 10 (y + 1)).map
      (fun c => if c = '/' then '-' else c)
      = Nat.toDigits 10 y ++ '-' :: Nat.toDigits 10 (y + 1) := by
    conv_rhs => rw [← List.map_id (Nat.toDigits 10 y ++ '-' :: Nat.toDigits 10 (y + 1))]
    exact List.map_congr_left (fun c hc => if_neg (hplain c hc).2)
  rw [hmap]
  dsimp only
  rcases fiscalYears_label y with h | h <;> rw [h]
  rw [← toList_label, String.ofList_toList]

/-- The first year of the fiscal year of a month. -/
def fiscalYearStart (periodYear periodMonth : ℕ) : ℕ :=
  if 4 ≤ periodMonth then periodYear else periodYear - 1

/-- **The label of a period** names the year it begins in and the next. -/
theorem fiscalYearForPeriod_eq {periodYear : ℕ} (hyear : 1 ≤ periodYear) (periodMonth : ℕ) :
    fiscalYearForPeriod periodYear periodMonth
      = s!"{fiscalYearStart periodYear periodMonth}-{fiscalYearStart periodYear periodMonth + 1}" := by
  unfold fiscalYearForPeriod fiscalYearStart
  split
  · exact normalizeFiscalYearLabel_label periodYear
  · have hnext : periodYear - 1 + 1 = periodYear := by omega
    have hlabel := normalizeFiscalYearLabel_label (periodYear - 1)
    rwa [hnext] at hlabel ⊢

end

end Payroll
