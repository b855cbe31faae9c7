import Mathlib.Algebra.Order.Group.Nat
import Mathlib.Algebra.Order.Ring.Nat
import Mathlib.Data.Char
import Mathlib.Data.List.Lex
import Mathlib.Data.List.MinMax
import Mathlib.Tactic.Common

/-!
# Zero-padded numerals

`zeroPad w n` writes `n` in decimal with at least `w` digits, zeros in front. Below `10 ^ w`
all numerals have the same length, and their order as texts is the order of the numbers
(`zeroPad_lt_zeroPad`). From `10 ^ w` on they are longer, and the order is lost.

`groupThousands` writes commas between groups of three digits; the digits alone give the
number back (`filter_groupThousands`, `ofDigitChars_zeroPad`).
-/

/-- **A decimal numeral** with at least `w` digits. -/
def zeroPad (w n : ℕ) : List Char := (Nat.toDigits 10 n).leftpad w '0'

/-- The zeros in front. -/
theorem zeroPad_eq (w n : ℕ) :
    zeroPad w n = List.replicate (w - (Nat.toDigits 10 n).length) '0' ++ Nat.toDigits 10 n := rfl

/-- **The last digit** of a padded numeral. -/
theorem zeroPad_succ {w : ℕ} (hw : 0 < w) (n : ℕ) :
    zeroPad (w + 1) n = zeroPad w (n / 10) ++ [Nat.digitChar (n % 10)] := by
  rcases lt_or_ge n 10 with hlt | hge
  · obtain ⟨w, rfl⟩ := Nat.exists_eq_succ_of_ne_zero hw.ne'
    rw [Nat.div_eq_of_lt hlt, Nat.mod_eq_of_lt hlt, zeroPad_eq, zeroPad_eq,
      Nat.toDigits_of_lt_base hlt]
    show List.replicate (w + 1) '0' ++ [Nat.digitChar n]
      = (List.replicate w '0' ++ ['0']) ++ [Nat.digitChar n]
    rw [← List.replicate_succ']
  · rw [zeroPad_eq, zeroPad_eq, Nat.toDigits_of_base_le (by decide) hge, List.length_append,
      List.length_singleton, Nat.add_sub_add_right, List.append_assoc]

/-- A numeral of less than `10 ^ w` has `w` digits. -/
theorem length_zeroPad {w n : ℕ} (hw : 0 < w) (hn : n < 10 ^ w) : (zeroPad w n).length = w := by
  induction w, hw using Nat.le_induction generalizing n with
  | base =>
    rw [zeroPad_eq, Nat.toDigits_of_lt_base (by simpa using hn)]
    rfl
  | succ w hw ih =>
    rw [zeroPad_succ hw, List.length_append, ih, List.length_singleton]
    exact Nat.div_lt_of_lt_mul (by rwa [Nat.pow_succ'] at hn)

/-- The order of texts is decided by the first part, when the first parts are of one
length. -/
theorem append_lt_append_of_length {α : Type*} [LT α] {xs ys : List α}
    (hlength : xs.length = ys.length) (h : xs < ys) (zs ws : List α) : xs ++ zs < ys ++ ws := by
  induction xs generalizing ys with
  | nil =>
    rw [List.length_eq_zero_iff.mp hlength.symm] at h
    cases h
  | cons x xs ih =>
    cases ys with
    | nil => cases h
    | cons y ys =>
      rw [List.cons_append, List.cons_append, List.cons_lt_cons_iff]
      exact (List.cons_lt_cons_iff.mp h).imp_right
        fun ⟨heq, h⟩ => ⟨heq, ih (Nat.succ.inj hlength) h⟩

/-- **The order of the padded numerals is that of the numbers.** -/
theorem zeroPad_lt_zeroPad {w m n : ℕ} (hw : 0 < w) (hmn : m < n) (hn : n < 10 ^ w) :
    zeroPad w m < zeroPad w n := by
  have hdigit : ∀ b < 10, ∀ a < b, Nat.digitChar a < Nat.digitChar b := by decide
  induction w, hw using Nat.le_induction generalizing m n with
  | base =>
    have hn : n < 10 := by simpa using hn
    rw [zeroPad_eq, zeroPad_eq, Nat.toDigits_of_lt_base hn, Nat.toDigits_of_lt_base (hmn.trans hn)]
    exact List.cons_lt_cons_iff.mpr (Or.inl (hdigit n hn m hmn))
  | succ w hw ih =>
    have hdiv (k : ℕ) (hk : k < 10 ^ (w + 1)) : k / 10 < 10 ^ w :=
      Nat.div_lt_of_lt_mul (by rwa [Nat.pow_succ'] at hk)
    rw [zeroPad_succ hw, zeroPad_succ hw]
    rcases (Nat.div_le_div_right (c := 10) hmn.le).lt_or_eq with hlt | heq
    · refine append_lt_append_of_length ?_ (ih hlt (hdiv n hn)) _ _
      rw [length_zeroPad hw (hdiv m (hmn.trans hn)), length_zeroPad hw (hdiv n hn)]
    · rw [heq]
      refine List.append_left_lt (List.cons_lt_cons_iff.mpr (Or.inl (hdigit _ ?_ _ ?_)))
      · exact Nat.mod_lt n (by decide)
      · omega

/-- A padded numeral of a smaller number is not greater. -/
theorem zeroPad_le_zeroPad {w m n : ℕ} (hw : 0 < w) (hmn : m ≤ n) (hn : n < 10 ^ w) :
    zeroPad w m ≤ zeroPad w n := by
  rcases hmn.lt_or_eq with hlt | rfl
  · exact (zeroPad_lt_zeroPad hw hlt hn).le
  · exact le_rfl

/-! ## Numerals in groups of three digits -/

/-- **Commas between groups of three**, counted from the right. -/
def groupThousands : List Char → List Char
  | [] => []
  | c :: cs =>
    if cs ≠ [] ∧ cs.length % 3 = 0 then c :: ',' :: groupThousands cs else c :: groupThousands cs

/-- Grouping adds nothing but commas. -/
theorem filter_groupThousands {p : Char → Bool} (hcomma : p ',' = false) (cs : List Char) :
    (groupThousands cs).filter p = cs.filter p := by
  induction cs with
  | nil => rfl
  | cons c cs ih =>
    unfold groupThousands
    split
    · simp [List.filter_cons, hcomma, ih]
    · simp [List.filter_cons, ih]

/-- **A padded numeral is read back**, after what was read before it. -/
theorem ofDigitChars_zeroPad {w n : ℕ} (hw : 0 < w) (hn : n < 10 ^ w) (k : ℕ) :
    Nat.ofDigitChars 10 (zeroPad w n) k = 10 ^ w * k + n := by
  have hvalue : Nat.ofDigitChars 10 (zeroPad w n) 0 = n := by
    rw [zeroPad_eq, Nat.ofDigitChars_append, Nat.ofDigitChars_replicate_zero, Nat.mul_zero,
      Nat.ofDigitChars_toDigits (by decide) le_rfl]
  rw [Nat.ofDigitChars_eq_ofDigitChars_zero, length_zeroPad hw hn, hvalue]

theorem isDigit_of_mem_zeroPad {w n : ℕ} {c : Char} (hc : c ∈ zeroPad w n) : c.isDigit := by
  rw [zeroPad_eq, List.mem_append] at hc
  rcases hc with hzero | hdigit
  · rw [List.eq_of_mem_replicate hzero]
    rfl
  · exact Nat.isDigit_of_mem_toDigits (by decide) le_rfl hdigit

example : String.ofList (groupThousands (Nat.toDigits 10 1234567)) = "1,234,567" := by decide
