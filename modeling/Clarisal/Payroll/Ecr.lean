import Clarisal.Payroll.Filings
import Clarisal.Payroll.ProvidentFund

/-!
# The employer's share, split twice

The employer's provident fund is split into pension and fund. An item stores the split of a
whole month next to contributions that are pro-rated, so that in a partial month the two
parts exceed what the contributions contain, unless the amount is too small to pro-rate.

The monthly return states both parts in rupees, each rounded by itself, and they add up to
the rounded share exactly when the two roundings together stay within half a rupee. An item
both of whose parts round to nothing is stated differently: the fund's part is then what the
pension's leaves, which adds up except at halves (`employerPfSplit_iff`).
-/

open Approvals

namespace Payroll

/-! ## The parts of the share -/

/-- **The two parts are there, within the cap, and make up an amount.** -/
def ItemAmounts.SplitsEmployerPf (amounts : ItemAmounts) (employerPf : ℚ) : Prop :=
  0 ≤ amounts.epsEmployer ∧ 0 ≤ amounts.epfEmployer ∧ amounts.epsEmployer ≤ 1250
    ∧ amounts.epsEmployer + amounts.epfEmployer = employerPf

instance (amounts : ItemAmounts) (employerPf : ℚ) :
    Decidable (amounts.SplitsEmployerPf employerPf) :=
  inferInstanceAs (Decidable (_ ∧ _))

section

variable {basicPay employeeRate employerRate wageCeiling : ℚ} {inp : ItemInputs}
  {amounts : ItemAmounts} {snapshot : ItemSnapshot}

/-- **The split of a contribution.** -/
theorem calculateEpfContributions_split (hceiling : 0 ≤ wageCeiling) (hbasic : 0 ≤ basicPay)
    (hrate : 0 ≤ employerRate) :
    let pf := calculateEpfContributions basicPay employeeRate employerRate wageCeiling
    (0 ≤ pf.epsEmployer ∧ 0 ≤ pf.epfEmployer ∧ pf.epsEmployer ≤ 1250
      ∧ pf.epsEmployer + pf.epfEmployer = pf.employer)
      ∧ OnPaise pf.epsEmployer ∧ OnPaise pf.epfEmployer := by
  have hwages : 0 ≤ min (normalizeDecimal basicPay) wageCeiling :=
    le_min (normalizeDecimal_nonneg hbasic) hceiling
  unfold calculateEpfContributions
  dsimp only
  generalize min (normalizeDecimal basicPay) wageCeiling = wages at hwages ⊢
  have hpension : 0 ≤ normalizeDecimal (wages * (833 / 10000)) :=
    normalizeDecimal_nonneg (mul_nonneg hwages (by norm_num))
  have hpensionPaise : OnPaise (normalizeDecimal (wages * (833 / 10000))) :=
    onPaise_normalizeDecimal _
  have hnonneg : 0 ≤ normalizeDecimal (wages * employerRate) :=
    normalizeDecimal_nonneg (mul_nonneg hwages hrate)
  have hpaise : OnPaise (normalizeDecimal (wages * employerRate)) := onPaise_normalizeDecimal _
  generalize normalizeDecimal (wages * (833 / 10000)) = pension at hpension hpensionPaise ⊢
  generalize normalizeDecimal (wages * employerRate) = employer at hnonneg hpaise ⊢
  split
  · next hzero =>
    obtain rfl : employer = 0 := le_antisymm hzero hnonneg
    exact ⟨⟨le_rfl, le_rfl, by norm_num, add_zero 0⟩, Decimal.onGrid_zero, Decimal.onGrid_zero⟩
  · have hcap : OnPaise (1250 : ℚ) := ⟨125000, by norm_num⟩
    have hepsPaise : OnPaise (min (min pension 1250) employer) := by
      rcases min_choice (min pension 1250) employer with h | h <;> rw [h]
      · rcases min_choice pension 1250 with h | h <;> rw [h]
        · exact hpensionPaise
        · exact hcap
      · exact hpaise
    have hrest : 0 ≤ employer - min (min pension 1250) employer :=
      sub_nonneg.mpr (min_le_right _ _)
    rw [max_eq_right hrest, normalizeDecimal_of_onPaise (hpaise.sub hepsPaise)]
    refine ⟨⟨le_min (le_min hpension (by norm_num)) hnonneg, hrest, ?_, by ring⟩, hepsPaise,
      hpaise.sub hepsPaise⟩
    exact (min_le_left _ _).trans (min_le_right _ _)

/-- **The parts of an item** are those of a whole month. -/
theorem split_of_ready (h : calculateItem inp = .ok (.ready amounts snapshot)) :
    amounts.SplitsEmployerPf inp.providentFund.employer
      ∧ snapshot.pfEmployer = inp.providentFund.employer := by
  obtain ⟨window, pt, ptBasis, -, -, rfl, rfl, -⟩ := calculateItem_eq_ready h
  refine ⟨?_, rfl⟩
  have hfund : (0 ≤ inp.providentFund.epsEmployer ∧ 0 ≤ inp.providentFund.epfEmployer
      ∧ inp.providentFund.epsEmployer ≤ 1250 ∧ inp.providentFund.epsEmployer
        + inp.providentFund.epfEmployer = inp.providentFund.employer)
      ∧ OnPaise inp.providentFund.epsEmployer ∧ OnPaise inp.providentFund.epfEmployer := by
    unfold ItemInputs.providentFund
    split
    · next hbasic =>
      refine calculateEpfContributions_split (by norm_num [pfWageCeiling]) hbasic.le ?_
      split <;> norm_num [pfRate]
    · exact ⟨⟨le_rfl, le_rfl, by norm_num, add_zero 0⟩, Decimal.onGrid_zero, Decimal.onGrid_zero⟩
  obtain ⟨hsplit, heps, hepf⟩ := hfund
  show 0 ≤ normalizeDecimal inp.providentFund.epsEmployer
    ∧ 0 ≤ normalizeDecimal inp.providentFund.epfEmployer
    ∧ normalizeDecimal inp.providentFund.epsEmployer ≤ 1250
    ∧ normalizeDecimal inp.providentFund.epsEmployer
      + normalizeDecimal inp.providentFund.epfEmployer = inp.providentFund.employer
  rwa [normalizeDecimal_of_onPaise heps, normalizeDecimal_of_onPaise hepf]

end

/-! ## Too small to pro-rate -/

section

variable {inp : ItemInputs}

theorem totalDays_mem (p : PayPeriod) : p.totalDays ∈ [28, 29, 30, 31] := by
  unfold PayPeriod.totalDays Calendar.daysInMonth
  split_ifs <;> simp

/-- An amount for the days paid, before it is rounded to paise, is a minute part of what the
missing days are worth away from its share of the month. -/
theorem abs_context_share_sub_le {x : ℚ} (hx : 0 ≤ x) {days total : ℕ} (hdays : days < total)
    (htotal : total ≤ 31) :
    |Decimal.context 28 (x * Decimal.context 28 ((days : ℚ) / total)) - x * ((days : ℚ) / total)|
      ≤ (x - x * ((days : ℚ) / total)) / 10 ^ 20 := by
  have hpos : (0 : ℚ) < total := by exact_mod_cast (Nat.zero_le days).trans_lt hdays
  have hten : (10 : ℚ) ^ (1 - (28 : ℕ) : ℤ) = 1 / 10 ^ 27 := by norm_num [zpow_neg]
  have hmissing : ((days : ℚ) / total) ≤ 30 / 31 := by
    rw [div_le_div_iff₀ hpos (by norm_num)]
    have : days * 31 ≤ 30 * total := by omega
    exact_mod_cast this
  have hnonneg : (0 : ℚ) ≤ (days : ℚ) / total := by positivity
  generalize (days : ℚ) / total = share at hmissing hnonneg ⊢
  have hfactor := Decimal.abs_context_sub_le 28 share
  have hfactorNonneg : 0 ≤ Decimal.context 28 share := Decimal.context_nonneg 28 hnonneg
  rw [abs_of_nonneg hnonneg, hten] at hfactor
  generalize Decimal.context 28 share = factor at hfactor hfactorNonneg ⊢
  have hround := Decimal.abs_context_sub_le 28 (x * factor)
  rw [abs_of_nonneg (mul_nonneg hx hfactorNonneg), hten] at hround
  have hfactorLe : factor ≤ 1 := by linarith [(abs_le.mp hfactor).2]
  calc |Decimal.context 28 (x * factor) - x * share|
      = |(Decimal.context 28 (x * factor) - x * factor) + x * (factor - share)| := by
        congr 1
        ring
    _ ≤ |Decimal.context 28 (x * factor) - x * factor| + |x * (factor - share)| := abs_add_le _ _
    _ = |Decimal.context 28 (x * factor) - x * factor| + x * |factor - share| := by
        rw [abs_mul, abs_of_nonneg hx]
    _ ≤ x * 1 * (1 / 10 ^ 27) / 2 + x * (1 * (1 / 10 ^ 27) / 2) := by
        refine add_le_add (hround.trans ?_) (mul_le_mul_of_nonneg_left (hfactor.trans ?_) hx)
        · gcongr
        · gcongr
          linarith
    _ ≤ x * (1 / 31) / 10 ^ 20 := by linarith
    _ ≤ (x - x * share) / 10 ^ 20 := by
        have : x * (1 / 31) ≤ x * (1 - share) := mul_le_mul_of_nonneg_left (by linarith) hx
        linarith

/-- **What pro-rating leaves as it is**: so few paise that the missing days are worth less than
half of one, or half of one that rounds back. -/
theorem prorate_eq_self_iff {p : ℤ} (hp : 0 ≤ p) {days total : ℕ} (hdays : days < total)
    (htotal : total ∈ [28, 29, 30, 31]) :
    normalizeDecimal (Decimal.context 28 ((p : ℚ) * (1 / 100)
      * Decimal.context 28 ((days : ℚ) / total))) = (p : ℚ) * (1 / 100)
      ↔ 2 * p * (total - days : ℕ) < total ∨ (2 * p * (total - days : ℕ) = total ∧ Even p) := by
  have hle : total ≤ 31 := by
    simp only [List.mem_cons, List.not_mem_nil, or_false] at htotal
    omega
  have hpos : (0 : ℚ) < total := by exact_mod_cast (Nat.zero_le days).trans_lt hdays
  have hpRat : (0 : ℚ) ≤ p := by exact_mod_cast hp
  have hnear := abs_context_share_sub_le (x := (p : ℚ) * (1 / 100)) (by positivity) hdays hle
  -- what the missing days are worth, in paise
  have hlost : (p : ℚ) * (1 / 100) - p * (1 / 100) * (days / total)
      = ((2 * p * (total - days : ℕ) : ℤ) : ℚ) / total / 200 := by
    push_cast [Nat.cast_sub hdays.le]
    field_simp
    ring
  rw [hlost] at hnear
  obtain ⟨hnearLow, hnearHigh⟩ := abs_le.mp hnear
  have htotalLe : (total : ℤ) ≤ 31 := by omega
  generalize hn : 2 * p * (total - days : ℕ) = n at hlost hnearLow hnearHigh ⊢
  rcases lt_trichotomy n (total : ℤ) with hlt | heq | hgt
  · refine iff_of_true (normalizeDecimal_eq_of_near ?_) (Or.inl hlt)
    have hn0 : 0 ≤ n := by
      rw [← hn]
      positivity
    have hnonneg : (0 : ℚ) ≤ (n : ℚ) / total / 200 := by
      have : (0 : ℚ) ≤ n := by exact_mod_cast hn0
      positivity
    have hsmall : (n : ℚ) / total ≤ 30 / 31 := by
      rw [div_le_div_iff₀ hpos (by norm_num)]
      have : n * 31 ≤ 30 * total := by omega
      exact_mod_cast this
    rw [abs_lt]
    constructor <;> linarith
  · have hties : ∀ total ∈ ([28, 29, 30, 31] : List ℕ), ∀ days : ℕ, days < total →
        ∀ p : ℕ, p < 16 → 2 * p * (total - days) = total →
        (normalizeDecimal (Decimal.context 28 ((p : ℚ) * (1 / 100)
          * Decimal.context 28 ((days : ℚ) / total))) = (p : ℚ) * (1 / 100) ↔ Even p) := by
      decide +kernel
    obtain ⟨q, rfl⟩ := Int.eq_ofNat_of_zero_le hp
    have hq : 2 * q * (total - days) = total := by
      rw [heq] at hn
      exact_mod_cast hn
    have hqSmall : q < 16 := by
      by_contra hge
      have : 2 * 16 * 1 ≤ 2 * q * (total - days) :=
        Nat.mul_le_mul (by omega) (by omega)
      omega
    have htie := hties total htotal days hdays q hqSmall hq
    rw [or_iff_right heq.not_lt, and_iff_right heq]
    show _ ↔ Even (q : ℤ)
    rw [Int.even_coe_nat]
    exact_mod_cast htie
  · refine iff_of_false (fun hself => ?_) (by omega)
    have hround := (abs_le.mp (abs_normalizeDecimal_sub_le (Decimal.context 28
      ((p : ℚ) * (1 / 100) * Decimal.context 28 ((days : ℚ) / total))))).2
    rw [hself] at hround
    have hlarge : (32 : ℚ) / 31 ≤ n / total := by
      rw [div_le_div_iff₀ (by norm_num) hpos]
      have : 32 * (total : ℤ) ≤ n * 31 := by omega
      exact_mod_cast this
    linarith

/-- **When the contributions contain both parts in full**: nothing is pro-rated, there is no
share, or it is too small to pro-rate. -/
def ItemInputs.KeepsEmployerPf (inp : ItemInputs) : Prop :=
  ¬ inp.IsPartialMonth ∨ inp.pfIsOptedOut = true
    ∨ let p := Decimal.roundHalfEven (12 * inp.pfWages)
      let missing := inp.period.totalDays - inp.paidDays
      2 * p * missing < inp.period.totalDays
        ∨ (2 * p * missing = inp.period.totalDays ∧ Even p)

instance (inp : ItemInputs) : Decidable inp.KeepsEmployerPf :=
  inferInstanceAs (Decidable (_ ∨ _ ∨ _))

theorem prorate_employer_iff (inp : ItemInputs) :
    inp.prorate inp.providentFund.employer = inp.providentFund.employer ↔ inp.KeepsEmployerPf := by
  unfold ItemInputs.KeepsEmployerPf
  by_cases hpart : inp.IsPartialMonth
  · rw [or_iff_right (not_not.mpr hpart)]
    cases hout : inp.pfIsOptedOut with
    | true =>
      rw [(ItemInputs.shares_of_out hout).2]
      refine iff_of_true ?_ (Or.inl rfl)
      simp [ItemInputs.prorate]
    | false =>
      rw [or_iff_right Bool.noConfusion]
      dsimp only
      by_cases hbasic : 0 < inp.basicPay
      · have hemployer : inp.providentFund.employer
            = (Decimal.roundHalfEven (12 * inp.pfWages) : ℚ) * (1 / 100) := by
          rw [(ItemInputs.shares_of_in hbasic hout).2, normalizeDecimal, Decimal.quantize, pfRate]
          congr 3
          ring
        have hnonneg : 0 ≤ Decimal.roundHalfEven (12 * inp.pfWages) :=
          Decimal.roundHalfEven_nonneg (mul_nonneg (by norm_num)
            (ItemInputs.pfWages_nonneg hbasic.le))
        rw [hemployer, ItemInputs.prorate, if_pos hpart, ItemInputs.proRateFactor, if_pos hpart]
        exact prorate_eq_self_iff hnonneg hpart (totalDays_mem inp.period)
      · have hwages : inp.pfWages ≤ 0 := (min_le_left _ _).trans (not_lt.mp hbasic)
        have hnonpos : Decimal.roundHalfEven (12 * inp.pfWages) ≤ 0 :=
          Decimal.roundHalfEven_nonpos (by linarith)
        have hmonth : (28 : ℤ) ≤ inp.period.totalDays := by
          exact_mod_cast Calendar.one_le_daysInMonth _ _
        have hmissing : 2 * Decimal.roundHalfEven (12 * inp.pfWages)
            * (inp.period.totalDays - inp.paidDays : ℕ) ≤ 0 :=
          mul_nonpos_of_nonpos_of_nonneg (by omega) (by positivity)
        refine iff_of_true ?_ (Or.inl (by omega))
        rw [ItemInputs.share_eq_zero (Or.inr ⟨rfl, rfl⟩) hbasic]
        simp [ItemInputs.prorate]
  · refine iff_of_true ?_ (Or.inl hpart)
    rw [ItemInputs.prorate, if_neg hpart]

end

/-! ## The monthly return -/

/-- A member of the fund; the number is empty when there is none. -/
structure EcrMember extends FilingEmployee where
  uanNumber : String

/-- A row of the return, in rupees. -/
structure EcrRow where
  uan : String
  memberName : String
  grossWages : ℤ
  epfWages : ℤ
  epsWages : ℤ
  edliWages : ℤ
  epfEmployeeShare : ℤ
  epsEmployerShare : ℤ
  epfEmployerShare : ℤ
  ncpDays : ℤ
  refundOfAdvance : ℤ := 0
  epfAdminCharges : ℤ
  edliCharges : ℤ
deriving DecidableEq, Repr

/-- `quantize(Decimal('1'))`, which is what `decimal_to_rupee_int` writes. -/
def decimalToRupeeInt (x : ℚ) : ℤ := Decimal.roundHalfEven x

/-- The amount of the first basic line. -/
def PayslipRow.epfWages (s : PayslipRow) : ℚ :=
  (s.snapshot.lines.find? (fun line => line.componentCode = "BASIC")).elim 0
    SnapshotLine.monthlyAmount

/-- The pension's part, when the item has none: that of the basic line. -/
def PayslipRow.epsOfWages (s : PayslipRow) : ℤ :=
  decimalToRupeeInt (min (min s.epfWages 15000 * (833 / 10000)) 1250)

/-- **The two columns of the employer**, pension and fund. -/
def PayslipRow.ecrShares (s : PayslipRow) : ℤ × ℤ :=
  let eps := decimalToRupeeInt s.item.amounts.epsEmployer
  let epf := decimalToRupeeInt s.item.amounts.epfEmployer
  if eps ≤ 0 ∧ epf ≤ 0 then
    (s.epsOfWages, decimalToRupeeInt (max 0 (s.item.snapshot.pfEmployer - s.epsOfWages)))
  else (eps, epf)

def ecrRow (member : EcrMember) (s : PayslipRow) : EcrRow :=
  { uan := String.ofList (strip member.uanNumber.toList)
    memberName := member.fullName
    grossWages := decimalToRupeeInt s.snapshot.grossPay
    epfWages := decimalToRupeeInt s.epfWages
    epsWages := decimalToRupeeInt (min s.epfWages 15000)
    edliWages := decimalToRupeeInt s.epfWages
    epfEmployeeShare := decimalToRupeeInt s.item.snapshot.autoPf
    epsEmployerShare := s.ecrShares.1
    epfEmployerShare := s.ecrShares.2
    ncpDays := decimalToRupeeInt s.snapshot.lopDays
    epfAdminCharges := decimalToRupeeInt (s.epfWages * (50 / 10000))
    edliCharges := decimalToRupeeInt (s.epfWages * (50 / 10000)) }

/-- What a return files. -/
structure EcrExport where
  rows : List EcrRow
  validationErrors : List String

/-- Whether anything is paid to the fund. -/
def PayslipRow.contributes (s : PayslipRow) : Bool :=
  !decide (s.item.snapshot.autoPf ≤ 0 ∧ s.item.snapshot.pfEmployer ≤ 0)

/-- **The return of a month**: a row for everyone who contributes and has a number. -/
def generateEcrExport (members : EmployeeId → EcrMember) (payslips : List PayslipRow) :
    EcrExport :=
  let contributing := payslips.filter PayslipRow.contributes
  let hasUan := fun s : PayslipRow => strip (members s.employee).uanNumber.toList ≠ []
  { rows := ((contributing.filter (fun s => hasUan s)).map
      (fun s => ecrRow (members s.employee) s)).insertionSort
        (fun r r' => toLex (r.uan, r.memberName) ≤ toLex (r'.uan, r'.memberName))
    validationErrors := ((contributing.filter (fun s => ¬ hasUan s)).map (fun s =>
        s!"{(members s.employee).label}: missing UAN number for PF ECR.")).insertionSort (· ≤ ·) }

def EcrExport.totalEpfEmployeeShare (e : EcrExport) : ℤ :=
  (e.rows.map EcrRow.epfEmployeeShare).sum

def EcrExport.totalEpsEmployerShare (e : EcrExport) : ℤ :=
  (e.rows.map EcrRow.epsEmployerShare).sum

def EcrExport.totalEpfEmployerShare (e : EcrExport) : ℤ :=
  (e.rows.map EcrRow.epfEmployerShare).sum

/-! ## When the columns add up -/

/-- What an amount is above the rupees it rounds to. -/
def rupeeRemainder (x : ℚ) : ℚ := x - decimalToRupeeInt x

/-- The remainders of the two parts stay within half a rupee. -/
def PayslipRow.PartsRoundTogether (s : PayslipRow) : Prop :=
  let remainder := rupeeRemainder s.item.amounts.epsEmployer
    + rupeeRemainder s.item.amounts.epfEmployer
  |remainder| < 1 / 2 ∨ (|remainder| = 1 / 2
    ∧ Even (decimalToRupeeInt s.item.amounts.epsEmployer
      + decimalToRupeeInt s.item.amounts.epfEmployer))

/-- The pension's rupees leave a rest that rounds as the share does, or are what the share
rounds to. -/
def PayslipRow.RestRounds (s : PayslipRow) : Prop :=
  let total := s.item.snapshot.pfEmployer
  if s.epsOfWages ≤ total then Int.fract total = 1 / 2 → Even s.epsOfWages
  else s.epsOfWages - total < 1 / 2 ∨ (s.epsOfWages - total = 1 / 2 ∧ Even s.epsOfWages)

/-- **When the columns of a row make up the rounded share.** -/
def PayslipRow.EcrColumnsAgree (s : PayslipRow) : Prop :=
  if s.item.amounts.epsEmployer ≤ 1 / 2 ∧ s.item.amounts.epfEmployer ≤ 1 / 2 then s.RestRounds
  else s.PartsRoundTogether

instance (s : PayslipRow) : Decidable s.PartsRoundTogether :=
  inferInstanceAs (Decidable (_ ∨ _))

section

variable {s : PayslipRow}

theorem decimalToRupeeInt_nonpos_iff {x : ℚ} : decimalToRupeeInt x ≤ 0 ↔ x ≤ 1 / 2 := by
  rw [← not_lt, ← not_lt, decimalToRupeeInt, Decimal.roundHalfEven_pos_iff]

/-- **The columns of the employer** add up to the rounded share. -/
theorem ecrShares_iff (s : PayslipRow) :
    s.ecrShares.1 + s.ecrShares.2 = decimalToRupeeInt s.item.snapshot.pfEmployer
      ↔ s.EcrColumnsAgree := by
  obtain ⟨inp, -, -, -, hcalc⟩ := s.calculated
  obtain ⟨⟨heps, hepf, -, hsum⟩, htotal⟩ := split_of_ready hcalc
  rw [← htotal] at hsum
  unfold PayslipRow.ecrShares PayslipRow.EcrColumnsAgree
  simp only [decimalToRupeeInt_nonpos_iff]
  split
  · unfold PayslipRow.RestRounds
    dsimp only
    have hnonneg : 0 ≤ s.item.snapshot.pfEmployer := hsum ▸ add_nonneg heps hepf
    split
    · next hle =>
      rw [max_eq_right (sub_nonneg.mpr hle)]
      exact Decimal.add_roundHalfEven_sub_iff _ _
    · next hgt =>
      have hpos := sub_pos.mpr (not_le.mp hgt)
      rw [max_eq_left (by linarith), decimalToRupeeInt, Decimal.roundHalfEven_zero, add_zero,
        eq_comm, decimalToRupeeInt, Decimal.roundHalfEven_eq_iff, abs_sub_comm, abs_of_pos hpos]
  · have hremainder : s.item.snapshot.pfEmployer
        - ((decimalToRupeeInt s.item.amounts.epsEmployer
          + decimalToRupeeInt s.item.amounts.epfEmployer : ℤ) : ℚ)
        = rupeeRemainder s.item.amounts.epsEmployer
          + rupeeRemainder s.item.amounts.epfEmployer := by
      rw [← hsum, rupeeRemainder, rupeeRemainder]
      push_cast
      ring
    rw [eq_comm]
    show Decimal.roundHalfEven _ = _ ↔ _
    rw [Decimal.roundHalfEven_eq_iff, hremainder]
    rfl

theorem mem_rows {members : EmployeeId → EcrMember} {payslips : List PayslipRow} {row : EcrRow}
    (h : row ∈ (generateEcrExport members payslips).rows) :
    ∃ s ∈ payslips, row = ecrRow (members s.employee) s := by
  obtain ⟨s, hs, rfl⟩ := List.mem_map.mp ((List.mem_insertionSort _).mp h)
  exact ⟨s, (List.mem_filter.mp (List.mem_filter.mp hs).1).1, rfl⟩

end

/-- **When the share is split right**: an item's parts make up what its contributions contain
exactly when these contain the share of a whole month, and the columns of a row make up the
rounded share exactly when they round together. -/
theorem employerPfSplit_iff (inp : ItemInputs) (amounts : ItemAmounts) (snapshot : ItemSnapshot)
    (members : EmployeeId → EcrMember) (payslips : List PayslipRow) :
    (calculateItem inp = .ok (.ready amounts snapshot) →
      (amounts.SplitsEmployerPf (inp.prorate (snapshot.computed "PF_EMPLOYER"))
        ↔ inp.KeepsEmployerPf))
    ∧ ∀ row ∈ (generateEcrExport members payslips).rows, ∃ s ∈ payslips,
        row = ecrRow (members s.employee) s
        ∧ (row.epsEmployerShare + row.epfEmployerShare
            = decimalToRupeeInt s.item.snapshot.pfEmployer ↔ s.EcrColumnsAgree) := by
  refine ⟨fun h => ?_, fun row hrow => ?_⟩
  · obtain ⟨⟨heps, hepf, hcap, hsum⟩, -⟩ := split_of_ready h
    rw [computed_of_ready h (Or.inr ⟨rfl, rfl⟩), ← prorate_employer_iff]
    constructor
    · exact fun hsplits => hsplits.2.2.2.symm.trans hsum
    · exact fun hkeeps => ⟨heps, hepf, hcap, hsum.trans hkeeps.symm⟩
  · obtain ⟨s, hs, rfl⟩ := mem_rows hrow
    exact ⟨s, hs, rfl, ecrShares_iff s⟩

/-! ## A joining month, and a share that rounds apart

The parts of a share of 1800 in a month of which half is paid; and a basic pay of 10005,
whose 1200.60 are 833.42 and 367.18. -/

namespace Sample

def fundMember (id : EmployeeId) : EcrMember :=
  { filers id with fullName := "Priya Sharma", uanNumber := "100200300400" }

def aprilOf20000 : PayslipRow := april2024 1 1 20000 aprilOf20000_ready

def aprilOf10005 : PayslipRow := april2024 1 1 10005 (by decide +kernel)

end Sample

/-- The whole month, and a row whose parts are whole rupees. -/
theorem employerPfSplit_iff_sample :
    (Sample.item (Sample.inputs Sample.april Sample.employee
        (Sample.assignment 30000))).1.SplitsEmployerPf
        ((Sample.inputs Sample.april Sample.employee (Sample.assignment 30000)).prorate
          ((Sample.item (Sample.inputs Sample.april Sample.employee
            (Sample.assignment 30000))).2.computed "PF_EMPLOYER"))
      ∧ (ecrRow (Sample.fundMember 1) Sample.aprilOf20000).epsEmployerShare
          + (ecrRow (Sample.fundMember 1) Sample.aprilOf20000).epfEmployerShare
        = decimalToRupeeInt Sample.aprilOf20000.item.snapshot.pfEmployer := by
  have hsplit := employerPfSplit_iff (Sample.inputs Sample.april Sample.employee
    (Sample.assignment 30000)) (Sample.item (Sample.inputs Sample.april Sample.employee
    (Sample.assignment 30000))).1 (Sample.item (Sample.inputs Sample.april Sample.employee
    (Sample.assignment 30000))).2 Sample.fundMember [Sample.aprilOf20000]
  refine ⟨(hsplit.1 (by decide +kernel)).mpr (by decide +kernel), ?_⟩
  obtain ⟨s, hs, -, hiff⟩ := hsplit.2
    (ecrRow (Sample.fundMember 1) Sample.aprilOf20000) (by decide +kernel)
  obtain rfl := List.mem_singleton.mp hs
  refine hiff.mpr ?_
  unfold PayslipRow.EcrColumnsAgree
  rw [if_neg (by decide +kernel)]
  decide +kernel

/-- **Neither holds as it stands.** -/
theorem employerPf_not_split :
    (¬ ∀ (inp : ItemInputs) (amounts : ItemAmounts) (snapshot : ItemSnapshot),
        calculateItem inp = .ok (.ready amounts snapshot) →
        amounts.SplitsEmployerPf (inp.prorate (snapshot.computed "PF_EMPLOYER")))
      ∧ ¬ ∀ (members : EmployeeId → EcrMember) (payslips : List PayslipRow),
        ∀ row ∈ (generateEcrExport members payslips).rows, ∃ s ∈ payslips,
          row = ecrRow (members s.employee) s
          ∧ row.epsEmployerShare + row.epfEmployerShare
            = decimalToRupeeInt s.item.snapshot.pfEmployer := by
  constructor
  · intro h
    have hsplits := h _ _ _ ready_joiner
    revert hsplits
    decide +kernel
  · intro h
    have hrows := h Sample.fundMember [Sample.aprilOf10005]
    revert hrows
    decide +kernel

end Payroll
