import Clarisal.Payroll.Arrears

/-!
# The two shares of the provident fund

An assignment stores the opt-out and the employee's rate side by side: whoever opts out has
the rate zero, everyone else one of 12 to 100 %. A calculation decides the opt-out again,
from the basic pay and the joining date. Where it decides otherwise, the employer pays 12 %
and the employee nothing: an opted-out employee with a basic pay up to the ceiling, or
without a joining date.

`pfSymmetric_iff` says exactly when both shares are there or neither is. Basic pays up to
four paise, whose 12 % round to nothing, are the other exception.
-/

open Calendar Approvals

namespace Payroll

/-! ## Assigning a compensation -/

def pfOptOutNewJoinerCutoff : Date := ⟨2014, 9, 1, by decide⟩

/-- The joining date that allows an opt-out. -/
def validatePfOptOutEligibility (employee : Employee) (isPfOptedOut isEpfExempt : Bool) :
    Except String Unit :=
  if !isPfOptedOut || isEpfExempt then .ok ()
  else
    match employee.dateOfJoining with
    | none => .error ("PF opt-out is only allowed for post-September 2014 joiners or "
        ++ "employees explicitly marked as EPF-exempt.")
    | some joining =>
      if joining < pfOptOutNewJoinerCutoff then
        .error ("PF opt-out is only allowed for post-September 2014 joiners or "
          ++ "employees explicitly marked as EPF-exempt.")
      else .ok ()

/-- The rate an assignment stores. -/
def normalizedVpfRatePercent (isPfOptedOut : Bool) (vpfRatePercent : ℚ) : ℚ :=
  if isPfOptedOut then 0 else normalizeDecimal vpfRatePercent

/-- **Assign a compensation**, with the lines of its template. -/
def assignEmployeeCompensation (employee : Employee) (lines : List CompensationAssignmentLine)
    (effectiveFrom : Date) (autoApprove : Bool) (taxRegime : TaxRegime)
    (isPfOptedOut isEpfExempt : Bool) (vpfRatePercent : ℚ) :
    Except String CompensationAssignment :=
  match validatePfOptOutEligibility employee isPfOptedOut isEpfExempt with
  | .error message => .error message
  | .ok () =>
    let rate := normalizedVpfRatePercent isPfOptedOut vpfRatePercent
    if isPfOptedOut = false ∧ rate < 12 then
      .error "Employee PF/VPF rate cannot be below 12% unless PF is opted out."
    else if 100 < rate then .error "Employee PF/VPF rate cannot exceed 100% of PF wages."
    else
      .ok { employee := employee.id, effectiveFrom := effectiveFrom, isApproved := autoApprove,
            taxRegime := taxRegime, isPfOptedOut := isPfOptedOut, vpfRatePercent := rate,
            lines := lines }

/-- **An admitted rate**: at least 12 %, or zero when the fund is opted out of. -/
def CompensationAssignment.AdmittedRate (assignment : CompensationAssignment) : Prop :=
  if assignment.isPfOptedOut then assignment.vpfRatePercent = 0
  else 12 ≤ assignment.vpfRatePercent

section

variable {employee : Employee} {lines : List CompensationAssignmentLine} {effectiveFrom : Date}
  {autoApprove isPfOptedOut isEpfExempt : Bool} {taxRegime : TaxRegime} {vpfRatePercent : ℚ}
  {assignment : CompensationAssignment}

theorem admittedRate_of_assignEmployeeCompensation (h : assignEmployeeCompensation employee lines
      effectiveFrom autoApprove taxRegime isPfOptedOut isEpfExempt vpfRatePercent
      = .ok assignment) : assignment.AdmittedRate := by
  unfold assignEmployeeCompensation at h
  dsimp only at h
  split at h
  · cases h
  · split at h
    · cases h
    · next hlow =>
      split at h
      · cases h
      · obtain rfl := Except.ok.inj h
        cases hin : isPfOptedOut with
        | true => rfl
        | false =>
          show 12 ≤ normalizedVpfRatePercent false vpfRatePercent
          exact not_lt.mp (fun hrate => hlow ⟨hin, hin ▸ hrate⟩)

end

/-! ## The computed lines of an item -/

/-- **The computed amount of a code**: that of its line, if there is one. -/
def ItemSnapshot.computed (snapshot : ItemSnapshot) (code : String) : ℚ :=
  (snapshot.lines.find? (fun line => line.componentCode = code ∧ line.autoCalculated)).elim 0
    SnapshotLine.monthlyAmount

/-- **Both shares are there, the employee's no smaller, or neither is.** -/
def PfSymmetric (employee employer : ℚ) : Prop :=
  (employee = 0 ∧ employer = 0) ∨ (0 < employee ∧ 0 < employer ∧ employer ≤ employee)

instance (employee employer : ℚ) : Decidable (PfSymmetric employee employer) :=
  inferInstanceAs (Decidable (_ ∨ _))

namespace ItemInputs

variable {inp : ItemInputs} {code : String} {amount : ℚ} {line : SnapshotLine}

/-- The codes of the provident fund, and the shares. -/
def IsPfShare (inp : ItemInputs) (code : String) (amount : ℚ) : Prop :=
  (code = "PF_EMPLOYEE" ∧ amount = inp.providentFund.employee)
    ∨ (code = "PF_EMPLOYER" ∧ amount = inp.providentFund.employer)

theorem mem_levyLines {employeeCode employerCode : String} {shares : Option (ℚ × ℚ)}
    (h : line ∈ levyLines employeeCode employerCode shares) :
    line.componentCode = employeeCode ∨ line.componentCode = employerCode := by
  cases shares with
  | none => cases h
  | some shares =>
    rcases List.mem_cons.mp h with rfl | h
    · exact Or.inl rfl
    · rw [List.mem_singleton.mp h]
      exact Or.inr rfl

/-- A line the fund is computed for states the share. -/
theorem amount_of_mem_listed (hcode : inp.IsPfShare code amount)
    (hline : line ∈ inp.assignment.lines.map inp.listedLine) (hlineCode : line.componentCode = code)
    (hauto : line.autoCalculated = true) : line.monthlyAmount = amount := by
  obtain ⟨source, -, rfl⟩ := List.mem_map.mp hline
  rw [listedLine_componentCode] at hlineCode
  unfold listedLine at hauto ⊢
  split at hauto
  · next hpos =>
    rw [if_pos hpos]
    rcases hcode with ⟨rfl, rfl⟩ | ⟨rfl, rfl⟩ <;>
      simp [replacePfLine, CompensationAssignmentLine.snapshot, hlineCode]
  · exact absurd hauto (by simp [CompensationAssignmentLine.snapshot])

theorem amount_of_mem_pfLines (hcode : inp.IsPfShare code amount) (hline : line ∈ inp.pfLines)
    (hlineCode : line.componentCode = code) : line.monthlyAmount = amount := by
  have hmem : line = autoLine "PF_EMPLOYEE" .employeeDeduction inp.providentFund.employee
      ∨ line = autoLine "PF_EMPLOYER" .employerContribution inp.providentFund.employer := by
    unfold pfLines at hline
    split at hline
    · rcases List.mem_append.mp hline with hline | hline <;> split at hline
      · cases hline
      · exact Or.inl (List.mem_singleton.mp hline)
      · cases hline
      · exact Or.inr (List.mem_singleton.mp hline)
    · cases hline
  rcases hcode with ⟨rfl, rfl⟩ | ⟨rfl, rfl⟩ <;> rcases hmem with rfl | rfl
  · rfl
  · exact absurd hlineCode (by simp [autoLine])
  · exact absurd hlineCode (by simp [autoLine])
  · rfl

/-- **A computed line of the provident fund** states the share. -/
theorem amount_of_mem_itemLines (hcode : inp.IsPfShare code amount)
    (hline : line ∈ inp.itemLines) (hlineCode : line.componentCode = code)
    (hauto : line.autoCalculated = true) : line.monthlyAmount = amount := by
  have hpf : code = "PF_EMPLOYEE" ∨ code = "PF_EMPLOYER" := hcode.imp And.left And.left
  have hother {c : String} (h : line.componentCode = c)
      (hne : c ≠ "PF_EMPLOYEE" ∧ c ≠ "PF_EMPLOYER") :
      False := by
    rcases hpf with rfl | rfl
    · exact hne.1 (h.symm.trans hlineCode)
    · exact hne.2 (h.symm.trans hlineCode)
  unfold itemLines computedLines at hline
  simp only [List.mem_append] at hline
  rcases hline with (hline | ((hline | hline) | hline) | hline) | hline
  · exact amount_of_mem_listed hcode hline hlineCode hauto
  · exact amount_of_mem_pfLines hcode hline hlineCode
  · rcases mem_levyLines hline with h | h
    · exact (hother h (by decide)).elim
    · exact (hother h (by decide)).elim
  · split at hline
    · rw [List.mem_singleton] at hline
      exact (hother (c := "PROFESSIONAL_TAX") (by rw [hline]; rfl) (by decide)).elim
    · cases hline
  · rcases mem_levyLines hline with h | h
    · exact (hother h (by decide)).elim
    · exact (hother h (by decide)).elim
  · obtain ⟨claim, -, rfl⟩ := List.mem_map.mp hline
    exact (hother rfl (expenseCode_ne claim.id)).elim

/-- With a basic pay each share has a line. -/
theorem exists_pfLine (hcode : inp.IsPfShare code amount) (hbasic : 0 < inp.basicPay) :
    ∃ line ∈ inp.itemLines, line.componentCode = code ∧ line.autoCalculated = true := by
  have hpf : code = "PF_EMPLOYEE" ∨ code = "PF_EMPLOYER" := hcode.imp And.left And.left
  cases hhas : inp.hasLine code with
  | true =>
    obtain ⟨source, hsource, hsourceCode⟩ := List.any_eq_true.mp hhas
    refine ⟨inp.listedLine source, ?_, ?_, ?_⟩
    · exact List.mem_append_left _ (List.mem_append_left _ (List.mem_map_of_mem hsource))
    · rw [listedLine_componentCode]
      exact of_decide_eq_true hsourceCode
    · have hcodeEq : source.componentCode = code := of_decide_eq_true hsourceCode
      rcases hpf with rfl | rfl <;>
        simp [listedLine, hbasic, replacePfLine, CompensationAssignmentLine.snapshot, hcodeEq]
  | false =>
    have hmem : ∃ line ∈ inp.pfLines, line.componentCode = code ∧ line.autoCalculated = true := by
      rcases hpf with rfl | rfl <;> simp [pfLines, hbasic, hhas, autoLine]
    obtain ⟨line, hline, h⟩ := hmem
    refine ⟨line, ?_, h⟩
    simp only [itemLines, computedLines, List.mem_append]
    exact Or.inl (Or.inr (Or.inl (Or.inl (Or.inl hline))))

/-- Without one there is nothing to compute. -/
theorem share_eq_zero (hcode : inp.IsPfShare code amount) (hbasic : ¬ 0 < inp.basicPay) :
    amount = 0 := by
  have hfund : inp.providentFund = ⟨0, 0, 0, 0, 0⟩ := by
    unfold providentFund
    rw [if_neg (by rwa [(earned_fields inp).2.1])]
  rcases hcode with ⟨-, rfl⟩ | ⟨-, rfl⟩ <;> rw [hfund]

end ItemInputs

/-- **The shares in an item** are the computed ones. -/
theorem computed_of_ready {inp : ItemInputs} {amounts : ItemAmounts} {snapshot : ItemSnapshot}
    {code : String} {amount : ℚ} (h : calculateItem inp = .ok (.ready amounts snapshot))
    (hcode : inp.IsPfShare code amount) : snapshot.computed code = amount := by
  have hlines : snapshot.lines = inp.itemLines := (linesTotal_sub_total h .earnings).1
  unfold ItemSnapshot.computed
  rw [hlines]
  cases hfind : inp.itemLines.find?
      (fun line => line.componentCode = code ∧ line.autoCalculated) with
  | some line =>
    have hfound := List.find?_some hfind
    obtain ⟨hlineCode, hauto⟩ := of_decide_eq_true hfound
    exact ItemInputs.amount_of_mem_itemLines hcode (List.mem_of_find?_eq_some hfind) hlineCode hauto
  | none =>
    by_cases hbasic : 0 < inp.basicPay
    · obtain ⟨line, hline, hlineCode⟩ := ItemInputs.exists_pfLine hcode hbasic
      exact absurd (decide_eq_true hlineCode) (List.find?_eq_none.mp hfind line hline)
    · exact (ItemInputs.share_eq_zero hcode hbasic).symm

/-! ## When the shares agree -/

namespace ItemInputs

variable {inp : ItemInputs}

theorem onPaise_basicPay (inp : ItemInputs) : OnPaise inp.basicPay := by
  have hfold : ∀ (lines : List CompensationAssignmentLine) (basic : ℚ), OnPaise basic →
      OnPaise (lines.foldl (fun basic line =>
        if line.componentCode = "BASIC" ∧ line.componentType = PayrollComponentType.earning
        then normalizeDecimal line.monthlyAmount else basic) basic) := by
    intro lines
    induction lines with
    | nil => exact fun _ h => h
    | cons line lines ih =>
      intro basic h
      rw [List.foldl_cons]
      refine ih _ ?_
      split
      · exact onPaise_normalizeDecimal _
      · exact h
  exact hfold _ 0 Decimal.onGrid_zero

/-- The wages the contributions are a share of. -/
def pfWages (inp : ItemInputs) : ℚ := min inp.basicPay pfWageCeiling

/-- The shares of whoever is in the fund. -/
theorem shares_of_in (hbasic : 0 < inp.basicPay) (hin : inp.pfIsOptedOut = false) :
    inp.providentFund.employee = normalizeDecimal (inp.pfWages * (inp.pfEmployeeRatePercent / 100))
      ∧ inp.providentFund.employer = normalizeDecimal (inp.pfWages * pfRate) := by
  have hbasicPay : inp.earned.basicPay = inp.basicPay := (earned_fields inp).2.1
  unfold providentFund
  rw [hbasicPay, if_pos hbasic, hin]
  unfold calculateEpfContributions pfWages
  rw [normalizeDecimal_of_onPaise (onPaise_basicPay inp)]
  exact ⟨rfl, rfl⟩

/-- Nobody pays for whoever is out. -/
theorem shares_of_out (hout : inp.pfIsOptedOut = true) :
    inp.providentFund.employee = 0 ∧ inp.providentFund.employer = 0 := by
  unfold providentFund
  split
  · simp [calculateEpfContributions]
  · exact ⟨rfl, rfl⟩

theorem pfIsOptedOut_iff (inp : ItemInputs) : inp.pfIsOptedOut = true
    ↔ inp.assignment.isPfOptedOut = true ∧ pfWageCeiling < inp.basicPay
      ∧ inp.employee.dateOfJoining.isSome = true := by
  unfold pfIsOptedOut
  rw [(earned_fields inp).2.1, decide_eq_true_iff]

theorem pfWages_of_le (h : inp.basicPay ≤ pfWageCeiling) : inp.pfWages = inp.basicPay :=
  min_eq_left h

theorem pfWages_nonneg (h : 0 ≤ inp.basicPay) : 0 ≤ inp.pfWages :=
  le_min h (by norm_num [pfWageCeiling])

/-- No basic pay lies between four paise and five. -/
theorem basicPay_le_iff (inp : ItemInputs) : inp.basicPay ≤ 4 / 100 ↔ ¬ 5 / 100 ≤ inp.basicPay := by
  obtain ⟨n, hn⟩ := onPaise_basicPay inp
  rw [hn, not_le]
  constructor
  · intro h
    linarith
  · intro h
    have hcast : (n : ℚ) < 5 := by linarith
    have hle : n ≤ 4 := by
      have : n < (5 : ℤ) := by exact_mod_cast hcast
      omega
    have : (n : ℚ) ≤ 4 := by exact_mod_cast hle
    linarith

/-- **The employer pays something** from five paise on. -/
theorem employer_pos_iff (hbasic : 0 < inp.basicPay) (hin : inp.pfIsOptedOut = false) :
    0 < inp.providentFund.employer ↔ 5 / 100 ≤ inp.basicPay := by
  rw [(shares_of_in hbasic hin).2, normalizeDecimal_pos_iff]
  rcases le_total inp.basicPay pfWageCeiling with hle | hle
  · rw [pfWages_of_le hle, pfRate]
    constructor
    · intro h
      by_contra hlow
      linarith [(basicPay_le_iff inp).mpr hlow]
    · intro h
      linarith
  · have hwages : inp.pfWages = pfWageCeiling := min_eq_right hle
    rw [hwages]
    refine iff_of_true (by norm_num [pfWageCeiling, pfRate]) (le_trans ?_ hle)
    norm_num [pfWageCeiling]

/-- A rate of 12 % or more gives the employee no smaller a share. -/
theorem employer_le_employee (hbasic : 0 < inp.basicPay) (hin : inp.pfIsOptedOut = false)
    (hrate : 12 ≤ inp.pfEmployeeRatePercent) :
    inp.providentFund.employer ≤ inp.providentFund.employee := by
  obtain ⟨hemployee, hemployer⟩ := shares_of_in hbasic hin
  rw [hemployee, hemployer]
  refine normalizeDecimal_mono (mul_le_mul_of_nonneg_left ?_ (pfWages_nonneg hbasic.le))
  rw [pfRate]
  linarith

/-- The rate of the calculation is the stored one. -/
theorem pfEmployeeRatePercent_eq (hrate : inp.assignment.AdmittedRate) :
    inp.pfEmployeeRatePercent = inp.assignment.vpfRatePercent := by
  unfold CompensationAssignment.AdmittedRate at hrate
  unfold pfEmployeeRatePercent
  split at hrate
  · next hflag => rw [if_pos hflag, hrate]
  · next hflag => rw [if_neg hflag]

/-- **Five paise or more**: the employer pays, so the employee must. -/
theorem pfSymmetric_of_high (hrate : inp.assignment.AdmittedRate) (hbasic : 0 < inp.basicPay)
    (hin : inp.pfIsOptedOut = false) (hhigh : 5 / 100 ≤ inp.basicPay) :
    PfSymmetric inp.providentFund.employee inp.providentFund.employer
      ↔ inp.assignment.isPfOptedOut = false := by
  have hpays := (employer_pos_iff hbasic hin).mpr hhigh
  unfold CompensationAssignment.AdmittedRate at hrate
  cases hflag : inp.assignment.isPfOptedOut with
  | true =>
    have hnothing : inp.providentFund.employee = 0 := by
      rw [(shares_of_in hbasic hin).1, pfEmployeeRatePercent, if_pos hflag]
      simp
    refine iff_of_false ?_ Bool.noConfusion
    rintro (⟨-, h⟩ | ⟨h, -⟩)
    · exact hpays.ne' h
    · exact h.ne' hnothing
  | false =>
    have hadmitted : 12 ≤ inp.pfEmployeeRatePercent := by
      rw [hflag] at hrate
      rw [pfEmployeeRatePercent, hflag]
      exact hrate
    have hle := employer_le_employee hbasic hin hadmitted
    exact iff_of_true (Or.inr ⟨hpays.trans_le hle, hpays, hle⟩) rfl

/-- **Up to four paise**: the employer pays nothing, so the employee must not. -/
theorem pfSymmetric_of_low (hrate : inp.assignment.AdmittedRate) (hbasic : 0 < inp.basicPay)
    (hin : inp.pfIsOptedOut = false) (hlow : inp.basicPay ≤ 4 / 100) :
    PfSymmetric inp.providentFund.employee inp.providentFund.employer
      ↔ inp.basicPay * (inp.assignment.vpfRatePercent / 100) ≤ 1 / 200 := by
  have hwages : inp.pfWages = inp.basicPay :=
    pfWages_of_le (hlow.trans (by norm_num [pfWageCeiling]))
  obtain ⟨hemployee, hemployer⟩ := shares_of_in hbasic hin
  have hpays := mt (employer_pos_iff hbasic hin).mp ((basicPay_le_iff inp).mp hlow)
  have hnothing : inp.providentFund.employer = 0 := by
    refine le_antisymm (not_lt.mp hpays) ?_
    rw [hemployer]
    exact normalizeDecimal_nonneg (mul_nonneg (pfWages_nonneg hbasic.le) (by norm_num [pfRate]))
  have hpercent : 0 ≤ inp.assignment.vpfRatePercent := by
    unfold CompensationAssignment.AdmittedRate at hrate
    split at hrate <;> linarith
  have hnonneg : 0 ≤ inp.providentFund.employee := by
    rw [hemployee, pfEmployeeRatePercent_eq hrate]
    exact normalizeDecimal_nonneg (mul_nonneg (pfWages_nonneg hbasic.le) (by linarith))
  have hzero : PfSymmetric inp.providentFund.employee inp.providentFund.employer
      ↔ inp.providentFund.employee = 0 := by
    refine ⟨fun h => ?_, fun h => Or.inl ⟨h, hnothing⟩⟩
    rcases h with ⟨h, -⟩ | ⟨-, h, -⟩
    · exact h
    · exact absurd hnothing h.ne'
  rw [hzero, ← hwages, ← pfEmployeeRatePercent_eq hrate, ← not_lt, ← normalizeDecimal_pos_iff,
    ← hemployee, not_lt]
  exact ⟨fun h => h.le, fun h => le_antisymm h hnonneg⟩

end ItemInputs

/-- **When the shares of an item agree**: there is no basic pay; or it is so small that both
round to nothing; or the employer pays something, and the employee is not opted out, or the
calculation confirms the opt-out. -/
theorem pfSymmetric_iff (employee : Employee) (lines : List CompensationAssignmentLine)
    (effectiveFrom : Date) (autoApprove : Bool) (taxRegime : TaxRegime)
    (isPfOptedOut isEpfExempt : Bool) (vpfRatePercent : ℚ) {assignment : CompensationAssignment}
    (hassign : assignEmployeeCompensation employee lines effectiveFrom autoApprove taxRegime
      isPfOptedOut isEpfExempt vpfRatePercent = .ok assignment)
    {inp : ItemInputs} (hassignment : inp.assignment = { assignment with isApproved := true })
    {amounts : ItemAmounts} {snapshot : ItemSnapshot}
    (h : calculateItem inp = .ok (.ready amounts snapshot)) :
    PfSymmetric (snapshot.computed "PF_EMPLOYEE") (snapshot.computed "PF_EMPLOYER")
      ↔ inp.basicPay ≤ 0
        ∨ (inp.basicPay ≤ 4 / 100
            ∧ inp.basicPay * (inp.assignment.vpfRatePercent / 100) ≤ 1 / 200)
        ∨ (5 / 100 ≤ inp.basicPay ∧ (inp.assignment.isPfOptedOut = true →
            pfWageCeiling < inp.basicPay ∧ inp.employee.dateOfJoining.isSome = true)) := by
  rw [computed_of_ready h (Or.inl ⟨rfl, rfl⟩), computed_of_ready h (Or.inr ⟨rfl, rfl⟩)]
  have hrate : inp.assignment.AdmittedRate := by
    have hadmitted := admittedRate_of_assignEmployeeCompensation hassign
    rw [hassignment]
    exact hadmitted
  by_cases hbasic : 0 < inp.basicPay
  · rw [or_iff_right (not_le.mpr hbasic)]
    cases hout : inp.pfIsOptedOut with
    | true =>
      obtain ⟨-, hhigh, hjoined⟩ := (ItemInputs.pfIsOptedOut_iff inp).mp hout
      refine iff_of_true (Or.inl (ItemInputs.shares_of_out hout))
        (Or.inr ⟨le_trans ?_ hhigh.le, fun _ => ⟨hhigh, hjoined⟩⟩)
      norm_num [pfWageCeiling]
    | false =>
      by_cases hhigh : 5 / 100 ≤ inp.basicPay
      · have hsmall : ¬ inp.basicPay ≤ 4 / 100 :=
          fun h => (ItemInputs.basicPay_le_iff inp).mp h hhigh
        have hconfirmed : inp.assignment.isPfOptedOut = true →
            ¬ (pfWageCeiling < inp.basicPay ∧ inp.employee.dateOfJoining.isSome = true) := by
          intro hflag hcalc
          rw [(ItemInputs.pfIsOptedOut_iff inp).mpr ⟨hflag, hcalc⟩] at hout
          cases hout
        rw [ItemInputs.pfSymmetric_of_high hrate hbasic hout hhigh,
          or_iff_right (fun h => hsmall h.1), and_iff_right hhigh]
        constructor
        · intro hflag hopted
          rw [hflag] at hopted
          cases hopted
        · intro hcalc
          cases hflag : inp.assignment.isPfOptedOut with
          | true => exact absurd (hcalc hflag) (hconfirmed hflag)
          | false => rfl
      · have hlow := (ItemInputs.basicPay_le_iff inp).mpr hhigh
        rw [ItemInputs.pfSymmetric_of_low hrate hbasic hout hlow, and_iff_right hlow,
          or_iff_left (fun h => hhigh h.1)]
  · refine iff_of_true (Or.inl ⟨?_, ?_⟩) (Or.inl (not_lt.mp hbasic))
    · exact ItemInputs.share_eq_zero (Or.inl ⟨rfl, rfl⟩) hbasic
    · exact ItemInputs.share_eq_zero (Or.inr ⟨rfl, rfl⟩) hbasic

/-! ## An employee who opted out

A joiner of 2020 opts out, on a basic pay of 10000: below the ceiling the calculation does
not confirm it. -/

namespace Sample

def recentJoiner : Employee := { employee with dateOfJoining := some ⟨2020, 6, 1, by decide⟩ }

/-- A basic pay, opted out of the provident fund. -/
def optedOut (basic : ℚ) : CompensationAssignment :=
  { assignment basic with isPfOptedOut := true, vpfRatePercent := 0 }

end Sample

theorem assign_optedOut (basic : ℚ) :
    assignEmployeeCompensation Sample.recentJoiner (Sample.assignment basic).lines
      ⟨2024, 1, 1, by decide⟩ true .new true false 12 = .ok (Sample.optedOut basic) := by
  rfl

theorem ready_optedOut (basic : ℚ) (h : basic = 10000 ∨ basic = 20000) :
    calculateItem (Sample.inputs Sample.april Sample.recentJoiner (Sample.optedOut basic))
      = .ok (.ready
          (Sample.item (Sample.inputs Sample.april Sample.recentJoiner (Sample.optedOut basic))).1
          (Sample.item
            (Sample.inputs Sample.april Sample.recentJoiner (Sample.optedOut basic))).2) := by
  rcases h with rfl | rfl <;> decide +kernel

/-- Above the ceiling neither pays. -/
theorem pfSymmetric_iff_sample :
    PfSymmetric
      ((Sample.item (Sample.inputs Sample.april Sample.recentJoiner
        (Sample.optedOut 20000))).2.computed "PF_EMPLOYEE")
      ((Sample.item (Sample.inputs Sample.april Sample.recentJoiner
        (Sample.optedOut 20000))).2.computed "PF_EMPLOYER") :=
  (pfSymmetric_iff _ _ _ _ _ _ _ _ (assign_optedOut 20000) rfl
    (ready_optedOut 20000 (Or.inr rfl))).mpr (by decide +kernel)

/-- **Below the ceiling only the employer pays.** -/
theorem optedOut_not_symmetric :
    ¬ ∀ (employee : Employee) (lines : List CompensationAssignmentLine) (effectiveFrom : Date)
        (autoApprove : Bool) (taxRegime : TaxRegime) (isPfOptedOut isEpfExempt : Bool)
        (vpfRatePercent : ℚ) (assignment : CompensationAssignment) (inp : ItemInputs)
        (amounts : ItemAmounts) (snapshot : ItemSnapshot),
      assignEmployeeCompensation employee lines effectiveFrom autoApprove taxRegime isPfOptedOut
        isEpfExempt vpfRatePercent = .ok assignment →
      inp.assignment = { assignment with isApproved := true } →
      calculateItem inp = .ok (.ready amounts snapshot) →
      PfSymmetric (snapshot.computed "PF_EMPLOYEE") (snapshot.computed "PF_EMPLOYER") := by
  intro h
  have hsymmetric := h _ _ _ _ _ _ _ _ _ _ _ _ (assign_optedOut 10000) rfl
    (ready_optedOut 10000 (Or.inl rfl))
  revert hsymmetric
  decide +kernel

end Payroll
