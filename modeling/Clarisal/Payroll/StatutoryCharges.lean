import Clarisal.Payroll.Reconciliation

/-!
# What the calculation charges by itself

The calculation charges the provident fund, the state insurance, the professional tax and
the welfare fund by itself, and all of these are components that an assignment may have
lines of. A provident-fund line of the assignment gives way: it is listed with the computed
amount, and not counted. A line of another levy is listed and counted like any other, and
the computed one comes on top of it (`charged_twice`).

So each of them is charged once exactly when the assignment has at most one line for each,
and a line of a levy counts for nothing and the levy is not charged in the month
(`chargedOnce_iff`).
-/

namespace Payroll

/-- The levies that the calculation charges. -/
def levyCodes : List String :=
  ["ESI_EMPLOYEE", "ESI_EMPLOYER", "PROFESSIONAL_TAX", "LWF_EMPLOYEE", "LWF_EMPLOYER"]

/-- The default components that the calculation charges by itself. -/
def statutoryCodes : List String := "PF_EMPLOYEE" :: "PF_EMPLOYER" :: levyCodes

/-- The number of lines of a code. -/
def codeCount (code : String) (lines : List SnapshotLine) : ℕ :=
  lines.countP (fun line => line.componentCode = code)

namespace ItemInputs

variable (inp : ItemInputs)

/-- The computed lines of the provident fund, if the assignment has none. -/
def pfCharges : List SnapshotLine :=
  if 0 < inp.basicPay then
    [autoLine "PF_EMPLOYEE" .employeeDeduction inp.providentFund.employee,
      autoLine "PF_EMPLOYER" .employerContribution inp.providentFund.employer]
  else []

/-- The computed lines of the levies. -/
def levyCharges : List SnapshotLine :=
  levyLines "ESI_EMPLOYEE" "ESI_EMPLOYER" inp.esiShares
    ++ ((if 0 < inp.ptMonthly then
        [autoLine "PROFESSIONAL_TAX" .employeeDeduction inp.ptMonthly] else [])
      ++ levyLines "LWF_EMPLOYEE" "LWF_EMPLOYER" inp.labourWelfareFund.1)

/-- A levy is charged in the month. -/
def IsCharged (code : String) : Prop := ∃ line ∈ inp.levyCharges, line.componentCode = code

instance (code : String) : Decidable (inp.IsCharged code) :=
  inferInstanceAs (Decidable (∃ line ∈ inp.levyCharges, _))

/-- The number of lines that the assignment has of a code. -/
def templateCount (code : String) : ℕ :=
  inp.assignment.lines.countP (fun line => line.componentCode = code)

/-- What a total counts of the assignment's lines of a code. -/
def templateCharge (g : LineGroup) (code : String) : ℚ :=
  ((inp.assignment.lines.filter (fun line => line.componentCode = code)).map
    (CompensationAssignmentLine.counted g)).sum

/-- What a total counts of the lines of other codes. -/
def ownTotal (g : LineGroup) : ℚ :=
  ((inp.assignment.lines.filter (fun line => line.componentCode ∉ statutoryCodes)).map
    (CompensationAssignmentLine.counted g)).sum

/-- **Every statutory code is charged once**: it has one line at most, no template amount of
it is counted, and the totals hold the computed amounts. -/
def ChargedOnce (amounts : ItemAmounts) (snapshot : ItemSnapshot) : Prop :=
  (∀ code ∈ statutoryCodes, codeCount code snapshot.lines ≤ 1
      ∧ ∀ g, g ≠ .earnings → inp.templateCharge g code = 0)
    ∧ ∀ g, g ≠ .earnings → amounts.total g
      = inp.prorate (inp.ownTotal g + linesTotal g (inp.pfCharges ++ inp.levyCharges))

/-- **The assignment leaves the levies alone**: it has one line of a statutory code at most,
and a line of a levy is neither a deduction nor a contribution, or of no amount, in a month
in which the levy is not charged. -/
def LeavesLevies : Prop :=
  (∀ code ∈ statutoryCodes, inp.templateCount code ≤ 1)
    ∧ ∀ line ∈ inp.assignment.lines, line.componentCode ∈ levyCodes →
      ¬ inp.IsCharged line.componentCode
        ∧ (line.componentType.group = .earnings ∨ normalizeDecimal line.monthlyAmount = 0)

instance : Decidable inp.LeavesLevies := inferInstanceAs (Decidable (_ ∧ _))

variable {inp : ItemInputs}

/-! ## The computed lines -/

theorem computedLines_eq : inp.computedLines = inp.pfLines ++ inp.levyCharges := by
  rw [computedLines, levyCharges]
  simp only [List.append_assoc]

/-- Each levy has a line or none. -/
theorem levyCharges_sublist :
    (inp.levyCharges.map SnapshotLine.componentCode).Sublist levyCodes := by
  have hlevy : ∀ (employeeCode employerCode : String) (shares : Option (ℚ × ℚ)),
      ((levyLines employeeCode employerCode shares).map SnapshotLine.componentCode).Sublist
        [employeeCode, employerCode] := by
    intro employeeCode employerCode shares
    cases shares with
    | none => exact List.nil_sublist _
    | some shares => exact List.Sublist.refl _
  have htax : ((if 0 < inp.ptMonthly then
      [autoLine "PROFESSIONAL_TAX" .employeeDeduction inp.ptMonthly] else []).map
        SnapshotLine.componentCode).Sublist ["PROFESSIONAL_TAX"] := by
    split
    · exact List.Sublist.refl _
    · exact List.nil_sublist _
  rw [levyCharges, List.map_append, List.map_append]
  exact (hlevy _ _ _).append (htax.append (hlevy _ _ _))

/-- **The computed lines of a levy**: one if it is charged. -/
theorem codeCount_levyCharges (code : String) :
    codeCount code inp.levyCharges = if inp.IsCharged code then 1 else 0 := by
  have hone : codeCount code inp.levyCharges ≤ 1 := by
    have hnodup : levyCodes.Nodup := by decide
    have h := List.nodup_iff_count_le_one.mp (hnodup.sublist inp.levyCharges_sublist) code
    rwa [List.count_eq_countP, List.countP_map] at h
  split
  · next hcharged =>
    obtain ⟨line, hline, hcode⟩ := hcharged
    have hpos : 0 < codeCount code inp.levyCharges :=
      List.countP_pos_iff.mpr ⟨line, hline, decide_eq_true hcode⟩
    omega
  · next hnone =>
    refine List.countP_eq_zero.mpr (fun line hline hcode => hnone ⟨line, hline, ?_⟩)
    exact of_decide_eq_true hcode

theorem mem_levyCodes_of_isCharged {code : String} (h : inp.IsCharged code) :
    code ∈ levyCodes := by
  obtain ⟨line, hline, rfl⟩ := h
  exact levyCharges_sublist.subset (List.mem_map_of_mem hline)

theorem hasLine_iff (code : String) : inp.hasLine code = true ↔ 0 < inp.templateCount code := by
  rw [hasLine, List.any_eq_true, templateCount, List.countP_pos_iff]

/-- The computed lines of the provident fund: none of a code that the assignment has. -/
theorem codeCount_pfLines_le (inp : ItemInputs) (code : String) :
    codeCount code inp.pfLines
      ≤ if code ∈ levyCodes ∨ 0 < inp.templateCount code then 0 else 1 := by
  have hline : ∀ (other : String) (type : PayrollComponentType) (amount : ℚ),
      codeCount code (if inp.hasLine other then [] else [autoLine other type amount])
        = if other = code ∧ inp.templateCount other = 0 then 1 else 0 := by
    intro other type amount
    have hiff : inp.hasLine other = true ↔ 0 < inp.templateCount other := hasLine_iff other
    cases hhas : inp.hasLine other with
    | true =>
      have hpos := hiff.mp hhas
      rw [if_pos rfl, if_neg (by omega)]
      rfl
    | false =>
      have hzero : inp.templateCount other = 0 := by
        by_contra hne
        rw [hiff.mpr (Nat.pos_of_ne_zero hne)] at hhas
        cases hhas
      simp [codeCount, autoLine, hzero]
  have hcount : codeCount code inp.pfLines ≤
      (if "PF_EMPLOYEE" = code ∧ inp.templateCount "PF_EMPLOYEE" = 0 then 1 else 0)
        + if "PF_EMPLOYER" = code ∧ inp.templateCount "PF_EMPLOYER" = 0 then 1 else 0 := by
    unfold pfLines
    split
    · rw [codeCount, List.countP_append]
      exact (congrArg₂ (· + ·) (hline ..) (hline ..)).le
    · exact Nat.zero_le _
  refine hcount.trans ?_
  by_cases hemployee : "PF_EMPLOYEE" = code
  · subst hemployee
    simp [levyCodes, Nat.pos_iff_ne_zero]
  · by_cases hemployer : "PF_EMPLOYER" = code
    · subst hemployer
      simp [levyCodes, Nat.pos_iff_ne_zero]
    · simp [hemployee, hemployer]

/-- The codes of reimbursements are their own. -/
theorem codeCount_reimbursementLines {code : String} (hcode : code ∈ statutoryCodes) :
    codeCount code inp.reimbursementLines = 0 := by
  have hother : ∀ code ∈ statutoryCodes, code.toList.take 2 ≠ ['E', 'X'] := by decide
  refine List.countP_eq_zero.mpr (fun line hline hline' => hother code hcode ?_)
  obtain ⟨claim, -, rfl⟩ := List.mem_map.mp hline
  rw [← of_decide_eq_true hline']
  show (toString "EXPENSE_" ++ toString claim.id).toList.take 2 = ['E', 'X']
  rw [String.toList_append]
  rfl

/-- **The lines of a statutory code**: at most one, if the assignment has at most one, and
none of a levy that is charged. -/
theorem codeCount_itemLines_le_one_iff {code : String} (hcode : code ∈ statutoryCodes) :
    codeCount code inp.itemLines ≤ 1 ↔ inp.templateCount code ≤ 1
      ∧ (code ∈ levyCodes → 0 < inp.templateCount code → ¬ inp.IsCharged code) := by
  have hlisted : codeCount code (inp.assignment.lines.map inp.listedLine)
      = inp.templateCount code := by
    rw [codeCount, List.countP_map, templateCount]
    refine List.countP_congr (fun line _ => ?_)
    simp
  have hcount : codeCount code inp.itemLines = inp.templateCount code
      + (codeCount code inp.pfLines + if inp.IsCharged code then 1 else 0) := by
    rw [← hlisted, ← codeCount_levyCharges, itemLines, computedLines_eq]
    have hreimbursement : codeCount code inp.reimbursementLines = 0 :=
      codeCount_reimbursementLines hcode
    simp only [codeCount, List.countP_append] at hreimbursement ⊢
    rw [hreimbursement, add_zero]
  have hpf := inp.codeCount_pfLines_le code
  rw [hcount]
  by_cases hlevy : code ∈ levyCodes
  · rw [if_pos (Or.inl hlevy)] at hpf
    by_cases hcharged : inp.IsCharged code
    · simp only [hcharged, hlevy, if_true, not_true, imp_false, true_imp_iff]
      omega
    · simp only [hcharged, if_false, not_false_iff, implies_true, and_true]
      omega
  · have hnone : ¬ inp.IsCharged code := fun h => hlevy (mem_levyCodes_of_isCharged h)
    simp only [hnone, hlevy, if_false, false_imp_iff, and_true, false_or] at hpf ⊢
    split at hpf <;> omega

/-! ## The totals -/

/-- The computed amounts are counted, whether or not the assignment has the line. -/
theorem pfReplaced_add_linesTotal (g : LineGroup) :
    inp.pfReplaced g + linesTotal g inp.computedLines
      = linesTotal g (inp.pfCharges ++ inp.levyCharges) := by
  rw [computedLines_eq, linesTotal_append, linesTotal_append, ← add_assoc]
  refine congrArg (· + linesTotal g inp.levyCharges) ?_
  unfold pfReplaced pfLines pfCharges
  by_cases hpos : 0 < inp.basicPay
  · cases hemployee : inp.hasLine "PF_EMPLOYEE" <;> cases hemployer : inp.hasLine "PF_EMPLOYER" <;>
      cases g <;> simp [hpos, SnapshotLine.amountIn, autoLine, PayrollComponentType.group]
  · cases g <;> simp [hpos]

/-- What a line of the assignment counts for outside the earnings. -/
theorem counted_eq_zero_iff {line : CompensationAssignmentLine} (hpf : line.isPf = false) :
    (∀ g, g ≠ .earnings → line.counted g = 0)
      ↔ line.componentType.group = .earnings ∨ normalizeDecimal line.monthlyAmount = 0 := by
  constructor
  · intro h
    by_cases hgroup : line.componentType.group = .earnings
    · exact Or.inl hgroup
    · refine Or.inr ?_
      have hcounted := h _ hgroup
      rwa [CompensationAssignmentLine.counted, if_pos ⟨rfl, hpf⟩] at hcounted
  · intro h g hg
    unfold CompensationAssignmentLine.counted
    split
    · next hmem => exact h.resolve_left (fun hgroup => hg (hmem.1.symm.trans hgroup))
    · rfl

theorem isPf_eq_false_of_mem_levyCodes {line : CompensationAssignmentLine}
    (h : line.componentCode ∈ levyCodes) : line.isPf = false := by
  refine decide_eq_false (fun hpf => ?_)
  rcases hpf with hpf | hpf <;> rw [hpf] at h <;> exact absurd h (by decide)

/-- The only line of a code. -/
theorem templateCharge_of_mem {line : CompensationAssignmentLine}
    (hline : line ∈ inp.assignment.lines) (hone : inp.templateCount line.componentCode ≤ 1)
    (g : LineGroup) : inp.templateCharge g line.componentCode = line.counted g := by
  have hmem : line ∈ inp.assignment.lines.filter
      (fun l => l.componentCode = line.componentCode) :=
    List.mem_filter.mpr ⟨hline, decide_eq_true rfl⟩
  rw [templateCount, List.countP_eq_length_filter] at hone
  have hlength := Nat.le_antisymm hone (List.length_pos_of_mem hmem)
  obtain ⟨only, honly⟩ := List.length_eq_one_iff.mp hlength
  rw [honly] at hmem
  rw [templateCharge, honly, List.mem_singleton.mp hmem]
  simp

/-- Where the statutory lines of the assignment count for nothing, the totals hold the other
lines and the computed amounts. -/
theorem total_eq_of_uncounted {amounts : ItemAmounts} {snapshot : ItemSnapshot}
    (h : calculateItem inp = .ok (.ready amounts snapshot)) {g : LineGroup} (hg : g ≠ .earnings)
    (hzero : ∀ line ∈ inp.assignment.lines, line.componentCode ∈ statutoryCodes →
      line.counted g = 0) :
    amounts.total g
      = inp.prorate (inp.ownTotal g + linesTotal g (inp.pfCharges ++ inp.levyCharges)) := by
  obtain ⟨window, pt, ptBasis, hwindow, hpt, rfl, -, -⟩ := calculateItem_eq_ready h
  have htotal : ∀ g, (inp.fullMonth window pt).total g = inp.monthTotal g :=
    inp.fullMonth_total hwindow hpt
  have hown : (inp.assignment.lines.map (CompensationAssignmentLine.counted g)).sum
      = inp.ownTotal g := by
    rw [← List.sum_map_filter_add_sum_map_filter_not
      (fun line : CompensationAssignmentLine => line.componentCode ∉ statutoryCodes)]
    refine add_eq_left.mpr (List.sum_eq_zero fun x hx => ?_)
    obtain ⟨line, hline, rfl⟩ := List.mem_map.mp hx
    obtain ⟨hmem, hcode⟩ := List.mem_filter.mp hline
    exact hzero line hmem (by simpa using hcode)
  have harrears : inp.countedArrears g = 0 := by
    cases g with
    | earnings => exact absurd rfl hg
    | deductions => rfl
    | contributions => rfl
  rw [finalAmounts_total (fun g => htotal g ▸ onPaise_monthTotal g), htotal,
    linesTotal_reimbursementLines, if_neg hg, add_zero, monthTotal, hown, harrears, add_zero,
    add_assoc, pfReplaced_add_linesTotal]

end ItemInputs

/-- **Each statutory deduction is charged once** exactly when the assignment leaves the
levies alone. -/
theorem chargedOnce_iff {inp : ItemInputs} {amounts : ItemAmounts} {snapshot : ItemSnapshot}
    (h : calculateItem inp = .ok (.ready amounts snapshot)) :
    inp.ChargedOnce amounts snapshot ↔ inp.LeavesLevies := by
  have hlines : snapshot.lines = inp.itemLines := (linesTotal_sub_total h .earnings).1
  unfold ItemInputs.ChargedOnce
  rw [hlines]
  constructor
  · rintro ⟨hcodes, -⟩
    have hone : ∀ code ∈ statutoryCodes, inp.templateCount code ≤ 1 := fun code hcode =>
      ((ItemInputs.codeCount_itemLines_le_one_iff hcode).mp (hcodes code hcode).1).1
    refine ⟨hone, fun line hline hlevy => ?_⟩
    have hcode : line.componentCode ∈ statutoryCodes :=
      List.mem_cons_of_mem _ (List.mem_cons_of_mem _ hlevy)
    have hpos : 0 < inp.templateCount line.componentCode :=
      List.countP_pos_iff.mpr ⟨line, hline, decide_eq_true rfl⟩
    refine ⟨((ItemInputs.codeCount_itemLines_le_one_iff hcode).mp (hcodes _ hcode).1).2 hlevy hpos,
      (ItemInputs.counted_eq_zero_iff (ItemInputs.isPf_eq_false_of_mem_levyCodes hlevy)).mp
        (fun g hg => ?_)⟩
    rw [← ItemInputs.templateCharge_of_mem hline (hone _ hcode)]
    exact (hcodes _ hcode).2 g hg
  · rintro ⟨hone, hlevies⟩
    have hzero : ∀ g, g ≠ .earnings → ∀ line ∈ inp.assignment.lines,
        line.componentCode ∈ statutoryCodes → line.counted g = 0 := by
      intro g hg line hline hcode
      by_cases hlevy : line.componentCode ∈ levyCodes
      · exact (ItemInputs.counted_eq_zero_iff
          (ItemInputs.isPf_eq_false_of_mem_levyCodes hlevy)).mpr (hlevies line hline hlevy).2 g hg
      · -- the other statutory lines are those of the provident fund
        have hpf : line.isPf = true := by
          simp only [statutoryCodes, List.mem_cons, hlevy, or_false] at hcode
          exact decide_eq_true hcode
        simp [CompensationAssignmentLine.counted, hpf]
    refine ⟨fun code hcode => ⟨?_, fun g hg => ?_⟩, fun g hg =>
      ItemInputs.total_eq_of_uncounted h hg (hzero g hg)⟩
    · refine (ItemInputs.codeCount_itemLines_le_one_iff hcode).mpr ⟨hone code hcode, ?_⟩
      intro hlevy hpos
      obtain ⟨line, hline, hline'⟩ := List.countP_pos_iff.mp hpos
      obtain rfl := of_decide_eq_true hline'
      exact (hlevies line hline hlevy).1
    · refine List.sum_eq_zero (fun x hx => ?_)
      obtain ⟨line, hline, rfl⟩ := List.mem_map.mp hx
      obtain ⟨hmem, hline'⟩ := List.mem_filter.mp hline
      exact hzero g hg line hmem (of_decide_eq_true hline' ▸ hcode)

/-! ## An assignment with lines of its own

A basic pay of 10000, for which the state insurance is charged. -/

namespace Sample

/-- The assignment with a further deduction. -/
def withDeduction (code : String) (amount : ℚ) : CompensationAssignment :=
  { assignment 10000 with
    lines := (assignment 10000).lines ++ [
      { componentCode := code, componentType := .employeeDeduction, monthlyAmount := amount,
        isTaxable := false }] }

end Sample

/-- A provident-fund line of the assignment. -/
theorem chargedOnce_iff_sample :
    (Sample.inputs Sample.april Sample.employee
        (Sample.withDeduction "PF_EMPLOYEE" 1800)).ChargedOnce
      (Sample.item (Sample.inputs Sample.april Sample.employee
        (Sample.withDeduction "PF_EMPLOYEE" 1800))).1
      (Sample.item (Sample.inputs Sample.april Sample.employee
        (Sample.withDeduction "PF_EMPLOYEE" 1800))).2 :=
  (@chargedOnce_iff (Sample.inputs Sample.april Sample.employee
    (Sample.withDeduction "PF_EMPLOYEE" 1800)) _ _ (by decide +kernel)).mpr (by decide +kernel)

/-- A state-insurance line of the assignment is listed and counted beside the computed
one. -/
theorem charged_twice :
    ¬ ∀ (inp : ItemInputs) (amounts : ItemAmounts) (snapshot : ItemSnapshot),
      calculateItem inp = .ok (.ready amounts snapshot) → inp.ChargedOnce amounts snapshot := by
  intro h
  have hready : calculateItem (Sample.inputs Sample.april Sample.employee
        (Sample.withDeduction "ESI_EMPLOYEE" 75))
      = .ok (.ready
        (Sample.item (Sample.inputs Sample.april Sample.employee
          (Sample.withDeduction "ESI_EMPLOYEE" 75))).1
        (Sample.item (Sample.inputs Sample.april Sample.employee
          (Sample.withDeduction "ESI_EMPLOYEE" 75))).2) := by
    decide +kernel
  have htwo := ((h _ _ _ hready).1 "ESI_EMPLOYEE" (by decide)).1
  revert htwo
  decide +kernel

end Payroll
