import Clarisal.Employees.OrgChart
import Clarisal.Lib.Loops

/-!
# Circles of managers

The check of a chart walks from every employee to the managers above, and keeps the visited ones
for the walks to come. A walk that meets itself has found a circle; one that meets an earlier walk
or the top of the chart stops there.

What the earlier walks have visited leads nowhere else, and has its circles found. So a walk finds
the circle it ends in, if that is a new one, and no other: every circle that an employee of the
organisation is led into is found once (`validateOrgChartCycles_spec`).
-/

open Relation Loops

namespace OrgChart

open Approvals (OrganisationId EmployeeId)

/-! ## The search -/

structure CycleSearch where
  visited : List EmployeeId
  recStack : List EmployeeId
  cycles : List (List EmployeeId)

/-- The manager of an employee that is not deleted. -/
def StaffTables.managerOf (t : StaffTables) (id : EmployeeId) : Option EmployeeId :=
  (Table.find Employee.id id t.objects).bind Employee.reportingTo

/-- `dfs`. A round is one call; `path` is the copy of the caller. -/
def dfs (t : StaffTables) : ℕ → EmployeeId → List EmployeeId → CycleSearch → Option CycleSearch
  | 0, _, _, _ => none
  | n + 1, empId, path, s =>
    if empId ∈ s.recStack then
      some { s with cycles := s.cycles ++ [path.dropWhile (fun e => e ≠ empId) ++ [empId]] }
    else if empId ∈ s.visited then some s
    else
      let entered := { s with visited := empId :: s.visited, recStack := empId :: s.recStack }
      let left := match t.managerOf empId with
        | none => some entered
        | some manager => dfs t n manager (path ++ [empId]) entered
      left.map (fun s => { s with recStack := s.recStack.filter (fun e => e ≠ empId) })

/-- The employees that the search begins with. -/
def StaffTables.withManager (t : StaffTables) (organisation : OrganisationId) : List Employee :=
  t.objects.filter (fun e => e.organisation = organisation ∧ e.reportingTo ≠ none)

/-- A walk from an employee that no walk has met. -/
def searchFrom (t : StaffTables) (s : CycleSearch) (e : Employee) : Option CycleSearch :=
  if e.id ∈ s.visited then some s else dfs t (2 * t.employees.length + 1) e.id [] s

/-- `validate_org_chart_cycles`. -/
def validateOrgChartCycles (t : StaffTables) (organisation : OrganisationId) :
    Option (List (List EmployeeId)) :=
  ((t.withManager organisation).foldlM (searchFrom t) ⟨[], [], []⟩).map CycleSearch.cycles

/-- The circle that is reported as a list which ends where it begins. -/
def circleOf (reported : List EmployeeId) : Cycle EmployeeId := reported.dropLast

/-- **What is known of the visited employees**, but for those of the current walk: they lead
nowhere else, and their circles are found, each once. -/
structure SearchInv (t : StaffTables) (organisation : OrganisationId) (path : List EmployeeId)
    (s : CycleSearch) : Prop where
  path_visited : ∀ a ∈ path, a ∈ s.visited
  reached : ∀ a ∈ s.visited, ∃ e ∈ t.withManager organisation,
    ReflTransGen (Leads t.managerOf) e.id a
  closed : ∀ a ∈ s.visited, a ∉ path → ∀ b, t.managerOf a = some b → b ∈ s.visited ∧ b ∉ path
  found : ∀ w ∈ s.cycles, (∃ a l, w = a :: l ++ [a]) ∧ IsLoop t.managerOf (circleOf w)
    ∧ ∀ a ∈ circleOf w, a ∈ s.visited ∧ a ∉ path
  distinct : (s.cycles.map circleOf).Nodup
  complete : ∀ a ∈ s.visited, a ∉ path → TransGen (Leads t.managerOf) a a →
    ∃ w ∈ s.cycles, a ∈ circleOf w

section

variable {t : StaffTables} {organisation : OrganisationId} {path : List EmployeeId}
  {s s' : CycleSearch} {v a b : EmployeeId} {n : ℕ}

/-- Who is above someone of a walk is of the walk, or its end. -/
theorem mem_walk_of_leads (hchain : List.IsChain (Leads t.managerOf) (path ++ [v]))
    (ha : a ∈ path) (hb : t.managerOf a = some b) : b ∈ path ∨ b = v := by
  obtain ⟨init, rest, rfl⟩ := List.append_of_mem ha
  rw [List.append_assoc] at hchain
  have hrest : List.IsChain (Leads t.managerOf) (a :: (rest ++ [v])) := hchain.right_of_append
  cases rest with
  | nil =>
    exact Or.inr (leads_rightUnique _ hb (List.isChain_cons_cons.mp hrest).1)
  | cons c rest =>
    obtain rfl := leads_rightUnique _ hb (List.isChain_cons_cons.mp hrest).1
    exact Or.inl (List.mem_append_right _ (List.mem_cons_of_mem _ List.mem_cons_self))

/-- **A walk that stops** without a circle of its own. -/
theorem SearchInv.close (h : SearchInv t organisation path s)
    (hsucc : ∀ a ∈ path, ∀ b, t.managerOf a = some b → b ∈ s.visited)
    (hnone : ∀ a ∈ path, ¬ TransGen (Leads t.managerOf) a a) : SearchInv t organisation [] s where
  path_visited := by simp
  reached := h.reached
  closed a ha _ b hb := by
    refine ⟨?_, List.not_mem_nil⟩
    by_cases hpath : a ∈ path
    · exact hsucc a hpath b hb
    · exact (h.closed a ha hpath b hb).1
  found w hw := by
    obtain ⟨hlist, hloop, hmem⟩ := h.found w hw
    exact ⟨hlist, hloop, fun a ha => ⟨(hmem a ha).1, List.not_mem_nil⟩⟩
  distinct := h.distinct
  complete a ha _ hcycle := by
    by_cases hpath : a ∈ path
    · exact absurd hcycle (hnone a hpath)
    · exact h.complete a ha hpath hcycle

/-- **A walk that meets an earlier one** has met no circle of its own. -/
theorem SearchInv.meet (h : SearchInv t organisation path s)
    (hchain : List.IsChain (Leads t.managerOf) (path ++ [v])) (hv : v ∈ s.visited)
    (hpath : v ∉ path) : SearchInv t organisation [] s := by
  refine h.close (fun a ha b hb => ?_) (fun a ha hcycle => ?_)
  · rcases mem_walk_of_leads hchain ha hb with hb | rfl
    · exact h.path_visited b hb
    · exact hv
  · have hback := (reach_of_isChain hchain ha).to_reflTransGen.back_of_cycle
      (leads_rightUnique _) hcycle
    have hold : ∀ {c}, ReflTransGen (Leads t.managerOf) v c → c ∈ s.visited ∧ c ∉ path := by
      intro c hc
      induction hc with
      | refl => exact ⟨hv, hpath⟩
      | tail _ hedge ih => exact h.closed _ ih.1 ih.2 _ hedge
    exact (hold hback).2 ha

/-- **A walk that reaches the top** has met no circle. -/
theorem SearchInv.top (h : SearchInv t organisation (path ++ [v]) s)
    (hchain : List.IsChain (Leads t.managerOf) (path ++ [v])) (hv : t.managerOf v = none) :
    SearchInv t organisation [] s := by
  refine h.close (fun a ha b hb => ?_) (fun a ha => ?_)
  · rcases List.mem_append.mp ha with ha | ha
    · refine h.path_visited b ?_
      rcases mem_walk_of_leads hchain ha hb with hb | rfl
      · exact List.mem_append_left _ hb
      · exact List.mem_append_right _ List.mem_cons_self
    · obtain rfl := List.mem_singleton.mp ha
      cases hv.symm.trans hb
  · have hreach : ReflTransGen (Leads t.managerOf) a v := by
      rcases List.mem_append.mp ha with ha | ha
      · exact (reach_of_isChain hchain ha).to_reflTransGen
      · rw [List.mem_singleton.mp ha]
    refine hreach.not_cycle_of_end (leads_rightUnique _) fun c hc => ?_
    cases hv.symm.trans hc

/-- **A walk that meets itself** has found its circle. -/
theorem SearchInv.meetSelf (h : SearchInv t organisation path s) (hpath : path.Nodup)
    (hchain : List.IsChain (Leads t.managerOf) (path ++ [v])) (hv : v ∈ path) :
    SearchInv t organisation []
      { s with cycles := s.cycles ++ [path.dropWhile (fun e => e ≠ v) ++ [v]] } := by
  obtain ⟨init, l, rfl⟩ := List.append_of_mem hv
  have hinit : ∀ a ∈ init, a ≠ v := by
    rintro a ha rfl
    exact List.disjoint_of_nodup_append hpath ha List.mem_cons_self
  have hdrop : (init ++ v :: l).dropWhile (fun e => e ≠ v) = v :: l := by
    rw [List.dropWhile_append_of_pos (fun a ha => decide_eq_true (hinit a ha)),
      List.dropWhile_cons_of_neg (by simp)]
  have hcircle : circleOf (v :: l ++ [v]) = ((v :: l : List EmployeeId) : Cycle EmployeeId) := by
    rw [circleOf, List.dropLast_concat]
  rw [hdrop]
  refine ⟨by simp, h.reached, fun a ha _ b hb => ⟨?_, List.not_mem_nil⟩, fun w hw => ?_, ?_,
    fun a ha _ hcycle => ?_⟩
  · by_cases hold : a ∈ init ++ v :: l
    · refine h.path_visited b ?_
      rcases mem_walk_of_leads hchain hold hb with hb | rfl
      · exact hb
      · exact hv
    · exact (h.closed a ha hold b hb).1
  · rcases List.mem_append.mp hw with hw | hw
    · obtain ⟨hlist, hloop, hmem⟩ := h.found w hw
      exact ⟨hlist, hloop, fun a ha => ⟨(hmem a ha).1, List.not_mem_nil⟩⟩
    · obtain rfl := List.mem_singleton.mp hw
      refine ⟨⟨v, l, rfl⟩, hcircle ▸ isLoop_of_return hchain hpath, fun a ha => ?_⟩
      rw [hcircle, Cycle.mem_coe_iff] at ha
      exact ⟨h.path_visited a (List.mem_append_right _ ha), List.not_mem_nil⟩
  · rw [List.map_append, List.map_singleton, hcircle]
    refine h.distinct.append (List.nodup_singleton _) ?_
    rw [List.disjoint_singleton]
    intro hmem
    obtain ⟨w, hw, hsame⟩ := List.mem_map.mp hmem
    have hvw : v ∈ circleOf w := hsame ▸ Cycle.mem_coe_iff.mpr List.mem_cons_self
    exact ((h.found w hw).2.2 v hvw).2 hv
  · by_cases hold : a ∈ init ++ v :: l
    · refine ⟨v :: l ++ [v], List.mem_append_right _ List.mem_cons_self, ?_⟩
      rw [hcircle]
      exact mem_return_of_cycle hchain hpath hold hcycle
    · obtain ⟨w, hw, hmem⟩ := h.complete a ha hold hcycle
      exact ⟨w, List.mem_append_left _ hw, hmem⟩

/-- **A walk goes on** to someone that no walk has met. -/
theorem SearchInv.enter (h : SearchInv t organisation path s) (hnew : v ∉ s.visited)
    (hv : ∃ e ∈ t.withManager organisation, ReflTransGen (Leads t.managerOf) e.id v) :
    SearchInv t organisation (path ++ [v])
      { s with visited := v :: s.visited, recStack := v :: s.recStack } where
  path_visited a ha := by
    rcases List.mem_append.mp ha with ha | ha
    · exact List.mem_cons_of_mem _ (h.path_visited a ha)
    · exact List.mem_singleton.mp ha ▸ List.mem_cons_self
  reached a ha := by
    rcases List.mem_cons.mp ha with rfl | ha
    · exact hv
    · exact h.reached a ha
  closed a ha hpath b hb := by
    obtain ⟨hpath, hav⟩ := not_or.mp (mt List.mem_append.mpr hpath)
    have hold := (List.mem_cons.mp ha).resolve_left fun hav' =>
      hav (hav' ▸ List.mem_singleton_self _)
    obtain ⟨hb, hbpath⟩ := h.closed a hold hpath b hb
    refine ⟨List.mem_cons_of_mem _ hb, fun hmem => ?_⟩
    rcases List.mem_append.mp hmem with hmem | hmem
    · exact hbpath hmem
    · exact hnew (List.mem_singleton.mp hmem ▸ hb)
  found w hw := by
    obtain ⟨hlist, hloop, hmem⟩ := h.found w hw
    refine ⟨hlist, hloop, fun a ha => ⟨List.mem_cons_of_mem _ (hmem a ha).1, fun hpath => ?_⟩⟩
    rcases List.mem_append.mp hpath with hpath | hpath
    · exact (hmem a ha).2 hpath
    · exact hnew (List.mem_singleton.mp hpath ▸ (hmem a ha).1)
  distinct := h.distinct
  complete a ha hpath hcycle := by
    obtain ⟨hpath, hav⟩ := not_or.mp (mt List.mem_append.mpr hpath)
    have hold := (List.mem_cons.mp ha).resolve_left fun hav' =>
      hav (hav' ▸ List.mem_singleton_self _)
    exact h.complete a hold hpath hcycle

/-- **A walk to its end.** Afterwards nobody is on a walk but those who were before. -/
theorem dfs_spec (h : SearchInv t organisation path s) (hstack : ∀ a, a ∈ s.recStack ↔ a ∈ path)
    (hpath : path.Nodup) (hchain : List.IsChain (Leads t.managerOf) (path ++ [v]))
    (hv : ∃ e ∈ t.withManager organisation, ReflTransGen (Leads t.managerOf) e.id v)
    (hdfs : dfs t n v path s = some s') :
    SearchInv t organisation [] s' ∧ (∀ a, a ∈ s'.recStack ↔ a ∈ path)
      ∧ v ∈ s'.visited ∧ ∀ a ∈ s.visited, a ∈ s'.visited := by
  induction n generalizing v path s s' with
  | zero => cases hdfs
  | succ n ih =>
    unfold dfs at hdfs
    split at hdfs
    · next hself =>
      obtain rfl := Option.some.inj hdfs
      have hmem := (hstack v).mp hself
      exact ⟨h.meetSelf hpath hchain hmem, hstack, h.path_visited v hmem, fun _ ha => ha⟩
    · next hself =>
      have hvpath : v ∉ path := mt (hstack v).mpr hself
      split at hdfs
      · next hvisited =>
        obtain rfl := Option.some.inj hdfs
        exact ⟨h.meet hchain hvisited hvpath, hstack, hvisited, fun _ ha => ha⟩
      · next hnew =>
        obtain ⟨left, hleft, rfl⟩ := Option.map_eq_some_iff.mp hdfs
        have hentered := h.enter hnew hv
        have hstack' : ∀ a, a ∈ v :: s.recStack ↔ a ∈ path ++ [v] := by
          intro a
          rw [List.mem_cons, hstack, List.mem_append, List.mem_singleton, or_comm]
        have hwalk : SearchInv t organisation [] left ∧ (∀ a, a ∈ left.recStack ↔ a ∈ path ++ [v])
            ∧ ∀ a ∈ v :: s.visited, a ∈ left.visited := by
          split at hleft
          · next htop =>
            obtain rfl := Option.some.inj hleft
            exact ⟨hentered.top hchain htop, hstack', fun _ ha => ha⟩
          · next manager hmanager =>
            obtain ⟨e, he, hreach⟩ := hv
            obtain ⟨hinv, hstack'', -, hkept⟩ := ih hentered hstack'
              (hpath.append (List.nodup_singleton v) (List.disjoint_singleton.mpr hvpath))
              (hchain.append (List.isChain_singleton _) (by simpa [Leads] using hmanager))
              ⟨e, he, hreach.tail hmanager⟩ hleft
            exact ⟨hinv, hstack'', hkept⟩
        obtain ⟨hinv, hstack'', hkept⟩ := hwalk
        refine ⟨⟨hinv.path_visited, hinv.reached, hinv.closed, hinv.found, hinv.distinct,
          hinv.complete⟩, fun a => ?_, hkept v List.mem_cons_self,
          fun a ha => hkept a (List.mem_cons_of_mem _ ha)⟩
        show a ∈ left.recStack.filter (fun e => e ≠ v) ↔ a ∈ path
        rw [List.mem_filter, hstack'', List.mem_append, List.mem_singleton, decide_eq_true_iff]
        constructor
        · rintro ⟨ha | ha, hne⟩
          · exact ha
          · exact absurd ha hne
        · intro ha
          exact ⟨Or.inl ha, fun hav => hvpath (hav ▸ ha)⟩

/-- **A walk ends**: each round but the last visits someone for the first time. -/
theorem dfs_isSome (ids : Finset EmployeeId)
    (hids : ∀ a ∈ ids, ∀ b, t.managerOf a = some b → b ∈ ids) (hv : v ∈ ids)
    (hn : (ids \ s.visited.toFinset).card < n) : (dfs t n v path s).isSome = true := by
  induction n generalizing v path s with
  | zero => omega
  | succ n ih =>
    unfold dfs
    split
    · rfl
    · split
      · rfl
      · next hnew =>
        rw [Option.isSome_map]
        cases hmanager : t.managerOf v with
        | none => rfl
        | some manager =>
          refine ih (hids v hv manager hmanager) ?_
          have hlt : (ids \ (v :: s.visited).toFinset).card < (ids \ s.visited.toFinset).card := by
            refine Finset.card_lt_card ((Finset.ssubset_iff_of_subset ?_).mpr ⟨v, ?_, ?_⟩)
            · rw [List.toFinset_cons]
              exact Finset.sdiff_subset_sdiff (Finset.Subset.refl _) (Finset.subset_insert _ _)
            · exact Finset.mem_sdiff.mpr ⟨hv, fun hmem => hnew (List.mem_toFinset.mp hmem)⟩
            · simp
          exact hlt.trans_le (Nat.lt_succ_iff.mp hn)

end

/-- The employees, and their managers. -/
def StaffTables.ids (t : StaffTables) : Finset EmployeeId :=
  (t.employees.map Employee.id ++ t.employees.filterMap Employee.reportingTo).toFinset

section

variable {t : StaffTables} {organisation : OrganisationId} {s : CycleSearch} {a b : EmployeeId}

theorem managerOf_eq_some_iff :
    t.managerOf a = some b ↔ ∃ e ∈ t.objects, e.id = a ∧ e.reportingTo = some b := by
  unfold StaffTables.managerOf
  rw [Option.bind_eq_some_iff]
  constructor
  · rintro ⟨e, he, hto⟩
    exact ⟨e, Table.find_mem he, Table.find_key he, hto⟩
  · rintro ⟨e, he, hid, hto⟩
    exact ⟨e, (Table.find_eq_some_iff (objects_unique t)).mpr ⟨he, hid⟩, hto⟩

theorem mem_ids_of_managerOf (h : t.managerOf a = some b) : b ∈ t.ids := by
  obtain ⟨e, he, -, hto⟩ := managerOf_eq_some_iff.mp h
  exact List.mem_toFinset.mpr (List.mem_append_right _
    (List.mem_filterMap.mpr ⟨e, List.mem_of_mem_filter he, hto⟩))

theorem card_ids_lt (t : StaffTables) : t.ids.card < 2 * t.employees.length + 1 := by
  have hcard := List.toFinset_card_le
    (t.employees.map Employee.id ++ t.employees.filterMap Employee.reportingTo)
  have hmanagers := List.length_filterMap_le Employee.reportingTo t.employees
  rw [List.length_append, List.length_map] at hcard
  unfold StaffTables.ids
  omega

/-- What the visited lead to is visited. -/
theorem SearchInv.visited_of_reach (h : SearchInv t organisation [] s) (ha : a ∈ s.visited)
    (hreach : ReflTransGen (Leads t.managerOf) a b) : b ∈ s.visited := by
  induction hreach with
  | refl => exact ha
  | tail _ hedge ih => exact (h.closed _ ih List.not_mem_nil _ hedge).1

/-- **The search of a list of employees** ends, and has visited them. -/
theorem search_spec (es : List Employee) (hes : ∀ e ∈ es, e ∈ t.withManager organisation)
    (h : SearchInv t organisation [] s) (hstack : ∀ a, a ∈ s.recStack ↔ a ∈ []) :
    ∃ s', es.foldlM (searchFrom t) s = some s' ∧ SearchInv t organisation [] s'
      ∧ (∀ a ∈ s.visited, a ∈ s'.visited) ∧ ∀ e ∈ es, e.id ∈ s'.visited := by
  induction es generalizing s with
  | nil => exact ⟨s, rfl, h, fun _ ha => ha, by simp⟩
  | cons e es ih =>
    obtain ⟨he, hes⟩ := List.forall_mem_cons.mp hes
    obtain ⟨mid, hmid, hinv, hmidStack, hvisited, hkept⟩ : ∃ mid, searchFrom t s e = some mid
        ∧ SearchInv t organisation [] mid ∧ (∀ a, a ∈ mid.recStack ↔ a ∈ [])
        ∧ e.id ∈ mid.visited ∧ ∀ a ∈ s.visited, a ∈ mid.visited := by
      unfold searchFrom
      by_cases hvisited : e.id ∈ s.visited
      · exact ⟨s, if_pos hvisited, h, hstack, hvisited, fun _ ha => ha⟩
      · have heids : e.id ∈ t.ids := List.mem_toFinset.mpr (List.mem_append_left _
          (List.mem_map_of_mem (List.mem_of_mem_filter (List.mem_of_mem_filter he))))
        have hfuel : (t.ids \ s.visited.toFinset).card < 2 * t.employees.length + 1 :=
          (Finset.card_le_card Finset.sdiff_subset).trans_lt (card_ids_lt t)
        obtain ⟨mid, hmid⟩ := Option.isSome_iff_exists.mp
          (show (dfs t (2 * t.employees.length + 1) e.id [] s).isSome = true from
            dfs_isSome t.ids (fun _ _ _ => mem_ids_of_managerOf) heids hfuel)
        obtain ⟨hinv, hmidStack, hv, hkept⟩ := dfs_spec h hstack List.nodup_nil
          (List.isChain_singleton _) ⟨e, he, .refl⟩ hmid
        exact ⟨mid, (if_neg hvisited).trans hmid, hinv, hmidStack, hv, hkept⟩
    obtain ⟨s', hs', hinv', hkept', hes'⟩ := ih hes hinv hmidStack
    refine ⟨s', ?_, hinv', fun a ha => hkept' a (hkept a ha), ?_⟩
    · rw [List.foldlM_cons, hmid]
      exact hs'
    · exact List.forall_mem_cons.mpr ⟨hkept' _ hvisited, hes'⟩

end

/-- **The circles of managers are all found**: each that an employee of the organisation is in, or
is led into, is reported once, whoever it begins with, and nothing else is. -/
theorem validateOrgChartCycles_spec (t : StaffTables) (organisation : OrganisationId) :
    ∃ cycles, validateOrgChartCycles t organisation = some cycles
      ∧ (∀ w ∈ cycles, ∃ a l, w = a :: l ++ [a]) ∧ (cycles.map circleOf).Nodup
      ∧ ∀ c : Cycle EmployeeId, c ∈ cycles.map circleOf ↔ IsLoop t.managerOf c
        ∧ ∃ e ∈ t.objects, e.organisation = organisation
          ∧ ∃ a ∈ c, ReflTransGen (Leads t.managerOf) e.id a := by
  have hinit : SearchInv t organisation [] ⟨[], [], []⟩ :=
    ⟨by simp, by simp, by simp, by simp, List.nodup_nil, by simp⟩
  obtain ⟨s, hs, hinv, -, hvisited⟩ :=
    search_spec (t.withManager organisation) (fun _ he => he) hinit (fun _ => Iff.rfl)
  refine ⟨s.cycles, congrArg (Option.map CycleSearch.cycles) hs, fun w hw => (hinv.found w hw).1,
    hinv.distinct, fun c => ⟨fun hc => ?_, ?_⟩⟩
  · obtain ⟨w, hw, rfl⟩ := List.mem_map.mp hc
    obtain ⟨-, hloop, hmem⟩ := hinv.found w hw
    obtain ⟨a, ha⟩ := hloop.exists_mem
    obtain ⟨e, he, hreach⟩ := hinv.reached a (hmem a ha).1
    obtain ⟨he, horganisation⟩ := List.mem_filter.mp he
    exact ⟨hloop, e, he, (of_decide_eq_true horganisation).1, a, ha, hreach⟩
  · rintro ⟨hloop, e, he, horganisation, a, ha, hreach⟩
    have hmanager : e.reportingTo ≠ none := by
      obtain ⟨b, hb⟩ : ∃ b, Leads t.managerOf e.id b := by
        rcases hreach.cases_head with rfl | ⟨b, hb, -⟩
        · obtain ⟨b, hb, -⟩ := TransGen.head'_iff.mp (hloop.transGen ha)
          exact ⟨b, hb⟩
        · exact ⟨b, hb⟩
      obtain ⟨e', he', hid, hto⟩ := managerOf_eq_some_iff.mp hb
      obtain rfl := (objects_unique t).eq_of_key he' he hid
      simp [hto]
    have hstart := hvisited e (List.mem_filter.mpr ⟨he, decide_eq_true ⟨horganisation, hmanager⟩⟩)
    have hmem := hinv.visited_of_reach hstart hreach
    obtain ⟨w, hw, haw⟩ := hinv.complete a hmem List.not_mem_nil (hloop.transGen ha)
    rw [← (hinv.found w hw).2.1.eq_of_mem hloop haw ha]
    exact List.mem_map_of_mem hw

end OrgChart
