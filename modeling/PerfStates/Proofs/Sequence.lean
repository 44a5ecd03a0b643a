import PerfStates.Sequence

namespace PerfStates

namespace Domain

theorem ne_of_isFoundation {domain : Domain} (live : domain.isFoundation = true) :
    domain.isObjectModel = false ∧ domain ≠ .clkDomain ∧ domain ≠ .mclk := by
  revert live
  cases domain <;> decide

theorem ne_of_isObjectModel {domain : Domain} (live : domain.isObjectModel = true) :
    domain.isFoundation = false ∧ domain ≠ .clkDomain ∧ domain ≠ .mclk := by
  revert live
  cases domain <;> decide

/-- The domains that are neither are the clock domains and the memory clock. -/
theorem eq_of_other {domain : Domain} (unit : ¬ domain.isFoundation = true)
    (model : ¬ domain.isObjectModel = true) : domain = .clkDomain ∨ domain = .mclk := by
  revert unit model
  cases domain <;> decide

end Domain

namespace Sequence

variable {α : Type} {capabilities : Capabilities}

theorem mem_enabled {sequence : List (Gated α)} {step : α} :
    step ∈ enabled capabilities sequence ↔
      ∃ gated ∈ sequence, gated.enabled capabilities = true ∧ gated.step = step := by
  simp only [enabled, List.mem_map, List.mem_filter, and_assoc]

theorem enabled_cons_of_enabled {gated : Gated α} (on : gated.enabled capabilities = true)
    (rest : List (Gated α)) :
    enabled capabilities (gated :: rest) = gated.step :: enabled capabilities rest := by
  simp [enabled, on]

theorem enabled_cons_of_disabled {gated : Gated α} (off : gated.enabled capabilities = false)
    (rest : List (Gated α)) :
    enabled capabilities (gated :: rest) = enabled capabilities rest := by
  simp [enabled, off]

theorem enabled_sublist (capabilities : Capabilities) (sequence : List (Gated α)) :
    (enabled capabilities sequence).Sublist (sequence.map Gated.step) :=
  List.filter_sublist.map Gated.step

theorem nodup_software (capabilities : Capabilities) : (enabled capabilities software).Nodup := by
  have distinct : (software.map Gated.step).Nodup := by decide
  exact distinct.sublist (enabled_sublist capabilities software)

theorem mem_software_of_ungated {step : SoftwareStep} (listed : ⟨step, []⟩ ∈ software) :
    step ∈ enabled capabilities software :=
  mem_enabled.mpr ⟨_, listed, rfl, rfl⟩

theorem foundation_mem_software {domain : Domain} (live : domain.isFoundation = true) :
    SoftwareStep.domain domain ∈ enabled capabilities software := by
  apply mem_software_of_ungated
  revert live
  cases domain <;> decide

theorem clkDomain_mem_software : SoftwareStep.domain .clkDomain ∈ enabled capabilities software :=
  mem_software_of_ungated (by decide)

theorem table_mem_software : SoftwareStep.table ∈ enabled capabilities software :=
  mem_software_of_ungated (by decide)

theorem mclk_not_mem_software : SoftwareStep.domain .mclk ∉ enabled capabilities software := by
  intro member
  have listed := (enabled_sublist capabilities software).subset member
  exact absurd listed (by decide)

/-- The clock domains are in their group before the table is decoded. -/
theorem clkDomain_before_table {before after : List SoftwareStep}
    (split : enabled capabilities software = before ++ .table :: after) :
    SoftwareStep.domain .clkDomain ∈ before := by
  have ordered : (software.map Gated.step).Pairwise fun first second =>
      first = .table → second ≠ .domain .clkDomain := by decide
  have kept := ordered.sublist (enabled_sublist capabilities software)
  have member : SoftwareStep.domain .clkDomain ∈ enabled capabilities software :=
    clkDomain_mem_software
  rw [split] at kept member
  have apart := (List.pairwise_cons.mp (List.pairwise_append.mp kept).2.1).1
  rcases List.mem_append.mp member with earlier | later
  · exact earlier
  · rcases List.mem_cons.mp later with same | behind
    · cases same
    · exact absurd rfl (apart _ behind rfl)

/-- What is known of a step by the steps before it: it is not one of them, it has a software half,
and the clock domains come before the table. -/
theorem step_of_software {before after : List SoftwareStep} {step : SoftwareStep}
    (split : enabled capabilities software = before ++ step :: after) :
    step ∉ before ∧ step ≠ .domain .mclk ∧
      (step = .table → SoftwareStep.domain .clkDomain ∈ before) := by
  have member : step ∈ enabled capabilities software :=
    split ▸ List.mem_append_right before List.mem_cons_self
  obtain ⟨_, _, apart⟩ := List.nodup_append.mp (split ▸ nodup_software capabilities)
  refine ⟨?_, ?_, ?_⟩
  · intro earlier
    exact apart step earlier step List.mem_cons_self rfl
  · rintro rfl
    exact mclk_not_mem_software member
  · rintro rfl
    exact clkDomain_before_table split

/-- The steps of the second phase that must succeed: all but the first. -/
def binding : List (Gated PmuStep) := pmu.tail

theorem pmu_eq : pmu = ⟨.bestEffort .mclk, []⟩ :: binding := rfl

theorem not_bestEffort_of_mem_binding {gated : Gated PmuStep} (member : gated ∈ binding)
    (domain : Domain) : gated.step ≠ .bestEffort domain := by
  have none : ∀ gated ∈ binding, ∀ domain ∈ Domain.all, gated.step ≠ .bestEffort domain := by
    decide
  exact none gated member domain domain.mem_all

/-- A domain of the second phase has its software half under the same capabilities. -/
theorem software_of_mem_binding {gated : Gated PmuStep} (member : gated ∈ binding)
    {domain : Domain} (same : gated.step = .domain domain) :
    ⟨.domain domain, gated.needs⟩ ∈ software ∧
      (domain.isObjectModel = true ∨ domain = .clkDomain) := by
  have all : ∀ gated ∈ binding, ∀ domain ∈ Domain.all, gated.step = .domain domain →
      ⟨.domain domain, gated.needs⟩ ∈ software ∧
        (domain.isObjectModel = true ∨ domain = .clkDomain) := by decide
  exact all gated member domain domain.mem_all same

end Sequence

end PerfStates
