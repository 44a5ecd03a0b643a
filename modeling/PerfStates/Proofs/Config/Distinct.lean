import PerfStates.Config

namespace PerfStates

theorem DomainMap.mem_keys {α : Type} {map : DomainMap α} {domain : Domain} :
    domain ∈ map.keys ↔ map.contains domain = true := by
  rw [keys, List.mem_filter]
  exact and_iff_right (Domain.mem_all domain)

namespace ClockDomain

theorem position_eq {α : Type} {key : ClockDomain → α} {domains : List ClockDomain}
    (distinct : (domains.map key).Nodup) {first second : Nat} {one two : ClockDomain}
    (here : domains[first]? = some one) (there : domains[second]? = some two)
    (same : key one = key two) : first = second := by
  have inside : first < (domains.map key).length := by
    rw [List.length_map]
    exact (List.getElem?_eq_some_iff.mp here).1
  apply (List.getElem?_inj inside distinct).mp
  rw [List.getElem?_map, List.getElem?_map, here, there, Option.map_some, Option.map_some, same]

end ClockDomain

namespace Config

private theorem distinct_cons_iff {α : Type} (key : ClockDomain → α) (seen : List α)
    (domain : ClockDomain) (rest : List ClockDomain) :
    (((domain :: rest).map key).Nodup ∧ ∀ other ∈ domain :: rest, key other ∉ seen) ↔
      key domain ∉ seen ∧ (rest.map key).Nodup ∧
        ∀ other ∈ rest, key other ∉ key domain :: seen := by
  rw [List.map_cons, List.nodup_cons]
  constructor
  · rintro ⟨⟨apart, distinct⟩, fresh⟩
    refine ⟨fresh domain List.mem_cons_self, distinct, ?_⟩
    intro other member listed
    rcases List.mem_cons.mp listed with same | before
    · exact apart (List.mem_map.mpr ⟨other, member, same⟩)
    · exact fresh other (List.mem_cons_of_mem domain member) before
  · rintro ⟨first, distinct, fresh⟩
    refine ⟨⟨?_, distinct⟩, ?_⟩
    · intro again
      obtain ⟨other, member, same⟩ := List.mem_map.mp again
      exact fresh other member (same ▸ List.mem_cons_self)
    · intro other member
      rcases List.mem_cons.mp member with rfl | member
      · exact first
      · exact fun listed => fresh other member (List.mem_cons_of_mem _ listed)

/-- The search for a duplicate finds none exactly if the names and the numbers are distinct, and
none of them is among those seen before. -/
theorem findDuplicate?_eq_none_iff (names : List String) (ids : List ClockId)
    (domains : List ClockDomain) :
    findDuplicate? names ids domains = none ↔
      ((domains.map ClockDomain.name).Nodup ∧ ∀ domain ∈ domains, domain.name ∉ names) ∧
      (domains.map ClockDomain.id).Nodup ∧ ∀ domain ∈ domains, domain.id ∉ ids := by
  induction domains generalizing names ids with
  | nil => simp [findDuplicate?]
  | cons domain rest ih =>
    rw [distinct_cons_iff, distinct_cons_iff]
    by_cases name : domain.name ∈ names
    · simp [findDuplicate?, name]
    by_cases id : domain.id ∈ ids
    · simp [findDuplicate?, name, id]
    have onward : findDuplicate? names ids (domain :: rest) =
        findDuplicate? (domain.name :: names) (domain.id :: ids) rest := by
      simp [findDuplicate?, name, id]
    rw [onward, ih, and_iff_right name, and_iff_right id]

/-- A configuration without contradictions. -/
structure Consistent (config : Config) : Prop where
  few : config.clocks.length ≤ 32
  names : (config.clocks.map ClockDomain.name).Nodup
  ids : (config.clocks.map ClockDomain.id).Nodup
  counts : ∀ domain, config.counts.contains domain = true → domain ∈ Domain.objectModels

theorem fault?_of_few {config : Config} (few : config.clocks.length ≤ 32) :
    config.fault? = (findDuplicate? [] [] config.clocks).or
      ((config.counts.keys.find? fun domain => !domain.isObjectModel).map .countNotTaken) :=
  if_neg (Nat.not_lt.mpr few)

theorem fault?_of_many {config : Config} (many : 32 < config.clocks.length) :
    config.fault? = some (.tooManyClocks config.clocks.length) := if_pos many

theorem fault?_eq_none_iff (config : Config) : config.fault? = none ↔ config.Consistent := by
  by_cases few : config.clocks.length ≤ 32
  · rw [fault?_of_few few, Option.or_eq_none_iff, findDuplicate?_eq_none_iff, Option.map_eq_none_iff,
      List.find?_eq_none]
    constructor
    · rintro ⟨⟨⟨names, _⟩, ids, _⟩, taken⟩
      refine ⟨few, names, ids, fun domain present => ?_⟩
      simpa [Domain.isObjectModel] using taken domain (DomainMap.mem_keys.mpr present)
    · rintro ⟨_, names, ids, counts⟩
      refine ⟨⟨⟨names, by simp⟩, ids, by simp⟩, fun domain member => ?_⟩
      simpa [Domain.isObjectModel] using counts domain (DomainMap.mem_keys.mp member)
  · rw [fault?_of_many (Nat.lt_of_not_le few)]
    constructor
    · intro none
      cases none
    · intro consistent
      exact absurd consistent.few few

theorem validate_eq_ok_iff (config : Config) : config.validate = .ok () ↔ config.Consistent := by
  rw [← fault?_eq_none_iff, validate]
  split <;> rename_i found <;> simp [found]

theorem Consistent.reorder {config : Config} (consistent : config.Consistent)
    {clocks : List ClockDomain} (same : clocks.Perm config.clocks) :
    { config with clocks }.Consistent where
  few := same.length_eq ▸ consistent.few
  names := (same.map ClockDomain.name).nodup_iff.mpr consistent.names
  ids := (same.map ClockDomain.id).nodup_iff.mpr consistent.ids
  counts := consistent.counts

/-- A consistent configuration has at most as many clock domains as the small group has slots,
with distinct names and distinct numbers. -/
theorem distinct_of_validate {config : Config} (valid : config.validate = .ok ()) :
    config.clocks.length ≤ Group.smallCapacity ∧
      (config.clocks.map ClockDomain.name).Nodup ∧ (config.clocks.map ClockDomain.id).Nodup := by
  have consistent := config.validate_eq_ok_iff.mp valid
  exact ⟨consistent.few, consistent.names, consistent.ids⟩

end Config

end PerfStates
