import PerfStates.Proofs.Config.Distinct
import PerfStates.Proofs.Text.Quoted

/-! What a configuration is refused for. Too many clock domains come first, then the first domain
that has the name or the number of an earlier one, then the first count for a domain that takes
none. The text of the refusal decides which fault it was. -/

namespace PerfStates

namespace Domain

theorem getElem?_all_eq_some_iff {place : Nat} {domain : Domain} :
    all[place]? = some domain ↔ place = domain.rank := by
  constructor
  · intro there
    have distinct : all.Nodup := by decide
    have inside : place < all.length := (List.getElem?_eq_some_iff.mp there).1
    exact (List.getElem?_inj inside distinct).mp (there.trans (all_rank domain).symm)
  · rintro rfl
    exact all_rank domain

theorem find?_all_eq_some_iff (wanted : Domain → Bool) (domain : Domain) :
    all.find? wanted = some domain ↔
      wanted domain = true ∧ ∀ earlier, earlier.rank < domain.rank → wanted earlier = false := by
  rw [List.find?_eq_some_iff_getElem]
  refine and_congr_right fun _ => ?_
  constructor
  · rintro ⟨place, inside, there, unwanted⟩ earlier below
    obtain rfl := getElem?_all_eq_some_iff.mp (List.getElem?_eq_some_iff.mpr ⟨inside, there⟩)
    have refused := unwanted earlier.rank below
    obtain ⟨_, found⟩ := List.getElem?_eq_some_iff.mp (all_rank earlier)
    rw [found] at refused
    simpa using refused
  · intro least
    obtain ⟨inside, found⟩ := List.getElem?_eq_some_iff.mp (all_rank domain)
    refine ⟨domain.rank, inside, found, fun place below => ?_⟩
    have rank := getElem?_all_eq_some_iff.mp (List.getElem?_eq_getElem (Nat.lt_trans below inside))
    have refused := least all[place] (by rw [Fin.lt_def, ← rank]; exact below)
    simpa using refused

end Domain

namespace DomainMap

variable {α : Type}

theorem find?_keys_eq_some_iff (map : DomainMap α) (wanted : Domain → Bool) (domain : Domain) :
    map.keys.find? wanted = some domain ↔
      (map.contains domain = true ∧ wanted domain = true) ∧
        ∀ earlier, earlier.rank < domain.rank → map.contains earlier = true →
          wanted earlier = false := by
  rw [keys, List.find?_filter, Domain.find?_all_eq_some_iff]
  simp

end DomainMap

theorem ClockId.eq_of_describe {first second : ClockId}
    (same : first.describe = second.describe) : first = second := by
  have values := UInt32.toNat_inj.mp (Text.hex_injective same)
  exact congrArg ClockId.mk values

namespace ConfigFault

/-- Only the message about the number of clock domains begins with a digit. -/
theorem head_message_tooManyClocks (count : Nat) :
    ∃ c, (tooManyClocks count).message.toList.head? = some c ∧ c.isDigit = true := by
  cases digits : Nat.toDigits 10 count with
  | nil => exact absurd digits Nat.toDigits_ne_nil
  | cons c rest =>
    have listed : c ∈ Nat.toDigits 10 count := digits ▸ List.mem_cons_self
    refine ⟨c, ?_, Nat.isDigit_of_mem_toDigits (by decide) (by decide) listed⟩
    unfold message
    simp [digits]

theorem head_message {fault : ConfigFault} (other : ∀ count, fault ≠ tooManyClocks count) :
    fault.message.toList.head? = some 'd' := by
  unfold message
  cases fault with
  | tooManyClocks count => exact absurd rfl (other count)
  | duplicateName name => simp
  | duplicateClock id => simp
  | countNotTaken domain => simp

theorem eq_tooManyClocks_of_message {fault : ConfigFault} {count : Nat}
    (same : fault.message = (tooManyClocks count).message) : fault = tooManyClocks count := by
  by_cases other : ∀ number, fault ≠ tooManyClocks number
  · obtain ⟨c, first, isDigit⟩ := head_message_tooManyClocks count
    rw [← same, head_message other] at first
    cases first
    exact absurd isDigit (by decide)
  · obtain ⟨number, rfl⟩ := not_forall_not.mp other
    have digits : Nat.toDigits 10 number = Nat.toDigits 10 count := by
      unfold message at same
      simpa [Nat.repr_eq_ofList_toDigits, String.ofList_inj] using same
    rw [← Nat.ofDigitChars_ten_toDigits (n := number), digits, Nat.ofDigitChars_ten_toDigits]

/-- No two faults are reported by the same text. -/
theorem message_injective : Function.Injective message := by
  intro first second same
  cases first with
  | tooManyClocks count => exact (eq_tooManyClocks_of_message same.symm).symm
  | duplicateName name =>
    cases second with
    | tooManyClocks count => exact eq_tooManyClocks_of_message same
    | duplicateName other =>
      unfold message at same
      have names : Text.quoted name = Text.quoted other := by simpa using same
      rw [Text.quoted_injective names]
    | _ =>
      unfold message at same
      simp [← String.toList_inj] at same
  | duplicateClock id =>
    cases second with
    | tooManyClocks count => exact eq_tooManyClocks_of_message same
    | duplicateClock other =>
      unfold message at same
      have ids : id.describe = other.describe := by simpa using same
      rw [ClockId.eq_of_describe ids]
    | _ =>
      unfold message at same
      simp [← String.toList_inj] at same
  | countNotTaken domain =>
    cases second with
    | tooManyClocks count => exact eq_tooManyClocks_of_message same
    | countNotTaken other =>
      unfold message at same
      have names : domain.name = other.name := by simpa using same
      rw [Domain.name_injective names]
    | _ =>
      unfold message at same
      simp [← String.toList_inj] at same

end ConfigFault

namespace ClockDomain

/-- The domain at `position` has the key of one at an earlier position. -/
def Repeats {α : Type} (key : ClockDomain → α) (domains : List ClockDomain) (position : Nat) :
    Prop :=
  ∃ earlier < position, ∃ first again, domains[earlier]? = some first ∧
    domains[position]? = some again ∧ key first = key again

/-- Neither the name nor the number of the domain at `position` is that of an earlier one. -/
structure Fresh (domains : List ClockDomain) (position : Nat) : Prop where
  name : ¬ Repeats ClockDomain.name domains position
  id : ¬ Repeats ClockDomain.id domains position

theorem repeats_iff_mem {α : Type} (key : ClockDomain → α) (before rest : List ClockDomain)
    (domain : ClockDomain) :
    Repeats key (before ++ domain :: rest) before.length ↔ key domain ∈ before.map key := by
  have here : (before ++ domain :: rest)[before.length]? = some domain := by simp
  constructor
  · rintro ⟨earlier, below, first, again, there, present, same⟩
    obtain rfl : domain = again := Option.some.inj (here.symm.trans present)
    rw [List.getElem?_append_left below] at there
    exact List.mem_map.mpr ⟨first, List.mem_of_getElem? there, same⟩
  · intro listed
    obtain ⟨first, member, same⟩ := List.mem_map.mp listed
    obtain ⟨earlier, there⟩ := List.mem_iff_getElem?.mp member
    have below : earlier < before.length := (List.getElem?_eq_some_iff.mp there).1
    exact ⟨earlier, below, first, domain, by rwa [List.getElem?_append_left below], here, same⟩

theorem not_repeats_of_nodup {α : Type} {key : ClockDomain → α} {domains : List ClockDomain}
    (distinct : (domains.map key).Nodup) (position : Nat) : ¬ Repeats key domains position := by
  rintro ⟨earlier, below, first, again, there, present, same⟩
  exact Nat.ne_of_lt below (position_eq distinct there present same)

/-- The fault of a list of clock domains and the text that reports it: it is in the first domain
that is not fresh, and the name goes before the number there. -/
inductive FirstDuplicate (domains : List ClockDomain) : ConfigFault → String → Prop where
  | name {position : Nat} {domain : ClockDomain}
      (least : ∀ earlier < position, Fresh domains earlier)
      (present : domains[position]? = some domain)
      (again : Repeats ClockDomain.name domains position) :
      FirstDuplicate domains (.duplicateName domain.name)
        ("duplicate clock domain name " ++ Text.quoted domain.name)
  | id {position : Nat} {domain : ClockDomain}
      (least : ∀ earlier < position, Fresh domains earlier)
      (present : domains[position]? = some domain)
      (fresh : ¬ Repeats ClockDomain.name domains position)
      (again : Repeats ClockDomain.id domains position) :
      FirstDuplicate domains (.duplicateClock domain.id)
        ("duplicate clock api_domain " ++ Text.hex domain.id.value.toNat)

theorem first_position_eq {domains : List ClockDomain} {position other : Nat}
    (least : ∀ earlier < position, Fresh domains earlier) (stale : ¬ Fresh domains position)
    (before : ∀ earlier < other, Fresh domains earlier) (also : ¬ Fresh domains other) :
    position = other := by
  apply Nat.le_antisymm
  · exact Nat.le_of_not_lt fun below => also (least other below)
  · exact Nat.le_of_not_lt fun below => stale (before position below)

theorem FirstDuplicate.unique {domains : List ClockDomain} {fault other : ConfigFault}
    {text wording : String} (first : FirstDuplicate domains fault text)
    (also : FirstDuplicate domains other wording) : fault = other := by
  cases first with
  | name least present again =>
    cases also with
    | name before there repeated =>
      obtain rfl := first_position_eq least (·.name again) before (·.name repeated)
      rw [Option.some.inj (present.symm.trans there)]
    | id before there fresh repeated =>
      obtain rfl := first_position_eq least (·.name again) before (·.id repeated)
      exact absurd again fresh
  | id least present fresh again =>
    cases also with
    | name before there repeated =>
      obtain rfl := first_position_eq least (·.id again) before (·.name repeated)
      exact absurd repeated fresh
    | id before there _ repeated =>
      obtain rfl := first_position_eq least (·.id again) before (·.id repeated)
      rw [Option.some.inj (present.symm.trans there)]

end ClockDomain

namespace Config

open ClockDomain (Repeats Fresh FirstDuplicate)

/-- The scan, behind domains that are all fresh, stops at the first that is not. -/
theorem firstDuplicate_of_scan (before rest : List ClockDomain) {fault : ConfigFault}
    (fresh : ∀ position < before.length, Fresh (before ++ rest) position)
    (found : findDuplicate? (before.reverse.map ClockDomain.name)
      (before.reverse.map ClockDomain.id) rest = some fault) :
    FirstDuplicate (before ++ rest) fault fault.message := by
  -- What the scan has seen are the keys of the domains in front, last one first.
  induction rest generalizing before with
  | nil => cases found
  | cons domain rest ih =>
    have here : (before ++ domain :: rest)[before.length]? = some domain := by simp
    have name := ClockDomain.repeats_iff_mem ClockDomain.name before rest domain
    have id := ClockDomain.repeats_iff_mem ClockDomain.id before rest domain
    rw [findDuplicate?] at found
    split at found
    · rename_i listed
      cases found
      exact .name fresh here (name.mpr (by simpa using listed))
    rename_i unlisted
    have new : ¬ Repeats ClockDomain.name (before ++ domain :: rest) before.length := by
      rw [name]
      simpa using unlisted
    split at found
    · rename_i listed
      cases found
      exact .id fresh here new (id.mpr (by simpa using listed))
    rename_i unlisted
    have numbered : ¬ Repeats ClockDomain.id (before ++ domain :: rest) before.length := by
      rw [id]
      simpa using unlisted
    have onward := ih (before ++ [domain])
    rw [List.append_assoc, List.singleton_append] at onward
    apply onward
    · intro position below
      rw [List.length_append, List.length_singleton] at below
      rcases Nat.lt_succ_iff_lt_or_eq.mp below with lower | rfl
      · exact fresh position lower
      · exact ⟨new, numbered⟩
    · simpa using found

theorem findDuplicate?_eq_some_iff (domains : List ClockDomain) (fault : ConfigFault) :
    findDuplicate? [] [] domains = some fault ↔ ∃ text, FirstDuplicate domains fault text := by
  have found_of_scan {other : ConfigFault} (found : findDuplicate? [] [] domains = some other) :
      FirstDuplicate domains other other.message :=
    firstDuplicate_of_scan [] domains (fun _ below => absurd below (Nat.not_lt_zero _)) found
  constructor
  · intro found
    exact ⟨fault.message, found_of_scan found⟩
  · rintro ⟨text, first⟩
    cases ended : findDuplicate? [] [] domains with
    | some other => rw [(found_of_scan ended).unique first]
    | none =>
      obtain ⟨⟨names, _⟩, ids, _⟩ := (findDuplicate?_eq_none_iff [] [] domains).mp ended
      cases first with
      | name _ _ again => exact absurd again (ClockDomain.not_repeats_of_nodup names _)
      | id _ _ _ again => exact absurd again (ClockDomain.not_repeats_of_nodup ids _)

/-- There is an object count for a domain that takes none. -/
def Misplaces (config : Config) (domain : Domain) : Prop :=
  config.counts.contains domain = true ∧ domain ∉ Domain.objectModels

/-- The fault that a configuration is refused for and the text that reports it: of several, the
one that is checked first. -/
inductive FirstFault (config : Config) : ConfigFault → String → Prop where
  | tooManyClocks (many : 32 < config.clocks.length) :
      FirstFault config (.tooManyClocks config.clocks.length)
        (toString config.clocks.length ++ " clock domains exceed 32")
  | duplicate {fault : ConfigFault} {text : String} (few : config.clocks.length ≤ 32)
      (first : FirstDuplicate config.clocks fault text) : FirstFault config fault text
  | countNotTaken {domain : Domain} (few : config.clocks.length ≤ 32)
      (names : (config.clocks.map ClockDomain.name).Nodup)
      (ids : (config.clocks.map ClockDomain.id).Nodup) (misplaced : config.Misplaces domain)
      (least : ∀ earlier, earlier.rank < domain.rank → ¬ config.Misplaces earlier) :
      FirstFault config (.countNotTaken domain)
        ("domain " ++ domain.name ++ " does not take an object count")

/-- The text of the first fault is the one that the fault has of its own. -/
theorem FirstFault.message_eq {config : Config} {fault : ConfigFault} {text : String}
    (first : config.FirstFault fault text) : fault.message = text := by
  cases first with
  | tooManyClocks _ => rfl
  | duplicate _ first => cases first <;> rfl
  | countNotTaken => rfl

theorem find?_misplaced_eq_some_iff (config : Config) (domain : Domain) :
    (config.counts.keys.find? fun domain => !domain.isObjectModel) = some domain ↔
      config.Misplaces domain ∧
        ∀ earlier, earlier.rank < domain.rank → ¬ config.Misplaces earlier := by
  rw [DomainMap.find?_keys_eq_some_iff]
  simp [Misplaces, Domain.isObjectModel]

theorem fault?_eq_some_iff (config : Config) (fault : ConfigFault) :
    config.fault? = some fault ↔ ∃ text, config.FirstFault fault text := by
  by_cases few : config.clocks.length ≤ 32
  · rw [fault?_of_few few, Option.or_eq_some_iff, findDuplicate?_eq_some_iff,
      findDuplicate?_eq_none_iff, Option.map_eq_some_iff]
    constructor
    · rintro (⟨text, first⟩ | ⟨⟨⟨names, _⟩, ids, _⟩, domain, found, rfl⟩)
      · exact ⟨text, .duplicate few first⟩
      · obtain ⟨misplaced, least⟩ := (config.find?_misplaced_eq_some_iff domain).mp found
        exact ⟨_, .countNotTaken few names ids misplaced least⟩
    · rintro ⟨text, first⟩
      cases first with
      | tooManyClocks many => exact absurd few (Nat.not_le.mpr many)
      | duplicate _ first => exact .inl ⟨text, first⟩
      | @countNotTaken domain _ names ids misplaced least =>
        refine .inr ⟨⟨⟨names, by simp⟩, ids, by simp⟩, domain, ?_, rfl⟩
        exact (config.find?_misplaced_eq_some_iff domain).mpr ⟨misplaced, least⟩
  · rw [fault?_of_many (Nat.lt_of_not_le few)]
    constructor
    · intro same
      cases same
      exact ⟨_, .tooManyClocks (Nat.lt_of_not_le few)⟩
    · rintro ⟨text, first⟩
      cases first with
      | tooManyClocks _ => rfl
      | duplicate within _ => exact absurd within few
      | countNotTaken within => exact absurd within few

theorem validate_eq_error_iff (config : Config) (error : ConfigError) :
    config.validate = .error error ↔
      ∃ fault text, error = .inconsistent fault ∧
        error.message = "invalid configuration: " ++ text ∧ config.FirstFault fault text := by
  have refused_iff : config.validate = .error error ↔
      ∃ fault, error = .inconsistent fault ∧ config.fault? = some fault := by
    rw [validate]
    split <;> rename_i found <;> simp [found, eq_comm]
  rw [refused_iff]
  constructor
  · rintro ⟨fault, rfl, found⟩
    obtain ⟨text, first⟩ := (config.fault?_eq_some_iff fault).mp found
    refine ⟨fault, text, rfl, ?_, first⟩
    rw [← first.message_eq]
    rfl
  · rintro ⟨fault, text, same, _, first⟩
    exact ⟨fault, same, (config.fault?_eq_some_iff fault).mpr ⟨text, first⟩⟩

/-- The verdict on any configuration. It is accepted exactly if it has at most 32 clock domains,
whose names and numbers are distinct, and takes every object count it has; otherwise the first of
its faults is reported, by a text that no other fault has. The order of the clock domains does
not decide whether it is accepted. -/
theorem validate_verdict (config : Config) :
    (config.validate = .ok () ↔ config.Consistent) ∧
      (∀ error, config.validate = .error error ↔
        ∃ fault text, error = .inconsistent fault ∧
          error.message = "invalid configuration: " ++ text ∧ config.FirstFault fault text) ∧
      (∀ fault other : ConfigFault,
        (ConfigError.inconsistent fault).message = (ConfigError.inconsistent other).message →
          fault = other) ∧
      ∀ clocks, clocks.Perm config.clocks →
        ({ config with clocks }.validate = .ok () ↔ config.validate = .ok ()) := by
  refine ⟨config.validate_eq_ok_iff, config.validate_eq_error_iff, fun fault other same => ?_,
    fun clocks same => ?_⟩
  · unfold ConfigError.message at same
    exact ConfigFault.message_injective (by simpa using same)
  · rw [validate_eq_ok_iff, validate_eq_ok_iff]
    constructor
    · intro consistent
      exact consistent.reorder same.symm
    · intro consistent
      exact consistent.reorder same

/-- A configuration of these clock domains with a count for a domain that takes none. -/
def miscounted (clocks : List ClockDomain) : Config :=
  { Config.empty with clocks, counts := DomainMap.empty.insert .perf 2 }

/-- Four configurations with the same misplaced count. A number that the second domain repeats
goes before a name that the third one repeats; in another order of the same domains the second
one repeats both, and the name goes first; too many domains go before what they repeat; the count
comes last. -/
theorem validate_verdict_of_miscounted :
    let core : ClockDomain := ⟨"core", ⟨0x1f⟩, .master⟩
    let memory : ClockDomain := ⟨"memory", ⟨0x1f⟩, .fixed⟩
    (miscounted [core, memory, core]).FirstFault (.duplicateClock ⟨0x1f⟩)
        "duplicate clock api_domain 0x1f" ∧
      (miscounted [core, core, memory]).FirstFault (.duplicateName "core")
        "duplicate clock domain name \"core\"" ∧
      (miscounted (List.replicate 33 core)).FirstFault (.tooManyClocks 33)
        "33 clock domains exceed 32" ∧
      (miscounted [core]).FirstFault (.countNotTaken .perf)
        "domain perf does not take an object count" := by
  intro core memory
  have reported {config : Config} {fault : ConfigFault} {text : String}
      (refused : config.validate = .error (.inconsistent fault)) (reads : fault.message = text) :
      config.FirstFault fault text := by
    obtain ⟨named, wording, same, _, first⟩ := ((validate_verdict config).2.1 _).mp refused
    cases same
    rwa [← reads, first.message_eq]
  refine ⟨reported ?_ ?_, reported ?_ ?_, reported ?_ ?_, reported ?_ ?_⟩
  · decide
  · decide
  · decide
  · decide
  · decide
  · decide
  · decide
  · decide

end Config

end PerfStates
