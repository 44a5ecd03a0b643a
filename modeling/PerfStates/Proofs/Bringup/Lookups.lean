import PerfStates.Proofs.Bringup.Built
import PerfStates.Proofs.Bringup.Runs
import PerfStates.Proofs.Config.Distinct
import PerfStates.Proofs.Registry.Lookup

namespace PerfStates

namespace ClockDomain

theorem key_ne_of_not_mem_take {α : Type} {key : ClockDomain → α} {domains : List ClockDomain}
    {count : Nat} {wanted : α} (absent : wanted ∉ (domains.take count).map key)
    {position : Nat} (inside : position < count) {domain : ClockDomain}
    (here : domains[position]? = some domain) : key domain ≠ wanted := by
  intro same
  have taken : (domains.take count)[position]? = some domain := by
    rw [List.getElem?_take_of_lt inside, here]
  exact absent (List.mem_map.mpr ⟨domain, List.mem_of_getElem? taken, same⟩)

theorem key_not_mem_take {α : Type} {key : ClockDomain → α} {domains : List ClockDomain}
    (distinct : (domains.map key).Nodup) {count position : Nat} (behind : count ≤ position)
    {domain : ClockDomain} (here : domains[position]? = some domain) :
    key domain ∉ (domains.take count).map key := by
  intro listed
  obtain ⟨other, member, same⟩ := List.mem_map.mp listed
  obtain ⟨place, taken⟩ := List.mem_iff_getElem?.mp member
  have inside : place < count :=
    Nat.lt_of_lt_of_le (List.getElem?_eq_some_iff.mp taken).1 (List.length_take_le _ _)
  rw [List.getElem?_take_of_lt inside] at taken
  have again : place = position := position_eq distinct taken here same
  omega

variable {domains : List ClockDomain} {capacity : Nat} {name : String}

/-- What a search by name finds in a group filled with the domains is the domain of that name
at that position. -/
theorem at_of_findByName? {slot : Nat} {id : ClockId}
    (found : findByName? (Group.filled capacity domains) name = some (slot, id)) :
    ∃ domain, domains[slot]? = some domain ∧ domain.name = name ∧ domain.id = id := by
  obtain ⟨⟨place, domain⟩, hit, pair⟩ := Option.map_eq_some_iff.mp found
  cases pair
  obtain ⟨held, same, _⟩ :=
    (Group.find?_toList_eq_some_iff _ fun domain : ClockDomain => domain.name == name).mp hit
  rw [Group.get?_filled] at held
  exact ⟨domain, held, eq_of_beq same, rfl⟩

theorem findByName?_filled (distinct : (domains.map ClockDomain.name).Nodup) {position : Nat}
    {domain : ClockDomain} (here : domains[position]? = some domain) :
    findByName? (Group.filled capacity domains) domain.name = some (position, domain.id) := by
  have hit := (Group.find?_toList_eq_some_iff (Group.filled capacity domains)
    fun other : ClockDomain => other.name == domain.name).mpr
    ⟨(Group.get?_filled capacity domains position).trans here, beq_self_eq_true _, ?_⟩
  · exact Option.map_eq_some_iff.mpr ⟨(position, domain), hit, rfl⟩
  · intro earlier below other held
    rw [Group.get?_filled] at held
    rw [beq_eq_false_iff_ne]
    intro same
    exact absurd (position_eq distinct held here same) (Nat.ne_of_lt below)

end ClockDomain

namespace Support

open Table (Record ClockEntry)

variable {M P : Type}

/-- The lookups at an ordinal that a record governs: each of its clock entries sets the limits
of the configured domain in the same position, and no other domain has any. -/
structure Answers (support : Support M P) (domains : List ClockDomain) (record : Record)
    (ordinal : Nat) : Prop where
  clock : ∀ (position : Nat) (entry : ClockEntry), record.clocks[position]? = some entry →
    ∃ domain, domains[position]? = some domain ∧
      support.clockLimitsByName ordinal domain.name =
        .ok (some ⟨domain.id, entry.nominal, entry.lowest, entry.highest⟩) ∧
      support.clockLimits ordinal domain.id =
        .ok (some ⟨domain.id, entry.nominal, entry.lowest, entry.highest⟩)
  otherName : ∀ name, name ∉ (domains.take record.clocks.length).map ClockDomain.name →
    support.clockLimitsByName ordinal name = .ok none
  otherId : ∀ id, id ∉ (domains.take record.clocks.length).map ClockDomain.id →
    support.clockLimits ordinal id = .ok none

/-- The lookups at an ordinal find nothing. -/
structure Silent (support : Support M P) (ordinal : Nat) : Prop where
  state : support.findPstate ordinal = .ok none
  name : ∀ name, support.clockLimitsByName ordinal name = .ok none
  id : ∀ id, support.clockLimits ordinal id = .ok none

theorem clockLimitsByName_of_found {support : Support M P} {name : String} {slot : Nat}
    {id : ClockId} (found : ClockDomain.findByName? support.workspace.clocks name = some (slot, id))
    (ordinal : Nat) :
    support.clockLimitsByName ordinal name = support.clockLimits ordinal id := by
  rw [clockLimitsByName, found]

theorem clockLimitsByName_of_unknown {support : Support M P} {name : String}
    (unknown : ClockDomain.findByName? support.workspace.clocks name = none) (ordinal : Nat) :
    support.clockLimitsByName ordinal name = .ok none := by
  rw [clockLimitsByName, unknown]

/-- Without any limits by number there are none by name either. -/
theorem silent_of_ids {support : Support M P} {ordinal : Nat}
    (state : support.findPstate ordinal = .ok none)
    (id : ∀ id, support.clockLimits ordinal id = .ok none) : support.Silent ordinal := by
  refine ⟨state, ?_, id⟩
  intro name
  cases found : ClockDomain.findByName? support.workspace.clocks name with
  | none => exact clockLimitsByName_of_unknown found ordinal
  | some hit => rw [clockLimitsByName_of_found found, id]

theorem silent_of_undecoded {support : Support M P} (none : support.registry = none)
    (ordinal : Nat) : support.Silent ordinal := by
  apply silent_of_ids
  · rw [findPstate, none]
  · intro id
    rw [clockLimits, none]

section Built

variable {config : Config} {image : Option (List UInt8)} {support : Support BuiltinModule P}
  {registry : Registry}

theorem clockLimits_of_sound (held : support.registry = some registry)
    (sound : registry.poisoned = false) (ordinal : Nat) (id : ClockId) :
    support.clockLimits ordinal id =
      .ok ((registry.lowest? ordinal).bind fun state => state.limits? id) := by
  rw [clockLimits, held]
  exact Registry.limits_of_sound sound ordinal id

theorem silent_of_lowest? (held : support.registry = some registry)
    (sound : registry.poisoned = false) {ordinal : Nat}
    (absent : registry.lowest? ordinal = none) : support.Silent ordinal := by
  apply silent_of_ids
  · rw [findPstate, held]
    exact (Registry.find_of_sound sound ordinal).trans (congrArg Except.ok absent)
  · intro id
    rw [clockLimits_of_sound held sound, absent]
    rfl

theorem Built.get?_clocks (built : Built config image support) (position : Nat) :
    support.workspace.clocks.get? position = config.clocks[position]? := by
  rw [built.clocks, Group.get?_filled]

section Described

variable {ordinal : Nat} {state : Pstate} {record : Record}

theorem Built.limits_at (built : Built config image support) (valid : config.validate = .ok ())
    (byId : ∀ id, support.clockLimits ordinal id = .ok (state.limits? id))
    (described : record.Describes support.workspace.clocks state) {position : Nat}
    {entry : ClockEntry} (present : record.clocks[position]? = some entry) :
    ∃ domain, config.clocks[position]? = some domain ∧
      support.clockLimitsByName ordinal domain.name =
        .ok (some ⟨domain.id, entry.nominal, entry.lowest, entry.highest⟩) ∧
      support.clockLimits ordinal domain.id =
        .ok (some ⟨domain.id, entry.nominal, entry.lowest, entry.highest⟩) := by
  obtain ⟨_, names, ids⟩ := Config.distinct_of_validate valid
  obtain ⟨domain, there, _⟩ := described.clock position entry present
  have here : config.clocks[position]? = some domain :=
    (built.get?_clocks position).symm.trans there
  have binds : record.Binds support.workspace.clocks position entry domain := by
    refine ⟨present, there, fun earlier below other held same => ?_⟩
    rw [built.get?_clocks] at held
    exact Nat.ne_of_lt below (ClockDomain.position_eq ids held here same)
  have limits : support.clockLimits ordinal domain.id =
      .ok (some ⟨domain.id, entry.nominal, entry.lowest, entry.highest⟩) := by
    rw [byId, described.limits?_eq_some binds]
  have named : ClockDomain.findByName? support.workspace.clocks domain.name =
      some (position, domain.id) := by
    rw [built.clocks]
    exact ClockDomain.findByName?_filled names here
  exact ⟨domain, here, (clockLimitsByName_of_found named ordinal).trans limits, limits⟩

theorem Built.limits_of_otherId (built : Built config image support)
    (byId : ∀ id, support.clockLimits ordinal id = .ok (state.limits? id))
    (described : record.Describes support.workspace.clocks state) {id : ClockId}
    (absent : id ∉ (config.clocks.take record.clocks.length).map ClockDomain.id) :
    support.clockLimits ordinal id = .ok none := by
  rw [byId, described.limits?_eq_none]
  intro position inside domain here
  rw [built.get?_clocks] at here
  exact ClockDomain.key_ne_of_not_mem_take absent inside here

theorem Built.limits_of_otherName (built : Built config image support)
    (valid : config.validate = .ok ())
    (byId : ∀ id, support.clockLimits ordinal id = .ok (state.limits? id))
    (described : record.Describes support.workspace.clocks state) {name : String}
    (absent : name ∉ (config.clocks.take record.clocks.length).map ClockDomain.name) :
    support.clockLimitsByName ordinal name = .ok none := by
  obtain ⟨_, _, ids⟩ := Config.distinct_of_validate valid
  cases hit : ClockDomain.findByName? support.workspace.clocks name with
  | none => exact clockLimitsByName_of_unknown hit ordinal
  | some found =>
    obtain ⟨position, id⟩ := found
    rw [clockLimitsByName_of_found hit]
    rw [built.clocks] at hit
    obtain ⟨domain, here, named, rfl⟩ := ClockDomain.at_of_findByName? hit
    -- The domain of that name lies behind the entries, and so does the only one of its number.
    have behind : record.clocks.length ≤ position := by
      by_contra ahead
      exact ClockDomain.key_ne_of_not_mem_take absent (Nat.lt_of_not_le ahead) here named
    exact built.limits_of_otherId byId described (ClockDomain.key_not_mem_take ids behind here)

/-- The lookups at an ordinal whose state describes a record. -/
theorem Built.answers (built : Built config image support) (valid : config.validate = .ok ())
    (held : support.registry = some registry) (sound : registry.poisoned = false)
    (found : registry.lowest? ordinal = some state)
    (described : record.Describes support.workspace.clocks state) :
    support.Answers config.clocks record ordinal := by
  have byId (id : ClockId) : support.clockLimits ordinal id = .ok (state.limits? id) := by
    rw [clockLimits_of_sound held sound, found]
    rfl
  constructor
  · intro position entry present
    exact built.limits_at valid byId described present
  · intro name absent
    exact built.limits_of_otherName valid byId described absent
  · intro id absent
    exact built.limits_of_otherId byId described absent

end Described

/-- What the lookups give at an ordinal: the answers of the first record that governs it. -/
theorem Built.lookups (built : Built config image support) (valid : config.validate = .ok ()) :
    ∃ bytes table, image = some bytes ∧ Table.parse bytes = .ok table ∧
      ∀ ordinal, match table.records.find? fun record => record.Governs ordinal with
        | some record => record.clocks.length = table.header.clockCount.toNat ∧
            support.Answers config.clocks record ordinal
        | none => support.Silent ordinal := by
  obtain ⟨registry, held, decoded⟩ := built.registry
  obtain ⟨bytes, table, provided, parsed, sound, gains⟩ := Registry.gains_of_decoded decoded
  refine ⟨bytes, table, provided, parsed, ?_⟩
  intro ordinal
  split
  · rename_i record hit
    obtain ⟨governs, position, inside, here, passed⟩ := List.find?_eq_some_iff_getElem.mp hit
    have present : table.records[position]? = some record := by
      rw [List.getElem?_eq_getElem inside, here]
    have least (earlier : Nat) (below : earlier < position) (other : Record)
        (there : table.records[earlier]? = some other) : ¬ other.Governs ordinal := by
      obtain ⟨_, rfl⟩ := List.getElem?_eq_some_iff.mp there
      simpa using passed earlier below
    obtain ⟨state, found, described⟩ :=
      gains.lowest?_eq_some present (of_decide_eq_true governs) least
    exact ⟨Table.length_clocks (List.mem_of_find?_eq_some hit),
      built.answers valid held sound found described⟩
  · rename_i missed
    rw [List.find?_eq_none] at missed
    apply silent_of_lowest? held sound
    apply gains.lowest?_eq_none
    intro record member governs
    exact missed record member (decide_eq_true governs)

variable [Channel P] {channel : P}

/-- Behind a complete software phase everything stays built until it is torn down. -/
theorem Reached.built (reached : Reached (ofConfig config channel image) support)
    {ready : Support BuiltinModule P}
    (succeeded : softwarePhase.ending (ofConfig config channel image) = (.ok (), ready))
    (behind : support.lifecycle ≠ .uninitialized) (up : support.lifecycle ≠ .tornDown) :
    Built config image support := by
  cases reached with
  | fresh => exact absurd rfl behind
  | softwareReady ended => exact (built_of_softwarePhase ended).1
  | softwareFailed ended => cases succeeded.symm.trans ended
  | pmuReady software ended =>
    have kept := (built_of_softwarePhase software).1.after_pmuPhase
    rw [ended] at kept
    exact kept
  | pmuFailed software ended =>
    have kept := (built_of_softwarePhase software).1.after_pmuPhase
    rw [ended] at kept
    exact kept
  | tornDown before => exact absurd (lifecycle_tearDown _) up

end Built

/-- The lookups of a consistent configuration after any calls, for any unit and any image whose
software phase succeeds. Between that phase and teardown, the first record kept at an ordinal
answers: the limits of a clock domain, by name and by number alike, are those of the clock entry
in its position, and nothing is found for any other name or number, nor at an ordinal without a
record. After teardown nothing is found at all. -/
theorem clockLimits_by_position [Channel P] (config : Config) (channel : P)
    (image : Option (List UInt8)) (calls : List Call) (valid : config.validate = .ok ())
    (succeeded : (softwarePhase.run (ofConfig config channel image)).value = .ok ()) :
    let support := (performAll calls (ofConfig config channel image)).state
    (.software ∈ calls → .tearDown ∉ calls →
      ∃ bytes table, image = some bytes ∧ Table.parse bytes = .ok table ∧
        ∀ ordinal, match table.records.find? fun record => record.Governs ordinal with
          | some record => record.clocks.length = table.header.clockCount.toNat ∧
              support.Answers config.clocks record ordinal
          | none => support.Silent ordinal) ∧
    (.tearDown ∈ calls → ∀ ordinal, support.Silent ordinal) := by
  intro support
  have fresh : (ofConfig config channel image).lifecycle = .uninitialized := rfl
  have reached : Reached (ofConfig config channel image) support :=
    reached_performAll fresh .fresh calls
  have software := Attempt.ending_of_value succeeded
  constructor
  · intro called phases
    have behind : support.lifecycle ≠ .uninitialized :=
      lifecycle_ne_uninitialized called _
    have up : support.lifecycle ≠ .tornDown :=
      lifecycle_ne_tornDown phases (by rw [fresh]; decide)
    exact (reached.built software behind up).lookups valid
  · intro down
    exact silent_of_undecoded
      (reached.registry_eq_none fresh (lifecycle_eq_tornDown down _))

/-- Behind a skipped record, the first of two records of one level answers, and only for the
first of two clock domains. -/
theorem clockLimits_by_position_of_repeated_level :
    let domains : List ClockDomain := [⟨"core", ⟨0x10⟩, .master⟩, ⟨"host", ⟨0x20⟩, .slave⟩]
    let config : Config := { Config.empty with clocks := domains }
    let bytes : List UInt8 := [0x50, 10, 2, 3, 8, 1, 0, 0, 0, 0] ++
      [0xff, 0, 1, 0, 0, 0, 1, 0, 0, 0] ++ [15, 0, 100, 0, 0, 0, 50, 0, 50, 0] ++
      [15, 0, 7, 0, 0, 0, 7, 0, 0, 0]
    let start := ofConfig config Loopback.accepting (some bytes)
    let support := (performAll [.software, .pmu] start).state
    config.validate = .ok () ∧ (softwarePhase.run start).value = .ok () ∧
      support.clockLimitsByName 0 "core" = .ok (some ⟨⟨0x10⟩, 100, 50, 200⟩) ∧
      support.clockLimits 0 ⟨0x20⟩ = .ok none ∧
      (performAll [.software, .pmu, .tearDown] start).state.Silent 0 := by
  intro domains config bytes start support
  have valid : config.validate = .ok () := by decide +kernel
  have succeeded : (softwarePhase.run start).value = .ok () := by decide +kernel
  have lookups := clockLimits_by_position config Loopback.accepting (some bytes)
    [.software, .pmu] valid succeeded
  have after := clockLimits_by_position config Loopback.accepting (some bytes)
    [.software, .pmu, .tearDown] valid succeeded
  obtain ⟨_, table, provided, parsed, answers⟩ := lookups.1 (by decide) (by decide)
  obtain rfl := Option.some.inj provided
  let record : Record := ⟨15, 0, 0, [⟨100, 0x320032⟩]⟩
  have governed : (Table.parse bytes).map (fun table => table.records.find? fun record =>
      record.Governs 0) = .ok (some record) := by decide +kernel
  rw [parsed] at governed
  have first : table.records.find? (fun record => record.Governs 0) = some record :=
    Except.ok.inj governed
  have found := answers 0
  rw [first] at found
  obtain ⟨domain, here, byName, _⟩ := found.2.clock 0 ⟨100, 0x320032⟩ rfl
  obtain rfl := Option.some.inj here
  exact ⟨valid, succeeded, byName, found.2.otherId _ (by decide), after.2 (by decide) 0⟩

end Support

end PerfStates
