import PerfStates.Proofs.Board.Scan
import PerfStates.Proofs.Registry.Loading

namespace PerfStates

namespace Table.Record

/-- A record that describes the state with the given ordinal. -/
structure Governs (record : Record) (ordinal : Nat) : Prop where
  kept : record.isSkipped = false
  level : record.level.toNat + ordinal = 15

instance (record : Record) (ordinal : Nat) : Decidable (record.Governs ordinal) :=
  decidable_of_iff (record.isSkipped = false ∧ record.level.toNat + ordinal = 15)
    ⟨fun ⟨kept, level⟩ => ⟨kept, level⟩, fun governs => ⟨governs.kept, governs.level⟩⟩

theorem Describes.ordinal_eq_iff {clocks : Group ClockDomain} {record : Record} {state : Pstate}
    (described : record.Describes clocks state) (kept : record.isSkipped = false) (ordinal : Nat) :
    state.ordinal = ordinal ↔ record.Governs ordinal := by
  have total := described.ordinal
  constructor
  · intro same
    exact ⟨kept, by omega⟩
  · intro governs
    have level := governs.level
    omega

theorem Describes.clock_at {clocks : Group ClockDomain} {record : Record} {state : Pstate}
    (described : record.Describes clocks state) {position : Nat} {limits : ClockLimits}
    (present : state.clocks[position]? = some limits) :
    position < record.clocks.length ∧
      ∃ domain, clocks.get? position = some domain ∧ limits.clock = domain.id := by
  have inside : position < record.clocks.length := by
    rw [← described.length_clocks]
    exact (List.getElem?_eq_some_iff.mp present).1
  obtain ⟨domain, there, limit⟩ :=
    described.clock position _ (List.getElem?_eq_getElem inside)
  rw [present] at limit
  cases limit
  exact ⟨inside, domain, there, rfl⟩

/-- The entry at `position` is the first of the record that is bound to the number of `domain`. -/
structure Binds (clocks : Group ClockDomain) (record : Record) (position : Nat)
    (entry : ClockEntry) (domain : ClockDomain) : Prop where
  present : record.clocks[position]? = some entry
  there : clocks.get? position = some domain
  least : ∀ earlier < position, ∀ other, clocks.get? earlier = some other → other.id ≠ domain.id

/-- The limits of a clock are those of the first entry that is bound to its number. -/
theorem Describes.limits?_eq_some {clocks : Group ClockDomain} {record : Record} {state : Pstate}
    (described : record.Describes clocks state) {position : Nat} {entry : ClockEntry}
    {domain : ClockDomain} (binds : record.Binds clocks position entry domain) :
    state.limits? domain.id = some ⟨domain.id, entry.nominal, entry.lowest, entry.highest⟩ := by
  obtain ⟨bound, same, limit⟩ := described.clock position entry binds.present
  obtain rfl : domain = bound := Option.some.inj (binds.there.symm.trans same)
  obtain ⟨inside, value⟩ := List.getElem?_eq_some_iff.mp limit
  rw [Pstate.limits?, List.find?_eq_some_iff_getElem]
  refine ⟨by simp, position, inside, value, ?_⟩
  intro earlier below
  have shown := List.getElem?_eq_getElem (Nat.lt_trans below inside)
  obtain ⟨_, other, held, clock⟩ := described.clock_at shown
  simpa [clock] using binds.least earlier below other held

theorem Describes.limits?_eq_none {clocks : Group ClockDomain} {record : Record} {state : Pstate}
    (described : record.Describes clocks state) {id : ClockId}
    (absent : ∀ position < record.clocks.length, ∀ domain, clocks.get? position = some domain →
      domain.id ≠ id) :
    state.limits? id = none := by
  rw [Pstate.limits?, List.find?_eq_none]
  intro limits member
  obtain ⟨position, present⟩ := List.mem_iff_getElem?.mp member
  obtain ⟨inside, domain, there, clock⟩ := described.clock_at present
  simpa [clock] using absent position inside domain there

end Table.Record

namespace Registry

open Table (Record)

theorem lowest?_eq_map (registry : Registry) (ordinal : Nat) :
    registry.lowest? ordinal =
      (registry.states.toList.find? fun entry =>
        decide (entry.2.ordinal = ordinal)).map Prod.snd := by
  rw [lowest?, List.find?_map]
  rfl

/-- The lowest slot with a state of the given ordinal, and that state. -/
structure Lowest (registry : Registry) (ordinal slot : Nat) (state : Pstate) : Prop where
  held : registry.states.get? slot = some state
  same : state.ordinal = ordinal
  least : ∀ earlier < slot, ∀ other, registry.states.get? earlier = some other →
    other.ordinal ≠ ordinal

/-- A scan for the ordinal stops at the lowest slot with a state of it. -/
theorem scan_eq_some_iff (registry : Registry) (ordinal slot : Nat) (state : Pstate) :
    (registry.states.toList.find? fun entry => decide (entry.2.ordinal = ordinal)) =
      some (slot, state) ↔ registry.Lowest ordinal slot state := by
  rw [Group.find?_toList_eq_some_iff registry.states (fun state =>
    decide (state.ordinal = ordinal))]
  simp only [decide_eq_true_eq, decide_eq_false_iff_not]
  constructor
  · rintro ⟨held, same, least⟩
    exact ⟨held, same, least⟩
  · rintro ⟨held, same, least⟩
    exact ⟨held, same, least⟩

theorem lowest?_eq_some_iff (registry : Registry) (ordinal : Nat) (state : Pstate) :
    registry.lowest? ordinal = some state ↔ ∃ slot, registry.Lowest ordinal slot state := by
  rw [lowest?_eq_map, Option.map_eq_some_iff]
  constructor
  · rintro ⟨⟨slot, _⟩, found, rfl⟩
    exact ⟨slot, (registry.scan_eq_some_iff ordinal slot _).mp found⟩
  · rintro ⟨slot, lowest⟩
    exact ⟨(slot, state), (registry.scan_eq_some_iff ordinal slot state).mpr lowest, rfl⟩

theorem lowest?_eq_none_iff (registry : Registry) (ordinal : Nat) :
    registry.lowest? ordinal = none ↔
      ∀ slot state, registry.states.get? slot = some state → state.ordinal ≠ ordinal := by
  rw [lowest?_eq_map, Option.map_eq_none_iff, Group.find?_toList_eq_none_iff registry.states
    (fun state => decide (state.ordinal = ordinal))]
  simp only [decide_eq_false_iff_not, ne_eq]

theorem find_of_sound {registry : Registry} (sound : registry.poisoned = false) (ordinal : Nat) :
    registry.find ordinal = .ok (registry.lowest? ordinal) := by
  rw [find, lock, sound]
  rfl

theorem limits_of_sound {registry : Registry} (sound : registry.poisoned = false) (ordinal : Nat)
    (clock : ClockId) :
    registry.limits ordinal clock =
      .ok ((registry.lowest? ordinal).bind fun state => state.limits? clock) := by
  rw [limits, lock, sound]
  rfl

section Decoded

variable {clocks : Group ClockDomain} {records : List Record} {registry : Registry}

theorem Gains.record_of_held (gains : Gains clocks records empty registry) {slot : Nat}
    {state : Pstate} (held : registry.states.get? slot = some state) :
    ∃ record, records[slot]? = some record ∧ record.isSkipped = false ∧
      record.Describes clocks state := by
  have vacant (skips : ∀ record, records[slot]? = some record → record.isSkipped = true) :
      registry.states.get? slot = none := by
    rw [gains.others slot skips]
    exact Group.get?_empty _ _
  cases present : records[slot]? with
  | none =>
    have nothing := vacant fun record found => by rw [present] at found; cases found
    cases nothing.symm.trans held
  | some record =>
    cases kept : record.isSkipped with
    | true =>
      have nothing := vacant fun other found => by
        obtain rfl : record = other := Option.some.inj (present.symm.trans found)
        exact kept
      cases nothing.symm.trans held
    | false =>
      obtain ⟨_, stored, there, described⟩ := gains.stored slot record present kept
      obtain rfl : state = stored := Option.some.inj (held.symm.trans there)
      exact ⟨record, rfl, kept, described⟩

/-- The first record that governs an ordinal describes the state found for it. -/
theorem Gains.lowest?_eq_some (gains : Gains clocks records empty registry) {position : Nat}
    {record : Record} {ordinal : Nat} (present : records[position]? = some record)
    (governs : record.Governs ordinal)
    (least : ∀ earlier < position, ∀ other, records[earlier]? = some other →
      ¬ other.Governs ordinal) :
    ∃ state, registry.lowest? ordinal = some state ∧ record.Describes clocks state := by
  obtain ⟨_, state, held, described⟩ := gains.stored position record present governs.kept
  refine ⟨state, (registry.lowest?_eq_some_iff ordinal state).mpr ⟨position, held, ?_, ?_⟩,
    described⟩
  · exact (described.ordinal_eq_iff governs.kept ordinal).mpr governs
  · intro earlier below other there same
    obtain ⟨before, found, kept, other_described⟩ := gains.record_of_held there
    exact least earlier below before found ((other_described.ordinal_eq_iff kept ordinal).mp same)

theorem Gains.lowest?_eq_none (gains : Gains clocks records empty registry) {ordinal : Nat}
    (absent : ∀ record ∈ records, ¬ record.Governs ordinal) : registry.lowest? ordinal = none := by
  rw [lowest?_eq_none_iff]
  intro slot state held same
  obtain ⟨record, present, kept, described⟩ := gains.record_of_held held
  exact absent record (List.mem_of_getElem? present)
    ((described.ordinal_eq_iff kept ordinal).mp same)

/-- A registry that was decoded holds the states of every record of its table. -/
theorem gains_of_decoded {image : Option (List UInt8)}
    (made : decoded clocks image = .ok registry) :
    ∃ bytes table, image = some bytes ∧ Table.parse bytes = .ok table ∧
      registry.poisoned = false ∧ Gains clocks table.records empty registry := by
  cases image with
  | none => cases made
  | some bytes =>
    rw [decoded] at made
    rcases ended : (load clocks bytes).ending empty with ⟨failure | levels, later⟩
    · rw [ended] at made
      cases made
    · rw [ended] at made
      cases made
      obtain ⟨table, parsed, sound, _, gains⟩ := gains_of_load ended
      exact ⟨bytes, table, rfl, parsed, gains.poisoned.trans sound, gains⟩

end Decoded

end Registry

end PerfStates
