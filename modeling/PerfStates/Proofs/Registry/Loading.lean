import PerfStates.Proofs.Board.Filled
import PerfStates.Proofs.Ending
import PerfStates.Proofs.Table.Walk
import PerfStates.Registry.Decode

namespace PerfStates

namespace Table.Record

/-- The state that a record describes once its clock entries are bound by position. -/
structure Describes (clocks : Group ClockDomain) (record : Record) (state : Pstate) : Prop where
  ordinal : state.ordinal + record.level.toNat = 15
  lowPower : state.lowPower = record.lowPower
  length_clocks : state.clocks.length = record.clocks.length
  clock : ∀ position entry, record.clocks[position]? = some entry →
    ∃ domain, clocks.get? position = some domain ∧
      state.clocks[position]? = some ⟨domain.id, entry.nominal, entry.lowest, entry.highest⟩

theorem Describes.unique {clocks : Group ClockDomain} {record : Record} {state changed : Pstate}
    (described : record.Describes clocks state) (also : record.Describes clocks changed) :
    state = changed := by
  have ordinal : state.ordinal = changed.ordinal := by
    have one := described.ordinal
    have two := also.ordinal
    omega
  have limits : state.clocks = changed.clocks := by
    apply List.ext_getElem (described.length_clocks.trans also.length_clocks.symm)
    intro position inside within
    have listed : position < record.clocks.length := described.length_clocks ▸ inside
    obtain ⟨domain, there, limit⟩ :=
      described.clock position _ (List.getElem?_eq_getElem listed)
    obtain ⟨same, found, limit'⟩ := also.clock position _ (List.getElem?_eq_getElem listed)
    obtain rfl : domain = same := Option.some.inj (there.symm.trans found)
    rw [List.getElem?_eq_getElem inside] at limit
    rw [List.getElem?_eq_getElem within] at limit'
    exact Option.some.inj (limit.trans limit'.symm)
  have lowPower := described.lowPower.trans also.lowPower.symm
  cases state
  cases changed
  simp_all

/-- How many records of a list describe a performance level. -/
def kept (records : List Record) : Nat := records.countP fun record => !record.isSkipped

end Table.Record

namespace Registry

open Table (Record)

/-- A record that cannot be stored: it is not skipped, and its level is too high, one of
its clock entries has no domain, or its slot is beyond the last or taken. -/
structure Bad (clocks : Group ClockDomain) (registry : Registry) (position : Nat)
    (record : Record) : Prop where
  kept : record.isSkipped = false
  fault : 15 < record.level.toNat ∨
    (∃ clock, clock < record.clocks.length ∧ clocks.get? clock = none) ∨
    32 ≤ position ∨ (registry.states.get? position).isSome

/-- The failure of a record that cannot be stored: the level is looked at first, then the
clocks in order, and the slot last. -/
inductive Fault (clocks : Group ClockDomain) (registry : Registry) (position : Nat)
    (record : Record) : Failure → Prop where
  | level (high : 15 < record.level.toNat) :
    Fault clocks registry position record
      (.malformedTable (.invalidLevel position record.level))
  | clock {clock : Nat} (low : record.level.toNat ≤ 15) (inside : clock < record.clocks.length)
      (vacant : clocks.get? clock = none)
      (least : ∀ earlier < clock, (clocks.get? earlier).isSome) :
    Fault clocks registry position record (.malformedTable (.noClockDomain position clock))
  | beyond (low : record.level.toNat ≤ 15)
      (bound : ∀ clock < record.clocks.length, (clocks.get? clock).isSome)
      (past : 32 ≤ position) :
    Fault clocks registry position record (.slot (.outOfRange position 32))
  | occupied (low : record.level.toNat ≤ 15)
      (bound : ∀ clock < record.clocks.length, (clocks.get? clock).isSome)
      (inside : position < 32) (taken : (registry.states.get? position).isSome) :
    Fault clocks registry position record (.slot (.occupied position))

/-- `later` is `earlier` with the states of the given records, each put into the vacant
slot of the record's position and counted; skipped records leave their slots alone. -/
structure Gains (clocks : Group ClockDomain) (records : List Record)
    (earlier later : Registry) : Prop where
  stored : ∀ slot record, records[slot]? = some record → record.isSkipped = false →
    earlier.states.get? slot = none ∧
      ∃ state, later.states.get? slot = some state ∧ record.Describes clocks state
  others : ∀ slot, (∀ record, records[slot]? = some record → record.isSkipped = true) →
    later.states.get? slot = earlier.states.get? slot
  levels : later.levels = earlier.levels + Record.kept records
  poisoned : later.poisoned = earlier.poisoned
  consistent : earlier.states.Consistent → later.states.Consistent

theorem Fault.bad {clocks : Group ClockDomain} {registry : Registry} {position : Nat}
    {record : Record} {failure : Failure} (kept : record.isSkipped = false)
    (fault : Fault clocks registry position record failure) :
    Bad clocks registry position record := by
  refine ⟨kept, ?_⟩
  cases fault with
  | level high => exact .inl high
  | clock _ inside vacant _ => exact .inr (.inl ⟨_, inside, vacant⟩)
  | beyond _ _ past => exact .inr (.inr (.inl past))
  | occupied _ _ _ taken => exact .inr (.inr (.inr taken))

/-- Of the registry, a fault looks at the record's own slot only. -/
theorem Fault.congr {clocks : Group ClockDomain} {first second : Registry} {position : Nat}
    {record : Record} {failure : Failure}
    (same : first.states.get? position = second.states.get? position)
    (fault : Fault clocks first position record failure) :
    Fault clocks second position record failure := by
  cases fault with
  | level high => exact .level high
  | clock low inside vacant least => exact .clock low inside vacant least
  | beyond low bound past => exact .beyond low bound past
  | occupied low bound inside taken => exact .occupied low bound inside (same ▸ taken)

theorem Gains.refl (clocks : Group ClockDomain) (registry : Registry) :
    Gains clocks [] registry registry where
  stored slot record present := by simp at present
  others _ _ := rfl
  levels := rfl
  poisoned := rfl
  consistent := id

/-- Clock entries that there is room for are bound in order up to the first position without a
domain. -/
theorem ending_bindClocks {σ : Type} (clocks : Group ClockDomain) (declared : UInt8)
    (record ordinal : Nat) (entries : List Table.ClockEntry) (position : Nat)
    (room : position + entries.length ≤ Table.clockLimit) (state : σ) :
    (∃ limits, (bindClocks clocks declared record ordinal position entries).ending state =
        (.ok limits, state) ∧ limits.length = entries.length ∧
      ∀ offset entry, entries[offset]? = some entry →
        ∃ domain, clocks.get? (position + offset) = some domain ∧
          limits[offset]? = some (entry.limitsFor domain)) ∨
    ∃ offset, offset < entries.length ∧ clocks.get? (position + offset) = none ∧
      (∀ earlier < offset, (clocks.get? (position + earlier)).isSome) ∧
      (bindClocks clocks declared record ordinal position entries).ending state =
        (.error (.malformedTable (.noClockDomain record (position + offset))), state) := by
  induction entries generalizing position with
  | nil => exact .inl ⟨[], rfl, rfl, fun offset entry present => by simp at present⟩
  | cons entry rest ih =>
    cases found : clocks.get? position with
    | none =>
      refine .inr ⟨0, by simp, found, fun earlier below => by omega, ?_⟩
      simp [bindClocks, found]
    | some domain =>
      rw [List.length_cons] at room
      have vacancy : ¬ Table.clockLimit ≤ position := by omega
      simp only [bindClocks, found, Attempt.ending_bind, Attempt.ending_log, vacancy, ↓reduceIte,
        Attempt.ending_pure]
      rcases ih (position + 1) (by omega) with ⟨limits, ended, length, bound⟩ |
        ⟨offset, inside, vacant, least, ended⟩
      · refine .inl ⟨entry.limitsFor domain :: limits, by rw [ended], by simp [length], ?_⟩
        intro offset other present
        cases offset with
        | zero =>
          obtain rfl : entry = other := by simpa using present
          exact ⟨domain, found, rfl⟩
        | succ offset =>
          obtain ⟨next, there, limit⟩ := bound offset other (by simpa using present)
          exact ⟨next, by rwa [Nat.add_right_comm] at there, by simpa using limit⟩
      · refine .inr
          ⟨offset + 1, by simpa using inside, by rwa [Nat.add_right_comm] at vacant, ?_, ?_⟩
        · intro earlier below
          cases earlier with
          | zero => simp [found]
          | succ earlier =>
            have bound := least earlier (by omega)
            rwa [Nat.add_right_comm] at bound
        · rw [ended, Nat.add_right_comm]
          rfl

theorem store_of_refused {registry : Registry} {slot : Nat} {state : Pstate} {cause : GroupError}
    (refused : registry.states.insert slot state = .error cause) :
    registry.store slot state = .error (.ofGroup cause) := by
  unfold store
  split
  · rename_i other found
    cases refused.symm.trans found
    rfl
  · rename_i states stored
    cases refused.symm.trans stored

theorem store_of_inserted {registry : Registry} {slot : Nat} {state : Pstate}
    {states : Group Pstate} (inserted : registry.states.insert slot state = .ok states) :
    ∃ next, registry.store slot state = .ok next ∧ next.states = states ∧
      next.levels = registry.levels + 1 ∧ next.poisoned = registry.poisoned := by
  unfold store
  split
  · rename_i cause refused
    cases inserted.symm.trans refused
  · rename_i other stored
    cases inserted.symm.trans stored
    exact ⟨_, rfl, rfl, rfl, rfl⟩

theorem ending_loadRecord_of_skipped (clocks : Group ClockDomain) (declared : UInt8)
    {record : Record} (skipped : record.isSkipped = true) (position : Nat) (registry : Registry) :
    (loadRecord clocks declared position record).ending registry = (.ok 0, registry) := by
  simp only [loadRecord, skipped, ↓reduceIte]
  rfl

theorem ending_loadRecords_of_ok {clocks : Group ClockDomain} {declared : UInt8} {record : Record}
    {position levels : Nat} {registry next : Registry}
    (ended : (loadRecord clocks declared position record).ending registry = (.ok levels, next))
    (rest : List Record) :
    (loadRecords clocks declared position (record :: rest)).ending registry =
      let last := (loadRecords clocks declared (position + 1) rest).ending next
      (last.1.map (levels + ·), last.2) := by
  simp only [loadRecords, Attempt.ending_bind, ended]
  split <;> rename_i found <;> simp only [found] <;> rfl

theorem ending_loadRecords_of_error {clocks : Group ClockDomain} {declared : UInt8}
    {record : Record} {position : Nat} {failure : Failure} {registry next : Registry}
    (ended : (loadRecord clocks declared position record).ending registry = (.error failure, next))
    (rest : List Record) :
    (loadRecords clocks declared position (record :: rest)).ending registry = (.error failure, next) := by
  simp only [loadRecords, Attempt.ending_bind, ended]

/-- A record that is not skipped is either stored in its slot or refused by its fault, and
a refused record leaves the registry as it was. -/
theorem ending_loadRecord (clocks : Group ClockDomain) (declared : UInt8) (registry : Registry)
    (position : Nat) (record : Record) (kept : record.isSkipped = false) (fits : record.Fits) :
    (¬ Bad clocks registry position record ∧
      ∃ state states next, record.Describes clocks state ∧
        registry.states.insert position state = .ok states ∧ next.states = states ∧
        next.levels = registry.levels + 1 ∧ next.poisoned = registry.poisoned ∧
        (loadRecord clocks declared position record).ending registry = (.ok 1, next)) ∨
    ∃ failure, Fault clocks registry position record failure ∧
      (loadRecord clocks declared position record).ending registry = (.error failure, registry) := by
  simp only [loadRecord, kept, Bool.false_eq_true, ↓reduceIte]
  by_cases high : 15 < record.level.toNat
  · have none : record.ordinal? = none := by
      simp [Record.ordinal?, UInt8.le_iff_toNat_le, Table.topLevel, high]
    exact .inr ⟨_, .level high, by rw [none]; rfl⟩
  have low : record.level.toNat ≤ 15 := Nat.le_of_not_lt high
  have ordinal : record.ordinal? = some (15 - record.level.toNat) := by
    simp [Record.ordinal?, UInt8.le_iff_toNat_le, Table.topLevel, low]
  simp only [ordinal, Attempt.ending_bind]
  have room : 0 + record.clocks.length ≤ Table.clockLimit := by
    rw [Nat.zero_add]
    exact fits
  rcases ending_bindClocks clocks declared position (15 - record.level.toNat) record.clocks 0 room
    registry with
    ⟨limits, ended, length, bound⟩ | ⟨clock, inside, vacant, least, ended⟩
  · have described : record.Describes clocks
        ⟨15 - record.level.toNat, limits, record.lowPower⟩ :=
      ⟨Nat.sub_add_cancel low, rfl, length, fun place entry present => by
        simpa [Table.ClockEntry.limitsFor] using bound place entry present⟩
    have all : ∀ clock < record.clocks.length, (clocks.get? clock).isSome := by
      intro clock inside
      obtain ⟨domain, there, _⟩ := bound clock _ (List.getElem?_eq_getElem inside)
      rw [Nat.zero_add] at there
      simp [there]
    rw [ended]
    simp only [Attempt.ending_get, Attempt.ending_ofExcept]
    by_cases past : 32 ≤ position
    · have capacity := registry.capacity_states
      have refused := Group.insert_past (capacity ▸ past : registry.states.capacity ≤ position)
        ⟨15 - record.level.toNat, limits, record.lowPower⟩
      rw [capacity] at refused
      refine .inr ⟨_, .beyond low all past, ?_⟩
      rw [store_of_refused refused]
      rfl
    cases taken : registry.states.get? position with
    | some present =>
      have refused := Group.insert_occupied taken
        ⟨15 - record.level.toNat, limits, record.lowPower⟩
      refine .inr ⟨_, .occupied low all (by omega) (by simp [taken]), ?_⟩
      rw [store_of_refused refused]
      rfl
    | none =>
      have inside : position < registry.states.capacity := by
        rw [registry.capacity_states]
        exact Nat.lt_of_not_le past
      have inserted := Group.insert_vacant inside taken
        ⟨15 - record.level.toNat, limits, record.lowPower⟩
      obtain ⟨next, stored, states, levels, poisoned⟩ := store_of_inserted inserted
      refine .inl ⟨?_, _, _, next, described, inserted, states, levels, poisoned, ?_⟩
      · rintro ⟨_, level | ⟨clock, below, vacant⟩ | slot | occupied⟩
        · exact high level
        · simpa [vacant] using all clock below
        · exact past slot
        · simp [taken] at occupied
      · rw [stored]
        rfl
  · rw [Nat.zero_add] at vacant ended
    simp only [Nat.zero_add] at least
    exact .inr ⟨_, .clock low inside vacant least, by rw [ended]⟩

/-- One more record adds its state in its own slot if it is not skipped, and nothing else. -/
theorem Gains.snoc {clocks : Group ClockDomain} {seen : List Record}
    {earlier current next : Registry} (gains : Gains clocks seen earlier current) {record : Record}
    (others : ∀ slot, slot ≠ seen.length → next.states.get? slot = current.states.get? slot)
    (stored : record.isSkipped = false → current.states.get? seen.length = none ∧
      ∃ state, next.states.get? seen.length = some state ∧ record.Describes clocks state)
    (skipped : record.isSkipped = true →
      next.states.get? seen.length = current.states.get? seen.length)
    (levels : next.levels = current.levels + Record.kept [record])
    (poisoned : next.poisoned = current.poisoned)
    (consistent : current.states.Consistent → next.states.Consistent) :
    Gains clocks (seen ++ [record]) earlier next := by
  have untouched : current.states.get? seen.length = earlier.states.get? seen.length :=
    gains.others _ fun other present => by simp at present
  have last {slot : Nat} {other : Record} (present : (seen ++ [record])[slot]? = some other) :
      (slot ≠ seen.length ∧ seen[slot]? = some other) ∨ slot = seen.length ∧ record = other := by
    rcases Nat.lt_trichotomy slot seen.length with before | here | after
    · rw [List.getElem?_append_left before] at present
      exact .inl ⟨by omega, present⟩
    · subst here
      exact .inr ⟨rfl, by simpa using present⟩
    · rw [List.getElem?_eq_none (by simp; omega)] at present
      cases present
  refine ⟨fun slot other present live => ?_, fun slot skips => ?_, ?_,
    poisoned.trans gains.poisoned, consistent ∘ gains.consistent⟩
  · rcases last present with ⟨different, present⟩ | ⟨here, same⟩
    · rw [others slot different]
      exact gains.stored slot other present live
    · subst here same
      rw [← untouched]
      exact stored live
  · have before : current.states.get? slot = earlier.states.get? slot :=
      gains.others slot fun other present => skips other <| by
        rw [List.getElem?_append_left (List.getElem?_eq_some_iff.mp present).1, present]
    rw [← before]
    by_cases here : slot = seen.length
    · subst here
      exact skipped (skips record (by simp))
    · exact others slot here
  · rw [levels, gains.levels, Nat.add_assoc]
    simp [Record.kept]

/-- How loading the records `rest` behind the records `seen` can end. -/
inductive Loads (clocks : Group ClockDomain) (earlier : Registry) (seen rest : List Record) :
    Except Failure Nat × Registry → Prop where
  | all {later : Registry}
      (fine : ∀ offset record, rest[offset]? = some record →
        ¬ Bad clocks earlier (seen.length + offset) record)
      (gains : Gains clocks (seen ++ rest) earlier later) :
      Loads clocks earlier seen rest (.ok (Record.kept rest), later)
  | upTo (offset : Nat) {record : Record} {failure : Failure} {later : Registry}
      (present : rest[offset]? = some record) (kept : record.isSkipped = false)
      (fine : ∀ before < offset, ∀ other, rest[before]? = some other →
        ¬ Bad clocks earlier (seen.length + before) other)
      (fault : Fault clocks earlier (seen.length + offset) record failure)
      (gains : Gains clocks (seen ++ rest.take offset) earlier later) :
      Loads clocks earlier seen rest (.error failure, later)

theorem Loads.cons {clocks : Group ClockDomain} {earlier later : Registry} {seen rest : List Record}
    {record : Record} {ended : Except Failure Nat}
    (fine : ¬ Bad clocks earlier seen.length record)
    (loads : Loads clocks earlier (seen ++ [record]) rest (ended, later)) :
    Loads clocks earlier seen (record :: rest)
      (ended.map (Record.kept [record] + ·), later) := by
  have shift (offset : Nat) : (seen ++ [record]).length + offset = seen.length + (offset + 1) := by
    rw [List.length_append, List.length_singleton, Nat.add_assoc, Nat.add_comm 1]
  cases loads with
  | all others gains =>
    have total : Record.kept [record] + Record.kept rest = Record.kept (record :: rest) := by
      simp [Record.kept, List.countP_cons, Nat.add_comm]
    rw [Except.map, total]
    refine .all (fun offset other present => ?_) (by simpa using gains)
    cases offset with
    | zero =>
      obtain rfl : record = other := by simpa using present
      exact fine
    | succ offset => exact shift offset ▸ others offset other (by simpa using present)
  | upTo offset present kept others fault gains =>
    refine .upTo (offset + 1) (by simpa using present) kept (fun before below other there => ?_)
      (shift offset ▸ fault) (by simpa using gains)
    cases before with
    | zero =>
      obtain rfl : record = other := by simpa using there
      exact fine
    | succ before =>
      exact shift before ▸ others before (by omega) other (by simpa using there)

/-- Records are stored one after another up to the first bad one. -/
theorem loads_loadRecords (clocks : Group ClockDomain) (declared : UInt8) (earlier : Registry)
    (rest seen : List Record) (fits : ∀ record ∈ rest, record.Fits) (current : Registry)
    (gains : Gains clocks seen earlier current) :
    Loads clocks earlier seen rest
      ((loadRecords clocks declared seen.length rest).ending current) := by
  induction rest generalizing seen current with
  | nil =>
    show Loads clocks earlier seen [] (.ok 0, current)
    exact .all (fun _ _ present => by simp at present) (by simpa using gains)
  | cons record rest ih =>
    obtain ⟨room, fits⟩ := List.forall_mem_cons.mp fits
    have untouched : current.states.get? seen.length = earlier.states.get? seen.length :=
      gains.others _ fun other present => by simp at present
    have behind : seen.length + 1 = (seen ++ [record]).length := by simp
    by_cases skipped : record.isSkipped = true
    · have none : Record.kept [record] = 0 := by simp [Record.kept, skipped]
      have fine : ¬ Bad clocks earlier seen.length record := fun bad => by
        simp [bad.kept] at skipped
      have ended := ending_loadRecord_of_skipped clocks declared skipped seen.length current
      rw [← none] at ended
      rw [ending_loadRecords_of_ok ended, behind]
      exact Loads.cons fine (ih _ fits current (gains.snoc (fun _ _ => rfl) (by simp [skipped])
        (fun _ => rfl) (by rw [none]; rfl) rfl id))
    have live : record.isSkipped = false := by simpa using skipped
    have one : Record.kept [record] = 1 := by simp [Record.kept, live]
    rcases ending_loadRecord clocks declared current seen.length record live room with
      ⟨fine, state, states, next, described, inserted, same, levels, poisoned, ended⟩ |
      ⟨failure, fault, ended⟩
    · rw [← one] at ended
      rw [ending_loadRecords_of_ok ended, behind]
      have view (slot : Nat) := same ▸ Group.get?_insert inserted slot
      refine Loads.cons (fun bad => fine ⟨bad.kept, untouched ▸ bad.fault⟩) (ih _ fits next
        (gains.snoc (fun slot different => ?_) (fun _ => ?_) (fun skip => absurd skip skipped)
          (one ▸ levels) poisoned fun consistent => same ▸ consistent.insert inserted))
      · rw [view, if_neg different]
      · exact ⟨(Group.vacant_of_insert inserted).2, state, by rw [view, if_pos rfl], described⟩
    · rw [ending_loadRecords_of_error ended]
      exact .upTo 0 rfl live (fun before below => by omega) (fault.congr untouched)
        (by simpa using gains)

/-- Loading is refused by a malformed table first and by a poisoned lock second; neither
touches the registry. -/
theorem ending_load (clocks : Group ClockDomain) (registry : Registry) (bytes : List UInt8) :
    (load clocks bytes).ending registry =
      match Table.parse bytes with
      | .error cause => (.error (.malformedTable cause), registry)
      | .ok table =>
        if registry.poisoned then (.error .lockPoisoned, registry)
        else (loadRecords clocks table.header.clockCount 0 table.records).ending registry := by
  simp only [load, Attempt.ending_bind, Attempt.ending_mapError, Attempt.ending_ofExcept]
  cases Table.parse bytes with
  | error cause => rfl
  | ok table => cases poisoned : registry.poisoned <;> simp [lock, poisoned]

section Load

variable {registry : Registry} {bytes : List UInt8} {table : Table}

theorem loads_load (clocks : Group ClockDomain) (parsed : Table.parse bytes = .ok table)
    (sound : registry.poisoned = false) :
    Loads clocks registry [] table.records ((load clocks bytes).ending registry) := by
  rw [ending_load, parsed]
  simp only [sound, Bool.false_eq_true, ↓reduceIte]
  exact loads_loadRecords clocks table.header.clockCount registry table.records []
    (Table.fits_of_parse parsed) registry (.refl clocks registry)

theorem gains_of_load {clocks : Group ClockDomain} {levels : Nat} {later : Registry}
    (ended : (load clocks bytes).ending registry = (.ok levels, later)) :
    ∃ table, Table.parse bytes = .ok table ∧ registry.poisoned = false ∧
      levels = Record.kept table.records ∧ Gains clocks table.records registry later := by
  have refused := ending_load clocks registry bytes
  rw [ended] at refused
  cases parsed : Table.parse bytes with
  | error cause =>
    rw [parsed] at refused
    cases refused
  | ok table =>
    rw [parsed] at refused
    cases poisoned : registry.poisoned with
    | true =>
      simp only [if_pos poisoned] at refused
      cases refused
    | false =>
      have loads := loads_load clocks parsed poisoned
      rw [ended] at loads
      cases loads with
      | all _ gains => exact ⟨table, rfl, rfl, rfl, gains⟩

/-- The room for limits never runs out: a table with more clock entries has been refused for its
header already. -/
theorem load_ne_tooManyClocks (parsed : Table.parse bytes = .ok table)
    (clocks : Group ClockDomain) (registry : Registry) (count : UInt8) :
    ((load clocks bytes).ending registry).1 ≠ .error (.malformedTable (.tooManyClocks count)) := by
  cases poisoned : registry.poisoned with
  | true =>
    rw [ending_load, parsed]
    simp only [if_pos poisoned]
    nofun
  | false =>
    have loads := loads_load clocks parsed poisoned
    rcases ended : (load clocks bytes).ending registry with ⟨value, later⟩
    rw [ended] at loads
    cases loads with
    | all _ _ => nofun
    | upTo _ _ _ _ fault _ => cases fault <;> nofun

end Load

/-- The registry made from the table of a firmware image, or the failure to make one. -/
def decoded (clocks : Group ClockDomain) : Option (List UInt8) → Except Failure Registry
  | none => .error (.malformedTable .missing)
  | some bytes =>
    let (ended, registry) := (load clocks bytes).ending empty
    ended.map fun _ => registry

theorem ending_ofFirmware {σ : Type} (clocks : Group ClockDomain) (image : Option (List UInt8))
    (state : σ) : (ofFirmware clocks image).ending state = (decoded clocks image, state) := by
  simp only [ofFirmware, Attempt.ending_bind, Attempt.ending_ofAction]
  cases image with
  | none => rfl
  | some bytes =>
    have own : (load clocks bytes).ending empty = (((load clocks bytes).run empty).value,
        ((load clocks bytes).run empty).state) := rfl
    cases ended : ((load clocks bytes).run empty).value with
    | ok levels => simp [construct, decoded, own, ended, Except.map]
    | error failure => simp [construct, decoded, destroy, own, ended, Except.map]

/-- The whole outcome of loading a table. A table that does not parse and a poisoned lock
leave the registry alone; otherwise the records before the first bad one are stored, all of
them if none is bad, and the first bad one decides the failure. -/
theorem load_outcome (clocks : Group ClockDomain) (registry : Registry) (bytes : List UInt8) :
    let ended := (load clocks bytes).run registry
    (∀ cause, Table.parse bytes = .error cause →
      ended.value = .error (.malformedTable cause) ∧ ended.state = registry) ∧
    ∀ table, Table.parse bytes = .ok table →
      (∀ record ∈ table.records, record.clocks.length = table.header.clockCount.toNat) ∧
      (registry.poisoned = true → ended.value = .error .lockPoisoned ∧ ended.state = registry) ∧
      (registry.poisoned = false →
        ((∀ position record, table.records[position]? = some record →
            ¬ Bad clocks registry position record) →
          ended.value = .ok (Record.kept table.records) ∧
            Gains clocks table.records registry ended.state) ∧
        ∀ position record, table.records[position]? = some record →
          Bad clocks registry position record →
          (∀ before < position, ∀ other, table.records[before]? = some other →
            ¬ Bad clocks registry before other) →
          ∃ failure, Fault clocks registry position record failure ∧
            ended.value = .error failure ∧
            Gains clocks (table.records.take position) registry ended.state) := by
  intro ended
  have ending : (load clocks bytes).ending registry = (ended.value, ended.state) := rfl
  have refused := ending_load clocks registry bytes
  rw [ending] at refused
  refine ⟨fun cause malformed => ?_, fun table parsed => ⟨fun _ => Table.length_clocks, ?_⟩⟩
  · simpa [malformed] using refused
  simp only [parsed] at refused
  refine ⟨fun poisoned => ?_, fun sound => ?_⟩
  · simpa [poisoned] using refused
  have loads := loads_load clocks parsed sound
  rw [ending] at loads
  generalize ended.value = value at loads
  generalize ended.state = later at loads
  cases loads with
  | all fine gains =>
    simp only [List.length_nil, Nat.zero_add, List.nil_append] at fine gains
    exact ⟨fun _ => ⟨rfl, gains⟩, fun position record present bad =>
      absurd bad (fine position record present)⟩
  | @upTo offset record failure _ present kept fine fault gains =>
    simp only [List.length_nil, Nat.zero_add, List.nil_append] at fine fault gains
    refine ⟨fun none => absurd (fault.bad kept) (none offset record present),
      fun position other there bad least => ?_⟩
    -- Both are the first bad record, so they are the same.
    have same : position = offset := by
      rcases Nat.lt_trichotomy position offset with before | here | after
      · exact absurd bad (fine position before other there)
      · exact here
      · exact absurd (fault.bad kept) (least offset after record present)
    subst same
    obtain rfl : record = other := Option.some.inj (present.symm.trans there)
    exact ⟨failure, fault, rfl, gains⟩

/-- Three records, the second skipped and the third on too high a level. -/
theorem load_outcome_of_high_level :
    let bytes := [0x50, 10, 2, 3, 6, 0, 0, 0, 0, 0, 15, 0, 0xff, 0, 16, 0]
    let ended := (load (Group.empty 32) bytes).run empty
    ∃ table failure, Table.parse bytes = .ok table ∧
      Fault (Group.empty 32) empty 2 ⟨16, 0, 0, []⟩ failure ∧ ended.value = .error failure ∧
      Gains (Group.empty 32) (table.records.take 2) empty ended.state := by
  intro bytes ended
  let table : Table :=
    ⟨⟨0x50, 10, 2, 3, 6, 0, 0, 0, 0, 0⟩, [15, 0, 0xff, 0, 16, 0]⟩
  have parsed : Table.parse bytes = .ok table := rfl
  have records : table.records = [⟨15, 0, 0, []⟩, ⟨0xff, 0, 0, []⟩, ⟨16, 0, 0, []⟩] := rfl
  have fine : ∀ before < 2, ∀ other, table.records[before]? = some other →
      ¬ Bad (Group.empty 32) empty before other := by
    rintro before below other present ⟨live, level | ⟨clock, inside, _⟩ | slot | taken⟩
    all_goals
      rw [records] at present
      obtain rfl | rfl : before = 0 ∨ before = 1 := by omega
      all_goals cases present
    all_goals simp_all [empty, Record.isSkipped, Table.skipLevel]
  obtain ⟨failure, fault, value, gains⟩ :=
    (((load_outcome (Group.empty 32) empty bytes).2 table parsed).2.2 rfl).2 2 ⟨16, 0, 0, []⟩
      rfl ⟨rfl, .inl (by decide)⟩ fine
  exact ⟨table, failure, parsed, fault, value, gains⟩

end Registry

end PerfStates
