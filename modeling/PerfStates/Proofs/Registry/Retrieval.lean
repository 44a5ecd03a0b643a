import PerfStates.Proofs.Registry.Lookup

namespace PerfStates

namespace Table.Record

/-- The record at `position` is the first of its level. -/
structure Leads (records : List Record) (position : Nat) (record : Record) : Prop where
  present : records[position]? = some record
  least : ∀ earlier < position, ∀ other, records[earlier]? = some other →
    other.level ≠ record.level

/-- Every record has a first one of its level, at its own position or before it. -/
theorem exists_leads {records : List Record} {position : Nat} {record : Record}
    (present : records[position]? = some record) :
    ∃ first leading, first ≤ position ∧ Leads records first leading ∧
      leading.level = record.level := by
  induction position using Nat.strongRecOn generalizing record with
  | ind position ih =>
    by_cases again : ∃ earlier, earlier < position ∧
        ∃ other, records[earlier]? = some other ∧ other.level = record.level
    · obtain ⟨earlier, below, other, there, same⟩ := again
      obtain ⟨first, leading, before, leads, level⟩ := ih earlier below there
      exact ⟨first, leading, Nat.le_trans before (Nat.le_of_lt below), leads, level.trans same⟩
    · refine ⟨position, record, Nat.le_refl _, ⟨present, ?_⟩, rfl⟩
      intro earlier below other there same
      exact again ⟨earlier, below, other, there, same⟩

end Table.Record

namespace Registry

open Table (Record)

/-- Looking up the ordinal of a record gives the state that was decoded from it. The limits of a
clock are the values of the record's own entry for it; a clock that no entry is bound to has none. -/
def Retrieves (clocks : Group ClockDomain) (registry : Registry) (position : Nat)
    (record : Record) : Prop :=
  ∃ state, registry.states.get? position = some state ∧ record.Describes clocks state ∧
    registry.find (15 - record.level.toNat) = .ok (some state) ∧
    (∀ clock entry domain, record.Binds clocks clock entry domain →
      registry.limits (15 - record.level.toNat) domain.id =
        .ok (some ⟨domain.id, entry.nominal, entry.lowest, entry.highest⟩)) ∧
    ∀ id, (∀ clock < record.clocks.length, ∀ domain, clocks.get? clock = some domain →
        domain.id ≠ id) →
      registry.limits (15 - record.level.toNat) id = .ok none

theorem Gains.retrieves {clocks : Group ClockDomain} {records : List Record} {registry : Registry}
    (gains : Gains clocks records empty registry) (sound : registry.poisoned = false)
    {position : Nat} {record : Record} (leads : Record.Leads records position record)
    (kept : record.isSkipped = false) : registry.Retrieves clocks position record := by
  obtain ⟨_, state, held, described⟩ := gains.stored position record leads.present kept
  have total := described.ordinal
  have governs : record.Governs (15 - record.level.toNat) := ⟨kept, by omega⟩
  have found : registry.lowest? (15 - record.level.toNat) = some state := by
    rw [lowest?_eq_some_iff]
    refine ⟨position, held, (described.ordinal_eq_iff kept _).mpr governs, ?_⟩
    intro earlier below other there same
    obtain ⟨before, present, live, described⟩ := gains.record_of_held there
    have again := ((described.ordinal_eq_iff live _).mp same).level
    apply leads.least earlier below before present
    exact UInt8.toNat_inj.mp (by omega)
  refine ⟨state, held, described, ?_, fun clock entry domain binds => ?_, fun id absent => ?_⟩
  · rw [find_of_sound sound, found]
  · rw [limits_of_sound sound, found, Option.bind_some, described.limits?_eq_some binds]
  · rw [limits_of_sound sound, found, Option.bind_some, described.limits?_eq_none absent]

/-- Looking the records of a decoded table up again. A record without an earlier one of its level
is found by its ordinal, exactly as it was decoded and with its own limits. Any other record is
hidden behind the first of its level, which answers in its place. -/
theorem retrieves_first_of_level {σ : Type} {start : σ} {clocks : Group ClockDomain}
    {image : Option (List UInt8)} {registry : Registry}
    (made : ((ofFirmware clocks image).run start).value = .ok registry) :
    ∃ bytes table, image = some bytes ∧ Table.parse bytes = .ok table ∧
      ∀ position record, table.records[position]? = some record → record.isSkipped = false →
        (Record.Leads table.records position record →
          registry.Retrieves clocks position record) ∧
        ∃ first leading, first ≤ position ∧ Record.Leads table.records first leading ∧
          leading.level = record.level ∧ registry.Retrieves clocks first leading := by
  have ending := Attempt.ending_of_value made
  rw [ending_ofFirmware] at ending
  obtain ⟨bytes, table, provided, parsed, sound, gains⟩ :=
    gains_of_decoded (congrArg Prod.fst ending)
  refine ⟨bytes, table, provided, parsed, fun position record present kept => ⟨?_, ?_⟩⟩
  · intro leads
    exact gains.retrieves sound leads kept
  · obtain ⟨first, leading, before, leads, level⟩ := Record.exists_leads present
    have live : leading.isSkipped = false := by rwa [Record.isSkipped, level]
    exact ⟨first, leading, before, leads, level, gains.retrieves sound leads live⟩

/-- Two records of the top level behind a skipped one, and one of another level. -/
def repeatedLevel : List UInt8 :=
  [0x50, 10, 3, 4, 8, 1, 0, 0, 0, 0] ++ [0xff, 0, 0, 0, 0, 0, 0, 0, 0, 0, 0] ++
    [15, 0, 1, 0x20, 0x03, 0, 0, 0xc8, 0x00, 0xe1, 0x00] ++
    [15, 0, 2, 0xbc, 0x02, 0, 0, 0x64, 0x00, 0xc8, 0x00] ++
    [12, 0, 3, 0x2c, 0x01, 0, 0, 0x32, 0x00, 0x64, 0x00]

/-- The record of the other level is found by its ordinal; so is the first of the two, for both. -/
theorem retrieves_first_of_repeated_level :
    let clocks : Group ClockDomain := Group.filled 32 [⟨"core", ⟨1⟩, .master⟩]
    let last : Record := ⟨12, 0, 3, [⟨300, 0x640032⟩]⟩
    let second : Record := ⟨15, 0, 2, [⟨700, 0xc80064⟩]⟩
    let made := (ofFirmware clocks (some repeatedLevel)).run ()
    ∃ table registry, Table.parse repeatedLevel = .ok table ∧ made.value = .ok registry ∧
      table.records[3]? = some last ∧ registry.Retrieves clocks 3 last ∧
      registry.limits 3 ⟨1⟩ = .ok (some ⟨⟨1⟩, 300, 50, 400⟩) ∧
      table.records[2]? = some second ∧
      ∃ first leading, first ≤ 2 ∧ Record.Leads table.records first leading ∧
        leading.level = second.level ∧ registry.Retrieves clocks first leading := by
  intro clocks last second made
  let table : Table :=
    ⟨⟨0x50, 10, 3, 4, 8, 1, 0, 0, 0, 0⟩, (repeatedLevel.drop 10).take 44⟩
  have parsed : Table.parse repeatedLevel = .ok table := rfl
  have present : table.records[3]? = some last := by decide +kernel
  have also : table.records[2]? = some second := by decide +kernel
  have levels : table.records.map Record.level = [0xff, 15, 15, 12] := by decide +kernel
  have leads : Record.Leads table.records 3 last := by
    refine ⟨present, fun earlier below other there same => ?_⟩
    have level : (table.records.map Record.level)[earlier]? = some 12 := by
      rw [List.getElem?_map, there, Option.map_some, same]
    rw [levels] at level
    obtain rfl | rfl | rfl : earlier = 0 ∨ earlier = 1 ∨ earlier = 2 := by omega
    all_goals cases level
  cases ended : made.value with
  | error failure =>
    have done : made.value.toOption.isSome = true := by decide +kernel
    rw [ended] at done
    cases done
  | ok registry =>
    obtain ⟨_, _, provided, again, retrieves⟩ := retrieves_first_of_level ended
    obtain rfl := Option.some.inj provided
    obtain rfl := Except.ok.inj (parsed.symm.trans again)
    have own := (retrieves 3 last present rfl).1 leads
    have binds : last.Binds clocks 0 ⟨300, 0x640032⟩ ⟨"core", ⟨1⟩, .master⟩ :=
      ⟨rfl, rfl, fun earlier below => absurd below (Nat.not_lt_zero earlier)⟩
    have ⟨_, _, _, _, limits, _⟩ := own
    exact ⟨table, registry, parsed, rfl, present, own, limits 0 _ _ binds, also,
      (retrieves 2 second also rfl).2⟩

/-- Of two records of one level the second is decoded and stored but not found: its ordinal gives
the state of the first, and the limits of the first. -/
theorem not_retrieves_second_of_level :
    let clocks : Group ClockDomain := Group.filled 32 [⟨"core", ⟨1⟩, .master⟩]
    let made := (ofFirmware clocks (some repeatedLevel)).run ()
    ∃ table registry, Table.parse repeatedLevel = .ok table ∧ made.value = .ok registry ∧
      registry.states.get? 2 = some ⟨0, [⟨⟨1⟩, 700, 100, 800⟩], 2⟩ ∧
      registry.find 0 = .ok (some ⟨0, [⟨⟨1⟩, 800, 200, 900⟩], 1⟩) ∧
      registry.limits 0 ⟨1⟩ = .ok (some ⟨⟨1⟩, 800, 200, 900⟩) ∧
      ¬ ∀ position record, table.records[position]? = some record → record.isSkipped = false →
        registry.Retrieves clocks position record := by
  intro clocks made
  let table : Table :=
    ⟨⟨0x50, 10, 3, 4, 8, 1, 0, 0, 0, 0⟩, (repeatedLevel.drop 10).take 44⟩
  have parsed : Table.parse repeatedLevel = .ok table := rfl
  have second : table.records[2]? = some ⟨15, 0, 2, [⟨700, 0xc80064⟩]⟩ := by decide +kernel
  have read : made.value.toOption.map (fun registry =>
      (registry.poisoned, registry.states.get? 2, registry.lowest? 0)) =
      some (false, some ⟨0, [⟨⟨1⟩, 700, 100, 800⟩], 2⟩, some ⟨0, [⟨⟨1⟩, 800, 200, 900⟩], 1⟩) := by
    decide +kernel
  cases ended : made.value with
  | error failure =>
    rw [ended] at read
    cases read
  | ok registry =>
    rw [ended] at read
    obtain ⟨sound, read⟩ := Prod.mk.inj (Option.some.inj read)
    obtain ⟨held, lowest⟩ := Prod.mk.inj read
    have found : registry.find 0 = .ok (some ⟨0, [⟨⟨1⟩, 800, 200, 900⟩], 1⟩) := by
      rw [find_of_sound sound, lowest]
    refine ⟨table, registry, parsed, rfl, held, found, ?_, fun all => ?_⟩
    · rw [limits_of_sound sound, lowest]
      rfl
    · obtain ⟨state, there, _, answer, _⟩ := all 2 _ second rfl
      obtain rfl := Option.some.inj (held.symm.trans there)
      cases found.symm.trans answer

end Registry

end PerfStates
