import PerfStates.Proofs.Registry.Lookup
import PerfStates.Proofs.Table.Locality

namespace PerfStates

namespace Table.Record

variable {clocks : Group ClockDomain} {record other : Record} {state : Pstate}

/-- What a record that is the same below describes: the highest frequency of the last clock is
its own, and all else is as it was. -/
theorem SameBelow.describes (same : record.SameBelow other)
    (described : record.Describes clocks state) :
    ∃ front limits last changed, state.clocks = front ++ [limits] ∧
      record.clocks.getLast? = some last ∧ other.clocks.getLast? = some changed ∧
      lowerHalf changed.param1 = lowerHalf last.param1 ∧ limits.highest = last.highest ∧
      other.Describes clocks
        { state with clocks := front ++ [{ limits with highest := changed.highest }] } := by
  obtain ⟨level, -, lowPower, entries, last, changed, split, split', param0, lower⟩ := same
  have total : record.clocks.length = entries.length + 1 := by simp [split]
  obtain ⟨front, limits, parts, length⟩ := exists_concat (described.length_clocks.trans total)
  obtain ⟨domain, there, limit⟩ := described.clock entries.length last (by simp [split])
  rw [parts, ← length, List.getElem?_concat_length] at limit
  obtain rfl := Option.some.inj limit
  have nominal : changed.nominal = last.nominal := by
    rw [ClockEntry.nominal, param0, ClockEntry.nominal]
  refine ⟨front, _, last, changed, parts, by simp [split], by simp [split'], lower, rfl, ?_⟩
  refine ⟨by rw [level, described.ordinal], by rw [lowPower, described.lowPower],
    by simp [split', length], fun position entry present => ?_⟩
  rcases Nat.lt_trichotomy position entries.length with before | here | behind
  · -- The clock entries in front are those of the first record.
    rw [split', List.getElem?_append_left before] at present
    obtain ⟨bound, found, limit⟩ := described.clock position entry
      (by rw [split, List.getElem?_append_left before, present])
    rw [parts, List.getElem?_append_left (length ▸ before)] at limit
    exact ⟨bound, found, by rw [List.getElem?_append_left (length ▸ before), limit]⟩
  · subst here
    rw [split', List.getElem?_concat_length] at present
    obtain rfl := Option.some.inj present
    refine ⟨domain, there, ?_⟩
    rw [← length, List.getElem?_concat_length, nominal, ClockEntry.lowest_eq lower]
  · rw [split', List.getElem?_eq_none (by simp; omega)] at present
    cases present

end Table.Record

namespace Registry

open Table (Record)

variable {clocks : Group ClockDomain}

theorem Gains.get?_eq {records others : List Record} {registry tampered : Registry}
    (gains : Gains clocks records empty registry) (also : Gains clocks others empty tampered)
    {slot : Nat} (same : records[slot]? = others[slot]?) :
    registry.states.get? slot = tampered.states.get? slot := by
  by_cases skips : ∀ record, records[slot]? = some record → record.isSkipped = true
  · rw [gains.others slot skips, also.others slot (same ▸ skips)]
  · push Not at skips
    obtain ⟨record, present, kept⟩ := skips
    have live : record.isSkipped = false := by simpa using kept
    obtain ⟨_, state, held, described⟩ := gains.stored slot record present live
    obtain ⟨_, changed, held', described'⟩ := also.stored slot record (same ▸ present) live
    rw [held, held', described.unique described']

/-- The slot of a record that is the same below: empty in both registries if it is skipped, and
else different in one frequency at most. -/
theorem Gains.of_sameBelow {records others : List Record} {registry tampered : Registry}
    (gains : Gains clocks records empty registry) (also : Gains clocks others empty tampered)
    {slot : Nat} {record other : Record} (present : records[slot]? = some record)
    (there : others[slot]? = some other) (same : record.SameBelow other) :
    (record.isSkipped = true ∧ registry.states.get? slot = tampered.states.get? slot) ∨
    record.isSkipped = false ∧ ∃ state front limits last changed,
      registry.states.get? slot = some state ∧ state.clocks = front ++ [limits] ∧
      record.clocks.getLast? = some last ∧ other.clocks.getLast? = some changed ∧
      Table.lowerHalf changed.param1 = Table.lowerHalf last.param1 ∧
      limits.highest = last.highest ∧
      tampered.states.get? slot =
        some { state with clocks := front ++ [{ limits with highest := changed.highest }] } := by
  have skips : other.isSkipped = record.isSkipped := by
    rw [Record.isSkipped, same.level, Record.isSkipped]
  cases skipped : record.isSkipped with
  | true =>
    rw [skipped] at skips
    refine .inl ⟨rfl, ?_⟩
    rw [gains.others slot fun found again => by
        obtain rfl := Option.some.inj (present.symm.trans again)
        exact skipped,
      also.others slot fun found again => by
        obtain rfl := Option.some.inj (there.symm.trans again)
        exact skips]
  | false =>
    rw [skipped] at skips
    obtain ⟨_, state, held, described⟩ := gains.stored slot record present skipped
    obtain ⟨_, _, held', described'⟩ := also.stored slot other there skips
    obtain ⟨front, limits, last, changed, split, final, final', lower, highest, describes⟩ :=
      same.describes described
    rw [described'.unique describes] at held'
    exact .inr ⟨rfl, state, front, limits, last, changed, held, split, final, final', lower,
      highest, held'⟩

/-- Two tables whose bytes agree outside of one record, loaded with the same clock domains. Only
the slots of that record and of the one in front of it can differ. The latter does not with clock
entries of eight bytes or none, nor if it is skipped; and else it differs at most in the highest
frequency of its last clock, which is read from the level and four bits of the flags of the other
record. -/
theorem load_tampered {clocks : Group ClockDomain} {first second : List UInt8}
    {table other : Table} (one : Table.parse first = .ok table)
    (two : Table.parse second = .ok other) (tampered : Nat)
    (agree : ∀ place, place < 10 + tampered * table.header.stride ∨
      10 + (tampered + 1) * table.header.stride ≤ place → first[place]? = second[place]?)
    {levels levels' : Nat} (loaded : ((load clocks first).run empty).value = .ok levels)
    (also : ((load clocks second).run empty).value = .ok levels') :
    let before := ((load clocks first).run empty).state.states
    let after := ((load clocks second).run empty).state.states
    (∀ slot, slot ≠ tampered → slot + 1 ≠ tampered → before.get? slot = after.get? slot) ∧
    ∀ slot, slot + 1 = tampered →
      (table.header.clockSize = 8 ∨ table.header.clockCount = 0 ∨
        (∃ record, table.records[slot]? = some record ∧ record.isSkipped = true) →
          before.get? slot = after.get? slot) ∧
      (before.get? slot = after.get? slot ∨ ∃ state front limits highest,
        before.get? slot = some state ∧ state.clocks = front ++ [limits] ∧
        after.get? slot = some { state with clocks := front ++ [{ limits with highest }] }) ∧
      ∀ record changed, table.records[tampered]? = some record →
        other.records[tampered]? = some changed → changed.level = record.level →
        changed.flags.toNat % 0x10 = record.flags.toNat % 0x10 →
        before.get? slot = after.get? slot := by
  intro before after
  have header := Table.header_eq_of_agree one two agree
  obtain ⟨_, same, _, _, gains⟩ := gains_of_load (Attempt.ending_of_value loaded)
  obtain rfl := Except.ok.inj (one.symm.trans same)
  obtain ⟨_, same, _, _, gains'⟩ := gains_of_load (Attempt.ending_of_value also)
  obtain rfl := Except.ok.inj (two.symm.trans same)
  refine ⟨fun slot different far => ?_, fun slot front => ?_⟩
  · exact gains.get?_eq gains' (Table.getElem?_records_eq_of_far one two header agree different far)
  by_cases short : table.header.clockSize = 8 ∨ table.header.clockCount = 0
  · have same : before.get? slot = after.get? slot :=
      gains.get?_eq gains' (Table.getElem?_records_eq_of_eight one two header agree front short)
    exact ⟨fun _ => same, .inl same, fun _ _ _ _ _ _ => same⟩
  obtain ⟨narrow, listed⟩ := not_or.mp short
  have six : table.header.clockSize = 6 :=
    ((Table.parse_eq_ok_iff first table).mp one).2.1.clockSize.resolve_right narrow
  have lengths : table.records.length = other.records.length := by
    rw [Table.length_records one, Table.length_records two, header]
  by_cases inside : slot < table.records.length
  · have present := List.getElem?_eq_getElem inside
    have there := List.getElem?_eq_getElem (lengths ▸ inside)
    have same := Table.sameBelow_of_six one two header agree front six listed present there
    rcases gains.of_sameBelow gains' present there same with
      ⟨skipped, equal⟩ | ⟨kept, state, limits, last, final, changed, held, split, here, behind,
        lower, highest, held'⟩
    · exact ⟨fun _ => equal, .inl equal, fun _ _ _ _ _ _ => equal⟩
    refine ⟨?_, .inr ⟨state, limits, last, _, held, split, held'⟩, ?_⟩
    · rintro (eight | none | ⟨record, found, skipped⟩)
      · exact absurd eight narrow
      · exact absurd none listed
      · obtain rfl := Option.some.inj (present.symm.trans found)
        cases kept.symm.trans skipped
    · intro record next found found' level flags
      subst front
      have upper := Table.upperHalf_last one six present found here
      have upper' := Table.upperHalf_last two (header ▸ six) there found' behind
      have top : changed.highest = last.highest := by
        rw [highest]
        apply Table.ClockEntry.highest_eq lower
        rw [upper, upper', level]
        omega
      rw [held, held', top, ← split]
  · have equal : before.get? slot = after.get? slot := by
      apply gains.get?_eq gains'
      rw [List.getElem?_eq_none (Nat.le_of_not_lt inside),
        List.getElem?_eq_none (lengths ▸ Nat.le_of_not_lt inside)]
    exact ⟨fun _ => equal, .inl equal, fun _ _ _ _ _ _ => equal⟩

/-- Three records of one short clock entry, the second of the given bytes. -/
def threeRecords (second : List UInt8) : List UInt8 :=
  [0x50, 10, 3, 3, 6, 1, 0, 0, 0, 0] ++ [15, 0, 1, 0x20, 0x03, 0, 0, 0xc8, 0x00] ++ second ++
    [10, 0, 3, 0x64, 0x00, 0, 0, 0x19, 0x00, 0, 0]

/-- A level that becomes a skipped record: the level in front gets another highest frequency, 1020
for 48 MHz, and the one behind stays as it is. -/
theorem load_tampered_of_skip :
    let clocks : Group ClockDomain := Group.filled 32 [⟨"core", ⟨1⟩, .master⟩]
    let level : List UInt8 := [12, 0, 2, 0x2c, 0x01, 0, 0, 0x32, 0x00]
    let skip : List UInt8 := [0xff, 0, 0, 0, 0, 0, 0, 0, 0]
    let before := ((load clocks (threeRecords level)).run empty).state.states
    let after := ((load clocks (threeRecords skip)).run empty).state.states
    before.get? 2 = after.get? 2 ∧
    ∃ state front limits highest, before.get? 0 = some state ∧ state.clocks = front ++ [limits] ∧
      after.get? 0 = some { state with clocks := front ++ [{ limits with highest }] } ∧
      (limits.highest, highest) = (48, 1020) := by
  intro clocks level skip before after
  have parsed : Table.parse (threeRecords level) =
      .ok ⟨⟨0x50, 10, 3, 3, 6, 1, 0, 0, 0, 0⟩, ((threeRecords level).drop 10).take 29⟩ := rfl
  have parsed' : Table.parse (threeRecords skip) =
      .ok ⟨⟨0x50, 10, 3, 3, 6, 1, 0, 0, 0, 0⟩, ((threeRecords skip).drop 10).take 29⟩ := rfl
  have agree : ∀ place, place < 19 ∨ 28 ≤ place →
      (threeRecords level)[place]? = (threeRecords skip)[place]? := by
    have listed : ∀ place < 39, place < 19 ∨ 28 ≤ place →
        (threeRecords level)[place]? = (threeRecords skip)[place]? := by decide
    intro place outside
    by_cases inside : place < 39
    · exact listed place inside outside
    · rw [List.getElem?_eq_none (Nat.le_of_not_lt inside),
        List.getElem?_eq_none (Nat.le_of_not_lt inside)]
  have done : ((load clocks (threeRecords level)).run empty).value.toOption = some 3 ∧
      ((load clocks (threeRecords skip)).run empty).value.toOption = some 2 := by decide +kernel
  have slots : before.get? 0 = some ⟨0, [⟨⟨1⟩, 800, 200, 48⟩], 1⟩ ∧
      after.get? 0 = some ⟨0, [⟨⟨1⟩, 800, 200, 1020⟩], 1⟩ := by decide +kernel
  cases loaded : ((load clocks (threeRecords level)).run empty).value with
  | error failure =>
    rw [loaded] at done
    cases done.1
  | ok levels =>
    cases also : ((load clocks (threeRecords skip)).run empty).value with
    | error failure =>
      rw [also] at done
      cases done.2
    | ok levels' =>
      obtain ⟨far, near⟩ := load_tampered parsed parsed' 1 agree loaded also
      obtain ⟨-, either, -⟩ := near 0 rfl
      refine ⟨far 2 (by decide) (by decide), ?_⟩
      rw [slots.1, slots.2] at either ⊢
      rcases either with same | ⟨state, front, limits, highest, held, split, held'⟩
      · exact absurd same (by decide)
      · refine ⟨state, front, limits, highest, held, split, held', ?_⟩
        cases held
        have parts : ([] : List ClockLimits) ++ [⟨⟨1⟩, 800, 200, 48⟩] = front ++ [limits] := split
        obtain ⟨rfl, last⟩ := List.append_inj' parts rfl
        cases last
        cases held'
        rfl

end Registry

end PerfStates
