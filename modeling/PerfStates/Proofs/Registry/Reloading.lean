import PerfStates.Proofs.Registry.Runs

/-! Loading tables into one registry again and in another order. The second load of a table finds
the first state that it would store in its slot already, and two tables that can be loaded one
after the other can be loaded the other way round, with the same registry in the end. -/

namespace PerfStates.Registry

open Table (Record)

variable {clocks : Group ClockDomain}

theorem eq_of_states {registry other : Registry} (states : registry.states = other.states)
    (levels : registry.levels = other.levels) (poisoned : registry.poisoned = other.poisoned) :
    registry = other := by
  cases registry
  cases other
  simp_all

/-- Two states that can be stored one after the other can be stored the other way round. -/
theorem store_comm {registry next last : Registry} {slot other : Nat} {state second : Pstate}
    (stored : registry.store slot state = .ok next) (again : next.store other second = .ok last) :
    ∃ between, registry.store other second = .ok between ∧
      between.store slot state = .ok last := by
  obtain ⟨put, levels, poisoned⟩ := states_of_store stored
  obtain ⟨more, levels', poisoned'⟩ := states_of_store again
  obtain ⟨states, there, behind⟩ := Group.insert_comm put more
  obtain ⟨between, first, same, levels₁, poisoned₁⟩ := store_of_inserted there
  obtain ⟨final, then_, same', levels₂, poisoned₂⟩ := store_of_inserted (same ▸ behind)
  have equal : final = last := by
    refine eq_of_states same' ?_ ?_
    · rw [levels₂, levels₁, levels', levels]
    · rw [poisoned₂, poisoned₁, poisoned', poisoned]
  exact ⟨between, first, equal ▸ then_⟩

theorem ending_loadRecord_of_describes (declared : UInt8) {record : Record} {state : Pstate}
    (kept : record.isSkipped = false) (room : record.Fits)
    (described : record.Describes clocks state) (position : Nat) (registry : Registry) :
    (loadRecord clocks declared position record).ending registry =
      match registry.store position state with
      | .ok next => (.ok 1, next)
      | .error failure => (.error failure, registry) := by
  have bound (clock : Nat) (inside : clock < record.clocks.length) :
      clocks.get? clock ≠ none := by
    obtain ⟨domain, there, _⟩ := described.clock clock _ (List.getElem?_eq_getElem inside)
    rw [there]
    simp
  rcases ending_loadRecord clocks declared registry position record kept room with
    ⟨_, also, states, next, described', inserted, rfl, levels, poisoned, ended⟩ |
    ⟨failure, fault, ended⟩
  · obtain rfl := described.unique described'
    obtain ⟨stored, found, same, levels', poisoned'⟩ := store_of_inserted inserted
    have equal : stored = next :=
      eq_of_states same (levels'.trans levels.symm) (poisoned'.trans poisoned.symm)
    rw [found, ended, equal]
  · cases fault with
    | level high =>
      have ordinal := described.ordinal
      omega
    | clock _ inside vacant _ => exact absurd vacant (bound _ inside)
    | beyond _ _ past =>
      have refused := Group.insert_past (registry.capacity_states ▸ past :
        registry.states.capacity ≤ position) state
      rw [registry.capacity_states] at refused
      rw [store_of_refused refused, ended]
      rfl
    | occupied _ _ _ taken =>
      obtain ⟨present, held⟩ := Option.isSome_iff_exists.mp taken
      rw [store_of_refused (Group.insert_occupied held state), ended]
      rfl

theorem loaded_of_cons {declared : UInt8} {record : Record} {rest : List Record} {position levels : Nat}
    {registry last : Registry}
    (ended : (loadRecords clocks declared position (record :: rest)).ending registry =
      (.ok levels, last)) :
    ∃ one next more, (loadRecord clocks declared position record).ending registry = (.ok one, next) ∧
      (loadRecords clocks declared (position + 1) rest).ending next = (.ok more, last) := by
  rcases first : (loadRecord clocks declared position record).ending registry with ⟨failure | one, next⟩
  · rw [ending_loadRecords_of_error first] at ended
    cases ended
  · rw [ending_loadRecords_of_ok first] at ended
    rcases others : (loadRecords clocks declared (position + 1) rest).ending next with ⟨failure | more, final⟩
    · rw [others] at ended
      cases ended
    · rw [others] at ended
      cases ended
      exact ⟨one, next, more, rfl, others⟩

theorem levels_le_loadRecords (clocks : Group ClockDomain) (declared : UInt8)
    {records : List Record} (fits : ∀ record ∈ records, record.Fits) (position : Nat)
    (registry : Registry) :
    registry.levels ≤ ((loadRecords clocks declared position records).ending registry).2.levels := by
  induction records generalizing position registry with
  | nil => exact Nat.le_refl _
  | cons record rest ih =>
    obtain ⟨room, fits⟩ := List.forall_mem_cons.mp fits
    cases skipped : record.isSkipped with
    | true =>
      rw [ending_loadRecords_of_ok
        (ending_loadRecord_of_skipped clocks declared skipped position registry)]
      exact ih fits (position + 1) registry
    | false =>
      rcases ending_loadRecord clocks declared registry position record skipped room with
        ⟨_, _, _, next, _, _, _, levels, _, ended⟩ | ⟨_, _, ended⟩
      · rw [ending_loadRecords_of_ok ended]
        have others := ih fits (position + 1) next
        dsimp only
        omega
      · exact Nat.le_of_eq (by rw [ending_loadRecords_of_error ended])

/-- Records either store nothing, or store the first of them that is not skipped; that one is then
refused when they are loaded again. -/
theorem again_loadRecords (clocks : Group ClockDomain) (declared : UInt8) {records : List Record}
    (fits : ∀ record ∈ records, record.Fits) (position : Nat) (registry : Registry) :
    let first := ((loadRecords clocks declared position records).ending registry).2
    first = registry ∨
      registry.levels < first.levels ∧
      ∃ offset, records.findIdx? (fun record => !record.isSkipped) = some offset ∧
        (loadRecords clocks declared position records).ending first =
          (.error (.slot (.occupied (position + offset))), first) := by
  induction records generalizing position registry with
  | nil => exact .inl rfl
  | cons record rest ih =>
    intro first
    obtain ⟨room, fits⟩ := List.forall_mem_cons.mp fits
    cases skipped : record.isSkipped with
    | true =>
      -- A skipped record is passed over both times.
      have passed (registry : Registry) := ending_loadRecords_of_ok
        (ending_loadRecord_of_skipped clocks declared skipped position registry) rest
      have same : first = ((loadRecords clocks declared (position + 1) rest).ending registry).2 := by
        simp only [first, passed registry]
      rcases ih fits (position + 1) registry with nothing | ⟨more, offset, least, ended⟩
      · exact .inl (same.trans nothing)
      · rw [← same] at more ended
        refine .inr ⟨more, offset + 1, ?_, ?_⟩
        · simp [List.findIdx?_cons, skipped, least]
        · rw [passed, ended, Nat.add_right_comm]
          rfl
    | false =>
      rcases ending_loadRecord clocks declared registry position record skipped room with
        ⟨_, state, _, next, described, inserted, rfl, levels, _, ended⟩ | ⟨failure, _, ended⟩
      · have same : first = ((loadRecords clocks declared (position + 1) rest).ending next).2 := by
          simp only [first, ending_loadRecords_of_ok ended]
        have counted := levels_le_loadRecords clocks declared fits (position + 1) next
        rw [← same] at counted
        -- Whatever the other records do, the slot of the first stays taken.
        have held : first.states.get? position = some state := by
          rw [same]
          apply (extends_loadRecords clocks declared fits (position + 1) next).held
          rw [Group.get?_insert inserted, if_pos rfl]
        have refused : (loadRecord clocks declared position record).ending first =
            (.error (.slot (.occupied position)), first) := by
          rw [ending_loadRecord_of_describes declared skipped room described,
            store_of_refused (Group.insert_occupied held state)]
          rfl
        refine .inr ⟨by omega, 0, ?_, ?_⟩
        · simp [List.findIdx?_cons, skipped]
        · exact ending_loadRecords_of_error refused rest
      · exact .inl (congrArg Prod.snd (ending_loadRecords_of_error ended rest))

/-- Records that are all stored, the first in the slot `position`: `registry` becomes the last
registry. -/
inductive Stores (clocks : Group ClockDomain) :
    Nat → List Record → Registry → Registry → Prop where
  | nil {position : Nat} {registry : Registry} : Stores clocks position [] registry registry
  | skip {position : Nat} {record : Record} {rest : List Record} {registry last : Registry}
      (skipped : record.isSkipped = true) (others : Stores clocks (position + 1) rest registry last) :
      Stores clocks position (record :: rest) registry last
  | store {position : Nat} {record : Record} {rest : List Record} {state : Pstate}
      {registry next last : Registry} (kept : record.isSkipped = false)
      (described : record.Describes clocks state)
      (stored : registry.store position state = .ok next)
      (others : Stores clocks (position + 1) rest next last) :
      Stores clocks position (record :: rest) registry last

theorem Stores.ending_loadRecords (declared : UInt8) {records : List Record} {position : Nat}
    {registry last : Registry} (stores : Stores clocks position records registry last)
    (fits : ∀ record ∈ records, record.Fits) :
    (loadRecords clocks declared position records).ending registry = (.ok (Record.kept records), last) := by
  induction stores with
  | nil => rfl
  | skip skipped _ ih =>
    obtain ⟨_, fits⟩ := List.forall_mem_cons.mp fits
    rw [ending_loadRecords_of_ok (ending_loadRecord_of_skipped clocks declared skipped _ _),
      ih fits]
    simp [Record.kept, skipped, Except.map]
  | @store position record _ _ registry _ _ kept described stored _ ih =>
    obtain ⟨room, fits⟩ := List.forall_mem_cons.mp fits
    have first := ending_loadRecord_of_describes declared kept room described position registry
    rw [stored] at first
    rw [ending_loadRecords_of_ok first, ih fits]
    simp [Record.kept, kept, Except.map, Nat.add_comm]

theorem stores_of_loadRecords {declared : UInt8} {records : List Record} {position levels : Nat}
    {registry last : Registry} (fits : ∀ record ∈ records, record.Fits)
    (ended : (loadRecords clocks declared position records).ending registry = (.ok levels, last)) :
    Stores clocks position records registry last := by
  induction records generalizing position levels registry with
  | nil =>
    cases ended
    exact .nil
  | cons record rest ih =>
    obtain ⟨room, fits⟩ := List.forall_mem_cons.mp fits
    obtain ⟨one, next, more, first, others⟩ := loaded_of_cons ended
    cases skipped : record.isSkipped with
    | true =>
      cases first.symm.trans (ending_loadRecord_of_skipped clocks declared skipped position registry)
      exact .skip skipped (ih fits others)
    | false =>
      rcases ending_loadRecord clocks declared registry position record skipped room with
        ⟨_, state, _, _, described, _⟩ | ⟨_, _, refused⟩
      · have stored := ending_loadRecord_of_describes declared skipped room described position registry
        rw [first] at stored
        cases put : registry.store position state with
        | error failure =>
          rw [put] at stored
          cases stored
        | ok other =>
          rw [put] at stored
          cases stored
          exact .store skipped described put (ih fits others)
      · cases first.symm.trans refused

theorem Stores.store_last {records : List Record} {position slot : Nat} {state : Pstate}
    {registry next last : Registry} (stored : registry.store slot state = .ok next)
    (stores : Stores clocks position records next last) :
    ∃ between, Stores clocks position records registry between ∧
      between.store slot state = .ok last := by
  induction stores generalizing registry with
  | nil => exact ⟨registry, .nil, stored⟩
  | skip skipped _ ih =>
    obtain ⟨between, others, behind⟩ := ih stored
    exact ⟨between, .skip skipped others, behind⟩
  | store kept described put _ ih =>
    obtain ⟨first, there, then_⟩ := store_comm stored put
    obtain ⟨between, others, behind⟩ := ih then_
    exact ⟨between, .store kept described there others, behind⟩

/-- Records stored one list after the other can be stored the other way round. -/
theorem Stores.comm {other : Group ClockDomain} {records others : List Record}
    {position place : Nat} {registry middle last : Registry}
    (one : Stores clocks position records registry middle)
    (two : Stores other place others middle last) :
    ∃ between, Stores other place others registry between ∧
      Stores clocks position records between last := by
  induction one with
  | nil => exact ⟨last, two, .nil⟩
  | skip skipped _ ih =>
    obtain ⟨between, first, rest⟩ := ih two
    exact ⟨between, first, .skip skipped rest⟩
  | store kept described stored _ ih =>
    obtain ⟨between, first, rest⟩ := ih two
    obtain ⟨start, others, then_⟩ := first.store_last stored
    exact ⟨start, others, .store kept described then_ rest⟩

theorem stores_of_load {bytes : List UInt8} {levels : Nat} {registry last : Registry}
    (ended : (load clocks bytes).ending registry = (.ok levels, last)) :
    ∃ table, Table.parse bytes = .ok table ∧ registry.poisoned = false ∧
      levels = Record.kept table.records ∧ Stores clocks 0 table.records registry last := by
  rw [ending_load] at ended
  cases parsed : Table.parse bytes with
  | error cause =>
    rw [parsed] at ended
    cases ended
  | ok table =>
    simp only [parsed] at ended
    cases poisoned : registry.poisoned with
    | true =>
      rw [if_pos poisoned] at ended
      cases ended
    | false =>
      rw [if_neg (ne_true_of_eq_false poisoned)] at ended
      have fits := Table.fits_of_parse parsed
      have stores := stores_of_loadRecords fits ended
      have again := stores.ending_loadRecords table.header.clockCount fits
      rw [ended] at again
      cases again
      exact ⟨table, rfl, rfl, rfl, stores⟩

theorem Stores.poisoned_eq {records : List Record} {position : Nat} {registry last : Registry}
    (stores : Stores clocks position records registry last) :
    last.poisoned = registry.poisoned := by
  induction stores with
  | nil => rfl
  | skip _ _ ih => exact ih
  | store _ _ stored _ ih => exact ih.trans (states_of_store stored).2.2

theorem Stores.ending_load {bytes : List UInt8} {table : Table} {registry last : Registry}
    (parsed : Table.parse bytes = .ok table) (sound : registry.poisoned = false)
    (stores : Stores clocks 0 table.records registry last) :
    (load clocks bytes).ending registry = (.ok (Record.kept table.records), last) := by
  rw [Registry.ending_load, parsed]
  simp only [sound, Bool.false_eq_true, ↓reduceIte]
  exact stores.ending_loadRecords _ (Table.fits_of_parse parsed)

/-- Tables that are loaded one after the other can be loaded the other way round. -/
theorem load_comm {others : Group ClockDomain} {bytes more : List UInt8} {levels count : Nat}
    {registry middle last : Registry}
    (first : (load clocks bytes).ending registry = (.ok levels, middle))
    (second : (load others more).ending middle = (.ok count, last)) :
    ∃ between, (load others more).ending registry = (.ok count, between) ∧
      (load clocks bytes).ending between = (.ok levels, last) := by
  obtain ⟨table, parsed, sound, rfl, one⟩ := stores_of_load first
  obtain ⟨other, parsed', _, rfl, two⟩ := stores_of_load second
  obtain ⟨between, three, four⟩ := one.comm two
  have kept : between.poisoned = false := three.poisoned_eq.trans sound
  exact ⟨between, three.ending_load parsed' sound, four.ending_load parsed kept⟩

/-- Loading a table a second time changes nothing, whatever became of the first time. -/
theorem again_load (clocks : Group ClockDomain) (bytes : List UInt8) (registry : Registry) :
    let first := (load clocks bytes).ending registry
    first.2 = registry ∨
      registry.levels < first.2.levels ∧
      ∃ table position, Table.parse bytes = .ok table ∧
        table.records.findIdx? (fun record => !record.isSkipped) = some position ∧
        (load clocks bytes).ending first.2 = (.error (.slot (.occupied position)), first.2) := by
  intro first
  have ended : first = _ := ending_load clocks registry bytes
  cases parsed : Table.parse bytes with
  | error cause =>
    rw [parsed] at ended
    exact .inl (congrArg Prod.snd ended)
  | ok table =>
    simp only [parsed] at ended
    cases poisoned : registry.poisoned with
    | true =>
      rw [if_pos poisoned] at ended
      exact .inl (congrArg Prod.snd ended)
    | false =>
      rw [if_neg (ne_true_of_eq_false poisoned)] at ended
      have fits := Table.fits_of_parse parsed
      have same := poisoned_loadRecords clocks table.header.clockCount fits registry
      rw [← ended, poisoned] at same
      rcases again_loadRecords clocks table.header.clockCount fits 0 registry with nothing |
        ⟨more, offset, least, again⟩
      · exact .inl (ended ▸ nothing)
      · rw [← ended] at more again
        refine .inr ⟨more, table, offset, rfl, least, ?_⟩
        rw [ending_load, parsed]
        simp only [same, Bool.false_eq_true, ↓reduceIte]
        rw [again, Nat.zero_add]

/-- Loading tables into any registry again, and in another order. A table that is loaded twice
leaves what it left the first time; the second time it is refused for the first record that is not
skipped if the first time stored anything, and else it ends as it did before. Two tables that are
loaded one after the other are loaded the other way round as well, with the same numbers of
states and the same registry in the end. -/
theorem load_again_and_reordered (registry : Registry) :
    (∀ clocks bytes,
      let first := (load clocks bytes).run registry
      let second := (load clocks bytes).run first.state
      second.state = first.state ∧
      (first.state = registry ∧ second.value = first.value ∨
        registry.levels < first.state.levels ∧
        ∃ table position, Table.parse bytes = .ok table ∧
          table.records.findIdx? (fun record => !record.isSkipped) = some position ∧
          second.value = .error (.slot (.occupied position)))) ∧
    ∀ clocks bytes others more levels count,
      let first := (load clocks bytes).run registry
      let second := (load others more).run first.state
      first.value = .ok levels → second.value = .ok count →
      let swapped := (load others more).run registry
      let last := (load clocks bytes).run swapped.state
      swapped.value = .ok count ∧ last.value = .ok levels ∧ last.state = second.state := by
  constructor
  · intro clocks bytes first second
    rcases again_load clocks bytes registry with nothing | ⟨stored, table, position, rest⟩
    · change first.state = registry at nothing
      have same : second = first := congrArg (load clocks bytes).run nothing
      exact ⟨congrArg Outcome.state same, .inl ⟨nothing, congrArg Outcome.value same⟩⟩
    · obtain ⟨parsed, least, again⟩ := rest
      obtain ⟨value, state⟩ := Attempt.run_of_ending again
      exact ⟨state, .inr ⟨stored, table, position, parsed, least, value⟩⟩
  · intro clocks bytes others more levels count first second loaded also swapped last
    obtain ⟨between, three, four⟩ :=
      load_comm (Attempt.ending_of_value loaded) (Attempt.ending_of_value also)
    obtain ⟨value, state⟩ := Attempt.run_of_ending three
    change swapped.state = between at state
    rw [← state] at four
    exact ⟨value, Attempt.run_of_ending four⟩

/-- Two tables whose levels have different places, each with a skipped record where the other has
its level. -/
theorem load_again_and_reordered_of_interleaved :
    let clocks : Group ClockDomain := Group.empty 32
    let one : List UInt8 := [0x50, 10, 2, 3, 6, 0, 0, 0, 0, 0, 15, 0, 0xff, 0, 14, 0]
    let other : List UInt8 := [0x60, 10, 3, 2, 8, 0, 0, 0, 0, 0, 0xff, 0, 0, 3, 0, 9]
    let first := (load clocks one).run empty
    let second := (load clocks other).run first.state
    let swapped := (load clocks other).run empty
    let last := (load clocks one).run swapped.state
    first.value = .ok 2 ∧ second.value = .ok 1 ∧ swapped.value = .ok 1 ∧ last.value = .ok 2 ∧
      last.state = second.state ∧
      second.state.states.toList = [(0, ⟨0, [], 0⟩), (1, ⟨12, [], 9⟩), (2, ⟨1, [], 0⟩)] := by
  intro clocks one other first second swapped last
  have loaded : first.value = .ok 2 := eq_ok_of_toOption (by decide +kernel)
  have also : second.value = .ok 1 := eq_ok_of_toOption (by decide +kernel)
  obtain ⟨value, again, same⟩ :=
    (load_again_and_reordered empty).2 clocks one clocks other 2 1 loaded also
  have listed : second.state.states.toList =
      [(0, ⟨0, [], 0⟩), (1, ⟨12, [], 9⟩), (2, ⟨1, [], 0⟩)] := by decide +kernel
  exact ⟨loaded, also, value, again, same, listed⟩

end PerfStates.Registry
