import PerfStates.Proofs.Registry.Loading

namespace PerfStates.Registry

open Table (Record)

/-- What can happen to a registry. -/
inductive Operation
  | load (clocks : Group ClockDomain) (bytes : List UInt8)
  | insert (slot : Nat) (state : Pstate)
  | levelCount
  | snapshot
  | find (ordinal : Nat)
  | limits (ordinal : Nat) (clock : ClockId)
  /-- A holder of the lock fails. -/
  | poison

/-- What an operation gives back. -/
inductive Answer
  | loaded (levels : Nat)
  | inserted
  | levels (count : Nat)
  | entries (states : List (Nat × Pstate))
  | state (found : Option Pstate)
  | limits (found : Option ClockLimits)
  | poisoned

def perform : Operation → Registry → Except Failure Answer × Registry
  | .load clocks bytes, registry =>
    let (ended, next) := (Registry.load clocks bytes).ending registry
    (ended.map .loaded, next)
  | .insert slot state, registry =>
    match registry.insert slot state with
    | .ok next => (.ok .inserted, next)
    | .error failure => (.error failure, registry)
  | .levelCount, registry => (registry.levelCount.map .levels, registry)
  | .snapshot, registry => (registry.snapshot.map .entries, registry)
  | .find ordinal, registry => ((registry.find ordinal).map .state, registry)
  | .limits ordinal clock, registry => ((registry.limits ordinal clock).map .limits, registry)
  | .poison, registry => (.ok .poisoned, registry.poison)

/-- The registry after operations one after another, whatever they give back. -/
def performAll (operations : List Operation) (registry : Registry) : Registry :=
  operations.foldl (fun current operation => (perform operation current).2) registry

/-- How an operation fails once the lock is poisoned: a table is read before the lock is tried. -/
def Operation.refusal : Operation → Failure
  | .load _ bytes =>
    match Table.parse bytes with
    | .error cause => .malformedTable cause
    | .ok _ => .lockPoisoned
  | _ => .lockPoisoned

/-- `later` holds what `earlier` does, each state in its slot, and counted what it holds besides. -/
structure Extends (earlier later : Registry) : Prop where
  held : ∀ slot state, earlier.states.get? slot = some state → later.states.get? slot = some state
  counted : later.levels + earlier.states.occupied = earlier.levels + later.states.occupied
  consistent : earlier.states.Consistent → later.states.Consistent

theorem Extends.refl (registry : Registry) : Extends registry registry where
  held _ _ := id
  counted := rfl
  consistent := id

theorem Extends.trans {first second third : Registry} (onward : Extends first second)
    (further : Extends second third) : Extends first third where
  held slot state there := further.held slot state (onward.held slot state there)
  counted := by
    have before := onward.counted
    have after := further.counted
    omega
  consistent := further.consistent ∘ onward.consistent

theorem Extends.of_insert {earlier later : Registry} {slot : Nat} {state : Pstate}
    (stored : earlier.states.insert slot state = .ok later.states)
    (levels : later.levels = earlier.levels + 1) : Extends earlier later where
  held other present there := by
    have vacant := (Group.vacant_of_insert stored).2
    rw [Group.get?_insert stored, if_neg, there]
    rintro rfl
    cases vacant.symm.trans there
  counted := by
    rw [levels, Group.occupied_insert stored]
    omega
  consistent consistent := consistent.insert stored

theorem states_of_store {registry next : Registry} {slot : Nat} {state : Pstate}
    (stored : registry.store slot state = .ok next) :
    registry.states.insert slot state = .ok next.states ∧ next.levels = registry.levels + 1 ∧
      next.poisoned = registry.poisoned := by
  cases inserted : registry.states.insert slot state with
  | error cause => cases (store_of_refused inserted).symm.trans stored
  | ok states =>
    obtain ⟨other, again, rfl, levels, poisoned⟩ := store_of_inserted inserted
    obtain rfl := Except.ok.inj (again.symm.trans stored)
    exact ⟨rfl, levels, poisoned⟩

theorem store_of_insert {registry next : Registry} {slot : Nat} {state : Pstate}
    (inserted : registry.insert slot state = .ok next) :
    registry.lock = .ok () ∧ registry.store slot state = .ok next := by
  cases locked : registry.lock with
  | error failure =>
    rw [insert, locked] at inserted
    cases inserted
  | ok _ =>
    rw [insert, locked] at inserted
    exact ⟨rfl, inserted⟩

theorem extends_loadRecord (clocks : Group ClockDomain) (declared : UInt8) (registry : Registry)
    (position : Nat) {record : Record} (room : record.Fits) :
    Extends registry ((loadRecord clocks declared position record).ending registry).2 := by
  cases skipped : record.isSkipped with
  | true =>
    simp only [loadRecord, skipped, ↓reduceIte]
    exact .refl registry
  | false =>
    rcases ending_loadRecord clocks declared registry position record skipped room with
      ⟨_, _, _, next, _, inserted, rfl, levels, _, ended⟩ | ⟨_, _, ended⟩
    · rw [ended]
      exact .of_insert inserted levels
    · rw [ended]
      exact .refl registry

theorem extends_loadRecords (clocks : Group ClockDomain) (declared : UInt8) {records : List Record}
    (fits : ∀ record ∈ records, record.Fits) (position : Nat) (registry : Registry) :
    Extends registry ((loadRecords clocks declared position records).ending registry).2 := by
  induction records generalizing position registry with
  | nil => exact .refl registry
  | cons record rest ih =>
    obtain ⟨room, fits⟩ := List.forall_mem_cons.mp fits
    have first := extends_loadRecord clocks declared registry position room
    simp only [loadRecords, Attempt.ending_bind]
    rcases ended : (loadRecord clocks declared position record).ending registry with
      ⟨failure | stored, next⟩
    · rwa [ended] at first
    · rw [ended] at first
      have others := first.trans (ih fits (position + 1) next)
      dsimp only
      split <;> rename_i found <;> rwa [found] at others

theorem poisoned_loadRecords (clocks : Group ClockDomain) (declared : UInt8) {records : List Record}
    (fits : ∀ record ∈ records, record.Fits) (registry : Registry) :
    ((loadRecords clocks declared 0 records).ending registry).2.poisoned = registry.poisoned := by
  have loads := loads_loadRecords clocks declared registry records [] fits registry
    (.refl clocks registry)
  rcases ended : (loadRecords clocks declared 0 records).ending registry with ⟨value, later⟩
  rw [List.length_nil, ended] at loads
  cases loads with
  | all _ gains => exact gains.poisoned
  | upTo _ _ _ _ _ gains => exact gains.poisoned

/-- Whatever becomes of an operation, the registry loses nothing by it, and its lock stays as it is
unless a holder fails. -/
theorem extends_perform (operation : Operation) (registry : Registry) :
    let next := (perform operation registry).2
    Extends registry next ∧
      (next.poisoned = true ↔ registry.poisoned = true ∨ operation = .poison) := by
  intro next
  cases operation with
  | load clocks bytes =>
    have ended : next = ((Registry.load clocks bytes).ending registry).2 := rfl
    rw [ended, ending_load]
    cases parsed : Table.parse bytes with
    | error cause => exact ⟨.refl registry, by simp⟩
    | ok table =>
      have fits := Table.fits_of_parse parsed
      cases poisoned : registry.poisoned with
      | true => exact ⟨.refl registry, by simp [poisoned]⟩
      | false =>
        have same := poisoned_loadRecords clocks table.header.clockCount fits registry
        exact ⟨extends_loadRecords clocks table.header.clockCount fits 0 registry,
          by simp [same, poisoned]⟩
  | insert slot state =>
    cases inserted : registry.insert slot state with
    | error failure =>
      have same : next = registry := by simp only [next, perform, inserted]
      rw [same]
      exact ⟨.refl registry, by simp⟩
    | ok stored =>
      have same : next = stored := by simp only [next, perform, inserted]
      obtain ⟨put, levels, poisoned⟩ := states_of_store (store_of_insert inserted).2
      rw [same]
      exact ⟨.of_insert put levels, by simp [poisoned]⟩
  | levelCount => exact ⟨.refl registry, by simp [next, perform]⟩
  | snapshot => exact ⟨.refl registry, by simp [next, perform]⟩
  | find ordinal => exact ⟨.refl registry, by simp [next, perform]⟩
  | limits ordinal clock => exact ⟨.refl registry, by simp [next, perform]⟩
  | poison => exact ⟨⟨fun _ _ => id, rfl, id⟩, by simp [next, perform, poison]⟩

/-- Behind a poisoned lock nothing changes any more, and every operation is refused. -/
theorem perform_of_poisoned {registry : Registry} (poisoned : registry.poisoned = true)
    (operation : Operation) :
    (perform operation registry).2 = registry ∧
      (operation ≠ .poison → (perform operation registry).1 = .error operation.refusal) := by
  have locked : registry.lock = .error .lockPoisoned := if_pos poisoned
  cases operation with
  | load clocks bytes =>
    rw [perform, ending_load, Operation.refusal]
    cases Table.parse bytes with
    | error cause => exact ⟨rfl, fun _ => rfl⟩
    | ok table =>
      simp only [if_pos poisoned]
      exact ⟨trivial, fun _ => rfl⟩
  | insert slot state =>
    rw [perform, insert, locked]
    exact ⟨rfl, fun _ => rfl⟩
  | levelCount =>
    rw [perform, levelCount, locked]
    exact ⟨rfl, fun _ => rfl⟩
  | snapshot =>
    rw [perform, snapshot, locked]
    exact ⟨rfl, fun _ => rfl⟩
  | find ordinal =>
    rw [perform, find, locked]
    exact ⟨rfl, fun _ => rfl⟩
  | limits ordinal clock =>
    rw [perform, limits, locked]
    exact ⟨rfl, fun _ => rfl⟩
  | poison =>
    cases registry
    cases poisoned
    exact ⟨rfl, fun other => absurd rfl other⟩

theorem extends_performAll (operations : List Operation) (registry : Registry) :
    let last := performAll operations registry
    Extends registry last ∧
      (last.poisoned = true ↔ registry.poisoned = true ∨ .poison ∈ operations) := by
  induction operations generalizing registry with
  | nil => exact ⟨.refl registry, by simp [performAll]⟩
  | cons operation rest ih =>
    obtain ⟨first, poisoned⟩ := extends_perform operation registry
    obtain ⟨others, later⟩ := ih (perform operation registry).2
    refine ⟨first.trans others, later.trans ?_⟩
    rw [poisoned, List.mem_cons, or_assoc, eq_comm (a := operation)]

theorem performAll_of_poisoned {registry : Registry} (poisoned : registry.poisoned = true)
    (operations : List Operation) : performAll operations registry = registry := by
  induction operations with
  | nil => rfl
  | cons operation rest ih =>
    rw [performAll, List.foldl_cons, (perform_of_poisoned poisoned operation).1]
    exact ih

theorem levels_performAll (operations : List Operation) :
    let registry := performAll operations empty
    registry.states.Consistent ∧ registry.levels = registry.states.occupied := by
  intro registry
  have extended : Extends empty registry := (extends_performAll operations empty).1
  have counted := extended.counted
  have vacant : empty.states.occupied = 0 := Group.occupied_empty _
  have uncounted : empty.levels = 0 := rfl
  exact ⟨extended.consistent (Group.consistent_empty _), by omega⟩

/-- A state is put into a vacant slot behind a sound lock, and nowhere else. -/
theorem insert_eq_ok_iff (registry : Registry) (slot : Nat) (state : Pstate) :
    (perform (.insert slot state) registry).1 = .ok .inserted ↔
      registry.poisoned = false ∧ slot < 32 ∧ registry.states.get? slot = none := by
  have capacity : registry.states.capacity = 32 := registry.capacity_states
  constructor
  · intro answer
    cases inserted : registry.insert slot state with
    | error failure => simp [perform, inserted] at answer
    | ok next =>
      obtain ⟨locked, stored⟩ := store_of_insert inserted
      obtain ⟨inside, vacant⟩ := Group.vacant_of_insert (states_of_store stored).1
      refine ⟨?_, capacity ▸ inside, vacant⟩
      cases poisoned : registry.poisoned with
      | false => rfl
      | true => simp [lock, poisoned] at locked
  · rintro ⟨sound, inside, vacant⟩
    obtain ⟨next, stored, _⟩ :=
      store_of_inserted (Group.insert_vacant (capacity.symm ▸ inside) vacant state)
    simp [perform, insert, lock, sound, stored, bind, Except.bind]

theorem held_of_inserted {registry next : Registry} {slot : Nat} {state : Pstate}
    (answer : perform (.insert slot state) registry = (.ok .inserted, next)) :
    next.states.get? slot = some state ∧ next.levels = registry.levels + 1 ∧
      ∀ other, other ≠ slot → next.states.get? other = registry.states.get? other := by
  cases inserted : registry.insert slot state with
  | error failure => simp [perform, inserted] at answer
  | ok stored =>
    obtain rfl : stored = next := by simpa [perform, inserted] using answer
    obtain ⟨put, levels, _⟩ := states_of_store (store_of_insert inserted).2
    refine ⟨?_, levels, fun other different => ?_⟩
    · rw [Group.get?_insert put, if_pos rfl]
    · rw [Group.get?_insert put, if_neg different]

/-- A table that was loaded is counted, and its states are held at the positions of its records. -/
theorem gains_of_loaded {registry next : Registry} {clocks : Group ClockDomain}
    {bytes : List UInt8} {count : Nat}
    (answer : perform (.load clocks bytes) registry = (.ok (.loaded count), next)) :
    ∃ table, Table.parse bytes = .ok table ∧ count = Record.kept table.records ∧
      Gains clocks table.records registry next := by
  rcases ended : (Registry.load clocks bytes).ending registry with ⟨failure | levels, later⟩
  · simp [perform, ended, Except.map] at answer
  · obtain ⟨rfl, rfl⟩ : levels = count ∧ later = next := by
      simpa [perform, ended, Except.map] using answer
    obtain ⟨table, parsed, _, counted, gains⟩ := gains_of_load ended
    exact ⟨table, parsed, counted, gains⟩

/-- Any operations on a registry from its construction on, and any more behind them. The level
count is the number of occupied slots all along; a state that is put into a vacant slot, and every
state of a table that is loaded, is held there and counted; a state stays in its slot, whatever
fails later; and with the first failed holder of the lock everything stays as it is and is refused,
but for taking the registry down, which reports the states that were stored. -/
theorem performAll_grows {σ τ : Type} (state : σ) (operations later : List Operation) :
    let start := ((construct : Action Message σ Registry) state).value
    let earlier := performAll operations start
    let registry := performAll later earlier
    registry.states.capacity = 32 ∧ registry.levels = registry.states.occupied ∧
      registry.states.size = registry.levels ∧
      (∀ slot held, (perform (.insert slot held) registry).1 = .ok .inserted ↔
        registry.poisoned = false ∧ slot < 32 ∧ registry.states.get? slot = none) ∧
      (∀ slot held next, perform (.insert slot held) registry = (.ok .inserted, next) →
        next.states.get? slot = some held ∧ next.levels = registry.levels + 1 ∧
          ∀ other, other ≠ slot → next.states.get? other = registry.states.get? other) ∧
      (∀ clocks bytes count next,
        perform (.load clocks bytes) registry = (.ok (.loaded count), next) →
          ∃ table, Table.parse bytes = .ok table ∧ count = Record.kept table.records ∧
            Gains clocks table.records registry next) ∧
      (∀ slot held, earlier.states.get? slot = some held →
        registry.states.get? slot = some held) ∧
      (earlier.poisoned = true ↔ .poison ∈ operations) ∧
      (earlier.poisoned = true → registry = earlier ∧
        ∀ operation, operation ≠ .poison →
          (perform operation registry).1 = .error operation.refusal) ∧
      (registry.poisoned = false → registry.levelCount = .ok registry.states.occupied) ∧
      ∀ own : τ, registry.destroy own =
        ⟨(), own, [⟨.info, s!"pstate registry destroyed ({registry.states.occupied} levels)"⟩]⟩ := by
  intro start earlier registry
  have joined : registry = performAll (operations ++ later) empty := by
    rw [performAll, List.foldl_append]
    rfl
  obtain ⟨consistent, levels⟩ := joined ▸ levels_performAll (operations ++ later)
  refine ⟨registry.capacity_states, levels, ?_, insert_eq_ok_iff registry,
    fun _ _ _ => held_of_inserted, fun _ _ _ _ => gains_of_loaded, ?_, ?_, ?_, ?_, ?_⟩
  · rw [consistent.size_eq, levels]
  · exact (extends_performAll later earlier).1.held
  · exact (extends_performAll operations empty).2.trans (or_iff_right Bool.false_ne_true)
  · intro poisoned
    have frozen : registry = earlier := performAll_of_poisoned poisoned later
    rw [frozen]
    exact ⟨rfl, fun operation => (perform_of_poisoned poisoned operation).2⟩
  · intro sound
    rw [levelCount, lock, sound, levels]
    rfl
  · intro own
    rw [destroy, levels]
    rfl

/-- A state in slot 4 and one decoded into slot 1, then a holder of the lock that fails. What comes
behind is refused, and the two states are reported when the registry is taken down. -/
theorem performAll_grows_of_poisoned :
    let clocks : Group ClockDomain := Group.filled 32 [⟨"core", ⟨1⟩, .master⟩]
    let bytes : List UInt8 := [0x50, 10, 3, 2, 8, 1, 0, 0, 0, 0,
      0xff, 0, 0, 0, 0, 0, 0, 0, 0, 0, 0, 12, 0, 3, 0x2c, 0x01, 0, 0, 0x32, 0x00, 0x64, 0x00]
    let upper : Pstate := ⟨0, [⟨⟨1⟩, 700, 100, 800⟩], 2⟩
    let operations : List Operation :=
      [.insert 4 upper, .load clocks bytes, .insert 4 upper, .poison]
    let later : List Operation := [.insert 5 upper, .load clocks bytes, .find 0]
    let start := ((construct : Action Message Unit Registry) ()).value
    let registry := performAll later (performAll operations start)
    registry.states.get? 4 = some upper ∧
      registry.states.get? 1 = some ⟨3, [⟨⟨1⟩, 300, 50, 400⟩], 3⟩ ∧
      registry.states.get? 5 = none ∧ registry.levels = 2 ∧
      (perform (.find 0) registry).1 = .error .lockPoisoned ∧
      (perform (.load clocks bytes) registry).1 = .error .lockPoisoned ∧
      (perform (.load clocks [0x50]) registry).1 =
        .error (.malformedTable (.truncated 10 1)) ∧
      registry.destroy () = ⟨(), (), [⟨.info, "pstate registry destroyed (2 levels)"⟩]⟩ := by
  intro clocks bytes upper operations later start registry
  obtain ⟨_, levels, _, _, _, _, held, poisoned, frozen, _, destroyed⟩ :=
    performAll_grows (τ := Unit) () operations later
  have failed : (performAll operations start).poisoned = true := poisoned.mpr (by simp [operations])
  obtain ⟨same, refused⟩ := frozen failed
  have first : (performAll operations start).states.get? 4 = some upper := by decide +kernel
  have decoded : (performAll operations start).states.get? 1 =
      some ⟨3, [⟨⟨1⟩, 300, 50, 400⟩], 3⟩ := by decide +kernel
  have vacant : (performAll operations start).states.get? 5 = none := by decide +kernel
  have counted : (performAll operations start).levels = 2 := by decide +kernel
  rw [← same] at vacant counted
  refine ⟨held 4 upper first, held 1 _ decoded, vacant, counted, refused _ (by simp),
    refused _ (by simp), refused _ (by simp), ?_⟩
  rw [destroyed, ← levels, counted]
  rfl

end PerfStates.Registry
