import PerfStates.Proofs.Registry.Lookup
import PerfStates.Proofs.Registry.Runs

namespace PerfStates

namespace Pstate

/-- The first limits that a state lists for a clock, and their place in its list. -/
structure FirstFor (state : Pstate) (clock : ClockId) (place : Nat) (limits : ClockLimits) :
    Prop where
  listed : state.clocks[place]? = some limits
  same : limits.clock = clock
  least : ∀ earlier < place, ∀ other, state.clocks[earlier]? = some other → other.clock ≠ clock

theorem limits?_eq_some_iff (state : Pstate) (clock : ClockId) (limits : ClockLimits) :
    state.limits? clock = some limits ↔ ∃ place, state.FirstFor clock place limits := by
  rw [limits?, List.find?_eq_some_iff_getElem]
  constructor
  · rintro ⟨same, place, inside, listed, unwanted⟩
    refine ⟨place, List.getElem?_eq_some_iff.mpr ⟨inside, listed⟩, of_decide_eq_true same, ?_⟩
    intro earlier below other there
    obtain ⟨_, rfl⟩ := List.getElem?_eq_some_iff.mp there
    simpa using unwanted earlier below
  · rintro ⟨place, listed, same, least⟩
    obtain ⟨inside, found⟩ := List.getElem?_eq_some_iff.mp listed
    refine ⟨decide_eq_true same, place, inside, found, fun earlier below => ?_⟩
    have present := List.getElem?_eq_getElem (Nat.lt_trans below inside)
    simpa using least earlier below _ present

theorem limits?_eq_none_iff (state : Pstate) (clock : ClockId) :
    state.limits? clock = none ↔ ∀ limits ∈ state.clocks, limits.clock ≠ clock := by
  simp [limits?]

end Pstate

namespace Registry

variable {registry : Registry}

theorem find_eq_some_iff (sound : registry.poisoned = false) (ordinal : Nat) (state : Pstate) :
    registry.find ordinal = .ok (some state) ↔ ∃ slot, registry.Lowest ordinal slot state := by
  rw [find_of_sound sound, Except.ok.injEq, lowest?_eq_some_iff]

theorem find_eq_none_iff (sound : registry.poisoned = false) (ordinal : Nat) :
    registry.find ordinal = .ok none ↔
      ∀ slot state, registry.states.get? slot = some state → state.ordinal ≠ ordinal := by
  rw [find_of_sound sound, Except.ok.injEq, lowest?_eq_none_iff]

theorem limits_eq_some_iff (sound : registry.poisoned = false) (ordinal : Nat) (clock : ClockId)
    (limits : ClockLimits) :
    registry.limits ordinal clock = .ok (some limits) ↔
      ∃ slot state place, registry.Lowest ordinal slot state ∧
        state.FirstFor clock place limits := by
  rw [limits_of_sound sound, Except.ok.injEq, Option.bind_eq_some_iff]
  simp only [lowest?_eq_some_iff, Pstate.limits?_eq_some_iff]
  constructor
  · rintro ⟨state, ⟨slot, lowest⟩, place, first⟩
    exact ⟨slot, state, place, lowest, first⟩
  · rintro ⟨slot, state, place, lowest, first⟩
    exact ⟨state, ⟨slot, lowest⟩, place, first⟩

theorem limits_eq_none_iff (sound : registry.poisoned = false) (ordinal : Nat) (clock : ClockId) :
    registry.limits ordinal clock = .ok none ↔
      ∀ slot state, registry.Lowest ordinal slot state →
        ∀ limits ∈ state.clocks, limits.clock ≠ clock := by
  rw [limits_of_sound sound, Except.ok.injEq, Option.bind_eq_none_iff]
  simp only [lowest?_eq_some_iff, Pstate.limits?_eq_none_iff]
  constructor
  · intro silent slot state lowest
    exact silent state ⟨slot, lowest⟩
  · rintro silent state ⟨slot, lowest⟩
    exact silent slot state lowest

/-- The limits of a clock are those that the state found for the ordinal lists. -/
theorem limits_eq_map_find (registry : Registry) (ordinal : Nat) (clock : ClockId) :
    registry.limits ordinal clock =
      (registry.find ordinal).map fun found => found.bind fun state => state.limits? clock := by
  rw [limits, find]
  cases registry.lock <;> rfl

/-- Any operations on a registry from its construction on, as long as no holder of its lock fails.
Its states are listed with their slots in increasing order. An ordinal is answered by the lowest
slot with a state of that ordinal, which is the first in the list; so are the limits of a clock,
which are the first that this one state lists, or none. -/
theorem performAll_answers_lowest {σ : Type} (start : σ) (operations : List Operation)
    (sound : .poison ∉ operations) :
    let registry := performAll operations ((construct : Action Message σ Registry) start).value
    ∃ entries, registry.snapshot = .ok entries ∧
      (entries.Pairwise fun first second => first.1 < second.1) ∧
      (∀ slot state, (slot, state) ∈ entries ↔ registry.states.get? slot = some state) ∧
      ∀ ordinal,
        (∀ state, registry.find ordinal = .ok (some state) ↔
          ∃ slot, registry.Lowest ordinal slot state) ∧
        (registry.find ordinal = .ok none ↔
          ∀ slot state, registry.states.get? slot = some state → state.ordinal ≠ ordinal) ∧
        registry.find ordinal =
          .ok ((entries.find? fun entry => entry.2.ordinal = ordinal).map Prod.snd) ∧
        ∀ clock,
          registry.limits ordinal clock = (registry.find ordinal).map (fun found =>
            found.bind fun state => state.limits? clock) ∧
          (∀ limits, registry.limits ordinal clock = .ok (some limits) ↔
            ∃ slot state place, registry.Lowest ordinal slot state ∧
              state.FirstFor clock place limits) ∧
          (registry.limits ordinal clock = .ok none ↔
            ∀ slot state, registry.Lowest ordinal slot state →
              ∀ limits ∈ state.clocks, limits.clock ≠ clock) := by
  intro registry
  have whole : registry.poisoned = false := by
    rw [← Bool.not_eq_true]
    intro poisoned
    rcases (extends_performAll operations empty).2.mp poisoned with already | failed
    · cases already
    · exact sound failed
  have listed : registry.snapshot = .ok registry.states.toList := by
    rw [snapshot, lock, whole]
    rfl
  refine ⟨registry.states.toList, listed, Group.pairwise_toList _, fun _ _ => Group.mem_toList,
    fun ordinal => ⟨find_eq_some_iff whole ordinal, find_eq_none_iff whole ordinal, ?_,
      fun clock => ⟨limits_eq_map_find registry ordinal clock, limits_eq_some_iff whole ordinal clock,
        limits_eq_none_iff whole ordinal clock⟩⟩⟩
  rw [find_of_sound whole, lowest?_eq_map]

/-- The state in slot 4 has the limits asked for, and that in slot 2 the same ordinal but not the
clock: there are no limits. -/
theorem performAll_answers_lowest_of_shadowed :
    let clocks : Group ClockDomain := Group.filled 32 [⟨"core", ⟨1⟩, .master⟩]
    let bytes : List UInt8 := [0x50, 10, 3, 2, 8, 1, 0, 0, 0, 0,
      0xff, 0, 0, 0, 0, 0, 0, 0, 0, 0, 0, 12, 0, 3, 0x2c, 0x01, 0, 0, 0x32, 0x00, 0x64, 0x00]
    let lower : Pstate := ⟨0, [⟨⟨2⟩, 800, 200, 900⟩], 1⟩
    let upper : Pstate := ⟨0, [⟨⟨1⟩, 700, 100, 800⟩], 2⟩
    let operations : List Operation := [.insert 4 upper, .load clocks bytes, .insert 2 lower]
    let registry := performAll operations ((construct : Action Message Unit Registry) ()).value
    .poison ∉ operations ∧ registry.states.get? 4 = some upper ∧
      upper.limits? ⟨1⟩ = some ⟨⟨1⟩, 700, 100, 800⟩ ∧
      registry.find 0 = .ok (some lower) ∧ registry.limits 0 ⟨1⟩ = .ok none ∧
      registry.find 3 = .ok (some ⟨3, [⟨⟨1⟩, 300, 50, 400⟩], 3⟩) := by
  intro clocks bytes lower upper operations registry
  have sound : .poison ∉ operations := by simp [operations]
  have skipped : registry.states.get? 0 = none := by decide +kernel
  have decoded : registry.states.get? 1 = some ⟨3, [⟨⟨1⟩, 300, 50, 400⟩], 3⟩ := by decide +kernel
  have shadowing : registry.states.get? 2 = some lower := by decide +kernel
  have shadowed : registry.states.get? 4 = some upper := by decide +kernel
  have lowest : registry.Lowest 0 2 lower := by
    refine ⟨shadowing, rfl, fun earlier below other there => ?_⟩
    obtain rfl | rfl : earlier = 0 ∨ earlier = 1 := by omega
    · cases skipped.symm.trans there
    · cases decoded.symm.trans there
      decide
  have alone : registry.Lowest 3 1 ⟨3, [⟨⟨1⟩, 300, 50, 400⟩], 3⟩ := by
    refine ⟨decoded, rfl, fun earlier below other there => ?_⟩
    obtain rfl : earlier = 0 := Nat.lt_one_iff.mp below
    cases skipped.symm.trans there
  obtain ⟨_, _, _, _, answers⟩ := performAll_answers_lowest () operations sound
  obtain ⟨found, _, _, limits⟩ := answers 0
  have answer : registry.find 0 = .ok (some lower) := (found lower).mpr ⟨2, lowest⟩
  refine ⟨sound, shadowed, rfl, answer, ?_, ((answers 3).1 _).mpr ⟨1, alone⟩⟩
  exact (limits ⟨1⟩).1.trans (congrArg _ answer)

end Registry

end PerfStates
