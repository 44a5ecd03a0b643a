import PerfStates.Board.Group

namespace PerfStates.Group

variable {α : Type}

theorem toList_eq_filterMap (group : Group α) :
    group.toList = (List.range group.capacity).filterMap fun slot =>
      (group.get? slot).map (slot, ·) := by
  have places : group.slots.toList.zipIdx =
      (List.range group.capacity).map fun slot => (group.get? slot, slot) := by
    apply List.ext_getElem
    · simp [capacity]
    · intro slot first second
      have inside : slot < group.slots.size := by simpa using first
      simp [get?, inside]
  rw [toList, places, List.filterMap_map]
  rfl

theorem mem_toList {group : Group α} {slot : Nat} {object : α} :
    (slot, object) ∈ group.toList ↔ group.get? slot = some object := by
  simp only [toList, List.mem_filterMap, get?, Option.join_eq_some_iff]
  constructor
  · rintro ⟨⟨held, place⟩, member, same⟩
    obtain ⟨other, rfl, pair⟩ := Option.map_eq_some_iff.mp same
    cases pair
    rw [List.mem_zipIdx_iff_getElem?] at member
    simpa using member
  · intro held
    refine ⟨(some object, slot), ?_, rfl⟩
    rw [List.mem_zipIdx_iff_getElem?]
    simpa using held

theorem pairwise_toList (group : Group α) :
    group.toList.Pairwise fun first second => first.1 < second.1 := by
  unfold toList
  rw [List.pairwise_filterMap]
  have ordered : group.slots.toList.zipIdx.Pairwise fun first second => first.2 < second.2 := by
    have places : (group.slots.toList.zipIdx.map Prod.snd).Pairwise (· < ·) := by
      rw [List.zipIdx_map_snd]
      exact List.pairwise_lt_range'
    exact List.pairwise_map.mp places
  apply ordered.imp
  rintro ⟨_, first⟩ ⟨_, second⟩ below listed found other held
  obtain ⟨_, _, rfl⟩ := Option.map_eq_some_iff.mp found
  obtain ⟨_, _, rfl⟩ := Option.map_eq_some_iff.mp held
  exact below

/-- A scan finds an object exactly if it is wanted and no lower slot holds a wanted one. -/
theorem find?_toList_eq_some_iff (group : Group α) (wanted : α → Bool) {slot : Nat} {object : α} :
    group.toList.find? (fun entry => wanted entry.2) = some (slot, object) ↔
      group.get? slot = some object ∧ wanted object = true ∧
      ∀ earlier < slot, ∀ other, group.get? earlier = some other → wanted other = false := by
  have ordered := pairwise_toList group
  rw [List.find?_eq_some_iff_append]
  constructor
  · rintro ⟨found, before, after, split, unwanted⟩
    rw [split, List.pairwise_append, List.pairwise_cons] at ordered
    refine ⟨mem_toList.mp (by simp [split]), found, ?_⟩
    intro earlier below other held
    have member : (earlier, other) ∈ before ++ (slot, object) :: after :=
      split ▸ mem_toList.mpr held
    rcases List.mem_append.mp member with low | high
    · simpa using unwanted _ low
    · rcases List.mem_cons.mp high with same | behind
      · cases same
        exact absurd below (Nat.lt_irrefl _)
      · exact absurd (ordered.2.1.1 _ behind) (Nat.lt_asymm below)
  · rintro ⟨held, found, least⟩
    obtain ⟨before, after, split⟩ := List.append_of_mem (mem_toList.mpr held)
    rw [split, List.pairwise_append] at ordered
    refine ⟨found, before, after, split, ?_⟩
    rintro ⟨earlier, other⟩ member
    have below := ordered.2.2 _ member _ List.mem_cons_self
    have there : group.get? earlier = some other := mem_toList.mp (by simp [split, member])
    simpa using least earlier below other there

theorem find?_toList_eq_none_iff (group : Group α) (wanted : α → Bool) :
    group.toList.find? (fun entry => wanted entry.2) = none ↔
      ∀ slot object, group.get? slot = some object → wanted object = false := by
  rw [List.find?_eq_none]
  constructor
  · intro unwanted slot object held
    simpa using unwanted (slot, object) (mem_toList.mpr held)
  · rintro unwanted ⟨slot, object⟩ member
    simpa using unwanted slot object (mem_toList.mp member)

end PerfStates.Group
