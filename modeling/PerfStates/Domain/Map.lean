import PerfStates.Domain

namespace PerfStates

/-- At most one value for each domain. -/
structure DomainMap (α : Type) where
  cells : Vector (Option α) 21
deriving Repr

namespace DomainMap

variable {α : Type}

def empty : DomainMap α := ⟨Vector.replicate 21 none⟩

def get? (map : DomainMap α) (domain : Domain) : Option α := map.cells[domain.rank]

/-- Give `domain` the value, in place of any earlier one. -/
def insert (map : DomainMap α) (domain : Domain) (value : α) : DomainMap α :=
  ⟨map.cells.set domain.rank (some value)⟩

def erase (map : DomainMap α) (domain : Domain) : DomainMap α :=
  ⟨map.cells.set domain.rank none⟩

def contains (map : DomainMap α) (domain : Domain) : Bool := (map.get? domain).isSome

/-- The domains that have a value, in domain order. -/
def keys (map : DomainMap α) : List Domain := Domain.all.filter map.contains

/-- The values with their domains, in domain order. -/
def toList (map : DomainMap α) : List (Domain × α) :=
  Domain.all.filterMap fun domain => (map.get? domain).map (domain, ·)

@[simp] theorem get?_empty (domain : Domain) : (empty : DomainMap α).get? domain = none := by
  simp [get?, empty]

@[simp] theorem get?_insert_self (map : DomainMap α) (domain : Domain) (value : α) :
    (map.insert domain value).get? domain = some value := by
  simp [get?, insert]

theorem get?_insert_of_ne (map : DomainMap α) {domain other : Domain} (value : α)
    (different : domain ≠ other) : (map.insert domain value).get? other = map.get? other := by
  have ranks : (domain.rank : Nat) ≠ other.rank := fun same =>
    different (Domain.rank_injective (Fin.ext same))
  simp [get?, insert, Vector.getElem_set_ne, ranks]

theorem insert_eq_self {map : DomainMap α} {domain : Domain} {value : α}
    (found : map.get? domain = some value) : map.insert domain value = map := by
  have cells : map.cells.set domain.rank (some value) = map.cells := by
    rw [← found]
    exact Vector.set_getElem_self _
  simp only [insert, cells]

end DomainMap

end PerfStates
