import Mathlib.Data.Set.Function

/-!
# Optimistic transactions

A transaction reads a store piece by piece, while others change it, and takes effect in one step at its
end. As long as nothing that it has read was changed, what is left of it does in the store, and in every
store that agrees where it has read, what the whole transaction does there. If that still holds in the
last step, the transaction could have run there from its start.
-/

namespace Optimistic

variable {K V B : Type}

/-- In every store that agrees with this one on the watched keys, what is left of a transaction does what
the whole transaction does. -/
def Stands (whole rest : (K → V) → B) (watched : Set K) (store : K → V) : Prop :=
  ∀ other, Set.EqOn other store watched → rest other = whole other

variable {whole rest next : (K → V) → B} {watched more : Set K} {store after : K → V}

/-- Before its first step all of a transaction is left. -/
theorem stands_whole : Stands whole whole watched store := fun _ _ => rfl

/-- The rest of a transaction does in the present store what the whole does. -/
theorem Stands.here (stands : Stands whole rest watched store) : rest store = whole store :=
  stands store fun _ _ => rfl

/-- More keys may be watched. -/
theorem Stands.mono (stands : Stands whole rest watched store) (sub : watched ⊆ more) :
    Stands whole rest more store :=
  fun other agrees => stands other (agrees.mono sub)

/-- A step that is the same in every store that agrees on the watched keys. -/
theorem Stands.step (stands : Stands whole rest watched store)
    (same : ∀ other, Set.EqOn other store watched → rest other = next other) :
    Stands whole next watched store := by
  intro other agrees
  rw [← same other agrees]
  exact stands other agrees

/-- A change of keys that are not watched. -/
theorem Stands.moved (stands : Stands whole rest watched store) (agrees : Set.EqOn after store watched) :
    Stands whole rest watched after :=
  fun other same => stands other (same.trans agrees)

end Optimistic
