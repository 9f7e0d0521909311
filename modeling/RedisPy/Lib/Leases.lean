import Mathlib.Data.List.Basic

/-!
# Leases

Something is acquired at a place, used, and released to the place it came from. The record of
such events is well behaved if every lease is released once, to its own place, and left alone
from then on.
-/

namespace Leases

variable {π υ : Type}

/-- What happens to a lease. -/
inductive LeaseEvent (π υ : Type) where
  /-- The lease begins. -/
  | acquired (lease : Nat) (place : π)
  /-- What was acquired is used. -/
  | used (lease : Nat) (usage : υ)
  /-- What was acquired is given to a place. -/
  | released (lease : Nat) (place : π)
deriving DecidableEq

namespace LeaseEvent

/-- The lease that an event is about. -/
def lease : LeaseEvent π υ → Nat
  | .acquired lease _ => lease
  | .used lease _ => lease
  | .released lease _ => lease

/-- The place that gets a lease back. -/
def returnedTo (lease : Nat) : LeaseEvent π υ → Option π
  | .released other place => if other = lease then some place else none
  | _ => none

end LeaseEvent

/-- The places that a lease was released to. -/
def releasesOf (lease : Nat) (events : List (LeaseEvent π υ)) : List π :=
  events.filterMap (LeaseEvent.returnedTo lease)

/-- Every lease is released once, to its own place, and left alone from then on. -/
structure OwnedOnce (events : List (LeaseEvent π υ)) : Prop where
  /-- One release, to the place of the lease. -/
  once : ∀ lease place, .acquired lease place ∈ events → releasesOf lease events = [place]
  /-- Nothing after the release. -/
  quiet : ∀ earlier lease place later, events = earlier ++ .released lease place :: later →
    ∀ event ∈ later, event.lease ≠ lease

/-- The leases of a record have smaller numbers. -/
def Below (bound : Nat) (events : List (LeaseEvent π υ)) : Prop :=
  ∀ event ∈ events, event.lease < bound

variable {events : List (LeaseEvent π υ)} {lease : Nat} {place : π}

/-- The releases of both parts. -/
theorem releasesOf_append (first second : List (LeaseEvent π υ)) :
    releasesOf lease (first ++ second) = releasesOf lease first ++ releasesOf lease second :=
  List.filterMap_append

/-- Events of other leases release nothing. -/
theorem releasesOf_other (others : ∀ event ∈ events, event.lease ≠ lease) :
    releasesOf lease events = [] := by
  refine List.filterMap_eq_nil_iff.mpr fun event member => ?_
  have other := others event member
  cases event with
  | released owner place => exact if_neg other
  | _ => rfl

/-- The record of one lease: it begins, is used, and ends at its place. -/
def episode (lease : Nat) (place : π) (usages : List υ) : List (LeaseEvent π υ) :=
  .acquired lease place :: usages.map (.used lease) ++ [.released lease place]

/-- An episode is about its lease. -/
theorem lease_of_episode {usages : List υ} {event : LeaseEvent π υ}
    (member : event ∈ episode lease place usages) : event.lease = lease := by
  unfold episode at member
  rcases List.mem_append.mp member with first | last
  · rcases List.mem_cons.mp first with rfl | middle
    · rfl
    · obtain ⟨usage, -, rfl⟩ := List.mem_map.mp middle
      rfl
  · rw [List.mem_singleton.mp last]
    rfl

/-- An episode has one release. -/
theorem releasesOf_episode (usages : List υ) :
    releasesOf lease (episode lease place usages) = [place] := by
  have used : releasesOf lease (usages.map (.used lease : υ → LeaseEvent π υ)) = [] := by
    refine List.filterMap_eq_nil_iff.mpr fun event member => ?_
    obtain ⟨usage, -, rfl⟩ := List.mem_map.mp member
    rfl
  have first : releasesOf lease
      (.acquired lease place :: usages.map (.used lease) : List (LeaseEvent π υ)) = [] := used
  have last : releasesOf lease [(.released lease place : LeaseEvent π υ)] = [place] := by
    simp [releasesOf, LeaseEvent.returnedTo]
  rw [episode, releasesOf_append, first, last, List.nil_append]

/-- The release of an episode is its last event. -/
theorem split_episode {usages : List υ} {earlier later : List (LeaseEvent π υ)} {owner : Nat}
    {target : π}
    (split : episode lease place usages = earlier ++ .released owner target :: later) :
    later = [] := by
  rcases List.eq_nil_or_concat later with none | ⟨init, last, same⟩
  · exact none
  · exfalso
    rw [List.concat_eq_append] at same
    rw [same, episode, ← List.cons_append, ← List.append_assoc] at split
    have front := (List.append_inj' split rfl).1
    have member : (.released owner target : LeaseEvent π υ) ∈
        (.acquired lease place :: usages.map (.used lease) : List (LeaseEvent π υ)) := by
      rw [front]
      exact List.mem_append_right _ List.mem_cons_self
    rcases List.mem_cons.mp member with first | middle
    · cases first
    · obtain ⟨usage, -, other⟩ := List.mem_map.mp middle
      cases other

/-- Nothing has happened. -/
theorem OwnedOnce.nil : OwnedOnce ([] : List (LeaseEvent π υ)) where
  once _ _ member := absurd member List.not_mem_nil
  quiet earlier lease place later split := by simp at split

/-- An episode of a new lease may follow. -/
theorem OwnedOnce.append_episode (owned : OwnedOnce events) (below : Below lease events)
    (usages : List υ) : OwnedOnce (events ++ episode lease place usages) where
  once other target member := by
    rw [releasesOf_append]
    rcases List.mem_append.mp member with early | late
    · have smaller : other < lease := below _ early
      have none : releasesOf other (episode lease place usages) = [] :=
        releasesOf_other fun event member => by
          rw [lease_of_episode member]
          omega
      rw [owned.once other target early, none, List.append_nil]
    · have same : other = lease := lease_of_episode late
      subst same
      have none : releasesOf other events = [] :=
        releasesOf_other fun event member => Nat.ne_of_lt (below event member)
      rw [none, releasesOf_episode, List.nil_append]
      unfold episode at late
      simp only [List.cons_append, List.mem_cons, List.mem_append, List.mem_map, reduceCtorEq,
        and_false, exists_false, List.not_mem_nil, or_false, LeaseEvent.acquired.injEq, true_and]
        at late
      rw [late]
  quiet earlier other target later split event member := by
    rcases List.append_eq_append_iff.mp split with ⟨middle, same, rest⟩ | ⟨middle, same, rest⟩
    · rw [split_episode rest] at member
      exact absurd member List.not_mem_nil
    · cases middle with
      | nil =>
        rw [List.nil_append] at rest
        rw [split_episode (rest.symm.trans (List.nil_append _).symm)] at member
        exact absurd member List.not_mem_nil
      | cons head middle =>
        rw [List.cons_append] at rest
        obtain ⟨rfl, rfl⟩ := List.cons_eq_cons.mp rest
        rcases List.mem_append.mp member with early | late
        · exact owned.quiet earlier other target middle same event early
        · have released : (.released other target : LeaseEvent π υ) ∈ events := by
            rw [same]
            exact List.mem_append_right _ List.mem_cons_self
          have smaller : other < lease := below _ released
          rw [lease_of_episode late]
          omega

/-- A lease that is touched after its release is not well behaved, whatever follows. -/
theorem not_ownedOnce_of_touched (released : .released lease place ∈ events)
    (event : LeaseEvent π υ) (touched : event.lease = lease) (later : List (LeaseEvent π υ)) :
    ¬OwnedOnce (events ++ event :: later) := by
  intro owned
  obtain ⟨earlier, rest, split⟩ := List.append_of_mem released
  have whole : events ++ event :: later =
      earlier ++ .released lease place :: (rest ++ event :: later) := by
    rw [split, List.append_assoc, List.cons_append]
  refine owned.quiet earlier lease place _ whole event ?_ touched
  exact List.mem_append_right _ List.mem_cons_self

/-- An episode of the next number. -/
theorem Below.append_episode (below : Below lease events) (usages : List υ) :
    Below (lease + 1) (events ++ episode lease place usages) := by
  intro event member
  rcases List.mem_append.mp member with early | late
  · have smaller := below event early
    omega
  · rw [lease_of_episode late]
    omega

end Leases
