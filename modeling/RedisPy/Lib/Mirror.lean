import Mathlib.Data.Set.Basic
import Mathlib.Data.Set.Insert
import Mathlib.Order.BooleanAlgebra.Set

/-!
# Mirrors of a set that a server holds

A client asks a server to hold names and to let them go, and the server confirms in the order of
the requests. The client keeps a name from the request on. It drops a name when a removal is
confirmed while the name is leaving, which ends when the name is asked for again. Once every
confirmation has arrived the client keeps what the server holds.
-/

namespace Mirror

variable {ν : Type}

/-- A client, its server and the confirmed removals that are on the way. -/
@[ext] structure State (ν : Type) where
  /-- What the client keeps. -/
  kept : Set ν
  /-- What it drops when the removal is confirmed. -/
  leaving : Set ν
  /-- What the server holds. -/
  held : Set ν
  /-- Confirmed removals that have not arrived. -/
  removals : List ν

/-- A removal arrives: a name that is leaving is dropped. -/
def State.arrive (s : State ν) (name : ν) (rest : List ν) : State ν :=
  let dropped := {n | n = name ∧ n ∈ s.leaving}
  { s with kept := s.kept \ dropped, leaving := s.leaving \ dropped, removals := rest }

/-- One step of the client and its server. -/
inductive Step (s : State ν) : State ν → Prop where
  /-- Nothing that matters here. -/
  | idle : Step s s
  /-- Some names are asked for. -/
  | add (names : Set ν) :
      Step s { s with
        kept := s.kept ∪ names, leaving := s.leaving \ names, held := s.held ∪ names }
  /-- Some names are to be let go; the removal of each is confirmed, or of one that is leaving
  already has been. -/
  | remove (names : Set ν) (removals : List ν)
      (confirmed : ∀ n ∈ names, n ∈ s.leaving ∨ n ∈ removals) :
      Step s { s with
        leaving := s.leaving ∪ names, held := s.held \ names, removals := s.removals ++ removals }
  /-- The next removal arrives. -/
  | arrive (name : ν) (rest : List ν) (next : s.removals = name :: rest) :
      Step s (s.arrive name rest)

/-- What every step preserves. -/
structure Sound (s : State ν) : Prop where
  /-- The client keeps what the server holds. -/
  held_kept : s.held ⊆ s.kept
  /-- What else it keeps is leaving. -/
  kept_leaving : s.kept ⊆ s.held ∪ s.leaving
  /-- Nothing that is held is leaving. -/
  apart : ∀ n ∈ s.leaving, n ∉ s.held
  /-- The removal of what is leaving is on the way. -/
  confirmed : ∀ n ∈ s.leaving, n ∈ s.removals

/-- A client without names is in step with a server that holds none. -/
theorem sound_empty (removals : List ν) :
    Sound { kept := ∅, leaving := ∅, held := ∅, removals } where
  held_kept := Set.Subset.rfl
  kept_leaving := Set.empty_subset _
  apart := fun _ member => member.elim
  confirmed := fun _ member => member.elim

/-- Asking for names. -/
theorem Sound.add {s : State ν} (sound : Sound s) (names : Set ν) :
    Sound { s with
      kept := s.kept ∪ names, leaving := s.leaving \ names, held := s.held ∪ names } where
  held_kept := Set.union_subset_union_left names sound.held_kept
  kept_leaving := by
    rintro n (kept | asked)
    · rcases sound.kept_leaving kept with held | leaving
      · exact .inl (.inl held)
      · by_cases asked : n ∈ names
        · exact .inl (.inr asked)
        · exact .inr ⟨leaving, asked⟩
    · exact .inl (.inr asked)
  apart := by
    rintro n ⟨leaving, unasked⟩ (held | asked)
    · exact sound.apart n leaving held
    · exact unasked asked
  confirmed := fun n member => sound.confirmed n member.1

/-- Letting names go. -/
theorem Sound.remove {s : State ν} (sound : Sound s) (names : Set ν) (removals : List ν)
    (confirmed : ∀ n ∈ names, n ∈ s.leaving ∨ n ∈ removals) :
    Sound { s with
      leaving := s.leaving ∪ names, held := s.held \ names, removals := s.removals ++ removals }
      where
  held_kept := fun n held => sound.held_kept held.1
  kept_leaving := by
    intro n kept
    rcases sound.kept_leaving kept with held | leaving
    · by_cases named : n ∈ names
      · exact .inr (.inr named)
      · exact .inl ⟨held, named⟩
    · exact .inr (.inl leaving)
  apart := by
    rintro n (leaving | named) ⟨held, other⟩
    · exact sound.apart n leaving held
    · exact other named
  confirmed := by
    rintro n (leaving | named)
    · exact List.mem_append_left removals (sound.confirmed n leaving)
    · rcases confirmed n named with leaving | new
      · exact List.mem_append_left removals (sound.confirmed n leaving)
      · exact List.mem_append_right s.removals new

/-- A removal arrives. -/
theorem Sound.arrive {s : State ν} (sound : Sound s) {name : ν} {rest : List ν}
    (next : s.removals = name :: rest) : Sound (s.arrive name rest) where
  held_kept := by
    rintro n held
    refine ⟨sound.held_kept held, ?_⟩
    rintro ⟨-, leaving⟩
    exact sound.apart n leaving held
  kept_leaving := by
    rintro n ⟨kept, stays⟩
    exact (sound.kept_leaving kept).imp id fun leaving => ⟨leaving, stays⟩
  apart := fun n member => sound.apart n member.1
  confirmed := by
    rintro n ⟨leaving, stays⟩
    have listed := sound.confirmed n leaving
    rw [next] at listed
    rcases List.mem_cons.mp listed with same | later
    · exact absurd ⟨same, leaving⟩ stays
    · exact later

/-- Every step keeps client and server in step. -/
theorem Sound.step {s t : State ν} (sound : Sound s) (step : Step s t) : Sound t := by
  cases step with
  | idle => exact sound
  | add names => exact sound.add names
  | remove names removals confirmed => exact sound.remove names removals confirmed
  | arrive name rest next => exact sound.arrive next

/-- The server holds what the client keeps and does not let go. -/
theorem Sound.held_eq {s : State ν} (sound : Sound s) : s.held = s.kept \ s.leaving := by
  apply Set.Subset.antisymm
  · exact fun n held => ⟨sound.held_kept held, fun leaving => sound.apart n leaving held⟩
  · rintro n ⟨kept, stays⟩
    exact (sound.kept_leaving kept).resolve_right stays

/-- Once all confirmations have arrived, nothing is leaving. -/
theorem Sound.leaving_settled {s : State ν} (sound : Sound s) (settled : s.removals = []) :
    s.leaving = ∅ := by
  apply Set.eq_empty_of_forall_notMem
  intro n leaving
  have listed := sound.confirmed n leaving
  rw [settled] at listed
  cases listed

/-- Once all confirmations have arrived, the client keeps what the server holds. -/
theorem Sound.kept_settled {s : State ν} (sound : Sound s) (settled : s.removals = []) :
    s.kept = s.held := by
  rw [sound.held_eq, sound.leaving_settled settled, Set.sdiff_empty]

end Mirror
