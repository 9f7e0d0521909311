import Mathlib.Logic.Function.Basic
import Mathlib.Data.List.Nodup

/-!
# Places of tasks

Tasks that run concurrently are each at a place of their code. The places say who is inside a
lock, who owns what, who stands in a queue and who has taken what from a stock, and the locks,
queues and stocks that are kept beside the places agree with them, whatever a task does next.
-/

namespace Places

variable {T P R : Type} [DecidableEq T] {places : T → P} {t : T} {p : P}

/-! ## Locks -/

/-- The task that a lock belongs to is the one at a place inside. -/
def Guards (inside : P → Bool) (places : T → P) (lock : Option T) : Prop :=
  ∀ t, lock = some t ↔ inside (places t) = true

/-- A lock after a task has gone to a place. -/
def relock (inside : P → Bool) (t : T) (p : P) (lock : Option T) : Option T :=
  if inside p then some t else if lock = some t then none else lock

variable {inside : P → Bool} {lock : Option T}

/-- A task may go inside if the lock is free or its own. -/
theorem Guards.move (guards : Guards inside places lock)
    (allowed : inside p = true → lock = none ∨ lock = some t) :
    Guards inside (Function.update places t p) (relock inside t p lock) := by
  intro other
  unfold relock
  by_cases same : other = t
  · subst same
    rw [Function.update_self]
    by_cases enters : inside p = true
    · simp [enters]
    · by_cases own : lock = some other
      · simp [enters, own]
      · simp [enters, own]
  · rw [Function.update_of_ne same]
    by_cases enters : inside p = true
    · rw [if_pos enters, ← guards other]
      have elsewhere : lock ≠ some other := by
        rcases allowed enters with free | own
        · simp [free]
        · rw [own]
          intro clash
          exact same (Option.some.inj clash).symm
      constructor
      · intro clash
        exact absurd (Option.some.inj clash).symm same
      · intro clash
        exact absurd clash elsewhere
    · rw [if_neg enters, ← guards other]
      by_cases own : lock = some t
      · rw [if_pos own, own]
        constructor
        · intro clash
          cases clash
        · intro clash
          exact absurd (Option.some.inj clash).symm same
      · rw [if_neg own]

/-- A task outside that stays outside does not touch the lock. -/
theorem relock_outside (guards : Guards inside places lock) (was : inside (places t) = false)
    (now : inside p = false) : relock inside t p lock = lock := by
  have other : lock ≠ some t := by
    intro own
    rw [(guards t).mp own] at was
    cases was
  simp [relock, now, other]

/-- A task that leaves frees the lock. -/
theorem relock_leaves (guards : Guards inside places lock) (was : inside (places t) = true)
    (now : inside p = false) : relock inside t p lock = none := by
  have own : lock = some t := (guards t).mpr was
  simp [relock, now, own]

/-! ## Owners -/

/-- No two tasks own the same thing. -/
def Alone (owns : P → Option R) (places : T → P) : Prop :=
  ∀ s t r, owns (places s) = some r → owns (places t) = some r → s = t

/-- Nobody else owns a thing. -/
def FreeFor (owns : P → Option R) (places : T → P) (t : T) (r : R) : Prop :=
  ∀ s, owns (places s) = some r → s = t

variable {owns : P → Option R}

/-- A task may own what nobody else owns. -/
theorem Alone.move (alone : Alone owns places)
    (free : ∀ r, owns p = some r → FreeFor owns places t r) :
    Alone owns (Function.update places t p) := by
  intro first second r one two
  by_cases here : first = t
  · by_cases there : second = t
    · rw [here, there]
    · rw [here, Function.update_self] at one
      rw [Function.update_of_ne there] at two
      exact absurd (free r one second two) there
  · rw [Function.update_of_ne here] at one
    by_cases there : second = t
    · rw [there, Function.update_self] at two
      exact absurd (free r two first one) here
    · rw [Function.update_of_ne there] at two
      exact alone first second r one two

omit [DecidableEq T] in
/-- What a task owns is free for it. -/
theorem Alone.freeFor (alone : Alone owns places) {r : R} (own : owns (places t) = some r) :
    FreeFor owns places t r :=
  fun s other => alone s t r other own

/-! ## Queues -/

/-- A queue has the tasks that wait, once each. -/
structure Lines (waits : P → Bool) (places : T → P) (queue : List T) : Prop where
  /-- Nobody stands twice in a queue. -/
  nodup : queue.Nodup
  /-- Those who wait stand in it. -/
  mem : ∀ t, t ∈ queue ↔ waits (places t) = true

variable {waits : P → Bool} {queue : List T}

/-- A task that neither joins nor leaves. -/
theorem Lines.move (lines : Lines waits places queue) (same : waits p = waits (places t)) :
    Lines waits (Function.update places t p) queue where
  nodup := lines.nodup
  mem other := by
    rw [lines.mem]
    by_cases here : other = t
    · rw [here, Function.update_self, same]
    · rw [Function.update_of_ne here]

/-- A task joins at the end. -/
theorem Lines.join (lines : Lines waits places queue) (was : waits (places t) = false)
    (now : waits p = true) : Lines waits (Function.update places t p) (queue ++ [t]) where
  nodup := by
    have new : t ∉ queue := by
      intro member
      rw [(lines.mem t).mp member] at was
      cases was
    exact List.nodup_append.mpr ⟨lines.nodup, List.nodup_singleton t, fun a old b one same => by
      rw [List.mem_singleton.mp one] at same
      rw [same] at old
      exact new old⟩
  mem other := by
    rw [List.mem_append, List.mem_singleton, lines.mem]
    by_cases here : other = t
    · simp [here, now]
    · simp [here]

/-- A task leaves. -/
theorem Lines.leave (lines : Lines waits places queue) (now : waits p = false) :
    Lines waits (Function.update places t p) (queue.erase t) where
  nodup := lines.nodup.erase t
  mem other := by
    rw [lines.nodup.mem_erase_iff, lines.mem]
    by_cases here : other = t
    · simp [here, now]
    · simp [here]

/-- The first task leaves. -/
theorem Lines.next (lines : Lines waits places (t :: queue)) (now : waits p = false) :
    Lines waits (Function.update places t p) queue := by
  have left := lines.leave (t := t) now
  rwa [List.erase_cons_head] at left

omit [DecidableEq T] in
/-- A queue that everybody left has nobody. -/
theorem Lines.eq_nil (lines : Lines waits places queue) (none : ∀ t, waits (places t) = false) :
    queue = [] := by
  refine List.eq_nil_iff_forall_not_mem.mpr fun t member => ?_
  have waiting := (lines.mem t).mp member
  rw [none t] at waiting
  cases waiting

/-! ## Stocks -/

/-- Everything there is lies in the stock or is with one task, and it is there once. -/
structure Conserves (holds : P → List R) (places : T → P) (stock all : List R) : Prop where
  /-- Nothing lies in the stock twice. -/
  distinct : stock.Nodup
  /-- Nothing is with a task twice, or in the stock as well. -/
  nodup : ∀ t, (stock ++ holds (places t)).Nodup
  /-- Nothing is with two tasks. -/
  alone : ∀ s t r, r ∈ holds (places s) → r ∈ holds (places t) → s = t
  /-- Nothing is missing, and nothing else is there. -/
  mem : ∀ r, r ∈ all ↔ r ∈ stock ∨ ∃ t, r ∈ holds (places t)

variable {holds : P → List R} {stock all : List R}

/-- In a move of `t` to the place `p`, what it has afterwards, together with the new stock, is what
it had before, together with the old stock and some new things. -/
structure Exchanges (holds : P → List R) (places : T → P) (stock all : List R) (t : T) (p : P)
    (rest extra : List R) : Prop where
  /-- Nothing else comes or goes. -/
  same : (rest ++ holds p).Perm (stock ++ holds (places t) ++ extra)
  /-- The new things are distinct. -/
  distinct : extra.Nodup
  /-- They were not there before. -/
  unknown : ∀ r ∈ extra, r ∉ all

namespace Exchanges

variable {rest extra : List R} (exchanges : Exchanges holds places stock all t p rest extra)
include exchanges

omit [DecidableEq T] in
/-- Where the things of the new stock and of the task that moves come from. -/
theorem mem_iff (r : R) :
    r ∈ rest ∨ r ∈ holds p ↔ (r ∈ stock ∨ r ∈ holds (places t)) ∨ r ∈ extra := by
  have members := exchanges.same.mem_iff (a := r)
  simpa [or_assoc] using members

variable (conserves : Conserves holds places stock all)
include conserves

omit [DecidableEq T] in
/-- Nothing is doubled. -/
theorem nodup : (rest ++ holds p).Nodup := by
  apply exchanges.same.nodup_iff.mpr
  refine List.nodup_append.mpr
    ⟨conserves.nodup t, exchanges.distinct, fun r old other fresh same => ?_⟩
  rw [← same] at fresh
  apply exchanges.unknown r fresh
  rcases List.mem_append.mp old with free | own
  · exact (conserves.mem r).mpr (.inl free)
  · exact (conserves.mem r).mpr (.inr ⟨t, own⟩)

omit [DecidableEq T] in
/-- What another task holds is neither in the new stock nor with the task that moves. -/
theorem elsewhere {u : T} {r : R} (other : u ≠ t) (member : r ∈ holds (places u)) :
    r ∉ rest ∧ r ∉ holds p := by
  have free : r ∉ stock := fun free =>
    (List.nodup_append.mp (conserves.nodup u)).2.2 r free r member rfl
  have own : r ∉ holds (places t) := fun own => other (conserves.alone u t r member own)
  have old : r ∉ extra := fun fresh =>
    exchanges.unknown r fresh ((conserves.mem r).mpr (.inr ⟨u, member⟩))
  have none : ¬(r ∈ rest ∨ r ∈ holds p) := by
    rw [exchanges.mem_iff]
    tauto
  exact ⟨fun free => none (.inl free), fun own => none (.inr own)⟩

/-- Nothing gets to two tasks. -/
theorem alone {u v : T} {r : R} (one : r ∈ holds (Function.update places t p u))
    (two : r ∈ holds (Function.update places t p v)) : u = v := by
  by_cases here : u = t
  · by_cases there : v = t
    · rw [here, there]
    · rw [here, Function.update_self] at one
      rw [Function.update_of_ne there] at two
      exact absurd one (exchanges.elsewhere conserves there two).2
  · rw [Function.update_of_ne here] at one
    by_cases there : v = t
    · rw [there, Function.update_self] at two
      exact absurd two (exchanges.elsewhere conserves here one).2
    · rw [Function.update_of_ne there] at two
      exact conserves.alone u v r one two

/-- Nothing gets lost, and only the new things are added. -/
theorem mem (r : R) :
    r ∈ all ++ extra ↔ r ∈ rest ∨ ∃ u, r ∈ holds (Function.update places t p u) := by
  have moved : r ∈ rest ∨ r ∈ holds p →
      r ∈ rest ∨ ∃ u, r ∈ holds (Function.update places t p u) :=
    fun known => known.imp id fun own => ⟨t, by rwa [Function.update_self]⟩
  have before : (r ∈ stock ∨ r ∈ holds (places t)) ∨ r ∈ extra →
      (r ∈ stock ∨ ∃ u, r ∈ holds (places u)) ∨ r ∈ extra :=
    fun known => known.imp_left fun old => old.imp id fun own => ⟨t, own⟩
  rw [List.mem_append, conserves.mem]
  constructor
  · rintro ((free | ⟨u, member⟩) | fresh)
    · exact moved ((exchanges.mem_iff r).mpr (.inl (.inl free)))
    · by_cases here : u = t
      · rw [here] at member
        exact moved ((exchanges.mem_iff r).mpr (.inl (.inr member)))
      · exact .inr ⟨u, by rwa [Function.update_of_ne here]⟩
    · exact moved ((exchanges.mem_iff r).mpr (.inr fresh))
  · rintro (free | ⟨u, member⟩)
    · exact before ((exchanges.mem_iff r).mp (.inl free))
    · by_cases here : u = t
      · rw [here, Function.update_self] at member
        exact before ((exchanges.mem_iff r).mp (.inr member))
      · rw [Function.update_of_ne here] at member
        exact .inl (.inr ⟨u, member⟩)

end Exchanges

/-- A task that exchanges things with the stock, and takes some new ones. -/
theorem Conserves.move (conserves : Conserves holds places stock all) {rest extra : List R}
    (exchanges : Exchanges holds places stock all t p rest extra) :
    Conserves holds (Function.update places t p) rest (all ++ extra) where
  distinct := (exchanges.nodup conserves).of_append_left
  nodup u := by
    have whole := exchanges.nodup conserves
    by_cases here : u = t
    · rw [here, Function.update_self]
      exact whole
    · rw [Function.update_of_ne here]
      refine List.nodup_append.mpr ⟨whole.of_append_left, (conserves.nodup u).of_append_right, ?_⟩
      intro r free other member same
      rw [← same] at member
      exact (exchanges.elsewhere conserves here member).1 free
  alone _ _ _ one two := exchanges.alone conserves one two
  mem := exchanges.mem conserves

/-- A task exchanges things with the stock. -/
theorem Conserves.exchange (conserves : Conserves holds places stock all) {rest : List R}
    (same : (rest ++ holds p).Perm (stock ++ holds (places t))) :
    Conserves holds (Function.update places t p) rest all := by
  have exchanges : Exchanges holds places stock all t p rest [] :=
    ⟨by simpa using same, List.nodup_nil, by simp⟩
  have moved := conserves.move exchanges
  rwa [List.append_nil] at moved

/-- What a task drops is missing. -/
theorem Conserves.not_of_dropped (conserves : Conserves holds places stock all) {rest : List R}
    {r : R} (own : r ∈ holds (places t)) (notKept : r ∉ holds p) (notBack : r ∉ rest) :
    ¬Conserves holds (Function.update places t p) rest all := by
  intro after
  have there : r ∈ all := (conserves.mem r).mpr (.inr ⟨t, own⟩)
  rcases (after.mem r).mp there with free | ⟨u, member⟩
  · exact notBack free
  · by_cases here : u = t
    · rw [here, Function.update_self] at member
      exact notKept member
    · rw [Function.update_of_ne here] at member
      exact here (conserves.alone u t r member own)

end Places
