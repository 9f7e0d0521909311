import Mathlib.Data.List.Basic

/-!
# Polls between reads

A reader is polled and read from in any order. What its reads show is compared with a queue that
knows nothing of polls: the reader serves the queue if every read shows what the queue gives, and
every poll that is fine leaves the queue as it is. Whether a poll is fine may depend on what is
read later. The polls of a run are unseen if the reads show the same without them.
-/

namespace Polling

variable {σ π ρ ο α : Type}

/-- What is done with a reader. -/
inductive Access (π ρ : Type) where
  | poll (how : π)
  | read (how : ρ)

/-- A reader with states `σ`, of which every read shows something. -/
structure Reader (σ π ρ ο : Type) where
  poll : π → σ → σ
  read : ρ → σ → ο × σ

/-- The reads of a run. -/
def asked : List (Access π ρ) → List ρ
  | [] => []
  | .poll _ :: calls => asked calls
  | .read how :: calls => how :: asked calls

/-- The same reads without polls. -/
def unpolled (calls : List (Access π ρ)) : List (Access π ρ) := (asked calls).map .read

/-- Leaving out the polls leaves the reads. -/
theorem asked_unpolled (calls : List (Access π ρ)) : asked (unpolled calls) = asked calls := by
  unfold unpolled
  induction asked calls with
  | nil => rfl
  | cons how asks ih => exact congrArg (how :: ·) ih

/-- What a queue gives to reads. -/
def served (serve : ρ → α → ο × α) : α → List ρ → List ο
  | _, [] => []
  | a, ask :: asks => (serve ask a).1 :: served serve (serve ask a).2 asks

variable (reader : Reader σ π ρ ο)

/-- The state after a call. -/
def after (s : σ) : Access π ρ → σ
  | .poll how => reader.poll how s
  | .read how => (reader.read how s).2

/-- What the reads of a run show. -/
def shown : σ → List (Access π ρ) → List ο
  | _, [] => []
  | s, .poll how :: calls => shown (reader.poll how s) calls
  | s, .read how :: calls => (reader.read how s).1 :: shown (reader.read how s).2 calls

/-- Polling does not change what is read. -/
def Unseen (s : σ) (calls : List (Access π ρ)) : Prop :=
  shown reader s calls = shown reader s (unpolled calls)

/-- Every poll of a run is fine in the state in which it happens, before the reads to come. -/
def EachPoll (Fine : σ → π → List ρ → Prop) (s : σ) (calls : List (Access π ρ)) : Prop :=
  ∀ earlier how later, calls = earlier ++ .poll how :: later →
    Fine (earlier.foldl (after reader) s) how (asked later)

variable {reader} {Fine : σ → π → List ρ → Prop} {serve : ρ → α → ο × α}

/-- A run without calls has no polls. -/
theorem eachPoll_nil (s : σ) : EachPoll reader Fine s [] := by
  intro earlier how later split
  simp at split

/-- The polls of a run that begins with one. -/
theorem eachPoll_poll {s : σ} {how : π} {calls : List (Access π ρ)} :
    EachPoll reader Fine s (.poll how :: calls) ↔
      Fine s how (asked calls) ∧ EachPoll reader Fine (reader.poll how s) calls := by
  constructor
  · intro each
    refine ⟨each [] how calls rfl, fun earlier other later split => ?_⟩
    exact each (.poll how :: earlier) other later (by rw [split, List.cons_append])
  · rintro ⟨first, rest⟩ earlier other later split
    cases earlier with
    | nil =>
      cases split
      exact first
    | cons head earlier =>
      cases split
      exact rest earlier other later rfl

/-- The polls of a run that begins with a read. -/
theorem eachPoll_read {s : σ} {how : ρ} {calls : List (Access π ρ)} :
    EachPoll reader Fine s (.read how :: calls) ↔
      EachPoll reader Fine (reader.read how s).2 calls := by
  constructor
  · intro each earlier other later split
    exact each (.read how :: earlier) other later (by rw [split, List.cons_append])
  · intro rest earlier other later split
    cases earlier with
    | nil => cases split
    | cons head earlier =>
      cases split
      exact rest earlier other later rfl

/-- Without polls, every poll is fine. -/
theorem eachPoll_unpolled (s : σ) (calls : List (Access π ρ)) :
    EachPoll reader Fine s (unpolled calls) := by
  unfold unpolled
  induction asked calls generalizing s with
  | nil => exact eachPoll_nil s
  | cons how asks ih => exact eachPoll_read.mpr (ih _)

/-- A reader that serves a queue. The relation may depend on the reads to come. -/
structure Serves (reader : Reader σ π ρ ο) (Fine : σ → π → List ρ → Prop) (serve : ρ → α → ο × α)
    (Sim : List ρ → σ → α → Prop) : Prop where
  /-- A poll that is fine leaves the queue as it is. -/
  poll : ∀ {asks s a} how, Sim asks s a → Fine s how asks → Sim asks (reader.poll how s) a
  /-- A read shows what the queue gives. -/
  read : ∀ {ask asks s a}, Sim (ask :: asks) s a →
    (reader.read ask s).1 = (serve ask a).1 ∧ Sim asks (reader.read ask s).2 (serve ask a).2

variable {Sim : List ρ → σ → α → Prop}

/-- If every poll is fine, the reads show what the queue gives. -/
theorem Serves.shown_eq (serves : Serves reader Fine serve Sim) {calls : List (Access π ρ)} {s : σ}
    {a : α} (sim : Sim (asked calls) s a) (fine : EachPoll reader Fine s calls) :
    shown reader s calls = served serve a (asked calls) := by
  induction calls generalizing s a with
  | nil => rfl
  | cons call calls ih =>
    cases call with
    | poll how =>
      obtain ⟨first, rest⟩ := eachPoll_poll.mp fine
      exact ih (serves.poll how sim first) rest
    | read how =>
      obtain ⟨same, next⟩ := serves.read sim
      have others := ih next (eachPoll_read.mp fine)
      show (reader.read how s).1 :: shown reader (reader.read how s).2 calls =
        (serve how a).1 :: served serve (serve how a).2 (asked calls)
      rw [same, others]

/-- Without polls, the reads show what the queue gives. -/
theorem Serves.shown_unpolled (serves : Serves reader Fine serve Sim) {calls : List (Access π ρ)}
    {s : σ} {a : α} (sim : Sim (asked calls) s a) :
    shown reader s (unpolled calls) = served serve a (asked calls) := by
  rw [← asked_unpolled calls] at sim ⊢
  exact serves.shown_eq sim (eachPoll_unpolled s calls)

/-- If every poll is fine, polling is unseen. -/
theorem Serves.unseen (serves : Serves reader Fine serve Sim) {calls : List (Access π ρ)} {s : σ}
    {a : α} (sim : Sim (asked calls) s a) (fine : EachPoll reader Fine s calls) :
    Unseen reader s calls :=
  (serves.shown_eq sim fine).trans (serves.shown_unpolled sim).symm

/-- If a poll that is not fine is given away by the next read, polling is unseen just when every
poll is fine. -/
theorem Serves.unseen_iff (serves : Serves reader Fine serve Sim)
    (betrays : ∀ {s a how calls}, Sim (asked calls) s a → ¬Fine s how (asked calls) →
      shown reader (reader.poll how s) calls ≠ served serve a (asked calls))
    {calls : List (Access π ρ)} {s : σ} {a : α} (sim : Sim (asked calls) s a) :
    Unseen reader s calls ↔ EachPoll reader Fine s calls := by
  refine ⟨fun unseen => ?_, serves.unseen sim⟩
  have same : shown reader s calls = served serve a (asked calls) :=
    unseen.trans (serves.shown_unpolled sim)
  clear unseen
  induction calls generalizing s a with
  | nil => exact eachPoll_nil s
  | cons call calls ih =>
    cases call with
    | poll how =>
      have now : Sim (asked calls) s a := sim
      have fine : Fine s how (asked calls) := by
        by_contra bad
        exact betrays now bad same
      exact eachPoll_poll.mpr ⟨fine, ih (serves.poll how sim fine) same⟩
    | read how =>
      exact eachPoll_read.mpr (ih (serves.read sim).2 (List.cons.inj same).2)

/-- What holds of the queue and is kept by every read may be added to the relation. -/
theorem Serves.keeping (serves : Serves reader Fine serve Sim) {Inv : α → Prop}
    (keeps : ∀ ask a, Inv a → Inv (serve ask a).2) :
    Serves reader Fine serve fun asks s a => Sim asks s a ∧ Inv a where
  poll how sim fine := ⟨serves.poll how sim.1 fine, sim.2⟩
  read {ask _ _ a} sim := by
    obtain ⟨same, next⟩ := serves.read sim.1
    exact ⟨same, next, keeps ask a sim.2⟩

/-- What a state has in store through all polls is shown by the next read. -/
theorem head?_shown {Stores : σ → Prop} {value : ο}
    (stays : ∀ s how, Stores s → Stores (reader.poll how s))
    (shows : ∀ s ask, Stores s → (reader.read ask s).1 = value) {calls : List (Access π ρ)} {s : σ}
    (stores : Stores s) (more : asked calls ≠ []) :
    (shown reader s calls).head? = some value := by
  induction calls generalizing s with
  | nil => exact absurd rfl more
  | cons call calls ih =>
    cases call with
    | poll how => exact ih (stays s how stores) more
    | read ask => exact congrArg some (shows s ask stores)

end Polling
