import Mathlib.Data.List.Forall2

/-!
# Reading programs that can be interrupted

A reading program consumes pieces from the front of a sequence that may still be
arriving. It ends in one of three ways: it returns a value
and stands behind the pieces it consumed, it raises an exception of its own, or the
source interrupts it, in which case the caller may start over. `Reads` states what a
program does in front of given pieces in every one of these cases; its rules follow
the structure of the program, so a parser is verified piece by piece without ever
looking at how the pieces were delivered.
-/

namespace Interruptible

variable {σ ε π α β γ : Type}

/-- Returning is success. -/
@[simp]
theorem pure_ok (value : α) : (pure value : Except ε α) = .ok value := rfl

/-- Raising is failure. -/
@[simp]
theorem throw_error (e : ε) : (throw e : Except ε α) = .error e := rfl

/-- A success is passed on. -/
@[simp]
theorem ok_bind (value : α) (next : α → Except ε β) : (Except.ok value >>= next) = next value := rfl

/-- A failure is final. -/
@[simp]
theorem error_bind (e : ε) (next : α → Except ε β) :
    (Except.error e >>= next) = .error e := rfl

/-- A computation that succeeds goes on with what its first part returned. -/
theorem ok_of_bind {first : Except ε α} {rest : α → Except ε β} {value : β}
    (ran : (first >>= rest) = .ok value) : ∃ a, first = .ok a ∧ rest a = .ok value := by
  cases first with
  | ok a => exact ⟨a, rfl, ran⟩
  | error e => cases ran

/-- A program that returned is continued with its value. -/
theorem bind_of_ok {first : EStateM ε σ α} {second : α → EStateM ε σ β} {s t : σ} {value : α}
    (ran : first s = .ok value t) : (first >>= second) s = second value t := by
  change EStateM.bind first second s = _
  rw [EStateM.bind, ran]

/-- A program that raised ends the whole. -/
theorem bind_of_error {first : EStateM ε σ α} {second : α → EStateM ε σ β} {s t : σ} {e : ε}
    (ran : first s = .error e t) : (first >>= second) s = .error e t := by
  change EStateM.bind first second s = _
  rw [EStateM.bind, ran]

/-- What a family of reading programs may rely on about their state. -/
structure Source (σ ε π : Type) where
  /-- The pieces are the next ones at the reading position, received or not. -/
  before : σ → List π → Prop
  /-- The relation between the states before and after a completed read. -/
  keeps : σ → σ → Prop
  /-- The source interrupted the program with this exception, in front of these pieces. -/
  stopped : ε → σ → List π → σ → Prop
  /-- The program raised this exception on its own account. -/
  raised : ε → σ → σ → Prop
  /-- Reading nothing keeps the state. -/
  keeps_refl : ∀ s, keeps s s
  /-- Completed reads compose. -/
  keeps_trans : ∀ {s t u}, keeps s t → keeps t u → keeps s u
  /-- An interruption may follow a completed read. -/
  stopped_trans : ∀ {e s t rest u}, keeps s t → stopped e t rest u → stopped e s rest u
  /-- What is in front of some pieces is in front of the last of them. -/
  stopped_earlier : ∀ {e s tail rest t}, stopped e s (tail ++ rest) t → stopped e s rest t
  /-- An exception may follow a completed read. -/
  raised_trans : ∀ {e s t u}, keeps s t → raised e t u → raised e s u

/-- In front of the pieces the program has the given outcome, unless interrupted. -/
def Reads (S : Source σ ε π) (program : EStateM ε σ α) (pieces : List π)
    (outcome : Except ε α) : Prop :=
  ∀ s rest, S.before s (pieces ++ rest) →
    match program s with
    | .ok value t => outcome = .ok value ∧ S.before t rest ∧ S.keeps s t
    | .error e t => S.stopped e s rest t ∨ outcome = .error e ∧ S.raised e s t

variable {S : Source σ ε π}

/-- Returning a value consumes nothing. -/
theorem Reads.pure (value : α) : Reads S (pure value) [] (.ok value) :=
  fun s _ before => ⟨rfl, before, S.keeps_refl s⟩

/-- Raising an exception that leaves the state alone. -/
theorem Reads.throw {e : ε} (unchanged : ∀ s, S.raised e s s) (pieces : List π) :
    Reads S (throw e : EStateM ε σ α) pieces (.error e) :=
  fun s _ _ => .inr ⟨rfl, unchanged s⟩

/-- The second program starts behind the pieces of the first, and an exception of the
first is the exception of both. -/
theorem Reads.bind {first : EStateM ε σ α} {second : α → EStateM ε σ β}
    {head tail : List π} {found : Except ε α} {outcome : α → Except ε β}
    (reads : Reads S first head found)
    (next : ∀ value, found = .ok value → Reads S (second value) tail (outcome value)) :
    Reads S (first >>= second) (head ++ tail) (found >>= outcome) := by
  intro s rest before
  rw [List.append_assoc] at before
  have start := reads s (tail ++ rest) before
  cases ran : first s with
  | ok value t =>
    rw [ran] at start
    obtain ⟨same, middle, kept⟩ := start
    have continued := next value same t rest middle
    subst same
    rw [bind_of_ok ran]
    cases ended : second value t with
    | ok result u =>
      rw [ended] at continued
      exact ⟨continued.1, continued.2.1, S.keeps_trans kept continued.2.2⟩
    | error e u =>
      rw [ended] at continued
      exact continued.imp (S.stopped_trans kept) fun h => ⟨h.1, S.raised_trans kept h.2⟩
  | error e t =>
    rw [ran] at start
    rw [bind_of_error ran]
    refine start.imp S.stopped_earlier fun h => ⟨?_, h.2⟩
    rw [h.1]
    rfl

/-- A program followed by one that consumes nothing. -/
theorem Reads.then {first : EStateM ε σ α} {second : α → EStateM ε σ β}
    {pieces : List π} {found : Except ε α} {outcome : α → Except ε β}
    (reads : Reads S first pieces found)
    (next : ∀ value, found = .ok value → Reads S (second value) [] (outcome value)) :
    Reads S (first >>= second) pieces (found >>= outcome) := by
  simpa using reads.bind next

/-- Continue behind a value that is known. -/
theorem Reads.after {first : EStateM ε σ α} {second : α → EStateM ε σ β} {value : α}
    {head tail : List π} {outcome : Except ε β} (reads : Reads S first head (.ok value))
    (next : Reads S (second value) tail outcome) :
    Reads S (first >>= second) (head ++ tail) outcome := by
  have whole : Reads S (first >>= second) (head ++ tail) (Except.ok value >>= fun _ => outcome) :=
    reads.bind fun other same => by cases same; exact next
  exact whole

/-- The same outcome under another expression for it. -/
theorem Reads.of_eq {program : EStateM ε σ α} {pieces : List π}
    {outcome expected : Except ε α} (reads : Reads S program pieces outcome)
    (same : outcome = expected) : Reads S program pieces expected := same ▸ reads

/-- A source that says more about the same runs. -/
structure Source.Refines (fine coarse : Source σ ε π) : Prop where
  /-- Both are in front of the same pieces. -/
  before : ∀ s pieces, coarse.before s pieces ↔ fine.before s pieces
  /-- A completed read is one. -/
  keeps : ∀ s t, fine.keeps s t → coarse.keeps s t
  /-- An interruption is one. -/
  stopped : ∀ e s rest t, fine.stopped e s rest t → coarse.stopped e s rest t
  /-- An exception is one. -/
  raised : ∀ e s t, fine.raised e s t → coarse.raised e s t

/-- What is known under a source is known under a coarser one. -/
theorem Reads.coarsen {fine coarse : Source σ ε π} (refines : fine.Refines coarse)
    {program : EStateM ε σ α} {pieces : List π} {outcome : Except ε α}
    (reads : Reads fine program pieces outcome) : Reads coarse program pieces outcome := by
  intro s rest before
  have ends := reads s rest ((refines.before s _).mp before)
  cases ran : program s with
  | ok value t =>
    rw [ran] at ends
    obtain ⟨same, behind, kept⟩ := ends
    exact ⟨same, (refines.before t rest).mpr behind, refines.keeps s t kept⟩
  | error e t =>
    rw [ran] at ends
    exact ends.imp (refines.stopped e s rest t) fun own => ⟨own.1, refines.raised e s t own.2⟩

/-- Run a program a fixed number of times and collect its results. -/
def repeatM (program : EStateM ε σ α) : Nat → EStateM ε σ (List α)
  | 0 => pure []
  | count + 1 => do
    let value ← program
    let values ← repeatM program count
    pure (value :: values)

/-- Evaluate in order and stop at the first exception. -/
def collect (outcome : γ → Except ε α) : List γ → Except ε (List α)
  | [] => .ok []
  | item :: items => do
    let value ← outcome item
    let values ← collect outcome items
    pure (value :: values)

/-- A repeated program reads the items one after the other. -/
theorem reads_repeatM {program : EStateM ε σ α} {pieces : γ → List π}
    {outcome : γ → Except ε α} (items : List γ)
    (each : ∀ item ∈ items, Reads S program (pieces item) (outcome item)) :
    Reads S (repeatM program items.length) (items.flatMap pieces) (collect outcome items) := by
  induction items with
  | nil => exact Reads.pure []
  | cons item items ih =>
    have rest := ih fun other member => each other (List.mem_cons_of_mem item member)
    rw [List.flatMap_cons]
    exact (each item List.mem_cons_self).bind fun _ _ => rest.then fun _ _ => Reads.pure _

/-- Thread a value through a program run a fixed number of times. -/
def iterateM (program : β → EStateM ε σ β) : Nat → β → EStateM ε σ β
  | 0, value => pure value
  | count + 1, value => do
    let next ← program value
    iterateM program count next

/-- Thread a value through the items and stop at the first exception. -/
def thread (outcome : γ → β → Except ε β) : List γ → β → Except ε β
  | [], value => .ok value
  | item :: items, value => do
    let next ← outcome item value
    thread outcome items next

/-- A threaded program reads the items one after the other. -/
theorem reads_iterateM {program : β → EStateM ε σ β} {pieces : γ → List π}
    {outcome : γ → β → Except ε β} (items : List γ) (value : β)
    (each : ∀ item ∈ items, ∀ value, Reads S (program value) (pieces item) (outcome item value)) :
    Reads S (iterateM program items.length value) (items.flatMap pieces)
      (thread outcome items value) := by
  induction items generalizing value with
  | nil => exact Reads.pure value
  | cons item items ih =>
    rw [List.flatMap_cons]
    exact (each item List.mem_cons_self value).bind fun next _ =>
      ih next fun other member => each other (List.mem_cons_of_mem item member)

/-! ## Repeated calls -/

/-- The states in front of a sequence of items, with the number of interruptions to come. -/
structure Supply (σ ε γ : Type) where
  /-- The items are the ones that have not been returned yet. -/
  before : σ → List γ → Prop
  /-- How often the source can still interrupt. -/
  patience : σ → Nat
  /-- The exceptions that stand for an interruption. -/
  interrupt : ε → Prop

/-- A call in front of an item returns its value, or is interrupted and leaves everything in
place, or raises the exception of the item. -/
structure Resumes (supply : Supply σ ε γ) (program : EStateM ε σ α)
    (value : γ → Except ε α) : Prop where
  /-- In front of an item. -/
  step : ∀ s item items, supply.before s (item :: items) →
    match program s with
    | .ok v t => value item = .ok v ∧ supply.before t items ∧ supply.patience t ≤ supply.patience s
    | .error e t => supply.interrupt e ∧ supply.before t (item :: items) ∧
      supply.patience t < supply.patience s ∨ value item = .error e
  /-- With nothing left. -/
  idle : ∀ s, supply.before s [] → ∃ e t, program s = .error e t ∧ supply.before t []

/-- Call a program a number of times, whatever each call ends with. -/
def calls (program : EStateM ε σ α) : Nat → σ → List (Except ε α) × σ
  | 0, s => ([], s)
  | count + 1, s =>
    match program s with
    | .ok value t => ((.ok value) :: (calls program count t).1, (calls program count t).2)
    | .error e t => ((.error e) :: (calls program count t).1, (calls program count t).2)

/-- The values of the calls that returned. -/
def returned (outcomes : List (Except ε α)) : List α := outcomes.filterMap Except.toOption

/-- The exceptions of the calls that did not. -/
def failures (outcomes : List (Except ε α)) : List ε :=
  outcomes.filterMap fun
    | .ok _ => none
    | .error e => some e

/-- A returned value is counted. -/
@[simp]
theorem returned_ok (value : α) (outcomes : List (Except ε α)) :
    returned (.ok value :: outcomes) = value :: returned outcomes := rfl

/-- An exception is not. -/
@[simp]
theorem returned_error (e : ε) (outcomes : List (Except ε α)) :
    returned (.error e :: outcomes) = returned outcomes := rfl

/-- A returned value is no failure. -/
@[simp]
theorem failures_ok (value : α) (outcomes : List (Except ε α)) :
    failures (.ok value :: outcomes) = failures outcomes := rfl

/-- An exception is a failure. -/
@[simp]
theorem failures_error (e : ε) (outcomes : List (Except ε α)) :
    failures (.error e :: outcomes) = e :: failures outcomes := rfl

/-- The items are returned in order, each once, and the rest stays in place. -/
structure Delivery (supply : Supply σ ε γ) (value : γ → Except ε α) (items : List γ)
    (result : List (Except ε α) × σ) (done pending : List γ) : Prop where
  /-- Nothing is lost or repeated. -/
  split : items = done ++ pending
  /-- The returned values are those of the items at the front. -/
  values : List.Forall₂ (fun item v => value item = .ok v) done (returned result.1)
  /-- The rest is still there. -/
  rest : supply.before result.2 pending
  /-- While something is left, a call only fails by interruption. -/
  failed : pending ≠ [] → ∀ e ∈ failures result.1, supply.interrupt e

/-- If as many values were returned as there are items, every item has its value. -/
theorem all_of_full {R : γ → α → Prop} {items done pending : List γ} {values : List α}
    (split : items = done ++ pending) (each : List.Forall₂ R done values)
    (full : values.length = items.length) : ∀ item ∈ items, ∃ v, R item v := by
  have lengths := each.length_eq
  have total := congrArg List.length split
  rw [List.length_append] at total
  have none : pending = [] := List.length_eq_zero_iff.mp (by omega)
  rw [split, none, List.append_nil]
  clear split full lengths total
  induction each with
  | nil => simp
  | cons head _ ih =>
    intro item member
    rcases List.mem_cons.mp member with rfl | member
    · exact ⟨_, head⟩
    · exact ih item member

variable {supply : Supply σ ε γ} {program : EStateM ε σ α} {value : γ → Except ε α}

/-- With nothing left, calls return nothing. -/
theorem Resumes.calls_idle (resumes : Resumes supply program value) (count : Nat) {s : σ}
    (before : supply.before s []) :
    returned (calls program count s).1 = [] ∧ supply.before (calls program count s).2 [] := by
  induction count generalizing s with
  | zero => exact ⟨rfl, before⟩
  | succ count ih =>
    obtain ⟨e, t, ran, kept⟩ := resumes.idle s before
    rw [calls, ran]
    exact ih kept

/-- In front of an item that has a value, only an interruption ends a call without one. -/
theorem Resumes.interrupted (_ : Resumes supply program value) {items : List γ} {item : γ}
    (good : ∀ other ∈ item :: items, ∃ v, value other = .ok v) {s t : σ} {e : ε}
    (ended : supply.interrupt e ∧ supply.before t (item :: items) ∧
      supply.patience t < supply.patience s ∨ value item = .error e) :
    supply.interrupt e ∧ supply.before t (item :: items) ∧
      supply.patience t < supply.patience s := by
  obtain ⟨v, found⟩ := good item List.mem_cons_self
  rcases ended with interrupted | failed
  · exact interrupted
  · rw [found] at failed
    cases failed

/-- A call that returns, before calls that deliver the rest. -/
theorem Delivery.of_ok {s t : σ} {v : α} {item : γ} {items done pending : List γ} {count : Nat}
    (ran : program s = .ok v t) (found : value item = .ok v)
    (delivery : Delivery supply value items (calls program count t) done pending) :
    Delivery supply value (item :: items) (calls program (count + 1) s) (item :: done) pending where
  split := by rw [delivery.split, List.cons_append]
  values := by
    simp only [calls, ran, returned_ok]
    exact .cons found delivery.values
  rest := by simpa only [calls, ran] using delivery.rest
  failed := by simpa only [calls, ran, failures_ok] using delivery.failed

/-- A call that is interrupted, before calls that deliver. -/
theorem Delivery.of_error {s t : σ} {e : ε} {items done pending : List γ} {count : Nat}
    (ran : program s = .error e t) (interrupted : supply.interrupt e)
    (delivery : Delivery supply value items (calls program count t) done pending) :
    Delivery supply value items (calls program (count + 1) s) done pending where
  split := delivery.split
  values := by simpa only [calls, ran, returned_error] using delivery.values
  rest := by simpa only [calls, ran] using delivery.rest
  failed := by
    intro left failure member
    simp only [calls, ran, failures_error, List.mem_cons] at member
    rcases member with rfl | member
    · exact interrupted
    · exact delivery.failed left failure member

/-- Nothing is delivered where nothing is left. -/
theorem Resumes.delivery_idle (resumes : Resumes supply program value) (count : Nat) {s : σ}
    (before : supply.before s []) :
    Delivery supply value [] (calls program count s) [] [] where
  split := rfl
  values := by
    rw [(resumes.calls_idle count before).1]
    exact .nil
  rest := (resumes.calls_idle count before).2
  failed := by simp

/-- Any number of calls delivers a front part of the items. -/
theorem Resumes.calls_deliver (resumes : Resumes supply program value) (count : Nat)
    {items : List γ} (good : ∀ item ∈ items, ∃ v, value item = .ok v) {s : σ}
    (before : supply.before s items) :
    ∃ done pending, Delivery supply value items (calls program count s) done pending := by
  induction count generalizing s items with
  | zero => exact ⟨[], items, rfl, .nil, before, by simp [calls, failures]⟩
  | succ count ih =>
    cases items with
    | nil => exact ⟨[], [], resumes.delivery_idle (count + 1) before⟩
    | cons item items =>
      have step := resumes.step s item items before
      have others : ∀ other ∈ items, ∃ v, value other = .ok v :=
        fun other member => good other (List.mem_cons_of_mem item member)
      cases ran : program s with
      | ok v t =>
        rw [ran] at step
        obtain ⟨done, pending, delivery⟩ := ih others step.2.1
        exact ⟨item :: done, pending, delivery.of_ok ran step.1⟩
      | error e t =>
        rw [ran] at step
        obtain ⟨interrupted, kept, -⟩ := resumes.interrupted good step
        obtain ⟨done, pending, delivery⟩ := ih good kept
        exact ⟨done, pending, delivery.of_error ran interrupted⟩

/-- One call for each item and one for each interruption return everything. -/
theorem Resumes.calls_complete (resumes : Resumes supply program value) (count : Nat)
    {items : List γ} (good : ∀ item ∈ items, ∃ v, value item = .ok v) {s : σ}
    (before : supply.before s items) (enough : items.length + supply.patience s ≤ count) :
    (returned (calls program count s).1).length = items.length := by
  induction count generalizing s items with
  | zero =>
    have none : items = [] := List.length_eq_zero_iff.mp (by omega)
    rw [none]
    rfl
  | succ count ih =>
    cases items with
    | nil =>
      rw [(resumes.calls_idle (count + 1) before).1]
      rfl
    | cons item items =>
      have step := resumes.step s item items before
      rw [List.length_cons] at enough
      cases ran : program s with
      | ok v t =>
        rw [ran] at step
        have others : ∀ other ∈ items, ∃ v, value other = .ok v :=
          fun other member => good other (List.mem_cons_of_mem item member)
        have rest := ih others step.2.1 (by have := step.2.2; omega)
        simp only [calls, ran, returned_ok, List.length_cons, rest]
      | error e t =>
        rw [ran] at step
        obtain ⟨-, kept, waited⟩ := resumes.interrupted good step
        have rest := ih good kept (by rw [List.length_cons]; omega)
        simpa only [calls, ran, returned_error] using rest

/-- If interruptions are the only failures on the way to a full delivery, every item has a
value. -/
theorem Resumes.good_of_full (resumes : Resumes supply program value)
    (count : Nat) {items : List γ}
    (own : ∀ item ∈ items, ∀ e, value item = .error e → ¬supply.interrupt e)
    {s : σ} (before : supply.before s items)
    (full : (returned (calls program count s).1).length = items.length)
    (peace : ∀ n, (returned (calls program n s).1).length < items.length →
      ∀ e ∈ failures (calls program n s).1, supply.interrupt e) :
    ∀ item ∈ items, ∃ v, value item = .ok v := by
  induction count generalizing s items with
  | zero =>
    have none : items = [] := List.length_eq_zero_iff.mp full.symm
    simp [none]
  | succ count ih =>
    cases items with
    | nil => simp
    | cons item items =>
      have step := resumes.step s item items before
      cases ran : program s with
      | ok v t =>
        rw [ran] at step
        simp only [calls, ran, returned_ok, List.length_cons, Nat.add_right_cancel_iff] at full
        have others : ∀ other ∈ items, ∀ e, value other = .error e → ¬supply.interrupt e :=
          fun other member => own other (List.mem_cons_of_mem item member)
        have rest := ih others step.2.1 full fun n short e member =>
          peace (n + 1) (by simpa [calls, ran] using short) e (by simpa [calls, ran] using member)
        intro other member
        rcases List.mem_cons.mp member with rfl | member
        · exact ⟨v, step.1⟩
        · exact rest other member
      | error e t =>
        rw [ran] at step
        have nothing : (returned (calls program 1 s).1).length < (item :: items).length := by
          simp only [calls, ran, returned_error]
          exact Nat.succ_pos _
        have interrupt : supply.interrupt e := peace 1 nothing e (by simp [calls, ran])
        rcases step with ⟨-, kept, -⟩ | failed
        · simp only [calls, ran, returned_error] at full
          refine ih own kept full fun n short f member => peace (n + 1) ?_ f ?_
          · simpa only [calls, ran, returned_error] using short
          · simp only [calls, ran, failures_error]
            exact List.mem_cons_of_mem e member
        · exact absurd interrupt (own item List.mem_cons_self e failed)

/-! ## Calls that nothing interrupts -/

/-- The outcomes of calls that nothing interrupts: those of the items in order, and `stop` when
none is left. -/
def awaited (value : γ → Except ε α) (stop : ε) : List γ → Nat → List (Except ε α)
  | _, 0 => []
  | [], count + 1 => .error stop :: awaited value stop [] count
  | item :: items, count + 1 => value item :: awaited value stop items count

/-- One call more than there are items ends with `stop`. -/
theorem awaited_last (value : γ → Except ε α) (stop : ε) (items : List γ) :
    (awaited value stop items (items.length + 1)).getLast? = some (.error stop) := by
  induction items with
  | nil => rfl
  | cons item items ih =>
    rw [List.length_cons, awaited, List.getLast?_cons, ih]
    rfl

/-- In front of items that have values, uninterrupted calls have the awaited outcomes. -/
theorem Resumes.calls_prompt (resumes : Resumes supply program value) {stop : ε}
    (idle : ∀ s, supply.before s [] → supply.patience s = 0 →
      ∃ t, program s = .error stop t ∧ supply.before t [] ∧ supply.patience t = 0)
    (count : Nat) {items : List γ} (good : ∀ item ∈ items, ∃ v, value item = .ok v) {s : σ}
    (before : supply.before s items) (prompt : supply.patience s = 0) :
    (calls program count s).1 = awaited value stop items count := by
  induction count generalizing s items with
  | zero => cases items <;> rfl
  | succ count ih =>
    cases items with
    | nil =>
      obtain ⟨t, ran, kept, still⟩ := idle s before prompt
      simp only [calls, ran, awaited]
      rw [ih good kept still]
    | cons item items =>
      have step := resumes.step s item items before
      have others : ∀ other ∈ items, ∃ v, value other = .ok v :=
        fun other member => good other (List.mem_cons_of_mem item member)
      cases ran : program s with
      | ok v t =>
        rw [ran] at step
        have still : supply.patience t = 0 := by omega
        simp only [calls, ran, awaited, step.1]
        rw [ih others step.2.1 still]
      | error e t =>
        rw [ran] at step
        have ended := resumes.interrupted good step
        omega

end Interruptible
