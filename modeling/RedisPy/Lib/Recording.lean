import RedisPy.Lib.Interruptible

/-!
# Reading programs that report what they read

A reading program may report parts of what it reads while it reads: it calls back, and a
record of the calls outlives an interruption, although the program starts over. Here are
programs with a record beside their state, sources that measure how much of their pieces is
still missing when they interrupt, and what repeated calls leave in the record.
-/

namespace Interruptible

variable {σ ε π α γ ρ ν : Type}

/-! ## Sources -/

/-- A measure of what has not arrived: it is part of the pieces that are next, and more than the
pieces behind those that a program was reading when it was interrupted. -/
structure Gauge (S : Source σ ε π) (size : List π → Nat) where
  /-- What has not arrived. -/
  missing : σ → Nat
  /-- Only something of what is next is missing. -/
  within : ∀ {e s pieces rest t}, S.before s pieces → S.stopped e s rest t →
    missing t ≤ size pieces
  /-- An interrupted program was short of something. -/
  starved : ∀ {e s rest t}, S.stopped e s rest t → size rest < missing t

/-! ## Records -/

/-- A state and a record beside it. -/
structure Recorded (σ ν : Type) where
  /-- The state. -/
  inner : σ
  /-- The record. -/
  record : List ν

/-- A program that leaves the record alone. -/
def unrecorded (program : EStateM ε σ α) : EStateM ε (Recorded σ ν) α := fun s =>
  match program s.inner with
  | .ok value t => .ok value { s with inner := t }
  | .error e t => .error e { s with inner := t }

/-- One more entry in the record. -/
def report (entry : ν) : EStateM ε (Recorded σ ν) Unit := fun s =>
  .ok () { s with record := s.record ++ [entry] }

/-- A program with a record does what another one does without it. -/
def Unrecords (recorded : EStateM ε (Recorded σ ν) α) (plain : EStateM ε σ α) : Prop :=
  ∀ s,
    match recorded s with
    | .ok value t => plain s.inner = .ok value t.inner
    | .error e t => plain s.inner = .error e t.inner

/-- A program that leaves the record alone. -/
theorem unrecords_unrecorded (program : EStateM ε σ α) :
    Unrecords (unrecorded program : EStateM ε (Recorded σ ν) α) program := by
  intro s
  unfold unrecorded
  cases program s.inner <;> rfl

/-- Returning. -/
theorem unrecords_pure (value : α) :
    Unrecords (pure value : EStateM ε (Recorded σ ν) α) (pure value) :=
  fun _ => rfl

/-- One program after another. -/
theorem Unrecords.bind {recorded : EStateM ε (Recorded σ ν) α} {plain : EStateM ε σ α}
    {recordedNext : α → EStateM ε (Recorded σ ν) γ} {next : α → EStateM ε σ γ}
    (first : Unrecords recorded plain)
    (second : ∀ value, Unrecords (recordedNext value) (next value)) :
    Unrecords (recorded >>= recordedNext) (plain >>= next) := by
  intro s
  have one := first s
  cases ran : recorded s with
  | ok value t =>
    rw [ran] at one
    have two := second value t
    rw [bind_of_ok ran, bind_of_ok one]
    exact two
  | error e t =>
    rw [ran] at one
    rw [bind_of_error ran, bind_of_error one]

/-- Raising. -/
theorem unrecords_throw (e : ε) :
    Unrecords (throw e : EStateM ε (Recorded σ ν) α) (throw e) :=
  fun _ => rfl

/-- One more entry in the record. -/
theorem unrecords_report (entry : ν) :
    Unrecords (report entry : EStateM ε (Recorded σ ν) Unit) (pure ()) :=
  fun _ => rfl

/-- One more entry in the record, by the state, before a program. -/
theorem Unrecords.reporting {recorded : EStateM ε (Recorded σ ν) α} {plain : EStateM ε σ α}
    (unrecords : Unrecords recorded plain) (entry : σ → ν) :
    Unrecords (fun s => (report (entry s.inner) >>= fun _ => recorded) s) plain :=
  fun s => unrecords { s with record := s.record ++ [entry s.inner] }

/-- The source of a program that leaves the record alone. -/
def Source.recorded (S : Source σ ε π) (ν : Type) : Source (Recorded σ ν) ε π where
  before s := S.before s.inner
  keeps s t := S.keeps s.inner t.inner ∧ t.record = s.record
  stopped e s rest t := S.stopped e s.inner rest t.inner ∧ t.record = s.record
  raised e s t := S.raised e s.inner t.inner
  keeps_refl s := ⟨S.keeps_refl s.inner, rfl⟩
  keeps_trans first second :=
    ⟨S.keeps_trans first.1 second.1, second.2.trans first.2⟩
  stopped_trans first second := ⟨S.stopped_trans first.1 second.1, second.2.trans first.2⟩
  stopped_earlier stopped := ⟨S.stopped_earlier stopped.1, stopped.2⟩
  raised_trans first second := S.raised_trans first.1 second

/-- A program that leaves the record alone reads what it reads without one. -/
theorem Reads.unrecorded {S : Source σ ε π} {program : EStateM ε σ α} {pieces : List π}
    {outcome : Except ε α} (reads : Reads S program pieces outcome) :
    Reads (S.recorded ν) (unrecorded program) pieces outcome := by
  intro s rest before
  have ends := reads s.inner rest before
  unfold Interruptible.unrecorded
  cases ran : program s.inner with
  | ok value t =>
    rw [ran] at ends
    exact ⟨ends.1, ends.2.1, ends.2.2, rfl⟩
  | error e t =>
    rw [ran] at ends
    exact ends.imp (fun stopped => ⟨stopped, rfl⟩) id

/-! ## Repeated calls -/

/-- Two parts are collected one after the other. -/
theorem collect_append {outcome : ρ → Except ε ν} (first second : List ρ) :
    collect outcome (first ++ second) = (do
      let front ← collect outcome first
      let back ← collect outcome second
      pure (front ++ back)) := by
  induction first with
  | nil =>
    rw [List.nil_append, collect, ok_bind]
    cases collect outcome second with
    | ok back => rfl
    | error e => rfl
  | cons item items ih =>
    rw [List.cons_append, collect, collect, ih]
    cases outcome item with
    | error e => rfl
    | ok value =>
      cases collect outcome items with
      | error e => rfl
      | ok front =>
        cases collect outcome second with
        | error e => rfl
        | ok back => rfl

/-- A collection has a value for each item. -/
theorem collect_length {outcome : ρ → Except ε ν} {items : List ρ} {values : List ν}
    (collected : collect outcome items = .ok values) : values.length = items.length := by
  induction items generalizing values with
  | nil =>
    cases collected
    rfl
  | cons item items ih =>
    cases head : outcome item with
    | error e => simp [collect, head] at collected
    | ok value =>
      cases tail : collect outcome items with
      | error e => simp [collect, head, tail] at collected
      | ok rest =>
        simp only [collect, head, tail, ok_bind, pure_ok, Except.ok.injEq] at collected
        rw [← collected, List.length_cons, List.length_cons, ih tail]

/-- The state in which a run ends. -/
def finalState : EStateM.Result ε σ α → σ
  | .ok _ t => t
  | .error _ t => t

variable {supply : Supply σ ε γ} {program : EStateM ε σ α} {value : γ → Except ε α}
  {parts : γ → List ρ} {note : ρ → Except ε ν} {told : σ → List ν} {debt : σ → List γ → Nat}

/-- A call that returns has reported every part of its item. A call that is interrupted has reported
as many as it takes off the debt: the number of reports that interruptions are still going to
make for items that they interrupt. -/
structure Reports (supply : Supply σ ε γ) (program : EStateM ε σ α) (value : γ → Except ε α)
    (parts : γ → List ρ) (note : ρ → Except ε ν) (told : σ → List ν)
    (debt : σ → List γ → Nat) : Prop where
  /-- In front of an item. -/
  step : ∀ s item items, supply.before s (item :: items) →
    match program s with
    | .ok _ t => ∃ said, collect note (parts item) = .ok said ∧ told t = told s ++ said ∧
      debt t items = debt s (item :: items)
    | .error e t => (∃ said, told t = told s ++ said ∧
      debt s (item :: items) = said.length + debt t (item :: items)) ∨ value item = .error e
  /-- With nothing left nothing is reported. -/
  idle : ∀ s, supply.before s [] → told (finalState (program s)) = told s
  /-- Nor will it be. -/
  clear : ∀ s, supply.before s [] → debt s [] = 0

/-- What calls have said in the end: `due` is what the delivered items have to say, and everything
beyond that comes off the debt. -/
structure Account (items done pending : List γ) (parts : γ → List ρ) (note : ρ → Except ε ν)
    (told : σ → List ν) (debt : σ → List γ → Nat) (s t : σ) (said due : List ν) : Prop where
  /-- The record grows. -/
  grown : told t = told s ++ said
  /-- The reports that are due. -/
  collected : collect note (done.flatMap parts) = .ok due
  /-- Nothing is said that is not accounted for. -/
  balance : said.length + debt t pending = due.length + debt s items
  /-- Without debt the record has what is due. -/
  exact : debt s items = 0 → said = due

/-- With nothing left, calls leave the record alone. -/
theorem Reports.calls_idle (resumes : Resumes supply program value)
    (reports : Reports supply program value parts note told debt) (count : Nat) {s : σ}
    (before : supply.before s []) : told (calls program count s).2 = told s := by
  induction count generalizing s with
  | zero => rfl
  | succ count ih =>
    obtain ⟨e, t, ran, kept⟩ := resumes.idle s before
    have same := reports.idle s before
    rw [ran] at same
    rw [calls, ran]
    exact (ih kept).trans same

/-- Any number of calls delivers a front part of the items, and its reports balance. -/
theorem Reports.calls_account (resumes : Resumes supply program value)
    (reports : Reports supply program value parts note told debt) (count : Nat) {items : List γ}
    (good : ∀ item ∈ items, ∃ v, value item = .ok v) {s : σ} (before : supply.before s items) :
    ∃ done pending said due, Delivery supply value items (calls program count s) done pending ∧
      Account items done pending parts note told debt s (calls program count s).2 said due := by
  induction count generalizing s items with
  | zero =>
    refine ⟨[], items, [], [], ⟨rfl, .nil, before, by simp [calls, failures]⟩, ?_⟩
    exact ⟨(List.append_nil _).symm, rfl, rfl, fun _ => rfl⟩
  | succ count ih =>
    cases items with
    | nil =>
      have delivery := resumes.delivery_idle (count + 1) before
      refine ⟨[], [], [], [], delivery, ?_, rfl, ?_, fun _ => rfl⟩
      · rw [reports.calls_idle resumes (count + 1) before, List.append_nil]
      · rw [reports.clear _ delivery.rest, reports.clear _ before]
    | cons item items =>
      have step := resumes.step s item items before
      have reported := reports.step s item items before
      have others : ∀ other ∈ items, ∃ v, value other = .ok v :=
        fun other member => good other (List.mem_cons_of_mem item member)
      cases ran : program s with
      | ok v t =>
        rw [ran] at step reported
        obtain ⟨first, collected, toldFirst, debtFirst⟩ := reported
        obtain ⟨done, pending, said, due, delivery, account⟩ := ih others step.2.1
        refine ⟨item :: done, pending, first ++ said, first ++ due, delivery.of_ok ran step.1, ?_⟩
        have final : (calls program (count + 1) s).2 = (calls program count t).2 := by
          simp only [calls, ran]
        rw [final]
        refine ⟨?_, ?_, ?_, fun none => ?_⟩
        · rw [account.grown, toldFirst, List.append_assoc]
        · rw [List.flatMap_cons, collect_append, collected, account.collected]
          rfl
        · have := account.balance
          rw [List.length_append, List.length_append]
          omega
        · rw [account.exact (debtFirst.trans none)]
      | error e t =>
        rw [ran] at step reported
        obtain ⟨interrupted, kept, -⟩ := resumes.interrupted good step
        obtain ⟨found, has⟩ := good item List.mem_cons_self
        have reported := reported.resolve_right (by rw [has]; simp)
        obtain ⟨first, toldFirst, debtFirst⟩ := reported
        obtain ⟨done, pending, said, due, delivery, account⟩ := ih good kept
        refine ⟨done, pending, first ++ said, due, delivery.of_error ran interrupted, ?_⟩
        have final : (calls program (count + 1) s).2 = (calls program count t).2 := by
          simp only [calls, ran]
        rw [final]
        refine ⟨?_, account.collected, ?_, fun none => ?_⟩
        · rw [account.grown, toldFirst, List.append_assoc]
        · have := account.balance
          rw [List.length_append]
          omega
        · have nothing : first = [] := List.length_eq_zero_iff.mp (by omega)
          rw [nothing, List.nil_append]
          exact account.exact (by omega)

end Interruptible
