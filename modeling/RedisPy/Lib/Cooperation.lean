import Mathlib.Logic.Function.Basic

/-!
# Tasks that take turns

A task runs alone until it is suspended. The scheduler resumes any task at any time, when what it
waits for is there or with an exception that is thrown into it. What a program does by itself is
stated by contracts, as for a sequential program. Under a lock that is enough: the others can do
nothing to what the lock protects, so an invariant of it holds whenever the lock is free, in every
run of any number of tasks.
-/

namespace Cooperation

variable {ε σ ρ α β : Type}

/-- A program with suspension points. -/
inductive Coroutine (ε σ α : Type) where
  /-- It is over. -/
  | done (result : Except ε α)
  /-- The state is changed, and what it was is looked at. -/
  | act (change : σ → σ) (next : σ → Coroutine ε σ α)
  /-- It waits, and goes on normally or with an exception. -/
  | suspend (ready : σ → Bool) (next : Option ε → Coroutine ε σ α)

namespace Coroutine

/-! ## Programs -/

/-- Another program takes over when this one is over. -/
def handle (next : Except ε α → Coroutine ε σ β) : Coroutine ε σ α → Coroutine ε σ β
  | .done result => next result
  | .act change rest => .act change fun s => handle next (rest s)
  | .suspend ready rest => .suspend ready fun thrown => handle next (rest thrown)

/-- What goes on after a return. -/
def returning (next : α → Coroutine ε σ β) : Except ε α → Coroutine ε σ β
  | .ok value => next value
  | .error e => .done (.error e)

/-- What goes on after an exception. -/
def catching (handler : ε → Coroutine ε σ α) : Except ε α → Coroutine ε σ α
  | .ok value => .done (.ok value)
  | .error e => handler e

/-- What goes on after a suspension. -/
def resumed : Option ε → Coroutine ε σ Unit
  | none => .done (.ok ())
  | some e => .done (.error e)

instance : Monad (Coroutine ε σ) where
  pure value := .done (.ok value)
  bind program next := handle (returning next) program

/-- `raise`. -/
def raise (e : ε) : Coroutine ε σ α := .done (.error e)

/-- The state. -/
def look : Coroutine ε σ σ := .act id fun s => .done (.ok s)

/-- The state is changed. -/
def modify (change : σ → σ) : Coroutine ε σ Unit := .act change fun _ => .done (.ok ())

/-- `await`. -/
def wait (ready : σ → Bool) : Coroutine ε σ Unit := .suspend ready resumed

/-- `try: program except: handler`. -/
def recover (program : Coroutine ε σ α) (handler : ε → Coroutine ε σ α) : Coroutine ε σ α :=
  handle (catching handler) program

/-- `try: program finally: cleanup`. -/
def ensure (program : Coroutine ε σ α) (cleanup : Coroutine ε σ Unit) : Coroutine ε σ α :=
  handle (fun result => handle (returning fun _ => .done result) cleanup) program

/-- `if condition: program`. -/
def whenever (condition : Prop) [Decidable condition] (program : Coroutine ε σ Unit) :
    Coroutine ε σ Unit :=
  if condition then program else pure ()

/-- `if value is not None: program(value)`. -/
def whenSome (value : Option α) (program : α → Coroutine ε σ Unit) : Coroutine ε σ Unit :=
  match value with
  | some value => program value
  | none => pure ()

/-! ## What a program does alone -/

/-- What a program comes to, if nobody else touches the state while it is suspended; every change is
of the allowed kind. -/
def Brings (grows : σ → σ → Prop) (Q : Except ε α → σ → Prop) : Coroutine ε σ α → σ → Prop
  | .done result, s => Q result s
  | .act change next, s => grows s (change s) ∧ Brings grows Q (next s) (change s)
  | .suspend ready next, s => ∀ thrown, (thrown = none → ready s = true) →
      Brings grows Q (next thrown) s

/-- One condition for returning, one for raising. -/
def Outcome (Q : α → σ → Prop) (E : ε → σ → Prop) : Except ε α → σ → Prop
  | .ok value, s => Q value s
  | .error e, s => E e s

variable {grows : σ → σ → Prop}

variable (grows) in
/-- The contract of a program. -/
def Meets (P : σ → Prop) (program : Coroutine ε σ α) (Q : α → σ → Prop) (E : ε → σ → Prop) : Prop :=
  ∀ s, P s → Brings grows (Outcome Q E) program s

/-- What takes over starts where the program ends. -/
theorem Brings.handle {R : Except ε α → σ → Prop} {Q : Except ε β → σ → Prop}
    {next : Except ε α → Coroutine ε σ β} {program : Coroutine ε σ α} {s : σ}
    (first : Brings grows R program s) (then' : ∀ result t, R result t → Brings grows Q (next result) t) :
    Brings grows Q (handle next program) s := by
  induction program generalizing s with
  | done result => exact then' result s first
  | act change rest ih => exact ⟨first.1, ih s first.2⟩
  | suspend ready rest ih => exact fun thrown woken => ih thrown (first thrown woken)

/-- A weaker outcome. -/
theorem Brings.mono {R Q : Except ε α → σ → Prop} {program : Coroutine ε σ α} {s : σ}
    (first : Brings grows R program s) (weaker : ∀ result t, R result t → Q result t) :
    Brings grows Q program s := by
  induction program generalizing s with
  | done result => exact weaker result s first
  | act change rest ih => exact ⟨first.1, ih s first.2⟩
  | suspend ready rest ih => exact fun thrown woken => ih thrown (first thrown woken)

section Rules

variable {P P' : σ → Prop} {Q R : α → σ → Prop} {E E' : ε → σ → Prop} {program : Coroutine ε σ α}

/-- A weaker contract. -/
theorem Meets.weaken (meets : Meets grows P program Q E) (before : ∀ s, P' s → P s)
    (returns : ∀ value s, Q value s → R value s) (raises : ∀ e s, E e s → E' e s) :
    Meets grows P' program R E' := by
  intro s holds
  refine (meets s (before s holds)).mono fun result t outcome => ?_
  cases result with
  | ok value => exact returns value t outcome
  | error e => exact raises e t outcome

/-- More is known before. -/
theorem Meets.before (meets : Meets grows P program Q E) (before : ∀ s, P' s → P s) : Meets grows P' program Q E :=
  meets.weaken before (fun _ _ => id) fun _ _ => id

/-- Less is said about returning. -/
theorem Meets.after (meets : Meets grows P program Q E) (returns : ∀ value s, Q value s → R value s) :
    Meets grows P program R E := meets.weaken (fun _ => id) returns fun _ _ => id

/-- Less is said about raising. -/
theorem Meets.raising (meets : Meets grows P program Q E) (raises : ∀ e s, E e s → E' e s) :
    Meets grows P program Q E' := meets.weaken (fun _ => id) (fun _ _ => id) raises

/-- A value is returned. -/
theorem meets_pure (value : α) (holds : ∀ s, P s → Q value s) :
    Meets grows P (pure value : Coroutine ε σ α) Q E := holds

/-- An exception is raised. -/
theorem meets_raise (e : ε) (holds : ∀ s, P s → E e s) :
    Meets grows P (raise e : Coroutine ε σ α) Q E := holds

/-- One program after another. -/
theorem Meets.bind {Q : β → σ → Prop} {next : α → Coroutine ε σ β} (first : Meets grows P program R E)
    (second : ∀ value, Meets grows (R value) (next value) Q E) :
    Meets grows P (program >>= next) Q E := by
  intro s holds
  refine (first s holds).handle fun result t outcome => ?_
  cases result with
  | ok value => exact second value t outcome
  | error e => exact outcome

/-- The state is known from then on. -/
theorem meets_look {Q : β → σ → Prop} (refl : ∀ s, grows s s) {next : σ → Coroutine ε σ β}
    (rest : ∀ s, P s → Brings grows (Outcome Q E) (next s) s) :
    Meets grows P (look >>= next) Q E :=
  fun s holds => ⟨refl s, rest s holds⟩

/-- The state is changed. -/
theorem meets_modify {Q : Unit → σ → Prop} {change : σ → σ} (allowed : ∀ s, P s → grows s (change s))
    (holds : ∀ s, P s → Q () (change s)) : Meets grows P (modify change : Coroutine ε σ Unit) Q E :=
  fun s before => ⟨allowed s before, holds s before⟩

/-- Nothing changes while a program waits alone. -/
theorem meets_wait {Q : Unit → σ → Prop} {ready : σ → Bool} (woken : ∀ s, P s → ready s = true → Q () s)
    (thrown : ∀ e s, P s → E e s) : Meets grows P (wait ready : Coroutine ε σ Unit) Q E := by
  intro s holds e enabled
  cases e with
  | none => exact woken s holds (enabled rfl)
  | some e => exact thrown e s holds

/-- A handler starts where the exception was raised. -/
theorem Meets.recover {handler : ε → Coroutine ε σ α} (first : Meets grows P program Q E')
    (second : ∀ e, Meets grows (E' e) (handler e) Q E) :
    Meets grows P (recover program handler) Q E := by
  intro s holds
  refine (first s holds).handle fun result t outcome => ?_
  cases result with
  | ok value => exact outcome
  | error e => exact second e t outcome

/-- Clean-up code starts where the program ends. -/
theorem Meets.ensure {cleanup : Coroutine ε σ Unit} (first : Meets grows P program R E')
    (returned : ∀ value, Meets grows (R value) cleanup (fun _ => Q value) E)
    (raised : ∀ e, Meets grows (E' e) cleanup (fun _ => E e) E) :
    Meets grows P (ensure program cleanup) Q E := by
  intro s holds
  refine (first s holds).handle fun result t outcome => ?_
  have cleaned {T : σ → Prop} (cleans : Meets grows T cleanup (fun _ s => Outcome Q E result s) E) (starts : T t) :
      Brings grows (Outcome Q E) (handle (returning fun _ => .done result) cleanup) t := by
    refine (cleans t starts).handle fun ended u after => ?_
    cases ended with
    | ok _ => exact after
    | error _ => exact after
  cases result with
  | ok value => exact cleaned (returned value) outcome
  | error e => exact cleaned (raised e) outcome

/-- Two programs, on a condition. -/
theorem meets_ite {condition : Prop} [Decidable condition] {yes no : Coroutine ε σ α}
    (holds : condition → Meets grows P yes Q E) (fails : ¬condition → Meets grows P no Q E) :
    Meets grows P (if condition then yes else no) Q E := by
  by_cases known : condition
  · rw [if_pos known]
    exact holds known
  · rw [if_neg known]
    exact fails known

/-- A program that is run on a condition. -/
theorem meets_whenever {condition : Prop} [Decidable condition] {program : Coroutine ε σ Unit}
    {Q : Unit → σ → Prop} (runs : condition → Meets grows P program Q E)
    (skips : ¬condition → ∀ s, P s → Q () s) : Meets grows P (whenever condition program) Q E :=
  meets_ite runs fun fails => meets_pure () (skips fails)

/-- A program that is run if the state asks for it. -/
theorem meets_whenever_look {condition : σ → Prop} [∀ s, Decidable (condition s)]
    {program : Coroutine ε σ Unit} {Q : Unit → σ → Prop} (refl : ∀ s, grows s s)
    (runs : Meets grows (fun s => P s ∧ condition s) program Q E) (skips : ∀ s, P s → ¬condition s → Q () s) :
    Meets grows P (look >>= fun s => whenever (condition s) program) Q E := by
  refine meets_look refl fun s holds => ?_
  unfold whenever
  by_cases asked : condition s
  · rw [if_pos asked]
    exact runs s ⟨holds, asked⟩
  · rw [if_neg asked]
    exact skips s holds asked

/-- A program for a value that may be missing. -/
theorem meets_whenSome {value : Option α} {program : α → Coroutine ε σ Unit} {Q : Unit → σ → Prop}
    (runs : ∀ item, value = some item → Meets grows P (program item) Q E)
    (skips : value = none → ∀ s, P s → Q () s) : Meets grows P (whenSome value program) Q E := by
  cases value with
  | none => exact meets_pure () (skips rfl)
  | some item => exact runs item rfl

end Rules

/-! ## Turns -/

/-- A task runs until it is suspended or over. -/
def advance : Coroutine ε σ α → σ → Coroutine ε σ α × σ
  | .done result, s => (.done result, s)
  | .act change next, s => advance (next s) (change s)
  | .suspend ready next, s => (.suspend ready next, s)

/-- A task has its turn; without an exception it goes on only if what it waits for is there. -/
def resume (thrown : Option ε) : Coroutine ε σ α → σ → Coroutine ε σ α × σ
  | .done result, s => (.done result, s)
  | .act change next, s => advance (next s) (change s)
  | .suspend ready next, s =>
    if thrown.isSome || ready s then advance (next thrown) s else (.suspend ready next, s)

end Coroutine

/-- Tasks and what they share. -/
structure World (ε σ α : Type) where
  tasks : Nat → Coroutine ε σ α
  shared : σ

/-- A task has its turn. -/
def World.step (w : World ε σ α) (turn : Nat × Option ε) : World ε σ α where
  tasks := Function.update w.tasks turn.1 ((w.tasks turn.1).resume turn.2 w.shared).1
  shared := ((w.tasks turn.1).resume turn.2 w.shared).2

/-- Any number of turns. -/
def World.run (w : World ε σ α) (turns : List (Nat × Option ε)) : World ε σ α := turns.foldl World.step w

/-! ## Relying on each other -/

/-- What holds at every suspension, what a task may rely on while it is suspended, and what it owes the
others between two suspensions. -/
structure Rules (σ : Type) where
  inv : σ → Prop
  rely : Nat → σ → σ → Prop
  guarantee : Nat → σ → σ → Prop
  refl : ∀ i s, rely i s s
  trans : ∀ i s t u, rely i s t → rely i t u → rely i s u
  kept : ∀ i j s t, i ≠ j → guarantee i s t → rely j s t
  idle : ∀ i s, guarantee i s s

namespace Rules

variable (rules : Rules σ) (i : Nat)

/-- A program keeps to the rules; its current turn began in the first state. -/
def Safe (Q : Except ε α → σ → σ → Prop) : Coroutine ε σ α → σ → σ → Prop
  | .done result, began, s => Q result began s
  | .act change next, began, s => Safe Q (next s) began (change s)
  | .suspend ready next, began, s => rules.inv s ∧ rules.guarantee i began s ∧
      ∀ t, rules.inv t → rules.rely i s t → ∀ thrown, (thrown = none → ready t = true) →
        Safe Q (next thrown) t t

/-- A task may end here. -/
def Ends (R : Except ε α → σ → Prop) (result : Except ε α) (began s : σ) : Prop :=
  rules.inv s ∧ rules.guarantee i began s ∧ R result s

/-- A task may have its turn now. -/
def Resumable (R : Except ε α → σ → Prop) : Coroutine ε σ α → σ → Prop
  | .done result, s => R result s
  | .act change next, s => rules.Safe i (rules.Ends i R) (.act change next) s s
  | .suspend ready next, s => ∀ thrown, (thrown = none → ready s = true) →
      rules.Safe i (rules.Ends i R) (next thrown) s s

variable {rules} {i}

/-- What takes over keeps to the rules as well. -/
theorem Safe.handle {R : Except ε α → σ → σ → Prop} {Q : Except ε β → σ → σ → Prop}
    {next : Except ε α → Coroutine ε σ β} {program : Coroutine ε σ α} {began s : σ}
    (first : rules.Safe i R program began s)
    (then' : ∀ result began t, R result began t → rules.Safe i Q (next result) began t) :
    rules.Safe i Q (program.handle next) began s := by
  induction program generalizing began s with
  | done result => exact then' result began s first
  | act change rest ih => exact ih s first
  | suspend ready rest ih =>
    exact ⟨first.1, first.2.1, fun t inv relies thrown woken => ih thrown (first.2.2 t inv relies thrown woken)⟩

/-- One program after another. -/
theorem Safe.bind {R : Except ε α → σ → σ → Prop} {Q : Except ε β → σ → σ → Prop}
    {next : α → Coroutine ε σ β} {program : Coroutine ε σ α} {began s : σ}
    (first : rules.Safe i R program began s)
    (returns : ∀ value began t, R (.ok value) began t → rules.Safe i Q (next value) began t)
    (raises : ∀ e began t, R (.error e) began t → Q (.error e) began t) :
    rules.Safe i Q (program >>= next) began s := by
  refine first.handle fun result began t outcome => ?_
  cases result with
  | ok value => exact returns value began t outcome
  | error e => exact raises e began t outcome

variable {R : Except ε α → σ → Prop} {program : Coroutine ε σ α}

/-- A turn ends as the rules ask for. -/
theorem Safe.advance {began s : σ} (safe : rules.Safe i (rules.Ends i R) program began s) :
    rules.inv (program.advance s).2 ∧ rules.guarantee i began (program.advance s).2 ∧
      (∀ t, rules.inv t → rules.rely i (program.advance s).2 t →
        (∀ result, R result (program.advance s).2 → R result t) →
        rules.Resumable i R (program.advance s).1 t) := by
  induction program generalizing s with
  | done result => exact ⟨safe.1, safe.2.1, fun t _ _ lasting => lasting result safe.2.2⟩
  | act change next ih => exact ih s safe
  | suspend ready next => exact ⟨safe.1, safe.2.1, fun t inv relies _ => safe.2.2 t inv relies⟩

variable (rules) in
/-- Every task may have its turn, whatever the others do before it. -/
structure Orderly (R : Nat → Except ε α → σ → Prop) (w : World ε σ α) : Prop where
  inv : rules.inv w.shared
  ready : ∀ i t, rules.inv t → rules.rely i w.shared t → rules.Resumable i (R i) (w.tasks i) t

/-- A turn keeps to the rules. -/
theorem Resumable.turn {s : σ} (resumable : rules.Resumable i R program s) (inv : rules.inv s)
    (thrown : Option ε)
    (stays : ∀ t, rules.inv t → rules.rely i s t → rules.Resumable i R program t)
    (lasting : ∀ result s t, R result s → rules.rely i s t → R result t) :
    rules.inv (program.resume thrown s).2 ∧ rules.guarantee i s (program.resume thrown s).2 ∧
      ∀ t, rules.inv t → rules.rely i (program.resume thrown s).2 t →
        rules.Resumable i R (program.resume thrown s).1 t := by
  have goes {p : Coroutine ε σ α} {u : σ} (safe : rules.Safe i (rules.Ends i R) p s u) :
      rules.inv (p.advance u).2 ∧ rules.guarantee i s (p.advance u).2 ∧
        ∀ t, rules.inv t → rules.rely i (p.advance u).2 t → rules.Resumable i R (p.advance u).1 t := by
    obtain ⟨after, owed, ready⟩ := safe.advance
    exact ⟨after, owed, fun t inv relies => ready t inv relies fun result holds =>
      lasting result _ t holds relies⟩
  cases program with
  | done result => exact ⟨inv, rules.idle i s, fun t _ relies => lasting result s t resumable relies⟩
  | act change next => exact goes (p := next s) (u := change s) resumable
  | suspend ready next =>
    have turn : (Coroutine.suspend ready next).resume thrown s =
        if thrown.isSome || ready s then (next thrown).advance s else (.suspend ready next, s) := rfl
    rw [turn]
    by_cases woken : (thrown.isSome || ready s) = true
    · rw [if_pos woken]
      refine goes (resumable thrown fun normal => ?_)
      rw [normal] at woken
      exact woken
    · rw [if_neg woken]
      exact ⟨inv, rules.idle i s, stays⟩

/-- A task that keeps to the rules from here may have its turn. -/
theorem Safe.resumable {s : σ} (safe : rules.Safe i (rules.Ends i R) program s s) :
    rules.Resumable i R program s := by
  cases program with
  | done result => exact safe.2.2
  | act change next => exact safe
  | suspend ready next => exact safe.2.2 s safe.1 (rules.refl i s)

variable {tasks : Nat → Except ε α → σ → Prop}

/-- Each turn keeps the others going. -/
theorem Orderly.step {w : World ε σ α} (orderly : rules.Orderly tasks w)
    (lasting : ∀ i result s t, tasks i result s → rules.rely i s t → tasks i result t)
    (turn : Nat × Option ε) : rules.Orderly tasks (w.step turn) := by
  obtain ⟨i, thrown⟩ := turn
  have own := (orderly.ready i w.shared orderly.inv (rules.refl i _)).turn orderly.inv thrown
    (orderly.ready i) (lasting i)
  refine ⟨own.1, fun j t inv relies => ?_⟩
  by_cases same : j = i
  · rw [same] at relies ⊢
    show rules.Resumable i (tasks i) (Function.update w.tasks i _ i) t
    rw [Function.update_self]
    exact own.2.2 t inv relies
  · show rules.Resumable j (tasks j) (Function.update w.tasks i _ j) t
    rw [Function.update_of_ne same]
    exact orderly.ready j t inv (rules.trans j _ _ _ (rules.kept i j _ _ (Ne.symm same) own.2.1) relies)

/-- So does any number of turns. -/
theorem Orderly.run {w : World ε σ α} (orderly : rules.Orderly tasks w)
    (lasting : ∀ i result s t, tasks i result s → rules.rely i s t → tasks i result t)
    (turns : List (Nat × Option ε)) : rules.Orderly tasks (w.run turns) := by
  induction turns generalizing w with
  | nil => exact orderly
  | cons turn turns ih => exact ih (orderly.step lasting turn)

/-- What a task that is over came to. -/
theorem Orderly.finished {w : World ε σ α} (orderly : rules.Orderly tasks w) {i : Nat} {result : Except ε α}
    (finished : w.tasks i = .done result) : tasks i result w.shared := by
  have resumable := orderly.ready i w.shared orderly.inv (rules.refl i _)
  rw [finished] at resumable
  exact resumable

end Rules

/-! ## A lock -/

/-- A lock with what it protects. -/
structure Guarded (ρ : Type) where
  /-- The task that holds the lock. -/
  holder : Option Nat
  resource : ρ

namespace Coroutine

/-- A program that holds the lock works on what it protects. -/
def inside : Coroutine ε ρ α → Coroutine ε (Guarded ρ) α
  | .done result => .done result
  | .act change next =>
    .act (fun s => { s with resource := change s.resource }) fun s => inside (next s.resource)
  | .suspend ready next => .suspend (fun s => ready s.resource) fun thrown => inside (next thrown)

/-- `await lock.acquire()`. -/
def acquire (i : Nat) : Coroutine ε (Guarded ρ) Unit := do
  wait fun s => s.holder.isNone
  modify fun s => { s with holder := some i }

/-- `lock.release()`. -/
def release : Coroutine ε (Guarded ρ) Unit := modify fun s => { s with holder := none }

/-- `async with lock`. -/
def locked (i : Nat) (body : Coroutine ε ρ α) : Coroutine ε (Guarded ρ) α := do
  acquire i
  ensure (inside body) release

end Coroutine

/-- An invariant of what the lock protects, the changes that are made to it, and what they all keep. -/
structure Protects (ρ : Type) where
  inv : ρ → Prop
  grows : ρ → ρ → Prop
  ever : ρ → Prop
  refl : ∀ r, grows r r
  trans : ∀ r s t, grows r s → grows s t → grows r t
  lasts : ∀ r s, ever r → grows r s → ever s

namespace Protects

variable (law : Protects ρ)

/-- The rules for the tasks that use the lock. -/
def rules : Rules (Guarded ρ) where
  inv s := law.ever s.resource ∧ (s.holder = none → law.inv s.resource)
  rely i s t := law.grows s.resource t.resource ∧ (s.holder = some i ↔ t.holder = some i) ∧
    (s.holder = some i → t.resource = s.resource)
  guarantee i s t := law.grows s.resource t.resource ∧ ∀ j, i ≠ j →
    (s.holder = some j ↔ t.holder = some j) ∧ (s.holder = some j → t.resource = s.resource)
  refl _ _ := ⟨law.refl _, Iff.rfl, fun _ => rfl⟩
  trans _ _ _ _ first second :=
    ⟨law.trans _ _ _ first.1 second.1, first.2.1.trans second.2.1, fun holds =>
      (second.2.2 (first.2.1.mp holds)).trans (first.2.2 holds)⟩
  kept _ j _ _ apart owes := ⟨owes.1, owes.2 j apart⟩
  idle _ _ := ⟨law.refl _, fun _ _ => ⟨Iff.rfl, fun _ => rfl⟩⟩

/-- The task holds the lock; at the beginning of its turn nobody else did. -/
structure Holds (i : Nat) (began s : Guarded ρ) : Prop where
  ever : law.ever s.resource
  holder : s.holder = some i
  alone : began.holder = none ∨ began.holder = some i
  grew : law.grows began.resource s.resource

/-- The task does not hold the lock. -/
structure Outside (i : Nat) (began s : Guarded ρ) : Prop where
  inv : law.rules.inv s
  owes : law.rules.guarantee i began s
  free : s.holder ≠ some i

/-- What may be known of the protected state at every time. -/
def Lasting (P : ρ → Prop) : Prop := ∀ r s, P r → law.grows r s → P s

variable {law} {i : Nat} {began s : Guarded ρ}

/-- The others never hold the lock at the same time. -/
theorem Holds.owes (holds : law.Holds i began s) : law.rules.guarantee i began s := by
  refine ⟨holds.grew, fun j apart => ?_⟩
  have other : began.holder ≠ some j := by
    rcases holds.alone with free | own
    · rw [free]
      exact Option.some_ne_none j |>.symm
    · rw [own]
      exact fun same => apart (Option.some.inj same)
  refine ⟨iff_of_false other ?_, fun held => absurd held other⟩
  rw [holds.holder]
  exact fun same => apart (Option.some.inj same)

/-- A program that holds the lock is alone with what it protects. -/
theorem Holds.safe_inside {Q : Except ε α → ρ → Prop} {body : Coroutine ε ρ α} (holds : law.Holds i began s)
    (brings : body.Brings law.grows Q s.resource) :
    law.rules.Safe i (fun result began s => law.Holds i began s ∧ Q result s.resource) body.inside began s := by
  induction body generalizing began s with
  | done result => exact ⟨holds, brings⟩
  | act change next ih =>
    exact ih s.resource ⟨law.lasts _ _ holds.ever brings.1, holds.holder, holds.alone,
      law.trans _ _ _ holds.grew brings.1⟩ brings.2
  | suspend ready next ih =>
    have taken : law.rules.inv s := ⟨holds.ever, fun free => by
      rw [holds.holder] at free
      cases free⟩
    refine ⟨taken, holds.owes, fun t inv relies thrown woken => ?_⟩
    have same : t.resource = s.resource := relies.2.2 holds.holder
    have mine : t.holder = some i := relies.2.1.mp holds.holder
    refine ih thrown ⟨inv.1, mine, .inr mine, law.refl _⟩ ?_
    rw [same]
    refine brings thrown fun normal => ?_
    rw [← same]
    exact woken normal

/-- The lock is taken, or the wait for it ends with an exception. -/
theorem Outside.safe_acquire {P : ρ → Prop} (outside : law.Outside i began s) (lasting : law.Lasting P)
    (known : P s.resource) :
    law.rules.Safe i (fun result began s => P s.resource ∧
      Coroutine.Outcome (fun _ s => law.Holds i began s ∧ law.inv s.resource)
        (fun _ s => law.Outside i began s) result s)
      (Coroutine.acquire i : Coroutine ε (Guarded ρ) Unit) began s := by
  refine ⟨outside.inv, outside.owes, fun t inv relies thrown woken => ?_⟩
  have known : P t.resource := lasting _ _ known relies.1
  have free : t.holder ≠ some i := fun mine => outside.free (relies.2.1.mpr mine)
  cases thrown with
  | some e => exact ⟨known, inv, law.rules.idle i t, free⟩
  | none =>
    have none : t.holder = none := Option.isNone_iff_eq_none.mp (woken rfl)
    exact ⟨known, ⟨inv.1, rfl, .inl none, law.refl _⟩, inv.2 none⟩

/-- The lock is given back with its invariant. -/
theorem Holds.released (holds : law.Holds i began s) (inv : law.inv s.resource) :
    law.Outside i began { s with holder := none } := by
  refine ⟨⟨holds.ever, fun _ => inv⟩, ⟨holds.grew, fun j apart => ?_⟩, fun none => by cases none⟩
  obtain ⟨same, kept⟩ := holds.owes.2 j apart
  refine ⟨iff_of_false (fun other => ?_) fun none => (by cases none), fun other => kept other⟩
  have both := same.mp other
  rw [holds.holder] at both
  exact apart (Option.some.inj both)

/-- A program under the lock. -/
theorem Outside.safe_locked {P : ρ → Prop} {Q : α → ρ → Prop} {E : ε → ρ → Prop} {body : Coroutine ε ρ α}
    (outside : law.Outside i began s) (lasting : law.Lasting P) (known : P s.resource)
    (meets : Coroutine.Meets law.grows (fun r => law.inv r ∧ P r) body (fun value r => law.inv r ∧ Q value r)
      fun e r => law.inv r ∧ E e r)
    (gaveUp : ∀ e r, P r → E e r) :
    law.rules.Safe i (fun result began s => law.Outside i began s ∧ Coroutine.Outcome Q E result s.resource)
      (Coroutine.locked i body) began s := by
  refine (outside.safe_acquire lasting known).bind (fun _ began t taken => ?_) fun e began t given =>
    ⟨given.2, gaveUp e _ given.1⟩
  refine (taken.2.1.safe_inside (meets t.resource ⟨taken.2.2, taken.1⟩)).handle fun result began u ended => ?_
  cases result with
  | ok value => exact ⟨ended.1.released ended.2.1, ended.2.2⟩
  | error e => exact ⟨ended.1.released ended.2.1, ended.2.2⟩

end Protects

end Cooperation
