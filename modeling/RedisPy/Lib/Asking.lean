import RedisPy.Lib.Contract

/-!
# Programs that ask their environment

What a program does not decide itself, it asks its environment for. The questions are numbered
by a clock in the state, so an environment is a function of the clock, and every question may
have an answer of its own.
-/

namespace Contract

variable {ε σ α β : Type}

/-- A state with a clock that counts questions. -/
class Clocked (σ : Type) where
  /-- How often the environment was asked. -/
  clock : σ → Nat
  /-- One more question. -/
  tick : σ → σ

variable [Clocked σ]

/-- Ask the environment. -/
def ask (question : Nat → α) : EStateM ε σ α := fun s =>
  .ok (question (Clocked.clock s)) (Clocked.tick s)

/-- Ask the environment for something that may be an exception. -/
def consult (question : Nat → Except ε α) : EStateM ε σ α := do
  match ← ask question with
  | .ok value => pure value
  | .error e => throw e

/-- An answer. -/
theorem consult_ok {question : Nat → Except ε α} {value : α} {s : σ}
    (answer : question (Clocked.clock s) = .ok value) :
    consult question s = .ok value (Clocked.tick s) := by
  have asked : (ask question : EStateM ε σ (Except ε α)) s =
    .ok (question (Clocked.clock s)) (Clocked.tick s) := rfl
  unfold consult
  rw [Interruptible.bind_of_ok asked, answer]
  rfl

/-- An exception. -/
theorem consult_error {question : Nat → Except ε α} {e : ε} {s : σ}
    (answer : question (Clocked.clock s) = .error e) :
    (consult question : EStateM ε σ α) s = .error e (Clocked.tick s) := by
  have asked : (ask question : EStateM ε σ (Except ε α)) s =
    .ok (question (Clocked.clock s)) (Clocked.tick s) := rfl
  unfold consult
  rw [Interruptible.bind_of_ok asked, answer]
  rfl

section Rules

variable {P : σ → Prop} {Q : α → σ → Prop} {E : ε → σ → Prop}

/-- Asking. -/
theorem meets_ask {question : Nat → α}
    (asks : ∀ s, P s → Q (question (Clocked.clock s)) (Clocked.tick s)) :
    Meets P (ask question) Q E :=
  asks

/-- Asking, with what is done with the answer. -/
theorem meets_ask_bind {question : Nat → α} {body : α → EStateM ε σ β} {S : β → σ → Prop}
    (asked : ∀ s, P s → Meets (· = Clocked.tick s) (body (question (Clocked.clock s))) S E) :
    Meets P (ask question >>= body) S E := by
  intro s start
  have answered : (ask question : EStateM ε σ α) s =
    .ok (question (Clocked.clock s)) (Clocked.tick s) := rfl
  rw [Interruptible.bind_of_ok answered]
  exact asked s start (Clocked.tick s) rfl

/-- Asking for something that may be an exception. -/
theorem meets_consult {question : Nat → Except ε α}
    (answers : ∀ value s, P s → question (Clocked.clock s) = .ok value → Q value (Clocked.tick s))
    (raises : ∀ e s, P s → question (Clocked.clock s) = .error e → E e (Clocked.tick s)) :
    Meets P (consult question) Q E := by
  intro s start
  cases answer : question (Clocked.clock s) with
  | ok value =>
    rw [consult_ok answer]
    exact answers value s start answer
  | error e =>
    rw [consult_error answer]
    exact raises e s start answer

/-- Asking keeps what time does not change. -/
theorem keeps_consult {I : σ → Prop} (ticks : ∀ s, I s → I (Clocked.tick s))
    (question : Nat → Except ε α) : Keeps I (consult question) :=
  meets_consult (fun _ s holds _ => ticks s holds) fun _ s holds _ => ticks s holds

end Rules

end Contract
