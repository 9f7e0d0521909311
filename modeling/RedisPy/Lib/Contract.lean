import RedisPy.Lib.Interruptible

/-!
# Contracts of programs with state and exceptions

A contract says what a program may assume of the state, and what it owes both when it
returns and when it raises. The rules follow the structure of the program; handlers and
clean-up code, where most of the promises of client code are made, have rules of their own.
-/

namespace Contract

variable {ε σ α β : Type}

/-- `try: program except: handler`. -/
def recover (program : EStateM ε σ α) (handler : ε → EStateM ε σ α) : EStateM ε σ α := fun s =>
  match program s with
  | .ok value t => .ok value t
  | .error e t => handler e t

/-- `try: program finally: cleanup`. -/
def ensure (program : EStateM ε σ α) (cleanup : EStateM ε σ Unit) : EStateM ε σ α := fun s =>
  match program s with
  | .ok value t =>
    match cleanup t with
    | .ok _ u => .ok value u
    | .error e u => .error e u
  | .error e t =>
    match cleanup t with
    | .ok _ u => .error e u
    | .error other u => .error other u

/-- `if condition: program`. -/
def whenever (condition : Prop) [Decidable condition] (program : EStateM ε σ Unit) :
    EStateM ε σ Unit :=
  if condition then program else pure ()

/-- `if value is not None: program(value)`. -/
def whenSome (value : Option α) (program : α → EStateM ε σ Unit) : EStateM ε σ Unit :=
  match value with
  | some value => program value
  | none => pure ()

/-- Something is taken and made ready; it is given back if that fails. -/
def acquire (take : EStateM ε σ α) (ready giveBack : α → EStateM ε σ Unit) : EStateM ε σ α := do
  let taken ← take
  recover (ready taken) fun e => do
    giveBack taken
    throw e
  pure taken

/-- The state a call ends in, returning or raising. -/
def stateAfter : EStateM.Result ε σ α → σ
  | .ok _ s => s
  | .error _ s => s

/-- Clean-up code runs in the state that the program leaves, however it ends. -/
theorem stateAfter_ensure (program : EStateM ε σ α) (cleanup : EStateM ε σ Unit) (s : σ) :
    stateAfter (ensure program cleanup s) = stateAfter (cleanup (stateAfter (program s))) := by
  unfold ensure
  cases program s with
  | ok value t =>
    show stateAfter (match cleanup t with | .ok _ u => _ | .error e u => _) =
      stateAfter (cleanup t)
    cases cleanup t <;> rfl
  | error e t =>
    show stateAfter (match cleanup t with | .ok _ u => _ | .error other u => _) =
      stateAfter (cleanup t)
    cases cleanup t <;> rfl

/-- What was to be acquired could not be taken, was taken and made ready, or was given back. -/
theorem acquire_cases (take : EStateM ε σ α) (ready giveBack : α → EStateM ε σ Unit) (s : σ) :
    (∃ e t, take s = .error e t ∧ acquire take ready giveBack s = .error e t) ∨
    (∃ taken t u, take s = .ok taken t ∧ ready taken t = .ok () u ∧
      acquire take ready giveBack s = .ok taken u) ∨
    ∃ taken t e u f v, take s = .ok taken t ∧ ready taken t = .error e u ∧
      stateAfter (giveBack taken u) = v ∧ acquire take ready giveBack s = .error f v := by
  unfold acquire
  cases took : take s with
  | error e t =>
    left
    rw [Interruptible.bind_of_error took]
    exact ⟨e, t, rfl, rfl⟩
  | ok taken t =>
    right
    rw [Interruptible.bind_of_ok took]
    cases readied : ready taken t with
    | ok value u =>
      left
      have tried : recover (ready taken) (fun e => do
          giveBack taken
          throw e) t = .ok value u := by
        unfold recover
        rw [readied]
      rw [Interruptible.bind_of_ok tried]
      exact ⟨taken, t, u, rfl, readied, rfl⟩
    | error e u =>
      right
      have tried : recover (ready taken) (fun e => do
          giveBack taken
          throw e) t = (do
          giveBack taken
          throw e : EStateM ε σ Unit) u := by
        unfold recover
        rw [readied]
      cases given : giveBack taken u with
      | ok value v =>
        have raised : (do
            giveBack taken
            throw e : EStateM ε σ Unit) u = .error e v := by
          rw [Interruptible.bind_of_ok given]
          rfl
        rw [Interruptible.bind_of_error (tried.trans raised)]
        exact ⟨taken, t, e, u, e, v, rfl, readied, by rw [given]; rfl, rfl⟩
      | error f v =>
        have raised : (do
            giveBack taken
            throw e : EStateM ε σ Unit) u = .error f v := by
          rw [Interruptible.bind_of_error given]
        rw [Interruptible.bind_of_error (tried.trans raised)]
        exact ⟨taken, t, e, u, f, v, rfl, readied, by rw [given]; rfl, rfl⟩

/-- From a state with `P`, the program returns under `Q` or raises under `E`. -/
def Meets (P : σ → Prop) (program : EStateM ε σ α) (Q : α → σ → Prop) (E : ε → σ → Prop) : Prop :=
  ∀ s, P s →
    match program s with
    | .ok value t => Q value t
    | .error e t => E e t

/-- A program that keeps an invariant, returning or raising. -/
def Keeps (I : σ → Prop) (program : EStateM ε σ α) : Prop :=
  Meets I program (fun _ => I) fun _ => I

section Rules

variable {P R : σ → Prop} {Q : α → σ → Prop} {S : β → σ → Prop} {E F : ε → σ → Prop}
variable {program : EStateM ε σ α} {next : α → EStateM ε σ β}

/-- Returning. -/
theorem meets_pure {value : α} (returns : ∀ s, P s → Q value s) :
    Meets P (pure value : EStateM ε σ α) Q E :=
  returns

/-- Raising. -/
theorem meets_throw {e : ε} (raises : ∀ s, P s → E e s) :
    Meets P (throw e : EStateM ε σ α) Q E :=
  raises

/-- A program that raises in the end never returns. -/
theorem meets_before_throw (first : EStateM ε σ β) (e : ε) :
    Meets P (first >>= fun _ => (throw e : EStateM ε σ α)) Q fun _ _ => True := by
  intro s _
  cases ran : first s with
  | ok value t =>
    rw [Interruptible.bind_of_ok ran]
    exact trivial
  | error other t =>
    rw [Interruptible.bind_of_error ran]
    exact trivial

/-- Changing the state. -/
theorem meets_modify {change : σ → σ} {Q : Unit → σ → Prop} (changes : ∀ s, P s → Q () (change s)) :
    Meets P (modify change : EStateM ε σ Unit) Q E :=
  changes

/-- One program after another. -/
theorem Meets.bind (first : Meets P program Q E) (second : ∀ value, Meets (Q value) (next value) S E) :
    Meets P (program >>= next) S E := by
  intro s start
  have one := first s start
  cases ran : program s with
  | ok value t =>
    rw [ran] at one
    rw [Interruptible.bind_of_ok ran]
    exact second value t one
  | error e t =>
    rw [ran] at one
    rw [Interruptible.bind_of_error ran]
    exact one

/-- Looking at the state. -/
theorem meets_get {body : σ → EStateM ε σ β} (looks : ∀ s, P s → Meets (· = s) (body s) S E) :
    Meets P (get >>= body) S E := by
  intro s start
  have read : (get : EStateM ε σ σ) s = .ok s s := rfl
  rw [Interruptible.bind_of_ok read]
  exact looks s start s rfl

/-- A weaker contract. -/
theorem Meets.weaken (meets : Meets P program Q E) {P' : σ → Prop} {Q' : α → σ → Prop}
    {E' : ε → σ → Prop} (assume : ∀ s, P' s → P s) (returns : ∀ value s, Q value s → Q' value s)
    (raises : ∀ e s, E e s → E' e s) : Meets P' program Q' E' := by
  intro s start
  have ends := meets s (assume s start)
  cases ran : program s with
  | ok value t =>
    rw [ran] at ends
    exact returns value t ends
  | error e t =>
    rw [ran] at ends
    exact raises e t ends

/-- A weaker assumption. -/
theorem Meets.assuming (meets : Meets P program Q E) {P' : σ → Prop} (assume : ∀ s, P' s → P s) :
    Meets P' program Q E :=
  meets.weaken assume (fun _ _ => id) fun _ _ => id

/-- The contract from one state. -/
theorem Meets.from_state (meets : Meets P program Q E) {s : σ} (start : P s) :
    Meets (· = s) program Q E := by
  intro t same
  rw [same]
  exact meets s start

/-- What the state says nothing about may be assumed. -/
theorem meets_given {fact : Prop} (meets : fact → Meets P program Q E) :
    Meets (fun s => P s ∧ fact) program Q E :=
  fun s start => meets start.2 s start.1

/-- Two contracts at once. -/
theorem Meets.and (meets : Meets P program Q E) {P' : σ → Prop} {Q' : α → σ → Prop}
    {E' : ε → σ → Prop} (also : Meets P' program Q' E') :
    Meets (fun s => P s ∧ P' s) program (fun value s => Q value s ∧ Q' value s)
      fun e s => E e s ∧ E' e s := by
  intro s start
  have one := meets s start.1
  have two := also s start.2
  cases ran : program s with
  | ok value t =>
    rw [ran] at one two
    exact ⟨one, two⟩
  | error e t =>
    rw [ran] at one two
    exact ⟨one, two⟩

/-- A handler takes over what the program raises. -/
theorem Meets.recover {handler : ε → EStateM ε σ α} (tried : Meets P program Q E)
    (handled : ∀ e, Meets (E e) (handler e) Q F) : Meets P (recover program handler) Q F := by
  intro s start
  have one := tried s start
  unfold Contract.recover
  cases ran : program s with
  | ok value t =>
    rw [ran] at one
    exact one
  | error e t =>
    rw [ran] at one
    exact handled e t one

/-- Clean-up runs in both cases; what it raises replaces the outcome. -/
theorem Meets.ensure {cleanup : EStateM ε σ Unit} {T : α → σ → Prop} (tried : Meets P program Q E)
    (afterReturn : ∀ value, Meets (Q value) cleanup (fun _ => T value) F)
    (afterRaise : ∀ e, Meets (E e) cleanup (fun _ => F e) F) :
    Meets P (ensure program cleanup) T F := by
  intro s start
  have one := tried s start
  unfold Contract.ensure
  cases ran : program s with
  | ok value t =>
    rw [ran] at one
    have two := afterReturn value t one
    simp only
    cases cleaned : cleanup t with
    | ok _ u =>
      rw [cleaned] at two
      exact two
    | error other u =>
      rw [cleaned] at two
      exact two
  | error e t =>
    rw [ran] at one
    have two := afterRaise e t one
    simp only
    cases cleaned : cleanup t with
    | ok _ u =>
      rw [cleaned] at two
      exact two
    | error other u =>
      rw [cleaned] at two
      exact two

/-- A branch. -/
theorem meets_ite {condition : Prop} [Decidable condition] {yes no : EStateM ε σ α}
    (whenTrue : condition → Meets P yes Q E) (whenFalse : ¬condition → Meets P no Q E) :
    Meets P (if condition then yes else no) Q E := by
  by_cases holds : condition
  · rw [if_pos holds]
    exact whenTrue holds
  · rw [if_neg holds]
    exact whenFalse holds

/-- A step that is not always made. -/
theorem meets_whenever {condition : Prop} [Decidable condition] {program : EStateM ε σ Unit}
    {Q : Unit → σ → Prop} (made : condition → Meets P program Q E)
    (skipped : ¬condition → ∀ s, P s → Q () s) : Meets P (whenever condition program) Q E :=
  meets_ite made fun not => meets_pure (skipped not)

/-- A step that needs a value. -/
theorem meets_whenSome {given : Option β} {program : β → EStateM ε σ Unit}
    {Q : Unit → σ → Prop} (made : ∀ value, Meets P (program value) Q E)
    (skipped : ∀ s, P s → Q () s) : Meets P (whenSome given program) Q E := by
  cases given with
  | some value => exact made value
  | none => exact meets_pure skipped

end Rules

section Invariants

variable {I : σ → Prop} {program : EStateM ε σ α} {next : α → EStateM ε σ β}

/-- Returning keeps everything. -/
theorem keeps_pure (value : α) : Keeps I (pure value : EStateM ε σ α) := fun _ => id

/-- Raising keeps everything. -/
theorem keeps_throw (e : ε) : Keeps I (throw e : EStateM ε σ α) := fun _ => id

/-- A change that keeps the invariant. -/
theorem keeps_modify {change : σ → σ} (kept : ∀ s, I s → I (change s)) :
    Keeps I (modify change : EStateM ε σ Unit) := kept

/-- One program after another. -/
theorem Keeps.bind (first : Keeps I program) (second : ∀ value, Keeps I (next value)) :
    Keeps I (program >>= next) :=
  Meets.bind first second

/-- A handler. -/
theorem Keeps.recover {handler : ε → EStateM ε σ α} (tried : Keeps I program)
    (handled : ∀ e, Keeps I (handler e)) : Keeps I (recover program handler) :=
  Meets.recover tried handled

/-- Clean-up. -/
theorem Keeps.ensure {cleanup : EStateM ε σ Unit} (tried : Keeps I program)
    (cleaned : Keeps I cleanup) : Keeps I (ensure program cleanup) :=
  Meets.ensure tried (fun _ => cleaned) fun _ => cleaned

/-- A branch. -/
theorem keeps_ite {condition : Prop} [Decidable condition] {yes no : EStateM ε σ α}
    (whenTrue : Keeps I yes) (whenFalse : Keeps I no) :
    Keeps I (if condition then yes else no) :=
  meets_ite (fun _ => whenTrue) fun _ => whenFalse

/-- A step that is not always made. -/
theorem keeps_whenever {condition : Prop} [Decidable condition] {program : EStateM ε σ Unit}
    (kept : Keeps I program) : Keeps I (whenever condition program) :=
  keeps_ite kept (keeps_pure ())

/-- A check that may raise. -/
theorem keeps_guard {condition : Prop} [Decidable condition] {e : ε} :
    Keeps I (whenever condition (throw e : EStateM ε σ Unit)) :=
  keeps_whenever (keeps_throw e)

/-- A step that needs a value. -/
theorem keeps_whenSome {value : Option β} {program : β → EStateM ε σ Unit}
    (kept : ∀ value, Keeps I (program value)) : Keeps I (whenSome value program) := by
  cases value with
  | some value => exact kept value
  | none => exact keeps_pure ()

/-- Looking at the state. -/
theorem keeps_get {body : σ → EStateM ε σ β} (looks : ∀ s, Keeps I (body s)) :
    Keeps I (get >>= body) :=
  meets_get fun s start => (looks s).from_state start

/-- What holds in both ends of a program holds in the state it ends in. -/
theorem Meets.stateAfter {P J : σ → Prop} (meets : Meets P program (fun _ => J) fun _ => J) {s : σ}
    (start : P s) : J (stateAfter (program s)) := by
  have ends := meets s start
  cases ran : program s with
  | ok _ t =>
    rw [ran] at ends
    exact ends
  | error _ t =>
    rw [ran] at ends
    exact ends

/-- An invariant holds in the state a program ends in. -/
theorem Keeps.stateAfter (keeps : Keeps I program) {s : σ} (start : I s) :
    I (stateAfter (program s)) :=
  Meets.stateAfter keeps start

end Invariants

end Contract
