import RedisPy.Client.Conduct
import RedisPy.Lib.Runs
import RedisPy.Sentinel.ManagedConnection

/-!
# Every reconnection asks the sentinels

`connect` opens a socket only to an address that it has just discovered, whatever runs on the new
socket and however often it is retried. So a socket with an old address is opened only by a send
that finds none.
-/

namespace RedisPy

open Contract Runs

variable {F : Type}

namespace Managed

/-! ## What calls keep -/

/-- An invariant that neither time nor a lost socket ends. -/
structure Lasting (I : Managed → Prop) : Prop where
  tick : ∀ s, I s → I s.tick
  drop : ∀ s, I s → I s.drop

namespace Lasting

variable {I : Managed → Prop} {config : ManagedConfig F} {env : ManagedEnv F} {methods : Methods}

/-- Asking the environment. -/
theorem ask {α : Type} (lasting : Lasting I) (question : Nat → α) :
    Keeps I (ask question : EStateM Exc Managed α) := lasting.tick

/-- Disconnecting. -/
theorem disconnect (lasting : Lasting I) (nowait : Bool) : Keeps I (disconnect config env nowait) := by
  apply keeps_get
  intro s
  apply keeps_whenever
  apply (keeps_modify lasting.drop).bind
  intro _
  apply keeps_whenever
  exact (lasting.ask env.close).bind fun failure => keeps_whenSome keeps_throw

/-- Writing. -/
theorem transmit (lasting : Lasting I) (command : Words) : Keeps I (transmit config env command) := by
  apply keeps_get
  intro s
  apply keeps_ite
  · apply (lasting.ask (env.write command)).bind
    intro failure
    exact keeps_whenSome fun e => (lasting.disconnect true).bind fun _ => keeps_throw _
  · exact keeps_throw _

/-- Reading. -/
theorem readPlain (lasting : Lasting I) (disconnectOnError : Bool) :
    Keeps I (readPlain config env disconnectOnError) := by
  apply keeps_get
  intro s
  apply keeps_ite
  · apply (lasting.ask env.reply).bind
    intro reply
    split
    · exact (keeps_whenever (lasting.disconnect true)).bind fun _ => keeps_throw _
    · exact keeps_ite (keeps_throw _) (keeps_pure _)
    · exact keeps_pure _
  · exact keeps_throw _

/-- Reading from a master. -/
theorem readResponse (lasting : Lasting I) (disconnectOnError : Bool) :
    Keeps I (readResponse config env disconnectOnError) := by
  apply (lasting.readPlain disconnectOnError).recover
  intro e
  exact keeps_ite ((lasting.disconnect false).bind fun _ => keeps_throw _) (keeps_throw e)

/-- Connecting if there is no socket. -/
theorem connectIfClosed {program : EStateM Exc Managed Unit} (keeps : Keeps I program) :
    Keeps I (connectIfClosed program) :=
  keeps_get fun _ => keeps_whenever keeps

/-- A health check. -/
theorem checkHealth (lasting : Lasting I)
    (sends : Keeps I (methods.connectCheckHealth .send false)) :
    Keeps I (checkHealth config env methods) := by
  have pings : Keeps I (sendPing config env methods) := by
    apply (connectIfClosed sends).bind
    intro _
    apply (lasting.transmit _).bind
    intro _
    apply (lasting.readResponse config.asyncio).bind
    exact fun response => keeps_guard
  apply (lasting.ask env.due).bind
  intro due
  apply keeps_whenever
  exact config.retry.keeps_callWithRetry pings (fun _ => lasting.disconnect false) env.patience 0

/-- Sending. -/
theorem sendPackedCommand (lasting : Lasting I)
    (sends : Keeps I (methods.connectCheckHealth .send false)) (command : Words) (check : Bool) :
    Keeps I (sendPackedCommand config env methods command check) := by
  apply (connectIfClosed sends).bind
  intro _
  apply (keeps_whenever (lasting.checkHealth sends)).bind
  exact fun _ => lasting.transmit command

/-- Polling. -/
theorem poll (lasting : Lasting I) :
    Keeps I (recover (do let _ ← consult env.canRead) fun e =>
      if e.isinstance .osError then do
        Managed.disconnect config env true
        throw { cls := .connectionError }
      else throw e) := by
  have asks : Keeps I (do let _ ← consult env.canRead : EStateM Exc Managed Unit) :=
    (keeps_consult lasting.tick env.canRead).bind fun _ => keeps_pure ()
  apply asks.recover
  intro e
  exact keeps_ite ((lasting.disconnect true).bind fun _ => keeps_throw _) (keeps_throw e)

/-- A command of a client, with its retries. -/
theorem executeCommand (lasting : Lasting I)
    (sends : Keeps I (methods.connectCheckHealth .send false)) (command : Words) :
    Keeps I (executeCommand config env methods command) := by
  have attempt : Keeps I (do
      Managed.sendPackedCommand config env methods command true
      let _ ← Managed.readDefault config env) := by
    apply (lasting.sendPackedCommand sends command true).bind
    intro _
    exact (lasting.readResponse config.asyncio).bind fun _ => keeps_pure ()
  have fails (e : Exc) : Keeps I (disconnectRaise config env e) :=
    (lasting.disconnect false).bind fun _ => keeps_guard
  exact config.retry.keeps_callWithRetry attempt fails env.patience 0

end Lasting

/-! ## Histories -/

/-- Dropping a socket opens none. -/
theorem rediscovers_drop {s : Managed} (rediscovers : Rediscovers s.history) :
    Rediscovers s.drop.history := by
  unfold drop
  split
  · exact rediscovers
  · exact rediscovers

/-- Without a socket there is nothing to drop. -/
theorem drop_of_closed {s : Managed} (closed : s.sock = false) : s.drop = s := by
  unfold drop
  rw [closed]
  rfl

/-- Dropping a socket takes no time. -/
theorem clock_drop (s : Managed) : s.drop.clock = s.clock := by
  unfold drop
  split <;> rfl

/-- What is sealed stays sealed. -/
theorem sealed_later {env : ManagedEnv F} {opener : Opener} {time other : Nat}
    (closed : Sealed env opener time) (later : time ≤ other) : Sealed env opener other :=
  fun n after => closed n (later.trans after)

/-- No socket is opened for a send any more. -/
structure Guarded (env : ManagedEnv F) (s : Managed) : Prop where
  rediscovers : Rediscovers s.history
  sends : Sealed env .send s.clock

/-- There is no socket, and the host and port were discovered after the latest one. -/
structure Fresh (s : Managed) : Prop where
  closed : s.sock = false
  discovered : s.address ∈ learned s.history

section Guarded

variable {config : ManagedConfig F} {env : ManagedEnv F} {inner : Methods}

/-- Being guarded lasts. -/
theorem lasting_guarded : Lasting (Guarded env) where
  tick _ guarded := ⟨guarded.rediscovers, sealed_later guarded.sends (Nat.le_succ _)⟩
  drop s guarded := ⟨rediscovers_drop guarded.rediscovers, by
    rw [clock_drop]
    exact guarded.sends⟩

/-- `connect` dials an address that was just discovered, or no socket is opened by it any more. -/
def Dials (env : ManagedEnv F) (s : Managed) : Prop :=
  Guarded env s ∧ (Fresh s ∨ Sealed env .connect s.clock)

/-- So it does after a failure. -/
theorem lasting_dials : Lasting (Dials env) where
  tick s dials := by
    refine ⟨lasting_guarded.tick s dials.1, dials.2.imp (fun fresh => ?_) fun closed => ?_⟩
    · exact ⟨fresh.closed, fresh.discovered⟩
    · exact sealed_later closed (Nat.le_succ _)
  drop s dials := by
    refine ⟨lasting_guarded.drop s dials.1, dials.2.imp (fun fresh => ?_) fun closed => ?_⟩
    · rw [drop_of_closed fresh.closed]
      exact fresh
    · rw [clock_drop]
      exact closed

/-- Dialling: what holds in its three ends. -/
theorem meets_dial (config : ManagedConfig F) {opener : Opener} {P Q : Managed → Prop}
    {E : Exc → Managed → Prop}
    (opens : ∀ s, P s → env.dial opener s.clock = .opened → Q s.tick.opened)
    (refuses : ∀ s e, P s → env.dial opener s.clock = .refused e → E e s.tick)
    (spoils : ∀ s e, P s → env.dial opener s.clock = .spoiled e →
      E e s.tick.opened ∧ E e s.tick.opened.drop) :
    Meets P (dial config env opener) (fun _ => Q) E := by
  apply meets_ask_bind
  intro s start
  have same : env.dial opener (Clocked.clock s) = env.dial opener s.clock := rfl
  rw [same]
  cases dialled : env.dial opener s.clock with
  | opened =>
    rintro t rfl
    exact opens s start dialled
  | refused e =>
    rintro t rfl
    exact refuses s e start dialled
  | spoiled e =>
    obtain ⟨stored, closed⟩ := spoils s e start dialled
    have left : Meets (· = s.tick.opened) (whenever (!config.asyncio) (modify drop)) (fun _ => E e) E := by
      apply meets_whenever
      · intro _
        apply meets_modify
        rintro t rfl
        exact closed
      · rintro _ t rfl
        exact stored
    have fails : Meets (· = s.tick.opened) (do
        whenever (!config.asyncio) (modify drop)
        throw e : EStateM Exc Managed Unit) (fun _ => Q) E :=
      left.bind fun _ => meets_throw fun _ => id
    rintro t rfl
    exact fails _ rfl

/-- A send dials in vain. -/
theorem keeps_dial_send (config : ManagedConfig F) : Keeps (Guarded env) (dial config env .send) := by
  apply meets_dial
  · intro s guarded opened
    obtain ⟨e, refused⟩ := guarded.sends s.clock (Nat.le_refl _)
    rw [opened] at refused
    cases refused
  · exact fun s _ guarded _ => lasting_guarded.tick s guarded
  · intro s e guarded spoiled
    obtain ⟨e, refused⟩ := guarded.sends s.clock (Nat.le_refl _)
    rw [spoiled] at refused
    cases refused

/-- `connect` dials. -/
theorem meets_dial_connect
    (dials : DialsOnce config env) :
    Meets (Dials env) (dial config env .connect) (fun _ => Guarded env) fun e s =>
      Guarded env s ∧ (e.isinstanceAny config.retry.supportedErrors = true → Dials env s) := by
  have refused {s : Managed} (unopened : ∀ e, env.dial .connect s.clock ≠ .refused e)
      (start : Dials env s) : Fresh s := by
    apply start.2.resolve_right
    intro closed
    obtain ⟨e, refused⟩ := closed s.clock (Nat.le_refl _)
    exact unopened e refused
  have opened {s : Managed} (start : Dials env s) (fresh : Fresh s) : Guarded env s.tick.opened :=
    ⟨⟨fresh.discovered, start.1.rediscovers⟩, sealed_later start.1.sends (Nat.le_succ _)⟩
  apply meets_dial
  · intro s start dialled
    exact opened start (refused (fun e => by rw [dialled]; exact Dialled.noConfusion) start)
  · intro s e start _
    exact ⟨lasting_guarded.tick s start.1, fun _ => lasting_dials.tick s start⟩
  · intro s e start dialled
    have guarded := opened start (refused (fun e => by rw [dialled]; exact Dialled.noConfusion) start)
    have ends (supported : e.isinstanceAny config.retry.supportedErrors = true) :
        Dials env s.tick.opened := ⟨guarded, .inr (dials s.clock e dialled supported)⟩
    exact ⟨⟨guarded, ends⟩, lasting_guarded.drop _ guarded,
      fun supported => lasting_dials.drop _ (ends supported)⟩

/-- The loop of `connect_check_health` that dials for `connect`. -/
theorem meets_dials_connect
    (dials : DialsOnce config env) :
    Meets (Dials env)
      (config.retry.callWithRetry (dial config env .connect) (fun _ => disconnect config env false)
        env.patience 0)
      (fun _ => Guarded env) fun _ => Guarded env := by
  apply config.retry.meets_callWithRetry (R := Dials env) (meets_dial_connect dials)
  · intro e supported
    have closes : Keeps (Dials env) (disconnect config env false) := lasting_dials.disconnect false
    exact closes.weaken (fun s ends => ends.2 supported) (fun _ s dials => ⟨dials, dials.1⟩)
      fun _ s dials => dials.1
  · exact fun _ s _ ends => ends.1
  · exact fun _ => id
  · exact fun s dials => dials.1

/-- What the methods owe that calls nest through. -/
structure Sound (env : ManagedEnv F) (inner : Methods) : Prop where
  sends : ∀ check, Keeps (Guarded env) (inner.connectCheckHealth .send check)
  connects : ∀ check, Meets (fun s => Guarded env s ∧ s.address ∈ learned s.history)
    (inner.connectCheckHealth .connect check) (fun _ => Guarded env) fun _ => Guarded env
  onConnect : Keeps (Guarded env) inner.onConnect

/-- `connect_to` with an address that was just discovered. -/
theorem Sound.connectTo (sound : Sound env inner) (address : Address) :
    Meets (fun s => Guarded env s ∧ address ∈ learned s.history) (connectTo config env inner address)
      (fun _ => Guarded env) fun _ => Guarded env := by
  have moves : Meets (fun s => Guarded env s ∧ address ∈ learned s.history)
      (modify fun s => { s with address } : EStateM Exc Managed Unit)
      (fun _ s => Guarded env s ∧ s.address ∈ learned s.history) fun _ => Guarded env :=
    meets_modify fun s start => ⟨⟨start.1.rediscovers, start.1.sends⟩, start.2⟩
  apply moves.bind
  intro _
  apply (sound.connects true).bind
  intro _
  have pings : Keeps (Guarded env) (ping config env inner) := by
    apply (lasting_guarded.sendPackedCommand (sound.sends false) ["PING".toList] true).bind
    intro _
    exact (lasting_guarded.readResponse config.asyncio).bind fun response => keeps_guard
  exact keeps_whenever pings

/-- An address is discovered. -/
theorem meets_getMasterAddress :
    Meets (Guarded env) (getMasterAddress env)
      (fun address s => Guarded env s ∧ address ∈ learned s.history) fun _ => Guarded env := by
  have asks : Meets (Guarded env) (consult env.discoverMaster) (fun _ => Guarded env)
      fun _ => Guarded env := keeps_consult lasting_guarded.tick env.discoverMaster
  apply asks.bind
  intro address
  have notes : Meets (Guarded env)
      (modify fun s => { s with history := .discovered address :: s.history } :
        EStateM Exc Managed Unit)
      (fun _ s => Guarded env s ∧ address ∈ learned s.history) fun _ => Guarded env :=
    meets_modify fun s guarded => ⟨⟨guarded.rediscovers, guarded.sends⟩, List.mem_cons_self⟩
  exact notes.bind fun _ => meets_pure fun _ => id

/-- `connect`. -/
theorem Sound.connect (sound : Sound env inner) : Keeps (Guarded env) (connect config env inner) := by
  have retried : Keeps (Guarded env) (connectRetry config env inner) := by
    apply keeps_get
    intro s
    apply keeps_whenever
    exact Meets.bind meets_getMasterAddress sound.connectTo
  exact config.retry.keeps_callWithRetry retried (fun _ => keeps_pure ()) env.patience 0

/-- A call of code that runs on a new socket. -/
theorem Sound.serve (sound : Sound env inner) (called : ConnectionCall) :
    Keeps (Guarded env) (serve config env inner called) := by
  cases called with
  | sendPackedCommand command check =>
    exact (lasting_guarded.sendPackedCommand (sound.sends false) command check).bind fun _ =>
      keeps_pure _
  | readResponse => exact lasting_guarded.readResponse config.asyncio
  | disconnect => exact (lasting_guarded.disconnect false).bind fun _ => keeps_pure _
  | connect => exact sound.connect.bind fun _ => keeps_pure _
  | onConnect => exact sound.onConnect.bind fun _ => keeps_pure _

/-- Code that runs on a new socket. -/
theorem Sound.run (sound : Sound env inner) (code : UserCode F) :
    Keeps (Guarded env) (run config env inner code) := by
  induction code with
  | done => exact keeps_pure ()
  | fail e => exact keeps_throw e
  | call called next ih =>
    intro s guarded
    have served : Keeps (Guarded env) (Managed.serve config env inner called) := sound.serve called
    have ends := served s guarded
    unfold Managed.run
    cases ran : Managed.serve config env inner called s with
    | ok value t =>
      rw [ran] at ends
      exact ih (.ok value) t ends
    | error e t =>
      rw [ran] at ends
      exact ih (.error e) t ends

/-- Code that runs at the time of its call. -/
theorem Sound.runNow (sound : Sound env inner) (code : Nat → UserCode F) :
    Keeps (Guarded env) (runNow config env inner code) :=
  (lasting_guarded.ask code).bind sound.run

/-- The handshake. -/
theorem Sound.prepare (sound : Sound env inner) (check : Bool) :
    Keeps (Guarded env) (prepare config env inner check) := by
  unfold Managed.prepare
  cases config.redisConnectFunc with
  | none => exact sound.runNow _
  | some code => exact sound.runNow code

/-- The callbacks. -/
theorem Sound.notify (sound : Sound env inner) (callbacks : List (Nat → UserCode F)) :
    Keeps (Guarded env) (notify config env inner callbacks) := by
  induction callbacks with
  | nil => exact keeps_pure ()
  | cons callback callbacks ih => exact (sound.runNow callback).bind fun _ => ih

/-- Opening a socket, when dialling is in order. -/
theorem Sound.openSession (sound : Sound env inner) {opener : Opener} {P R : Managed → Prop}
    (dials : Meets P
      (config.retry.callWithRetry (dial config env opener) (fun _ => disconnect config env false)
        env.patience 0) (fun _ => Guarded env) fun _ => R)
    (fails : ∀ s, Guarded env s → R s) (check : Bool) :
    Meets P (openSession config env inner opener check) (fun _ => Guarded env) fun _ => R := by
  apply (dials.recover fun e => meets_throw fun _ => id).bind
  intro _
  have prepared : Keeps (Guarded env) (do
      recover (Managed.prepare config env inner check) fun e => do
        whenever (e.isinstance .redisError) (Managed.disconnect config env false)
        throw e
      Managed.notify config env inner config.connectCallbacks) := by
    have cleans (e : Exc) : Keeps (Guarded env) (do
        whenever (e.isinstance .redisError) (Managed.disconnect config env false)
        throw e : EStateM Exc Managed Unit) :=
      (keeps_whenever (lasting_guarded.disconnect false)).bind fun _ => keeps_throw e
    exact ((sound.prepare check).recover cleans).bind fun _ => sound.notify config.connectCallbacks
  exact prepared.weaken (fun _ => id) (fun _ _ => id) fun _ => fails

variable (config) in
/-- The methods are sound at every depth. -/
theorem sound_methods
    (dials : DialsOnce config env) (depth : Nat) :
    Sound env (methods config env depth) := by
  induction depth with
  | zero =>
    have refuses : Keeps (Guarded env) (connectIfClosed (throw { cls := .runtimeError })) :=
      Lasting.connectIfClosed (keeps_throw _)
    exact {
      sends := fun _ => refuses
      connects := fun _ => refuses.weaken (fun _ start => start.1) (fun _ _ => id) fun _ _ => id
      onConnect := keeps_throw _ }
  | succ depth ih =>
    constructor
    · intro check
      apply Lasting.connectIfClosed
      apply ih.openSession _ (fun _ => id) check
      exact config.retry.keeps_callWithRetry (keeps_dial_send config)
        (fun _ => lasting_guarded.disconnect false) env.patience 0
    · intro check
      apply meets_get
      rintro s ⟨guarded, discovered⟩
      apply meets_whenever
      · intro closed
        have opens := ih.openSession (meets_dials_connect dials) (fun _ => id) check
        exact opens.from_state ⟨guarded, .inl ⟨closed, discovered⟩⟩
      · rintro _ t rfl
        exact guarded
    · exact ih.runNow _

/-! ## A send to an address that is not old -/

/-- There is no socket yet, and at most one is opened for a send, to an address that was discovered
after the latest one. -/
structure Single (env : ManagedEnv F) (s : Managed) : Prop where
  rediscovers : Rediscovers s.history
  fresh : Fresh s
  once : ∀ n, s.clock ≤ n → (∃ e, env.dial .send n = .refused e) ∨ Sealed env .send (n + 1)

/-- A send may open a socket now, or no send opens one any more. -/
def MayOpen (env : ManagedEnv F) (s : Managed) : Prop := Single env s ∨ Guarded env s

/-- So it stays. -/
theorem lasting_mayOpen : Lasting (MayOpen env) where
  tick s may := by
    refine may.imp (fun single => ?_) (lasting_guarded.tick s)
    exact {
      rediscovers := single.rediscovers
      fresh := ⟨single.fresh.closed, single.fresh.discovered⟩
      once := fun n after => single.once n ((Nat.le_succ _).trans after) }
  drop s may := by
    refine may.imp (fun single => ?_) (lasting_guarded.drop s)
    rw [drop_of_closed single.fresh.closed]
    exact single

/-- A send dials, or dials in vain. -/
theorem meets_dial_mayOpen (config : ManagedConfig F) :
    Meets (MayOpen env) (dial config env .send) (fun _ => Guarded env) fun _ => MayOpen env := by
  have opened {s : Managed} (unopened : ∀ e, env.dial .send s.clock ≠ .refused e)
      (may : MayOpen env s) : Guarded env s.tick.opened := by
    rcases may with single | guarded
    · have closed : Sealed env .send (s.clock + 1) := by
        rcases single.once s.clock (Nat.le_refl _) with ⟨e, refused⟩ | closed
        · exact absurd refused (unopened e)
        · exact closed
      exact ⟨⟨single.fresh.discovered, single.rediscovers⟩, closed⟩
    · obtain ⟨e, refused⟩ := guarded.sends s.clock (Nat.le_refl _)
      exact absurd refused (unopened e)
  apply meets_dial
  · intro s may dialled
    exact opened (fun e => by rw [dialled]; exact Dialled.noConfusion) may
  · exact fun s e may _ => lasting_mayOpen.tick s may
  · intro s e may dialled
    have guarded := opened (fun e => by rw [dialled]; exact Dialled.noConfusion) may
    exact ⟨.inr guarded, .inr (lasting_guarded.drop _ guarded)⟩

variable (config) in
/-- `connect_check_health` for a send. -/
theorem keeps_connectCheckHealth_mayOpen
    (dials : DialsOnce config env)
    (depth : Nat) (check : Bool) :
    Keeps (MayOpen env) ((methods config env depth).connectCheckHealth .send check) := by
  cases depth with
  | zero => exact Lasting.connectIfClosed (keeps_throw _)
  | succ depth =>
    apply Lasting.connectIfClosed
    have loop : Meets (MayOpen env)
        (config.retry.callWithRetry (dial config env .send) (fun _ => disconnect config env false)
          env.patience 0) (fun _ => Guarded env) fun _ => MayOpen env := by
      apply config.retry.meets_callWithRetry (R := MayOpen env) (meets_dial_mayOpen config)
      · intro e _
        have closes : Keeps (MayOpen env) (disconnect config env false) := lasting_mayOpen.disconnect false
        exact closes.weaken (fun _ => id) (fun _ s may => ⟨may, may⟩) fun _ _ => id
      · exact fun _ _ _ => id
      · exact fun _ => id
      · exact fun _ => id
    have opens := (sound_methods config dials depth).openSession loop (fun _ guarded => .inr guarded) check
    exact opens.weaken (fun _ => id) (fun _ _ guarded => .inr guarded) fun _ _ => id

end Guarded

end Managed

/-! ## Runs -/

section Runs

open Managed

variable {config : ManagedConfig F} {env : ManagedEnv F}

/-- A call during which no socket is opened for a send. -/
theorem keeps_run
    (dials : DialsOnce config env)
    (call : ManagedCall) : Keeps (Guarded env) (call.run config env) := by
  have sound := sound_methods config dials env.depth
  cases call with
  | connect => exact sound.connect
  | sendPackedCommand command check =>
    exact lasting_guarded.sendPackedCommand (sound.sends false) command check
  | readResponse disconnectOnError =>
    exact (lasting_guarded.readResponse disconnectOnError).bind fun _ => keeps_pure ()
  | canRead =>
    apply (keeps_whenever (Lasting.connectIfClosed sound.connect)).bind
    exact fun _ => lasting_guarded.poll
  | checkHealth => exact lasting_guarded.checkHealth (sound.sends false)
  | disconnect => exact lasting_guarded.disconnect false
  | executeCommand command => exact lasting_guarded.executeCommand (sound.sends false) command

/-- A call that begins with a send to an address that is not old. -/
theorem keeps_run_first
    (dials : DialsOnce config env)
    {call : ManagedCall} (first : call.sendsFirst = true) :
    Keeps (MayOpen env) (call.run config env) := by
  have sends := keeps_connectCheckHealth_mayOpen config dials env.depth false
  cases call with
  | sendPackedCommand command check => exact lasting_mayOpen.sendPackedCommand sends command check
  | checkHealth => exact lasting_mayOpen.checkHealth sends
  | executeCommand command => exact lasting_mayOpen.executeCommand sends command
  | connect => cases first
  | readResponse disconnectOnError => cases first
  | canRead => cases first
  | disconnect => cases first

/-- What was opened stays opened to addresses that were discovered. -/
theorem lasting_rediscovers : Lasting fun s => Rediscovers s.history where
  tick _ rediscovers := rediscovers
  drop _ rediscovers := rediscovers_drop rediscovers

/-- No health check is due. -/
theorem meets_checkHealth_settled {methods : Methods} {s : Managed} (time : s.clock = 0)
    (rediscovers : Rediscovers s.history) (settled : (config.healthChecks && env.due 0) = false) :
    Meets (· = s) (checkHealth config env methods) (fun _ t => Rediscovers t.history)
      fun _ t => Rediscovers t.history := by
  apply meets_ask_bind
  rintro t rfl
  have due : env.due (Clocked.clock t) = env.due 0 := by
    show env.due t.clock = env.due 0
    rw [time]
  rw [due, settled]
  rintro u rfl
  exact rediscovers

/-- Where there is a socket, none is opened. -/
theorem meets_whenClosed {s : Managed} (sock : s.sock = true) {program : EStateM Exc Managed Unit}
    {E : Exc → Managed → Prop} :
    Meets (· = s) (do
      let s ← get
      whenever (s.sock = false) program) (fun _ => (· = s)) E := by
  apply meets_get
  rintro t rfl
  apply meets_whenever
  · intro closed
    rw [sock] at closed
    cases closed
  · exact fun _ _ => id

/-- A send that finds a socket, when no health check is due. -/
theorem meets_sendPackedCommand_settled {methods : Methods} {s : Managed} (sock : s.sock = true)
    (time : s.clock = 0) (rediscovers : Rediscovers s.history) (command : Words) {check : Bool}
    (settled : (check && config.healthChecks && env.due 0) = false) :
    Meets (· = s) (sendPackedCommand config env methods command check)
      (fun _ t => Rediscovers t.history) fun _ t => Rediscovers t.history := by
  have stays : Meets (· = s) (connectIfClosed (methods.connectCheckHealth .send false))
      (fun _ => (· = s)) fun _ t => Rediscovers t.history := meets_whenClosed sock
  apply stays.bind
  intro _
  have checks : Meets (· = s) (whenever check (checkHealth config env methods))
      (fun _ t => Rediscovers t.history) fun _ t => Rediscovers t.history := by
    apply meets_whenever
    · intro checked
      rw [checked, Bool.true_and] at settled
      exact meets_checkHealth_settled time rediscovers settled
    · rintro _ t rfl
      exact rediscovers
  apply checks.bind
  intro _
  exact lasting_rediscovers.transmit command

/-- The time does not matter where no server is dialled. -/
theorem settled_begin {call : ManagedCall} {s : Managed} :
    call.Settled config env (ManagedCall.begin s) ↔ call.Settled config env s := by
  cases call <;> rfl

/-- A call that dials no server. -/
theorem meets_run_settled {call : ManagedCall} {s : Managed} (time : s.clock = 0)
    (rediscovers : Rediscovers s.history) (settled : call.Settled config env s) :
    Meets (· = s) (call.run config env) (fun _ t => Rediscovers t.history)
      fun _ t => Rediscovers t.history := by
  have keeps {program : EStateM Exc Managed Unit}
      (keeps : Keeps (fun s => Rediscovers s.history) program) :
      Meets (· = s) program (fun _ t => Rediscovers t.history) fun _ t => Rediscovers t.history :=
    keeps.from_state rediscovers
  cases call with
  | connect =>
    have stays : Keeps (· = s) (Managed.connect config env (methods config env env.depth)) :=
      config.retry.keeps_callWithRetry (meets_whenClosed settled) (fun _ => keeps_pure ()) env.patience 0
    exact stays.weaken (fun _ => id) (fun _ t same => by rw [same]; exact rediscovers) fun _ t same => by
      rw [same]
      exact rediscovers
  | sendPackedCommand command check =>
    exact meets_sendPackedCommand_settled settled.1 time rediscovers command settled.2
  | readResponse disconnectOnError =>
    exact keeps ((lasting_rediscovers.readResponse disconnectOnError).bind fun _ => keeps_pure ())
  | canRead =>
    have stays : Meets (· = s)
        (whenever (!config.asyncio) (connectIfClosed
          (Managed.connect config env (methods config env env.depth))))
        (fun _ => (· = s)) fun _ t => Rediscovers t.history := by
      apply meets_whenever
      · intro blocking
        apply meets_whenClosed
        apply settled.resolve_right
        intro asyncio
        rw [asyncio] at blocking
        cases blocking
      · exact fun _ _ => id
    apply stays.bind
    intro _
    exact keeps lasting_rediscovers.poll
  | checkHealth => exact meets_checkHealth_settled time rediscovers settled
  | disconnect => exact keeps (lasting_rediscovers.disconnect false)
  | executeCommand command =>
    obtain ⟨sock, undue, single⟩ := settled
    apply config.retry.meets_callWithRetry_once single
    · have undue : (true && config.healthChecks && env.due 0) = false := by
        rw [Bool.true_and]
        exact undue
      apply (meets_sendPackedCommand_settled sock time rediscovers command undue).bind
      intro _
      exact (lasting_rediscovers.readResponse config.asyncio).bind fun _ => keeps_pure ()
    · intro e _
      exact (lasting_rediscovers.disconnect false).bind fun _ => keeps_guard
    · exact fun _ _ _ => id

/-- A call opens sockets only to addresses that were discovered after the previous socket was
dropped. -/
theorem rediscovers_next {s : Managed} {call : ManagedCall × ManagedEnv F}
    (rediscovers : Rediscovers s.history) (asks : AsksFirst config s call) :
    Rediscovers (ManagedCall.next config s call).history := by
  rcases asks with settled | ⟨closed | ⟨first, none, discovered, once⟩, dials⟩
  · have begun : call.1.Settled config call.2 (ManagedCall.begin s) := settled_begin.mpr settled
    have same : (ManagedCall.begin s).clock = 0 := rfl
    exact (meets_run_settled same rediscovers begun).stateAfter rfl
  · have guarded : Guarded call.2 (ManagedCall.begin s) := ⟨rediscovers, closed⟩
    exact ((keeps_run dials call.1).stateAfter guarded).rediscovers
  · have single : Single call.2 (ManagedCall.begin s) :=
      ⟨rediscovers, ⟨none, discovered⟩, fun n _ => once n⟩
    have ends := (keeps_run_first dials first).stateAfter (.inl single)
    exact ends.elim (fun single => single.rediscovers) fun guarded => guarded.rediscovers

/-- In a run of a new connection the address of every socket was discovered after the previous
socket was dropped, if no send opens a socket to an address that may be old. -/
theorem rediscovers_of_asksFirst (config : ManagedConfig F) (address : Address)
    {calls : List (ManagedCall × ManagedEnv F)}
    (each : Each (ManagedCall.next config) (AsksFirst config) (ManagedCall.start address) calls) :
    Rediscovers (calls.foldl (ManagedCall.next config) (ManagedCall.start address)).history := by
  have unopened : Rediscovers (ManagedCall.start address).history := trivial
  exact inv_of_each (fun s => Rediscovers s.history)
    (fun _ _ rediscovers asks => rediscovers_next rediscovers asks) unopened each

end Runs

/-- Everything works, and the sentinels name a master; no socket is opened for a send. -/
def ManagedEnv.naming (master : Address) : ManagedEnv Unit where
  patience := 5
  depth := 5
  discoverMaster _ := .ok master
  dial
    | .connect, _ => .opened
    | .send, _ => .refused { cls := .osError }
  close _ := none
  due _ := false
  write _ _ := none
  reply _ := .ok .none
  canRead _ := .ok false

/-- A send may open a socket, to whatever the host and port name. -/
def ManagedEnv.accepting (master : Address) : ManagedEnv Unit :=
  { ManagedEnv.naming master with
    dial := fun _ n => if n = 0 then .opened else .refused { cls := .osError } }

/-- A connection of which nothing is asked when it is opened, with one retry. -/
def managedConfig (asyncio : Bool) : ManagedConfig Unit where
  asyncio := asyncio
  retry :=
    { retries := some 1
      supportedErrors := [.connectionError, .timeoutError, .builtinTimeoutError] }
  retryOnError := some [.connectionError]
  healthChecks := false
  checkConnection := false
  onConnectCheckHealth _ _ := .done
  redisConnectFunc := none
  connectCallbacks := []

/-- The master before a failover. -/
def firstMaster : Address := { host := "10.0.0.1".toList, port := 6379 }

/-- The master after it. -/
def secondMaster : Address := { host := "10.0.0.2".toList, port := 6379 }

/-- The answer of a master that has become a replica. -/
def ManagedEnv.demoted : ManagedEnv Unit :=
  { ManagedEnv.naming firstMaster with reply := fun _ => .ok (.exc { cls := .readOnlyError }) }

/-- The new master is named, and does not accept connections yet. -/
def ManagedEnv.unreachable : ManagedEnv Unit :=
  { ManagedEnv.naming secondMaster with dial := fun _ _ => .refused { cls := .osError } }

/-- A demoted master is left and the next one dialled; when that fails once, a send dials it again, and
the next one finds its socket. -/
theorem rediscovers_failover :
    Rediscovers (([(.connect, .naming firstMaster), (.readResponse false, .demoted),
      (.connect, .unreachable), (.sendPackedCommand ["GET".toList] true, .accepting secondMaster),
      (.sendPackedCommand ["GET".toList] true, .accepting secondMaster)] :
        List (ManagedCall × ManagedEnv Unit)).foldl (ManagedCall.next (managedConfig false))
        (ManagedCall.start firstMaster)).history := by
  have never (s : Managed) (call : ManagedCall) (env : ManagedEnv Unit)
      (sends : ∀ n, env.dial .send n = .refused { cls := .osError })
      (dials : ∀ n e, env.dial .connect n ≠ .spoiled e) :
      AsksFirst (managedConfig false) s (call, env) :=
    .inr ⟨.inl fun n _ => ⟨_, sends n⟩, fun n e spoiled _ => absurd spoiled (dials n e)⟩
  have refuses (n : Nat) (later : 0 < n) :
      (ManagedEnv.accepting secondMaster).dial .send n = .refused { cls := .osError } :=
    if_neg (by omega : n ≠ 0)
  have opens (n : Nat) (e : Exc) : (ManagedEnv.accepting secondMaster).dial .connect n ≠ .spoiled e := by
    show (if n = 0 then Dialled.opened else .refused { cls := .osError }) ≠ .spoiled e
    split <;> exact Dialled.noConfusion
  apply rediscovers_of_asksFirst
  refine each_cons.mpr ⟨never _ _ _ (fun _ => rfl) fun _ _ => Dialled.noConfusion, each_cons.mpr
    ⟨.inl trivial, each_cons.mpr ⟨never _ _ _ (fun _ => rfl) fun _ _ => Dialled.noConfusion,
      each_cons.mpr ⟨.inr ⟨.inr ⟨rfl, rfl, by decide, fun n => .inr fun m later => ?_⟩,
        fun n e spoiled _ => absurd spoiled (opens n e)⟩,
      each_cons.mpr ⟨.inl ⟨rfl, rfl⟩, each_nil⟩⟩⟩⟩⟩
  exact ⟨_, refuses m (by omega)⟩

/-- A master is demoted while a connection to it is in use. A send that finds no socket opens one to
the old master, in both kinds of connections, and so does the second attempt of a client. -/
theorem old_master_again :
    (∀ asyncio, ¬Rediscovers (([(.connect, .naming firstMaster), (.readResponse asyncio, .demoted),
      (.sendPackedCommand ["GET".toList] true, .accepting secondMaster)] :
        List (ManagedCall × ManagedEnv Unit)).foldl (ManagedCall.next (managedConfig asyncio))
        (ManagedCall.start firstMaster)).history) ∧
    ¬Rediscovers (([(.connect, .naming firstMaster),
      (.executeCommand ["GET".toList], { ManagedEnv.demoted with dial := fun _ _ => .opened })] :
        List (ManagedCall × ManagedEnv Unit)).foldl (ManagedCall.next (managedConfig false))
        (ManagedCall.start firstMaster)).history := by
  constructor
  · intro asyncio rediscovers
    cases asyncio with
    | false => exact absurd rediscovers.1 (by decide)
    | true => exact absurd rediscovers.1 (by decide)
  · intro rediscovers
    exact absurd rediscovers.1 (by decide)

end RedisPy
