import RedisPy.Client.Effects
import RedisPy.Lib.Optimistic

/-!
# Callables that read what is watched

A callable that reads only watched keys before `multi`, and changes nothing there, runs as if it were
alone: as long as no watched key was touched, what is left of its transaction does what the whole
transaction would do in the present store. This is kept by the steps of the caller and by those of all
others.
-/

namespace RedisPy

namespace Transaction

open Optimistic

variable {K V C R A : Type}

section Discipline

variable (server : Server K V C R)

/-- The reply depends on watched keys only, and nothing is changed. -/
structure Server.ReadsOnly (c : C) (watched : List K) : Prop where
  reads : ∀ k ∈ server.reads c, k ∈ watched
  store : ∀ s, (server.run c s).2 = s

/-- What is executed at once reads only what is watched and changes nothing, and the callable does not
raise `WatchError` itself. -/
def Callable.Guarded : Callable K C R A → Pipe C → List K → Prop
  | .watch names next, pipe, watched =>
    if pipe.explicitTransaction then Guarded (next (some { cls := .redisError })) pipe watched
    else Guarded (next none) pipe.watched (watched ++ names)
  | .multi next, pipe, watched => Guarded (next pipe.multi.1) pipe.multi.2 watched
  | .command c next, pipe, watched =>
    if pipe.immediate then
      server.ReadsOnly c watched ∧ ∀ reply, Guarded (next (some reply)) pipe watched
    else Guarded (next none) (pipe.stage c) watched
  | .returns _, _, _ => True
  | .raises e, _, _ => e.isinstance .watchError = false

/-- The discipline of a call of `transaction`. -/
def Call.Guarded (call : Call K C R A) : Prop := call.func.Guarded server call.opening call.watches

variable (calls : Nat → Call K C R A)

/-- What an event does to the store; a transaction runs alone. -/
def Event.apply (s : K → V) : Event C → K → V
  | .command c => (server.run c s).2
  | .transaction i => ((calls i).alone server s).2

/-- The store after events. -/
def replay (events : List (Event C)) (s : K → V) : K → V := events.foldl (Event.apply server calls) s

/-- One event more. -/
theorem replay_concat (events : List (Event C)) (event : Event C) (s : K → V) :
    replay server calls (events ++ [event]) s = event.apply server calls (replay server calls events s) := by
  unfold replay
  rw [List.foldl_append]
  rfl

end Discipline

/-! ## The invariant -/

section Invariant

variable (server : Server K V C R)

/-- What is left of a transaction, as long as no watched key was touched. -/
structure Standing (call : Call K C R A) (session : Session K) (store : K → V) (pipe : Pipe C)
    (rest : Callable K C R A) (watched : List K) : Prop where
  guarded : rest.Guarded server pipe watched
  unwatched : pipe.watching = false → watched = []
  known : ∀ k ∈ watched, k ∈ session.watched
  stands : session.dirty = false ∨ pipe.watching = false →
    Stands (call.alone server) (call.finish server rest pipe) { k | k ∈ watched } store

variable (calls : Nat → Call K C R A) (first : K → V)

/-- What is known of a caller. -/
def World.Fits (s : World K V C R A) (i : Nat) : Stage K C R A → Prop
  | .begins => (s.callers i).pipe = .clean
  | .calls rest => ∃ watched, Standing server (calls i) (s.sessions i) s.store (s.callers i).pipe rest watched
  | .executes value =>
    ∃ watched, Standing server (calls i) (s.sessions i) s.store (s.callers i).pipe (.returns value) watched
  | .returned value => ∃ earlier later, s.history = earlier ++ .transaction i :: later ∧
      .transaction i ∉ later ∧ ((calls i).alone server (replay server calls earlier first)).1 = .ok value
  | .raised _ => True

/-- The store is that of the history, and all callers are as they should be. -/
structure World.Sound (s : World K V C R A) : Prop where
  replayed : s.store = replay server calls s.history first
  fits : ∀ i, s.Fits server calls first i (s.callers i).stage

variable {server calls first} {call : Call K C R A} {session : Session K} {store : K → V} {pipe : Pipe C}
  {rest next : Callable K C R A} {watched : List K}

/-- Where nothing is watched, neither the session nor the store matters. -/
theorem Standing.reopened (standing : Standing server call session store pipe rest watched)
    (unwatching : pipe.watching = false) (other : Session K) (moved : K → V) :
    Standing server call other moved pipe rest watched := by
  have none := standing.unwatched unwatching
  refine ⟨standing.guarded, standing.unwatched, ?_, fun _ => ?_⟩
  · rw [none]
    exact nofun
  · apply (standing.stands (.inr unwatching)).moved
    rw [none]
    exact nofun

/-- A change of keys that are not watched. -/
theorem Standing.moved (standing : Standing server call session store pipe rest watched) {moved : K → V}
    (agrees : ∀ k ∈ session.watched, moved k = store k) :
    Standing server call session moved pipe rest watched :=
  ⟨standing.guarded, standing.unwatched, standing.known, fun clean =>
    (standing.stands clean).moved fun k member => agrees k (standing.known k member)⟩

/-- A watched key was touched. -/
theorem Standing.touched (standing : Standing server call session store pipe rest watched) (moved : K → V) :
    Standing server call { session with dirty := true } moved pipe rest watched := by
  refine ⟨standing.guarded, standing.unwatched, standing.known, ?_⟩
  rintro (clean | unwatching)
  · cases clean
  · exact (standing.reopened unwatching session moved).stands (.inr unwatching)

/-- A step of the callable that asks the server for nothing. -/
theorem Standing.step (standing : Standing server call session store pipe rest watched) {after : Pipe C}
    (guarded : next.Guarded server after watched) (same : after.watching = pipe.watching)
    (finish : call.finish server rest pipe = call.finish server next after) :
    Standing server call session store after next watched := by
  refine ⟨guarded, ?_, standing.known, ?_⟩
  · rw [same]
    exact standing.unwatched
  · rw [same, ← finish]
    exact standing.stands

end Invariant

/-! ## What a step leaves to the other callers -/

section Others

variable {server : Server K V C R} {calls : Nat → Call K C R A} {first : K → V}
  {s t u : World K V C R A} {i j : Nat}

/-- Another caller keeps its state, and its session is told what is touched. -/
structure Undisturbed (i : Nat) (s t : World K V C R A) : Prop where
  caller : t.callers i = s.callers i
  events : ∃ events, t.history = s.history ++ events ∧ .transaction i ∉ events
  session : t.sessions i = s.sessions i ∧ (∀ k ∈ (s.sessions i).watched, t.store k = s.store k) ∨
    t.sessions i = { s.sessions i with dirty := true }

namespace Undisturbed

/-- Nothing happens. -/
theorem refl : Undisturbed i s s where
  caller := rfl
  events := ⟨[], (List.append_nil _).symm, nofun⟩
  session := .inl ⟨rfl, fun _ _ => rfl⟩

/-- One step after another. -/
theorem trans (before : Undisturbed i s t) (after : Undisturbed i t u) : Undisturbed i s u where
  caller := after.caller.trans before.caller
  events := by
    obtain ⟨some, same, others⟩ := before.events
    obtain ⟨more, grown, none⟩ := after.events
    refine ⟨some ++ more, by rw [grown, same, List.append_assoc], fun member => ?_⟩
    exact (List.mem_append.mp member).elim others none
  session := by
    rcases before.session with ⟨same, agrees⟩ | dirty
    · rcases after.session with ⟨still, kept⟩ | dirty
      · refine .inl ⟨still.trans same, fun k member => ?_⟩
        rw [← same] at member
        exact (kept k member).trans (agrees k (same ▸ member))
      · right
        rw [dirty, same]
    · right
      rcases after.session with ⟨still, -⟩ | again
      · rw [still, dirty]
      · rw [again, dirty]

/-- Another caller changes, and its session. -/
theorem own (other : i ≠ j) (own : Own j s t) : Undisturbed i s t where
  caller := own.callers i other
  events := ⟨[], by rw [own.history, List.append_nil], nofun⟩
  session := .inl ⟨own.sessions i other, fun k _ => congrFun own.store k⟩

/-- An event of somebody else. -/
theorem event {event : Event C} (other : .transaction i ≠ event) :
    Undisturbed i s { s with history := s.history ++ [event] } where
  caller := rfl
  events := ⟨[event], rfl, fun member => other (List.mem_singleton.mp member)⟩
  session := refl.session

end Undisturbed

/-- Queued commands leave the other keys as they are. -/
theorem Server.untouchedAll (commands : List C) (store : K → V) (k : K)
    (other : k ∉ server.touchesAll commands store) : (server.runAll commands store).2 k = store k := by
  induction commands generalizing store with
  | nil => rfl
  | cons c rest ih =>
    obtain ⟨here, later⟩ := not_or.mp (mt List.mem_append.mpr other)
    exact (ih (server.run c store).2 later).trans (server.untouched c store k here)

/-- What is known of a caller is kept as long as its transaction stands. -/
theorem World.Fits.kept {stage : Stage K C R A} (fits : s.Fits server calls first i stage)
    (same : t.callers i = s.callers i)
    (stands : ∀ rest watched, Standing server (calls i) (s.sessions i) s.store (s.callers i).pipe rest watched →
      Standing server (calls i) (t.sessions i) t.store (s.callers i).pipe rest watched)
    (returned : ∀ value, stage = .returned value → t.Fits server calls first i stage) :
    t.Fits server calls first i stage := by
  rw [← same] at stands
  cases stage with
  | begins =>
    show (t.callers i).pipe = .clean
    rw [same]
    exact fits
  | calls rest =>
    obtain ⟨watched, standing⟩ := fits
    exact ⟨watched, stands rest watched (same ▸ standing)⟩
  | executes value =>
    obtain ⟨watched, standing⟩ := fits
    exact ⟨watched, stands _ watched (same ▸ standing)⟩
  | returned value => exact returned value rfl
  | raised e => trivial

/-- What is known of a caller that is left alone stays true. -/
theorem World.Fits.undisturbed {stage : Stage K C R A} (fits : s.Fits server calls first i stage)
    (undisturbed : Undisturbed i s t) : t.Fits server calls first i stage := by
  refine fits.kept undisturbed.caller (fun rest watched standing => ?_) fun value returned => ?_
  · rcases undisturbed.session with ⟨same, agrees⟩ | dirty
    · rw [same]
      exact standing.moved agrees
    · rw [dirty]
      exact standing.touched t.store
  · rw [returned] at fits ⊢
    obtain ⟨earlier, later, split, last, result⟩ := fits
    obtain ⟨events, grown, none⟩ := undisturbed.events
    refine ⟨earlier, later ++ events, ?_, fun member => ?_, result⟩
    · rw [grown, split, List.append_assoc, List.cons_append]
    · exact (List.mem_append.mp member).elim last none

namespace Undisturbed

variable [DecidableEq K]

/-- The store changes, and the touched keys are noted. -/
theorem change {keys : List K} {store : K → V} (untouched : ∀ k, k ∉ keys → store k = s.store k) :
    Undisturbed i s (s.change keys store) where
  caller := rfl
  events := refl.events
  session := by
    show (s.sessions i).touch keys = _ ∧ _ ∨ (s.sessions i).touch keys = _
    unfold Session.touch
    split_ifs with touched
    · right
      rfl
    · refine .inl ⟨rfl, fun k member => untouched k fun among => touched ?_⟩
      exact List.any_eq_true.mpr ⟨k, member, decide_eq_true among⟩

/-- The server runs a command. -/
theorem run (c : C) : Undisturbed i s (s.run server c) := change (server.untouched c s.store)

/-- Another transaction takes effect. -/
theorem taken (other : i ≠ j) (taken : Taken server j s t) : Undisturbed i s t := by
  have none : Event.transaction i ≠ (.transaction j : Event C) := fun same => other (Event.transaction.inj same)
  cases taken with
  | idle => exact event none
  | ran =>
    have changes := change (i := i) (s := s.putSession j .fresh)
      (server.untouchedAll (s.callers j).pipe.commandStack s.store)
    exact ((own other (Own.putSession s j .fresh)).trans changes).trans (event none)

/-- Another caller goes on. -/
theorem advance (other : i ≠ j) (failure : Option Failure) :
    Undisturbed i s (s.advance server calls j failure) := by
  cases running : (s.callers j).stage.ended with
  | true =>
    rw [advance_ended running]
    exact refl
  | false =>
    cases (effect_advance running : Effect server j failure s (s.advance server calls j failure)) with
    | quiet quiet => exact own other quiet.toOwn
    | ran c next stage immediate quiet => exact (run c).trans (own other quiet.toOwn)
    | took value u stage took ended => exact (taken other took).trans (own other ended)

end Undisturbed

end Others

/-! ## What a step does to its own caller -/

section Own

variable {server : Server K V C R} {calls : Nat → Call K C R A} {first : K → V} {s t : World K V C R A} {i : Nat}

/-- A caller whose callable goes on. -/
theorem fits_calls {session : Session K} {pipe : Pipe C} {rest : Callable K C R A}
    (same : s.sessions i = session)
    (stands : ∃ watched, Standing server (calls i) session s.store pipe rest watched) :
    let t := s.put i pipe (.calls rest)
    t.Fits server calls first i (t.callers i).stage := by
  dsimp only
  rw [World.callers_put]
  obtain ⟨watched, standing⟩ := stands
  refine ⟨watched, ?_⟩
  rw [World.callers_put]
  rw [← same] at standing
  exact standing

/-- Leaving the loop, or beginning it again with a pipeline that was reset. -/
theorem fits_leave (s : World K V C R A) (i : Nat) {pipe : Pipe C} {e : Exc}
    (clean : e.isinstance .watchError = true → pipe = .clean) :
    let t := s.leave i pipe e
    t.Fits server calls first i (t.callers i).stage := by
  dsimp only
  unfold World.leave
  split_ifs with watch
  · rw [World.callers_put]
    show ((s.put i pipe .begins).callers i).pipe = .clean
    rw [World.callers_put]
    exact clean watch
  · rw [World.callers_put]
    trivial

/-- Where nothing is watched, a caller that has not ended may have any session and any store. -/
theorem World.Fits.reopened {stage : Stage K C R A} (fits : s.Fits server calls first i stage)
    (unwatching : (s.callers i).pipe.watching = false) (same : t.callers i = s.callers i)
    (running : ∀ value, stage ≠ .returned value) : t.Fits server calls first i stage :=
  fits.kept same (fun _ _ standing => standing.reopened unwatching _ _) fun value returned =>
    absurd returned (running value)

/-- An exchange fails. -/
theorem fits_fail (fits : s.Fits server calls first i (s.callers i).stage)
    (running : ∀ value, (s.callers i).stage ≠ .returned value) (same : t.callers = s.callers)
    (failure : Failure) :
    let u := t.fail i failure
    u.Fits server calls first i (u.callers i).stage := by
  dsimp only
  unfold World.fail
  rw [same]
  dsimp only
  split_ifs with watching
  · exact fits_leave _ i fun _ => rfl
  · show (t.putSession i .fresh).Fits server calls first i (t.callers i).stage
    have stays : (t.putSession i .fresh).callers i = s.callers i := congrFun same i
    rw [same]
    exact fits.reopened (Bool.eq_false_iff.mpr watching) stays running
  · exact fits_leave _ i fun _ => rfl

/-- Watching keys. -/
theorem fits_watch (fits : s.Fits server calls first i (s.callers i).stage)
    (running : ∀ value, (s.callers i).stage ≠ .returned value) {names : List K}
    {next : Option Exc → Callable K C R A} (failure : Option Failure)
    (refused : (s.callers i).pipe.explicitTransaction = true → ∃ watched,
      Standing server (calls i) (s.sessions i) s.store (s.callers i).pipe
        (next (some { cls := .redisError })) watched)
    (accepted : (s.callers i).pipe.explicitTransaction = false → ∃ watched,
      Standing server (calls i) { s.sessions i with watched := (s.sessions i).watched ++ names } s.store
        (s.callers i).pipe.watched (next none) watched) :
    let t := s.watch i names next failure
    t.Fits server calls first i (t.callers i).stage := by
  dsimp only
  unfold World.watch
  dsimp only
  by_cases explicit : (s.callers i).pipe.explicitTransaction
  · rw [if_pos explicit]
    exact fits_calls rfl (refused explicit)
  · rw [if_neg explicit]
    cases failure with
    | some failure => exact fits_fail fits running rfl failure
    | none =>
      apply fits_calls (s.sessions_putSession i _)
      exact accepted (Bool.eq_false_iff.mpr explicit)

/-- `multi` does not watch. -/
theorem Pipe.watching_multi (pipe : Pipe C) : pipe.multi.2.watching = pipe.watching := by
  unfold Pipe.multi
  split_ifs <;> rfl

/-- The end of a transaction. -/
theorem fits_conclude (s : World K V C R A) (i : Nat) {outcome : Outcome R A}
    (result : ∀ value, outcome = .ok value → ∃ earlier later, s.history = earlier ++ .transaction i :: later ∧
      .transaction i ∉ later ∧ ((calls i).alone server (replay server calls earlier first)).1 = .ok value) :
    let t := s.conclude i outcome
    t.Fits server calls first i (t.callers i).stage := by
  cases outcome with
  | error e => exact fits_leave s i fun _ => rfl
  | ok value =>
    unfold World.conclude
    dsimp only
    rw [World.callers_put]
    exact result value rfl

section Commands

variable {session : Session K} {pipe : Pipe C} {watched names : List K} {c : C}

/-- `watch` after `multi` raises. -/
theorem Standing.refused {next : Option Exc → Callable K C R A}
    (standing : Standing server (calls i) session s.store pipe (.watch names next) watched)
    (explicit : pipe.explicitTransaction = true) :
    Standing server (calls i) session s.store pipe (next (some { cls := .redisError })) watched := by
  have guarded := standing.guarded
  unfold Callable.Guarded at guarded
  rw [if_pos explicit] at guarded
  apply standing.step guarded rfl
  funext store
  exact if_pos explicit

/-- `watch` before `multi`. -/
theorem Standing.watches {next : Option Exc → Callable K C R A}
    (standing : Standing server (calls i) session s.store pipe (.watch names next) watched)
    (implicit : pipe.explicitTransaction = false) :
    Standing server (calls i) { session with watched := session.watched ++ names } s.store pipe.watched
      (next none) (watched ++ names) := by
  have guarded := standing.guarded
  unfold Callable.Guarded at guarded
  rw [if_neg (Bool.eq_false_iff.mp implicit)] at guarded
  refine ⟨guarded, nofun, fun k member => ?_, ?_⟩
  · rcases List.mem_append.mp member with before | now
    · exact List.mem_append_left _ (standing.known k before)
    · exact List.mem_append_right _ now
  · rintro (clean | unwatching)
    · have sub : { k | k ∈ watched } ⊆ { k | k ∈ watched ++ names } :=
        fun k member => List.mem_append_left names member
      apply ((standing.stands (.inl clean)).mono sub).step
      intro other _
      exact if_neg (Bool.eq_false_iff.mp implicit)
    · cases unwatching

/-- A command that is executed at once. -/
theorem Standing.executed [DecidableEq K] {next : Option (Except Exc R) → Callable K C R A}
    (standing : Standing server (calls i) session s.store pipe (.command c next) watched)
    (immediate : pipe.immediate = true) (keys : List K) :
    Standing server (calls i) (session.touch keys) (server.run c s.store).2 pipe
      (next (some (server.run c s.store).1)) watched := by
  have guarded := standing.guarded
  unfold Callable.Guarded at guarded
  rw [if_pos immediate] at guarded
  obtain ⟨reading, later⟩ := guarded
  have goes : Standing server (calls i) session s.store pipe (next (some (server.run c s.store).1)) watched := by
    refine ⟨later _, standing.unwatched, standing.known, fun clean => ?_⟩
    apply (standing.stands clean).step
    intro other agrees
    have reply : (server.run c other).1 = (server.run c s.store).1 :=
      server.reply_eq c other s.store fun k member => agrees (reading.reads k member)
    calc (calls i).finish server (.command c next) pipe other
        = (calls i).finish server (next (some (server.run c other).1)) pipe (server.run c other).2 :=
          if_pos immediate
      _ = (calls i).finish server (next (some (server.run c s.store).1)) pipe other := by
          rw [reply, reading.store]
  rw [reading.store]
  unfold Session.touch
  split_ifs
  · exact goes.touched s.store
  · exact goes

/-- A command that is queued. -/
theorem Standing.staged {next : Option (Except Exc R) → Callable K C R A}
    (standing : Standing server (calls i) session s.store pipe (.command c next) watched)
    (queued : ¬pipe.immediate = true) :
    Standing server (calls i) session s.store (pipe.stage c) (next none) watched := by
  have guarded := standing.guarded
  unfold Callable.Guarded at guarded
  rw [if_neg queued] at guarded
  apply standing.step guarded rfl
  funext store
  exact if_neg queued

end Commands

/-! ### The end of a transaction -/

section Ending

variable {value : A} {watched : List K}

/-- Where no watched key was touched, the queued commands do what the transaction does alone. -/
theorem alone_runAll
    (standing : Standing server (calls i) (s.sessions i) s.store (s.callers i).pipe (.returns value) watched)
    (busy : ¬(s.callers i).pipe.idle = true) (accepted : s.accepted server i) :
    let ran := server.runAll (s.callers i).pipe.commandStack s.store
    (calls i).alone server s.store = ((calls i).outcome value ran.1, ran.2) := by
  rw [← (standing.stands (.inl accepted.2)).here]
  unfold Call.finish Call.execute
  rw [if_neg busy, accepted.1]

/-- A transaction that sends nothing does nothing alone. -/
theorem alone_idle
    (standing : Standing server (calls i) (s.sessions i) s.store (s.callers i).pipe (.returns value) watched)
    (idle : (s.callers i).pipe.idle = true) :
    (calls i).alone server s.store = ((calls i).outcome value [], s.store) := by
  have unwatching : (s.callers i).pipe.watching = false := by
    have both := (Bool.and_eq_true _ _).mp idle
    exact Bool.not_eq_true' _ ▸ both.2
  rw [← (standing.stands (.inr unwatching)).here]
  unfold Call.finish Call.execute
  rw [if_pos idle]

/-- A transaction that takes effect does what it does alone. -/
theorem Taken.alone [DecidableEq K] (taken : Taken server i s t)
    (standing : Standing server (calls i) (s.sessions i) s.store (s.callers i).pipe (.returns value) watched) :
    ∃ replies, (calls i).alone server s.store = ((calls i).outcome value replies, t.store) := by
  cases taken with
  | idle idle => exact ⟨[], alone_idle standing idle⟩
  | ran busy accepted => exact ⟨_, alone_runAll standing busy accepted⟩

/-- The transaction is the last event, with its result. -/
theorem returned_last (replayed : s.store = replay server calls s.history first)
    {outcome : Outcome R A} {after : K → V} (alone : (calls i).alone server s.store = (outcome, after)) :
    ∀ value, outcome = .ok value → ∃ earlier later, s.history ++ [.transaction i] = earlier ++ .transaction i :: later ∧
      .transaction i ∉ later ∧ ((calls i).alone server (replay server calls earlier first)).1 = .ok value := by
  intro value returned
  refine ⟨s.history, [], rfl, List.not_mem_nil, ?_⟩
  rw [← replayed, alone]
  exact returned

variable [DecidableEq K]

/-- `execute` leaves the caller as it should be. -/
theorem fits_execute (sound : s.Sound server calls first) (stage : (s.callers i).stage = .executes value)
    (failure : Option Failure) :
    let t := s.execute server calls i value failure
    t.Fits server calls first i (t.callers i).stage := by
  have fits := sound.fits i
  have running : ∀ other, (s.callers i).stage ≠ .returned other := by
    rw [stage]
    exact nofun
  have ⟨watched, standing⟩ : ∃ watched,
      Standing server (calls i) (s.sessions i) s.store (s.callers i).pipe (.returns value) watched := by
    rw [stage] at fits
    exact fits
  dsimp only
  unfold World.execute
  dsimp only
  by_cases idle : (s.callers i).pipe.idle
  · rw [if_pos idle]
    exact fits_conclude _ i (returned_last sound.replayed (alone_idle standing idle))
  · rw [if_neg idle]
    cases failure with
    | some failure =>
      dsimp only
      split_ifs
      · exact fits_fail (t := s.runTransaction server i) fits running rfl failure
      · exact fits_fail fits running rfl failure
    | none =>
      dsimp only
      cases queued : (s.callers i).pipe.commandStack.findSome? server.refused with
      | some e => exact fits_leave _ i fun _ => rfl
      | none =>
        dsimp only
        by_cases dirty : (s.sessions i).dirty
        · rw [if_pos dirty]
          exact fits_leave _ i fun _ => rfl
        · rw [if_neg dirty]
          have accepted : s.accepted server i := ⟨queued, Bool.eq_false_iff.mpr dirty⟩
          exact fits_conclude _ i (returned_last sound.replayed (alone_runAll standing idle accepted))

end Ending

/-- Every step of a caller leaves it as it should be. -/
theorem fits_advance [DecidableEq K] (guarded : (calls i).Guarded server) (sound : s.Sound server calls first)
    (failure : Option Failure) :
    let t := s.advance server calls i failure
    t.Fits server calls first i (t.callers i).stage := by
  have fits := sound.fits i
  dsimp only
  unfold World.advance
  dsimp only
  cases stage : (s.callers i).stage with
  | begins =>
    have running : ∀ other, (s.callers i).stage ≠ .returned other := by
      rw [stage]
      exact nofun
    rw [stage] at fits
    have clean : (s.callers i).pipe = .clean := fits
    dsimp only
    unfold Call.Guarded Call.opening at guarded
    split_ifs with unwatched
    · rw [if_pos unwatched, List.isEmpty_iff.mp unwatched] at guarded
      apply fits_calls rfl
      rw [clean]
      refine ⟨[], guarded, fun _ => rfl, nofun, fun _ => ?_⟩
      have whole : (calls i).finish server (calls i).func .clean = (calls i).alone server := by
        unfold Call.alone Call.opening
        rw [if_pos unwatched]
      rw [whole]
      exact stands_whole
    · rw [if_neg unwatched] at guarded
      refine fits_watch (sound.fits i) running failure (fun explicit => ?_) fun _ => ⟨(calls i).watches, ?_⟩
      · rw [clean] at explicit
        cases explicit
      · rw [clean]
        have whole : (calls i).finish server (calls i).func Pipe.clean.watched = (calls i).alone server := by
          unfold Call.alone Call.opening
          rw [if_neg unwatched]
        refine ⟨guarded, nofun, fun k => List.mem_append_right _, fun _ => ?_⟩
        show Stands _ ((calls i).finish server (calls i).func Pipe.clean.watched) _ _
        rw [whole]
        exact stands_whole
  | calls rest =>
    have running : ∀ other, (s.callers i).stage ≠ .returned other := by
      rw [stage]
      exact nofun
    rw [stage] at fits
    obtain ⟨watched, standing⟩ := fits
    cases rest with
    | watch names next =>
      exact fits_watch (sound.fits i) running failure (fun explicit => ⟨watched, standing.refused explicit⟩)
        fun implicit => ⟨_, standing.watches implicit⟩
    | multi next =>
      apply fits_calls rfl
      have later := standing.guarded
      unfold Callable.Guarded at later
      exact ⟨watched, standing.step later (Pipe.watching_multi _) rfl⟩
    | command c next =>
      dsimp only
      unfold World.executeCommand
      dsimp only
      by_cases immediate : (s.callers i).pipe.immediate
      · rw [if_pos immediate]
        cases failure with
        | some failure =>
          dsimp only
          split_ifs
          · exact fits_fail (t := s.run server c) (sound.fits i) running rfl failure
          · exact fits_fail (sound.fits i) running rfl failure
        | none => exact fits_calls rfl ⟨watched, standing.executed immediate _⟩
      · rw [if_neg immediate]
        exact fits_calls rfl ⟨watched, standing.staged immediate⟩
    | returns value =>
      dsimp only
      rw [World.callers_put]
      refine ⟨watched, ?_⟩
      rw [World.callers_put]
      exact standing
    | raises e =>
      apply fits_leave
      intro watch
      have other : e.isinstance .watchError = false := standing.guarded
      rw [other] at watch
      cases watch
  | executes value => exact fits_execute sound stage failure
  | returned value =>
    dsimp only
    exact fits
  | raised e =>
    dsimp only
    exact fits

end Own

end Transaction

end RedisPy
