import RedisPy.Client.Results
import RedisPy.Lib.Holes

/-!
# The results of a transaction and its commands

Commands with `EMPTY_RESPONSE` are not sent, so `EXEC` returns fewer replies than there are
commands, and their values are inserted into the list of replies. Every command then stands
beside its own reply when the response callbacks run. The list that a transaction returns has
one item for each command, unless one of those callbacks raises.
-/

namespace RedisPy

open Interruptible Contract Holes

namespace Results

variable {F : Type}

/-! ## The law -/

/-- The values of the commands that are not sent; the others are holes. -/
def unsent (commands : List (StackItem F)) : List (Option (PyVal F)) :=
  commands.map (·.options.get emptyResponse)

section Calls

variable [PyFloat F] (config : ResultsConfig F)

/-- A number of status replies are read without an error. -/
inductive Accepted : Nat → List Reply → List Reply → Prop where
  | zero (unread : List Reply) : Accepted 0 unread unread
  | succ {n : Nat} {unread rest last : List Reply} {value : PyVal F}
      (parsed : parseResponse config placeholder [] unread = .ok value rest)
      (others : Accepted n rest last) : Accepted (n + 1) unread last

/-- `MULTI` succeeds, the commands that are sent are queued, and `EXEC` returns one reply for
each of them. -/
structure Executed (commands : List (StackItem F)) (unread : List Reply) (replies : List (PyVal F))
    (rest : List Reply) : Prop where
  /-- The replies up to `EXEC`, and the one to it. -/
  answered : ∃ executed, Accepted config (gaps (unsent commands) + 1) unread executed ∧
    parseResponse config placeholder [] executed = .ok (.list replies) rest
  /-- One reply for each command that is sent. -/
  one : replies.length = gaps (unsent commands)

/-- What a command comes to: its `EMPTY_RESPONSE` if it is not sent, and otherwise its own reply,
which is as many replies into those of `EXEC` as commands before it are sent. An error is kept,
and another value goes through the command's own response callback. -/
inductive Outcome (commands : List (StackItem F)) (replies : List (PyVal F)) (i : Nat)
    (command : StackItem F) : Except Stop (PyVal F) → Prop where
  | skipped {value : PyVal F} (kept : command.options.get emptyResponse = some value) :
      Outcome commands replies i command (.ok value)
  | replied {reply : PyVal F} (sent : command.options.get emptyResponse = none)
      (own : replies[gaps (unsent (commands.take i))]? = some reply) :
      Outcome commands replies i command (applyCallback config command reply)

/-- The items of the result list are what the commands come to; or the first response callback that
raises is that of a command on its own reply, and its exception is raised. -/
def Aligned (commands : List (StackItem F)) (replies : List (PyVal F)) (rest : List Reply) :
    EStateM.Result Stop (List Reply) (List (PyVal F)) → Prop
  | .ok data after => after = rest ∧ data.length = commands.length ∧
      ∀ i command, commands[i]? = some command →
        ∃ value, data[i]? = some value ∧ Outcome config commands replies i command (.ok value)
  | .error e after => after = rest ∧ ∃ i command, commands[i]? = some command ∧
      Outcome config commands replies i command (.error e) ∧
        ∀ j other, j < i → commands[j]? = some other →
          ∃ value, Outcome config commands replies j other (.ok value)

omit [PyFloat F] in
/-- Only the response callback of a command that is sent raises. -/
theorem Outcome.raised {commands : List (StackItem F)} {replies : List (PyVal F)} {i : Nat}
    {command : StackItem F} {e : Stop} (outcome : Outcome config commands replies i command (.error e)) :
    ∃ callback reply error, config.responseCallbacks command.name = some callback ∧
      replies[gaps (unsent (commands.take i))]? = some reply ∧
        callback reply (command.options.erase keys) = .error error ∧ e = .raised error := by
  generalize raises : (Except.error e : Except Stop (PyVal F)) = ended at outcome
  cases outcome with
  | skipped kept => cases raises
  | @replied reply sent own =>
    unfold applyCallback at raises
    split at raises
    · cases raises
    · unfold respond at raises
      cases found : config.responseCallbacks command.name with
      | none =>
        rw [found] at raises
        cases raises
      | some callback =>
        simp only [found] at raises
        cases ran : callback reply (command.options.erase keys) with
        | ok value =>
          rw [ran] at raises
          cases raises
        | error error =>
          rw [ran] at raises
          cases raises
          exact ⟨callback, reply, error, rfl, own, ran, rfl⟩

/-! ## The response list -/

/-- A status reply without an error adds nothing. -/
theorem readQueuedReply_of_parsed {unread rest : List Reply} {value : PyVal F} (i : Nat)
    (parsed : parseResponse config placeholder [] unread = .ok value rest) :
    readQueuedReply config i unread = .ok [] rest := by
  have nothing : (do
      let _ ← parseResponse config placeholder []
      pure [] : EStateM Stop (List Reply) (List (Nat × PyVal F))) unread = .ok [] rest := by
    rw [bind_of_ok parsed]
    rfl
  unfold readQueuedReply recover
  rw [nothing]

/-- When the commands that are sent are queued, what stands for the others is kept with its
position. -/
theorem readQueued_of_accepted {commands : List (StackItem F)} {unread last : List Reply} (i : Nat)
    (accepted : Accepted config (gaps (unsent commands)) unread last) :
    readQueued config i commands unread = .ok (known i (unsent commands)) last := by
  induction commands generalizing i unread with
  | nil =>
    cases accepted
    rfl
  | cons command commands ih =>
    rw [readQueued]
    unfold unsent at accepted ih ⊢
    rw [List.map_cons] at accepted ⊢
    cases own : command.options.get emptyResponse with
    | some value =>
      rw [own, gaps_some] at accepted
      have others := ih (i + 1) accepted
      simp only
      rw [bind_of_ok others]
      rfl
    | none =>
      rw [own, gaps_none] at accepted
      cases accepted with
      | succ parsed queued =>
        have first := readQueuedReply_of_parsed config i parsed
        have others := ih (i + 1) queued
        simp only
        rw [bind_of_ok first, bind_of_ok others]
        rfl

/-- The response list has what stands for the commands that were not sent in its place. -/
theorem gather_of_executed {commands : List (StackItem F)} {unread rest : List Reply}
    {replies : List (PyVal F)} (executed : Executed config commands unread replies rest) :
    gather config commands unread = .ok (fill (unsent commands) replies) rest := by
  obtain ⟨⟨middle, accepted, answered⟩, one⟩ := executed
  cases accepted with
  | succ opened queued =>
    have first := readQueuedReply_of_parsed config 0 opened
    have others := readQueued_of_accepted config 0 queued
    have exec : readExec config ([] ++ known 0 (unsent commands)) middle =
        .ok (.list replies) rest := by
      unfold readExec recover
      rw [answered]
    have inserted := foldl_insertAt one []
    have built : Holder.resultItems ([] ++ known 0 (unsent commands)) (.list replies) =
        .ok (fill (unsent commands) replies) := by
      rw [Holder.resultItems]
      exact congrArg Except.ok inserted
    have full : (fill (unsent commands) replies).length = commands.length := by
      rw [length_fill one, unsent, List.length_map]
    unfold gather
    rw [bind_of_ok first, bind_of_ok others, bind_of_ok exec, built]
    simp only [full, ne_eq, not_true_eq_false, ↓reduceIte]
    rfl

/-! ## The response callbacks -/

omit [PyFloat F] in
/-- Where all callbacks return, the item of each command is what its callback made of its
response. -/
theorem applyCallbacks_ok {commands : List (StackItem F)} {responses data : List (PyVal F)}
    (full : responses.length = commands.length)
    (ran : applyCallbacks config commands responses = .ok data) :
    data.length = commands.length ∧ ∀ (i : Nat) command response, commands[i]? = some command →
      responses[i]? = some response →
        ∃ value, data[i]? = some value ∧ applyCallback config command response = .ok value := by
  induction commands generalizing responses data with
  | nil =>
    cases ran
    exact ⟨rfl, fun i command response here => by simp at here⟩
  | cons first commands ih =>
    cases responses with
    | nil => cases full
    | cons response responses =>
      rw [applyCallbacks] at ran
      cases own : applyCallback config first response with
      | error e =>
        rw [own] at ran
        cases ran
      | ok value =>
        rw [own] at ran
        cases others : applyCallbacks config commands responses with
        | error e =>
          simp [others] at ran
        | ok values =>
          have built : data = value :: values := by
            simpa [others, eq_comm] using ran
          obtain ⟨length, items⟩ := ih (Nat.succ.inj full) others
          subst built
          refine ⟨by rw [List.length_cons, List.length_cons, length], ?_⟩
          intro i command given here there
          cases i with
          | zero =>
            cases here
            cases there
            exact ⟨value, rfl, own⟩
          | succ i => exact items i command given here there

omit [PyFloat F] in
/-- The first callback that raises ends the call. -/
theorem applyCallbacks_error {commands : List (StackItem F)} {responses : List (PyVal F)} {e : Stop}
    (full : responses.length = commands.length)
    (ran : applyCallbacks config commands responses = .error e) :
    ∃ (i : Nat) (command : StackItem F) (response : PyVal F), commands[i]? = some command ∧
      responses[i]? = some response ∧
      applyCallback config command response = .error e ∧
        ∀ (j : Nat) other given, j < i → commands[j]? = some other → responses[j]? = some given →
          ∃ value, applyCallback config other given = .ok value := by
  induction commands generalizing responses with
  | nil => cases ran
  | cons first commands ih =>
    cases responses with
    | nil => cases full
    | cons response responses =>
      rw [applyCallbacks] at ran
      cases own : applyCallback config first response with
      | error raised =>
        rw [own] at ran
        have same : raised = e := by simpa using ran
        subst same
        exact ⟨0, first, response, rfl, rfl, own, fun j _ _ before => absurd before (Nat.not_lt_zero j)⟩
      | ok value =>
        rw [own] at ran
        cases others : applyCallbacks config commands responses with
        | ok values => simp [others] at ran
        | error raised =>
          have same : raised = e := by simpa [others] using ran
          subst same
          obtain ⟨i, command, given, here, there, raises, earlier⟩ :=
            ih (Nat.succ.inj full) others
          refine ⟨i + 1, command, given, here, there, raises, ?_⟩
          intro j other before below at_j given_j
          cases j with
          | zero =>
            cases at_j
            cases given_j
            exact ⟨value, own⟩
          | succ j => exact earlier j other before (Nat.lt_of_succ_lt_succ below) at_j given_j

/-! ## The alignment -/

omit [PyFloat F] in
/-- Beside a command stands its own response, and its callback makes of it what the command comes
to. -/
theorem outcome_of_fill {commands : List (StackItem F)} {replies : List (PyVal F)}
    (one : replies.length = gaps (unsent commands))
    (silent : ∀ command ∈ commands, (command.options.get emptyResponse).isSome →
      config.responseCallbacks command.name = none)
    {i : Nat} {command : StackItem F} {response : PyVal F} (here : commands[i]? = some command)
    (there : (fill (unsent commands) replies)[i]? = some response) :
    Outcome config commands replies i command (applyCallback config command response) := by
  have hole : (unsent commands)[i]? = some (command.options.get emptyResponse) := by
    rw [unsent, List.getElem?_map, here]
    rfl
  cases own : command.options.get emptyResponse with
  | some value =>
    rw [own] at hole
    have same : value = response := Option.some.inj ((fill_known one hole).symm.trans there)
    have plain := silent command (List.mem_of_getElem? here) (by rw [own]; rfl)
    have kept : applyCallback config command response = .ok value := by
      rw [← same]
      unfold applyCallback respond
      rw [plain]
      cases value <;> rfl
    rw [kept]
    exact .skipped own
  | none =>
    rw [own] at hole
    have reply := (fill_hole one hole).symm.trans there
    rw [unsent, ← List.map_take] at reply
    exact .replied own reply

/-- Results of a transaction stay aligned with their commands: with `raise_on_error=False` each
command has what it comes to, or the first response callback that raises ends the call. -/
theorem executeTransaction_aligned {commands : List (StackItem F)} {unread rest : List Reply}
    {replies : List (PyVal F)}
    (silent : ∀ command ∈ commands, (command.options.get emptyResponse).isSome →
      config.responseCallbacks command.name = none)
    (executed : Executed config commands unread replies rest) :
    Aligned config commands replies rest (executeTransaction config commands false unread) := by
  have gathered := gather_of_executed config executed
  have full : (fill (unsent commands) replies).length = commands.length := by
    rw [length_fill executed.one, unsent, List.length_map]
  have response : ∀ (i : Nat) command, commands[i]? = some command →
      ∃ response, (fill (unsent commands) replies)[i]? = some response := by
    intro i command here
    have inside : i < (fill (unsent commands) replies).length := by
      rw [full]
      exact (List.getElem?_eq_some_iff.mp here).1
    exact ⟨_, List.getElem?_eq_getElem inside⟩
  unfold executeTransaction
  rw [bind_of_ok gathered]
  simp only [Bool.false_eq_true, ↓reduceIte]
  cases ran : applyCallbacks config commands (fill (unsent commands) replies) with
  | ok data =>
    obtain ⟨length, items⟩ := applyCallbacks_ok config full ran
    refine ⟨rfl, length, fun i command here => ?_⟩
    obtain ⟨own, there⟩ := response i command here
    obtain ⟨value, item, made⟩ := items i command own here there
    have outcome := outcome_of_fill config executed.one silent here there
    rw [made] at outcome
    exact ⟨value, item, outcome⟩
  | error e =>
    obtain ⟨i, command, own, here, there, raises, earlier⟩ := applyCallbacks_error config full ran
    have outcome := outcome_of_fill config executed.one silent here there
    rw [raises] at outcome
    refine ⟨rfl, i, command, here, outcome, fun j other before at_j => ?_⟩
    obtain ⟨given, given_j⟩ := response j other at_j
    obtain ⟨value, made⟩ := earlier j other given before at_j given_j
    have outcome := outcome_of_fill config executed.one silent at_j given_j
    rw [made] at outcome
    exact ⟨value, outcome⟩

end Calls

/-- A client that leaves replies as octets, with one response callback. -/
def octetsConfig (callback : PyVal Empty → Dict Text (PyVal Empty) → Except Exc (PyVal Empty)) :
    ResultsConfig Empty where
  encoder := { decodeResponses := false, decodeBytes := fun _ => none }
  responseCallbacks name := if name = "GET".toList then some callback else none

/-- `GET` of one key. -/
def getItem : StackItem Empty := { name := "GET".toList, options := [] }

/-- `MGET` without keys, which is not sent. -/
def mgetNothing : StackItem Empty := { name := "MGET".toList, options := [(emptyResponse, .list [])] }

/-- A command that is not sent between two that are. -/
theorem executeTransaction_aligned_between :
    Aligned (octetsConfig fun reply _ => .ok (.list [reply])) [getItem, mgetNothing, getItem]
      [.bytes [49], .none] []
      (executeTransaction (octetsConfig fun reply _ => .ok (.list [reply]))
        [getItem, mgetNothing, getItem] false
        [.simple (ascii "OK"), .simple (ascii "QUEUED"), .simple (ascii "QUEUED"),
          .array [.bulk [49], .nullBulk]]) := by
  apply executeTransaction_aligned
  · intro command member filled
    simp only [List.mem_cons, List.not_mem_nil, or_false] at member
    rcases member with rfl | rfl | rfl
    · cases filled
    · rfl
    · cases filled
  · refine ⟨⟨_, .succ rfl (.succ rfl (.succ rfl (.zero _))), rfl⟩, rfl⟩

/-- `int` as a response callback, for single digits. -/
def digit (reply : PyVal Empty) (_options : Dict Text (PyVal Empty)) : Except Exc (PyVal Empty) :=
  match reply with
  | .bytes [byte] =>
    if 48 ≤ byte ∧ byte ≤ 57 then .ok (.int (byte.toNat - 48)) else .error { cls := .valueError }
  | _ => .error { cls := .valueError }

/-- A transaction whose commands were all executed returns no list when a response callback
raises. -/
theorem digit_raises :
    (∀ command ∈ [getItem], (command.options.get emptyResponse).isSome →
      (octetsConfig digit).responseCallbacks command.name = none) ∧
    Executed (octetsConfig digit) [getItem]
      [.simple (ascii "OK"), .simple (ascii "QUEUED"), .array [.bulk (ascii "abc")]]
      [.bytes (ascii "abc")] [] ∧
    executeTransaction (octetsConfig digit) [getItem] false
      [.simple (ascii "OK"), .simple (ascii "QUEUED"), .array [.bulk (ascii "abc")]] =
        .error (.ofClass .valueError) [] := by
  refine ⟨?_, ⟨⟨_, .succ rfl (.succ rfl (.zero _)), rfl⟩, rfl⟩, rfl⟩
  intro command member filled
  rw [List.mem_singleton] at member
  rw [member] at filled
  cases filled

end Results

end RedisPy
