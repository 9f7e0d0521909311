import RedisPy.Client.Pipeline
import RedisPy.Lib.Holes

/-!
# The results of a pipeline with and without a transaction

One attempt of `_execute_pipeline` and one of `_execute_transaction` on the replies that are on
the wire. A plain pipeline parses each reply with the options of its command; a transaction
parses the one array that answers `EXEC` without options, puts in what stands for the commands
that were not sent, and runs the response callbacks afterwards. The effect of replies on
`watching` and the text that `annotate_exception` adds to an error change no result and are
left out, and so is the retry around an attempt.
-/

namespace RedisPy

open Interruptible Contract

variable {F : Type}

/-- A command of a pipeline's stack: `args[0]` and its options. -/
structure StackItem (F : Type) where
  /-- `args[0]`. -/
  name : Text
  /-- The keyword arguments it was called with. -/
  options : Dict Text (PyVal F)

/-- What decides about the values of replies. -/
structure ResultsConfig (F : Type) where
  /-- The encoder of the connection. -/
  encoder : Encoder
  /-- `response_callbacks`; a callback gets the options as keyword arguments. -/
  responseCallbacks : Text → Option (PyVal F → Dict Text (PyVal F) → Except Exc (PyVal F))

namespace Results

/-- `NEVER_DECODE`. -/
def neverDecode : Text := "NEVER_DECODE".toList

/-- `EMPTY_RESPONSE`. -/
def emptyResponse : Text := "EMPTY_RESPONSE".toList

/-- The option that only the cache looks at. -/
def keys : Text := "keys".toList

/-- The parameters of `parse_response` that are no options. -/
def parameters : List Text := ["self".toList, "connection".toList, "command_name".toList]

/-- The name under which a transaction parses replies. -/
def placeholder : Text := "_".toList

/-- `isinstance(e, ResponseError)` for what a call ends with. -/
def errorReply : Stop → Option Exc
  | .raised e => if e.isinstance .responseError then some e else none
  | .blocked => none

section Calls

variable [PyFloat F] (config : ResultsConfig F)

/-- `Connection.read_response`: the next reply is decoded, and an error reply is raised. -/
def readResponse (disableDecoding : Bool) : EStateM Stop (List Reply) (PyVal F)
  | [] => .error .blocked []
  | reply :: rest =>
    match decoded (fun _ => none) { encoder := config.encoder, disabled := disableDecoding } reply with
    | .error e => .error e rest
    | .ok value =>
      match PyVal.errorReply value with
      | some e => .error (.raised e) rest
      | none => .ok value rest

/-- The response callback of a command, where there is one. -/
def respond (name : Text) (options : Dict Text (PyVal F)) (response : PyVal F) :
    Except Stop (PyVal F) :=
  match config.responseCallbacks name with
  | none => .ok response
  | some callback =>
    match callback response options with
    | .ok value => .ok value
    | .error e => .error (.raised e)

/-- The options that are left for a callback once a reply is parsed. -/
def optionsLeft (options : Dict Text (PyVal F)) : Dict Text (PyVal F) :=
  ((options.erase neverDecode).erase emptyResponse).erase keys

/-- `Redis.parse_response`. -/
def parseResponse (name : Text) (options : Dict Text (PyVal F)) :
    EStateM Stop (List Reply) (PyVal F) := fun unread =>
  if parameters.any options.contains then .error (.ofClass .typeError) unread
  else
    match readResponse config (options.contains neverDecode) unread with
    | .error e rest =>
      match errorReply e, options.get emptyResponse with
      | some _, some value => .ok value rest
      | _, _ => .error e rest
    | .ok response rest =>
      match respond config name (optionsLeft options) response with
      | .ok value => .ok value rest
      | .error e => .error e rest

/-- A `ResponseError` is a result, and everything else is raised. -/
def keepError (e : Stop) : EStateM Stop (List Reply) (PyVal F) :=
  match errorReply e with
  | some error => pure (.exc error)
  | none => throw e

/-- The loop of `_execute_pipeline`. -/
def readPipeline : List (StackItem F) → EStateM Stop (List Reply) (List (PyVal F))
  | [] => pure []
  | command :: commands => do
    let reply ← recover (parseResponse config command.name command.options) keepError
    let replies ← readPipeline commands
    pure (reply :: replies)

/-- `_execute_pipeline`. -/
def executePipeline (commands : List (StackItem F)) (raiseOnError : Bool) :
    EStateM Stop (List Reply) (List (PyVal F)) := do
  let response ← readPipeline config commands
  match if raiseOnError then Holder.firstError response else none with
  | some e => throw (.raised e)
  | none => pure response

/-- Parse the reply to `MULTI` or to one queued command; an error is kept with its index. -/
def readQueuedReply (i : Nat) : EStateM Stop (List Reply) (List (Nat × PyVal F)) :=
  recover (do
    let _ ← parseResponse config placeholder []
    pure []) fun e =>
      match errorReply e with
      | some error => pure [(i, .exc error)]
      | none => throw e

/-- The loop over the queued commands; those with `EMPTY_RESPONSE` were not sent. -/
def readQueued : Nat → List (StackItem F) → EStateM Stop (List Reply) (List (Nat × PyVal F))
  | _, [] => pure []
  | i, command :: commands =>
    match command.options.get emptyResponse with
    | some value => do
      let others ← readQueued (i + 1) commands
      pure ((i, value) :: others)
    | none => do
      let own ← readQueuedReply config i
      let others ← readQueued (i + 1) commands
      pure (own ++ others)

/-- Parse the reply to `EXEC`; the first error is the reason of an `ExecAbortError`. -/
def readExec (errors : List (Nat × PyVal F)) : EStateM Stop (List Reply) (PyVal F) :=
  recover (parseResponse config placeholder []) fun e =>
    match e with
    | .raised error =>
      if error.isinstance .execAbortError then throw (.raised (Holder.abortError errors error))
      else throw e
    | .blocked => throw e

/-- `_execute_transaction` up to the response list: one item for each command, before any
callback of a command. -/
def gather (commands : List (StackItem F)) : EStateM Stop (List Reply) (List (PyVal F)) := do
  let first ← readQueuedReply config 0
  let others ← readQueued config 0 commands
  let response ← readExec config (first ++ others)
  match Holder.resultItems (first ++ others) response with
  | .error e => throw (.raised e)
  | .ok items =>
    if items.length ≠ commands.length then throw (.ofClass .responseError) else pure items

/-- The response callback of one command of a transaction; exceptions stay what they are. -/
def applyCallback (command : StackItem F) (response : PyVal F) : Except Stop (PyVal F) :=
  match response with
  | .exc e => .ok (.exc e)
  | response => respond config command.name (command.options.erase keys) response

/-- The response callbacks of a transaction. -/
def applyCallbacks : List (StackItem F) → List (PyVal F) → Except Stop (List (PyVal F))
  | command :: commands, response :: responses => do
    let value ← applyCallback config command response
    let values ← applyCallbacks commands responses
    pure (value :: values)
  | _, _ => pure []

/-- `_execute_transaction`. -/
def executeTransaction (commands : List (StackItem F)) (raiseOnError : Bool) :
    EStateM Stop (List Reply) (List (PyVal F)) := do
  let response ← gather config commands
  match if raiseOnError then Holder.firstError response else none with
  | some e => throw (.raised e)
  | none =>
    match applyCallbacks config commands response with
    | .ok data => pure data
    | .error e => throw e

/-! ## The same replies for both -/

/-- What a call returned. -/
def returned {σ α : Type} : EStateM.Result Stop σ α → Option α
  | .ok value _ => some value
  | .error _ _ => none

/-- The commands that a transaction sends, with their replies. -/
def sent (exchanges : List (StackItem F × Reply)) : List (StackItem F × Reply) :=
  exchanges.filter fun exchange => !exchange.1.options.contains emptyResponse

/-- The replies to a transaction of which `EXEC` returns the replies of the commands. -/
def transactionReplies (exchanges : List (StackItem F × Reply)) : List Reply :=
  .simple (ascii "OK") :: (sent exchanges).map (fun _ => .simple (ascii "QUEUED")) ++
    [.array ((sent exchanges).map (·.2))]

variable (raiseOnError : Bool) (exchanges : List (StackItem F × Reply))

/-- The result list of a plain pipeline. -/
def pipelineResults : Option (List (PyVal F)) :=
  returned (executePipeline config (exchanges.map (·.1)) raiseOnError (exchanges.map (·.2)))

/-- The result list of a transaction. -/
def transactionResults : Option (List (PyVal F)) :=
  returned (executeTransaction config (exchanges.map (·.1)) raiseOnError
    (transactionReplies exchanges))

/-- Both return the same list, or neither returns one. -/
def SameResults : Prop :=
  pipelineResults config raiseOnError exchanges = transactionResults config raiseOnError exchanges

/-! ## Command by command -/

/-- What `parse_response` makes of a reply. -/
def parsed (name : Text) (options : Dict Text (PyVal F)) (reply : Reply) : Except Stop (PyVal F) :=
  match parseResponse config name options [reply] with
  | .ok value _ => .ok value
  | .error e _ => .error e

/-- With `raise_on_error` no result list has a `ResponseError`. -/
def tolerated (response : PyVal F) : Option (PyVal F) :=
  if raiseOnError && (PyVal.errorReply response).isSome then none else some response

/-- The value of a command in a plain pipeline: its reply parsed with its own options. -/
def plainValue (exchange : StackItem F × Reply) : Option (PyVal F) :=
  match parsed config exchange.1.name exchange.1.options exchange.2 with
  | .ok value => tolerated raiseOnError value
  | .error e => (errorReply e).bind fun error => tolerated raiseOnError (.exc error)

/-- The reply of a command as the client decodes it, whatever the options of the command; an
`EMPTY_RESPONSE` takes its place. -/
def decodedReply (exchange : StackItem F × Reply) : Option (PyVal F) :=
  match exchange.1.options.get emptyResponse with
  | some value => some value
  | none =>
    (decoded (fun _ => none) { encoder := config.encoder, disabled := false } exchange.2).toOption

/-- The value of a command whose response is at hand: the callback with all options but `keys`. -/
def lateValue (command : StackItem F) (response : PyVal F) : Option (PyVal F) :=
  (tolerated raiseOnError response).bind fun response => (applyCallback config command response).toOption

/-- The value of a command in a transaction. -/
def transactionValue (exchange : StackItem F × Reply) : Option (PyVal F) :=
  (decodedReply config exchange).bind (lateValue config raiseOnError exchange.1)

/-- Status replies pass under the placeholder name: no callback is registered for it, and the
encoder takes `OK` and `QUEUED`. -/
def statusesPass : Bool :=
  (config.responseCallbacks placeholder).isNone &&
    (config.encoder.decode (.bytes (ascii "OK") : PyVal F)).toOption.isSome &&
    (config.encoder.decode (.bytes (ascii "QUEUED") : PyVal F)).toOption.isSome

/-- The response list of a transaction, before any callback of a command. -/
def gathered : Option (List (PyVal F)) :=
  returned (gather config (exchanges.map (·.1)) (transactionReplies exchanges))

/-- The values of a transaction whose response list is at hand. -/
def lateValues (responses : List (PyVal F)) : List (Option (PyVal F)) :=
  List.zipWith (lateValue config raiseOnError) (exchanges.map (·.1)) responses

end Calls

/-- Two lists of values that may be missing: they are the same, or a value is missing in both. -/
def Agree {α : Type} (xs ys : List (Option α)) : Prop := xs = ys ∨ none ∈ xs ∧ none ∈ ys

/-- Every command has the same value either way, or a command of each pipeline has none. Where
status replies do not pass under the placeholder name, it is the response list that counts. -/
def Alike [PyFloat F] (config : ResultsConfig F) (raiseOnError : Bool)
    (exchanges : List (StackItem F × Reply)) : Prop :=
  if statusesPass config then
    Agree (exchanges.map (plainValue config raiseOnError))
      (exchanges.map (transactionValue config raiseOnError))
  else
    match gathered config exchanges with
    | some responses =>
      Agree (exchanges.map (plainValue config raiseOnError))
        (lateValues config raiseOnError exchanges responses)
    | none => none ∈ exchanges.map (plainValue config raiseOnError)

/-! ## Lists of values that may be missing -/

section Missing

variable {α β : Type}

/-- All values are there. -/
theorem mapM_id_eq_some {xs : List (Option α)} {values : List α} :
    xs.mapM id = some values ↔ xs = values.map some := by
  rw [Holes.mapM_eq_some_iff, List.map_id]

/-- A value is missing. -/
theorem mapM_id_eq_none {xs : List (Option α)} : xs.mapM id = none ↔ none ∈ xs := by
  induction xs with
  | nil => simp
  | cons x xs ih =>
    cases x with
    | none => simp
    | some value =>
      have rest : none ∈ some value :: xs ↔ none ∈ xs := by simp
      rw [rest, ← ih]
      cases found : xs.mapM id with
      | none => simp [found]
      | some others => simp [found]

/-- The lists that two lists of values make are the same when the values agree. -/
theorem mapM_id_eq_iff {xs ys : List (Option α)} : xs.mapM id = ys.mapM id ↔ Agree xs ys := by
  cases left : xs.mapM id with
  | none =>
    have missing := mapM_id_eq_none.mp left
    constructor
    · intro same
      exact .inr ⟨missing, mapM_id_eq_none.mp same.symm⟩
    · rintro (rfl | ⟨-, other⟩)
      · exact left.symm
      · exact (mapM_id_eq_none.mpr other).symm
  | some values =>
    have there := mapM_id_eq_some.mp left
    constructor
    · intro same
      exact .inl (there.trans (mapM_id_eq_some.mp same.symm).symm)
    · rintro (rfl | ⟨missing, -⟩)
      · exact left.symm
      · rw [mapM_id_eq_none.mpr missing] at left
        cases left

/-- One partial change after another, value by value. -/
theorem mapM_id_bind (change : α → Option β) (xs : List (Option α)) :
    (xs.mapM id).bind (List.mapM change) = (xs.map (·.bind change)).mapM id := by
  induction xs with
  | nil => rfl
  | cons x xs ih =>
    cases x with
    | none => rfl
    | some value =>
      simp only [List.mapM_cons, List.map_cons, id_eq, Option.bind_eq_bind, Option.bind_some,
        Option.pure_def, Option.bind_assoc, List.mapM_cons]
      rw [← ih]
      cases found : xs.mapM id with
      | none => cases change value <;> simp
      | some others => cases change value <;> simp

end Missing

/-! ## The plain pipeline -/

section Plain

/-- A response is kept as it is or not at all. -/
theorem tolerated_cases (raiseOnError : Bool) (response : PyVal F) :
    tolerated raiseOnError response = none ∨ tolerated raiseOnError response = some response := by
  unfold tolerated
  split
  · exact .inl rfl
  · exact .inr rfl

/-- The first of some errors is raised when not all values are tolerated. -/
theorem firstError_eq (raiseOnError : Bool) (response : List (PyVal F)) :
    (match if raiseOnError then Holder.firstError response else none with
      | some _ => none
      | none => some response) = response.mapM (tolerated raiseOnError) := by
  cases raiseOnError with
  | false =>
    induction response with
    | nil => rfl
    | cons value response ih =>
      have rest : response.mapM (tolerated false) = some response := ih.symm
      simp [tolerated, rest]
  | true =>
    simp only [↓reduceIte, Holder.firstError]
    induction response with
    | nil => rfl
    | cons value response ih =>
      rw [List.findSome?_cons, List.mapM_cons, ← ih]
      cases error : PyVal.errorReply value with
      | some e => simp [tolerated, error]
      | none => cases others : response.findSome? PyVal.errorReply <;> simp [tolerated, error]

variable [PyFloat F] (config : ResultsConfig F)

/-- Reading takes the next reply and nothing else matters. -/
theorem readResponse_cons (disableDecoding : Bool) (reply : Reply) (rest : List Reply) :
    (∃ value, readResponse config disableDecoding [reply] = .ok value [] ∧
      readResponse config disableDecoding (reply :: rest) = .ok value rest) ∨
    ∃ e, readResponse config disableDecoding [reply] = .error e [] ∧
      readResponse config disableDecoding (reply :: rest) = .error e rest := by
  unfold readResponse
  dsimp only
  cases (decoded (fun _ => none) { encoder := config.encoder, disabled := disableDecoding } reply :
    Except Stop (PyVal F)) with
  | error e => exact .inr ⟨e, rfl, rfl⟩
  | ok value =>
    dsimp only
    cases PyVal.errorReply value with
    | none => exact .inl ⟨value, rfl, rfl⟩
    | some e => exact .inr ⟨_, rfl, rfl⟩

/-- Parsing a reply before others gives what parsing it alone gives. A call that is refused for
its options reads nothing. -/
theorem parseResponse_cons (name : Text) (options : Dict Text (PyVal F)) (reply : Reply)
    (rest : List Reply) :
    (∃ value, parsed config name options reply = .ok value ∧
      parseResponse config name options (reply :: rest) = .ok value rest) ∨
    ∃ e t, parsed config name options reply = .error e ∧
      parseResponse config name options (reply :: rest) = .error e t ∧
      ((errorReply e).isSome → t = rest) := by
  unfold parsed parseResponse
  by_cases refused : (parameters.any options.contains) = true
  · right
    simp only [if_pos refused]
    exact ⟨_, _, rfl, rfl, fun error => by cases error⟩
  · simp only [if_neg refused]
    rcases readResponse_cons config (options.contains neverDecode) reply rest with
      ⟨response, alone, first⟩ | ⟨e, alone, first⟩
    · rw [alone, first]
      dsimp only
      cases respond config name (optionsLeft options) response with
      | ok value => exact .inl ⟨value, rfl, rfl⟩
      | error e => exact .inr ⟨e, rest, rfl, rfl, fun _ => rfl⟩
    · rw [alone, first]
      dsimp only
      cases errorReply e with
      | none => exact .inr ⟨e, rest, rfl, rfl, fun _ => rfl⟩
      | some error =>
        cases options.get emptyResponse with
        | none => exact .inr ⟨e, rest, rfl, rfl, fun _ => rfl⟩
        | some value => exact .inl ⟨value, rfl, rfl⟩

/-- The item of a command in the response list of a plain pipeline. -/
def plainItem (exchange : StackItem F × Reply) : Option (PyVal F) :=
  match parsed config exchange.1.name exchange.1.options exchange.2 with
  | .ok value => some value
  | .error e => (errorReply e).map .exc

/-- A tolerated item is the value of its command. -/
theorem plainItem_tolerated (raiseOnError : Bool) (exchange : StackItem F × Reply) :
    (plainItem config exchange).bind (tolerated raiseOnError) =
      plainValue config raiseOnError exchange := by
  unfold plainItem plainValue
  cases parsed config exchange.1.name exchange.1.options exchange.2 with
  | ok value => rfl
  | error e => cases found : errorReply e <;> simp [found]

/-- Reading for the response list gives the item of the command, or raises. -/
theorem readItem (exchange : StackItem F × Reply) (rest : List Reply) :
    match plainItem config exchange with
    | some value =>
      recover (parseResponse config exchange.1.name exchange.1.options) keepError
        (exchange.2 :: rest) = .ok value rest
    | none => ∃ e t,
      recover (parseResponse config exchange.1.name exchange.1.options) keepError
        (exchange.2 :: rest) = .error e t := by
  unfold plainItem recover
  rcases parseResponse_cons config exchange.1.name exchange.1.options exchange.2 rest with
    ⟨value, alone, first⟩ | ⟨e, t, alone, first, left⟩
  · rw [alone, first]
  · rw [alone, first]
    unfold keepError
    dsimp only
    cases found : errorReply e with
    | none => exact ⟨e, t, rfl⟩
    | some error =>
      have all : t = rest := left (by rw [found]; rfl)
      rw [all]
      rfl

/-- The loop collects the items. -/
theorem readPipeline_returned (exchanges : List (StackItem F × Reply)) :
    returned (readPipeline config (exchanges.map (·.1)) (exchanges.map (·.2))) =
      (exchanges.map (plainItem config)).mapM id := by
  induction exchanges with
  | nil => rfl
  | cons exchange exchanges ih =>
    have item := readItem config exchange (exchanges.map (·.2))
    rw [List.map_cons, List.map_cons, List.map_cons, List.mapM_cons, ← ih, readPipeline]
    cases found : plainItem config exchange with
    | none =>
      rw [found] at item
      obtain ⟨e, t, raised⟩ := item
      rw [bind_of_error raised]
      rfl
    | some value =>
      rw [found] at item
      rw [bind_of_ok item]
      cases others : readPipeline config (exchanges.map (·.1)) (exchanges.map (·.2)) with
      | ok values t =>
        rw [bind_of_ok others]
        rfl
      | error e t =>
        rw [bind_of_error others]
        rfl

/-- A plain pipeline returns the values of its commands when all of them have one. -/
theorem pipelineResults_eq (raiseOnError : Bool) (exchanges : List (StackItem F × Reply)) :
    pipelineResults config raiseOnError exchanges =
      (exchanges.map (plainValue config raiseOnError)).mapM id := by
  have values : (exchanges.map (plainValue config raiseOnError)).mapM id =
      ((exchanges.map (plainItem config)).mapM id).bind (List.mapM (tolerated raiseOnError)) := by
    rw [mapM_id_bind, List.map_map]
    exact congrArg (List.mapM id) (List.map_congr_left fun exchange _ =>
      (plainItem_tolerated config raiseOnError exchange).symm)
  rw [values, ← readPipeline_returned]
  unfold pipelineResults executePipeline
  cases ran : readPipeline config (exchanges.map (·.1)) (exchanges.map (·.2)) with
  | error e t =>
    rw [bind_of_error ran]
    rfl
  | ok response t =>
    have check := firstError_eq raiseOnError response
    rw [bind_of_ok ran]
    simp only [returned, Option.bind_some]
    rw [← check]
    cases if raiseOnError then Holder.firstError response else none <;> rfl

end Plain

/-! ## The transaction -/

section Transaction

variable [PyFloat F] (config : ResultsConfig F)

/-- A response list has one item for each command. -/
theorem gather_length {commands : List (StackItem F)} {unread rest : List Reply}
    {items : List (PyVal F)} (ran : gather config commands unread = .ok items rest) :
    items.length = commands.length := by
  unfold gather at ran
  cases opened : readQueuedReply config 0 unread with
  | error e t =>
    rw [bind_of_error opened] at ran
    cases ran
  | ok first t =>
    rw [bind_of_ok opened] at ran
    cases queued : readQueued config 0 commands t with
    | error e u =>
      rw [bind_of_error queued] at ran
      cases ran
    | ok others u =>
      rw [bind_of_ok queued] at ran
      cases executed : readExec config (first ++ others) u with
      | error e v =>
        rw [bind_of_error executed] at ran
        cases ran
      | ok response v =>
        rw [bind_of_ok executed] at ran
        cases built : Holder.resultItems (first ++ others) response with
        | error e =>
          rw [built] at ran
          cases ran
        | ok made =>
          rw [built] at ran
          by_cases short : made.length ≠ commands.length
          · simp only [if_pos short] at ran
            cases ran
          · simp only [if_neg short] at ran
            cases ran
            exact Decidable.not_not.mp short

omit [PyFloat F] in
/-- The first error is raised or the callbacks run, which is the same as treating the commands
one by one. -/
theorem lateValues_mapM (raiseOnError : Bool) (commands : List (StackItem F))
    (responses : List (PyVal F)) (full : responses.length = commands.length) :
    (responses.mapM (tolerated raiseOnError)).bind
        (fun _ => (applyCallbacks config commands responses).toOption) =
      (List.zipWith (lateValue config raiseOnError) commands responses).mapM id := by
  induction commands generalizing responses with
  | nil =>
    cases responses with
    | nil => rfl
    | cons response responses => cases full
  | cons command commands ih =>
    cases responses with
    | nil => cases full
    | cons response responses =>
      have rest := ih responses (Nat.succ.inj full)
      rw [List.zipWith_cons_cons, List.mapM_cons, List.mapM_cons, ← rest, applyCallbacks]
      unfold lateValue
      rcases tolerated_cases raiseOnError response with refused | kept
      · simp [refused]
      · simp only [kept, Option.bind_eq_bind, Option.bind_some, id_eq]
        cases applied : applyCallback config command response with
        | error e => cases responses.mapM (tolerated raiseOnError) <;> rfl
        | ok value =>
          cases responses.mapM (tolerated raiseOnError) with
          | none => rfl
          | some kept => cases applyCallbacks config commands responses <;> rfl

/-- A transaction returns the values that its response list gives when all of them are there. -/
theorem transactionResults_eq (raiseOnError : Bool) (exchanges : List (StackItem F × Reply)) :
    transactionResults config raiseOnError exchanges =
      (gathered config exchanges).bind fun responses =>
        (lateValues config raiseOnError exchanges responses).mapM id := by
  unfold transactionResults gathered executeTransaction
  cases ran : gather config (exchanges.map (·.1)) (transactionReplies exchanges) with
  | error e t =>
    rw [bind_of_error ran]
    rfl
  | ok responses t =>
    have full := gather_length config ran
    have check := firstError_eq raiseOnError responses
    rw [bind_of_ok ran]
    simp only [returned, Option.bind_some, lateValues]
    rw [← lateValues_mapM config raiseOnError _ responses full, ← check]
    cases if raiseOnError then Holder.firstError responses else none with
    | some e => rfl
    | none => cases applyCallbacks config (exchanges.map (·.1)) responses <;> rfl

/-- Without a callback for the placeholder, parsing under it is reading. -/
theorem parseResponse_placeholder (unnamed : config.responseCallbacks placeholder = none)
    (unread : List Reply) :
    parseResponse config placeholder [] unread = readResponse config false unread := by
  unfold parseResponse respond
  have free : (parameters.any (Dict.contains ([] : Dict Text (PyVal F)))) = false := rfl
  have enabled : Dict.contains ([] : Dict Text (PyVal F)) neverDecode = false := rfl
  have plain : Dict.get ([] : Dict Text (PyVal F)) emptyResponse = none := rfl
  rw [free, enabled, plain]
  simp only [Bool.false_eq_true, ↓reduceIte, unnamed]
  cases readResponse config false unread with
  | ok value rest => rfl
  | error e rest => cases found : errorReply e <;> simp [found]

omit [PyFloat F] in
/-- Octets never decode to an error. -/
theorem errorReply_decode {encoder : Encoder} {data : Bytes} {value : PyVal F}
    (read : encoder.decode (.bytes data) = .ok value) : PyVal.errorReply value = none := by
  unfold Encoder.decode at read
  by_cases decodes : encoder.decodeResponses = true
  · simp only [if_pos decodes] at read
    cases found : encoder.decodeBytes data with
    | none =>
      rw [found] at read
      cases read
    | some text =>
      rw [found] at read
      cases read
      rfl
  · simp only [if_neg decodes] at read
    cases read
    rfl

/-- Where status replies pass, one of them adds nothing to the response list. -/
theorem readQueuedReply_passes (pass : statusesPass config) {word : Bytes}
    (known : word = ascii "OK" ∨ word = ascii "QUEUED") (i : Nat) (rest : List Reply) :
    readQueuedReply config i (.simple word :: rest) = .ok [] rest := by
  simp only [statusesPass, Bool.and_eq_true, Option.isNone_iff_eq_none] at pass
  obtain ⟨⟨unnamed, okay⟩, queued⟩ := pass
  have takes : (config.encoder.decode (.bytes word : PyVal F)).toOption.isSome = true := by
    rcases known with rfl | rfl
    · exact okay
    · exact queued
  cases read : config.encoder.decode (.bytes word : PyVal F) with
  | error e =>
    rw [read] at takes
    cases takes
  | ok value =>
    have parsed : parseResponse config placeholder [] (.simple word :: rest) = .ok value rest := by
      rw [parseResponse_placeholder config unnamed]
      unfold readResponse
      simp only [decoded, admitted, Decoding.finish, ok_bind, Bool.false_eq_true, ↓reduceIte, read,
        errorReply_decode read]
    have nothing : (do
        let _ ← parseResponse config placeholder []
        pure [] : EStateM Stop (List Reply) (List (Nat × PyVal F))) (.simple word :: rest) =
        .ok [] rest := by
      rw [bind_of_ok parsed]
      rfl
    unfold readQueuedReply recover
    rw [nothing]

/-- What stands in the response list for the commands that were not sent. -/
def insertions : Nat → List (StackItem F × Reply) → List (Nat × PyVal F)
  | _, [] => []
  | i, exchange :: exchanges =>
    match exchange.1.options.get emptyResponse with
    | some value => (i, value) :: insertions (i + 1) exchanges
    | none => insertions (i + 1) exchanges

/-- Where status replies pass, only what was not sent is put in. -/
theorem readQueued_passes (pass : statusesPass config) (i : Nat)
    (exchanges : List (StackItem F × Reply)) (rest : List Reply) :
    readQueued config i (exchanges.map (·.1))
        ((sent exchanges).map (fun _ => .simple (ascii "QUEUED")) ++ rest) =
      .ok (insertions i exchanges) rest := by
  induction exchanges generalizing i with
  | nil => rfl
  | cons exchange exchanges ih =>
    rw [List.map_cons, readQueued, insertions, sent, List.filter_cons,
      Dict.contains_eq_isSome_get]
    cases empty : exchange.1.options.get emptyResponse with
    | some value =>
      have others := ih (i + 1)
      simp only [Option.isSome_some, Bool.not_true, Bool.false_eq_true, ↓reduceIte]
      rw [sent] at others
      rw [bind_of_ok others]
      rfl
    | none =>
      have own := readQueuedReply_passes config pass (.inr rfl) i
        ((sent exchanges).map (fun _ => .simple (ascii "QUEUED")) ++ rest)
      have others := ih (i + 1)
      simp only [Option.isSome_none, Bool.not_false, ↓reduceIte, List.map_cons, List.cons_append]
      rw [sent] at own others
      rw [bind_of_ok own, bind_of_ok others]
      rfl

omit [PyFloat F] in
/-- Items are put in behind those in front of them. -/
theorem insert_length (front items : List (PyVal F)) (value : PyVal F) :
    PyVal.insert (front ++ items) front.length value = front ++ [value] ++ items := by
  simp [PyVal.insert]

/-- The client's own decoding of the replies in an `EXEC` array. -/
def enabled (config : ResultsConfig F) : Decoding :=
  { encoder := config.encoder, disabled := false }

/-- With what was not sent put in, the decoded array is one item for each command. -/
theorem decodedReply_inserted (exchanges : List (StackItem F × Reply)) :
    match collect (decoded (F := F) (fun _ => none) (enabled config)) ((sent exchanges).map (·.2)) with
    | .error _ => (exchanges.map (decodedReply config)).mapM id = none
    | .ok values => ∃ items, (exchanges.map (decodedReply config)).mapM id = some items ∧
      ∀ front : List (PyVal F),
        (insertions front.length exchanges).foldl
          (fun items error => PyVal.insert items error.1 error.2) (front ++ values) =
            front ++ items := by
  induction exchanges with
  | nil => exact ⟨[], rfl, fun front => rfl⟩
  | cons exchange exchanges ih =>
    unfold sent at ih ⊢
    rw [List.filter_cons, Dict.contains_eq_isSome_get, List.map_cons, List.mapM_cons]
    unfold insertions
    cases empty : exchange.1.options.get emptyResponse with
    | some value =>
      have own : decodedReply config exchange = some value := by
        unfold decodedReply
        rw [empty]
      simp only [Option.isSome_some, Bool.not_true, Bool.false_eq_true, ↓reduceIte]
      cases read : collect (decoded (F := F) (fun _ => none) (enabled config))
          ((exchanges.filter fun exchange => !exchange.1.options.contains emptyResponse).map
            (·.2)) with
      | error e =>
        rw [read] at ih
        simp [own, ih]
      | ok values =>
        rw [read] at ih
        obtain ⟨items, all, inserted⟩ := ih
        refine ⟨value :: items, by simp [own, all], fun front => ?_⟩
        have next := inserted (front ++ [value])
        rw [List.length_append, List.length_singleton] at next
        rw [List.foldl_cons, insert_length, next, List.append_assoc]
        rfl
    | none =>
      have own : decodedReply config exchange =
          (decoded (F := F) (fun _ => none) (enabled config) exchange.2).toOption := by
        unfold decodedReply
        rw [empty]
        rfl
      simp only [Option.isSome_none, Bool.not_false, ↓reduceIte, List.map_cons, collect]
      cases first : decoded (F := F) (fun _ => none) (enabled config) exchange.2 with
      | error e =>
        rw [first] at own
        simp [own, Except.toOption]
      | ok value =>
        rw [first] at own
        cases read : collect (decoded (F := F) (fun _ => none) (enabled config))
            ((exchanges.filter fun exchange => !exchange.1.options.contains emptyResponse).map
              (·.2)) with
        | error e =>
          rw [read] at ih
          simp [own, ih]
        | ok values =>
          rw [read] at ih
          obtain ⟨items, all, inserted⟩ := ih
          refine ⟨value :: items, by simp [own, all, Except.toOption], fun front => ?_⟩
          have next := inserted (front ++ [value])
          rw [List.length_append, List.length_singleton, List.append_assoc, List.append_assoc] at next
          exact next

/-- The array of `EXEC` is read as the list of the decoded replies. -/
theorem readExec_array (unnamed : config.responseCallbacks placeholder = none)
    (errors : List (Nat × PyVal F)) (replies : List Reply) :
    match collect (decoded (F := F) (fun _ => none) (enabled config)) replies with
    | .error _ => ∃ e t, readExec config errors [.array replies] = .error e t
    | .ok values => readExec config errors [.array replies] = .ok (.list values) [] := by
  have reading : readResponse config false [.array replies] =
      match collect (decoded (F := F) (fun _ => none) (enabled config)) replies with
      | .error e => .error e []
      | .ok values => .ok (.list values) [] := by
    unfold readResponse enabled
    simp only [decoded, admitted, ok_bind, decodedList_eq]
    cases collect (decoded (F := F) (fun _ => none)
      { encoder := config.encoder, disabled := false }) replies <;> rfl
  unfold readExec recover
  rw [parseResponse_placeholder config unnamed, reading]
  cases collect (decoded (F := F) (fun _ => none) (enabled config)) replies with
  | ok values => rfl
  | error e =>
    cases e with
    | blocked => exact ⟨_, _, rfl⟩
    | raised error =>
      dsimp only
      split
      · exact ⟨_, _, rfl⟩
      · exact ⟨_, _, rfl⟩

/-- Where status replies pass, the response list has the decoded replies of the commands. -/
theorem gathered_eq (pass : statusesPass config) (exchanges : List (StackItem F × Reply)) :
    gathered config exchanges = (exchanges.map (decodedReply config)).mapM id := by
  have unnamed : config.responseCallbacks placeholder = none := by
    simp only [statusesPass, Bool.and_eq_true, Option.isNone_iff_eq_none] at pass
    exact pass.1.1
  have opened := readQueuedReply_passes config pass (.inl rfl) 0
    ((sent exchanges).map (fun _ => .simple (ascii "QUEUED")) ++ [.array ((sent exchanges).map (·.2))])
  have queued := readQueued_passes config pass 0 exchanges [.array ((sent exchanges).map (·.2))]
  have executed := readExec_array config unnamed (insertions 0 exchanges) ((sent exchanges).map (·.2))
  have built := decodedReply_inserted config exchanges
  unfold gathered gather transactionReplies
  rw [List.cons_append, bind_of_ok opened, bind_of_ok queued, List.nil_append]
  cases read : collect (decoded (F := F) (fun _ => none) (enabled config))
      ((sent exchanges).map (·.2)) with
  | error e =>
    rw [read] at executed built
    obtain ⟨error, t, raised⟩ := executed
    rw [bind_of_error raised, built]
    rfl
  | ok values =>
    rw [read] at executed built
    obtain ⟨items, all, inserted⟩ := built
    have made := inserted []
    have full : items.length = exchanges.length := by
      have lengths := congrArg List.length (mapM_id_eq_some.mp all)
      simpa using lengths.symm
    rw [bind_of_ok executed, all]
    simp only [Holder.resultItems]
    rw [List.nil_append, List.nil_append, List.length_nil] at made
    rw [made]
    simp [full, returned]
    rfl

/-- The values of a transaction whose response list has the decoded replies. -/
theorem transactionValues_mapM (raiseOnError : Bool) (exchanges : List (StackItem F × Reply)) :
    (((exchanges.map (decodedReply config)).mapM id).bind fun responses =>
        (lateValues config raiseOnError exchanges responses).mapM id) =
      (exchanges.map (transactionValue config raiseOnError)).mapM id := by
  induction exchanges with
  | nil => rfl
  | cons exchange exchanges ih =>
    rw [List.map_cons, List.map_cons, List.mapM_cons, List.mapM_cons, ← ih]
    unfold transactionValue
    cases decodedReply config exchange with
    | none => rfl
    | some response =>
      cases (exchanges.map (decodedReply config)).mapM id with
      | none => cases late : lateValue config raiseOnError exchange.1 response <;> simp [late]
      | some responses => simp [lateValues]

/-- Where status replies pass, both pipelines return the same when each command has the same
value either way, or when neither returns. -/
theorem sameResults_of_pass (pass : statusesPass config) (raiseOnError : Bool)
    (exchanges : List (StackItem F × Reply)) :
    SameResults config raiseOnError exchanges ↔
      Agree (exchanges.map (plainValue config raiseOnError))
        (exchanges.map (transactionValue config raiseOnError)) := by
  unfold SameResults
  rw [pipelineResults_eq, transactionResults_eq, gathered_eq config pass, transactionValues_mapM]
  exact mapM_id_eq_iff

end Transaction

/-! ## Which commands have the same value either way -/

section Commands

variable [PyFloat F] {config : ResultsConfig F}

/-- A reply that is no error, decoded or left as octets. -/
def Reads (config : ResultsConfig F) (disabled : Bool) (reply : Reply) (response : PyVal F) : Prop :=
  decoded (fun _ => none) { encoder := config.encoder, disabled } reply = .ok response ∧
    ∀ e, response ≠ .exc e

omit [PyFloat F] in
/-- What is no exception is no error reply. -/
theorem errorReply_none {response : PyVal F} (fine : ∀ e, response ≠ .exc e) :
    PyVal.errorReply response = none := by
  cases response with
  | exc e => exact absurd rfl (fine e)
  | _ => rfl

/-- A command with usable options is parsed by its callback on what was read. -/
theorem parsed_eq {name : Text} {options : Dict Text (PyVal F)} {reply : Reply} {response : PyVal F}
    (free : parameters.any options.contains = false)
    (reads : Reads config (options.contains neverDecode) reply response) :
    parsed config name options reply = respond config name (optionsLeft options) response := by
  have read : readResponse config (options.contains neverDecode) [reply] = .ok response [] := by
    unfold readResponse
    simp only [reads.1, errorReply_none reads.2]
  unfold parsed parseResponse
  simp only [free, Bool.false_eq_true, ↓reduceIte, read]
  cases respond config name (optionsLeft options) response <;> rfl

omit [PyFloat F] in
/-- What is no error is tolerated. -/
theorem tolerated_some (raiseOnError : Bool) {value : PyVal F}
    (fine : PyVal.errorReply value = none) : tolerated raiseOnError value = some value := by
  unfold tolerated
  rw [fine]
  simp

omit [PyFloat F] in
/-- Without the two options, only `keys` is kept from a callback. -/
theorem optionsLeft_eq {options : Dict Text (PyVal F)} (decodes : options.contains neverDecode = false)
    (filled : options.contains emptyResponse = false) : optionsLeft options = options.erase keys := by
  unfold optionsLeft
  rw [Dict.erase_of_contains decodes, Dict.erase_of_contains filled]

/-- A command with neither option has the same value either way when its callback takes the reply
and makes no error of it. -/
theorem values_agree (raiseOnError : Bool) {exchange : StackItem F × Reply} {response value : PyVal F}
    (free : parameters.any exchange.1.options.contains = false)
    (decodes : exchange.1.options.contains neverDecode = false)
    (filled : exchange.1.options.get emptyResponse = none)
    (reads : Reads config false exchange.2 response)
    (answered : respond config exchange.1.name (exchange.1.options.erase keys) response = .ok value)
    (fine : PyVal.errorReply value = none) :
    plainValue config raiseOnError exchange = transactionValue config raiseOnError exchange := by
  have unfilled : exchange.1.options.contains emptyResponse = false := by
    rw [Dict.contains_eq_isSome_get, filled]
    rfl
  have early : parsed config exchange.1.name exchange.1.options exchange.2 = .ok value := by
    rw [parsed_eq free (by rw [decodes]; exact reads), optionsLeft_eq decodes unfilled]
    exact answered
  have raw : decodedReply config exchange = some response := by
    unfold decodedReply
    rw [filled]
    dsimp only
    rw [reads.1]
    rfl
  have late : applyCallback config exchange.1 response = .ok value := by
    unfold applyCallback
    cases response with
    | exc e => exact absurd rfl (reads.2 e)
    | _ => exact answered
  unfold plainValue transactionValue lateValue
  rw [early, raw]
  simp only [Option.bind_some, tolerated_some raiseOnError fine,
    tolerated_some raiseOnError (errorReply_none reads.2), late]
  rfl

/-- A command with `NEVER_DECODE` and no callback has the same value either way exactly when
decoding its reply changes nothing. -/
theorem neverDecode_agrees_iff (raiseOnError : Bool) {exchange : StackItem F × Reply}
    {octets response : PyVal F} (free : parameters.any exchange.1.options.contains = false)
    (never : exchange.1.options.contains neverDecode = true)
    (filled : exchange.1.options.get emptyResponse = none)
    (plain : config.responseCallbacks exchange.1.name = none)
    (keeps : Reads config true exchange.2 octets) (reads : Reads config false exchange.2 response) :
    plainValue config raiseOnError exchange = transactionValue config raiseOnError exchange ↔
      octets = response := by
  have early : parsed config exchange.1.name exchange.1.options exchange.2 = .ok octets := by
    rw [parsed_eq free (by rw [never]; exact keeps)]
    unfold respond
    rw [plain]
  have raw : decodedReply config exchange = some response := by
    unfold decodedReply
    rw [filled]
    dsimp only
    rw [reads.1]
    rfl
  have late : applyCallback config exchange.1 response = .ok response := by
    unfold applyCallback respond
    rw [plain]
    cases response <;> rfl
  unfold plainValue transactionValue lateValue
  rw [early, raw]
  simp only [Option.bind_some, tolerated_some raiseOnError (errorReply_none keeps.2),
    tolerated_some raiseOnError (errorReply_none reads.2), late]
  exact Option.some_inj

end Commands

/-- A client that decodes replies as Latin-1 and has no response callbacks. -/
def decodingConfig : ResultsConfig Empty where
  encoder :=
    { decodeResponses := true
      decodeBytes := fun data => some (data.map fun byte => Char.ofNat byte.toNat) }
  responseCallbacks _ := none

/-- `DUMP`, which asks for octets, and its reply. -/
def dumped : StackItem Empty × Reply :=
  ({ name := "DUMP".toList, options := [(neverDecode, .list [])] }, .bulk [65])

end Results

end RedisPy
