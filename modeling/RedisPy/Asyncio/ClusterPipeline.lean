import RedisPy.Cluster.Pipeline

/-!
# The asyncio cluster pipeline

`ClusterPipeline.execute` puts the commands that are still to do under their nodes, gathers one task
of `execute_pipeline` for each node, runs the commands that were redirected one by one, and tries
again after some errors. An action resumes the call or one of the tasks, and what happens between
two suspension points is one step; tasks that an attempt leaves behind go on. Where a command is
routed, what is raised and what is replied is part of the actions. The text that is put before the
message of an error and the choice of another default node are left out, and so is a caller that
is cancelled.
-/

namespace RedisPy

variable {F : Type}

/-- A task of `ClusterNode.execute_pipeline`; commands are known by their position. -/
inductive NodeTask where
  /-- Nothing was written yet. -/
  | created (commands : List Nat)
  /-- The replies of some commands are still to be read; `ret` is what it is so far. -/
  | reading (commands : List Nat) (ret : Bool)
  /-- It returned `ret`. -/
  | returned (ret : Bool)
  /-- It raised. -/
  | raised
deriving DecidableEq

namespace NodeTask

/-- The commands whose replies are to be read, or would be. -/
def pending : NodeTask → List Nat
  | .created commands => commands
  | .reading commands _ => commands
  | _ => []

/-- The task returned. -/
def isReturned : NodeTask → Bool
  | .returned _ => true
  | _ => false

/-- The task returned `True`. -/
def hadErrors : NodeTask → Bool
  | .returned ret => ret
  | _ => false

/-- The loop of `execute_pipeline` goes on to the next command. -/
def next (left : List Nat) (ret : Bool) : NodeTask :=
  if left.isEmpty then .returned ret else .reading left ret

end NodeTask

/-- Where a call of `execute` is suspended. -/
inductive ExecutePhase (F : Type) where
  /-- An attempt begins. -/
  | starting
  /-- The nodes of the commands that are left are determined; `nodes` is in the order in which they
  were first needed. -/
  | routing (left : List Nat) (nodes : List (Text × List Nat))
  /-- The tasks are gathered. -/
  | gathering
  /-- A command is run by itself, before those that are left. -/
  | rerunning (position : Nat) (left : List Nat)
  /-- The client is closed before another attempt. -/
  | closing
  /-- The call returned or raised. -/
  | ended (outcome : Except Exc (List (PyVal F)))

/-- A call of `execute` with its tasks. -/
structure TaskPipeline (F : Type) where
  /-- `_command_stack`, without the results. -/
  commands : List (Command F)
  /-- `result` of the command at a position. -/
  results : Nat → PyVal F
  /-- `raise_on_error`. -/
  raiseOnError : Bool
  /-- `allow_redirections`. -/
  allowRedirections : Bool
  /-- `retry_attempts`. -/
  retryAttempts : Nat
  /-- `todo` of the latest attempt. -/
  todo : List Nat
  /-- All tasks that were created. -/
  tasks : List NodeTask
  /-- The first task of the latest attempt. -/
  first : Nat
  /-- The first exception of the tasks of the latest attempt. -/
  failure : Option Exc
  /-- Where the call is. -/
  phase : ExecutePhase F
  /-- What happened. -/
  events : List (PipelineEvent F)

/-- What the event loop does next. -/
inductive ExecuteAction (F : Type) where
  /-- `client.initialize` raises or not, and an attempt begins. -/
  | attempt (failure : Option Exc)
  /-- The nodes of the next command are determined. -/
  | route (target : Except Exc (List Text))
  /-- A task acquires a connection and writes its commands. -/
  | write (i : Nat) (failure : Option SendFailure)
  /-- `read_response` of a task returns or raises. -/
  | read (i : Nat) (reply : Except Exc (PyVal F))
  /-- The call is resumed by its tasks. -/
  | gathered
  /-- `client.execute_command` sends the command that is run by itself. -/
  | resend
  /-- `client.execute_command` returns or raises. -/
  | rerun (outcome : Except Exc (PyVal F))
  /-- `client.aclose` raises or not. -/
  | closed (failure : Option Exc)

namespace PyVal

/-- `isinstance(value, Exception)`. -/
def exception : PyVal F → Option Exc
  | .exc e => if e.isinstance .exception then some e else Option.none
  | _ => Option.none

/-- `not value or isinstance(value, Exception)`. -/
def isDue [PyFloat F] (value : PyVal F) : Bool := !value.truthy || value.exception.isSome

/-- `isinstance(value, (TryAgainError, MovedError, AskError))`. -/
def isRedirected : PyVal F → Bool
  | .exc e => e.isinstanceAny [.tryAgainError, .movedError, .askError]
  | _ => false

end PyVal

namespace TaskPipeline

/-- `execute` is called. -/
def call (commands : List (Command F)) (raiseOnError allowRedirections : Bool)
    (clusterErrorRetryAttempts : Nat) : TaskPipeline F where
  commands := commands
  results _ := .none
  raiseOnError := raiseOnError
  allowRedirections := allowRedirections
  retryAttempts := clusterErrorRetryAttempts
  todo := []
  tasks := []
  first := 0
  failure := none
  phase := if commands.isEmpty then .ended (.ok []) else .starting
  events := []

/-- `[cmd.result for cmd in stack]`. -/
def values (s : TaskPipeline F) : List (PyVal F) := (List.range s.commands.length).map s.results

/-- `cmd.result = value`. -/
def setResult (position : Nat) (value : PyVal F) (s : TaskPipeline F) : TaskPipeline F :=
  { s with results := Function.update s.results position value }

/-- More happens. -/
def record (events : List (PipelineEvent F)) (s : TaskPipeline F) : TaskPipeline F :=
  { s with events := s.events ++ events }

/-! ## The end of an attempt -/

/-- `except ERRORS_ALLOW_RETRY`. -/
def fail (e : Exc) (s : TaskPipeline F) : TaskPipeline F :=
  if e.isinstanceAny clusterErrorsAllowRetry && s.retryAttempts > 0 then
    { s with retryAttempts := s.retryAttempts - 1, phase := .closing }
  else { s with phase := .ended (.error e) }

/-- `if raise_on_error`, and the results are returned. -/
def finish (s : TaskPipeline F) : TaskPipeline F :=
  match if s.raiseOnError then s.todo.findSome? fun p => (s.results p).exception else none with
  | some e => s.fail e
  | none => { s with phase := .ended (.ok s.values) }

/-- The loop in which redirected commands are run by themselves, up to the next of them. -/
def rerunFrom (s : TaskPipeline F) : List Nat → TaskPipeline F
  | [] => s.finish
  | p :: left =>
    if (s.results p).isRedirected then { s with phase := .rerunning p left } else s.rerunFrom left

/-- `asyncio.gather` returns or raises. -/
def gathered (s : TaskPipeline F) : TaskPipeline F :=
  match s.phase with
  | .gathering =>
    match s.failure with
    | some e => s.fail e
    | none =>
      let tasks := s.tasks.drop s.first
      if tasks.all NodeTask.isReturned then
        if tasks.any NodeTask.hadErrors then
          if s.allowRedirections then s.rerunFrom s.todo else s.finish
        else { s with phase := .ended (.ok s.values) }
      else s
  | _ => s

/-- A command that is run by itself is sent. -/
def resend (s : TaskPipeline F) : TaskPipeline F :=
  match s.phase with
  | .rerunning p _ => s.record [.sent p]
  | _ => s

/-- A command was run by itself. -/
def rerun (outcome : Except Exc (PyVal F)) (s : TaskPipeline F) : TaskPipeline F :=
  match s.phase with
  | .rerunning p left =>
    match outcome with
    | .ok value => ((s.setResult p value).record [.replied p value]).rerunFrom left
    | .error e =>
      if e.isinstance .exception then (s.setResult p (.exc e)).rerunFrom left
      else { s with phase := .ended (.error e) }
  | _ => s

/-- The client was closed. -/
def closed (failure : Option Exc) (s : TaskPipeline F) : TaskPipeline F :=
  match s.phase with
  | .closing =>
    match failure with
    | some e => { s with phase := .ended (.error e) }
    | none => { s with phase := .starting }
  | _ => s

/-! ## The beginning of an attempt -/

/-- `nodes[node.name][1].append(cmd)`. -/
def place (name : Text) (p : Nat) : List (Text × List Nat) → List (Text × List Nat)
  | [] => [(name, [p])]
  | (node, commands) :: nodes =>
    if node = name then (node, commands ++ [p]) :: nodes else (node, commands) :: place name p nodes

/-- The tasks are created. -/
def launch (nodes : List (Text × List Nat)) (s : TaskPipeline F) : TaskPipeline F :=
  { s with
    tasks := s.tasks ++ nodes.map fun node => .created node.2
    first := s.tasks.length
    failure := none
    phase := .gathering }

/-- The loop in which the nodes are determined, up to the next command. -/
def routeFrom (left : List Nat) (nodes : List (Text × List Nat)) (s : TaskPipeline F) :
    TaskPipeline F :=
  if left.isEmpty then s.launch nodes else { s with phase := .routing left nodes }

/-- The nodes of the next command were determined. -/
def route (target : Except Exc (List Text)) (s : TaskPipeline F) : TaskPipeline F :=
  match s.phase with
  | .routing (p :: left) nodes =>
    match target with
    | .ok [name] => s.routeFrom left (place name p nodes)
    | .ok _ => s.fail { cls := .redisClusterException }
    | .error e => s.fail e
  | _ => s

/-- An attempt begins. -/
def attempt [PyFloat F] (failure : Option Exc) (s : TaskPipeline F) : TaskPipeline F :=
  match s.phase with
  | .starting =>
    match failure with
    | some e => s.fail e
    | none =>
      let todo := (List.range s.commands.length).filter fun p => (s.results p).isDue
      { s with todo }.routeFrom todo []
  | _ => s

/-! ## `execute_pipeline` -/

/-- A task goes on. -/
def setTask (i : Nat) (task : NodeTask) (s : TaskPipeline F) : TaskPipeline F :=
  { s with tasks := s.tasks.set i task }

/-- A task raises. -/
def raiseIn (i : Nat) (e : Exc) (s : TaskPipeline F) : TaskPipeline F :=
  let failure := if s.first ≤ i && s.failure.isNone then some e else s.failure
  { s.setTask i .raised with failure }

/-- A connection is acquired and the commands are written. -/
def write (i : Nat) (failure : Option SendFailure) (s : TaskPipeline F) : TaskPipeline F :=
  match s.tasks[i]? with
  | some (.created commands) =>
    match failure with
    | none => (s.setTask i (.reading commands false)).record (commands.map .sent)
    | some failure =>
      (s.raiseIn i failure.error).record (if failure.wrote then commands.map .sent else [])
  | _ => s

/-- `parse_response` after `read_response`. -/
def parseReply (config : ClientConfig F) (command : Command F) :
    Except Exc (PyVal F) → Except Exc (PyVal F)
  | .error e =>
    match if e.isinstance .responseError then command.emptyResponse else none with
    | some value => .ok value
    | none => .error e
  | .ok value =>
    match config.responseCallbacks command.name with
    | some callback => callback command value
    | none => .ok value

/-- What happens when a reply became a result. -/
def answers (p : Nat) (value : PyVal F) (reply : Except Exc (PyVal F)) : List (PipelineEvent F) :=
  if reply.isOk then [.replied p value] else []

/-- The reply of the next command is read; only an `Exception` becomes a result. -/
def read (config : ClientConfig F) (i : Nat) (reply : Except Exc (PyVal F)) (s : TaskPipeline F) :
    TaskPipeline F :=
  match s.tasks[i]? with
  | some (.reading (p :: left) ret) =>
    match s.commands[p]? with
    | none => s
    | some command =>
      match parseReply config command reply with
      | .ok value =>
        ((s.setResult p value).setTask i (.next left ret)).record (answers p value reply)
      | .error e =>
        if e.isinstance .exception then
          ((s.setResult p (.exc e)).setTask i (.next left true)).record (answers p (.exc e) reply)
        else s.raiseIn i e
  | _ => s

/-- What an action does. -/
def step [PyFloat F] (config : ClientConfig F) (s : TaskPipeline F) :
    ExecuteAction F → TaskPipeline F
  | .attempt failure => s.attempt failure
  | .route target => s.route target
  | .write i failure => s.write i failure
  | .read i reply => s.read config i reply
  | .gathered => s.gathered
  | .resend => s.resend
  | .rerun outcome => s.rerun outcome
  | .closed failure => s.closed failure

end TaskPipeline

end RedisPy
