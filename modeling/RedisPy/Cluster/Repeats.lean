import RedisPy.Cluster.Released

/-!
# A cluster pipeline and the commands that succeeded

A command whose success reply was read is sent again in two ways: by itself, when the connection to
its node fails at a later reply of the same batch, since that makes an error of every result of
the batch; and with the whole stack, when an attempt ends in an error after which another one is
made. In all other calls each success reply is what the call returns, as the cluster callback of
the command makes it.
-/

namespace RedisPy

open Contract

variable {F : Type}

/-! ## Sent and answered -/

/-- A command is not sent after its success reply was read. -/
def Unrepeated (events : List (PipelineEvent F)) : Prop :=
  events.Pairwise fun earlier later => ∀ p value, earlier = .replied p value → later ≠ .sent p

/-- No success reply of a command was read. -/
def Unanswered (events : List (PipelineEvent F)) (p : Nat) : Prop :=
  ∀ value, .replied p value ∉ events

/-- Sending answers nothing. -/
theorem unanswered_append_sent {events : List (PipelineEvent F)} {p : Nat} (positions : List Nat) :
    Unanswered (events ++ positions.map .sent) p ↔ Unanswered events p := by
  constructor
  · intro unanswered value member
    exact unanswered value (List.mem_append_left _ member)
  · intro unanswered value member
    rcases List.mem_append.mp member with old | new
    · exact unanswered value old
    · simp at new

/-- The reply of another command answers nothing. -/
theorem unanswered_append_replied {events : List (PipelineEvent F)} {p q : Nat} {value : PyVal F}
    (other : p ≠ q) (unanswered : Unanswered events p) :
    Unanswered (events ++ [.replied q value]) p := by
  intro found member
  rcases List.mem_append.mp member with old | new
  · exact unanswered found old
  · have same : (PipelineEvent.replied p found : PipelineEvent F) = .replied q value :=
      List.mem_singleton.mp new
    cases same
    exact other rfl

/-- Commands without a success reply may be sent. -/
theorem Unrepeated.append_sent {events : List (PipelineEvent F)} (unrepeated : Unrepeated events)
    (positions : List Nat) (unanswered : ∀ p ∈ positions, Unanswered events p) :
    Unrepeated (events ++ positions.map .sent) := by
  refine List.pairwise_append.mpr ⟨unrepeated, ?_, ?_⟩
  · refine List.pairwise_map.mpr (List.pairwise_of_forall fun q r => ?_)
    intro p value replied
    cases replied
  · intro earlier old later new p value replied sent
    subst replied
    obtain ⟨q, member, same⟩ := List.mem_map.mp new
    rw [sent] at same
    cases same
    exact unanswered p member value old

/-- Nothing else has to be kept apart. -/
theorem Unrepeated.append_unsent {events later : List (PipelineEvent F)}
    (unrepeated : Unrepeated events) (unsent : ∀ event ∈ later, ∀ p, event ≠ .sent p) :
    Unrepeated (events ++ later) := by
  refine List.pairwise_append.mpr ⟨unrepeated, ?_, ?_⟩
  · exact List.Pairwise.imp_of_mem (fun _ member _ p _ _ => unsent _ member p)
      (List.pairwise_of_forall fun _ _ => trivial)
  · exact fun _ _ event member p _ _ => unsent event member p

/-- A reply may be read at any time. -/
theorem Unrepeated.append_replied {events : List (PipelineEvent F)} (unrepeated : Unrepeated events)
    (p : Nat) (value : PyVal F) : Unrepeated (events ++ [.replied p value]) := by
  refine unrepeated.append_unsent (List.forall_mem_singleton.mpr fun q sent => ?_)
  cases sent

/-- Without replies nothing is sent after its reply. -/
theorem unrepeated_of_unanswered {events : List (PipelineEvent F)}
    (unanswered : ∀ p, Unanswered events p) : Unrepeated events := by
  refine List.Pairwise.imp_of_mem (fun earlier _ _ p value replied => ?_)
    (List.pairwise_of_forall fun _ _ => trivial)
  subst replied
  exact absurd earlier (unanswered p value)

/-! ## The condition -/

namespace NodeCommands

/-- What `parse_response` makes of the reply to a command. -/
def answer (config : ClientConfig F) (env : Surroundings F) (c : PipelineCommand F) :
    Except Exc (PyVal F) :=
  (parse config (env.reply c.position) c.command waiting).1

/-- The connection error at the reply to a command. -/
def lostAt (config : ClientConfig F) (env : Surroundings F) (c : PipelineCommand F) : Option Exc :=
  match answer config env c with
  | .ok _ => none
  | .error e => if e.isinstanceAny connectionErrors then some e else none

/-- No connection error comes after a success reply. -/
def Whole (config : ClientConfig F) (env : Surroundings F) : List (PipelineCommand F) → Prop
  | [] => True
  | c :: commands =>
    ((answer config env c).isOk = true → ∀ d ∈ commands, lostAt config env d = none) ∧
      (lostAt config env c = none → Whole config env commands)

/-- What becomes of a command when the batch of its node is written and read. -/
def outcomeAt (config : ClientConfig F) (env : Surroundings F) (name : Text)
    (asked : List (PipelineCommand F)) (c : PipelineCommand F) : Except Exc (PyVal F) :=
  match env.send name with
  | some failure => .error failure.error
  | none =>
    match asked.findSome? (lostAt config env) with
    | some e => .error e
    | none => answer config env c

/-- A success reply that counts is the answer. -/
theorem answer_of_outcomeAt {config : ClientConfig F} {env : Surroundings F} {name : Text}
    {asked : List (PipelineCommand F)} {c : PipelineCommand F} {value : PyVal F}
    (succeeded : outcomeAt config env name asked c = .ok value) :
    answer config env c = .ok value := by
  unfold outcomeAt at succeeded
  cases sent : env.send name with
  | some failure =>
    rw [sent] at succeeded
    cases succeeded
  | none =>
    rw [sent] at succeeded
    cases lost : asked.findSome? (lostAt config env) with
    | some e =>
      simp only [lost] at succeeded
      cases succeeded
    | none =>
      simp only [lost] at succeeded
      exact succeeded

/-- An outcome as a result. -/
def kept : Except Exc (PyVal F) → PyVal F
  | .ok value => value
  | .error e => .exc e

end NodeCommands

namespace Sending

open NodeCommands

/-- A command is for a node. -/
def isFor (env : Surroundings F) (name : Text) (c : PipelineCommand F) : Bool :=
  match targetNode env c with
  | .ok other => other = name
  | .error _ => false

/-- The batch of a node. -/
def batch (env : Surroundings F) (stack : List (PipelineCommand F)) (name : Text) :
    List (PipelineCommand F) :=
  stack.filter (isFor env name)

/-- What becomes of a command when the batches are written and read. -/
def outcome (config : ClientConfig F) (env : Surroundings F) (stack : List (PipelineCommand F))
    (c : PipelineCommand F) : Except Exc (PyVal F) :=
  match targetNode env c with
  | .error e => .error e
  | .ok name => outcomeAt config env name (batch env stack name) c

/-- A command is run by itself. -/
def isRetried (config : ClientConfig F) (env : Surroundings F) (stack : List (PipelineCommand F))
    (allowRedirections : Bool) (c : PipelineCommand F) : Bool :=
  allowRedirections && mayRetry (kept (outcome config env stack c))

/-- What becomes of a command in the end. -/
def lastOutcome (config : ClientConfig F) (env : Surroundings F) (stack : List (PipelineCommand F))
    (allowRedirections : Bool) (c : PipelineCommand F) : Except Exc (PyVal F) :=
  if isRetried config env stack allowRedirections c then (env.retry c.position).outcome
  else outcome config env stack c

/-- A value after the cluster callback of its command. -/
def called (config : PipelineConfig F) (c : PipelineCommand F) (value : PyVal F) :
    Except Exc (PyVal F) :=
  match config.clusterResponseCallbacks c.command.name with
  | none => .ok value
  | some callback => callback c.command value

/-- The exception of a listener when the connection for a command is released. -/
def heard (env : Surroundings F) (c : PipelineCommand F) : Option Exc :=
  match targetNode env c with
  | .ok name => env.listener name
  | .error _ => none

/-- The exception that is not kept as the result of a command that is run by itself. -/
def escaping (env : Surroundings F) (c : PipelineCommand F) : Option Exc :=
  match (env.retry c.position).outcome with
  | .ok _ => none
  | .error e => if e.isinstance .redisError then none else some e

/-- The exception of commands that are run by themselves. -/
def retryEnding (config : ClientConfig F) (env : Surroundings F) (stack : List (PipelineCommand F))
    (allowRedirections : Bool) : Option Exc :=
  let retried := stack.filter (isRetried config env stack allowRedirections)
  if retried.isEmpty then none else env.reinitialize <|> retried.findSome? (escaping env)

/-- The exception of the cluster callbacks, or the one that `raise_first_error` raises. -/
def responseEnding (config : PipelineConfig F) (env : Surroundings F)
    (stack : List (PipelineCommand F)) (raiseOnError allowRedirections : Bool) : Option Exc :=
  match stack.mapM fun c => called config c
      (kept (lastOutcome config.toClientConfig env stack allowRedirections c)) with
  | .error e => some e
  | .ok values => if raiseOnError then firstRaised values else none

/-- The exception that an attempt ends in after its replies were read. -/
def ending (config : PipelineConfig F) (env : Surroundings F) (stack : List (PipelineCommand F))
    (raiseOnError allowRedirections : Bool) : Option Exc :=
  stack.findSome? (heard env) <|> retryEnding config.toClientConfig env stack allowRedirections <|>
    responseEnding config env stack raiseOnError allowRedirections

/-- Surroundings of an attempt in which no success reply is dropped. -/
structure Calm (config : PipelineConfig F) (env : Surroundings F) (stack : List (PipelineCommand F))
    (allowRedirections : Bool) : Prop where
  /-- No connection fails after a success reply to its batch. -/
  whole : ∀ c ∈ stack, ∀ name, targetNode env c = .ok name → env.send name = none →
    Whole config.toClientConfig env (batch env stack name)
  /-- No response callback makes an error that is tried again out of a success reply. -/
  settled : ∀ c ∈ stack, ∀ value, outcome config.toClientConfig env stack c = .ok value →
    isRetried config.toClientConfig env stack allowRedirections c = false
  /-- A cluster callback, which `execute_command` has applied, changes nothing the second time. -/
  once : ∀ c ∈ stack, isRetried config.toClientConfig env stack allowRedirections c = true →
    ∀ value again, (env.retry c.position).outcome = .ok value → called config c value = .ok again →
      again = value

/-- An attempt with a success reply does not end in an error after which another one is made. -/
def Final (config : PipelineConfig F) (env : Surroundings F) (stack : List (PipelineCommand F))
    (raiseOnError allowRedirections : Bool) : Prop :=
  (∃ c ∈ stack, (lastOutcome config.toClientConfig env stack allowRedirections c).isOk = true) →
    ∀ e, ending config env stack raiseOnError allowRedirections = some e →
      e.isinstanceAny clusterErrorsAllowRetry = false

/-! ## Routing -/

/-- No success reply was read. -/
def Unread (s : Sending F) : Prop := ∀ p, Unanswered s.events p

/-- Some events without a reply. -/
theorem Unread.append {s t : Sending F} (unread : s.Unread) {later : List (PipelineEvent F)}
    (quiet : ∀ event ∈ later, ∀ p value, event ≠ .replied p value)
    (events : t.events = s.events ++ later) : t.Unread := by
  intro p value member
  rw [events] at member
  rcases List.mem_append.mp member with old | new
  · exact unread p value old
  · exact quiet _ new p value rfl

/-- Each command that was routed is in the batch of its node. -/
structure Placed (env : Surroundings F) (done : List (PipelineCommand F)) (s : Sending F) :
    Prop where
  /-- A node has one batch. -/
  names : (s.nodes.map (·.name)).Nodup
  /-- Nothing is missing. -/
  perm : (s.nodes.flatMap (·.commands)).Perm done
  /-- In the order of the stack. -/
  batches : ∀ n ∈ s.nodes, n.commands = batch env done n.name
  /-- Under its own node. -/
  target : ∀ c ∈ done, ∃ n ∈ s.nodes, targetNode env c = .ok n.name
  /-- The first listener is that of the first command. -/
  listeners : s.nodes.findSome? (fun n => env.listener n.name) = done.findSome? (heard env)
  /-- Nothing was written. -/
  fresh : AllFresh s.nodes

/-- A command joins the batch of its node. -/
theorem batch_append_self {env : Surroundings F} {c : PipelineCommand F} {name : Text}
    (target : targetNode env c = .ok name) (done : List (PipelineCommand F)) :
    batch env (done ++ [c]) name = batch env done name ++ [c] := by
  have joins : isFor env name c = true := by simp [isFor, target]
  unfold batch
  rw [List.filter_append, List.filter_cons_of_pos joins, List.filter_nil]

/-- It joins no other batch. -/
theorem batch_append_other {env : Surroundings F} {c : PipelineCommand F} {name other : Text}
    (target : targetNode env c = .ok name) (apart : other ≠ name) (done : List (PipelineCommand F)) :
    batch env (done ++ [c]) other = batch env done other := by
  have stays : ¬isFor env other c = true := by simpa [isFor, target] using apart.symm
  unfold batch
  rw [List.filter_append, List.filter_cons_of_neg stays, List.filter_nil, List.append_nil]

/-- The commands of a batch are for its node. -/
theorem target_of_mem_batch {env : Surroundings F} {stack : List (PipelineCommand F)} {name : Text}
    {c : PipelineCommand F} (member : c ∈ batch env stack name) :
    c ∈ stack ∧ targetNode env c = .ok name := by
  obtain ⟨inside, own⟩ := List.mem_filter.mp member
  refine ⟨inside, ?_⟩
  unfold isFor at own
  cases target : targetNode env c with
  | error e =>
    rw [target] at own
    cases own
  | ok other =>
    rw [target] at own
    exact congrArg Except.ok (of_decide_eq_true own)

/-- Nodes of other names are left alone. -/
theorem place_absent {name : Text} {nodes : List (NodeCommands F)}
    (absent : name ∉ nodes.map (·.name)) (c : PipelineCommand F) :
    place name c nodes = nodes := by
  unfold place
  refine (List.map_congr_left fun n member => ?_).trans (List.map_id nodes)
  have other : n.name ≠ name := fun same => absent (List.mem_map.mpr ⟨n, member, same⟩)
  rw [if_neg other]
  rfl

/-- One more command. -/
theorem place_perm {name : Text} {nodes : List (NodeCommands F)}
    (names : (nodes.map (·.name)).Nodup) (known : name ∈ nodes.map (·.name))
    (c : PipelineCommand F) :
    ((place name c nodes).flatMap (·.commands)).Perm (c :: nodes.flatMap (·.commands)) := by
  induction nodes with
  | nil => cases known
  | cons n nodes ih =>
    obtain ⟨absent, names⟩ := List.nodup_cons.mp names
    by_cases same : n.name = name
    · have others : place name c nodes = nodes := place_absent (same ▸ absent) c
      have first : place name c (n :: nodes) =
          { n with commands := n.commands ++ [c] } :: place name c nodes := by
        unfold place
        rw [List.map_cons, if_pos same]
      rw [first, others]
      show (n.commands ++ [c] ++ nodes.flatMap (·.commands)).Perm
        (c :: (n.commands ++ nodes.flatMap (·.commands)))
      rw [List.append_assoc]
      exact List.perm_middle
    · have first : place name c (n :: nodes) = n :: place name c nodes := by
        unfold place
        rw [List.map_cons, if_neg same]
      have rest := ih names ((List.mem_cons.mp known).resolve_left fun head => same head.symm)
      rw [first]
      exact (rest.append_left n.commands).trans List.perm_middle

/-- The listener of a command is that of its node. -/
theorem heard_eq {env : Surroundings F} {c : PipelineCommand F} {name : Text}
    (target : targetNode env c = .ok name) : heard env c = env.listener name := by
  unfold heard
  rw [target]

/-- A command is put under a node that is held. -/
theorem Placed.place {env : Surroundings F} {done : List (PipelineCommand F)} {s : Sending F}
    (placed : s.Placed env done) {name : Text} {c : PipelineCommand F}
    (target : targetNode env c = .ok name) (known : name ∈ s.nodes.map (·.name)) :
    Placed env (done ++ [c]) { s with nodes := place name c s.nodes } where
  names := by
    show ((Sending.place name c s.nodes).map (·.name)).Nodup
    rw [place_names]
    exact placed.names
  perm := by
    refine (place_perm placed.names known c).trans ?_
    exact (placed.perm.cons c).trans (List.perm_append_singleton c done).symm
  batches := by
    refine List.forall_mem_map.mpr fun n member => ?_
    have before := placed.batches n member
    by_cases same : n.name = name
    · rw [if_pos same]
      show n.commands ++ [c] = batch env (done ++ [c]) n.name
      rw [before, same, batch_append_self target]
    · rw [if_neg same, batch_append_other target same]
      exact before
  target := by
    have renamed (other : Text) (old : ∃ n ∈ s.nodes, other = n.name) :
        ∃ n ∈ Sending.place name c s.nodes, other = n.name := by
      obtain ⟨n, member, same⟩ := old
      have there : other ∈ (Sending.place name c s.nodes).map (·.name) := by
        rw [place_names, same]
        exact List.mem_map_of_mem member
      obtain ⟨m, inside, equal⟩ := List.mem_map.mp there
      exact ⟨m, inside, equal.symm⟩
    refine List.forall_mem_append.mpr ⟨fun d member => ?_, List.forall_mem_singleton.mpr ?_⟩
    · obtain ⟨n, inside, own⟩ := placed.target d member
      obtain ⟨m, there, same⟩ := renamed n.name ⟨n, inside, rfl⟩
      exact ⟨m, there, same ▸ own⟩
    · obtain ⟨n, inside, own⟩ := List.mem_map.mp known
      obtain ⟨m, there, same⟩ := renamed name ⟨n, inside, own.symm⟩
      exact ⟨m, there, same ▸ target⟩
  listeners := by
    have unchanged : (Sending.place name c s.nodes).findSome? (fun n => env.listener n.name) =
        s.nodes.findSome? fun n => env.listener n.name := by
      have names := congrArg (List.findSome? env.listener) (place_names name c s.nodes)
      rw [List.findSome?_map, List.findSome?_map] at names
      exact names
    have last : done.findSome? (heard env) = none → heard env c = none := by
      intro none
      obtain ⟨n, inside, own⟩ := List.mem_map.mp known
      rw [← placed.listeners] at none
      rw [heard_eq target, ← own]
      exact List.findSome?_eq_none_iff.mp none n inside
    show (Sending.place name c s.nodes).findSome? (fun n => env.listener n.name) = _
    rw [unchanged, placed.listeners, List.findSome?_append]
    cases first : done.findSome? (heard env) with
    | some e => rfl
    | none => simp [last first]
  fresh := place_fresh fun n member =>
    ⟨(placed.fresh n member).ready, .inr (placed.fresh n member).commands⟩

/-- A command is put under a node that is needed for the first time. -/
theorem Placed.hold {env : Surroundings F} {done : List (PipelineCommand F)} {s : Sending F}
    (placed : s.Placed env done) {name : Text} {c : PipelineCommand F}
    (target : targetNode env c = .ok name) (absent : name ∉ s.nodes.map (·.name)) :
    Placed env (done ++ [c])
      { s.hold name with nodes := Sending.place name c (s.hold name).nodes } := by
  let added : NodeCommands F := { name, connection := ready, commands := [c] }
  have nodes : Sending.place name c (s.hold name).nodes = s.nodes ++ [added] := by
    have others := place_absent absent c
    unfold Sending.place at others
    unfold Sending.place Sending.hold
    rw [List.map_append, others]
    simp [added]
  have first : batch env done name = [] := by
    refine List.filter_eq_nil_iff.mpr fun d member own => ?_
    obtain ⟨n, inside, target⟩ := placed.target d member
    have same : n.name = name := by simpa [isFor, target] using own
    exact absent (List.mem_map.mpr ⟨n, inside, same⟩)
  rw [nodes]
  exact {
    names := by
      show ((s.nodes ++ [added]).map (·.name)).Nodup
      rw [List.map_append, List.map_singleton]
      refine List.nodup_append.mpr ⟨placed.names, by simp, fun other member found new same => ?_⟩
      have this : other = name := same.trans (List.mem_singleton.mp new)
      exact absent (this ▸ member)
    perm := by
      show ((s.nodes ++ [added]).flatMap (·.commands)).Perm (done ++ [c])
      rw [List.flatMap_append]
      exact placed.perm.append_right _
    batches := by
      refine List.forall_mem_append.mpr ⟨fun n member => ?_, List.forall_mem_singleton.mpr ?_⟩
      · have apart : n.name ≠ name := fun same => absent (List.mem_map.mpr ⟨n, member, same⟩)
        rw [batch_append_other target apart]
        exact placed.batches n member
      · show [c] = batch env (done ++ [c]) name
        rw [batch_append_self target, first, List.nil_append]
    target := by
      refine List.forall_mem_append.mpr ⟨fun d member => ?_, List.forall_mem_singleton.mpr ?_⟩
      · obtain ⟨n, inside, own⟩ := placed.target d member
        exact ⟨n, List.mem_append_left _ inside, own⟩
      · exact ⟨added, List.mem_append_right _ (List.mem_singleton.mpr rfl), target⟩
    listeners := by
      show (s.nodes ++ [added]).findSome? (fun n => env.listener n.name) = _
      rw [List.findSome?_append, List.findSome?_append, placed.listeners]
      have last : [added].findSome? (fun n => env.listener n.name) =
          [c].findSome? (heard env) := by
        rw [List.findSome?_singleton, List.findSome?_singleton, heard_eq target]
      rw [last]
    fresh := by
      refine List.forall_mem_append.mpr ⟨placed.fresh, List.forall_mem_singleton.mpr ?_⟩
      exact { ready := rfl, commands := List.cons_ne_nil _ _ } }

/-- Giving connections back reads nothing. -/
theorem release_quiet (env : Surroundings F) (nodes : List (NodeCommands F)) :
    ∀ event ∈ (each (NodeCommands.release env) nodes).2.2,
      (∀ p, event ≠ .sent p) ∧ ∀ p value, event ≠ .replied p value := by
  refine each_events (fun n event member => ?_) nodes
  rw [List.mem_singleton.mp member]
  exact ⟨fun _ sent => (by cases sent), fun _ _ replied => (by cases replied)⟩

/-- Nothing is read when a pool fails. -/
theorem refuse_unread (env : Surroundings F) (e : Exc) :
    Meets Unread (refuse env e) (fun _ _ => False) (fun _ => Unread (F := F)) := by
  unfold refuse
  have raises : Meets Unread (throw e : EStateM Exc (Sending F) Unit) (fun _ _ => False)
      (fun _ => Unread) := meets_throw fun _ => id
  have gives : Meets Unread (forEach (NodeCommands.release env) : EStateM Exc (Sending F) Unit)
      (fun _ => Unread) (fun _ => Unread) := by
    intro s unread
    have quiet := release_quiet env s.nodes
    unfold forEach
    rcases ran : each (NodeCommands.release env) s.nodes with ⟨stop, nodes, events⟩
    rw [ran] at quiet
    have after : Unread { nodes, events := s.events ++ events } :=
      unread.append (fun event member => (quiet event member).2) rfl
    cases stop <;> exact after
  refine meets_ite (fun _ => gives.bind fun _ => ?_) fun _ => raises
  refine Meets.bind (Q := fun _ => Unread) ?_ fun _ => raises
  exact meets_whenSome (fun other => meets_throw fun _ => id) fun _ => id

/-- One command is routed. -/
theorem meets_assign (env : Surroundings F) (c : PipelineCommand F)
    (done : List (PipelineCommand F)) :
    Meets (fun s => Unread s ∧ s.Placed env done) (assign env c)
      (fun _ s => Unread s ∧ s.Placed env (done ++ [c])) (fun _ => Unread) := by
  unfold assign
  cases target : targetNode env c with
  | error e => exact meets_throw fun _ => And.left
  | ok name =>
    refine meets_get fun s start => ?_
    by_cases known : holds name s.nodes = true
    · rw [if_pos known]
      have member : name ∈ s.nodes.map (·.name) := by
        simpa [holds] using known
      refine meets_modify fun t same => ?_
      rw [same]
      exact ⟨start.1, start.2.place target member⟩
    · rw [if_neg known]
      have absent : name ∉ s.nodes.map (·.name) := by
        simpa [holds] using known
      cases env.acquire name with
      | some e =>
        refine (refuse_unread env e).weaken (fun t same => ?_) (fun _ _ => False.elim) fun _ _ => id
        rw [same]
        exact start.1
      | none =>
        refine meets_modify fun t same => ?_
        rw [same]
        have quiet : ∀ event ∈ [PipelineEvent.acquired (F := F) name],
            ∀ p value, event ≠ .replied p value :=
          List.forall_mem_singleton.mpr fun _ _ replied => by cases replied
        exact ⟨start.1.append quiet rfl, start.2.hold target absent⟩

/-- All commands are routed. -/
theorem meets_assignEach (env : Surroundings F) (stack : List (PipelineCommand F)) :
    ∀ done : List (PipelineCommand F),
      Meets (fun s => Unread s ∧ s.Placed env done) (assignEach env stack)
        (fun _ s => Unread s ∧ s.Placed env (done ++ stack)) (fun _ => Unread) := by
  induction stack with
  | nil =>
    intro done
    rw [List.append_nil]
    exact meets_pure fun _ => id
  | cons c stack ih =>
    intro done
    have rest := ih (done ++ [c])
    rw [List.append_assoc] at rest
    exact (meets_assign env c done).bind fun _ => rest

end Sending

/-! ## Reading a batch -/

namespace NodeCommands

variable {config : ClientConfig F} {env : Surroundings F}

/-- An error that is no Redis error does not lead to another attempt. -/
theorem not_retried_of_foreign {e : Exc} (foreign : e.isinstance .redisError = false) :
    e.isinstanceAny clusterErrorsAllowRetry = false := by
  unfold Exc.isinstance ExcClass.issubclass at foreign
  unfold Exc.isinstanceAny ExcClass.issubclassAny ExcClass.issubclass clusterErrorsAllowRetry
  generalize e.cls = cls at foreign ⊢
  induction cls with
  | user name base ih =>
    simp only [ExcClass.ancestors, List.contains_cons, Bool.or_eq_false_iff] at foreign
    simpa [ExcClass.ancestors] using ih foreign.2
  | _ => revert foreign; decide

/-- A success reply is no connection error. -/
theorem lostAt_of_ok {c : PipelineCommand F} {value : PyVal F}
    (answered : answer config env c = .ok value) : lostAt config env c = none := by
  unfold lostAt
  rw [answered]

/-- Whether connections fail does not depend on earlier results. -/
theorem findSome_lostAt_map (value : PyVal F) (commands : List (PipelineCommand F)) :
    (commands.map fun c => { c with result := value }).findSome? (lostAt config env) =
      commands.findSome? (lostAt config env) :=
  List.findSome?_map ..

/-- Nor does the order of errors and success replies. -/
theorem whole_map {commands : List (PipelineCommand F)} (whole : Whole config env commands)
    (value : PyVal F) : Whole config env (commands.map fun c => { c with result := value }) := by
  induction commands with
  | nil => exact trivial
  | cons c commands ih =>
    obtain ⟨first, others⟩ := whole
    refine ⟨fun answered => ?_, fun lost => ih (others lost)⟩
    exact List.forall_mem_map.mpr (first answered)

/-- Reading sends nothing. -/
theorem readEach_unsent (config : ClientConfig F) (env : Surroundings F)
    (commands : List (PipelineCommand F)) : ∀ conn : Connection,
      ∀ event ∈ (readEach config env conn commands).events, ∀ p, event ≠ .sent p := by
  induction commands with
  | nil => exact fun _ _ member => absurd member List.not_mem_nil
  | cons c commands ih =>
    intro conn
    rw [readEach]
    by_cases pending : c.result.isNone = true
    · rw [if_pos pending]
      rcases NodeCommands.parse config (env.reply c.position) c.command conn with ⟨outcome, after⟩
      have rest := ih after
      cases outcome with
      | ok value =>
        refine List.forall_mem_cons.mpr ⟨fun p sent => ?_, rest⟩
        cases sent
      | error e =>
        by_cases lost : e.isinstanceAny connectionErrors = true
        · simp only [if_pos lost]
          exact fun _ member => absurd member List.not_mem_nil
        · by_cases kept : e.isinstance .redisError = true
          · simp only [if_neg lost, if_pos kept]
            exact rest
          · simp only [if_neg lost, if_neg kept]
            exact fun _ member => absurd member List.not_mem_nil
    · rw [if_neg pending]
      exact ih conn

/-- Nor does the handling of a connection that fails. -/
theorem read_unsent (config : ClientConfig F) (env : Surroundings F) (n : NodeCommands F) :
    ∀ event ∈ (read config env n).2.2, ∀ p, event ≠ .sent p := by
  have unsent := readEach_unsent config env n.commands n.connection
  unfold NodeCommands.read
  cases ended : (readEach config env n.connection n.commands).ended <;>
    · simp only [ended]
      exact unsent

/-- Commands with results are left alone. -/
theorem readEach_settled_commands (config : ClientConfig F) (env : Surroundings F)
    (conn : Connection) {commands : List (PipelineCommand F)}
    (settled : ∀ c ∈ commands, c.result.isNone = false) :
    (readEach config env conn commands).commands = commands := by
  induction commands with
  | nil => rfl
  | cons c commands ih =>
    obtain ⟨first, others⟩ := List.forall_mem_cons.mp settled
    have skipped : ¬ c.result.isNone = true := by simp [first]
    rw [readEach, if_neg skipped]
    exact congrArg (c :: ·) (ih others)

/-- Nothing is read for commands with results. -/
theorem readEach_settled_events (config : ClientConfig F) (env : Surroundings F)
    (conn : Connection) {commands : List (PipelineCommand F)}
    (settled : ∀ c ∈ commands, c.result.isNone = false) :
    (readEach config env conn commands).events = [] := by
  induction commands with
  | nil => rfl
  | cons c commands ih =>
    obtain ⟨first, others⟩ := List.forall_mem_cons.mp settled
    have skipped : ¬ c.result.isNone = true := by simp [first]
    rw [readEach, if_neg skipped]
    exact ih others

/-- What the reading of a batch leaves. -/
structure Stores (config : ClientConfig F) (env : Surroundings F)
    (commands : List (PipelineCommand F)) (reading : Reading F) : Prop where
  /-- Each success reply is that of a command, and the connection does not fail. -/
  stored : ∀ p value, .replied p value ∈ reading.events →
    (∃ b ∈ commands, b.position = p ∧ answer config env b = .ok value) ∧
      commands.findSome? (lostAt config env) = none
  /-- In the end each reply is a result. -/
  finished : reading.ended = .finished →
    commands.findSome? (lostAt config env) = none ∧
      reading.commands = commands.map fun c => { c with result := kept (answer config env c) }
  /-- A connection fails at the first connection error. -/
  broken : ∀ e, reading.ended = .broken e → commands.findSome? (lostAt config env) = some e
  /-- Other errors are no Redis errors. -/
  escaped : ∀ e, reading.ended = .escaped e → e.isinstance .redisError = false

/-- One more command is read. -/
theorem Stores.after {c : PipelineCommand F} {commands : List (PipelineCommand F)}
    {reading : Reading F} (stores : Stores config env commands reading)
    (events : List (PipelineEvent F)) (fine : lostAt config env c = none)
    (new : ∀ p value, .replied p value ∈ events →
      c.position = p ∧ answer config env c = .ok value ∧
        commands.findSome? (lostAt config env) = none) :
    Stores config env (c :: commands)
      (reading.after { c with result := kept (answer config env c) } events) where
  stored p value member := by
    rw [List.findSome?_cons_of_isNone (by rw [fine]; rfl)]
    rcases List.mem_append.mp member with first | rest
    · obtain ⟨position, answered, unbroken⟩ := new p value first
      exact ⟨⟨c, List.mem_cons_self, position, answered⟩, unbroken⟩
    · obtain ⟨⟨b, known, position, answered⟩, unbroken⟩ := stores.stored p value rest
      exact ⟨⟨b, List.mem_cons_of_mem _ known, position, answered⟩, unbroken⟩
  finished ended := by
    obtain ⟨unbroken, commands⟩ := stores.finished ended
    rw [List.findSome?_cons_of_isNone (by rw [fine]; rfl)]
    exact ⟨unbroken, congrArg (_ :: ·) commands⟩
  broken e ended := by
    rw [List.findSome?_cons_of_isNone (by rw [fine]; rfl)]
    exact stores.broken e ended
  escaped := stores.escaped

/-- The reading of a batch in which no connection fails after a success reply. -/
theorem readEach_stores {commands : List (PipelineCommand F)}
    (pending : ∀ c ∈ commands, c.result.isNone = true) (whole : Whole config env commands) :
    ∀ {connected : Bool} {conn : Connection}, Due commands connected conn →
      Stores config env commands (readEach config env conn commands) := by
  induction commands with
  | nil =>
    intro connected conn due
    exact {
      stored := fun _ _ member => absurd member List.not_mem_nil
      finished := fun _ => ⟨rfl, rfl⟩
      broken := fun _ ended => (by cases ended)
      escaped := fun _ ended => (by cases ended) }
  | cons c commands ih =>
    intro connected conn due
    obtain ⟨first, others⟩ := List.forall_mem_cons.mp pending
    obtain ⟨after, parsed, left⟩ := due.parse config (env.reply c.position)
    rw [readEach, if_pos first, parsed]
    cases connected with
    | false =>
      -- nothing is read from a closed connection
      rw [if_neg Bool.false_ne_true, parse_closed]
      exact {
        stored := fun _ _ member => absurd member List.not_mem_nil
        finished := fun ended => (by cases ended)
        broken := fun _ ended => (by cases ended)
        escaped := fun _ ended => (by cases ended; rfl) }
    | true =>
      have same : (NodeCommands.parse config (env.reply c.position) c.command
          (if true = true then NodeCommands.waiting else .closed)).1 = answer config env c := rfl
      rw [same]
      cases got : answer config env c with
      | ok value =>
        have fine := lostAt_of_ok got
        have unbroken : commands.findSome? (lostAt config env) = none :=
          List.findSome?_eq_none_iff.mpr (whole.1 (by rw [got]; rfl))
        have rest := (ih others (whole.2 fine) left).after [.replied c.position value] fine
          fun p found member => by
            have this : (PipelineEvent.replied p found : PipelineEvent F) =
                .replied c.position value := List.mem_singleton.mp member
            cases this
            exact ⟨rfl, got, unbroken⟩
        rw [got] at rest
        exact rest
      | error e =>
        by_cases lost : e.isinstanceAny connectionErrors = true
        · have breaks : lostAt config env c = some e := by
            unfold lostAt
            rw [got]
            exact if_pos lost
          simp only [if_pos lost]
          exact {
            stored := fun _ _ member => absurd member List.not_mem_nil
            finished := fun ended => (by cases ended)
            broken := fun other ended => by
              cases ended
              rw [List.findSome?_cons_of_isSome (by rw [breaks]; rfl)]
              exact breaks
            escaped := fun _ ended => (by cases ended) }
        · have fine : lostAt config env c = none := by
            unfold lostAt
            rw [got]
            exact if_neg lost
          by_cases redis : e.isinstance .redisError = true
          · have rest := (ih others (whole.2 fine) left).after [] fine
              fun _ _ member => absurd member List.not_mem_nil
            rw [got] at rest
            simp only [if_neg lost, if_pos redis]
            exact rest
          · simp only [if_neg lost, if_neg redis]
            exact {
              stored := fun _ _ member => absurd member List.not_mem_nil
              finished := fun ended => (by cases ended)
              broken := fun _ ended => (by cases ended)
              escaped := fun _ ended => by
                cases ended
                exact Bool.eq_false_iff.mpr redis }

/-- The connection of a batch that waits for its replies. -/
theorem Awaits.due {n : NodeCommands F} (awaits : n.Awaits) : Due n.commands true n.connection := by
  have same : n.connection = { sock := some 0, outstanding := n.words } := by
    rw [← awaits.sock, ← awaits.outstanding]
  rw [same]
  exact .waiting 0

/-- A batch after it was written. -/
inductive Transmitted (env : Surroundings F) (asked : List (PipelineCommand F)) (n : NodeCommands F) :
    Prop where
  /-- It waits for its replies. -/
  | awaits (sent : env.send n.name = none) (awaits : n.Awaits)
      (commands : n.commands = asked.map fun c => { c with result := .none })
  /-- Its connection failed. -/
  | failed {failure : SendFailure} (lost : env.send n.name = some failure) (failed : n.Failed)
      (commands : n.commands = asked.map fun c => { c with result := .exc failure.error })

/-- The commands are those that were asked for. -/
theorem Transmitted.positions {asked : List (PipelineCommand F)} {n : NodeCommands F}
    (transmitted : Transmitted env asked n) :
    n.commands.map (·.position) = asked.map (·.position) := by
  cases transmitted with
  | awaits _ _ commands => rw [commands, List.map_map]; rfl
  | failed _ _ commands => rw [commands, List.map_map]; rfl

/-- What the reading of a batch that was written leaves. -/
structure Answered (config : ClientConfig F) (env : Surroundings F)
    (asked : List (PipelineCommand F)) (n : NodeCommands F) : Prop where
  /-- Each outcome is a result. -/
  commands : (read config env n).1 = none → (read config env n).2.1.commands =
    asked.map fun c => { c with result := kept (outcomeAt config env n.name asked c) }
  /-- Each success reply is an outcome. -/
  stored : ∀ p value, .replied p value ∈ (read config env n).2.2 →
    ∃ b ∈ asked, b.position = p ∧ outcomeAt config env n.name asked b = .ok value
  /-- Another exception is no Redis error. -/
  foreign : ∀ e, (read config env n).1 = some e → e.isinstance .redisError = false

/-- A batch whose connection failed is not read. -/
theorem Failed.answered {n : NodeCommands F} {asked : List (PipelineCommand F)}
    {failure : SendFailure} (failed : n.Failed) (lost : env.send n.name = some failure)
    (commands : n.commands = asked.map fun c => { c with result := .exc failure.error }) :
    Answered config env asked n := by
  have nothing := readEach_settled_events config env n.connection failed.settled
  have unread := readEach_settled_commands config env n.connection failed.settled
  have finished := (readEach_settled config env n.connection failed.settled).1
  have outcome (c : PipelineCommand F) :
      kept (outcomeAt config env n.name asked c) = .exc failure.error := by
    unfold outcomeAt
    rw [lost]
    rfl
  have ran : NodeCommands.read config env n =
      (none, { n with
        connection := (readEach config env n.connection n.commands).connection
        commands := n.commands }, []) := by
    unfold NodeCommands.read
    simp only [finished, nothing, unread]
  refine { commands := fun _ => ?_, stored := ?_, foreign := ?_ }
  · rw [ran]
    simp only [outcome]
    exact commands
  · rw [ran]
    exact fun _ _ member => absurd member List.not_mem_nil
  · rw [ran]
    exact fun _ ended => by cases ended

/-- A batch that waits for its replies is read. -/
theorem Awaits.answered {n : NodeCommands F} {asked : List (PipelineCommand F)} (awaits : n.Awaits)
    (sent : env.send n.name = none)
    (commands : n.commands = asked.map fun c => { c with result := .none })
    (whole : Whole config env asked) : Answered config env asked n := by
  have stores : Stores config env n.commands (readEach config env n.connection n.commands) := by
    refine readEach_stores awaits.pending ?_ awaits.due
    rw [commands]
    exact whole_map whole _
  have lost : n.commands.findSome? (lostAt config env) = asked.findSome? (lostAt config env) := by
    rw [commands]
    exact findSome_lostAt_map _ asked
  have unbroken (none : asked.findSome? (lostAt config env) = none) (c : PipelineCommand F) :
      outcomeAt config env n.name asked c = answer config env c := by
    unfold outcomeAt
    rw [sent]
    simp only [none]
  have stored (p : Nat) (value : PyVal F)
      (member : .replied p value ∈ (readEach config env n.connection n.commands).events) :
      ∃ b ∈ asked, b.position = p ∧ outcomeAt config env n.name asked b = .ok value := by
    obtain ⟨⟨b, known, position, answered⟩, none⟩ := stores.stored p value member
    rw [commands] at known
    obtain ⟨c, inside, rfl⟩ := List.mem_map.mp known
    refine ⟨c, inside, position, ?_⟩
    rw [unbroken (lost ▸ none)]
    exact answered
  cases ended : (readEach config env n.connection n.commands).ended with
  | finished =>
    obtain ⟨none, results⟩ := stores.finished ended
    have ran : (NodeCommands.read config env n).2.1.commands =
        (readEach config env n.connection n.commands).commands := by
      unfold NodeCommands.read
      simp only [ended]
    refine { commands := fun _ => ?_, stored := ?_, foreign := ?_ }
    · rw [ran, results, commands, List.map_map]
      refine List.map_congr_left fun c _ => ?_
      rw [unbroken (lost ▸ none)]
      rfl
    · unfold NodeCommands.read
      simp only [ended]
      exact stored
    · unfold NodeCommands.read
      simp [ended]
  | broken e =>
    have found := stores.broken e ended
    have outcome (c : PipelineCommand F) :
        kept (outcomeAt config env n.name asked c) = .exc e := by
      unfold outcomeAt
      rw [sent]
      simp only [← lost, found]
      rfl
    have ran : (NodeCommands.read config env n).2.1.commands = (n.setResults (.exc e)).commands := by
      unfold NodeCommands.read
      simp only [ended]
    refine { commands := fun _ => ?_, stored := ?_, foreign := ?_ }
    · rw [ran]
      simp only [outcome, setResults, commands, List.map_map]
      rfl
    · unfold NodeCommands.read
      simp only [ended]
      exact stored
    · unfold NodeCommands.read
      simp [ended]
  | escaped e =>
    have foreign := stores.escaped e ended
    refine { commands := fun handled => ?_, stored := ?_, foreign := ?_ }
    · unfold NodeCommands.read at handled
      simp [ended] at handled
    · unfold NodeCommands.read
      simp only [ended]
      exact stored
    · unfold NodeCommands.read
      simp only [ended, Option.some.injEq, forall_eq']
      exact foreign

/-- A batch that was written is read. -/
theorem Transmitted.answered {n : NodeCommands F} {asked : List (PipelineCommand F)}
    (transmitted : Transmitted env asked n)
    (whole : env.send n.name = none → Whole config env asked) : Answered config env asked n := by
  cases transmitted with
  | awaits sent awaits commands => exact awaits.answered sent commands (whole sent)
  | failed lost failed commands => exact failed.answered lost commands

/-! ## Writing a batch -/

/-- Writing reads nothing. -/
theorem write_unread (env : Surroundings F) (n : NodeCommands F) :
    ∀ event ∈ (write env n).2.2, ∀ p value, event ≠ .replied p value := by
  have sents : ∀ event ∈ n.sents, ∀ p value, event ≠ .replied p value := by
    refine List.forall_mem_map.mpr fun c _ p value replied => ?_
    cases replied
  have nothing : ∀ event ∈ ([] : List (PipelineEvent F)), ∀ p value, event ≠ .replied p value :=
    fun _ member => absurd member List.not_mem_nil
  unfold NodeCommands.write
  by_cases encodable : n.commands.all (·.command.encodable) = true
  · rw [if_pos encodable]
    cases env.send n.name with
    | none => exact sents
    | some failure =>
      have written : ∀ event ∈ if failure.wrote then n.sents else [],
          ∀ p value, event ≠ .replied p value := by
        cases failure.wrote with
        | true => exact sents
        | false => exact nothing
      by_cases lost : failure.error.isinstanceAny connectionErrors = true
      · simp only [if_pos lost]
        exact written
      · simp only [if_neg lost]
        exact written
  · rw [if_neg encodable]
    exact nothing

/-- A fresh batch that is written without an exception. -/
theorem Fresh.transmitted {n : NodeCommands F} (fresh : n.Fresh) {env : Surroundings F}
    (handled : (NodeCommands.write env n).1 = none) :
    Transmitted env n.commands (NodeCommands.write env n).2.1 := by
  have outcome := fresh.write env
  have name := write_name env n
  unfold Written writeEnd at outcome
  cases encodable : n.commands.all (·.command.encodable) with
  | false =>
    rw [encodable] at outcome
    exact absurd handled outcome.1
  | true =>
    rw [encodable, if_pos rfl] at outcome
    cases sent : env.send n.name with
    | none =>
      rw [sent] at outcome
      exact .awaits (name ▸ sent) outcome.2.1 outcome.2.2
    | some failure =>
      simp only [sent] at outcome
      by_cases lost : failure.error.isinstanceAny connectionErrors = true
      · rw [if_pos lost] at outcome
        refine .failed (name ▸ sent) outcome.2 ?_
        unfold NodeCommands.write
        rw [if_pos encodable]
        simp only [sent, if_pos lost]
        rfl
      · rw [if_neg lost] at outcome
        exact absurd handled outcome.1

end NodeCommands

/-! ## Writing and reading all batches -/

namespace NodeCommands

variable {step : NodeCommands F → Option Exc × NodeCommands F × List (PipelineEvent F)}

/-- Each event is that of a node. -/
theorem mem_each_events {nodes : List (NodeCommands F)} {event : PipelineEvent F}
    (member : event ∈ (each step nodes).2.2) : ∃ n ∈ nodes, event ∈ (step n).2.2 := by
  induction nodes with
  | nil => cases member
  | cons n nodes ih =>
    rw [each] at member
    rcases ran : step n with ⟨stop, m, events⟩
    rw [ran] at member
    have own (inside : event ∈ events) : ∃ k ∈ n :: nodes, event ∈ (step k).2.2 :=
      ⟨n, List.mem_cons_self, by rw [ran]; exact inside⟩
    cases stop with
    | some e => exact own member
    | none =>
      rcases List.mem_append.mp member with first | later
      · exact own first
      · obtain ⟨k, inside, found⟩ := ih later
        exact ⟨k, List.mem_cons_of_mem _ inside, found⟩

/-- The exception is that of a node. -/
theorem exists_of_each_some {nodes : List (NodeCommands F)} {e : Exc}
    (raised : (each step nodes).1 = some e) : ∃ n ∈ nodes, (step n).1 = some e := by
  induction nodes with
  | nil => cases raised
  | cons n nodes ih =>
    rw [each] at raised
    rcases ran : step n with ⟨stop, m, events⟩
    rw [ran] at raised
    cases stop with
    | some other => exact ⟨n, List.mem_cons_self, by rw [ran]; exact raised⟩
    | none =>
      obtain ⟨k, inside, found⟩ := ih raised
      exact ⟨k, List.mem_cons_of_mem _ inside, found⟩

/-- Giving connections back ends at the first listener that raises. -/
theorem release_stop (env : Surroundings F) (nodes : List (NodeCommands F)) :
    (each (release env) nodes).1 = nodes.findSome? fun n => env.listener n.name := by
  induction nodes with
  | nil => rfl
  | cons n nodes ih =>
    rw [each, release, List.findSome?_cons]
    cases env.listener n.name with
    | some e => rfl
    | none => exact ih

end NodeCommands

namespace Sending

open NodeCommands

/-- The nodes are handled in order. -/
theorem meets_forEach {step : NodeCommands F → Option Exc × NodeCommands F × List (PipelineEvent F)}
    {P Q : Sending F → Prop} {E : Exc → Sending F → Prop}
    (handles : ∀ s, P s → (each step s.nodes).1 = none →
      Q { nodes := (each step s.nodes).2.1, events := s.events ++ (each step s.nodes).2.2 })
    (raises : ∀ s e, P s → (each step s.nodes).1 = some e →
      E e { nodes := (each step s.nodes).2.1, events := s.events ++ (each step s.nodes).2.2 }) :
    Meets P (forEach step) (fun _ => Q) E := by
  intro s start
  have handled := handles s start
  have raised := raises s
  unfold forEach
  rcases ran : each step s.nodes with ⟨stop, nodes, events⟩
  rw [ran] at handled raised
  cases stop with
  | none => exact handled rfl
  | some e => exact raised e start rfl

/-- The positions of all commands under nodes. -/
def positions (nodes : List (NodeCommands F)) : List Nat :=
  (nodes.flatMap (·.commands)).map (·.position)

/-- A change of the nodes that keeps the positions of each. -/
theorem positions_map {nodes : List (NodeCommands F)} {change : NodeCommands F → NodeCommands F}
    (kept : ∀ n ∈ nodes, (change n).commands.map (·.position) = n.commands.map (·.position)) :
    positions (nodes.map change) = positions nodes := by
  unfold positions
  rw [List.flatMap_map, List.map_flatMap, List.map_flatMap]
  exact List.flatMap_congr kept

/-- The batches were written. -/
structure Outstanding (env : Surroundings F) (stack : List (PipelineCommand F)) (s : Sending F) :
    Prop where
  /-- Nothing was read. -/
  unread : s.Unread
  /-- Nothing is missing. -/
  perm : (positions s.nodes).Perm (stack.map (·.position))
  /-- Each command is under its own node. -/
  target : ∀ c ∈ stack, ∃ n ∈ s.nodes, targetNode env c = .ok n.name
  /-- The first listener is that of the first command. -/
  listeners : s.nodes.findSome? (fun n => env.listener n.name) = stack.findSome? (heard env)
  /-- Each batch waits for its replies, or its connection failed. -/
  batches : ∀ n ∈ s.nodes, Transmitted env (batch env stack n.name) n

/-- The results of all commands. -/
structure Shows (stack : List (PipelineCommand F)) (values : PipelineCommand F → PyVal F)
    (s : Sending F) : Prop where
  /-- The commands are known. -/
  known : ∀ c ∈ stack, c.position ∈ positions s.nodes
  /-- Each has its result. -/
  shown : ∀ c ∈ stack, s.result c.position = values c

/-- Replies were read. -/
structure Replied (config : ClientConfig F) (env : Surroundings F)
    (stack : List (PipelineCommand F)) (s : Sending F) : Prop where
  /-- Nothing was sent again. -/
  unrepeated : Unrepeated s.events
  /-- Each success reply is an outcome. -/
  stored : ∀ p value, .replied p value ∈ s.events →
    ∃ c ∈ stack, c.position = p ∧ outcome config env stack c = .ok value
  /-- The first listener is that of the first command. -/
  listeners : s.nodes.findSome? (fun n => env.listener n.name) = stack.findSome? (heard env)

/-- All replies were read. -/
structure Recorded (config : ClientConfig F) (env : Surroundings F)
    (stack : List (PipelineCommand F)) (s : Sending F) : Prop extends Replied config env stack s where
  /-- Each outcome is a result. -/
  shows : s.Shows stack fun c => kept (outcome config env stack c)

/-- Replies were read exactly if a command succeeded. -/
theorem Replied.unread_or {config : ClientConfig F} {env : Surroundings F}
    {stack : List (PipelineCommand F)} {s : Sending F} (replied : Replied config env stack s) :
    s.Unread ∨ ∃ c ∈ stack, (outcome config env stack c).isOk = true := by
  by_cases unread : s.Unread
  · exact .inl unread
  · unfold Unread Unanswered at unread
    push Not at unread
    obtain ⟨p, value, member⟩ := unread
    obtain ⟨c, inside, -, succeeded⟩ := replied.stored p value member
    exact .inr ⟨c, inside, by rw [succeeded]; rfl⟩

/-- The result of a command by its position. -/
theorem result_of_mem {s : Sending F} {c : PipelineCommand F}
    (distinct : ((s.nodes.flatMap (·.commands)).map (·.position)).Nodup)
    (member : c ∈ s.nodes.flatMap (·.commands)) : s.result c.position = c.result := by
  have found (commands : List (PipelineCommand F)) (distinct : (commands.map (·.position)).Nodup)
      (member : c ∈ commands) : commands.find? (·.position = c.position) = some c := by
    induction commands with
    | nil => cases member
    | cons d commands ih =>
      obtain ⟨absent, distinct⟩ := List.nodup_cons.mp distinct
      by_cases same : d.position = c.position
      · have head : c = d := by
          rcases List.mem_cons.mp member with head | rest
          · exact head
          · have again : c.position ∈ commands.map (·.position) := List.mem_map_of_mem rest
            rw [← same] at again
            exact absurd again absent
        rw [head, List.find?_cons_of_pos (by simp)]
      · have rest : c ∈ commands := by
          rcases List.mem_cons.mp member with head | rest
          · exact absurd (congrArg (·.position) head.symm) same
          · exact rest
        rw [List.find?_cons_of_neg (by simpa using same)]
        exact ih distinct rest
  unfold result
  rw [found _ distinct member]

/-- The batches are written. -/
theorem meets_write (env : Surroundings F) (stack : List (PipelineCommand F)) :
    Meets (fun s => Unread s ∧ s.Placed env stack) (forEach (NodeCommands.write env))
      (fun _ => Outstanding env stack) (fun _ => Unread) := by
  have quiet (s : Sending F) (unread : s.Unread) : Unread
      { nodes := (each (NodeCommands.write env) s.nodes).2.1
        events := s.events ++ (each (NodeCommands.write env) s.nodes).2.2 } :=
    unread.append (each_events (write_unread env) s.nodes) rfl
  apply meets_forEach
  · rintro s ⟨unread, placed⟩ handled
    have each_none := (each_none_iff s.nodes).mp handled
    have nodes := each_map each_none
    have transmitted (n : NodeCommands F) (member : n ∈ s.nodes) :
        Transmitted env n.commands (NodeCommands.write env n).2.1 :=
      (placed.fresh n member).transmitted (each_none n member)
    refine { unread := quiet s unread, perm := ?_, target := ?_, listeners := ?_, batches := ?_ }
    · show (positions (each (NodeCommands.write env) s.nodes).2.1).Perm _
      rw [nodes, positions_map fun n member => (transmitted n member).positions]
      exact placed.perm.map _
    · intro c member
      obtain ⟨n, inside, own⟩ := placed.target c member
      refine ⟨(NodeCommands.write env n).2.1, ?_, ?_⟩
      · show _ ∈ (each (NodeCommands.write env) s.nodes).2.1
        rw [nodes]
        exact List.mem_map_of_mem inside
      · rw [write_name]
        exact own
    · show (each (NodeCommands.write env) s.nodes).2.1.findSome? _ = _
      rw [nodes, List.findSome?_map, ← placed.listeners]
      refine congrArg (fun listen => s.nodes.findSome? listen) (funext fun n => ?_)
      exact congrArg env.listener (write_name env n)
    · show ∀ n ∈ (each (NodeCommands.write env) s.nodes).2.1, _
      rw [nodes]
      refine List.forall_mem_map.mpr fun n member => ?_
      rw [write_name, ← placed.batches n member]
      exact transmitted n member
  · exact fun s _ start _ => quiet s start.1

/-- The replies are read. -/
theorem meets_read {config : ClientConfig F} {env : Surroundings F}
    {stack : List (PipelineCommand F)} (distinct : (stack.map (·.position)).Nodup)
    (whole : ∀ c ∈ stack, ∀ name, targetNode env c = .ok name → env.send name = none →
      Whole config env (batch env stack name)) :
    Meets (Outstanding env stack) (forEach (NodeCommands.read config env))
      (fun _ => Recorded config env stack)
      (fun e s => Replied config env stack s ∧ e.isinstanceAny clusterErrorsAllowRetry = false) := by
  have answered (s : Sending F) (outstanding : Outstanding env stack s) (n : NodeCommands F)
      (member : n ∈ s.nodes) : Answered config env (batch env stack n.name) n := by
    refine (outstanding.batches n member).answered fun sent => ?_
    cases asked : batch env stack n.name with
    | nil => exact trivial
    | cons c commands =>
      have first : c ∈ batch env stack n.name := by rw [asked]; exact List.mem_cons_self
      obtain ⟨inside, target⟩ := target_of_mem_batch first
      rw [← asked]
      exact whole c inside n.name target sent
  have outcomes {name : Text} {c : PipelineCommand F} (target : targetNode env c = .ok name) :
      outcome config env stack c = outcomeAt config env name (batch env stack name) c := by
    unfold outcome
    rw [target]
  have replied (s : Sending F) (outstanding : Outstanding env stack s) :
      Replied config env stack
        { nodes := (each (NodeCommands.read config env) s.nodes).2.1
          events := s.events ++ (each (NodeCommands.read config env) s.nodes).2.2 } := by
    refine { unrepeated := ?_, stored := ?_, listeners := ?_ }
    · refine (unrepeated_of_unanswered outstanding.unread).append_unsent ?_
      exact each_events (fun n => read_unsent config env n) s.nodes
    · intro p value member
      have new := (List.mem_append.mp member).resolve_left (outstanding.unread p value)
      obtain ⟨n, node, own⟩ := mem_each_events new
      obtain ⟨c, asked, position, succeeded⟩ := (answered s outstanding n node).stored p value own
      obtain ⟨inside, target⟩ := target_of_mem_batch asked
      exact ⟨c, inside, position, (outcomes target).trans succeeded⟩
    · have names := congrArg (List.findSome? env.listener)
        (each_names (read_name config env) s.nodes)
      rw [List.findSome?_map, List.findSome?_map] at names
      exact names.trans outstanding.listeners
  apply meets_forEach
  · intro s outstanding handled
    have each_none := (each_none_iff s.nodes).mp handled
    have nodes := each_map each_none
    have results (n : NodeCommands F) (member : n ∈ s.nodes) :=
      (answered s outstanding n member).commands (each_none n member)
    have same : positions (each (NodeCommands.read config env) s.nodes).2.1 = positions s.nodes := by
      rw [nodes]
      refine positions_map fun n member => ?_
      rw [results n member, (outstanding.batches n member).positions, List.map_map]
      rfl
    refine { toReplied := replied s outstanding, shows := { known := ?_, shown := ?_ } }
    · intro c member
      show c.position ∈ positions (each (NodeCommands.read config env) s.nodes).2.1
      rw [same, outstanding.perm.mem_iff]
      exact List.mem_map_of_mem member
    · intro c member
      obtain ⟨n, inside, target⟩ := outstanding.target c member
      have asked : c ∈ batch env stack n.name :=
        List.mem_filter.mpr ⟨member, by simp [isFor, target]⟩
      have found : { c with result := kept (outcome config env stack c) } ∈
          (each (NodeCommands.read config env) s.nodes).2.1.flatMap (·.commands) := by
        rw [nodes]
        refine List.mem_flatMap.mpr ⟨_, List.mem_map_of_mem inside, ?_⟩
        rw [results n inside, outcomes target]
        exact List.mem_map_of_mem asked
      have nodup : (positions (each (NodeCommands.read config env) s.nodes).2.1).Nodup := by
        rw [same, outstanding.perm.nodup_iff]
        exact distinct
      exact result_of_mem (s := { nodes := _, events := _ }) nodup found
  · intro s e outstanding raised
    obtain ⟨n, inside, own⟩ := exists_of_each_some raised
    exact ⟨replied s outstanding, not_retried_of_foreign
      ((answered s outstanding n inside).foreign e own)⟩

/-- Giving connections back changes no results. -/
theorem release_nodes (env : Surroundings F) (nodes : List (NodeCommands F)) :
    (each (NodeCommands.release env) nodes).2.1 = nodes := by
  induction nodes with
  | nil => rfl
  | cons n nodes ih =>
    rw [each, NodeCommands.release]
    cases env.listener n.name with
    | some e => rfl
    | none => exact congrArg (n :: ·) ih

/-- What an exchange leaves when it raises: another attempt is made only if nothing was read, or if a
listener raised. -/
def Interrupted (config : ClientConfig F) (env : Surroundings F) (stack : List (PipelineCommand F))
    (e : Exc) (s : Sending F) : Prop :=
  Unrepeated s.events ∧
    (e.isinstanceAny clusterErrorsAllowRetry = true → s.Unread ∨
      (∃ c ∈ stack, (outcome config env stack c).isOk = true) ∧
        stack.findSome? (heard env) = some e)

/-- Nothing was read. -/
theorem interrupted_of_unread {config : ClientConfig F} {env : Surroundings F}
    {stack : List (PipelineCommand F)} {s : Sending F} (unread : s.Unread) (e : Exc) :
    Interrupted config env stack e s :=
  ⟨unrepeated_of_unanswered unread, fun _ => .inl unread⟩

/-- Giving connections back reads nothing and sends nothing. -/
theorem Replied.release {config : ClientConfig F} {env : Surroundings F}
    {stack : List (PipelineCommand F)} {s : Sending F} (replied : Replied config env stack s) :
    Replied config env stack
      { nodes := (each (NodeCommands.release env) s.nodes).2.1
        events := s.events ++ (each (NodeCommands.release env) s.nodes).2.2 } where
  unrepeated :=
    replied.unrepeated.append_unsent fun event member => (release_quiet env s.nodes event member).1
  stored p value member := by
    rcases List.mem_append.mp member with old | new
    · exact replied.stored p value old
    · exact absurd rfl ((release_quiet env s.nodes _ new).2 p value)
  listeners := by
    show (each (NodeCommands.release env) s.nodes).2.1.findSome? _ = _
    rw [release_nodes]
    exact replied.listeners

/-- A listener raises. -/
theorem Replied.interrupted {config : ClientConfig F} {env : Surroundings F}
    {stack : List (PipelineCommand F)} {s : Sending F} (replied : Replied config env stack s)
    {e : Exc} (raised : (each (NodeCommands.release env) s.nodes).1 = some e) :
    Interrupted config env stack e
      { nodes := (each (NodeCommands.release env) s.nodes).2.1
        events := s.events ++ (each (NodeCommands.release env) s.nodes).2.2 } := by
  refine ⟨replied.release.unrepeated, fun _ => ?_⟩
  rcases replied.release.unread_or with unread | succeeded
  · exact .inl unread
  · rw [release_stop, replied.listeners] at raised
    exact .inr ⟨succeeded, raised⟩

/-- The batches are written and read, and the connections are given back. -/
theorem meets_exchange {config : ClientConfig F} {env : Surroundings F}
    {stack : List (PipelineCommand F)} (distinct : (stack.map (·.position)).Nodup)
    (whole : ∀ c ∈ stack, ∀ name, targetNode env c = .ok name → env.send name = none →
      Whole config env (batch env stack name)) :
    Meets (fun s => Unread s ∧ s.nodes = []) (exchange config env stack)
      (fun _ s => Recorded config env stack s ∧ stack.findSome? (heard env) = none)
      (Interrupted config env stack) := by
  have assigned : Meets (fun s => Unread s ∧ s.nodes = []) (assignEach env stack)
      (fun _ s => Unread s ∧ s.Placed env stack) (Interrupted config env stack) := by
    refine (meets_assignEach env stack []).weaken ?_ (fun _ _ => id)
      fun e _ unread => interrupted_of_unread unread e
    rintro s ⟨unread, empty⟩
    refine ⟨unread, ?_⟩
    exact {
      names := by simp [empty]
      perm := by simp [empty]
      batches := by simp [empty]
      target := by simp
      listeners := by simp [empty]
      fresh := by simp [empty, AllFresh] }
  have transferred : Meets (fun s => Unread s ∧ s.Placed env stack) (do
      forEach (NodeCommands.write env)
      forEach (NodeCommands.read config env))
      (fun _ => Recorded config env stack) (fun e s => Unread s ∨
        Replied config env stack s ∧ e.isinstanceAny clusterErrorsAllowRetry = false) := by
    refine Meets.bind (Q := fun _ => Outstanding env stack) ?_ fun _ => ?_
    · exact (meets_write env stack).weaken (fun _ => id) (fun _ _ => id) fun _ _ => .inl
    · exact (meets_read distinct whole).weaken (fun _ => id) (fun _ _ => id) fun _ _ => .inr
  apply assigned.bind
  intro _
  apply transferred.ensure
  · intro _
    apply meets_forEach
    · intro s recorded released
      rw [release_stop, recorded.listeners] at released
      refine ⟨{ toReplied := recorded.toReplied.release, shows := ?_ }, released⟩
      rw [release_nodes]
      exact { known := recorded.shows.known, shown := recorded.shows.shown }
    · exact fun s e recorded raised => recorded.toReplied.interrupted raised
  · intro e
    have quiet (s : Sending F) (unread : s.Unread) : Unread
        { nodes := (each (NodeCommands.release env) s.nodes).2.1
          events := s.events ++ (each (NodeCommands.release env) s.nodes).2.2 } :=
      unread.append (fun event member => (release_quiet env s.nodes event member).2) rfl
    apply meets_forEach
    · rintro s (unread | ⟨replied, stays⟩) _
      · exact interrupted_of_unread (quiet s unread) e
      · exact ⟨replied.release.unrepeated, fun retried => by rw [stays] at retried; cases retried⟩
    · rintro s other (unread | ⟨replied, -⟩) raised
      · exact interrupted_of_unread (quiet s unread) other
      · exact replied.interrupted raised

end Sending

end RedisPy
