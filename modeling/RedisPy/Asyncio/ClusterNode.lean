import RedisPy.Exceptions
import RedisPy.Lib.Places
import RedisPy.Lib.Runs
import Mathlib.Data.List.Perm.Subperm

/-!
# The connections of an asyncio cluster node

`ClusterNode` of `redis/asyncio/cluster.py` keeps every connection it made in `_connections` and
those that no call uses in `_free`. Calls of any number of tasks take connections and put them
back; an action starts a call or resumes one that is suspended, with an exception if what it
awaited raised or the task was cancelled. What happens between two suspension points is one step.

The calls put connections back by hand, and only reading the reply to a single command is
protected by `finally`. The connections are conserved in exactly those runs in which every call
that has a connection and is not protected goes well.
-/

namespace RedisPy

open Places Runs

/-- The queues of a `ClusterNode`; connections are numbered in the order they are made. -/
structure TaskNode where
  /-- `max_connections`. -/
  maxConnections : Nat
  /-- `_connections`. -/
  connections : List Nat
  /-- `_free`; the first one is taken. -/
  free : List Nat
deriving DecidableEq

namespace TaskNode

/-- `self._free.append(connection)`; a full deque drops its first item. -/
def append (c : Nat) (node : TaskNode) : TaskNode :=
  { node with free := (node.free ++ [c]).drop (node.free.length + 1 - node.maxConnections) }

/-- `acquire_connection`; `construct` is what the constructor of the connection raises. -/
def acquireConnection (construct : Option Exc) (node : TaskNode) : Except Exc (Nat × TaskNode) :=
  match node.free with
  | c :: free => .ok (c, { node with free })
  | [] =>
    if node.connections.length < node.maxConnections then
      match construct with
      | some e => .error e
      | none =>
        let c := node.connections.length
        .ok (c, { node with connections := node.connections ++ [c] })
    else .error { cls := .maxConnectionsError }

end TaskNode

/-- Where a call on a node is suspended. -/
inductive NodeCall where
  /-- The call is over, or has not begun. -/
  | idle
  /-- `execute_command` sends. -/
  | sending (c : Nat)
  /-- `execute_command` reads the reply. -/
  | reading (c : Nat)
  /-- `execute_pipeline` sends a number of commands. -/
  | sendingPipeline (c commands : Nat)
  /-- `execute_pipeline` reads a reply, before a number of others. -/
  | readingPipeline (c others : Nat)
  /-- `re_auth_callback` sends `AUTH`, with its `tmp_queue`. -/
  | sendingAuth (c : Nat) (tmpQueue : List Nat)
  /-- `re_auth_callback` reads the reply to `AUTH`, with its `tmp_queue`. -/
  | readingAuth (c : Nat) (tmpQueue : List Nat)
  /-- `disconnect` awaits the connections. -/
  | disconnecting
deriving DecidableEq

/-- The connections that a suspended call holds. -/
def NodeCall.holds : NodeCall → List Nat
  | .idle => []
  | .sending c => [c]
  | .reading c => [c]
  | .sendingPipeline c _ => [c]
  | .readingPipeline c _ => [c]
  | .sendingAuth c tmpQueue => tmpQueue ++ [c]
  | .readingAuth c tmpQueue => tmpQueue ++ [c]
  | .disconnecting => []

/-- What happens to a task. -/
inductive NodeAction where
  /-- It calls `execute_command`; making a connection or packing the command may raise. -/
  | executeCommand (construct pack : Option Exc)
  /-- It calls `execute_pipeline`. -/
  | executePipeline (commands : Nat) (construct pack : Option Exc)
  /-- It calls `re_auth_callback`. -/
  | reAuthCallback
  /-- It calls `disconnect`. -/
  | disconnect
  /-- What it awaits returns, or raises. -/
  | resume (raised : Option Exc)

/-- A node with its tasks. -/
structure NodeTasks (T : Type) where
  node : TaskNode
  calls : T → NodeCall

namespace NodeTasks

variable {T : Type} [DecidableEq T]

/-- No call, and no connection. -/
def start (maxConnections : Nat) : NodeTasks T where
  node := { maxConnections, connections := [], free := [] }
  calls _ := .idle

/-- The call of a task goes on somewhere else. -/
def become (s : NodeTasks T) (t : T) (call : NodeCall) (node : TaskNode) : NodeTasks T where
  node
  calls := Function.update s.calls t call

/-- A call takes a connection and packs what it sends with it. -/
def begin (s : NodeTasks T) (t : T) (construct pack : Option Exc) (send : Nat → NodeCall) :
    NodeTasks T :=
  match s.node.acquireConnection construct with
  | .error _ => s
  | .ok (c, node) =>
    match pack with
    | none => s.become t (send c) node
    | some _ => s.become t .idle node

/-- The loop of `execute_pipeline` in front of a number of replies. -/
def readReplies (s : NodeTasks T) (t : T) (c : Nat) : Nat → NodeTasks T
  | 0 => s.become t .idle (s.node.append c)
  | others + 1 => s.become t (.readingPipeline c others) s.node

/-- The loop of `re_auth_callback`, and the end of it that empties `tmp_queue`. -/
def authenticate (s : NodeTasks T) (t : T) (tmpQueue : List Nat) : NodeTasks T :=
  match s.node.free with
  | c :: free => s.become t (.sendingAuth c tmpQueue) { s.node with free }
  | [] => s.become t .idle (tmpQueue.foldl (fun node c => node.append c) s.node)

/-- What a suspended call does when what it awaited returned or raised. -/
def resume (s : NodeTasks T) (t : T) : NodeCall → Option Exc → NodeTasks T
  | .sending c, none => s.become t (.reading c) s.node
  | .reading c, _ => s.become t .idle (s.node.append c)
  | .sendingPipeline c commands, none => s.readReplies t c commands
  | .readingPipeline c others, none => s.readReplies t c others
  | .readingPipeline c others, some e =>
    if e.isinstance .exception then s.readReplies t c others else s.become t .idle s.node
  | .sendingAuth c tmpQueue, none => s.become t (.readingAuth c tmpQueue) s.node
  | .readingAuth c tmpQueue, none => s.authenticate t (tmpQueue ++ [c])
  | _, _ => s.become t .idle s.node

/-- What a task does that calls a method. -/
def call (s : NodeTasks T) (t : T) : NodeAction → NodeTasks T
  | .executeCommand construct pack => s.begin t construct pack .sending
  | .executePipeline commands construct pack =>
    s.begin t construct pack fun c => .sendingPipeline c commands
  | .reAuthCallback => s.authenticate t []
  | .disconnect => s.become t .disconnecting s.node
  | .resume _ => s

/-- One step; a task is in one call at a time. -/
def act (s : NodeTasks T) : T × NodeAction → NodeTasks T
  | (t, .resume raised) => s.resume t (s.calls t) raised
  | (t, action) => if s.calls t = .idle then s.call t action else s

/-! ## What has to be conserved -/

/-- The connections of a node are free or held by one call each, there are not too many, and all
are free when no call runs. -/
structure Conserved (s : NodeTasks T) : Prop where
  /-- Every connection is somewhere, once. -/
  conserves : Conserves NodeCall.holds s.calls s.node.free s.node.connections
  /-- No connection is listed twice. -/
  distinct : s.node.connections.Nodup
  /-- There are not too many. -/
  bounded : s.node.connections.length ≤ s.node.maxConnections
  /-- Without calls all are free. -/
  back : (∀ t, s.calls t = .idle) → s.node.free.Perm s.node.connections

/-- A call that needs a connection gets one. -/
def Obtains (construct : Option Exc) (node : TaskNode) : Prop :=
  node.free ≠ [] ∨ node.connections.length < node.maxConnections ∧ construct = none

/-- A call that is suspended goes on, where `try` does not see to its connection. -/
def Guarded : NodeCall → Option Exc → Prop
  | .sending _, raised => raised = none
  | .sendingPipeline _ _, raised => raised = none
  | .readingPipeline _ _, raised => ∀ e ∈ raised, e.isinstance .exception = true
  | .sendingAuth _ _, raised => raised = none
  | .readingAuth _ _, raised => raised = none
  | _, _ => True

/-- A step of a call that has a connection and is not inside `try` goes well. -/
def Careful (s : NodeTasks T) : T × NodeAction → Prop
  | (t, .resume raised) => Guarded (s.calls t) raised
  | (t, .executeCommand construct pack) =>
    s.calls t = .idle → Obtains construct s.node → pack = none
  | (t, .executePipeline _ construct pack) =>
    s.calls t = .idle → Obtains construct s.node → pack = none
  | _ => True

/-! ## Putting connections back -/

/-- Where there is room, nothing is dropped. -/
theorem append_of_room {node : TaskNode} (c : Nat) (room : node.free.length < node.maxConnections) :
    node.append c = { node with free := node.free ++ [c] } := by
  have none : node.free.length + 1 - node.maxConnections = 0 := by omega
  rw [TaskNode.append, none, List.drop_zero]

/-- Where there is room for a queue, all of it is put back. -/
theorem append_all {node : TaskNode} (tmpQueue : List Nat)
    (room : node.free.length + tmpQueue.length ≤ node.maxConnections) :
    tmpQueue.foldl (fun node c => node.append c) node =
      { node with free := node.free ++ tmpQueue } := by
  induction tmpQueue generalizing node with
  | nil => simp
  | cons c tmpQueue ih =>
    rw [List.length_cons] at room
    have here : node.free.length < node.maxConnections := by omega
    rw [List.foldl_cons, append_of_room c here, ih]
    · rw [List.append_assoc, List.singleton_append]
    · show (node.free ++ [c]).length + tmpQueue.length ≤ node.maxConnections
      rw [List.length_append, List.length_singleton]
      omega

/-! ## What a step preserves -/

/-- The invariant of careful runs. -/
structure Sound (s : NodeTasks T) : Prop where
  /-- Every connection is somewhere, once. -/
  conserves : Conserves NodeCall.holds s.calls s.node.free s.node.connections
  /-- Connections are numbered. -/
  numbered : s.node.connections = List.range s.node.connections.length
  /-- There are not too many. -/
  bounded : s.node.connections.length ≤ s.node.maxConnections

section Steps

variable {s : NodeTasks T} {t : T}

omit [DecidableEq T] in
/-- What is sound is conserved. -/
theorem Sound.conserved (sound : Sound s) : Conserved s := by
  have distinct : s.node.connections.Nodup := by
    rw [sound.numbered]
    exact List.nodup_range
  refine ⟨sound.conserves, distinct, sound.bounded, fun quiet => ?_⟩
  apply (List.perm_ext_iff_of_nodup sound.conserves.distinct distinct).mpr
  intro c
  rw [sound.conserves.mem c]
  constructor
  · exact Or.inl
  · rintro (free | ⟨t, member⟩)
    · exact free
    · rw [quiet t] at member
      exact absurd member List.not_mem_nil

omit [DecidableEq T] in
/-- There is room for what a call holds. -/
theorem Sound.room (sound : Sound s) (t : T) :
    s.node.free.length + (s.calls t).holds.length ≤ s.node.maxConnections := by
  have known : s.node.free ++ (s.calls t).holds ⊆ s.node.connections := by
    intro c member
    rcases List.mem_append.mp member with free | own
    · exact (sound.conserves.mem c).mpr (.inl free)
    · exact (sound.conserves.mem c).mpr (.inr ⟨t, own⟩)
  have distinct : (s.node.free ++ (s.calls t).holds).Nodup := sound.conserves.nodup t
  have fits := (List.subperm_of_subset distinct known).length_le
  rw [List.length_append] at fits
  exact Nat.le_trans fits sound.bounded

/-- A call exchanges connections with the node. -/
theorem Sound.exchange (sound : Sound s) {call : NodeCall} {free : List Nat}
    (same : (free ++ call.holds).Perm (s.node.free ++ (s.calls t).holds)) :
    Sound (s.become t call { s.node with free }) where
  conserves := sound.conserves.exchange same
  numbered := sound.numbered
  bounded := sound.bounded

/-- A call goes on with the connections it has. -/
theorem Sound.goOn (sound : Sound s) {call : NodeCall} (same : call.holds = (s.calls t).holds) :
    Sound (s.become t call s.node) :=
  sound.exchange (by rw [same])

/-- A call puts its connection back and is over. -/
theorem Sound.putBack (sound : Sound s) {c : Nat} (own : (s.calls t).holds = [c]) :
    Sound (s.become t .idle (s.node.append c)) := by
  have room := sound.room t
  rw [own, List.length_singleton] at room
  rw [append_of_room c (by omega)]
  apply sound.exchange
  rw [own, NodeCall.holds, List.append_nil]

/-- A call without connections takes one, or none can be had. -/
theorem Sound.begun (sound : Sound s) (idle : s.calls t = .idle) {construct pack : Option Exc}
    {send : Nat → NodeCall} (sends : ∀ c, (send c).holds = [c])
    (careful : Obtains construct s.node → pack = none) :
    Sound (s.begin t construct pack send) := by
  unfold begin TaskNode.acquireConnection
  cases free : s.node.free with
  | cons c rest =>
    rw [careful (.inl (by simp [free]))]
    apply sound.exchange
    rw [sends, idle, free, NodeCall.holds, List.append_nil]
    exact List.perm_append_singleton c rest
  | nil =>
    by_cases more : s.node.connections.length < s.node.maxConnections
    · cases construct with
      | some e => simpa only [if_pos more] using sound
      | none =>
        simp only [if_pos more, careful (.inr ⟨more, rfl⟩)]
        have unknown : s.node.connections.length ∉ s.node.connections := by
          intro member
          rw [sound.numbered, List.mem_range, List.length_range] at member
          exact Nat.lt_irrefl _ member
        have exchanges : Exchanges NodeCall.holds s.calls s.node.free s.node.connections t
            (send s.node.connections.length) [] [s.node.connections.length] := by
          refine ⟨?_, List.nodup_singleton _, by simpa using unknown⟩
          rw [sends, idle, free, NodeCall.holds]
          exact List.Perm.refl _
        refine ⟨sound.conserves.move exchanges, ?_, ?_⟩
        · show s.node.connections ++ [s.node.connections.length] =
            List.range (s.node.connections ++ [s.node.connections.length]).length
          rw [List.length_append, List.length_singleton, List.range_succ, ← sound.numbered]
        · show (s.node.connections ++ [s.node.connections.length]).length ≤ s.node.maxConnections
          rw [List.length_append, List.length_singleton]
          omega
    · simpa only [if_neg more] using sound

/-- The loop of `execute_pipeline`. -/
theorem Sound.readReplies (sound : Sound s) {c : Nat} (own : (s.calls t).holds = [c])
    (others : Nat) : Sound (s.readReplies t c others) := by
  cases others with
  | zero => exact sound.putBack own
  | succ others => exact sound.goOn own.symm

/-- The loop of `re_auth_callback`. -/
theorem Sound.authenticate (sound : Sound s) {tmpQueue : List Nat}
    (own : (s.calls t).holds = tmpQueue) : Sound (s.authenticate t tmpQueue) := by
  unfold NodeTasks.authenticate
  cases free : s.node.free with
  | cons c rest =>
    apply sound.exchange
    rw [own, free, NodeCall.holds, ← List.append_assoc]
    exact List.perm_append_singleton c (rest ++ tmpQueue)
  | nil =>
    have room := sound.room t
    rw [own] at room
    simp only [append_all tmpQueue room]
    apply sound.exchange
    rw [own, NodeCall.holds, List.append_nil]

/-- A call that is resumed. -/
theorem Sound.resume (sound : Sound s) {raised : Option Exc} (guarded : Guarded (s.calls t) raised) :
    Sound (s.resume t (s.calls t) raised) := by
  cases place : s.calls t with
  | idle =>
    have own : (s.calls t).holds = [] := by rw [place]; rfl
    cases raised <;> exact sound.goOn own.symm
  | sending c =>
    have own : (s.calls t).holds = [c] := by rw [place]; rfl
    rw [place] at guarded
    rw [show raised = none from guarded]
    exact sound.goOn own.symm
  | reading c =>
    have own : (s.calls t).holds = [c] := by rw [place]; rfl
    cases raised <;> exact sound.putBack own
  | sendingPipeline c commands =>
    have own : (s.calls t).holds = [c] := by rw [place]; rfl
    rw [place] at guarded
    rw [show raised = none from guarded]
    exact sound.readReplies own commands
  | readingPipeline c others =>
    have own : (s.calls t).holds = [c] := by rw [place]; rfl
    rw [place] at guarded
    cases raised with
    | none => exact sound.readReplies own others
    | some e =>
      have caught : e.isinstance .exception = true := guarded e rfl
      rw [NodeTasks.resume, if_pos caught]
      exact sound.readReplies own others
  | sendingAuth c tmpQueue =>
    have own : (s.calls t).holds = tmpQueue ++ [c] := by rw [place]; rfl
    rw [place] at guarded
    rw [show raised = none from guarded]
    exact sound.goOn own.symm
  | readingAuth c tmpQueue =>
    have own : (s.calls t).holds = tmpQueue ++ [c] := by rw [place]; rfl
    rw [place] at guarded
    rw [show raised = none from guarded]
    exact sound.authenticate own
  | disconnecting =>
    have own : (s.calls t).holds = [] := by rw [place]; rfl
    cases raised <;> exact sound.goOn own.symm

/-- A method that is called. -/
theorem Sound.call (sound : Sound s) (idle : s.calls t = .idle) {action : NodeAction}
    (careful : s.Careful (t, action)) : Sound (s.call t action) := by
  have own : (s.calls t).holds = [] := by rw [idle]; rfl
  cases action with
  | executeCommand construct pack => exact sound.begun idle (fun c => by rfl) (careful idle)
  | executePipeline commands construct pack =>
    exact sound.begun idle (fun c => by rfl) (careful idle)
  | reAuthCallback => exact sound.authenticate own
  | disconnect => exact sound.goOn own.symm
  | resume raised => exact sound

/-- A careful step conserves the connections. -/
theorem Sound.act (sound : Sound s) {step : T × NodeAction} (careful : s.Careful step) :
    Sound (s.act step) := by
  obtain ⟨t, action⟩ := step
  have called : Sound (if s.calls t = .idle then s.call t action else s) := by
    by_cases idle : s.calls t = .idle
    · rw [if_pos idle]
      exact sound.call idle careful
    · rw [if_neg idle]
      exact sound
  cases action with
  | resume raised => exact sound.resume careful
  | _ => exact called

/-! ## What a careless step loses -/

/-- A connection that a call drops is lost. -/
theorem Sound.dropped (sound : Sound s) {c : Nat} (own : c ∈ (s.calls t).holds) :
    ¬Conserved (s.become t .idle s.node) := by
  have used : c ∉ s.node.free := fun free =>
    (List.nodup_append.mp (sound.conserves.nodup t)).2.2 c free c own rfl
  intro conserved
  exact sound.conserves.not_of_dropped own List.not_mem_nil used conserved.conserves

/-- A call that drops the connection it has just got loses it. -/
theorem Sound.wasted (sound : Sound s) {construct : Option Exc} (e : Exc) (send : Nat → NodeCall)
    (obtains : Obtains construct s.node) :
    ¬Conserved (s.begin t construct (some e) send) := by
  unfold begin TaskNode.acquireConnection
  intro conserved
  cases free : s.node.free with
  | cons c rest =>
    simp only [free] at conserved
    have there : c ∈ s.node.connections := (sound.conserves.mem c).mpr (.inl (by simp [free]))
    rcases (conserved.conserves.mem c).mp there with again | ⟨u, held⟩
    · have distinct := sound.conserves.distinct
      rw [free] at distinct
      exact (List.nodup_cons.mp distinct).1 again
    · by_cases here : u = t
      · simp [become, here, NodeCall.holds] at held
      · simp only [become, Function.update_of_ne here] at held
        have apart := (List.nodup_append.mp (sound.conserves.nodup u)).2.2
        exact apart c (by simp [free]) c held rfl
  | nil =>
    obtain ⟨more, rfl⟩ := obtains.resolve_left (by simp [free])
    simp only [free, if_pos more] at conserved
    have there : s.node.connections.length ∈ s.node.connections ++ [s.node.connections.length] := by
      simp
    rcases (conserved.conserves.mem _).mp there with again | ⟨u, held⟩
    · simp [become] at again
    · by_cases here : u = t
      · simp [become, here, NodeCall.holds] at held
      · simp only [become, Function.update_of_ne here] at held
        have known := (sound.conserves.mem _).mpr (.inr ⟨u, held⟩)
        rw [sound.numbered, List.mem_range, List.length_range] at known
        exact Nat.lt_irrefl _ known

/-- A call that is not guarded loses its connection. -/
theorem Sound.lost (sound : Sound s) {raised : Option Exc} (open' : ¬Guarded (s.calls t) raised) :
    ¬Conserved (s.resume t (s.calls t) raised) := by
  obtain ⟨e, rfl⟩ : ∃ e, raised = some e := by
    cases raised with
    | some e => exact ⟨e, rfl⟩
    | none =>
      refine absurd ?_ open'
      cases s.calls t <;> simp [Guarded]
  cases place : s.calls t with
  | idle => exact absurd (by rw [place]; trivial) open'
  | reading c => exact absurd (by rw [place]; trivial) open'
  | disconnecting => exact absurd (by rw [place]; trivial) open'
  | sending c =>
    exact sound.dropped (c := c) (by rw [place]; simp [NodeCall.holds])
  | sendingPipeline c commands =>
    exact sound.dropped (c := c) (by rw [place]; simp [NodeCall.holds])
  | readingPipeline c others =>
    have escapes : ¬e.isinstance .exception = true := by
      intro caught
      apply open'
      rw [place]
      intro other same
      cases same
      exact caught
    rw [NodeTasks.resume, if_neg escapes]
    exact sound.dropped (c := c) (by rw [place]; simp [NodeCall.holds])
  | sendingAuth c tmpQueue =>
    exact sound.dropped (c := c) (by rw [place]; simp [NodeCall.holds])
  | readingAuth c tmpQueue =>
    exact sound.dropped (c := c) (by rw [place]; simp [NodeCall.holds])

/-- A careless step loses a connection. -/
theorem Sound.careless (sound : Sound s) {step : T × NodeAction} (careless : ¬s.Careful step) :
    ¬Conserved (s.act step) := by
  obtain ⟨t, action⟩ := step
  cases action with
  | resume raised => exact sound.lost careless
  | executeCommand construct pack =>
    simp only [Careful, not_forall] at careless
    obtain ⟨idle, obtains, failed⟩ := careless
    obtain ⟨e, rfl⟩ := Option.ne_none_iff_exists'.mp failed
    have lost := sound.wasted (t := t) e .sending obtains
    simpa only [NodeTasks.act, NodeTasks.call, if_pos idle] using lost
  | executePipeline commands construct pack =>
    simp only [Careful, not_forall] at careless
    obtain ⟨idle, obtains, failed⟩ := careless
    obtain ⟨e, rfl⟩ := Option.ne_none_iff_exists'.mp failed
    have lost := sound.wasted (t := t) e (fun c => .sendingPipeline c commands) obtains
    simpa only [NodeTasks.act, NodeTasks.call, if_pos idle] using lost
  | reAuthCallback => exact absurd trivial careless
  | disconnect => exact absurd trivial careless

end Steps

omit [DecidableEq T] in
/-- A node without connections. -/
theorem sound_start (maxConnections : Nat) : Sound (start (T := T) maxConnections) where
  conserves := ⟨List.nodup_nil, fun _ => List.nodup_nil, fun _ _ _ held => absurd held List.not_mem_nil,
    fun r => by simp [start, NodeCall.holds]⟩
  numbered := rfl
  bounded := Nat.zero_le _

/-- In a run of any number of tasks the connections are conserved all along exactly when every step
is careful. -/
theorem always_conserved_iff (maxConnections : Nat) (steps : List (T × NodeAction)) :
    Always act Conserved (start maxConnections) steps ↔
      Each act Careful (start maxConnections) steps :=
  always_iff_each Sound (fun _ _ sound careful => sound.act careful)
    (fun _ sound => sound.conserved) (fun _ _ sound careless => sound.careless careless)
    (sound_start maxConnections)

/-- A command whose sending fails takes its connection with it. -/
theorem failed_send_not_conserved :
    ¬Always act Conserved (start (T := Unit) 1)
      [((), .executeCommand none none), ((), .resume (some { cls := .connectionError }))] := by
  intro always
  have conserved := always _ [] (List.append_nil _).symm
  have quiet := conserved.back fun _ => rfl
  have lost : ([] : List Nat).Perm [0] := quiet
  exact absurd lost.length_eq (by decide)

end NodeTasks

end RedisPy
