import RedisPy.Asyncio.ClusterPipeline
import RedisPy.Cluster.Repeats
import RedisPy.Lib.Runs

/-!
# An asyncio cluster pipeline and the commands that succeeded

A command whose success reply was read is sent again only after it was taken up again: because its
result looks like none or like an error when another attempt begins, because a response callback
made a redirection of its reply, or because a task of an earlier attempt was still running. In all
other runs each success reply is read once, and it is what the call returns.
-/

namespace RedisPy

open Runs

variable {F : Type}

/-! ## Pending commands -/

namespace NodeTask

/-- The commands whose replies are to be read by some tasks. -/
def allPending (tasks : List NodeTask) : List Nat := tasks.flatMap pending

/-- No task has anything to do. -/
def Quiet (tasks : List NodeTask) : Prop := allPending tasks = []

/-- A task that goes on has no more commands than before. -/
theorem allPending_set_sublist {tasks : List NodeTask} {i : Nat} {old task : NodeTask}
    (found : tasks[i]? = some old) (fewer : task.pending.Sublist old.pending) :
    (allPending (tasks.set i task)).Sublist (allPending tasks) := by
  induction tasks generalizing i with
  | nil => cases found
  | cons head tasks ih =>
    cases i with
    | zero =>
      cases found
      exact fewer.append (List.Sublist.refl _)
    | succ i => exact (List.Sublist.refl _).append (ih found)

/-- Nor have the first tasks. -/
theorem allPending_take_sublist {tasks : List NodeTask} {i : Nat} {old task : NodeTask}
    (found : tasks[i]? = some old) (fewer : task.pending.Sublist old.pending) (k : Nat) :
    (allPending ((tasks.set i task).take k)).Sublist (allPending (tasks.take k)) := by
  rw [List.take_set]
  by_cases inside : i < k
  · exact allPending_set_sublist (by rw [List.getElem?_take_of_lt inside, found]) fewer
  · rw [List.set_eq_of_length_le]
    have short := List.length_take_le k tasks
    omega

/-- A task that read a reply has one command less than before. -/
theorem allPending_set_perm {tasks : List NodeTask} {i p : Nat} {old task : NodeTask}
    (found : tasks[i]? = some old) (fewer : old.pending = p :: task.pending) :
    (allPending tasks).Perm (p :: allPending (tasks.set i task)) := by
  induction tasks generalizing i with
  | nil => cases found
  | cons head tasks ih =>
    cases i with
    | zero =>
      cases found
      show (old.pending ++ allPending tasks).Perm (p :: (task.pending ++ allPending tasks))
      rw [fewer, List.cons_append]
    | succ i =>
      have rest := ih found
      show (head.pending ++ allPending tasks).Perm
        (p :: (head.pending ++ allPending (tasks.set i task)))
      exact (rest.append_left head.pending).trans List.perm_middle

/-- The commands of a task are among those of all tasks. -/
theorem pending_subset {tasks : List NodeTask} {i : Nat} {task : NodeTask}
    (found : tasks[i]? = some task) : ∀ p ∈ task.pending, p ∈ allPending tasks :=
  fun _ member => List.mem_flatMap.mpr ⟨task, List.mem_of_getElem? found, member⟩

/-- The tasks of two lists. -/
theorem allPending_append (tasks others : List NodeTask) :
    allPending (tasks ++ others) = allPending tasks ++ allPending others :=
  List.flatMap_append

/-- Tasks that returned have nothing to do. -/
theorem quiet_of_returned {tasks : List NodeTask} (returned : tasks.all isReturned = true) :
    Quiet tasks := by
  refine List.flatMap_eq_nil_iff.mpr fun task member => ?_
  have one := List.all_eq_true.mp returned task member
  cases task with
  | returned ret => rfl
  | _ => cases one

/-- The commands of tasks that were just created. -/
theorem allPending_created (nodes : List (Text × List Nat)) :
    allPending (nodes.map fun node => .created node.2) = nodes.flatMap (·.2) :=
  List.flatMap_map ..

/-- The next commands of a task. -/
theorem pending_next (left : List Nat) (ret : Bool) : (next left ret).pending = left := by
  unfold next
  cases left with
  | nil => rfl
  | cons p left => rfl

end NodeTask

namespace TaskPipeline

open NodeTask

/-- One more command under its node. -/
theorem place_perm (name : Text) (p : Nat) (nodes : List (Text × List Nat)) :
    ((place name p nodes).flatMap (·.2)).Perm (p :: nodes.flatMap (·.2)) := by
  induction nodes with
  | nil => exact List.Perm.refl _
  | cons node nodes ih =>
    unfold place
    by_cases same : node.1 = name
    · rw [if_pos same]
      show (node.2 ++ [p] ++ nodes.flatMap (·.2)).Perm (p :: (node.2 ++ nodes.flatMap (·.2)))
      rw [List.append_assoc]
      exact List.perm_middle
    · rw [if_neg same]
      show (node.2 ++ (place name p nodes).flatMap (·.2)).Perm
        (p :: (node.2 ++ nodes.flatMap (·.2)))
      exact (ih.append_left node.2).trans List.perm_middle

/-! ## The condition -/

/-- The results that are returned are the success replies that were read. -/
def Returns (events : List (PipelineEvent F)) (values : List (PyVal F)) : Prop :=
  ∀ p value, .replied p value ∈ events → values[p]? = some value

/-- No command is sent after its success reply was read, and that reply is what is returned. -/
structure RepeatsNothing (s : TaskPipeline F) : Prop where
  /-- Not sent again. -/
  unrepeated : Unrepeated s.events
  /-- Returned. -/
  returns : ∀ values, s.phase = .ended (.ok values) → Returns s.events values

/-- Another attempt begins when no task is left and every success reply is truthy and no exception,
and commands are run by themselves when no success reply became a redirection. -/
def Careful [PyFloat F] (s : TaskPipeline F) : ExecuteAction F → Prop
  | .attempt none =>
    s.phase = .starting →
      Quiet s.tasks ∧ ∀ p value, .replied p value ∈ s.events → value.isDue = false
  | .gathered =>
    s.phase = .gathering → s.allowRedirections = true →
      ∀ p value, .replied p value ∈ s.events → value.isRedirected = false
  | _ => True

/-! ## The invariant -/

/-- A command that may be sent: it is in the stack, and its success reply was not read. -/
def Sendable (count : Nat) (events : List (PipelineEvent F)) (p : Nat) : Prop :=
  p < count ∧ Unanswered events p

/-- What holds wherever the call is suspended. -/
structure Books (count : Nat) (results : Nat → PyVal F) (todo : List Nat) (tasks : List NodeTask)
    (events : List (PipelineEvent F)) : Prop where
  /-- No command was sent after its success reply was read. -/
  unrepeated : Unrepeated events
  /-- Each success reply is a result. -/
  stored : ∀ p value, .replied p value ∈ events → p < count ∧ results p = value
  /-- No command is to do twice. -/
  todo_nodup : todo.Nodup
  /-- The commands to do are in the stack. -/
  todo_lt : ∀ p ∈ todo, p < count
  /-- No command is pending twice. -/
  pending_nodup : (allPending tasks).Nodup
  /-- The pending commands may be sent. -/
  pending_sendable : ∀ p ∈ allPending tasks, Sendable count events p

/-- What holds where the call is suspended. -/
def Stands (s : TaskPipeline F) : Prop :=
  match s.phase with
  | .routing left nodes =>
    Quiet s.tasks ∧ (left ++ nodes.flatMap (·.2)).Nodup ∧
      ∀ p ∈ left ++ nodes.flatMap (·.2), Sendable s.commands.length s.events p
  | .gathering => Quiet (s.tasks.take s.first)
  | .rerunning p left =>
    Quiet s.tasks ∧ (p :: left).Nodup ∧ Sendable s.commands.length s.events p ∧
      ∀ q ∈ left, q < s.commands.length ∧
        ((s.results q).isRedirected = true → Unanswered s.events q)
  | .ended (.ok values) => Quiet s.tasks ∧ values = s.values
  | _ => True

/-- The invariant. -/
structure Sound (s : TaskPipeline F) : Prop where
  /-- The books. -/
  books : Books s.commands.length s.results s.todo s.tasks s.events
  /-- The place. -/
  stands : s.Stands

/-- A sound call repeats nothing. -/
theorem Sound.repeatsNothing {s : TaskPipeline F} (sound : s.Sound) : s.RepeatsNothing := by
  refine { unrepeated := sound.books.unrepeated, returns := fun values ended p value replied => ?_ }
  have stands := sound.stands
  unfold Stands at stands
  rw [ended] at stands
  obtain ⟨inStack, result⟩ := sound.books.stored p value replied
  rw [stands.2, TaskPipeline.values, List.getElem?_map, List.getElem?_range inStack]
  exact congrArg some result

/-- A call that begins is sound. -/
theorem sound_call (commands : List (Command F)) (raiseOnError allowRedirections : Bool)
    (clusterErrorRetryAttempts : Nat) :
    (call commands raiseOnError allowRedirections clusterErrorRetryAttempts).Sound := by
  refine { books := ?_, stands := ?_ }
  · exact {
      unrepeated := List.Pairwise.nil
      stored := fun _ _ member => absurd member List.not_mem_nil
      todo_nodup := List.nodup_nil
      todo_lt := fun _ member => absurd member List.not_mem_nil
      pending_nodup := List.nodup_nil
      pending_sendable := fun _ member => absurd member List.not_mem_nil }
  · cases commands with
    | nil => exact ⟨rfl, rfl⟩
    | cons command commands => trivial

/-! ## The end of an attempt -/

/-- An attempt that fails. -/
theorem Sound.fail {s : TaskPipeline F}
    (books : Books s.commands.length s.results s.todo s.tasks s.events) (e : Exc) :
    (s.fail e).Sound := by
  unfold TaskPipeline.fail
  by_cases again : (e.isinstanceAny clusterErrorsAllowRetry && s.retryAttempts > 0) = true
  · rw [if_pos again]
    exact ⟨books, trivial⟩
  · rw [if_neg again]
    exact ⟨books, trivial⟩

/-- An attempt that ends when all tasks have. -/
theorem Sound.finish {s : TaskPipeline F}
    (books : Books s.commands.length s.results s.todo s.tasks s.events) (quiet : Quiet s.tasks) :
    s.finish.Sound := by
  unfold TaskPipeline.finish
  cases if s.raiseOnError then s.todo.findSome? fun p => (s.results p).exception else none with
  | some e => exact Sound.fail books e
  | none => exact ⟨books, quiet, rfl⟩

/-- The loop in which redirected commands are run by themselves. -/
theorem Sound.rerunFrom {s : TaskPipeline F}
    (books : Books s.commands.length s.results s.todo s.tasks s.events) (quiet : Quiet s.tasks)
    {left : List Nat} (nodup : left.Nodup)
    (unanswered : ∀ q ∈ left, q < s.commands.length ∧
      ((s.results q).isRedirected = true → Unanswered s.events q)) :
    (s.rerunFrom left).Sound := by
  induction left with
  | nil => exact Sound.finish books quiet
  | cons p left ih =>
    obtain ⟨first, rest⟩ := List.forall_mem_cons.mp unanswered
    unfold TaskPipeline.rerunFrom
    by_cases redirected : (s.results p).isRedirected = true
    · rw [if_pos redirected]
      exact ⟨books, quiet, nodup, ⟨first.1, first.2 redirected⟩, rest⟩
    · rw [if_neg redirected]
      exact ih nodup.of_cons rest

/-- The tasks are gathered. -/
theorem Sound.gathered [PyFloat F] {s : TaskPipeline F} (sound : s.Sound)
    (careful : s.Careful .gathered) : s.gathered.Sound := by
  have stands := sound.stands
  unfold TaskPipeline.gathered
  unfold Stands at stands
  split
  next phase =>
    rw [phase] at stands
    split
    next e failed => exact Sound.fail sound.books e
    next =>
      by_cases returned : (s.tasks.drop s.first).all isReturned = true
      · have quiet : Quiet s.tasks := by
          have all := allPending_append (s.tasks.take s.first) (s.tasks.drop s.first)
          rw [List.take_append_drop, stands, quiet_of_returned returned] at all
          exact all
        have unanswered (allowed : s.allowRedirections = true) (q : Nat) (member : q ∈ s.todo) :
            q < s.commands.length ∧
              ((s.results q).isRedirected = true → Unanswered s.events q) := by
          refine ⟨sound.books.todo_lt q member, fun redirected value replied => ?_⟩
          have none := careful phase allowed q value replied
          rw [← (sound.books.stored q value replied).2, redirected] at none
          cases none
        simp only [if_pos returned]
        split
        · split
          next allowed =>
            exact Sound.rerunFrom sound.books quiet sound.books.todo_nodup (unanswered allowed)
          next => exact Sound.finish sound.books quiet
        · exact ⟨sound.books, quiet, rfl⟩
      · simp only [if_neg returned]
        exact sound
  next => exact sound

/-- A command was run by itself. -/
theorem Sound.rerun {s : TaskPipeline F} (sound : s.Sound) (outcome : Except Exc (PyVal F)) :
    (s.rerun outcome).Sound := by
  have stands := sound.stands
  have books := sound.books
  unfold TaskPipeline.rerun
  unfold Stands at stands
  split
  next p left phase =>
    rw [phase] at stands
    obtain ⟨quiet, nodup, ⟨inStack, unanswered⟩, rest⟩ := stands
    obtain ⟨notLeft, nodup⟩ := List.nodup_cons.mp nodup
    have same (value : PyVal F) (q : Nat) (other : q ≠ p) :
        Function.update s.results p value q = s.results q := by
      rw [Function.update_of_ne other]
    have kept (value : PyVal F) (q : Nat) (found : PyVal F) (replied : .replied q found ∈ s.events) :
        q < s.commands.length ∧ Function.update s.results p value q = found := by
      have other : q ≠ p := fun same => unanswered found (same ▸ replied)
      rw [same value q other]
      exact books.stored q found replied
    have left_ne (q : Nat) (member : q ∈ left) : q ≠ p := fun same => notLeft (same ▸ member)
    cases outcome with
    | ok value =>
      have answered : Books s.commands.length (Function.update s.results p value) s.todo s.tasks
          (s.events ++ [.replied p value]) := by
        refine { books with unrepeated := ?_, stored := ?_, pending_sendable := ?_ }
        · exact books.unrepeated.append_replied p value
        · intro q found replied
          rcases List.mem_append.mp replied with old | new
          · exact kept value q found old
          · have this : (PipelineEvent.replied q found : PipelineEvent F) = .replied p value :=
              List.mem_singleton.mp new
            cases this
            exact ⟨inStack, Function.update_self ..⟩
        · intro q member
          rw [show allPending s.tasks = [] from quiet] at member
          cases member
      refine Sound.rerunFrom (s := (s.setResult p value).record [.replied p value]) answered quiet
        nodup fun q member => ?_
      have other := left_ne q member
      refine ⟨(rest q member).1, fun redirected => ?_⟩
      have before : (s.results q).isRedirected = true := by
        rw [← same value q other]
        exact redirected
      exact unanswered_append_replied other ((rest q member).2 before)
    | error e =>
      show Sound (if e.isinstance .exception then _ else _)
      by_cases caught : e.isinstance .exception = true
      · rw [if_pos caught]
        have failed : Books s.commands.length (Function.update s.results p (.exc e)) s.todo s.tasks
            s.events := { books with stored := kept (.exc e) }
        refine Sound.rerunFrom (s := s.setResult p (.exc e)) failed quiet nodup fun q member => ?_
        refine ⟨(rest q member).1, fun redirected => (rest q member).2 ?_⟩
        rw [← same (.exc e) q (left_ne q member)]
        exact redirected
      · rw [if_neg caught]
        exact ⟨books, trivial⟩
  next => exact sound

/-- A command that is run by itself is sent. -/
theorem Sound.resend {s : TaskPipeline F} (sound : s.Sound) : s.resend.Sound := by
  have stands := sound.stands
  have books := sound.books
  unfold TaskPipeline.resend
  unfold Stands at stands
  split
  next p left phase =>
    rw [phase] at stands
    obtain ⟨quiet, nodup, ⟨inStack, unanswered⟩, rest⟩ := stands
    have still (q : Nat) : Unanswered (s.events ++ [.sent p]) q ↔ Unanswered s.events q :=
      unanswered_append_sent [p]
    refine ⟨{ books with unrepeated := ?_, stored := ?_, pending_sendable := ?_ }, ?_⟩
    · exact books.unrepeated.append_sent [p] fun q member =>
        List.mem_singleton.mp member ▸ unanswered
    · intro q found replied
      rcases List.mem_append.mp replied with old | new
      · exact books.stored q found old
      · cases List.mem_singleton.mp new
    · intro q member
      have one := books.pending_sendable q member
      exact ⟨one.1, (still q).mpr one.2⟩
    · show Stands { s with events := s.events ++ [.sent p] }
      unfold Stands
      rw [phase]
      refine ⟨quiet, nodup, ⟨inStack, (still p).mpr unanswered⟩, fun q member => ?_⟩
      exact ⟨(rest q member).1, fun redirected => (still q).mpr ((rest q member).2 redirected)⟩
  next => exact sound

/-- The client was closed. -/
theorem Sound.closed {s : TaskPipeline F} (sound : s.Sound) (failure : Option Exc) :
    (s.closed failure).Sound := by
  unfold TaskPipeline.closed
  split
  · cases failure with
    | some e => exact ⟨sound.books, trivial⟩
    | none => exact ⟨sound.books, trivial⟩
  · exact sound

/-! ## The beginning of an attempt -/

/-- The loop in which the nodes are determined. -/
theorem Sound.routeFrom {s : TaskPipeline F}
    (books : Books s.commands.length s.results s.todo s.tasks s.events) (quiet : Quiet s.tasks)
    {left : List Nat} {nodes : List (Text × List Nat)}
    (nodup : (left ++ nodes.flatMap (·.2)).Nodup)
    (sendable : ∀ p ∈ left ++ nodes.flatMap (·.2), Sendable s.commands.length s.events p) :
    (s.routeFrom left nodes).Sound := by
  unfold TaskPipeline.routeFrom
  cases left with
  | cons p left => exact ⟨books, quiet, nodup, sendable⟩
  | nil =>
    have pending : allPending (s.tasks ++ nodes.map fun node => .created node.2) =
        nodes.flatMap (·.2) := by
      rw [allPending_append, allPending_created, quiet, List.nil_append]
    refine ⟨{ books with pending_nodup := ?_, pending_sendable := ?_ }, ?_⟩
    · show (allPending (s.tasks ++ nodes.map fun node => .created node.2)).Nodup
      rw [pending]
      exact nodup
    · show ∀ p ∈ allPending (s.tasks ++ nodes.map fun node => .created node.2), _
      rw [pending]
      exact sendable
    · show Quiet ((s.tasks ++ nodes.map fun node => NodeTask.created node.2).take s.tasks.length)
      rw [List.take_left]
      exact quiet

/-- The nodes of a command were determined. -/
theorem Sound.route {s : TaskPipeline F} (sound : s.Sound) (target : Except Exc (List Text)) :
    (s.route target).Sound := by
  have stands := sound.stands
  have books := sound.books
  unfold TaskPipeline.route
  unfold Stands at stands
  split
  next p left nodes phase =>
    rw [phase] at stands
    obtain ⟨quiet, nodup, sendable⟩ := stands
    split
    next name =>
      have moved : (left ++ (place name p nodes).flatMap (·.2)).Perm
          (p :: left ++ nodes.flatMap (·.2)) :=
        ((place_perm name p nodes).append_left left).trans List.perm_middle
      refine Sound.routeFrom books quiet (moved.nodup_iff.mpr nodup) fun q member => ?_
      exact sendable q (moved.mem_iff.mp member)
    next => exact Sound.fail books _
    next e => exact Sound.fail books e
  next => exact sound

/-- An attempt begins. -/
theorem Sound.attempt [PyFloat F] {s : TaskPipeline F} (sound : s.Sound) (failure : Option Exc)
    (careful : s.Careful (.attempt failure)) : (s.attempt failure).Sound := by
  have books := sound.books
  unfold TaskPipeline.attempt
  split
  next phase =>
    cases failure with
    | some e => exact Sound.fail books e
    | none =>
      obtain ⟨quiet, done⟩ := careful phase
      let todo := (List.range s.commands.length).filter fun p => (s.results p).isDue
      have nodup : todo.Nodup := List.nodup_range.filter _
      have inStack (p : Nat) (member : p ∈ todo) : p < s.commands.length :=
        List.mem_range.mp (List.mem_of_mem_filter member)
      have begun : Books s.commands.length s.results todo s.tasks s.events :=
        { books with todo_nodup := nodup, todo_lt := inStack }
      refine Sound.routeFrom (s := { s with todo }) begun quiet ?_ ?_
      · rw [List.flatMap_nil, List.append_nil]
        exact nodup
      · intro p member
        rw [List.flatMap_nil, List.append_nil] at member
        refine ⟨inStack p member, fun value replied => ?_⟩
        have due := (List.mem_filter.mp member).2
        rw [(books.stored p value replied).2, done p value replied] at due
        cases due
  next => exact sound

/-! ## `execute_pipeline` -/

/-- Fewer pending commands leave the call where it is. -/
theorem Stands.fewer {s t : TaskPipeline F} (stands : s.Stands) (phase : t.phase = s.phase)
    (commands : t.commands = s.commands) (first : t.first = s.first)
    (fewer : ∀ k, (allPending (t.tasks.take k)).Sublist (allPending (s.tasks.take k)))
    (all : (allPending t.tasks).Sublist (allPending s.tasks))
    (results : Quiet s.tasks → t.results = s.results)
    (answers : Quiet s.tasks → ∀ p, Unanswered s.events p → Unanswered t.events p) : t.Stands := by
  have quiet (none : Quiet s.tasks) : Quiet t.tasks := List.sublist_nil.mp (none ▸ all)
  unfold Stands at stands ⊢
  rw [phase]
  split
  next left nodes same =>
    rw [same] at stands
    obtain ⟨none, nodup, sendable⟩ := stands
    rw [commands]
    exact ⟨quiet none, nodup, fun p member =>
      ⟨(sendable p member).1, answers none p (sendable p member).2⟩⟩
  next same =>
    rw [same] at stands
    rw [first]
    exact List.sublist_nil.mp (stands ▸ fewer s.first)
  next p left same =>
    rw [same] at stands
    obtain ⟨none, nodup, sendable, rest⟩ := stands
    rw [commands, results none]
    exact ⟨quiet none, nodup, ⟨sendable.1, answers none p sendable.2⟩, fun q member =>
      ⟨(rest q member).1, fun redirected => answers none q ((rest q member).2 redirected)⟩⟩
  next values same =>
    rw [same] at stands
    refine ⟨quiet stands.1, ?_⟩
    rw [stands.2, TaskPipeline.values, TaskPipeline.values, commands, results stands.1]
  next => trivial

/-- A task may send what it has pending, and goes on. -/
theorem Sound.setTask {s : TaskPipeline F} (sound : s.Sound) {i : Nat} {old : NodeTask}
    (found : s.tasks[i]? = some old) (task : NodeTask)
    (fewer : task.pending.Sublist old.pending)
    (positions : List Nat) (among : ∀ p ∈ positions, p ∈ old.pending) (failure : Option Exc) :
    Sound { s.setTask i task with failure, events := s.events ++ positions.map .sent } := by
  have books := sound.books
  have all := allPending_set_sublist found fewer
  have front := allPending_take_sublist found fewer
  have sendable (p : Nat) (member : p ∈ positions) : Sendable s.commands.length s.events p :=
    books.pending_sendable p (pending_subset found p (among p member))
  refine ⟨{ books with unrepeated := ?_, stored := ?_, pending_nodup := ?_, pending_sendable := ?_ },
    ?_⟩
  · exact books.unrepeated.append_sent positions fun p member => (sendable p member).2
  · intro p value replied
    rcases List.mem_append.mp replied with before | new
    · exact books.stored p value before
    · simp at new
  · exact all.nodup books.pending_nodup
  · intro p member
    have before := books.pending_sendable p (all.subset member)
    exact ⟨before.1, (unanswered_append_sent positions).mpr before.2⟩
  · refine sound.stands.fewer rfl rfl rfl front all (fun _ => rfl) fun _ p unanswered => ?_
    exact (unanswered_append_sent positions).mpr unanswered

/-- The commands of a task are written. -/
theorem Sound.write {s : TaskPipeline F} (sound : s.Sound) (i : Nat)
    (failure : Option SendFailure) : (s.write i failure).Sound := by
  unfold TaskPipeline.write
  split
  next commands found =>
    cases failure with
    | none =>
      exact sound.setTask found (.reading commands false) (List.Sublist.refl _) commands
        (fun _ member => member) s.failure
    | some failure =>
      have raised (positions : List Nat) (among : ∀ p ∈ positions, p ∈ commands) :
          ((s.raiseIn i failure.error).record (positions.map .sent)).Sound :=
        sound.setTask found .raised (List.nil_sublist _) positions among _
      show ((s.raiseIn i failure.error).record _).Sound
      cases failure.wrote with
      | true => exact raised commands fun _ member => member
      | false => exact raised [] fun _ member => absurd member List.not_mem_nil
  next => exact sound

/-- A task stores the result of the command that it reads. -/
theorem Sound.store {s : TaskPipeline F} (sound : s.Sound) {i p : Nat} {left : List Nat}
    {ret : Bool} (found : s.tasks[i]? = some (.reading (p :: left) ret)) {task : NodeTask}
    (rest : task.pending = left) (value : PyVal F) (reply : Except Exc (PyVal F)) :
    (((s.setResult p value).setTask i task).record (answers p value reply)).Sound := by
  have books := sound.books
  have moved : (allPending s.tasks).Perm (p :: allPending (s.tasks.set i task)) :=
    allPending_set_perm found (by rw [rest]; rfl)
  have nodup : (p :: allPending (s.tasks.set i task)).Nodup :=
    moved.nodup_iff.mp books.pending_nodup
  have sendable : Sendable s.commands.length s.events p :=
    books.pending_sendable p (moved.mem_iff.mpr List.mem_cons_self)
  have busy : ¬Quiet s.tasks := by
    intro quiet
    rw [show allPending s.tasks = [] from quiet] at moved
    exact List.cons_ne_nil _ _ moved.symm.eq_nil
  have kept (q : Nat) (earlier : PyVal F) (replied : .replied q earlier ∈ s.events) :
      q < s.commands.length ∧ Function.update s.results p value q = earlier := by
    have other : q ≠ p := fun same => sendable.2 earlier (same ▸ replied)
    rw [Function.update_of_ne other]
    exact books.stored q earlier replied
  have fewer : task.pending.Sublist (p :: left) := by
    rw [rest]
    exact List.sublist_cons_self p left
  have answered (q : Nat) (unanswered : Unanswered s.events q) (other : q ≠ p) :
      Unanswered (s.events ++ answers p value reply) q := by
    unfold answers
    cases reply.isOk with
    | true => exact unanswered_append_replied other unanswered
    | false => simpa using unanswered
  refine ⟨{ books with unrepeated := ?_, stored := ?_, pending_nodup := ?_, pending_sendable := ?_ },
    ?_⟩
  · show Unrepeated (s.events ++ answers p value reply)
    unfold answers
    cases reply.isOk with
    | true => exact books.unrepeated.append_replied p value
    | false => simpa using books.unrepeated
  · intro q found replied
    rcases List.mem_append.mp replied with old | new
    · exact kept q found old
    · unfold answers at new
      split at new
      · have this : (PipelineEvent.replied q found : PipelineEvent F) = .replied p value :=
          List.mem_singleton.mp new
        cases this
        exact ⟨sendable.1, Function.update_self ..⟩
      · cases new
  · exact nodup.of_cons
  · intro q member
    have before := books.pending_sendable q (moved.mem_iff.mpr (List.mem_cons_of_mem p member))
    have other : q ≠ p := fun same => (List.nodup_cons.mp nodup).1 (same ▸ member)
    exact ⟨before.1, answered q before.2 other⟩
  · exact sound.stands.fewer rfl rfl rfl (allPending_take_sublist found fewer)
      (allPending_set_sublist found fewer) (fun quiet => absurd quiet busy)
      fun quiet => absurd quiet busy

/-- The reply of a command is read. -/
theorem Sound.read {s : TaskPipeline F} (sound : s.Sound) (config : ClientConfig F) (i : Nat)
    (reply : Except Exc (PyVal F)) : (s.read config i reply).Sound := by
  unfold TaskPipeline.read
  split
  next p left ret found =>
    split
    next => exact sound
    next command _ =>
      cases parseReply config command reply with
      | ok value => exact sound.store found (pending_next left ret) value reply
      | error e =>
        show Sound (if e.isinstance .exception then _ else _)
        by_cases caught : e.isinstance .exception = true
        · rw [if_pos caught]
          exact sound.store found (pending_next left true) (.exc e) reply
        · rw [if_neg caught]
          have raised := sound.setTask found .raised (List.nil_sublist _) []
            (fun _ member => absurd member List.not_mem_nil)
            (if s.first ≤ i && s.failure.isNone then some e else s.failure)
          rw [List.map_nil, List.append_nil] at raised
          exact raised
  next => exact sound

/-! ## Runs -/

/-- Every step of which the condition holds keeps the invariant. -/
theorem Sound.step [PyFloat F] (config : ClientConfig F) (s : TaskPipeline F)
    (action : ExecuteAction F) (sound : s.Sound) (careful : s.Careful action) :
    (s.step config action).Sound := by
  cases action with
  | attempt failure => exact sound.attempt failure careful
  | route target => exact sound.route target
  | write i failure => exact sound.write i failure
  | read i reply => exact sound.read config i reply
  | gathered => exact sound.gathered careful
  | resend => exact sound.resend
  | rerun outcome => exact sound.rerun outcome
  | closed failure => exact sound.closed failure

/-- A call of `execute` sends no command again whose success reply was read, and returns that reply,
as long as another attempt begins only when no task is left and every success reply is truthy and
no exception, and commands are run by themselves only when no success reply became a
redirection. -/
theorem run_repeatsNothing [PyFloat F] (config : ClientConfig F) (commands : List (Command F))
    (raiseOnError allowRedirections : Bool) (clusterErrorRetryAttempts : Nat)
    (actions : List (ExecuteAction F))
    (careful : Each (step config) Careful
      (call commands raiseOnError allowRedirections clusterErrorRetryAttempts) actions) :
    Always (step config) RepeatsNothing
      (call commands raiseOnError allowRedirections clusterErrorRetryAttempts) actions := by
  intro earlier later split
  have start := sound_call commands raiseOnError allowRedirections clusterErrorRetryAttempts
  have front : Each (step config) Careful
      (call commands raiseOnError allowRedirections clusterErrorRetryAttempts) earlier := by
    intro before action after same
    refine careful before action (after ++ later) ?_
    rw [split, same, List.append_assoc, List.cons_append]
  have sound := inv_of_each Sound (Sound.step config) start front
  exact sound.repeatsNothing

section Scenario

/-- What holds of the results of all success replies, by looking at each. -/
theorem forall_replied_of_all {events : List (PipelineEvent F)} {P : PyVal F → Bool}
    (all : events.all (fun | .replied _ value => !P value | _ => true) = true) :
    ∀ p value, .replied p value ∈ events → P value = false := by
  intro p value replied
  have one := List.all_eq_true.mp all _ replied
  simpa using one

/-- Two counters in slots of two nodes. -/
def counters : List (Command Empty) := [.plain "DECR" ["a".toList], .plain "INCR" ["b".toList]]

/-- The second node is down when the first attempt reaches it. -/
def halfDown (first : PyVal Empty) : List (ExecuteAction Empty) :=
  [.attempt none, .route (.ok ["10.0.0.1:6379".toList]), .route (.ok ["10.0.0.2:6379".toList]),
    .write 0 none, .write 1 none, .read 0 (.ok first), .read 1 (.error { cls := .clusterDownError }),
    .gathered, .closed none, .attempt none]

/-- A counter that is decremented to one is left alone while the other command is tried again. -/
theorem run_repeatsNothing_one : Always (step (plainConfig fun _ => none)) RepeatsNothing
    (call counters true true 3)
    (halfDown (.int 1) ++ [.route (.ok ["10.0.0.2:6379".toList]), .write 2 none,
      .read 2 (.ok (.int 1)), .gathered]) := by
  refine run_repeatsNothing _ counters true true 3 _ ?_
  have skip {s : TaskPipeline Empty} {action : ExecuteAction Empty}
      {actions : List (ExecuteAction Empty)} (free : s.Careful action)
      (rest : Each (step (plainConfig fun _ => none)) Careful
        (s.step (plainConfig fun _ => none) action) actions) :
      Each (step (plainConfig fun _ => none)) Careful s (action :: actions) :=
    each_cons.mpr ⟨free, rest⟩
  refine skip (fun _ => ⟨rfl, forall_replied_of_all rfl⟩) (skip trivial (skip trivial (skip trivial ?_)))
  refine skip trivial (skip trivial (skip trivial (skip (fun _ _ => forall_replied_of_all rfl) ?_)))
  refine skip trivial (skip (fun _ => ⟨rfl, forall_replied_of_all rfl⟩) ?_)
  refine skip trivial (skip trivial (skip trivial (skip (fun _ _ => forall_replied_of_all ?_) each_nil)))
  decide +kernel

/-- The first counter becomes zero, and the other command fails. -/
def decrementedToZero : List (ExecuteAction Empty) :=
  halfDown (.int 0) ++ [.route (.ok ["10.0.0.1:6379".toList]),
    .route (.ok ["10.0.0.2:6379".toList]), .write 2 none]

/-- A counter that is decremented to zero is decremented again when the other command fails. -/
theorem zero_reply_sent_again : ¬Always (step (plainConfig fun _ => none)) RepeatsNothing
    (call counters true true 3) decrementedToZero := by
  intro always
  have good := always decrementedToZero [] (List.append_nil _).symm
  have unrepeated := good.unrepeated
  have events : (decrementedToZero.foldl (step (plainConfig fun _ => none))
      (call counters true true 3)).events =
      [.sent 0, .sent 1, .replied 0 (.int 0)] ++ [.sent 0] := rfl
  rw [events] at unrepeated
  have apart := (List.pairwise_append.mp unrepeated).2.2
  exact apart (.replied 0 (.int 0)) (by simp) (.sent 0) (by simp) 0 (.int 0) rfl rfl

end Scenario

end TaskPipeline

end RedisPy
