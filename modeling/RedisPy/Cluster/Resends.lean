import Mathlib.Data.List.Nodup
import RedisPy.Cluster.Repeats
import RedisPy.Lib.Holes

/-!
# A call of a cluster pipeline that repeats nothing

After the exchange an attempt runs the commands that failed one by one and hands all results to
the cluster callbacks. A call makes attempts until one returns or ends in an error after which no
other one is made. When no attempt drops a success reply, and no attempt with a success reply is
followed by another one, no command is sent after its success reply was read, and what the call
returns are these replies.
-/

namespace RedisPy

open Contract

variable {F : Type}

namespace Sending

open NodeCommands

/-! ## Results that are replaced -/

/-- A new result changes no other command. -/
theorem setResult_commands (p : Nat) (value : PyVal F) (s : Sending F) :
    (setResult p value s).nodes.flatMap (·.commands) =
      (s.nodes.flatMap (·.commands)).map fun c =>
        if c.position = p then { c with result := value } else c := by
  unfold setResult
  rw [List.flatMap_map, List.map_flatMap]

/-- The positions are kept. -/
theorem positions_setResult (p : Nat) (value : PyVal F) (s : Sending F) :
    positions (setResult p value s).nodes = positions s.nodes := by
  unfold positions
  rw [setResult_commands, List.map_map]
  refine List.map_congr_left fun c _ => ?_
  by_cases same : c.position = p
  · simp [same]
  · simp [same]

/-- The result at a position after a new result. -/
theorem result_setResult (p q : Nat) (value : PyVal F) (s : Sending F) :
    (setResult p value s).result q =
      match (s.nodes.flatMap (·.commands)).find? (·.position = q) with
      | some c => if c.position = p then value else c.result
      | none => .none := by
  have same : (fun c : PipelineCommand F => decide (c.position = q)) ∘
      (fun c => if c.position = p then { c with result := value } else c) =
      fun c => decide (c.position = q) := by
    funext c
    by_cases own : c.position = p
    · simp [own]
    · simp [own]
  unfold result
  rw [setResult_commands, List.find?_map, same]
  cases (s.nodes.flatMap (·.commands)).find? (·.position = q) with
  | none => rfl
  | some c =>
    show (if c.position = p then { c with result := value } else c).result = _
    by_cases own : c.position = p
    · simp [own]
    · simp [own]

/-- Other results are kept. -/
theorem result_setResult_other {p q : Nat} (other : q ≠ p) (value : PyVal F) (s : Sending F) :
    (setResult p value s).result q = s.result q := by
  rw [result_setResult]
  unfold result
  cases found : (s.nodes.flatMap (·.commands)).find? (·.position = q) with
  | none => rfl
  | some c =>
    have position : c.position = q := by simpa using List.find?_some found
    simp only [position, if_neg other]

/-- The new result. -/
theorem result_setResult_self {p : Nat} {s : Sending F} (known : p ∈ positions s.nodes)
    (value : PyVal F) : (setResult p value s).result p = value := by
  rw [result_setResult]
  obtain ⟨c, inside, position⟩ := List.mem_map.mp known
  cases found : (s.nodes.flatMap (·.commands)).find? (·.position = p) with
  | none => exact absurd position (by simpa using List.find?_eq_none.mp found c inside)
  | some d =>
    have same : d.position = p := by simpa using List.find?_some found
    simp only [if_pos same]

/-! ## Commands that are run by themselves -/

section Retrying

variable {config : ClientConfig F} {env : Surroundings F} {stack : List (PipelineCommand F)}
variable {allowRedirections : Bool}

/-- Nothing was sent again, and each success reply is what becomes of its command in the end. -/
structure Accounted (config : ClientConfig F) (env : Surroundings F)
    (stack : List (PipelineCommand F)) (allowRedirections : Bool) (events : List (PipelineEvent F)) :
    Prop where
  /-- Not sent again. -/
  unrepeated : Unrepeated events
  /-- Each is an outcome. -/
  stored : ∀ p value, .replied p value ∈ events →
    ∃ c ∈ stack, c.position = p ∧ lastOutcome config env stack allowRedirections c = .ok value

/-- Some commands are still to be run by themselves. -/
structure Retrying (config : ClientConfig F) (env : Surroundings F)
    (stack : List (PipelineCommand F)) (allowRedirections : Bool) (left : List (PipelineCommand F))
    (s : Sending F) : Prop where
  /-- All commands are known. -/
  known : ∀ c ∈ stack, c.position ∈ positions s.nodes
  /-- The others have their results. -/
  settled : ∀ c ∈ stack, c.position ∉ left.map (·.position) →
    s.result c.position = kept (lastOutcome config env stack allowRedirections c)
  /-- They were not answered. -/
  unanswered : ∀ c ∈ left, Unanswered s.events c.position
  /-- The others were answered at most once. -/
  accounted : Accounted config env stack allowRedirections s.events

/-- What is kept of a command that is run by itself. -/
theorem lastOutcome_retried {c : PipelineCommand F}
    (retried : isRetried config env stack allowRedirections c = true) :
    lastOutcome config env stack allowRedirections c = (env.retry c.position).outcome :=
  if_pos retried

/-- A command is sent by itself. -/
theorem Retrying.sends {c : PipelineCommand F} {left : List (PipelineCommand F)} {s : Sending F}
    (retrying : Retrying config env stack allowRedirections (c :: left) s) (sends : Nat) :
    Retrying config env stack allowRedirections (c :: left)
      { s with events := s.events ++ List.replicate sends (.sent c.position) } := by
  have sent : (List.replicate sends (.sent c.position) : List (PipelineEvent F)) =
      (List.replicate sends c.position).map .sent := List.map_replicate.symm
  have old {p : Nat} {value : PyVal F}
      (member : .replied p value ∈ s.events ++ (List.replicate sends c.position).map .sent) :
      .replied p value ∈ s.events := by
    rcases List.mem_append.mp member with old | new
    · exact old
    · simp at new
  rw [sent]
  exact {
    known := retrying.known
    settled := retrying.settled
    unanswered := fun d member => (unanswered_append_sent _).mpr (retrying.unanswered d member)
    accounted := {
      unrepeated := by
        refine retrying.accounted.unrepeated.append_sent _ fun p member => ?_
        rw [List.eq_of_mem_replicate member]
        exact retrying.unanswered c List.mem_cons_self
      stored := fun p value member => retrying.accounted.stored p value (old member) } }

/-- A command that was run by itself has its result. -/
theorem Retrying.settles {c : PipelineCommand F} {left : List (PipelineCommand F)} {s : Sending F}
    (retrying : Retrying config env stack allowRedirections (c :: left) s) (inside : c ∈ stack)
    (distinct : (stack.map (·.position)).Nodup)
    (retried : isRetried config env stack allowRedirections c = true) {value : PyVal F}
    (result : kept (env.retry c.position).outcome = value) {d : PipelineCommand F}
    (member : d ∈ stack) (apart : d.position ∉ left.map (·.position)) :
    (setResult c.position value s).result d.position =
      kept (lastOutcome config env stack allowRedirections d) := by
  by_cases same : d.position = c.position
  · have equal : d = c := List.inj_on_of_nodup_map distinct member inside same
    rw [equal, result_setResult_self (retrying.known c inside), lastOutcome_retried retried]
    exact result.symm
  · rw [result_setResult_other same]
    refine retrying.settled d member ?_
    rw [List.map_cons, List.mem_cons]
    exact not_or.mpr ⟨same, apart⟩

/-- A command is run by itself. -/
theorem meets_retryOne {c : PipelineCommand F} {left : List (PipelineCommand F)} (inside : c ∈ stack)
    (distinct : (stack.map (·.position)).Nodup)
    (retried : isRetried config env stack allowRedirections c = true)
    (first : c.position ∉ left.map (·.position)) :
    Meets (Retrying config env stack allowRedirections (c :: left)) (retryOne env c)
      (fun _ s => Retrying config env stack allowRedirections left s ∧ escaping env c = none)
      (fun e s => Unrepeated s.events ∧ e.isinstanceAny clusterErrorsAllowRetry = false) := by
  unfold retryOne
  refine Meets.bind (Q := fun _ => Retrying config env stack allowRedirections (c :: left)) ?_ ?_
  · exact meets_modify fun s retrying => retrying.sends _
  · intro _
    cases came : (env.retry c.position).outcome with
    | ok value =>
      refine meets_modify fun s retrying => ⟨?_, ?_⟩
      · exact {
          known := fun d member => by
            show d.position ∈ positions (setResult c.position value s).nodes
            rw [positions_setResult]
            exact retrying.known d member
          settled := fun d member apart =>
            retrying.settles inside distinct retried (by rw [came]; rfl) member apart
          unanswered := fun d member => by
            refine unanswered_append_replied (fun same => ?_)
              (retrying.unanswered d (List.mem_cons_of_mem _ member))
            exact first (same ▸ List.mem_map_of_mem member)
          accounted := {
            unrepeated := retrying.accounted.unrepeated.append_replied c.position value
            stored := fun p found member => by
              rcases List.mem_append.mp member with old | new
              · exact retrying.accounted.stored p found old
              · have this : (PipelineEvent.replied p found : PipelineEvent F) =
                    .replied c.position value := List.mem_singleton.mp new
                cases this
                exact ⟨c, inside, rfl, (lastOutcome_retried retried).trans came⟩ } }
      · unfold escaping
        rw [came]
    | error e =>
      by_cases redis : e.isinstance .redisError = true
      · simp only [if_pos redis]
        refine meets_modify fun s retrying => ⟨?_, ?_⟩
        · exact {
            known := fun d member => by
              rw [positions_setResult]
              exact retrying.known d member
            settled := fun d member apart =>
              retrying.settles inside distinct retried (by rw [came]; rfl) member apart
            unanswered := fun d member => retrying.unanswered d (List.mem_cons_of_mem _ member)
            accounted := retrying.accounted }
        · unfold escaping
          rw [came]
          exact if_pos redis
      · simp only [if_neg redis]
        exact meets_throw fun s retrying =>
          ⟨retrying.accounted.unrepeated, not_retried_of_foreign (Bool.eq_false_iff.mpr redis)⟩

/-- The commands that failed are run one by one. -/
theorem meets_retryEach (distinct : (stack.map (·.position)).Nodup)
    (left : List (PipelineCommand F)) (known : ∀ c ∈ left, c ∈ stack)
    (retried : ∀ c ∈ left, isRetried config env stack allowRedirections c = true)
    (apart : (left.map (·.position)).Nodup) :
    Meets (Retrying config env stack allowRedirections left) (retryEach env left)
      (fun _ s => Retrying config env stack allowRedirections [] s ∧
        left.findSome? (escaping env) = none)
      (fun e s => Unrepeated s.events ∧ e.isinstanceAny clusterErrorsAllowRetry = false) := by
  induction left with
  | nil => exact meets_pure fun _ retrying => ⟨retrying, rfl⟩
  | cons c left ih =>
    obtain ⟨inside, known⟩ := List.forall_mem_cons.mp known
    obtain ⟨one, retried⟩ := List.forall_mem_cons.mp retried
    obtain ⟨first, apart⟩ := List.nodup_cons.mp apart
    refine (meets_retryOne inside distinct one first).bind fun _ => meets_given fun fine => ?_
    refine (ih known retried apart).weaken (fun _ => id) (fun _ s ended => ?_) fun _ _ => id
    exact ⟨ended.1, by rw [List.findSome?_cons, fine]; exact ended.2⟩

/-- Nothing that was answered is run by itself. -/
theorem Recorded.retrying {s : Sending F} (recorded : Recorded config env stack s)
    (distinct : (stack.map (·.position)).Nodup)
    (calm : ∀ c ∈ stack, ∀ value, outcome config env stack c = .ok value →
      isRetried config env stack allowRedirections c = false) :
    Retrying config env stack allowRedirections
      (stack.filter (isRetried config env stack allowRedirections)) s where
  known := recorded.shows.known
  settled c member apart := by
    have kept : ¬isRetried config env stack allowRedirections c = true := fun retried =>
      apart (List.mem_map_of_mem (List.mem_filter.mpr ⟨member, retried⟩))
    rw [recorded.shows.shown c member, lastOutcome, if_neg kept]
  unanswered c member value replied := by
    obtain ⟨inside, retried⟩ := List.mem_filter.mp member
    obtain ⟨d, known, same, succeeded⟩ := recorded.stored _ value replied
    have equal : d = c := List.inj_on_of_nodup_map distinct known inside same
    rw [equal] at succeeded
    have stays := calm c inside value succeeded
    rw [retried] at stays
    cases stays
  accounted := {
    unrepeated := recorded.unrepeated
    stored := fun p value replied => by
      obtain ⟨c, inside, position, succeeded⟩ := recorded.stored p value replied
      refine ⟨c, inside, position, ?_⟩
      rw [lastOutcome, if_neg (by rw [calm c inside value succeeded]; exact Bool.false_ne_true)]
      exact succeeded }

end Retrying

/-! ## The cluster callbacks -/

section Responding

variable {config : PipelineConfig F}

/-- The result of a command goes through its callback. -/
theorem meets_respond (config : PipelineConfig F) (c : PipelineCommand F)
    (rest : List (PipelineCommand F)) (first : c.position ∉ rest.map (·.position))
    (values : PipelineCommand F → PyVal F) (I : List (PipelineEvent F) → Prop) :
    Meets (fun s => (∀ d ∈ c :: rest, s.result d.position = values d) ∧ I s.events)
      (respond config c)
      (fun value s => ((∀ d ∈ rest, s.result d.position = values d) ∧ I s.events) ∧
        called config c (values c) = .ok value)
      (fun e s => I s.events ∧ called config c (values c) = .error e) := by
  unfold respond
  refine meets_get fun s start => ?_
  obtain ⟨shown, kept⟩ := start
  obtain ⟨own, others⟩ := List.forall_mem_cons.mp shown
  unfold called
  cases config.clusterResponseCallbacks c.command.name with
  | none =>
    refine meets_pure fun t same => ?_
    rw [same]
    exact ⟨⟨others, kept⟩, congrArg Except.ok own.symm⟩
  | some callback =>
    simp only [own]
    cases callback c.command (values c) with
    | error e =>
      refine meets_throw fun t same => ?_
      rw [same]
      exact ⟨kept, rfl⟩
    | ok value =>
      refine Meets.bind (Q := fun _ t => (∀ d ∈ rest, t.result d.position = values d) ∧
        I t.events) ?_ fun _ => meets_pure fun t kept => ⟨kept, rfl⟩
      refine meets_modify fun t same => ?_
      rw [same]
      refine ⟨fun d member => ?_, kept⟩
      have apart : d.position ≠ c.position := fun equal =>
        first (equal ▸ List.mem_map_of_mem member)
      rw [result_setResult_other apart]
      exact others d member

/-- All results go through their callbacks. -/
theorem meets_respondEach (config : PipelineConfig F) (values : PipelineCommand F → PyVal F)
    (I : List (PipelineEvent F) → Prop) (stack : List (PipelineCommand F))
    (distinct : (stack.map (·.position)).Nodup) :
    Meets (fun s => (∀ d ∈ stack, s.result d.position = values d) ∧ I s.events)
      (respondEach config stack)
      (fun response s => I s.events ∧
        (stack.mapM fun c => called config c (values c)) = .ok response)
      (fun e s => I s.events ∧
        (stack.mapM fun c => called config c (values c)) = .error e) := by
  induction stack with
  | nil => exact meets_pure fun _ start => ⟨start.2, rfl⟩
  | cons c stack ih =>
    obtain ⟨first, distinct⟩ := List.nodup_cons.mp distinct
    have one := meets_respond config c stack first values I
    unfold respondEach
    simp only [List.mapM_cons]
    refine Meets.bind (one.weaken (fun _ => id) (fun _ _ => id) ?_) fun value => ?_
    · rintro e s ⟨kept, raised⟩
      exact ⟨kept, by rw [raised]; rfl⟩
    · refine meets_given fun made => ?_
      refine Meets.bind ((ih distinct).weaken (fun _ => id) (fun _ _ => id) ?_) fun others => ?_
      · rintro e s ⟨kept, raised⟩
        exact ⟨kept, by rw [made, raised]; rfl⟩
      · refine meets_pure fun s ended => ⟨ended.1, ?_⟩
        rw [made, ended.2]
        rfl

end Responding

/-! ## One attempt -/

section Attempt

variable {config : PipelineConfig F} {env : Surroundings F} {stack : List (PipelineCommand F)}
variable {raiseOnError allowRedirections : Bool}

/-- What an attempt leaves when it raises: another one is made only if nothing was read, or if the
surroundings end the attempt so. -/
def Raised (config : PipelineConfig F) (env : Surroundings F) (stack : List (PipelineCommand F))
    (raiseOnError allowRedirections : Bool) (e : Exc) (s : Sending F) : Prop :=
  Unrepeated s.events ∧
    (e.isinstanceAny clusterErrorsAllowRetry = true → s.Unread ∨
      (∃ c ∈ stack, (lastOutcome config.toClientConfig env stack allowRedirections c).isOk = true) ∧
        ending config env stack raiseOnError allowRedirections = some e)

/-- What an attempt leaves when it returns. -/
structure Returned (config : PipelineConfig F) (env : Surroundings F)
    (stack : List (PipelineCommand F)) (allowRedirections : Bool) (response : List (PyVal F))
    (s : Sending F) : Prop where
  /-- Each success reply is an outcome. -/
  accounted : Accounted config.toClientConfig env stack allowRedirections s.events
  /-- All outcomes went through the cluster callbacks. -/
  response : (stack.mapM fun c => called config c
    (kept (lastOutcome config.toClientConfig env stack allowRedirections c))) = .ok response

/-- An exception that the surroundings predict. -/
theorem Accounted.raised {s : Sending F}
    (accounted : Accounted config.toClientConfig env stack allowRedirections s.events) {e : Exc}
    (predicted : ending config env stack raiseOnError allowRedirections = some e) :
    Raised config env stack raiseOnError allowRedirections e s := by
  refine ⟨accounted.unrepeated, fun _ => ?_⟩
  by_cases unread : s.Unread
  · exact .inl unread
  · unfold Unread Unanswered at unread
    push Not at unread
    obtain ⟨p, value, member⟩ := unread
    obtain ⟨c, inside, -, succeeded⟩ := accounted.stored p value member
    exact .inr ⟨⟨c, inside, by rw [succeeded]; rfl⟩, predicted⟩

/-- A listener that raises ends the attempt. -/
theorem Interrupted.raised (raiseOnError : Bool) (calm : Calm config env stack allowRedirections)
    {e : Exc} {s : Sending F}
    (interrupted : Interrupted config.toClientConfig env stack e s) :
    Raised config env stack raiseOnError allowRedirections e s := by
  refine ⟨interrupted.1, fun retried => ?_⟩
  rcases interrupted.2 retried with unread | ⟨⟨c, inside, succeeded⟩, listened⟩
  · exact .inl unread
  · refine .inr ⟨⟨c, inside, ?_⟩, ?_⟩
    · cases came : outcome config.toClientConfig env stack c with
      | error e =>
        rw [came] at succeeded
        cases succeeded
      | ok value =>
        have stays := calm.settled c inside value came
        rw [lastOutcome, if_neg (by rw [stays]; exact Bool.false_ne_true), came]
        rfl
    · unfold ending
      rw [listened]
      rfl

/-- The commands that failed are run by themselves, if redirections are allowed. -/
theorem meets_retries (raiseOnError : Bool) (distinct : (stack.map (·.position)).Nodup)
    (calm : Calm config env stack allowRedirections) (quiet : stack.findSome? (heard env) = none)
    {attempt : List (PipelineCommand F)}
    (failed : attempt = stack.filter fun c =>
      mayRetry (kept (outcome config.toClientConfig env stack c))) :
    Meets (Recorded config.toClientConfig env stack)
      (whenever (!attempt.isEmpty && allowRedirections) do
        whenSome env.reinitialize throw
        retryEach env attempt)
      (fun _ s => Retrying config.toClientConfig env stack allowRedirections [] s ∧
        retryEnding config.toClientConfig env stack allowRedirections = none)
      (Raised config env stack raiseOnError allowRedirections) := by
  have start (s : Sending F) (recorded : Recorded config.toClientConfig env stack s) :
      Retrying config.toClientConfig env stack allowRedirections
        (stack.filter (isRetried config.toClientConfig env stack allowRedirections)) s :=
    recorded.retrying distinct calm.settled
  cases allowRedirections with
  | false =>
    have none : stack.filter (isRetried config.toClientConfig env stack false) = [] :=
      List.filter_eq_nil_iff.mpr fun _ _ => Bool.false_ne_true
    refine meets_whenever (fun made => ?_) fun _ s recorded => ?_
    · simp at made
    · have retrying := start s recorded
      rw [none] at retrying
      refine ⟨retrying, ?_⟩
      unfold retryEnding
      rw [none]
      rfl
  | true =>
    have same : attempt = stack.filter (isRetried config.toClientConfig env stack true) := failed
    refine meets_whenever (fun made => ?_) fun skipped s recorded => ?_
    · have some : ¬attempt.isEmpty = true := by simpa using made
      have predicted : retryEnding config.toClientConfig env stack true =
          (env.reinitialize <|> attempt.findSome? (escaping env)) := by
        unfold retryEnding
        rw [← same]
        exact if_neg some
      rw [predicted, same]
      have retries := meets_retryEach distinct
        (stack.filter (isRetried config.toClientConfig env stack true))
        (fun c member => (List.mem_filter.mp member).1)
        (fun c member => (List.mem_filter.mp member).2)
        (distinct.sublist (List.filter_sublist.map _))
      cases reinitialized : env.reinitialize with
      | some e =>
        refine Meets.bind (Q := fun _ _ => False) (meets_throw fun s recorded => ?_)
          fun _ _ => False.elim
        refine (start s recorded).accounted.raised ?_
        unfold ending
        rw [quiet, predicted, reinitialized]
        rfl
      | none =>
        refine Meets.bind (Q := fun _ => Recorded config.toClientConfig env stack)
          (meets_pure fun _ => id) fun _ => ?_
        refine retries.weaken start (fun _ _ => id) fun e s ended => ⟨ended.1, fun retried => ?_⟩
        rw [ended.2] at retried
        cases retried
    · have none : attempt = [] := by simpa using skipped
      have retrying := start s recorded
      rw [← same, none] at retrying
      refine ⟨retrying, ?_⟩
      unfold retryEnding
      rw [← same, none]
      rfl

/-- The results go through the cluster callbacks, and the first error is raised. -/
theorem meets_response (distinct : (stack.map (·.position)).Nodup)
    (predicted : ending config env stack raiseOnError allowRedirections =
      responseEnding config env stack raiseOnError allowRedirections) :
    Meets (Retrying config.toClientConfig env stack allowRedirections []) (do
      let response ← respondEach config stack
      match if raiseOnError then firstRaised response else none with
      | some e => throw e
      | none => pure response)
      (Returned config env stack allowRedirections)
      (Raised config env stack raiseOnError allowRedirections) := by
  have responds := meets_respondEach config
    (fun c => kept (lastOutcome config.toClientConfig env stack allowRedirections c))
    (Accounted config.toClientConfig env stack allowRedirections) stack distinct
  refine Meets.bind (responds.weaken ?_ (fun _ _ => id) ?_) fun response => ?_
  · intro s retrying
    exact ⟨fun d member => retrying.settled d member List.not_mem_nil, retrying.accounted⟩
  · rintro e s ⟨accounted, raised⟩
    refine accounted.raised ?_
    rw [predicted]
    unfold responseEnding
    rw [raised]
  · refine meets_given fun made => ?_
    have shown : responseEnding config env stack raiseOnError allowRedirections =
        if raiseOnError then firstRaised response else none := by
      unfold responseEnding
      rw [made]
    rw [← shown]
    cases last : responseEnding config env stack raiseOnError allowRedirections with
    | some e => exact meets_throw fun s accounted => accounted.raised (predicted.trans last)
    | none => exact meets_pure fun s accounted => { accounted, response := made }

/-- An attempt after its connections were released. -/
theorem meets_finish (raiseOnError : Bool) (distinct : (stack.map (·.position)).Nodup)
    (calm : Calm config env stack allowRedirections) (quiet : stack.findSome? (heard env) = none) :
    Meets (Recorded config.toClientConfig env stack)
      (finish config env stack raiseOnError allowRedirections)
      (Returned config env stack allowRedirections)
      (Raised config env stack raiseOnError allowRedirections) := by
  unfold finish
  refine meets_get fun s recorded => ?_
  have failed : (stack.filter fun c => mayRetry (s.result c.position)) =
      stack.filter fun c => mayRetry (kept (outcome config.toClientConfig env stack c)) := by
    refine List.filter_congr fun c member => ?_
    rw [recorded.shows.shown c member]
  have retries := (meets_retries raiseOnError distinct calm quiet failed).from_state recorded
  refine retries.bind fun _ => meets_given fun retried => meets_response distinct ?_
  unfold ending
  rw [quiet, retried]
  rfl

/-- One attempt, after attempts in which nothing was read. -/
theorem meets_sendOnce (raiseOnError : Bool) (distinct : (stack.map (·.position)).Nodup)
    (calm : Calm config env stack allowRedirections) :
    Meets Unread (sendOnce config env stack raiseOnError allowRedirections)
      (Returned config env stack allowRedirections)
      (Raised config env stack raiseOnError allowRedirections) := by
  unfold sendOnce
  refine Meets.bind (Q := fun _ s => Unread s ∧ s.nodes = [])
    (meets_modify fun s unread => ⟨unread, rfl⟩) fun _ => ?_
  have exchanged := (meets_exchange distinct calm.whole).weaken (fun _ => id) (fun _ _ => id)
    fun e s interrupted => interrupted.raised raiseOnError calm
  exact exchanged.bind fun _ => meets_given fun quiet => meets_finish raiseOnError distinct calm quiet

end Attempt

/-! ## All attempts -/

/-- The positions of a stack are those of its commands. -/
theorem stackOf_positions (commands : List (Command F)) :
    (stackOf commands).map (·.position) = List.range commands.length := by
  unfold stackOf
  rw [List.map_map, List.range_eq_range']
  exact List.zipIdx_map_snd 0 commands

/-- No position is used twice. -/
theorem stackOf_distinct (commands : List (Command F)) :
    ((stackOf commands).map (·.position)).Nodup := by
  rw [stackOf_positions]
  exact List.nodup_range

/-- Each command is at its position. -/
theorem stackOf_getElem? {commands : List (Command F)} {c : PipelineCommand F}
    (inside : c ∈ stackOf commands) : (stackOf commands)[c.position]? = some c := by
  obtain ⟨entry, member, rfl⟩ := List.mem_map.mp inside
  unfold stackOf
  rw [List.getElem?_map, List.getElem?_zipIdx]
  obtain ⟨command, position⟩ := entry
  have found := List.mem_zipIdx_iff_getElem?.mp member
  simp [found]

/-- A result is the success reply that was read: one to a batch goes through the cluster callback of
its command, and one that `execute_command` returned has been through it. -/
inductive Delivers (config : PipelineConfig F) (env : Surroundings F) (c : PipelineCommand F)
    (value : PyVal F) : PyVal F → Prop where
  /-- It was read with a batch. -/
  | batch {result : PyVal F} (read : answer config.toClientConfig env c = .ok value)
      (made : called config c value = .ok result) : Delivers config env c value result
  /-- It was returned to a command that was run by itself. -/
  | alone (returned : (env.retry c.position).outcome = .ok value) : Delivers config env c value value

/-- No command is sent after its success reply was read, and that reply is what is returned. -/
structure RepeatsNothing (config : PipelineConfig F) (envs : Nat → Surroundings F)
    (stack : List (PipelineCommand F)) (ended : EStateM.Result Exc (Sending F) (List (PyVal F))) :
    Prop where
  /-- Not sent again. -/
  unrepeated : Unrepeated (stateAfter ended).events
  /-- Returned at its position. -/
  delivered : ∀ response s, ended = .ok response s → ∀ p value, .replied p value ∈ s.events →
    ∃ c ∈ stack, c.position = p ∧
      ∃ number result, response[p]? = some result ∧ Delivers config (envs number) c value result

/-- An attempt begins in some state: it is the first one, or the one before ended in an error after
which another one is made. -/
inductive Attempted (config : PipelineConfig F) (envs : Nat → Surroundings F)
    (stack : List (PipelineCommand F)) (raiseOnError allowRedirections : Bool) :
    Nat → Sending F → Prop where
  /-- The first attempt. -/
  | first : Attempted config envs stack raiseOnError allowRedirections 0 start
  /-- Another attempt. -/
  | again {number : Nat} {s t : Sending F} {e : Exc}
      (before : Attempted config envs stack raiseOnError allowRedirections number s)
      (left : number < config.clusterErrorRetryAttempts)
      (ended : sendOnce config (envs number) stack raiseOnError allowRedirections s = .error e t)
      (retried : e.isinstanceAny clusterErrorsAllowRetry = true) :
      Attempted config envs stack raiseOnError allowRedirections (number + 1) t

/-- An attempt drops no success reply, and is the last one if there is one. -/
structure Careful (config : PipelineConfig F) (envs : Nat → Surroundings F)
    (stack : List (PipelineCommand F)) (raiseOnError allowRedirections : Bool) (number : Nat) :
    Prop where
  /-- No success reply is dropped. -/
  calm : Calm config (envs number) stack allowRedirections
  /-- No attempt follows a success reply. -/
  final : number < config.clusterErrorRetryAttempts →
    Final config (envs number) stack raiseOnError allowRedirections

/-- What a command that was run by itself returned is not changed by its callback. -/
theorem Returned.delivers {config : PipelineConfig F} {env : Surroundings F}
    {commands : List (Command F)} {allowRedirections : Bool} {response : List (PyVal F)}
    {s : Sending F} (returned : Returned config env (stackOf commands) allowRedirections response s)
    (calm : Calm config env (stackOf commands) allowRedirections) {p : Nat} {value : PyVal F}
    (replied : .replied p value ∈ s.events) :
    ∃ c ∈ stackOf commands, c.position = p ∧
      ∃ result, response[p]? = some result ∧ Delivers config env c value result := by
  obtain ⟨c, inside, position, succeeded⟩ := returned.accounted.stored p value replied
  obtain ⟨result, found, made⟩ := Holes.getElem?_of_mapM returned.response (stackOf_getElem? inside)
  rw [succeeded] at made
  refine ⟨c, inside, position, result, position ▸ found, ?_⟩
  by_cases retried :
      isRetried config.toClientConfig env (stackOf commands) allowRedirections c = true
  · rw [lastOutcome_retried retried] at succeeded
    have same := calm.once c inside retried value result succeeded made
    rw [same]
    exact .alone succeeded
  · rw [lastOutcome, if_neg retried] at succeeded
    refine .batch ?_ made
    unfold outcome at succeeded
    cases target : targetNode env c with
    | error e =>
      rw [target] at succeeded
      cases succeeded
    | ok name =>
      rw [target] at succeeded
      exact answer_of_outcomeAt succeeded

/-- Attempts that follow an attempt in which nothing was read. -/
theorem meets_sendRepeatedly (config : PipelineConfig F) (envs : Nat → Surroundings F)
    (commands : List (Command F)) (raiseOnError allowRedirections : Bool)
    (careful : ∀ number s, Attempted config envs (stackOf commands) raiseOnError allowRedirections
      number s → Careful config envs (stackOf commands) raiseOnError allowRedirections number)
    (retryAttempts : Nat) : ∀ number s, number + retryAttempts = config.clusterErrorRetryAttempts →
      Attempted config envs (stackOf commands) raiseOnError allowRedirections number s → s.Unread →
      RepeatsNothing config envs (stackOf commands)
        (sendRepeatedly config envs (stackOf commands) raiseOnError allowRedirections retryAttempts
          number s) := by
  have once (number : Nat) (s : Sending F)
      (attempted : Attempted config envs (stackOf commands) raiseOnError allowRedirections number s)
      (unread : s.Unread) := meets_sendOnce raiseOnError (stackOf_distinct commands)
    (careful number s attempted).calm s unread
  have returned {number : Nat} {s t : Sending F} {response : List (PyVal F)}
      (attempted : Attempted config envs (stackOf commands) raiseOnError allowRedirections number s)
      (returned : Returned config (envs number) (stackOf commands) allowRedirections response t) :
      RepeatsNothing config envs (stackOf commands) (.ok response t) := by
    refine { unrepeated := returned.accounted.unrepeated, delivered := ?_ }
    intro other u same p value replied
    cases same
    obtain ⟨c, inside, position, result, found, delivers⟩ :=
      returned.delivers (careful number s attempted).calm replied
    exact ⟨c, inside, position, number, result, found, delivers⟩
  have raised {e : Exc} {t : Sending F} (unrepeated : Unrepeated t.events) :
      RepeatsNothing config envs (stackOf commands) (.error e t) :=
    { unrepeated, delivered := fun _ _ same => (by cases same) }
  induction retryAttempts with
  | zero =>
    intro number s last attempted unread
    have ends := once number s attempted unread
    unfold sendRepeatedly
    cases ran : sendOnce config (envs number) (stackOf commands) raiseOnError allowRedirections s with
    | ok response t =>
      rw [ran] at ends
      exact returned attempted ends
    | error e t =>
      rw [ran] at ends
      exact raised ends.1
  | succ retryAttempts ih =>
    intro number s left attempted unread
    have ends := once number s attempted unread
    unfold sendRepeatedly Contract.recover
    cases ran : sendOnce config (envs number) (stackOf commands) raiseOnError allowRedirections s with
    | ok response t =>
      rw [ran] at ends
      exact returned attempted ends
    | error e t =>
      rw [ran] at ends
      by_cases retried : e.isinstanceAny clusterErrorsAllowRetry = true
      · have more : number < config.clusterErrorRetryAttempts := by omega
        have nothing : t.Unread := by
          rcases ends.2 retried with nothing | ⟨succeeded, predicted⟩
          · exact nothing
          · have stays := (careful number s attempted).final more succeeded e predicted
            rw [retried] at stays
            cases stays
        simp only [if_pos retried]
        exact ih (number + 1) t (by omega) (.again attempted more ran retried) nothing
      · simp only [if_neg retried]
        exact raised ends.1

end Sending

section Scenario

open Sending

/-- A cluster pipeline without callbacks that makes up to four attempts. -/
def patientPipelineConfig : PipelineConfig Empty :=
  { plainPipelineConfig with clusterErrorRetryAttempts := 3 }

/-- Two counters. -/
def twoCounters : List (Command Empty) := [.plain "INCR" ["a".toList], .plain "INCR" ["b".toList]]

/-- The counters are on the nodes at some ports, and each connection gives the replies it is told. -/
def countersAt (ports : Nat → Text) (reply : Nat → Except Exc (PyVal Empty))
    (retry : Nat → Retrial Empty) : Surroundings Empty where
  route position := .ok ["10.0.0.1:".toList ++ ports position]
  acquire _ := none
  refresh := none
  send _ := none
  reply
  listener _ := none
  reinitialize := none
  retry

/-- The connection to the node of the first counter fails, and the command is run by itself. -/
def firstLost : Surroundings Empty :=
  countersAt (fun position => if position = 0 then "6379".toList else "6380".toList)
    (fun position => if position = 0 then .error { cls := .connectionError } else .ok (.int 1))
    fun _ => { sends := 1, outcome := .ok (.int 1) }

/-- The connection to the node of both counters fails after the first reply. -/
def secondLost : Surroundings Empty :=
  countersAt (fun _ => "6379".toList)
    (fun position => if position = 0 then .ok (.int 1) else .error { cls := .connectionError })
    fun position => { sends := 1, outcome := .ok (.int (if position = 0 then 2 else 1)) }

end Scenario

end RedisPy
