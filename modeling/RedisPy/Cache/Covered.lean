import RedisPy.Cache.Proxy

/-!
# Cached values and the sessions they were read on

The server invalidates what it sent on the session that it sent it on. A value in the cache is covered
while the connection of its entry is still on that session. Only `disconnect` of the proxy flushes the
cache; where the wrapped connection loses its socket or opens another by itself, the entries stay.
-/

namespace RedisPy

open Contract

variable {F : Type}

namespace CacheProxy

/-! ## The law -/

/-- The connection of the entry is on the session on which its value was read, and the server tracks
keys on it. -/
def World.Covers (s : World F) (entry : CacheEntry F Origin) : Prop :=
  ∃ origin session, entry.origin = some origin ∧ origin.session = some session ∧
    session.tracking = true ∧ (s.proxies entry.connectionRef).conn.sock = some session

/-- All valid entries are covered. -/
def World.Covered (s : World F) : Prop := ∀ item ∈ s.entries, item.2.status = .valid → s.Covers item.2

/-- What is served from the cache is the value of a valid entry that is covered. -/
def World.ServesCovered (config : CacheConfig) (s : World F) : ProxyCall F × CacheEnv F → Prop
  | (.readResponse i, env) =>
    ∀ reply t, readResponse config env i s = .ok reply t → reply.source = none →
      ∃ item ∈ s.entries, item.2.status = .valid ∧ item.2.cacheValue = reply.value ∧ s.Covers item.2
  | _ => True

/-! ## The condition -/

/-- No session ends in this step on which a value in the cache was read. -/
def World.Outlasts (config : CacheConfig) (s : World F) (a : ProxyCall F × CacheEnv F) : Prop :=
  ∀ item ∈ s.entries, item.2.status = .valid →
    ((s.step config a).proxies item.2.connectionRef).conn.sock =
      (s.proxies item.2.connectionRef).conn.sock

/-- The entry that a value is stored in was made for the connection that reads the value, and the
server tracks keys there. -/
def World.StoresOwn (env : CacheEnv F) (i : Nat) (s : World F) : Prop :=
  ∀ reply t entry, readWrapped env i (s.touched i) = .ok reply t → reply.2.isNone = false →
    t.currentEntry i = some entry →
      entry.connectionRef = i ∧ ∃ session, (t.proxies i).conn.sock = some session ∧
        session.tracking = true

/-- A step does not leave a value in the cache behind. -/
def World.Upholds (config : CacheConfig) (s : World F) : ProxyCall F × CacheEnv F → Prop
  | (.disconnect _, _) => True
  | (.readResponse i, env) => s.Outlasts config (.readResponse i, env) ∧ s.StoresOwn env i
  | a => s.Outlasts config a

/-! ## Entries that are removed -/

/-- A property of the entries that removing some keeps. -/
def Shrinks (P : Entries F Origin → Prop) : Prop :=
  ∀ entries rest, (∀ item ∈ rest, item ∈ entries) → P entries → P rest

section Shrinks

variable {P : Entries F Origin → Prop} (shrinks : Shrinks P) (env : CacheEnv F) (i : Nat)

omit shrinks env in
/-- Closing a connection. -/
theorem keeps_close : Keeps (fun s : World F => P s.entries) (close i) := keeps_modify fun _ => id

omit shrinks in
/-- Connecting. -/
theorem keeps_connect : Keeps (fun s : World F => P s.entries) (connect env i) := by
  intro s holds
  unfold connect
  cases (s.proxies i).conn.sock with
  | some session => exact holds
  | none =>
    simp only
    cases env.opening s.sessions <;> exact holds

omit shrinks in
/-- Looking for messages. -/
theorem keeps_canRead : Keeps (fun s : World F => P s.entries) (canRead env i) := by
  apply (keeps_connect env i).bind
  intro _ s holds
  simp only
  cases env.poll i (s.proxies i).conn.inbox.length <;> exact holds

include shrinks

omit env in
/-- Handling an invalidation. -/
theorem keeps_handle (names : Option (List Bytes)) :
    Keeps (fun s : World F => P s.entries) (handle i names) := by
  have calls : Keeps (fun s : World F => P s.entries) (onInvalidationCallback names) := by
    intro s holds
    unfold onInvalidationCallback
    cases names with
    | none => exact shrinks s.entries [] (fun item member => by cases member) holds
    | some names =>
      have kept := shrinks s.entries (DefaultCache.deleteByRedisKeys (names.map .bytes) s.entries).2
        (fun item => DefaultCache.mem_deleteByRedisKeys) holds
      simp only
      rcases deleted : DefaultCache.deleteByRedisKeys (names.map .bytes) s.entries with ⟨response, entries⟩
      rw [deleted] at kept
      cases response <;> exact kept
  exact calls.recover fun halt => (keeps_close i).bind fun _ => keeps_throw halt

omit env in
/-- Reading a message that is not waited for. -/
theorem keeps_receive (message : Message F) :
    Keeps (fun s : World F => P s.entries) (receive i message) := by
  cases message with
  | invalidation names => exact keeps_handle shrinks i names
  | reply request value =>
    unfold receive
    cases failed : value.errorReply with
    | some e =>
      simp only [failed]
      exact keeps_throw _
    | none =>
      simp only [failed]
      exact keeps_pure _

/-- Reading what waits. -/
theorem keeps_processPendingInvalidations :
    Keeps (fun s : World F => P s.entries) (processPendingInvalidations env i) := by
  have drains : ∀ messages, Keeps (fun s : World F => P s.entries) (drain env i messages) := by
    intro messages
    induction messages with
    | nil => exact (keeps_canRead env i).bind fun _ => keeps_pure _
    | cons message rest ih =>
      have takes : Keeps (fun s : World F => P s.entries) (take i rest) := keeps_modify fun _ => id
      apply (keeps_canRead env i).bind
      intro _
      apply takes.bind
      intro _
      apply (keeps_receive shrinks i message).bind
      intro _
      exact ih
  exact fun s => drains (s.proxies i).conn.inbox s

/-- Sending. -/
theorem keeps_sendWrapped (requests : List Request) :
    Keeps (fun s : World F => P s.entries) (sendWrapped env i requests) := by
  have fails (e : Exc) : Keeps (fun s : World F => P s.entries) (pingFailed env i e) := by
    apply (keeps_close i).bind
    intro _
    exact keeps_ite (keeps_connect env i) (keeps_throw _)
  have pongs : ∀ messages, Keeps (fun s : World F => P s.entries) (readPong env i messages) := by
    intro messages
    induction messages with
    | nil => exact keeps_get fun s => keeps_whenever (fails _)
    | cons message rest ih =>
      cases message with
      | invalidation names =>
        have takes : Keeps (fun s : World F => P s.entries) (take i rest) := keeps_modify fun _ => id
        apply takes.bind
        intro _
        apply (keeps_handle shrinks i names).bind
        intro _
        exact ih
      | reply request value => exact fails _
  have checks : Keeps (fun s : World F => P s.entries) (checkHealth env i) := by
    unfold checkHealth
    cases env.health with
    | notDue => exact keeps_pure _
    | answered => exact fun s => pongs (s.proxies i).conn.inbox s
    | failed e => exact fails e
  apply (keeps_connect env i).bind
  intro _
  apply checks.bind
  intro _ s holds
  unfold write
  cases env.written <;> exact holds

/-- Reading a reply. -/
theorem keeps_readWrapped : Keeps (fun s : World F => P s.entries) (readWrapped env i) := by
  have delivers (request : Request) (value : PyVal F) :
      Keeps (fun s : World F => P s.entries) (deliver i request value) := by
    have pops : Keeps (fun s : World F => P s.entries) (modify fun s => s.put i
        { s.proxies i with expected := (s.proxies i).expected.tail } : ProxyM F Unit) :=
      keeps_modify fun _ => id
    apply pops.bind
    intro _
    cases value.errorReply with
    | some e => exact keeps_throw _
    | none => exact keeps_pure _
  have arrives : ∀ list, Keeps (fun s : World F => P s.entries) (arrive i list) := by
    intro list
    induction list with
    | nil => exact keeps_pure _
    | cons names rest ih => exact (keeps_handle shrinks i names).bind fun _ => ih
  have awaits : Keeps (fun s : World F => P s.entries) (await env i) := by
    intro s holds
    unfold await
    dsimp only
    cases (s.proxies i).conn.outstanding with
    | nil => exact holds
    | cons request rest =>
      simp only
      cases env.answer request with
      | error e => exact holds
      | ok value => exact delivers request value _ holds
  have reads : ∀ messages, Keeps (fun s : World F => P s.entries) (readMessages env i messages) := by
    intro messages
    induction messages with
    | nil =>
      apply keeps_get
      intro s
      exact keeps_ite (keeps_throw _) ((arrives _).bind fun _ => awaits)
    | cons message rest ih =>
      have takes : Keeps (fun s : World F => P s.entries) (take i rest) := keeps_modify fun _ => id
      cases message with
      | invalidation names =>
        apply takes.bind
        intro _
        apply (keeps_handle shrinks i names).bind
        intro _
        exact ih
      | reply request value =>
        apply takes.bind
        intro _
        exact delivers request value
  exact fun s => reads (s.proxies i).conn.inbox s

end Shrinks

/-! ## Entries that are added -/

/-- Every entry is one of these, or has no value yet. -/
def Recent (old entries : Entries F Origin) : Prop :=
  ∀ item ∈ entries, item ∈ old ∨ item.2.status = .inProgress

/-- Removing entries adds none. -/
theorem shrinks_recent (old : Entries F Origin) : Shrinks (Recent old) :=
  fun _ _ fewer recent item member => recent item (fewer item member)

section Calls

variable (config : CacheConfig) (env : CacheEnv F) (i : Nat)

/-- Looking an entry up. -/
theorem keeps_lookUp {P : Entries F Origin → Prop} (shrinks : Shrinks P) (key : CacheKey) :
    Keeps (fun s : World F => P s.entries) (lookUp key) :=
  fun s holds => shrinks s.entries (DefaultCache.get key s.entries).2 (fun _ => DefaultCache.mem_get) holds

/-- `send_command` adds an entry without a value at most. -/
theorem keeps_sendCommand (old : Entries F Origin) (command : CacheCommand) :
    Keeps (fun s : World F => Recent old s.entries) (sendCommand config env i command) := by
  have shrinks := shrinks_recent old
  have sets (key : Option CacheKey) : Keeps (fun s : World F => Recent old s.entries)
      (setCurrentCommandCacheKey i key) := keeps_modify fun _ => id
  have cachable (request : Request) : Keeps (fun s : World F => Recent old s.entries)
      (sendCachable config env i request) := by
    apply (sets _).bind
    intro _
    apply (keeps_lookUp shrinks _).bind
    intro found
    cases found with
    | some entry =>
      apply (keeps_whenever (keeps_processPendingInvalidations shrinks env entry.connectionRef)).bind
      intro _
      exact keeps_modify fun _ => id
    | none =>
      have stores : Keeps (fun s : World F => Recent old s.entries)
          (store config (request.temporary i)) := by
        apply keeps_modify
        intro s recent item member
        rcases DefaultCache.mem_set member with new | before
        · right
          rw [new]
          rfl
        · exact recent item before
      exact stores.bind fun _ => keeps_sendWrapped shrinks env i _
  have numbers : Keeps (fun s : World F => Recent old s.entries) (takeNumbers 1) := fun _ => id
  apply numbers.bind
  intro number
  apply (keeps_processPendingInvalidations shrinks env i).bind
  intro _
  exact keeps_ite (keeps_ite (keeps_throw _) (cachable _))
    ((sets none).bind fun _ => keeps_sendWrapped shrinks env i _)

/-- `send_packed_command` adds no entry. -/
theorem keeps_sendPackedCommand (old : Entries F Origin) (commands : List CacheCommand) :
    Keeps (fun s : World F => Recent old s.entries) (sendPackedCommand env i commands) := by
  have numbers : Keeps (fun s : World F => Recent old s.entries)
      (takeNumbers commands.length) := fun _ => id
  apply numbers.bind
  intro first
  exact keeps_sendWrapped (shrinks_recent old) env i _

/-- An entry has the value that its own connection read on a session whose keys are tracked. -/
def Own (i : Nat) (s : World F) (entry : CacheEntry F Origin) : Prop :=
  entry.connectionRef = i ∧ s.Covers entry

/-- The entries are these, those without a value, and those that the connection gave a value to. -/
def Added (i : Nat) (old : Entries F Origin) (s : World F) : Prop :=
  ∀ item ∈ s.entries, item ∈ old ∨ item.2.status = .inProgress ∨ Own i s item.2

/-- Keeping a value changes an entry of the own connection at most. -/
theorem keep_added {old : Entries F Origin} {t : World F} (recent : Recent old t.entries)
    (request : Request) (value : PyVal F)
    (own : ∀ entry, value.isNone = false → t.currentEntry i = some entry →
      entry.connectionRef = i ∧ ∃ session, (t.proxies i).conn.sock = some session ∧
        session.tracking = true) :
    ∃ u, keep config i request value t = .ok () u ∧ Added i old u := by
  cases current : (t.proxies i).currentCommandCacheKey with
  | none =>
    exact ⟨t, keep_other config i request value current, fun item member => (recent item member).imp_right .inl⟩
  | some key =>
    cases nil : value.isNone with
    | true =>
      exact ⟨_, keep_nil config i request current nil, fun item member =>
        (recent item (DefaultCache.mem_deleteByCacheKeys member)).imp_right .inl⟩
    | false =>
      refine ⟨_, keep_value config i request current nil, fun item member => ?_⟩
      have among : item ∈ keptEntries config key request value (t.proxies i).conn.sock t.entries := member
      unfold keptEntries at among
      rcases asked : DefaultCache.get key t.entries with ⟨found, entries⟩
      have earlier {other : CacheKey × CacheEntry F Origin} (stored : other ∈ entries) :
          other ∈ t.entries := by
        have all : other ∈ (DefaultCache.get key t.entries).2 := by
          rw [asked]
          exact stored
        exact DefaultCache.mem_get all
      rw [asked] at among
      cases found with
      | none => exact (recent item (earlier among)).imp_right .inl
      | some entry =>
        have here : t.currentEntry i = some entry := by
          unfold World.currentEntry
          rw [current]
          exact congrArg (·.1) asked
        obtain ⟨same, session, connected, tracked⟩ := own entry nil here
        have kept : Own i (t.kept config i key request value)
            (complete request value (t.proxies i).conn.sock entry) := by
          refine ⟨same, _, session, rfl, connected, tracked, ?_⟩
          show (Function.update t.proxies i _ entry.connectionRef).conn.sock = some session
          rw [same, Function.update_self]
          exact connected
        rcases DefaultCache.mem_set among with new | before
        · rw [new]
          exact .inr (.inr kept)
        · rcases Dict.mem_set before with new | stored
          · rw [new]
            exact .inr (.inr kept)
          · exact (recent item (earlier stored)).imp_right .inl

/-- `read_response` changes an entry of its own connection at most. -/
theorem readResponse_added {s : World F} (own : s.StoresOwn env i) :
    Added i s.entries (stateAfter (readResponse config env i s)) := by
  have recent : Recent s.entries (s.touched i).entries := by
    unfold World.touched
    cases (s.proxies i).currentCommandCacheKey with
    | none => exact fun item member => .inl member
    | some key => exact fun item member => .inl (DefaultCache.mem_get member)
  cases served : s.served i with
  | some entry =>
    rw [readResponse_of_served config env i served]
    exact fun item member => (recent item member).imp_right .inl
  | none =>
    rw [readResponse_of_missed config env i served]
    have reads := keeps_readWrapped (shrinks_recent s.entries) env i _ recent
    cases read : readWrapped env i (s.touched i) with
    | error halt t =>
      rw [read] at reads
      rw [Interruptible.bind_of_error read]
      exact fun item member => (reads item member).imp_right .inl
    | ok reply t =>
      rw [read] at reads
      obtain ⟨u, kept, added⟩ := keep_added config i reads reply.1 reply.2 fun entry some here =>
        own reply t entry read some here
      rw [Interruptible.bind_of_ok read, Interruptible.bind_of_ok kept]
      exact added

/-- What is served was in the cache. -/
theorem mem_of_served {s : World F} {entry : CacheEntry F Origin} (served : s.served i = some entry) :
    entry.status = .valid ∧ ∃ key, (key, entry) ∈ s.entries := by
  obtain ⟨found, valid⟩ := Option.filter_eq_some_iff.mp served
  refine ⟨by simpa using valid, ?_⟩
  unfold World.currentEntry at found
  obtain ⟨key, _, stored⟩ := Option.bind_eq_some_iff.mp found
  exact ⟨key, DefaultCache.mem_of_get stored⟩

end Calls

/-! ## Runs -/

section Runs

variable {config : CacheConfig} {s : World F} {a : ProxyCall F × CacheEnv F}

omit config in
/-- What the server sends leaves the entries alone. -/
theorem entries_server (i : Nat) (value : PyVal F) (names : Option (List Bytes)) (s : World F) :
    (s.answered i value).entries = s.entries ∧ (s.pushed i names).entries = s.entries := by
  unfold World.answered World.pushed
  dsimp only
  constructor
  · cases (s.proxies i).conn.outstanding <;> rfl
  · cases (s.proxies i).conn.sock.any (·.tracking) <;> rfl

/-- Only `read_response` gives values to entries. -/
theorem recent_step (other : ∀ i, a.1 ≠ .readResponse i) : Recent s.entries (s.step config a).entries := by
  have shrinks := shrinks_recent s.entries
  have start : Recent s.entries s.entries := fun item member => .inl member
  obtain ⟨call, env⟩ := a
  cases call with
  | connect i => exact (keeps_connect (P := Recent s.entries) env i).stateAfter start
  | sendCommand i command => exact (keeps_sendCommand config env i s.entries command).stateAfter start
  | sendPackedCommand i commands => exact (keeps_sendPackedCommand env i s.entries commands).stateAfter start
  | readResponse i => exact absurd rfl (other i)
  | disconnect i => exact fun item member => by cases member
  | answer i value =>
    show Recent s.entries (s.answered i value).entries
    rw [(entries_server i value none s).1]
    exact start
  | push i names =>
    show Recent s.entries (s.pushed i names).entries
    rw [(entries_server i .none names s).2]
    exact start
  | lose i => exact start

/-- A step that leaves no value behind keeps all valid entries covered. -/
theorem covered_step (covered : s.Covered) (upholds : s.Upholds config a) : (s.step config a).Covered := by
  have old (outlasts : s.Outlasts config a) {item : CacheKey × CacheEntry F Origin}
      (member : item ∈ s.entries) (valid : item.2.status = .valid) : (s.step config a).Covers item.2 := by
    obtain ⟨origin, session, made, read, tracked, here⟩ := covered item member valid
    exact ⟨origin, session, made, read, tracked, (outlasts item member valid).trans here⟩
  have others (outlasts : s.Outlasts config a) (other : ∀ i, a.1 ≠ .readResponse i) :
      (s.step config a).Covered := by
    intro item member valid
    rcases recent_step other item member with before | new
    · exact old outlasts before valid
    · rw [valid] at new
      cases new
  obtain ⟨call, env⟩ := a
  cases call with
  | disconnect i =>
    intro item member
    cases member
  | readResponse i =>
    intro item member valid
    have added : Added i s.entries (s.step config (.readResponse i, env)) := by
      have kept := readResponse_added config env i upholds.2
      show Added i s.entries (stateAfter ((readResponse config env i >>= fun _ => pure ()) s))
      cases ran : readResponse config env i s with
      | ok reply t =>
        rw [ran] at kept
        rw [Interruptible.bind_of_ok ran]
        exact kept
      | error halt t =>
        rw [ran] at kept
        rw [Interruptible.bind_of_error ran]
        exact kept
    rcases added item member with before | new | own
    · exact old upholds.1 before valid
    · rw [valid] at new
      cases new
    · exact own.2
  | connect i => exact others upholds fun _ same => by cases same
  | sendCommand i command => exact others upholds fun _ same => by cases same
  | sendPackedCommand i commands => exact others upholds fun _ same => by cases same
  | answer i value => exact others upholds fun _ same => by cases same
  | push i names => exact others upholds fun _ same => by cases same
  | lose i => exact others upholds fun _ same => by cases same

/-- In a state whose valid entries are covered, what is served is covered. -/
theorem servesCovered_of_covered (covered : s.Covered) : s.ServesCovered config a := by
  obtain ⟨call, env⟩ := a
  cases call with
  | readResponse i =>
    intro reply t ran cached
    cases served : s.served i with
    | none =>
      rw [readResponse_of_missed config env i served] at ran
      cases read : readWrapped env i (s.touched i) with
      | error halt u =>
        rw [Interruptible.bind_of_error read] at ran
        cases ran
      | ok given u =>
        rw [Interruptible.bind_of_ok read] at ran
        cases kept : keep config i given.1 given.2 u with
        | error halt v =>
          rw [Interruptible.bind_of_error kept] at ran
          cases ran
        | ok _ v =>
          rw [Interruptible.bind_of_ok kept] at ran
          cases ran
          cases cached
    | some entry =>
      rw [readResponse_of_served config env i served] at ran
      cases ran
      obtain ⟨valid, key, member⟩ := mem_of_served i served
      exact ⟨(key, entry), member, valid, rfl, covered _ member valid⟩
  | _ => trivial

end Runs

section Scenario

instance (config : CacheConfig) (s : World F) (a : ProxyCall F × CacheEnv F) :
    Decidable (s.Outlasts config a) :=
  inferInstanceAs (Decidable (∀ item ∈ s.entries, item.2.status = .valid → _ = _))

/-- Everything is cached. -/
def cacheAll : CacheConfig := { maxSize := 100, isAllowedToCache := fun _ => true }

/-- Nothing goes wrong, and every command is answered by its last argument. -/
def calmEnv : CacheEnv Empty where
  opening _ := .tracked
  poll _ _ := none
  health := .notDue
  repeats := false
  written := none
  arriving := []
  answer request :=
    match request.args.getLast? with
    | some (.str text) => .ok (.str text)
    | _ => .ok .none

/-- `GET` of one key. -/
def getCommand (key : String) : CacheCommand :=
  { command := "GET".toList, args := [.str key.toList], keys := some [.str key.toList] }

/-- `GET` twice; in between something may happen. -/
def getTwiceCached (between : List (ProxyCall Empty × CacheEnv Empty)) :
    List (ProxyCall Empty × CacheEnv Empty) :=
  [(.sendCommand 0 (getCommand "a"), calmEnv), (.readResponse 0, calmEnv)] ++ between ++
    [(.sendCommand 0 (getCommand "a"), calmEnv), (.readResponse 0, calmEnv)]

end Scenario

end CacheProxy

end RedisPy
