import RedisPy.Python.Text
import RedisPy.Parsers.Value

/-!
# `asyncio.StreamReader`

The stream under the asyncio parsers: what has arrived and not been taken, the limit on
the length of a line, and what the event loop still brings. Data arrives while a read
waits, or while nobody reads; a cancelled read has taken nothing.
-/

namespace RedisPy

open Interruptible

/-- What the event loop brings to a stream. -/
inductive Wake where
  /-- Data arrives; `meanwhile` says that it does so before the next call begins. -/
  | data (chunk : Bytes) (meanwhile : Bool)
  /-- The server closed the connection. -/
  | eof
  /-- The task that waits is cancelled. -/
  | cancel
deriving DecidableEq

/-- `asyncio.StreamReader`. -/
structure StreamReader where
  /-- `_buffer`: data that arrived and was not taken. -/
  buffer : Bytes
  /-- `_limit`. -/
  limit : Nat
  /-- `_eof`. -/
  ended : Bool
  /-- What is still to come. -/
  incoming : List Wake
deriving DecidableEq

namespace StreamReader

/-- `_DEFAULT_LIMIT` of asyncio streams. -/
def defaultLimit : Nat := 65536

/-- `_wait_for_data`. -/
def waitForData : EStateM Stop StreamReader Unit := fun s =>
  match s.incoming with
  | [] => .error .blocked s
  | .data chunk _ :: rest => .ok () { s with buffer := s.buffer ++ chunk, incoming := rest }
  | .eof :: rest => .ok () { s with ended := true, incoming := rest }
  | .cancel :: rest => .error (.ofClass .cancelledError) { s with incoming := rest }

/-- The loop of `readuntil(b"\n")` with the handlers of `readline`; every pass waits once. -/
def readlineLoop : Nat → StreamReader → EStateM.Result Stop StreamReader Bytes
  | 0, s => .error .blocked s
  | passes + 1, s =>
    if 10 ∈ s.buffer then
      let line := firstLine s.buffer
      let left := { s with buffer := s.buffer.drop line.length }
      -- `LimitOverrunError` becomes `ValueError`, and the line is dropped
      if line.length - 1 > s.limit then .error (.ofClass .valueError) left else .ok line left
    else if s.buffer.length > s.limit then .error (.ofClass .valueError) { s with buffer := [] }
    else if s.ended then .ok s.buffer { s with buffer := [] }
    else
      match waitForData s with
      | .ok _ t => readlineLoop passes t
      | .error e t => .error e t

/-- `readline`. -/
def readline : EStateM Stop StreamReader Bytes := fun s => readlineLoop (s.incoming.length + 1) s

/-- The loop of `readexactly`; `none` is `IncompleteReadError`. -/
def readexactlyLoop (n : Nat) :
    Nat → StreamReader → EStateM.Result Stop StreamReader (Option Bytes)
  | 0, s => .error .blocked s
  | passes + 1, s =>
    if n ≤ s.buffer.length then .ok (some (s.buffer.take n)) { s with buffer := s.buffer.drop n }
    else if s.ended then .ok none { s with buffer := [] }
    else
      match waitForData s with
      | .ok _ t => readexactlyLoop n passes t
      | .error e t => .error e t

/-- `readexactly`. -/
def readexactly (n : Int) : EStateM Stop StreamReader (Option Bytes) := fun s =>
  if n < 0 then .error (.ofClass .valueError) s
  else readexactlyLoop n.toNat (s.incoming.length + 1) s

/-- `at_eof`. -/
def atEof (s : StreamReader) : Bool := s.ended && s.buffer.isEmpty

/-- The data that is still to come. -/
def arrivals : List Wake → Bytes
  | [] => []
  | .data chunk _ :: rest => chunk ++ arrivals rest
  | .eof :: rest => arrivals rest
  | .cancel :: rest => arrivals rest

/-- Everything the stream has or will have. -/
def content (s : StreamReader) : Bytes := s.buffer ++ arrivals s.incoming

/-- The cancellations that are still to come. -/
def cancels : List Wake → Nat
  | [] => 0
  | .data _ _ :: rest => cancels rest
  | .eof :: rest => cancels rest
  | .cancel :: rest => cancels rest + 1

/-- The event loop brings data and cancellations only. -/
def open' : Wake → Prop
  | .data chunk _ => chunk ≠ []
  | .eof => False
  | .cancel => True

/-- What arrives while nobody reads. -/
def arrive (s : StreamReader) : List Wake → StreamReader
  | .data chunk true :: rest => arrive { s with buffer := s.buffer ++ chunk, incoming := rest } rest
  | _ => s

/-! ## Streams without end -/

/-- A stream that stays open, with its limit. -/
structure Live (limit : Nat) (s : StreamReader) : Prop where
  /-- The limit is fixed. -/
  limit : s.limit = limit
  /-- The end was not reached. -/
  running : s.ended = false
  /-- Nor will it be. -/
  incoming : ∀ wake ∈ s.incoming, open' wake

/-- How a read in front of `data` ends when it takes `data` and leaves the rest. -/
structure Took (limit : Nat) (s t : StreamReader) (data : Bytes) : Prop where
  /-- The stream stays open. -/
  live : Live limit t
  /-- The data is gone from the front. -/
  content : s.content = data ++ t.content
  /-- No cancellation is added. -/
  cancels : cancels t.incoming ≤ cancels s.incoming

/-- How a read ends that is cancelled. -/
structure Cancelled (limit : Nat) (s t : StreamReader) : Prop where
  /-- The stream stays open. -/
  live : Live limit t
  /-- Nothing was taken. -/
  content : s.content = t.content
  /-- One cancellation was used. -/
  cancels : StreamReader.cancels t.incoming < StreamReader.cancels s.incoming

/-- Waiting on a live stream for data that will come: more arrives, or the wait is cancelled. -/
theorem waitForData_live {limit : Nat} {s : StreamReader} (live : Live limit s)
    (more : arrivals s.incoming ≠ []) :
    match waitForData s with
    | .ok _ t => Took limit s t [] ∧ t.incoming.length < s.incoming.length
    | .error e t => e = .ofClass .cancelledError ∧ Cancelled limit s t := by
  unfold waitForData
  cases queue : s.incoming with
  | nil =>
    rw [queue] at more
    exact absurd rfl more
  | cons wake rest =>
    have others : ∀ other ∈ rest, open' other := fun other member =>
      live.incoming other (by rw [queue]; exact List.mem_cons_of_mem wake member)
    have head : open' wake := live.incoming wake (by rw [queue]; exact List.mem_cons_self)
    cases wake with
    | data chunk meanwhile =>
      refine ⟨⟨⟨live.limit, live.running, others⟩, ?_, ?_⟩, ?_⟩
      · simp [content, queue, arrivals]
      · exact Nat.le_of_eq (by rw [queue, cancels])
      · rw [List.length_cons]
        exact Nat.lt_succ_self _
    | eof => exact head.elim
    | cancel =>
      refine ⟨rfl, ⟨live.limit, live.running, others⟩, ?_, ?_⟩
      · simp [content, queue, arrivals]
      · rw [queue, cancels]
        exact Nat.lt_succ_self _

/-- A read that starts where another left off. -/
theorem Took.trans {limit : Nat} {s t u : StreamReader} {data : Bytes} (first : Took limit s t [])
    (second : Took limit t u data) : Took limit s u data :=
  ⟨second.live, by rw [first.content, List.nil_append, second.content],
    Nat.le_trans second.cancels first.cancels⟩

/-- A cancellation after some waiting. -/
theorem Took.cancelled {limit : Nat} {s t u : StreamReader} (first : Took limit s t [])
    (second : Cancelled limit t u) : Cancelled limit s u :=
  ⟨second.live, by rw [first.content, List.nil_append, second.content],
    Nat.lt_of_lt_of_le second.cancels first.cancels⟩

/-- The loop of `readline` in front of a line: it takes the line, or it is cancelled, or the
line is longer than the limit. -/
theorem readlineLoop_line {limit : Nat} {line rest : Bytes} (plain : 10 ∉ line) (passes : Nat)
    {s : StreamReader} (live : Live limit s) (enough : s.incoming.length < passes)
    (stream : s.content = line ++ (crlf ++ rest)) :
    match readlineLoop passes s with
    | .ok data t => data = line ++ crlf ∧ line.length < limit ∧ Took limit s t (line ++ crlf)
    | .error e t => e = .ofClass .cancelledError ∧ Cancelled limit s t ∨
        e = .ofClass .valueError ∧ limit ≤ line.length := by
  induction passes generalizing s with
  | zero => omega
  | succ passes ih =>
    have joined : s.buffer ++ arrivals s.incoming = (line ++ [13]) ++ 10 :: rest := by
      have same : s.buffer ++ arrivals s.incoming = line ++ (crlf ++ rest) := stream
      rw [same]
      simp [crlf]
    have plainEnd : 10 ∉ line ++ [13] := by simp [plain]
    rw [readlineLoop]
    by_cases found : 10 ∈ s.buffer
    · obtain ⟨before, after, split, first⟩ := List.eq_append_cons_of_mem found
      rw [split, List.append_assoc, List.cons_append] at joined
      obtain ⟨lines, rests⟩ := line_unique first plainEnd joined
      have whole : firstLine s.buffer = line ++ crlf := by
        rw [split, firstLine_append first, lines]
        simp [crlf]
      have width : (line ++ crlf).length = line.length + 2 := by simp [crlf]
      have left : s.buffer.drop (line ++ crlf).length = after := by
        rw [split, lines, List.append_cons, show line ++ [13] ++ [10] = line ++ crlf by simp [crlf],
          List.drop_left]
      simp only [if_pos found, whole, left]
      by_cases long : (line ++ crlf).length - 1 > s.limit
      · rw [if_pos long]
        have := live.limit
        exact .inr ⟨rfl, by omega⟩
      · rw [if_neg long]
        have := live.limit
        refine ⟨rfl, by omega, ⟨live.limit, live.running, live.incoming⟩, ?_, Nat.le_refl _⟩
        rw [stream, ← rests, List.append_assoc]
        rfl
    · rw [if_neg found]
      have part : s.buffer.length ≤ line.length + 1 := by
        by_contra longer
        -- the buffer would reach the line feed
        have inside : (10 : UInt8) ∈ (s.buffer ++ arrivals s.incoming).take s.buffer.length := by
          rw [joined, List.take_append, List.length_append, List.length_singleton]
          have room : s.buffer.length - (line.length + 1) =
              (s.buffer.length - (line.length + 1) - 1) + 1 := by omega
          rw [room, List.take_succ_cons]
          simp
        rw [List.take_left] at inside
        exact found inside
      by_cases long : s.buffer.length > s.limit
      · rw [if_pos long]
        have := live.limit
        exact .inr ⟨rfl, by omega⟩
      · have running : ¬s.ended = true := by rw [live.running]; decide
        rw [if_neg long, if_neg running]
        have more : arrivals s.incoming ≠ [] := by
          intro none
          rw [none, List.append_nil] at joined
          exact found (by rw [joined]; simp)
        have waited := waitForData_live live more
        cases ran : waitForData s with
        | error e t =>
          rw [ran] at waited
          exact .inl waited
        | ok value t =>
          rw [ran] at waited
          obtain ⟨took, fewer⟩ := waited
          have same : t.content = line ++ (crlf ++ rest) := by
            rw [← stream, took.content, List.nil_append]
          have next := ih took.live (by omega) same
          show match readlineLoop passes t with | .ok _ _ => _ | .error _ _ => _
          cases ended : readlineLoop passes t with
          | ok data u =>
            rw [ended] at next
            exact ⟨next.1, next.2.1, took.trans next.2.2⟩
          | error e u =>
            rw [ended] at next
            exact next.imp (fun h => ⟨h.1, took.cancelled h.2⟩) id

/-- The loop of `readexactly` in front of that many octets: it takes them or is cancelled. -/
theorem readexactlyLoop_data {limit : Nat} {data rest : Bytes} (passes : Nat) {s : StreamReader}
    (live : Live limit s) (enough : s.incoming.length < passes)
    (stream : s.content = data ++ rest) :
    match readexactlyLoop data.length passes s with
    | .ok found t => found = some data ∧ Took limit s t data
    | .error e t => e = .ofClass .cancelledError ∧ Cancelled limit s t := by
  induction passes generalizing s with
  | zero => omega
  | succ passes ih =>
    have joined : s.buffer ++ arrivals s.incoming = data ++ rest := stream
    rw [readexactlyLoop]
    by_cases full : data.length ≤ s.buffer.length
    · have front : s.buffer.take data.length = data := by
        have cut : (s.buffer ++ arrivals s.incoming).take data.length =
            s.buffer.take data.length := List.take_append_of_le_length full
        rw [← cut, joined, List.take_left]
      rw [if_pos full, front]
      refine ⟨rfl, ⟨live.limit, live.running, live.incoming⟩, ?_, Nat.le_refl _⟩
      show s.buffer ++ arrivals s.incoming = data ++ (s.buffer.drop data.length ++ _)
      rw [← List.append_assoc]
      congr 1
      calc s.buffer = s.buffer.take data.length ++ s.buffer.drop data.length :=
            (List.take_append_drop _ _).symm
        _ = data ++ s.buffer.drop data.length := by rw [front]
    · have running : ¬s.ended = true := by rw [live.running]; decide
      rw [if_neg full, if_neg running]
      have more : arrivals s.incoming ≠ [] := by
        intro none
        have lengths := congrArg List.length joined
        rw [none, List.append_nil, List.length_append] at lengths
        omega
      have waited := waitForData_live live more
      cases ran : waitForData s with
      | error e t =>
        rw [ran] at waited
        exact waited
      | ok value t =>
        rw [ran] at waited
        obtain ⟨took, fewer⟩ := waited
        have same : t.content = data ++ rest := by
          rw [← stream, took.content, List.nil_append]
        have next := ih took.live (by omega) same
        show match readexactlyLoop data.length passes t with | .ok _ _ => _ | .error _ _ => _
        cases ended : readexactlyLoop data.length passes t with
        | ok found u =>
          rw [ended] at next
          exact ⟨next.1, took.trans next.2⟩
        | error e u =>
          rw [ended] at next
          exact ⟨next.1, took.cancelled next.2⟩

/-- Data that arrives while nobody reads changes nothing but where it is. -/
theorem arrive_live {limit : Nat} (events : List Wake) {s : StreamReader} (live : Live limit s)
    (here : s.incoming = events) : Took limit s (s.arrive events) [] := by
  induction events generalizing s with
  | nil => exact ⟨live, by simp [arrive], Nat.le_refl _⟩
  | cons wake rest ih =>
    have stay : Took limit s s [] := ⟨live, by simp, Nat.le_refl _⟩
    cases wake with
    | data chunk meanwhile =>
      cases meanwhile with
      | false => exact stay
      | true =>
        have others : ∀ other ∈ rest, open' other := fun other member =>
          live.incoming other (by rw [here]; exact List.mem_cons_of_mem _ member)
        have moved : Took limit s { s with buffer := s.buffer ++ chunk, incoming := rest } [] := by
          refine ⟨⟨live.limit, live.running, others⟩, ?_, ?_⟩
          · simp [content, here, arrivals]
          · exact Nat.le_of_eq (by rw [here, cancels])
        have later : Took limit { s with buffer := s.buffer ++ chunk, incoming := rest } _ [] :=
          ih ⟨live.limit, live.running, others⟩ rfl
        exact moved.trans later
    | eof => exact stay
    | cancel => exact stay

/-! ## Cancellations -/

/-- For each cancellation that is still to come, the number of octets that arrive after it. -/
def outages : List Wake → List Nat
  | [] => []
  | .data _ _ :: rest => outages rest
  | .eof :: rest => outages rest
  | .cancel :: rest => (arrivals rest).length :: outages rest

/-- Every cancellation is counted. -/
theorem outages_length (events : List Wake) : (outages events).length = cancels events := by
  induction events with
  | nil => rfl
  | cons wake events ih =>
    cases wake with
    | cancel => exact congrArg (· + 1) ih
    | _ => exact ih

/-- Nothing was cancelled on the way. -/
structure Calm (s t : StreamReader) : Prop where
  /-- The cancellations are still to come. -/
  outages : outages t.incoming = outages s.incoming
  /-- Data only moves. -/
  coming : (arrivals t.incoming).length ≤ (arrivals s.incoming).length

/-- The next cancellation happened. -/
structure Broken (s t : StreamReader) : Prop where
  /-- It is used up. -/
  outages : outages s.incoming = (arrivals t.incoming).length :: outages t.incoming
  /-- Data only moves. -/
  coming : (arrivals t.incoming).length ≤ (arrivals s.incoming).length

/-- Waiting without a cancellation. -/
theorem Calm.trans {s t u : StreamReader} (first : Calm s t) (second : Calm t u) : Calm s u :=
  ⟨second.outages.trans first.outages, Nat.le_trans second.coming first.coming⟩

/-- A cancellation after some waiting. -/
theorem Calm.broken {s t u : StreamReader} (first : Calm s t) (second : Broken t u) : Broken s u :=
  ⟨first.outages.symm.trans second.outages, Nat.le_trans second.coming first.coming⟩

/-- A wait ends with the next event. -/
theorem waitForData_calm (s : StreamReader) :
    match waitForData s with
    | .ok _ t => Calm s t
    | .error e t => e = .ofClass .cancelledError → Broken s t ∧ t.buffer = s.buffer := by
  unfold waitForData
  cases queue : s.incoming with
  | nil =>
    intro wrong
    cases wrong
  | cons wake rest =>
    cases wake with
    | data chunk meanwhile =>
      refine ⟨by rw [queue]; rfl, ?_⟩
      rw [queue, arrivals, List.length_append]
      exact Nat.le_add_left _ _
    | eof => exact ⟨by rw [queue]; rfl, by rw [queue]; exact Nat.le_refl _⟩
    | cancel =>
      intro _
      exact ⟨⟨by rw [queue]; rfl, by rw [queue]; exact Nat.le_refl _⟩, rfl⟩

/-- A cancelled `readline` has no whole line. -/
theorem readlineLoop_calm (passes : Nat) (s : StreamReader) :
    match readlineLoop passes s with
    | .ok _ t => Calm s t
    | .error e t => e = .ofClass .cancelledError → Broken s t ∧ 10 ∉ t.buffer := by
  have other : Stop.ofClass .valueError ≠ .ofClass .cancelledError := by decide
  induction passes generalizing s with
  | zero =>
    intro wrong
    cases wrong
  | succ passes ih =>
    rw [readlineLoop]
    by_cases found : 10 ∈ s.buffer
    · simp only [if_pos found]
      by_cases long : (firstLine s.buffer).length - 1 > s.limit
      · rw [if_pos long]
        exact fun wrong => absurd wrong other
      · rw [if_neg long]
        exact ⟨rfl, Nat.le_refl _⟩
    · rw [if_neg found]
      by_cases long : s.buffer.length > s.limit
      · rw [if_pos long]
        exact fun wrong => absurd wrong other
      · rw [if_neg long]
        by_cases ended : s.ended = true
        · rw [if_pos ended]
          exact ⟨rfl, Nat.le_refl _⟩
        · rw [if_neg ended]
          have waited := waitForData_calm s
          cases ran : waitForData s with
          | error e t =>
            rw [ran] at waited
            intro cancelled
            obtain ⟨broken, same⟩ := waited cancelled
            exact ⟨broken, by rw [same]; exact found⟩
          | ok value t =>
            rw [ran] at waited
            have next := ih t
            show match readlineLoop passes t with | .ok _ _ => _ | .error _ _ => _
            cases final : readlineLoop passes t with
            | ok data u =>
              rw [final] at next
              exact waited.trans next
            | error e u =>
              rw [final] at next
              exact fun cancelled => ⟨waited.broken (next cancelled).1, (next cancelled).2⟩

/-- What has no line feed ends before the one of the line. -/
theorem part_of_plain {line rest : Bytes} {t : StreamReader}
    (stream : t.content = line ++ (crlf ++ rest)) (plain : 10 ∉ t.buffer) :
    t.buffer.length < line.length + 2 := by
  by_contra enough
  have front : line ++ crlf <+: t.content := ⟨rest, by rw [stream, List.append_assoc]⟩
  have width : (line ++ crlf).length = line.length + 2 := by simp [crlf]
  have whole : line ++ crlf <+: t.buffer :=
    List.prefix_of_prefix_length_le front (List.prefix_append _ _) (by omega)
  exact plain (whole.subset (by simp [crlf]))

/-- A cancelled `readexactly` has less than it wants. -/
theorem readexactlyLoop_calm (n passes : Nat) (s : StreamReader) :
    match readexactlyLoop n passes s with
    | .ok _ t => Calm s t
    | .error e t => e = .ofClass .cancelledError → Broken s t ∧ t.buffer.length < n := by
  induction passes generalizing s with
  | zero =>
    intro wrong
    cases wrong
  | succ passes ih =>
    rw [readexactlyLoop]
    by_cases full : n ≤ s.buffer.length
    · rw [if_pos full]
      exact ⟨rfl, Nat.le_refl _⟩
    · rw [if_neg full]
      by_cases ended : s.ended = true
      · rw [if_pos ended]
        exact ⟨rfl, Nat.le_refl _⟩
      · rw [if_neg ended]
        have waited := waitForData_calm s
        cases ran : waitForData s with
        | error e t =>
          rw [ran] at waited
          intro cancelled
          obtain ⟨broken, same⟩ := waited cancelled
          exact ⟨broken, by rw [same]; omega⟩
        | ok value t =>
          rw [ran] at waited
          have next := ih t
          show match readexactlyLoop n passes t with | .ok _ _ => _ | .error _ _ => _
          cases final : readexactlyLoop n passes t with
          | ok data u =>
            rw [final] at next
            exact waited.trans next
          | error e u =>
            rw [final] at next
            exact fun cancelled => ⟨waited.broken (next cancelled).1, (next cancelled).2⟩

/-- Data that arrives while nobody reads cancels nothing. -/
theorem arrive_calm (events : List Wake) {s : StreamReader} (here : s.incoming = events) :
    Calm s (s.arrive events) := by
  induction events generalizing s with
  | nil => exact ⟨rfl, Nat.le_refl _⟩
  | cons wake rest ih =>
    have stay : Calm s s := ⟨rfl, Nat.le_refl _⟩
    cases wake with
    | data chunk meanwhile =>
      cases meanwhile with
      | false => exact stay
      | true =>
        have moved : Calm s { s with buffer := s.buffer ++ chunk, incoming := rest } := by
          refine ⟨by rw [here]; rfl, ?_⟩
          rw [here, arrivals, List.length_append]
          exact Nat.le_add_left _ _
        have later : Calm { s with buffer := s.buffer ++ chunk, incoming := rest } _ := ih rfl
        exact moved.trans later
    | eof => exact stay
    | cancel => exact stay

/-- With nothing to come, a line is never completed. -/
theorem readline_idle {limit : Nat} {s : StreamReader} (live : Live limit s)
    (nothing : s.content = []) :
    ∃ e t, readline s = .error e t ∧ Live limit t ∧ t.content = [] := by
  have empty : s.buffer = [] := (List.append_eq_nil_iff.mp nothing).1
  have quiet : arrivals s.incoming = [] := (List.append_eq_nil_iff.mp nothing).2
  have noFeed : ¬(10 : UInt8) ∈ ([] : Bytes) := by simp
  have short : ¬([] : Bytes).length > s.limit := by simp
  have running : ¬s.ended = true := by rw [live.running]; decide
  rw [readline, readlineLoop, empty, if_neg noFeed, if_neg short, if_neg running, waitForData]
  cases queue : s.incoming with
  | nil => exact ⟨_, s, rfl, live, nothing⟩
  | cons wake rest =>
    have head : open' wake := live.incoming wake (by rw [queue]; exact List.mem_cons_self)
    rw [queue] at quiet
    cases wake with
    | data chunk meanwhile => exact absurd (List.append_eq_nil_iff.mp quiet).1 head
    | eof => exact head.elim
    | cancel =>
      have others : ∀ other ∈ rest, open' other := fun other member =>
        live.incoming other (by rw [queue]; exact List.mem_cons_of_mem _ member)
      refine ⟨_, _, rfl, ⟨live.limit, live.running, others⟩, ?_⟩
      show s.buffer ++ arrivals rest = []
      rw [empty]
      exact quiet

end StreamReader

end RedisPy
