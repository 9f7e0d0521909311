import RedisPy.Parsers.Resp

/-!
# The blocking parsers

`SocketBuffer` with its read position, and `read_response` of the two blocking
parsers over it. The socket is the list of what its `recv` calls find, in order; a call
beyond the list waits for data that does not come.
-/

namespace RedisPy

open Interruptible

/-- What one `recv` finds. -/
inductive Recv where
  /-- Octets; an empty string says that the server closed the connection. -/
  | data (chunk : Bytes)
  /-- `socket.timeout`. -/
  | timeout
  /-- One of `NONBLOCKING_EXCEPTIONS`, with the allowed error number or another one. -/
  | nonblocking (allowed : Bool)
  /-- Any other `OSError`. -/
  | osError
deriving DecidableEq

/-- `SocketBuffer`: the `BytesIO` with its position, and the socket behind it. -/
structure SocketBuffer where
  /-- `self._buffer`, whole. -/
  buffer : Bytes
  /-- `self._buffer.tell()`. -/
  pos : Nat
  /-- What `self._sock` still delivers. -/
  socket : List Recv
deriving DecidableEq

namespace SocketBuffer

/-- A new buffer over a socket. -/
def connected (socket : List Recv) : SocketBuffer := { buffer := [], pos := 0, socket }

/-- The octets that were received and not read. -/
def unread (s : SocketBuffer) : Bytes := s.buffer.drop s.pos

/-- `unread_bytes`. -/
def unreadBytes (s : SocketBuffer) : Int := s.buffer.length - s.pos

/-- The loop of `_read_from_socket`; `marker` counts the octets received so far. -/
def recvLoop (length : Option Int) (raiseOnTimeout : Bool) (marker : Nat) (s : SocketBuffer) :
    List Recv → EStateM.Result Stop SocketBuffer Bool
  | [] => .error .blocked { s with socket := [] }
  | .data chunk :: rest =>
    if chunk = [] then .error (.ofClass .connectionError) { s with socket := rest }
    else
      let grown := { s with buffer := s.buffer ++ chunk, socket := rest }
      if length.any (fun wanted => wanted > ((marker + chunk.length : Nat) : Int)) then
        recvLoop length raiseOnTimeout (marker + chunk.length) grown rest
      else .ok true grown
  | .timeout :: rest =>
    if raiseOnTimeout then .error (.ofClass .timeoutError) { s with socket := rest }
    else .ok false { s with socket := rest }
  | .nonblocking allowed :: rest =>
    if !raiseOnTimeout && allowed then .ok false { s with socket := rest }
    else .error (.ofClass .connectionError) { s with socket := rest }
  | .osError :: rest => .error (.ofClass .osError) { s with socket := rest }

/-- `_read_from_socket`: new octets go to the end of the buffer and the position stays. -/
def readFromSocket (length : Option Int) (raiseOnTimeout : Bool) : EStateM Stop SocketBuffer Bool :=
  fun s => recvLoop length raiseOnTimeout 0 s s.socket

/-- `can_read`. -/
def canRead : EStateM Stop SocketBuffer Bool := do
  let s ← get
  if s.unreadBytes ≠ 0 then pure true else readFromSocket none false

/-- `BytesIO.read(length)`: a negative length reads everything. -/
def bufferRead (length : Int) : EStateM Stop SocketBuffer Bytes := fun s =>
  let data := if length < 0 then s.unread else s.unread.take length.toNat
  .ok data { s with pos := s.pos + data.length }

/-- `BytesIO.readline()`. -/
def bufferReadline : EStateM Stop SocketBuffer Bytes := fun s =>
  .ok (firstLine s.unread) { s with pos := s.pos + (firstLine s.unread).length }

/-- `read`. -/
def read (length : Int) : EStateM Stop SocketBuffer Bytes := do
  let length := length + 2
  let data ← bufferRead length
  let missing := length - data.length
  if missing ≠ 0 then do
    let _ ← readFromSocket (some missing) true
    let more ← bufferRead missing
    pure (dropTerminator (data ++ more))
  else pure (dropTerminator data)

/-- The loop of `readline`; every pass receives at least once. -/
def readlineLoop : Nat → Bytes → EStateM Stop SocketBuffer Bytes
  | 0, _ => throw .blocked
  | passes + 1, data =>
    if crlf <:+ data then pure (dropTerminator data)
    else do
      let _ ← readFromSocket none true
      let more ← bufferReadline
      readlineLoop passes (data ++ more)

/-- `readline`. -/
def readline : EStateM Stop SocketBuffer Bytes := do
  let s ← get
  let data ← bufferReadline
  readlineLoop (s.socket.length + 1) data

/-- `rewind`. -/
def rewind (pos : Nat) (s : SocketBuffer) : SocketBuffer := { s with pos }

/-- `purge`: only a buffer that was read completely is emptied. -/
def purge (s : SocketBuffer) : SocketBuffer :=
  if s.unreadBytes > 0 then s else { s with buffer := [], pos := 0 }

/-- The octets that the socket still delivers. -/
def arrivals : List Recv → Bytes
  | [] => []
  | .data chunk :: rest => chunk ++ arrivals rest
  | .timeout :: rest => arrivals rest
  | .nonblocking _ :: rest => arrivals rest
  | .osError :: rest => arrivals rest

/-- All octets in reach: no reply within reach is nested deeper than that. -/
def available (s : SocketBuffer) : Nat := s.unread.length + (arrivals s.socket).length

/-- The frame of `read_response`: an exception rewinds to where the call started. -/
def readResponse {α : Type} (readReply : Nat → EStateM Stop SocketBuffer α) :
    EStateM Stop SocketBuffer α := fun s =>
  match readReply (s.available + 1) s with
  | .ok result t => .ok result t.purge
  | .error e t => .error e (t.rewind s.pos)

end SocketBuffer

variable {F : Type}

/-- The operations of the blocking parsers. -/
def SocketBuffer.ops (handlers : PushHandlers SocketBuffer F) : Ops SocketBuffer F where
  readline := SocketBuffer.readline
  read := SocketBuffer.read
  emptyLine := .connectionError
  onConnectionError := pure ()
  pubsubPush := handlers.pubsub
  invalidationPush := handlers.invalidation

/-- `_RESP2Parser.read_response` and `_RESP3Parser.read_response`, without a push request. -/
def parserReadResponse [PyFloat F] (handlers : PushHandlers SocketBuffer F) (decoding : Decoding) :
    Protocol → EStateM Stop SocketBuffer (PyVal F)
  | .resp2 => SocketBuffer.readResponse fun depth =>
    Resp2.readReply (SocketBuffer.ops handlers) decoding depth
  | .resp3 => SocketBuffer.readResponse fun depth =>
    Resp3.readReply (SocketBuffer.ops handlers) decoding depth false

namespace SocketBuffer

/-! ## Receiving -/

/-- A `recv` of a session without failures: octets or a timeout. -/
def orderly : Recv → Prop
  | .data chunk => chunk ≠ []
  | .timeout => True
  | _ => False

/-- The timeouts that are still to come. -/
def timeouts : List Recv → Nat
  | [] => 0
  | .timeout :: rest => timeouts rest + 1
  | .data _ :: rest => timeouts rest
  | .nonblocking _ :: rest => timeouts rest
  | .osError :: rest => timeouts rest

/-- For each timeout that is still to come, the number of octets that arrive after it. -/
def outages : List Recv → List Nat
  | [] => []
  | .timeout :: rest => (arrivals rest).length :: outages rest
  | .data _ :: rest => outages rest
  | .nonblocking _ :: rest => outages rest
  | .osError :: rest => outages rest

/-- Every timeout is counted. -/
theorem outages_length (events : List Recv) : (outages events).length = timeouts events := by
  induction events with
  | nil => rfl
  | cons event events ih =>
    cases event with
    | timeout => exact congrArg (· + 1) ih
    | _ => exact ih

/-- Octets move from the socket to the end of the buffer, and nothing else happens to them. -/
structure Moved (s t : SocketBuffer) (got : Bytes) : Prop where
  /-- They are appended. -/
  buffer : t.buffer = s.buffer ++ got
  /-- They are the next ones of the socket. -/
  arrivals : arrivals s.socket = got ++ arrivals t.socket
  /-- The socket is used from the front. -/
  socket : t.socket <:+ s.socket

/-- Nothing moves in no time. -/
theorem Moved.refl (s : SocketBuffer) : Moved s s [] := ⟨by simp, by simp, List.suffix_refl _⟩

/-- Moves add up. -/
theorem Moved.trans {s t u : SocketBuffer} {first second : Bytes} (one : Moved s t first)
    (two : Moved t u second) : Moved s u (first ++ second) := by
  refine ⟨?_, ?_, two.socket.trans one.socket⟩
  · rw [two.buffer, one.buffer, List.append_assoc]
  · rw [one.arrivals, two.arrivals, List.append_assoc]

/-- Later sockets have fewer timeouts to come. -/
theorem timeouts_suffix {before after : List Recv} (suffix : after <:+ before) :
    timeouts after ≤ timeouts before := by
  obtain ⟨used, same⟩ := suffix
  rw [← same]
  clear same
  induction used with
  | nil => simp
  | cons event used ih =>
    cases event with
    | timeout =>
      rw [List.cons_append, timeouts]
      omega
    | _ => exact ih

/-- How `_read_from_socket` ends on an orderly socket. -/
structure Received (length : Option Int) (marker : Nat) (s t : SocketBuffer) (got : Bytes) :
    Prop where
  /-- The position is restored. -/
  pos : t.pos = s.pos
  /-- Octets were appended. -/
  moved : Moved s t got
  /-- Some octets. -/
  some : got ≠ []
  /-- As many as were wanted. -/
  enough : ∀ wanted ∈ length, wanted ≤ marker + got.length
  /-- No timeout was met. -/
  outages : outages t.socket = outages s.socket

/-- The receive loop appends what it receives until there is enough, or a timeout stops it, or
the socket has less than is wanted. -/
theorem recvLoop_orderly (length : Option Int) (events : List Recv)
    (peaceful : ∀ event ∈ events, orderly event) (marker : Nat) (s : SocketBuffer)
    (here : s.socket = events) :
    match recvLoop length true marker s events with
    | .ok _ t => ∃ got, Received length marker s t got
    | .error e t => (∃ got, Moved s t got ∧
        (got = [] ∨ ∃ wanted ∈ length, marker + (got.length : Int) < wanted)) ∧
      (e = .ofClass .timeoutError ∧
          outages s.socket = (arrivals t.socket).length :: outages t.socket ∨
        e = .blocked ∧ (arrivals events = [] ∨
          ∃ wanted ∈ length, marker + (arrivals events).length < wanted)) := by
  induction events generalizing marker s with
  | nil =>
    refine ⟨⟨[], ?_, .inl rfl⟩, .inr ⟨rfl, .inl rfl⟩⟩
    exact ⟨by simp, by simp [here, arrivals], by simp⟩
  | cons event events ih =>
    have others : ∀ other ∈ events, orderly other :=
      fun other member => peaceful other (List.mem_cons_of_mem event member)
    have head := peaceful event List.mem_cons_self
    cases event with
    | data chunk =>
      have nonempty : chunk ≠ [] := head
      have grown : Moved s { s with buffer := s.buffer ++ chunk, socket := events } chunk := by
        refine ⟨rfl, ?_, ?_⟩
        · rw [here, arrivals]
        · rw [here]
          exact List.suffix_cons _ _
      rw [recvLoop, if_neg nonempty]
      by_cases more :
          length.any (fun wanted => wanted > ((marker + chunk.length : Nat) : Int)) = true
      · rw [if_pos more]
        have next := ih others (marker + chunk.length)
          { s with buffer := s.buffer ++ chunk, socket := events } rfl
        cases ran : recvLoop length true (marker + chunk.length)
          { s with buffer := s.buffer ++ chunk, socket := events } events with
        | ok value t =>
          rw [ran] at next
          obtain ⟨got, received⟩ := next
          refine ⟨chunk ++ got, received.pos, grown.trans received.moved, ?_, ?_, ?_⟩
          · simp [nonempty]
          · intro wanted member
            have := received.enough wanted member
            rw [List.length_append]
            omega
          · rw [received.outages, here]
            rfl
        | error e t =>
          rw [ran] at next
          obtain ⟨⟨got, moved, part⟩, cause⟩ := next
          obtain ⟨wanted, found, large⟩ := (Option.any_eq_true _ _).mp more
          simp only [decide_eq_true_eq] at large
          refine ⟨⟨chunk ++ got, grown.trans moved, .inr ⟨wanted, found, ?_⟩⟩, ?_⟩
          · rw [List.length_append]
            rcases part with none | ⟨other, same, less⟩
            · rw [none, List.length_nil]
              omega
            · have : other = wanted := Option.some.inj (same.symm.trans found)
              omega
          rcases cause with ⟨timeout, fewer⟩ | ⟨blocked, short⟩
          · refine .inl ⟨timeout, ?_⟩
            rw [here]
            exact fewer
          · refine .inr ⟨blocked, .inr ?_⟩
            refine ⟨wanted, found, ?_⟩
            rw [arrivals, List.length_append]
            rcases short with none | ⟨other, same, less⟩
            · rw [none, List.length_nil]
              omega
            · have : other = wanted := Option.some.inj (same.symm.trans found)
              omega
      · rw [if_neg more]
        refine ⟨chunk, rfl, grown, nonempty, ?_, ?_⟩
        · intro wanted member
          have found : length = some wanted := member
          simp only [found, Option.any_some, decide_eq_true_eq] at more
          omega
        · rw [here]
          rfl
    | timeout =>
      refine ⟨⟨[], ?_, .inl rfl⟩, .inl ⟨rfl, by rw [here]; rfl⟩⟩
      refine ⟨by simp, ?_, ?_⟩
      · rw [here, arrivals, List.nil_append]
      · rw [here]
        exact List.suffix_cons _ _
    | nonblocking allowed => exact head.elim
    | osError => exact head.elim

/-- An orderly socket stays orderly. -/
theorem Moved.peaceful {s t : SocketBuffer} {got : Bytes} (moved : Moved s t got)
    (peaceful : ∀ event ∈ s.socket, orderly event) : ∀ event ∈ t.socket, orderly event :=
  fun event member => peaceful event (moved.socket.subset member)

/-- After a move the unread octets are the old ones and the new ones. -/
theorem Moved.unread {s t : SocketBuffer} {got : Bytes} (moved : Moved s t got)
    (bound : s.pos ≤ s.buffer.length) (pos : t.pos = s.pos) : t.unread = s.unread ++ got := by
  rw [SocketBuffer.unread, SocketBuffer.unread, moved.buffer, pos, List.drop_append_of_le_length bound]

/-! ## The source -/

/-- The pieces are the next octets, in the buffer or on an orderly socket. -/
structure Before (s : SocketBuffer) (pieces : List Piece) : Prop where
  /-- The position is inside the buffer. -/
  pos : s.pos ≤ s.buffer.length
  /-- The socket delivers octets and timeouts only. -/
  peaceful : ∀ event ∈ s.socket, orderly event
  /-- The pieces come next. -/
  stream : s.unread ++ SocketBuffer.arrivals s.socket = pieces.flatMap Piece.wire

/-- A timeout of the socket ended a read; octets were only moved. -/
structure TimedOut (e : Stop) (s t : SocketBuffer) : Prop where
  /-- The exception. -/
  timeout : e = .ofClass .timeoutError
  /-- What arrived before is in the buffer. -/
  moved : ∃ got, Moved s t got
  /-- The timeout is used up. -/
  fewer : timeouts t.socket < timeouts s.socket

/-- A timeout may come after octets were moved. -/
theorem TimedOut.after {e : Stop} {s t u : SocketBuffer} {got : Bytes} (out : TimedOut e t u)
    (moved : Moved s t got) : TimedOut e s u where
  timeout := out.timeout
  moved := by
    obtain ⟨more, last⟩ := out.moved
    exact ⟨got ++ more, moved.trans last⟩
  fewer := Nat.lt_of_lt_of_le out.fewer (timeouts_suffix moved.socket)

/-- A timeout of the socket ended a read that was short of octets: more is to come than what is
behind the pieces it was reading. -/
structure CutShort (e : Stop) (s : SocketBuffer) (behind : Nat) (t : SocketBuffer) : Prop where
  /-- It was a timeout. -/
  out : TimedOut e s t
  /-- The first one that was to come. -/
  outages : outages s.socket = (arrivals t.socket).length :: outages t.socket
  /-- Something is missing. -/
  short : behind < (arrivals t.socket).length

/-- A timeout may come after octets were received without one. -/
theorem CutShort.after {e : Stop} {s t u : SocketBuffer} {behind : Nat} {got : Bytes}
    (cut : CutShort e t behind u) (moved : Moved s t got)
    (same : SocketBuffer.outages t.socket = SocketBuffer.outages s.socket) :
    CutShort e s behind u :=
  ⟨cut.out.after moved, same.symm.trans cut.outages, cut.short⟩

/-- Socket buffers as a source that keeps track of timeouts: a completed read meets none, and an
interrupted one meets one, while it is short of octets. -/
def punctual : Source SocketBuffer Stop Piece where
  before := Before
  keeps s t := (∃ got, Moved s t got) ∧ outages t.socket = outages s.socket
  stopped e s rest t := CutShort e s (octets rest) t
  raised _ s t := ∃ got, Moved s t got
  keeps_refl s := ⟨⟨[], .refl s⟩, rfl⟩
  keeps_trans := fun ⟨⟨_, one⟩, first⟩ ⟨⟨_, two⟩, second⟩ => ⟨⟨_, one.trans two⟩, second.trans first⟩
  stopped_trans := fun ⟨⟨_, one⟩, same⟩ cut => cut.after one same
  stopped_earlier := fun {_ _ tail rest _} cut =>
    ⟨cut.out, cut.outages, Nat.lt_of_le_of_lt
      (by rw [octets_append tail rest]; exact Nat.le_add_left _ _) cut.short⟩
  raised_trans := fun ⟨⟨_, one⟩, _⟩ ⟨_, two⟩ => ⟨_, one.trans two⟩

/-- Socket buffers as a source: a completed read and an exception only move octets, and a
timeout was one of the socket's. -/
def source : Source SocketBuffer Stop Piece where
  before := Before
  keeps s t := ∃ got, Moved s t got
  stopped e s _ t := TimedOut e s t
  raised _ s t := ∃ got, Moved s t got
  keeps_refl s := ⟨[], .refl s⟩
  keeps_trans := fun ⟨_, one⟩ ⟨_, two⟩ => ⟨_, one.trans two⟩
  stopped_trans := fun ⟨_, one⟩ out => out.after one
  stopped_earlier out := out
  raised_trans := fun ⟨_, one⟩ ⟨_, two⟩ => ⟨_, one.trans two⟩

/-- The one source keeps less track than the other. -/
theorem punctual_refines : punctual.Refines source where
  before _ _ := Iff.rfl
  keeps _ _ kept := kept.1
  stopped _ _ _ _ cut := cut.out
  raised _ _ _ own := own

/-- Reading from the socket for octets that will come succeeds or meets a timeout. -/
theorem readFromSocket_orderly (length : Option Int) {s : SocketBuffer}
    (peaceful : ∀ event ∈ s.socket, orderly event) (some : arrivals s.socket ≠ [])
    (enough : ∀ wanted ∈ length, wanted ≤ (arrivals s.socket).length) :
    match readFromSocket length true s with
    | .ok _ t => ∃ got, Received length 0 s t got
    | .error e t => TimedOut e s t ∧
      outages s.socket = (arrivals t.socket).length :: outages t.socket ∧
      ∃ got, Moved s t got ∧ (got = [] ∨ ∃ wanted ∈ length, (got.length : Int) < wanted) := by
  have received := recvLoop_orderly length s.socket peaceful 0 s rfl
  unfold readFromSocket
  cases ran : recvLoop length true 0 s s.socket with
  | ok value t =>
    rw [ran] at received
    exact received
  | error e t =>
    rw [ran] at received
    obtain ⟨⟨got, moved, part⟩, cause⟩ := received
    rcases cause with ⟨timeout, used⟩ | ⟨-, none | ⟨wanted, found, short⟩⟩
    · have fewer := congrArg List.length used
      rw [List.length_cons, outages_length, outages_length] at fewer
      refine ⟨⟨timeout, ⟨got, moved⟩, by omega⟩, used, got, moved, part.imp id ?_⟩
      rintro ⟨wanted, found, less⟩
      exact ⟨wanted, found, by omega⟩
    · exact absurd none some
    · have := enough wanted found
      omega

/-! ## Lines -/

/-- Where reading a line stands: it is complete, or everything received belongs to it. -/
def LineState (line rest data : Bytes) (s : SocketBuffer) : Prop :=
  data = line ++ crlf ∧ s.unread ++ arrivals s.socket = rest ∨
    10 ∉ data ∧ s.unread = [] ∧ data ++ arrivals s.socket = line ++ crlf ++ rest

/-- Octets taken from the buffer are no longer unread. -/
theorem unread_advance (s : SocketBuffer) (n : Nat) :
    ({ s with pos := s.pos + n } : SocketBuffer).unread = s.unread.drop n := by
  simp only [unread, List.drop_drop]

/-- `BytesIO.readline()` completes the line or takes everything there is. -/
theorem bufferReadline_lineState {line rest data : Bytes} (plain : 10 ∉ line) (open' : 10 ∉ data)
    {s : SocketBuffer} (pos : s.pos ≤ s.buffer.length)
    (stream : data ++ (s.unread ++ arrivals s.socket) = line ++ crlf ++ rest) :
    ∃ more t, bufferReadline s = .ok more t ∧ Moved s t [] ∧ t.socket = s.socket ∧
      t.pos ≤ t.buffer.length ∧ LineState line rest (data ++ more) t := by
  refine ⟨firstLine s.unread, _, rfl, ⟨by simp, by simp, List.suffix_refl _⟩, rfl, ?_, ?_⟩
  · have size : s.unread.length = s.buffer.length - s.pos := List.length_drop
    have short : (firstLine s.unread).length ≤ s.unread.length := by
      by_cases found : 10 ∈ s.unread
      · obtain ⟨before, after, same, first⟩ := List.eq_append_cons_of_mem found
        rw [same, firstLine_append first]
        simp
      · exact Nat.le_of_eq (by rw [firstLine_none found])
    show s.pos + (firstLine s.unread).length ≤ s.buffer.length
    omega
  · by_cases found : 10 ∈ s.unread
    · obtain ⟨before, after, same, first⟩ := List.eq_append_cons_of_mem found
      have joined : (data ++ before) ++ 10 :: (after ++ arrivals s.socket) =
          (line ++ [13]) ++ 10 :: rest := by
        simpa [same, crlf] using stream
      have noFeed : 10 ∉ data ++ before := by simp [open', first]
      have plainEnd : 10 ∉ line ++ [13] := by simp [plain]
      obtain ⟨lines, rests⟩ := line_unique noFeed plainEnd joined
      left
      rw [unread_advance, same, firstLine_append first]
      refine ⟨?_, ?_⟩
      · rw [← List.append_assoc, lines]
        simp [crlf]
      · rw [← rests, List.append_cons before 10 after, List.drop_left]
    · right
      rw [unread_advance, firstLine_none found, List.drop_length]
      refine ⟨by simp [open', found], rfl, ?_⟩
      rw [List.append_assoc]
      exact stream

/-- The loop of `readline` returns the line, unless a timeout stops it. -/
theorem readlineLoop_reads {line rest : Bytes} (plain : 10 ∉ line) (passes : Nat) (data : Bytes)
    {s : SocketBuffer} (enough : s.socket.length < passes) (pos : s.pos ≤ s.buffer.length)
    (peaceful : ∀ event ∈ s.socket, orderly event) (state : LineState line rest data s) :
    match readlineLoop passes data s with
    | .ok v t => v = line ∧ t.pos ≤ t.buffer.length ∧ t.unread ++ arrivals t.socket = rest ∧
        (∃ got, Moved s t got) ∧ outages t.socket = outages s.socket
    | .error e t => CutShort e s rest.length t := by
  induction passes generalizing data s with
  | zero => omega
  | succ passes ih =>
    rcases state with ⟨complete, stream⟩ | ⟨open', empty, stream⟩
    · have ends : crlf <:+ data := ⟨line, complete.symm⟩
      rw [readlineLoop, if_pos ends]
      refine ⟨?_, pos, stream, ⟨[], .refl s⟩, rfl⟩
      rw [complete, dropTerminator]
      simp [crlf]
    · have unfinished : ¬crlf <:+ data := by
        rintro ⟨front, same⟩
        exact open' (same ▸ by simp [crlf])
      have some : arrivals s.socket ≠ [] := by
        intro none
        rw [none, List.append_nil] at stream
        exact open' (stream ▸ by simp [crlf])
      rw [readlineLoop, if_neg unfinished]
      have received := readFromSocket_orderly none peaceful some (by simp)
      cases ran : readFromSocket none true s with
      | error e t =>
        rw [ran] at received
        obtain ⟨out, used, got, moved, nothing⟩ := received
        have none : got = [] := nothing.resolve_right (by simp)
        have arrived : arrivals s.socket = arrivals t.socket := by
          rw [moved.arrivals, none, List.nil_append]
        rw [bind_of_error ran]
        refine ⟨out, used, ?_⟩
        by_contra more
        -- otherwise the line was complete
        have lengths := congrArg List.length stream
        have width : (line ++ crlf).length = line.length + 2 := by simp [crlf]
        rw [arrived, List.length_append, List.length_append, width] at lengths
        have whole : line ++ crlf <+: data := by
          apply List.prefix_of_prefix_length_le (List.prefix_append _ rest) ⟨_, stream⟩
          omega
        exact open' (whole.subset (by simp [crlf]))
      | ok value t =>
        rw [ran] at received
        obtain ⟨got, received⟩ := received
        have unread : t.unread = got := by
          rw [received.moved.unread pos received.pos, empty, List.nil_append]
        have bound : t.pos ≤ t.buffer.length := by
          rw [received.pos, received.moved.buffer, List.length_append]
          omega
        have joined : data ++ (t.unread ++ arrivals t.socket) = line ++ crlf ++ rest := by
          rw [unread, ← received.moved.arrivals]
          exact stream
        obtain ⟨more, u, read, kept, still, inside, state⟩ :=
          bufferReadline_lineState plain open' bound joined
        have used : t.socket.length < s.socket.length := by
          obtain ⟨used, same⟩ := received.moved.socket
          cases used with
          | nil =>
            -- octets cannot arrive from a socket that was not used
            have same : t.socket = s.socket := same
            have arrived := received.moved.arrivals
            rw [same] at arrived
            have lengths := congrArg List.length arrived
            rw [List.length_append] at lengths
            have : got.length = 0 := by omega
            exact absurd (List.length_eq_zero_iff.mp this) received.some
          | cons event used =>
            rw [← same, List.cons_append, List.length_cons, List.length_append]
            omega
        have fewer : u.socket.length < passes := by
          have := kept.socket.length_le
          omega
        have next := ih (data ++ more) fewer inside
          (kept.peaceful (received.moved.peaceful peaceful)) state
        rw [bind_of_ok ran, bind_of_ok read]
        have moved : Moved s u got := by simpa using received.moved.trans kept
        cases ended : readlineLoop passes (data ++ more) u with
        | ok v w =>
          rw [ended] at next
          obtain ⟨same, inside, stream, ⟨got', last⟩, quiet⟩ := next
          refine ⟨same, inside, stream, ⟨got ++ got', moved.trans last⟩, ?_⟩
          rw [quiet, still, received.outages]
        | error e w =>
          rw [ended] at next
          exact next.after moved (by rw [still, received.outages])

/-- `readline` reads one line. -/
theorem punctual_readline {line : Bytes} (plain : 10 ∉ line) :
    Reads punctual readline [.line line] (.ok line) := by
  intro s rest before
  have stream : [] ++ (s.unread ++ arrivals s.socket) = line ++ crlf ++ rest.flatMap Piece.wire := by
    simpa [Piece.wire] using before.stream
  obtain ⟨data, t, read, kept, still, inside, state⟩ :=
    bufferReadline_lineState plain (by simp) before.pos stream
  have same : t.socket.length < s.socket.length + 1 := by
    have := kept.socket.length_le
    omega
  have looped := readlineLoop_reads plain (s.socket.length + 1) ([] ++ data) same inside
    (kept.peaceful before.peaceful) state
  have whole : readline s = readlineLoop (s.socket.length + 1) ([] ++ data) t := by
    have state : (get : EStateM Stop SocketBuffer SocketBuffer) s = .ok s s := rfl
    rw [readline, bind_of_ok state, bind_of_ok read, List.nil_append]
  rw [whole]
  cases ended : readlineLoop (s.socket.length + 1) ([] ++ data) t with
  | ok v u =>
    rw [ended] at looped
    obtain ⟨found, inside, stream, ⟨got, moved⟩, quiet⟩ := looped
    have total : Moved s u got := by simpa using kept.trans moved
    refine ⟨by rw [found], ⟨inside, total.peaceful before.peaceful, ?_⟩, ⟨got, total⟩, ?_⟩
    · exact stream
    · rw [quiet, still]
  | error e u =>
    rw [ended] at looped
    exact .inl (looped.after kept (by rw [still]))

/-! ## Bodies -/

/-- `read` reads a body and its terminator. -/
theorem punctual_read (data : Bytes) :
    Reads punctual (read (data.length : Int)) [.body data] (.ok data) := by
  intro s rest before
  have stream : s.unread ++ arrivals s.socket = data ++ crlf ++ rest.flatMap Piece.wire := by
    simpa [Piece.wire] using before.stream
  have size : s.unread.length = s.buffer.length - s.pos := List.length_drop
  have width : (data ++ crlf).length = data.length + 2 := by simp [crlf]
  have terminated : dropTerminator (data ++ crlf) = data := by simp [dropTerminator, crlf]
  have taken : (s.unread ++ arrivals s.socket).take (data.length + 2) = data ++ crlf := by
    rw [stream, ← width, List.take_left]
  have dropped : (s.unread ++ arrivals s.socket).drop (data.length + 2) = rest.flatMap Piece.wire := by
    rw [stream, ← width, List.drop_left]
  -- what the first read of the buffer gives
  have first : bufferRead ((data.length : Int) + 2) s = .ok (s.unread.take (data.length + 2))
      { s with pos := s.pos + (s.unread.take (data.length + 2)).length } := by
    have positive : ¬(data.length : Int) + 2 < 0 := by omega
    have natural : ((data.length : Int) + 2).toNat = data.length + 2 := by omega
    rw [bufferRead, if_neg positive, natural]
  rw [read, bind_of_ok first]
  have covered := congrArg List.length stream
  simp only [List.length_append, crlf, List.length_cons, List.length_nil] at covered
  by_cases buffered : data.length + 2 ≤ s.unread.length
  · have whole : s.unread.take (data.length + 2) = data ++ crlf := by
      rw [← taken, List.take_append_of_le_length buffered]
    have none : ¬(data.length : Int) + 2 - ((data ++ crlf).length : Nat) ≠ 0 := by omega
    rw [whole, if_neg none, terminated]
    refine ⟨rfl, ⟨?_, before.peaceful, ?_⟩, ⟨[], ⟨by simp, by simp, List.suffix_refl _⟩⟩, rfl⟩
    · show s.pos + (data ++ crlf).length ≤ s.buffer.length
      omega
    · rw [unread_advance, width, ← List.drop_append_of_le_length buffered]
      exact dropped
  · have all : s.unread.take (data.length + 2) = s.unread := List.take_of_length_le (by omega)
    have missing : (data.length : Int) + 2 - (s.unread.length : Nat) =
        ((data.length + 2 - s.unread.length : Nat) : Int) := by omega
    have some : (data.length : Int) + 2 - (s.unread.length : Nat) ≠ 0 := by omega
    rw [all, if_pos some, missing]
    have received := readFromSocket_orderly
      (s := { s with pos := s.pos + s.unread.length })
      (.some ((data.length + 2 - s.unread.length : Nat) : Int)) before.peaceful
      (by intro empty; rw [empty, List.length_nil] at covered; omega)
      (by
        intro wanted found
        have : wanted = ((data.length + 2 - s.unread.length : Nat) : Int) := (Option.some.inj found).symm
        show wanted ≤ (arrivals s.socket).length
        omega)
    have advanced : Moved s { s with pos := s.pos + s.unread.length } [] :=
      ⟨by simp, by simp, List.suffix_refl _⟩
    cases ran : readFromSocket (.some ((data.length + 2 - s.unread.length : Nat) : Int)) true
      { s with pos := s.pos + s.unread.length } with
    | error e t =>
      rw [ran] at received
      obtain ⟨out, used, got, moved, part⟩ := received
      rw [bind_of_error ran]
      refine .inl ⟨out.after advanced, used, ?_⟩
      -- what was received does not reach the end of the body
      have arrived := congrArg List.length moved.arrivals
      have less : got.length < data.length + 2 - s.unread.length := by
        rcases part with none | ⟨wanted, found, less⟩
        · rw [none, List.length_nil]
          omega
        · have : wanted = ((data.length + 2 - s.unread.length : Nat) : Int) :=
            (Option.some.inj found).symm
          omega
      rw [List.length_append] at arrived
      have socket : (arrivals s.socket).length = got.length + (arrivals t.socket).length := arrived
      show (rest.flatMap Piece.wire).length < (arrivals t.socket).length
      omega
    | ok value t =>
      rw [ran] at received
      obtain ⟨got, received⟩ := received
      rw [bind_of_ok ran]
      have end' : s.pos + s.unread.length ≤ s.buffer.length := by have := before.pos; omega
      have unread : t.unread = got := by
        rw [received.moved.unread end' received.pos, unread_advance, List.drop_length,
          List.nil_append]
      have enough : data.length + 2 - s.unread.length ≤ got.length := by
        have := received.enough _ rfl
        omega
      have arrived : arrivals s.socket = got ++ arrivals t.socket := received.moved.arrivals
      have second : bufferRead ((data.length + 2 - s.unread.length : Nat) : Int) t =
          .ok (got.take (data.length + 2 - s.unread.length))
            { t with pos := t.pos + (data.length + 2 - s.unread.length) } := by
        have positive : ¬((data.length + 2 - s.unread.length : Nat) : Int) < 0 := by omega
        rw [bufferRead, if_neg positive, unread, Int.toNat_natCast, List.length_take,
          Nat.min_eq_left enough]
      have joined : s.unread ++ got.take (data.length + 2 - s.unread.length) = data ++ crlf := by
        rw [← taken, List.take_append, all, arrived, List.take_append_of_le_length enough]
      rw [bind_of_ok second, joined, terminated]
      have total : Moved s { t with pos := t.pos + (data.length + 2 - s.unread.length) } got := by
        have moved := advanced.trans received.moved
        exact ⟨by simpa using moved.buffer, by simpa using moved.arrivals, moved.socket⟩
      refine ⟨rfl, ⟨?_, total.peaceful before.peaceful, ?_⟩, ⟨got, total⟩, received.outages⟩
      · have grown : t.buffer = s.buffer ++ got := received.moved.buffer
        have place : t.pos = s.pos + s.unread.length := received.pos
        show t.pos + (data.length + 2 - s.unread.length) ≤ t.buffer.length
        rw [grown, place, List.length_append]
        omega
      · rw [unread_advance, unread]
        show got.drop _ ++ arrivals t.socket = rest.flatMap Piece.wire
        have spent : s.unread.drop (data.length + 2) = [] := List.drop_of_length_le (by omega)
        rw [← dropped, arrived, List.drop_append, spent, List.nil_append,
          List.drop_append_of_le_length enough]

/-! ## The parsers -/

/-- Every reader error is the parser's own. -/
def refusal (_ : Bytes) : Option Exc := none

/-- The blocking operations are lawful, timeouts included. -/
theorem ops_punctual (handlers : PushHandlers SocketBuffer F) :
    (ops handlers).Lawful punctual refusal where
  raised _ s := ⟨[], .refl s⟩
  readline _ plain := punctual_readline plain
  read := punctual_read
  connectionError e _ _ := by
    have unchanged : ∀ s, punctual.raised (.raised e) s s := fun s => ⟨[], .refl s⟩
    exact Reads.throw unchanged []

/-- The blocking operations are lawful. -/
theorem ops_lawful (handlers : PushHandlers SocketBuffer F) :
    (ops handlers).Lawful source refusal :=
  (ops_punctual handlers).coarsen punctual_refines fun _ s => ⟨[], .refl s⟩

/-- Rewinding to where a call started puts everything it read back in front. -/
theorem Before.rewind {s t : SocketBuffer} {pieces : List Piece} {got : Bytes}
    (before : Before s pieces) (moved : Moved s t got) : Before (t.rewind s.pos) pieces where
  pos := by
    show s.pos ≤ t.buffer.length
    rw [moved.buffer, List.length_append]
    have := before.pos
    omega
  peaceful := moved.peaceful before.peaceful
  stream := by
    have same : Moved s (t.rewind s.pos) got := ⟨moved.buffer, moved.arrivals, moved.socket⟩
    rw [same.unread before.pos rfl, List.append_assoc, ← same.arrivals]
    exact before.stream

/-- Purging only drops what was read. -/
theorem Before.purge {s : SocketBuffer} {pieces : List Piece} (before : Before s pieces) :
    Before s.purge pieces := by
  unfold SocketBuffer.purge
  by_cases some : s.unreadBytes > 0
  · rwa [if_pos some]
  · rw [if_neg some]
    have none : s.unread = [] := by
      apply List.drop_of_length_le
      unfold unreadBytes at some
      omega
    refine ⟨Nat.le_refl 0, before.peaceful, ?_⟩
    have stream := before.stream
    rw [none] at stream
    exact stream

/-! ## Sequences of replies -/

/-- Replies in front of a blocking parser. -/
def supply (protocol : Protocol) : Supply SocketBuffer Stop Reply where
  before s replies := (∀ reply ∈ replies, reply.All (Reply.Framed protocol)) ∧
    Before s (replies.flatMap Reply.pieces)
  patience s := timeouts s.socket
  interrupt e := e = .ofClass .timeoutError

/-- With nothing to come, a line is never completed. -/
theorem readline_idle {s : SocketBuffer} (before : Before s []) :
    ∃ e t, readline s = .error e t ∧ ∃ got, Moved s t got := by
  have stream : s.unread ++ arrivals s.socket = [] := before.stream
  have empty : s.unread = [] := (List.append_eq_nil_iff.mp stream).1
  have quiet : arrivals s.socket = [] := (List.append_eq_nil_iff.mp stream).2
  have read : bufferReadline s = .ok [] s := by simp [bufferReadline, empty, firstLine]
  have received := recvLoop_orderly none s.socket before.peaceful 0 s rfl
  have state : (get : EStateM Stop SocketBuffer SocketBuffer) s = .ok s s := rfl
  have unfinished : ¬crlf <:+ [] := by decide
  rw [readline, bind_of_ok state, bind_of_ok read, readlineLoop, if_neg unfinished]
  cases ran : readFromSocket none true s with
  | ok value t =>
    unfold readFromSocket at ran
    rw [ran] at received
    obtain ⟨got, received⟩ := received
    have arrived := received.moved.arrivals
    rw [quiet] at arrived
    exact absurd (List.append_eq_nil_iff.mp arrived.symm).1 received.some
  | error e t =>
    unfold readFromSocket at ran
    rw [ran] at received
    obtain ⟨⟨got, moved, -⟩, -⟩ := received
    exact ⟨e, t, bind_of_error ran, got, moved⟩

variable {decoding : Decoding} {protocol : Protocol}

/-- A reply within reach has at most as many pieces as there are octets in reach. -/
theorem pieces_length_le_available {s : SocketBuffer} {reply : Reply} {rest : List Piece}
    (before : Before s (reply.pieces ++ rest)) : reply.pieces.length ≤ s.available := by
  have lengths := congrArg List.length before.stream
  have := pieces_length_le reply.pieces
  rw [List.flatMap_append, List.length_append, List.length_append] at lengths
  unfold available
  omega

/-- Purging leaves the socket alone. -/
theorem purge_socket (s : SocketBuffer) : s.purge.socket = s.socket := by
  unfold purge
  split <;> rfl

/-- The frame of `read_response` turns a reading parser into one that resumes. -/
theorem readResponse_resumes [PyFloat F] {readReply : Nat → EStateM Stop SocketBuffer (PyVal F)}
    (reads : ∀ depth (reply : Reply), reply.All (Reply.Framed protocol) →
      reply.pieces.length ≤ depth →
      Reads source (readReply depth) reply.pieces (decoded refusal decoding reply))
    (idle : ∀ depth s, Before s [] →
      ∃ e t, readReply depth s = .error e t ∧ ∃ got, Moved s t got) :
    Resumes (supply protocol) (readResponse readReply) (decoded refusal decoding) where
  step s item items before := by
    obtain ⟨framed, before⟩ := before
    rw [List.flatMap_cons] at before
    have deep : item.pieces.length ≤ s.available + 1 :=
      Nat.le_succ_of_le (pieces_length_le_available before)
    have outcome := reads _ item (framed item List.mem_cons_self) deep s _ before
    have others : ∀ reply ∈ items, reply.All (Reply.Framed protocol) :=
      fun reply member => framed reply (List.mem_cons_of_mem item member)
    unfold readResponse
    cases ran : readReply (s.available + 1) s with
    | ok result t =>
      rw [ran] at outcome
      obtain ⟨value, behind, got, moved⟩ := outcome
      refine ⟨value, ⟨others, behind.purge⟩, ?_⟩
      show timeouts t.purge.socket ≤ timeouts s.socket
      rw [purge_socket]
      exact timeouts_suffix moved.socket
    | error e t =>
      rw [ran] at outcome
      rcases outcome with out | ⟨own, -⟩
      · obtain ⟨got, moved⟩ := out.moved
        refine .inl ⟨out.timeout, ⟨framed, ?_⟩, out.fewer⟩
        rw [List.flatMap_cons]
        exact before.rewind moved
      · exact .inr own
  idle s before := by
    obtain ⟨e, t, ran, got, moved⟩ := idle (s.available + 1) s before.2
    refine ⟨e, t.rewind s.pos, by rw [readResponse, ran], by simp, ?_⟩
    exact before.2.rewind moved

/-- Both blocking parsers resume. -/
theorem parserReadResponse_resumes [PyFloat F] (handlers : PushHandlers SocketBuffer F) :
    Resumes (supply protocol) (parserReadResponse handlers decoding protocol)
      (decoded refusal decoding) := by
  have nothing (depth : Nat) (next : Bytes → EStateM Stop SocketBuffer (PyVal F))
      {s : SocketBuffer} (before : Before s []) :
      ∃ e t, ((ops handlers).readline >>= next) s = .error e t ∧ ∃ got, Moved s t got := by
    obtain ⟨e, t, ran, moved⟩ := readline_idle before
    exact ⟨e, t, bind_of_error ran, moved⟩
  cases protocol with
  | resp2 =>
    refine readResponse_resumes (fun depth => reads_reply2 (ops_lawful handlers) depth) ?_
    intro depth s before
    cases depth with
    | zero => exact ⟨_, s, rfl, [], .refl s⟩
    | succ depth => exact nothing depth _ before
  | resp3 =>
    refine readResponse_resumes (fun depth => reads_reply3 (ops_lawful handlers) depth false) ?_
    intro depth s before
    cases depth with
    | zero => exact ⟨_, s, rfl, [], .refl s⟩
    | succ depth => exact nothing depth _ before

/-- However often the parser is called on a socket, the calls that return give the decoded
replies in order, each once, and the unread octets followed by those to come encode the
replies not returned yet; every call fails by timeout until all are returned, and enough
calls return them all. -/
def RoundTrips [PyFloat F] (readResponse : EStateM Stop SocketBuffer (PyVal F))
    (decoding : Decoding) (replies : List Reply) (socket : List Recv) : Prop :=
  (∀ count, ∃ done pending, replies = done ++ pending ∧
    List.Forall₂ (fun reply value => decoded refusal decoding reply = .ok value) done
      (returned (calls readResponse count (connected socket)).1) ∧
    (calls readResponse count (connected socket)).2.unread ++
      arrivals (calls readResponse count (connected socket)).2.socket =
        pending.flatMap Reply.encode ∧
    (pending ≠ [] → ∀ e ∈ failures (calls readResponse count (connected socket)).1,
      e = .ofClass .timeoutError)) ∧
  ∃ count, (returned (calls readResponse count (connected socket)).1).length = replies.length

/-- Replies that are all returned were readable. -/
theorem RoundTrips.readable [PyFloat F] {readResponse : EStateM Stop SocketBuffer (PyVal F)}
    {replies : List Reply} {socket : List Recv}
    (sound : ∀ reply ∈ replies, reply.All (Reply.Sound decoding F))
    (trips : RoundTrips readResponse decoding replies socket) :
    ∀ reply ∈ replies, reply.All (Reply.Readable refusal) := by
  obtain ⟨count, full⟩ := trips.2
  obtain ⟨done, pending, split, values, -, -⟩ := trips.1 count
  intro reply member
  obtain ⟨value, found⟩ := all_of_full split values full reply member
  exact readable_of_decoded (sound reply member) found

/-- Readable replies survive the round trip under every fragmentation and every timeout. -/
theorem roundTrips_of_readable [PyFloat F] (handlers : PushHandlers SocketBuffer F)
    {replies : List Reply} {socket : List Recv}
    (framed : ∀ reply ∈ replies, reply.All (Reply.Framed protocol))
    (sound : ∀ reply ∈ replies, reply.All (Reply.Sound decoding F))
    (peaceful : ∀ event ∈ socket, orderly event)
    (wire : arrivals socket = replies.flatMap Reply.encode)
    (readable : ∀ reply ∈ replies, reply.All (Reply.Readable refusal)) :
    RoundTrips (parserReadResponse handlers decoding protocol) decoding replies socket := by
  have resumes : Resumes (supply protocol) (parserReadResponse handlers decoding protocol)
      (decoded refusal decoding) := parserReadResponse_resumes handlers
  have encoded (items : List Reply) :
      (items.flatMap Reply.pieces).flatMap Piece.wire = items.flatMap Reply.encode :=
    List.flatMap_assoc
  have before : (supply protocol).before (connected socket) replies := by
    refine ⟨framed, Nat.le_refl 0, peaceful, ?_⟩
    rw [encoded, ← wire]
    rfl
  have good : ∀ reply ∈ replies, ∃ value : PyVal F, decoded refusal decoding reply = .ok value :=
    fun reply member => (decoded_iff_readable (sound reply member)).mpr (readable reply member)
  constructor
  · intro count
    obtain ⟨done, pending, delivery⟩ := resumes.calls_deliver count good before
    refine ⟨done, pending, delivery.split, delivery.values, ?_, delivery.failed⟩
    rw [delivery.rest.2.stream, encoded]
  · exact ⟨_, resumes.calls_complete _ good before (Nat.le_refl _)⟩

/-- Decoding undoes encoding exactly for the sequences in which every redirection names an
address: any other text after `ASK` or `MOVED` makes `parse_error` itself fail, each time. -/
theorem roundTrips_iff_readable [PyFloat F] (handlers : PushHandlers SocketBuffer F)
    (decoding : Decoding) (protocol : Protocol) (replies : List Reply) (socket : List Recv)
    (framed : ∀ reply ∈ replies, reply.All (Reply.Framed protocol))
    (sound : ∀ reply ∈ replies, reply.All (Reply.Sound decoding F))
    (peaceful : ∀ event ∈ socket, orderly event)
    (wire : arrivals socket = replies.flatMap Reply.encode) :
    RoundTrips (parserReadResponse handlers decoding protocol) decoding replies socket ↔
      ∀ reply ∈ replies, reply.All (Reply.Readable refusal) :=
  ⟨fun trips => trips.readable sound,
    fun readable => roundTrips_of_readable handlers framed sound peaceful wire readable⟩

/-- A line, an array with a nil and a redirection, cut inside a CRLF and interrupted twice. -/
theorem roundTrips_iff_readable_interrupted :
    RoundTrips (F := Empty) (parserReadResponse defaultHandlers .raw .resp2) .raw
        [.simple (ascii "OK"), .array [.nullBulk, .error (ascii "ASK 7 10.0.0.1:6380")]]
        [.data (ascii "+OK\r"), .timeout, .data (ascii "\n*2\r\n$-1\r\n-ASK 7 10"), .timeout,
          .data (ascii ".0.0.1:6380\r\n")] ↔
      ∀ reply ∈ [Reply.simple (ascii "OK"), .array [.nullBulk, .error (ascii "ASK 7 10.0.0.1:6380")]],
        reply.All (Reply.Readable refusal) := by
  have framedError : lineText (ascii "ASK 7 10.0.0.1:6380") := by unfold lineText; decide
  have framedSimple : lineText (ascii "OK") := by unfold lineText; decide
  have soundError : isConnectionErrorText (decodeReplace (ascii "ASK 7 10.0.0.1:6380")) = false := by
    decide +kernel
  apply roundTrips_iff_readable defaultHandlers .raw .resp2
  · intro reply member
    simp only [List.mem_cons, List.not_mem_nil, or_false] at member
    rcases member with rfl | rfl
    · exact .intro framedSimple (by simp [Reply.children])
    · refine .intro trivial fun child member => ?_
      simp only [Reply.children, List.mem_cons, List.not_mem_nil, or_false] at member
      rcases member with rfl | rfl
      · exact .intro trivial (by simp [Reply.children])
      · exact .intro framedError (by simp [Reply.children])
  · intro reply member
    simp only [List.mem_cons, List.not_mem_nil, or_false] at member
    rcases member with rfl | rfl
    · exact .intro (by intro _ on; cases on) (by simp [Reply.children])
    · refine .intro trivial fun child member => ?_
      simp only [Reply.children, List.mem_cons, List.not_mem_nil, or_false] at member
      rcases member with rfl | rfl
      · exact .intro trivial (by simp [Reply.children])
      · exact .intro soundError (by simp [Reply.children])
  · intro event member
    simp only [List.mem_cons, List.not_mem_nil, or_false] at member
    rcases member with rfl | rfl | rfl | rfl | rfl
    · exact fun empty => by cases empty
    · trivial
    · exact fun empty => by cases empty
    · trivial
    · exact fun empty => by cases empty
  · decide +kernel

/-- An `ASK` error without an address, which a script on the server can return, is never
returned to the caller. -/
theorem ask_without_address_not_returned :
    ¬RoundTrips (F := Empty) (parserReadResponse defaultHandlers .raw .resp2) .raw
      [.error (ascii "ASK later")] [.data (ascii "-ASK later\r\n")] := by
  intro trips
  have ordinary : isConnectionErrorText (decodeReplace (ascii "ASK later")) = false := by
    decide +kernel
  have readable := trips.readable
    (by simpa using .intro ordinary (by simp [Reply.children])) (.error (ascii "ASK later")) (by simp)
  have named : redirectText (ascii "ASK later") := readable.here.2
  exact absurd (named (by decide +kernel)) (by decide +kernel)

end SocketBuffer

end RedisPy
