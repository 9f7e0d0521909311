import RedisPy.Parsers.Resp
import RedisPy.Parsers.StreamReader

/-!
# The asyncio parsers

`_AsyncRESPBase` keeps a journal of what it took from the stream for the reply it is
reading: the chunks of the call that runs, and the joined chunks of cancelled calls. A
new call reads the journal from its start before it takes anything from the stream.
-/

namespace RedisPy

open Interruptible

/-- `_AsyncRESPBase`, after `on_connect` has given it a stream and an encoder. -/
structure AsyncParser where
  /-- `_buffer`. -/
  buffer : Bytes
  /-- `_chunks`. -/
  chunks : List Bytes
  /-- `_pos`. -/
  pos : Int
  /-- `_connected`. -/
  connected : Bool
  /-- `_stream`. -/
  stream : StreamReader
deriving DecidableEq

namespace AsyncParser

/-- `on_connect`. -/
def onConnect (stream : StreamReader) : AsyncParser :=
  { buffer := [], chunks := [], pos := 0, connected := true, stream }

/-- `on_disconnect`. -/
def onDisconnect (s : AsyncParser) : AsyncParser := { s with connected := false }

/-- `_clear`. -/
def clear (s : AsyncParser) : AsyncParser := { s with buffer := [], chunks := [] }

/-- `can_read_destructive`. -/
def canReadDestructive (s : AsyncParser) : Except Exc Bool :=
  if !s.connected then .error { cls := .redisError }
  else if !s.buffer.isEmpty then .ok true
  else .ok s.stream.atEof

/-- Use the stream. -/
def onStream {α : Type} (program : EStateM Stop StreamReader α) : EStateM Stop AsyncParser α :=
  fun s =>
    match program s.stream with
    | .ok value stream => .ok value { s with stream }
    | .error e stream => .error e { s with stream }

/-- `_read`. -/
def read (length : Int) : EStateM Stop AsyncParser Bytes := do
  let s ← get
  let want := length + 2
  let last := s.pos + want
  if (s.buffer.length : Int) ≥ last then
    set { s with pos := last }
    pure (slice s.buffer s.pos (last - 2))
  else
    let tail := sliceFrom s.buffer s.pos
    match ← onStream (StreamReader.readexactly (want - tail.length)) with
    | none => throw (.ofClass .connectionError)
    | some data =>
      modify fun t => { t with chunks := t.chunks ++ [data], pos := last }
      pure (dropTerminator (tail ++ data))

/-- `_readline`. -/
def readline : EStateM Stop AsyncParser Bytes := do
  let s ← get
  match findCrlfFrom s.buffer s.pos with
  | some found =>
    let result := slice s.buffer s.pos found
    set { s with pos := s.pos + (result.length + 2) }
    pure result
  | none =>
    let tail := sliceFrom s.buffer s.pos
    let data ← onStream StreamReader.readline
    if crlf <:+ data then
      let result := dropTerminator (tail ++ data)
      modify fun t => { t with chunks := t.chunks ++ [data], pos := s.pos + (result.length + 2) }
      pure result
    else throw (.ofClass .connectionError)

/-- All octets in reach: no reply within reach is nested deeper than that. -/
def available (s : AsyncParser) : Nat :=
  s.buffer.length + s.chunks.flatten.length + s.stream.content.length

/-- `read_response` starts by joining the chunks of cancelled calls to the journal. -/
def start (s : AsyncParser) : AsyncParser :=
  { s with buffer := s.buffer ++ s.chunks.flatten, chunks := [], pos := 0 }

/-- The frame of `read_response`. -/
def readResponse {α : Type} (readReply : Nat → EStateM Stop AsyncParser α) :
    EStateM Stop AsyncParser α := fun s =>
  match readReply (s.available + 1) s.start with
  | .ok response t => .ok response t.clear
  | .error e t => .error e t

end AsyncParser

variable {F : Type}

/-- The operations of the asyncio parsers. -/
def AsyncParser.ops (handlers : PushHandlers AsyncParser F) : Ops AsyncParser F where
  readline := AsyncParser.readline
  read := AsyncParser.read
  emptyLine := .invalidResponse
  onConnectionError := modify AsyncParser.clear
  pubsubPush := handlers.pubsub
  invalidationPush := handlers.invalidation

/-- `_AsyncRESP2Parser.read_response` and `_AsyncRESP3Parser.read_response`, without a push
request; the former checks first that the parser is connected. -/
def AsyncParser.readResponseOf [PyFloat F] (handlers : PushHandlers AsyncParser F)
    (decoding : Decoding) : Protocol → EStateM Stop AsyncParser (PyVal F)
  | .resp2 => do
    let s ← get
    if !s.connected then throw (.ofClass .connectionError)
    else AsyncParser.readResponse fun depth =>
      Resp2.readReply (AsyncParser.ops handlers) decoding depth
  | .resp3 => AsyncParser.readResponse fun depth =>
    Resp3.readReply (AsyncParser.ops handlers) decoding depth false

/-- Whatever arrives between two calls. -/
def AsyncParser.arrive (s : AsyncParser) : AsyncParser :=
  { s with stream := s.stream.arrive s.stream.incoming }

/-- A call of `read_response`, after whatever has arrived since the last one. -/
def AsyncParser.call {α : Type} (program : EStateM Stop AsyncParser α) :
    EStateM Stop AsyncParser α := fun s => program s.arrive

namespace AsyncParser

/-! ## The journal -/

/-- The octets of several pieces. -/
def wire (pieces : List Piece) : Bytes := pieces.flatMap Piece.wire

/-- A header line that the stream gives out at once. -/
def fits (limit : Nat) : Piece → Prop
  | .line text => text.length < limit
  | .body _ => True

/-- What every state of a call has in common: the stream is live, and what was taken from it
fits its limit. -/
structure Sane (limit : Nat) (s : AsyncParser) (taken : List Piece) : Prop where
  /-- The stream stays open. -/
  live : s.stream.Live limit
  /-- The parser is connected. -/
  connected : s.connected = true
  /-- Long lines never leave the stream. -/
  fitting : ∀ piece ∈ taken, fits limit piece

/-- The call reads from the journal: it stands behind `consumed`, `held` is next in the
journal and `fresh` follows on the stream. -/
structure Replaying (limit : Nat) (consumed held fresh : List Piece) (s : AsyncParser) : Prop where
  /-- The journal was taken from the stream before. -/
  sane : Sane limit s (consumed ++ held)
  /-- The journal is whole. -/
  buffer : s.buffer = wire consumed ++ wire held
  /-- Nothing was taken in this call. -/
  chunks : s.chunks = []
  /-- The position is behind what was consumed. -/
  pos : s.pos = ((wire consumed).length : Nat)
  /-- The stream has the rest. -/
  stream : s.stream.content = wire fresh

/-- The call reads from the stream: `taken` was taken before or in this call, and `fresh`
follows. -/
structure Taking (limit : Nat) (taken fresh : List Piece) (s : AsyncParser) : Prop where
  /-- Everything consumed was taken from the stream. -/
  sane : Sane limit s taken
  /-- The journal and the chunks of this call hold it. -/
  journal : s.buffer ++ s.chunks.flatten = wire taken
  /-- The position is behind the journal. -/
  pos : (s.buffer.length : Int) ≤ s.pos
  /-- The stream has the rest. -/
  stream : s.stream.content = wire fresh

/-- In front of the pieces, in a call that began in front of `all` with a journal of at most
`bound` pieces. -/
def Before (limit bound : Nat) (all : List Piece) (s : AsyncParser) (pieces : List Piece) : Prop :=
  (∃ consumed held fresh, all = consumed ++ pieces ∧ pieces = held ++ fresh ∧
    consumed.length + held.length ≤ bound ∧ Replaying limit consumed held fresh s) ∨
  ∃ taken, all = taken ++ pieces ∧ Taking limit taken pieces s

/-- A call can start over in front of `all`; its journal ends before the `rest`. -/
def Resumable (limit : Nat) (all rest : List Piece) (s : AsyncParser) : Prop :=
  ∃ held fresh, all = held ++ fresh ∧ rest <:+ fresh ∧ Sane limit s held ∧
    s.buffer ++ s.chunks.flatten = wire held ∧ s.stream.content = wire fresh

/-- The cancellations that are still to come. -/
def cancels (s : AsyncParser) : Nat := StreamReader.cancels s.stream.incoming

/-- With the journal used up, the call reads from the stream. -/
theorem Replaying.taking {limit : Nat} {consumed fresh : List Piece} {s : AsyncParser}
    (state : Replaying limit consumed [] fresh s) : Taking limit consumed fresh s where
  sane := by simpa using state.sane
  journal := by
    rw [state.chunks, state.buffer]
    simp [wire]
  pos := by
    rw [state.pos, state.buffer]
    simp [wire]
  stream := state.stream

/-- A cancelled reader that has fewer octets than it needs has some of them to come. -/
theorem short_of_cancelled {s t : StreamReader} {limit n behind : Nat}
    (stopped : s.Cancelled limit t) (width : s.content.length = n + behind)
    (part : t.buffer.length < n) : behind < (StreamReader.arrivals t.incoming).length := by
  have same := congrArg List.length stopped.content
  rw [width, StreamReader.content, List.length_append] at same
  omega

/-- Parser states as a source that keeps track of cancellations: a completed read meets none, and
an interrupted one meets one, while it is short of octets. -/
def punctual (limit bound : Nat) (all : List Piece) : Source AsyncParser Stop Piece where
  before := Before limit bound all
  keeps s t := StreamReader.Calm s.stream t.stream
  stopped e s rest t := (e = .ofClass .cancelledError ∧ Resumable limit all rest t) ∧
    StreamReader.Broken s.stream t.stream ∧
    octets rest < (StreamReader.arrivals t.stream.incoming).length
  raised _ _ _ := True
  keeps_refl _ := ⟨rfl, Nat.le_refl _⟩
  keeps_trans first second := first.trans second
  stopped_trans first := fun ⟨cancelled, broken, short⟩ => ⟨cancelled, first.broken broken, short⟩
  stopped_earlier := fun {_ _ tail rest _}
      ⟨⟨cancelled, held, fresh, whole, ends, state⟩, broken, short⟩ =>
    ⟨⟨cancelled, held, fresh, whole, (List.suffix_append _ _).trans ends, state⟩, broken,
      Nat.lt_of_le_of_lt (by rw [octets_append tail rest]; exact Nat.le_add_left _ _) short⟩
  raised_trans _ _ := trivial

/-- Parser states as a source, in a call that began in front of `all`. -/
def source (limit bound : Nat) (all : List Piece) : Source AsyncParser Stop Piece where
  before := Before limit bound all
  keeps s t := cancels t ≤ cancels s
  stopped e s rest t :=
    e = .ofClass .cancelledError ∧ Resumable limit all rest t ∧ cancels t < cancels s
  raised _ _ _ := True
  keeps_refl _ := Nat.le_refl _
  keeps_trans first second := Nat.le_trans second first
  stopped_trans first := fun ⟨cancelled, rest, fewer⟩ =>
    ⟨cancelled, rest, Nat.lt_of_lt_of_le fewer first⟩
  stopped_earlier := fun ⟨cancelled, ⟨held, fresh, whole, ends, state⟩, fewer⟩ =>
    ⟨cancelled, ⟨held, fresh, whole, (List.suffix_append _ _).trans ends, state⟩, fewer⟩
  raised_trans _ _ := trivial

/-- The one source keeps less track than the other. -/
theorem punctual_refines (limit bound : Nat) (all : List Piece) :
    (punctual limit bound all).Refines (source limit bound all) where
  before _ _ := Iff.rfl
  keeps s t kept := by
    show cancels t ≤ cancels s
    have same : cancels t = cancels s := by
      rw [cancels, cancels, ← StreamReader.outages_length, ← StreamReader.outages_length,
        kept.outages]
    exact Nat.le_of_eq same
  stopped e s rest t stopped := by
    obtain ⟨⟨cancelled, resumable⟩, broken, -⟩ := stopped
    refine ⟨cancelled, resumable, ?_⟩
    rw [cancels, cancels, ← StreamReader.outages_length, ← StreamReader.outages_length,
      broken.outages]
    exact Nat.lt_succ_self _
  raised _ _ _ own := own

/-! ## Lines and bodies -/

/-- A header line as long as the limit is refused with `ValueError`. -/
def refusal (limit : Nat) (line : Bytes) : Option Exc :=
  if line.length < limit then none else some { cls := .valueError }

/-- A line that fits is admitted. -/
theorem admitted_of_fits {limit : Nat} {line : Bytes} (short : line.length < limit) :
    admitted (refusal limit) line = .ok () := by
  rw [admitted, refusal, if_pos short]

/-- A line that does not fit is refused. -/
theorem admitted_of_long {limit : Nat} {line : Bytes} (long : limit ≤ line.length) :
    admitted (refusal limit) line = .error (.ofClass .valueError) := by
  rw [admitted, refusal, if_neg (Nat.not_lt.mpr long)]

/-- The wire form of pieces in sequence. -/
theorem wire_append (first second : List Piece) :
    wire (first ++ second) = wire first ++ wire second := List.flatMap_append

/-- Sane states stay sane when a fitting piece is taken. -/
theorem Sane.take {limit : Nat} {s : AsyncParser} {taken : List Piece} (sane : Sane limit s taken)
    {stream : StreamReader} (live : stream.Live limit) {piece : Piece} (fit : fits limit piece)
    {chunks : List Bytes} {pos : Int} :
    Sane limit { s with chunks, pos, stream } (taken ++ [piece]) where
  live := live
  connected := sane.connected
  fitting other member := by
    rcases List.mem_append.mp member with old | new
    · exact sane.fitting other old
    · rw [List.mem_singleton.mp new]
      exact fit

/-- Reading from the journal moves one piece from what is held to what is consumed. -/
theorem Replaying.step {limit : Nat} {consumed held fresh : List Piece} {s : AsyncParser}
    {piece : Piece} (state : Replaying limit consumed (piece :: held) fresh s) {pos : Int}
    (moved : pos = s.pos + (piece.wire.length : Nat)) :
    Replaying limit (consumed ++ [piece]) held fresh { s with pos } where
  sane := by
    refine ⟨state.sane.live, state.sane.connected, fun other member => ?_⟩
    apply state.sane.fitting other
    simpa using member
  buffer := by
    show s.buffer = _
    rw [state.buffer, wire_append, List.append_assoc]
    simp [wire]
  chunks := state.chunks
  pos := by
    show pos = _
    rw [moved, state.pos, wire_append, List.length_append]
    simp [wire]
  stream := state.stream

/-- Reading from the stream appends one piece to what was taken. -/
theorem Taking.step {limit : Nat} {taken fresh : List Piece} {s : AsyncParser} {piece : Piece}
    (state : Taking limit taken (piece :: fresh) s) {stream : StreamReader}
    (took : s.stream.Took limit stream piece.wire) (fit : fits limit piece) {pos : Int}
    (moved : s.pos ≤ pos) :
    Taking limit (taken ++ [piece]) fresh
      { s with chunks := s.chunks ++ [piece.wire], pos, stream } where
  sane := state.sane.take took.live fit
  journal := by
    show s.buffer ++ (s.chunks ++ [piece.wire]).flatten = _
    rw [wire_append, ← state.journal]
    simp [wire]
  pos := Int.le_trans state.pos moved
  stream := by
    have whole := state.stream
    rw [took.content] at whole
    exact List.append_cancel_left (whole.trans (by simp [wire]))

/-- A cancelled read leaves the call resumable. -/
theorem Taking.cancelled {limit : Nat} {taken fresh : List Piece} {s : AsyncParser}
    (state : Taking limit taken fresh s) {stream : StreamReader}
    (stopped : s.stream.Cancelled limit stream) {rest : List Piece} (ends : rest <:+ fresh) :
    Resumable limit (taken ++ fresh) rest { s with stream } :=
  ⟨taken, fresh, rfl, ends, ⟨stopped.live, state.sane.connected, state.sane.fitting⟩, state.journal,
    stopped.content.symm.trans state.stream⟩

/-- What the journal holds next. -/
theorem Replaying.drop {limit : Nat} {consumed held fresh : List Piece} {s : AsyncParser}
    (state : Replaying limit consumed held fresh s) : sliceFrom s.buffer s.pos = wire held := by
  have inside : (wire consumed).length ≤ s.buffer.length := by
    rw [state.buffer, List.length_append]
    exact Nat.le_add_right _ _
  rw [sliceFrom, state.pos, sliceIndex_natCast inside, state.buffer, List.drop_left]

/-- A slice of the next piece in the journal. -/
theorem Replaying.slice {limit : Nat} {consumed held fresh : List Piece} {s : AsyncParser}
    (state : Replaying limit consumed held fresh s) {data rest : Bytes}
    (next : wire held = data ++ rest) :
    slice s.buffer s.pos (((wire consumed).length + data.length : Nat) : Int) = data := by
  have whole : s.buffer = (wire consumed ++ data) ++ rest := by
    rw [state.buffer, next, List.append_assoc]
  have inside : (wire consumed).length + data.length ≤ s.buffer.length := by
    rw [whole, List.length_append, List.length_append]
    exact Nat.le_add_right _ _
  have start : (wire consumed).length ≤ s.buffer.length := by omega
  rw [RedisPy.slice, state.pos, sliceIndex_natCast inside, sliceIndex_natCast start, whole,
    ← List.length_append, List.take_left, List.drop_left]

/-- Either the next piece is held by the journal, or the journal is used up. -/
theorem Before.next {limit bound : Nat} {all : List Piece} {piece : Piece} {rest : List Piece}
    {s : AsyncParser} (before : Before limit bound all s (piece :: rest)) :
    (∃ consumed held fresh, all = consumed ++ piece :: rest ∧ rest = held ++ fresh ∧
      consumed.length + held.length + 1 ≤ bound ∧
      Replaying limit consumed (piece :: held) fresh s) ∨
    ∃ taken, all = taken ++ piece :: rest ∧ Taking limit taken (piece :: rest) s := by
  rcases before with ⟨consumed, held, fresh, whole, split, short, replaying⟩ | ⟨taken, whole, taking⟩
  · cases held with
    | nil =>
      rw [List.nil_append] at split
      subst split
      exact .inr ⟨consumed, whole, replaying.taking⟩
    | cons piece' held =>
      obtain ⟨same, rests⟩ := List.cons.inj split
      subst same
      exact .inl ⟨consumed, held, fresh, whole, rests, short, replaying⟩
  · exact .inr ⟨taken, whole, taking⟩

/-- `_readline` reads one line. -/
theorem punctual_readline {limit bound : Nat} {all : List Piece} {line : Bytes} (plain : 10 ∉ line) :
    Reads (punctual limit bound all) readline [.line line]
      (admitted (refusal limit) line >>= fun _ => .ok line) := by
  intro s rest before
  have state : (get : EStateM Stop AsyncParser AsyncParser) s = .ok s s := rfl
  have width : (Piece.line line).wire.length = line.length + 2 := by simp [Piece.wire, crlf]
  rw [readline, bind_of_ok state]
  rcases before.next with ⟨consumed, held, fresh, whole, split, room, replaying⟩ | ⟨taken, whole, taking⟩
  · have next : wire (.line line :: held) = line ++ (crlf ++ wire held) := by
      simp [wire, Piece.wire]
    have short : line.length < limit :=
      replaying.sane.fitting (.line line) (List.mem_append_right _ List.mem_cons_self)
    have inside : (wire consumed).length ≤ s.buffer.length := by
      rw [replaying.buffer, List.length_append]
      exact Nat.le_add_right _ _
    have found : findCrlfFrom s.buffer s.pos = some ((wire consumed).length + line.length) := by
      rw [findCrlfFrom, replaying.drop, next, findCrlf_line plain, replaying.pos,
        sliceIndex_natCast inside, Option.map_some]
    simp only [found, replaying.slice next]
    refine ⟨by rw [admitted_of_fits short]; rfl, .inl ⟨consumed ++ [.line line], held, fresh, ?_, split,
      ?_, replaying.step ?_⟩, rfl, Nat.le_refl _⟩
    · rw [whole, List.append_assoc]
      rfl
    · rw [List.length_append, List.length_singleton]
      omega
    · rw [width]
      omega
  · have stream : s.stream.content = line ++ (crlf ++ wire rest) := by
      rw [taking.stream]
      simp [wire, Piece.wire]
    have past : sliceFrom s.buffer s.pos = [] := sliceFrom_end taking.pos
    have missing : findCrlfFrom s.buffer s.pos = none := by
      rw [findCrlfFrom, past]
      rfl
    have read := StreamReader.readlineLoop_line plain (s.stream.incoming.length + 1)
      taking.sane.live (Nat.lt_succ_self _) stream
    have calm := StreamReader.readlineLoop_calm (s.stream.incoming.length + 1) s.stream
    simp only [missing, past, List.nil_append]
    cases ran : StreamReader.readlineLoop (s.stream.incoming.length + 1) s.stream with
    | ok data stream' =>
      rw [ran] at read calm
      obtain ⟨same, short, took⟩ := read
      have lift : onStream StreamReader.readline s = .ok data { s with stream := stream' } := by
        simp only [onStream, StreamReader.readline, ran]
      have ends : crlf <:+ line ++ crlf := List.suffix_append _ _
      have stripped : dropTerminator (line ++ crlf) = line := by simp [dropTerminator, crlf]
      rw [bind_of_ok lift, same, if_pos ends, stripped]
      refine ⟨by rw [admitted_of_fits short]; rfl, .inr ⟨taken ++ [.line line], ?_,
        taking.step took short (by omega)⟩, calm⟩
      rw [whole, List.append_assoc]
      rfl
    | error e stream' =>
      rw [ran] at read calm
      have lift : onStream StreamReader.readline s = .error e { s with stream := stream' } := by
        simp only [onStream, StreamReader.readline, ran]
      rw [bind_of_error lift]
      rcases read with ⟨cancelled, stopped⟩ | ⟨refused, long⟩
      · obtain ⟨broken, noFeed⟩ := calm cancelled
        refine .inl ⟨⟨cancelled, ?_⟩, broken, ?_⟩
        · rw [whole]
          exact taking.cancelled stopped (List.suffix_cons _ _)
        · have width : s.stream.content.length = line.length + 2 + octets rest := by
            rw [stream, List.length_append, List.length_append]
            exact (Nat.add_assoc _ 2 _).symm
          have part := StreamReader.part_of_plain (stopped.content.symm.trans stream) noFeed
          exact short_of_cancelled stopped width part
      · refine .inr ⟨?_, trivial⟩
        rw [admitted_of_long long, refused]
        rfl

/-- `_read` reads one body. -/
theorem punctual_read {limit bound : Nat} {all : List Piece} (data : Bytes) :
    Reads (punctual limit bound all) (read (data.length : Int)) [.body data] (.ok data) := by
  intro s rest before
  have state : (get : EStateM Stop AsyncParser AsyncParser) s = .ok s s := rfl
  have width : (Piece.body data).wire.length = data.length + 2 := by simp [Piece.wire, crlf]
  rw [read, bind_of_ok state]
  rcases before.next with ⟨consumed, held, fresh, whole, split, room, replaying⟩ | ⟨taken, whole, taking⟩
  · have next : wire (.body data :: held) = data ++ (crlf ++ wire held) := by
      simp [wire, Piece.wire]
    have enough : (s.buffer.length : Int) ≥ s.pos + ((data.length : Int) + 2) := by
      rw [replaying.buffer, replaying.pos, List.length_append, next, List.length_append,
        List.length_append, crlf, List.length_cons, List.length_cons, List.length_nil]
      omega
    have bound : s.pos + ((data.length : Int) + 2) - 2 =
        (((wire consumed).length + data.length : Nat) : Int) := by
      rw [replaying.pos]
      omega
    simp only [if_pos enough, bound, replaying.slice next]
    refine ⟨rfl, .inl ⟨consumed ++ [.body data], held, fresh, ?_, split, ?_, replaying.step ?_⟩,
      rfl, Nat.le_refl _⟩
    · rw [whole, List.append_assoc]
      rfl
    · rw [List.length_append, List.length_singleton]
      omega
    · rw [width]
      rfl
  · have stream : s.stream.content = (data ++ crlf) ++ wire rest := by
      rw [taking.stream]
      simp [wire, Piece.wire]
    have past : sliceFrom s.buffer s.pos = [] := sliceFrom_end taking.pos
    have short : ¬(s.buffer.length : Int) ≥ s.pos + ((data.length : Int) + 2) := by
      have := taking.pos
      omega
    have want : (data.length : Int) + 2 - ((([] : Bytes).length : Nat) : Int) =
        (((data ++ crlf).length : Nat) : Int) := by
      simp [crlf]
    have read := StreamReader.readexactlyLoop_data (s.stream.incoming.length + 1)
      taking.sane.live (Nat.lt_succ_self _) stream
    have calm := StreamReader.readexactlyLoop_calm (data ++ crlf).length
      (s.stream.incoming.length + 1) s.stream
    have natural : ¬(((data ++ crlf).length : Nat) : Int) < 0 := by omega
    simp only [if_neg short, past, want, List.nil_append]
    cases ran : StreamReader.readexactlyLoop (data ++ crlf).length (s.stream.incoming.length + 1)
      s.stream with
    | ok found stream' =>
      rw [ran] at read calm
      obtain ⟨same, took⟩ := read
      have lift : onStream (StreamReader.readexactly (((data ++ crlf).length : Nat) : Int)) s =
          .ok found { s with stream := stream' } := by
        simp only [onStream, StreamReader.readexactly, if_neg natural, Int.toNat_natCast, ran]
      have stripped : dropTerminator (data ++ crlf) = data := by simp [dropTerminator, crlf]
      rw [bind_of_ok lift, same]
      simp only [stripped]
      refine ⟨rfl, .inr ⟨taken ++ [.body data], ?_, taking.step took trivial (by omega)⟩, calm⟩
      rw [whole, List.append_assoc]
      rfl
    | error e stream' =>
      rw [ran] at read calm
      obtain ⟨cancelled, stopped⟩ := read
      obtain ⟨broken, part⟩ := calm cancelled
      have lift : onStream (StreamReader.readexactly (((data ++ crlf).length : Nat) : Int)) s =
          .error e { s with stream := stream' } := by
        simp only [onStream, StreamReader.readexactly, if_neg natural, Int.toNat_natCast, ran]
      rw [bind_of_error lift]
      refine .inl ⟨⟨cancelled, ?_⟩, broken, ?_⟩
      · rw [whole]
        exact taking.cancelled stopped (List.suffix_cons _ _)
      · have width : s.stream.content.length = (data ++ crlf).length + octets rest := by
          rw [stream, List.length_append]
          rfl
        exact short_of_cancelled stopped width part

/-- The asyncio operations are lawful, cancellations included. -/
theorem ops_punctual (limit bound : Nat) (all : List Piece) (handlers : PushHandlers AsyncParser F) :
    (ops handlers).Lawful (punctual limit bound all) (refusal limit) where
  raised _ _ := trivial
  readline _ plain := punctual_readline plain
  read := punctual_read
  connectionError _ _ _ := fun _ _ _ => .inr ⟨rfl, trivial⟩

/-- The asyncio operations are lawful. -/
theorem ops_lawful (limit bound : Nat) (all : List Piece) (handlers : PushHandlers AsyncParser F) :
    (ops handlers).Lawful (source limit bound all) (refusal limit) :=
  (ops_punctual limit bound all handlers).coarsen (punctual_refines limit bound all)
    fun _ _ => trivial

/-! ## Sequences of replies -/

/-- Replies in front of an asyncio parser; the journal holds part of the first one at most. -/
def supply (limit : Nat) (protocol : Protocol) : Supply AsyncParser Stop Reply where
  before s replies := (∀ reply ∈ replies, reply.All (Reply.Framed protocol)) ∧
    Resumable limit (replies.flatMap Reply.pieces) (replies.tail.flatMap Reply.pieces) s
  patience := cancels
  interrupt e := e = .ofClass .cancelledError

variable {decoding : Decoding} {protocol : Protocol} {limit : Nat}

/-- What arrives between calls leaves a call resumable. -/
theorem Resumable.arrive {all rest : List Piece} {s : AsyncParser}
    (resumable : Resumable limit all rest s) :
    Resumable limit all rest s.arrive := by
  obtain ⟨held, fresh, whole, ends, sane, journal, stream⟩ := resumable
  have arrived := StreamReader.arrive_live s.stream.incoming sane.live rfl
  refine ⟨held, fresh, whole, ends, ⟨arrived.live, sane.connected, sane.fitting⟩, journal, ?_⟩
  show (s.stream.arrive s.stream.incoming).content = _
  rw [← stream, arrived.content, List.nil_append]

/-- A call that starts reads its journal first. -/
theorem Resumable.start {all rest : List Piece} {s : AsyncParser}
    (resumable : Resumable limit all rest s) :
    Before limit (all.length - rest.length) all s.start all := by
  obtain ⟨held, fresh, whole, ends, sane, journal, stream⟩ := resumable
  have lengths := congrArg List.length whole
  rw [List.length_append] at lengths
  have := ends.length_le
  refine .inl ⟨[], held, fresh, rfl, whole, ?_, ?_⟩
  · rw [List.length_nil]
    omega
  · exact ⟨⟨sane.live, sane.connected, sane.fitting⟩, journal, rfl, rfl, stream⟩

/-- The octets in reach are those of the pieces. -/
theorem Resumable.available {all rest : List Piece} {s : AsyncParser}
    (resumable : Resumable limit all rest s) : s.available = (wire all).length := by
  obtain ⟨held, fresh, whole, -, -, journal, stream⟩ := resumable
  rw [AsyncParser.available, whole, wire_append, ← journal, ← stream, List.length_append,
    List.length_append]

/-- A completed call has used up its journal, and clearing it loses nothing. -/
theorem Before.clear {own later rest : List Piece} {s : AsyncParser}
    (before : Before limit own.length (own ++ later) s later) (ends : rest <:+ later) :
    Resumable limit later rest s.clear := by
  have sane {taken : List Piece} (sane : Sane limit s taken) : Sane limit s.clear [] :=
    ⟨sane.live, sane.connected, by simp⟩
  rcases before with ⟨consumed, held, fresh, whole, split, room, state⟩ | ⟨taken, whole, state⟩
  · have same : own = consumed := List.append_cancel_right whole
    have none : held = [] := by
      apply List.length_eq_zero_iff.mp
      rw [same] at room
      omega
    rw [none, List.nil_append] at split
    exact ⟨[], later, rfl, ends, sane state.sane, rfl, by rw [split]; exact state.stream⟩
  · exact ⟨[], later, rfl, ends, sane state.sane, rfl, state.stream⟩

/-- With nothing to come, a line is never completed. -/
theorem readline_idle {s : AsyncParser} (before : Resumable limit [] [] s) :
    ∃ e t, readline s.arrive.start = .error e t ∧ Resumable limit [] [] t := by
  obtain ⟨held, fresh, whole, -, sane, journal, stream⟩ := before.arrive
  obtain ⟨unheld, nothing⟩ := List.append_eq_nil_iff.mp whole.symm
  rw [nothing] at stream
  rw [unheld] at journal
  obtain ⟨e, stream', ran, live, quiet⟩ := StreamReader.readline_idle sane.live stream
  have state : (get : EStateM Stop AsyncParser AsyncParser) s.arrive.start = .ok _ _ := rfl
  have empty : s.arrive.start.buffer = [] := journal
  have read : readline s.arrive.start = .error e { s.arrive.start with stream := stream' } := by
    have lift : onStream StreamReader.readline s.arrive.start =
        .error e { s.arrive.start with stream := stream' } := by
      have same : s.arrive.start.stream = s.arrive.stream := rfl
      simp only [onStream, same, ran]
    rw [readline, bind_of_ok state, empty]
    exact bind_of_error lift
  refine ⟨e, _, read, [], [], rfl, List.suffix_refl _, ⟨live, sane.connected, by simp⟩, ?_, quiet⟩
  show s.arrive.start.buffer ++ [] = []
  rw [empty]
  rfl

/-- The frame of `read_response` turns a reading parser into one that resumes. -/
theorem readResponse_resumes [PyFloat F] {readReply : Nat → EStateM Stop AsyncParser (PyVal F)}
    (reads : ∀ bound all depth (reply : Reply), reply.All (Reply.Framed protocol) →
      reply.pieces.length ≤ depth →
      Reads (source limit bound all) (readReply depth) reply.pieces
        (decoded (refusal limit) decoding reply))
    (line : ∀ depth, ∃ next, readReply (depth + 1) = readline >>= next) :
    Resumes (supply limit protocol) (call (readResponse readReply))
      (decoded (refusal limit) decoding) where
  step s item items before := by
    obtain ⟨framed, before⟩ := before
    rw [List.flatMap_cons, List.tail_cons] at before
    have arrived := before.arrive
    have started := arrived.start
    have within : (item.pieces ++ items.flatMap Reply.pieces).length -
        (items.flatMap Reply.pieces).length = item.pieces.length := by
      rw [List.length_append]
      omega
    rw [within] at started
    have deep : item.pieces.length ≤ s.arrive.available + 1 := by
      have := pieces_length_le (item.pieces ++ items.flatMap Reply.pieces)
      rw [arrived.available, wire]
      rw [List.length_append] at this
      omega
    have outcome := reads item.pieces.length (item.pieces ++ items.flatMap Reply.pieces) _ item
      (framed item List.mem_cons_self) deep _ _ started
    have fewer : cancels s.arrive.start ≤ cancels s := by
      obtain ⟨held, fresh, -, -, sane, -, -⟩ := before
      exact (StreamReader.arrive_live s.stream.incoming sane.live rfl).cancels
    unfold call readResponse
    cases ran : readReply _ s.arrive.start with
    | ok result t =>
      rw [ran] at outcome
      obtain ⟨value, behind, kept⟩ := outcome
      have ends : items.tail.flatMap Reply.pieces <:+ items.flatMap Reply.pieces := by
        cases items with
        | nil => exact List.suffix_refl _
        | cons other items => exact List.suffix_append _ _
      exact ⟨value, ⟨fun reply member => framed reply (List.mem_cons_of_mem item member),
        behind.clear ends⟩, Nat.le_trans kept fewer⟩
    | error e t =>
      rw [ran] at outcome
      rcases outcome with ⟨cancelled, rest, less⟩ | ⟨own, -⟩
      · refine .inl ⟨cancelled, ⟨framed, ?_⟩, Nat.lt_of_lt_of_le less fewer⟩
        rw [List.flatMap_cons]
        exact rest
      · exact .inr own
  idle s before := by
    obtain ⟨e, t, read, kept⟩ := readline_idle before.2
    obtain ⟨next, split⟩ := line s.arrive.available
    exact ⟨e, t, by rw [call, readResponse, split, bind_of_error read], by simp, kept⟩

/-- Both asyncio parsers resume. -/
theorem readResponseOf_resumes [PyFloat F] (handlers : PushHandlers AsyncParser F) :
    Resumes (supply limit protocol) (call (readResponseOf handlers decoding protocol))
      (decoded (refusal limit) decoding) := by
  cases protocol with
  | resp3 =>
    exact readResponse_resumes
      (fun bound all depth => reads_reply3 (ops_lawful limit bound all handlers) depth false)
      fun depth => ⟨_, rfl⟩
  | resp2 =>
    have resumes : Resumes (supply limit .resp2)
        (call (readResponse (Resp2.readReply (ops handlers) decoding)))
        (decoded (refusal limit) decoding) :=
      readResponse_resumes
        (fun bound all depth => reads_reply2 (ops_lawful limit bound all handlers) depth)
        fun depth => ⟨_, rfl⟩
    -- the parser is connected wherever replies are in front of it
    have same {s : AsyncParser} (connected : s.connected = true) :
        call (readResponseOf handlers decoding .resp2) s =
          call (readResponse (Resp2.readReply (ops handlers) decoding)) s := by
      have state : (get : EStateM Stop AsyncParser AsyncParser) s.arrive = .ok s.arrive s.arrive :=
        rfl
      have on : (!s.arrive.connected) = false := by
        show (!s.connected) = false
        rw [connected]
        rfl
      rw [call, readResponseOf, bind_of_ok state, on]
      rfl
    constructor
    · intro s item items before
      obtain ⟨-, held, fresh, -, -, sane, -⟩ := before.1, before.2
      rw [same sane.connected]
      exact resumes.step s item items before
    · intro s before
      obtain ⟨-, held, fresh, -, -, sane, -⟩ := before.1, before.2
      rw [same sane.connected]
      exact resumes.idle s before

/-- A parser on a new stream. -/
def connectedTo (limit : Nat) (incoming : List Wake) : AsyncParser :=
  onConnect { buffer := [], limit, ended := false, incoming }

/-- However often the parser is called on a stream, the calls that complete give the decoded
replies in order, each once; every other call was cancelled until all are returned, and
enough calls return them all. -/
def RoundTrips [PyFloat F] (readResponse : EStateM Stop AsyncParser (PyVal F))
    (decoding : Decoding) (replies : List Reply) (limit : Nat) (incoming : List Wake) : Prop :=
  (∀ count, ∃ done pending, replies = done ++ pending ∧
    List.Forall₂ (fun reply value => decoded (fun _ => none) decoding reply = .ok value) done
      (returned (calls (call readResponse) count (connectedTo limit incoming)).1) ∧
    (pending ≠ [] → ∀ e ∈ failures (calls (call readResponse) count (connectedTo limit incoming)).1,
      e = .ofClass .cancelledError)) ∧
  ∃ count, (returned (calls (call readResponse) count (connectedTo limit incoming)).1).length =
    replies.length

/-- A connected parser is in front of the replies that its stream brings. -/
theorem before_connectedTo {replies : List Reply} {incoming : List Wake}
    (framed : ∀ reply ∈ replies, reply.All (Reply.Framed protocol))
    (running : ∀ wake ∈ incoming, StreamReader.open' wake)
    (stream : StreamReader.arrivals incoming = replies.flatMap Reply.encode) :
    (supply limit protocol).before (connectedTo limit incoming) replies := by
  refine ⟨framed, [], replies.flatMap Reply.pieces, rfl, ?_, ⟨⟨rfl, rfl, running⟩, rfl, by simp⟩,
    rfl, ?_⟩
  · cases replies with
    | nil => exact List.suffix_refl _
    | cons reply replies => exact List.suffix_append _ _
  · show [] ++ StreamReader.arrivals incoming = wire (replies.flatMap Reply.pieces)
    rw [List.nil_append, stream]
    exact List.flatMap_assoc.symm

/-- Replies that are all returned, with no failure but cancellations, were readable. -/
theorem RoundTrips.readable [PyFloat F] {handlers : PushHandlers AsyncParser F}
    {replies : List Reply} {incoming : List Wake}
    (framed : ∀ reply ∈ replies, reply.All (Reply.Framed protocol))
    (sound : ∀ reply ∈ replies, reply.All (Reply.Sound decoding F))
    (running : ∀ wake ∈ incoming, StreamReader.open' wake)
    (stream : StreamReader.arrivals incoming = replies.flatMap Reply.encode)
    (trips : RoundTrips (readResponseOf handlers decoding protocol) decoding replies limit incoming) :
    ∀ reply ∈ replies, reply.All (Reply.Readable (refusal limit)) := by
  have resumes : Resumes (supply limit protocol) (call (readResponseOf handlers decoding protocol))
      (decoded (refusal limit) decoding) := readResponseOf_resumes handlers
  have before : (supply limit protocol).before (connectedTo limit incoming) replies :=
    before_connectedTo framed running stream
  obtain ⟨count, full⟩ := trips.2
  have own : ∀ reply ∈ replies, ∀ e, decoded (F := F) (refusal limit) decoding reply = .error e →
      ¬(supply limit protocol).interrupt e := by
    intro reply member e failed interrupted
    have refuses : ∀ line x, refusal limit line = some x → x = { cls := .valueError } := by
      intro line x refused
      unfold refusal at refused
      split at refused
      · cases refused
      · exact (Option.some.inj refused).symm
    have cause := decoded_error (sound reply member) refuses failed
    rw [cause] at interrupted
    have same : Stop.ofClass .valueError = .ofClass .cancelledError := interrupted
    exact absurd same (by decide)
  have peace (n : Nat)
      (short : (returned (calls (call (readResponseOf handlers decoding protocol)) n
        (connectedTo limit incoming)).1).length < replies.length) :
      ∀ e ∈ failures (calls (call (readResponseOf handlers decoding protocol)) n
        (connectedTo limit incoming)).1, (supply limit protocol).interrupt e := by
    obtain ⟨done, pending, split, values, failed⟩ := trips.1 n
    apply failed
    intro none
    rw [none, List.append_nil] at split
    have := values.length_eq
    rw [split] at short
    omega
  intro reply member
  obtain ⟨value, found⟩ := resumes.good_of_full count own before full peace reply member
  exact readable_of_decoded (sound reply member) found

/-- Readable replies survive the round trip under every fragmentation and every cancellation. -/
theorem roundTrips_of_readable [PyFloat F] (handlers : PushHandlers AsyncParser F)
    {replies : List Reply} {incoming : List Wake}
    (framed : ∀ reply ∈ replies, reply.All (Reply.Framed protocol))
    (sound : ∀ reply ∈ replies, reply.All (Reply.Sound decoding F))
    (running : ∀ wake ∈ incoming, StreamReader.open' wake)
    (stream : StreamReader.arrivals incoming = replies.flatMap Reply.encode)
    (readable : ∀ reply ∈ replies, reply.All (Reply.Readable (refusal limit))) :
    RoundTrips (readResponseOf handlers decoding protocol) decoding replies limit incoming := by
  have resumes : Resumes (supply limit protocol) (call (readResponseOf handlers decoding protocol))
      (decoded (refusal limit) decoding) := readResponseOf_resumes handlers
  have before : (supply limit protocol).before (connectedTo limit incoming) replies :=
    before_connectedTo framed running stream
  have good : ∀ reply ∈ replies,
      ∃ value : PyVal F, decoded (refusal limit) decoding reply = .ok value :=
    fun reply member => (decoded_iff_readable (sound reply member)).mpr (readable reply member)
  constructor
  · intro count
    obtain ⟨done, pending, delivery⟩ := resumes.calls_deliver count good before
    refine ⟨done, pending, delivery.split, ?_, delivery.failed⟩
    have plain : ∀ reply ∈ done, reply.All (Reply.Readable (refusal limit)) := by
      intro reply member
      apply readable reply
      rw [delivery.split]
      exact List.mem_append_left _ member
    have both := (List.forall₂_and_left done _).mpr ⟨plain, delivery.values⟩
    refine both.imp fun reply value found => ?_
    rw [← decoded_admitted (found.1.mono fun _ => Reply.Readable.admits)]
    exact found.2
  · exact ⟨_, resumes.calls_complete _ good before (Nat.le_refl _)⟩

/-- Decoding undoes encoding exactly for the sequences whose header lines are shorter than the
limit of the stream and in which every redirection names an address. -/
theorem roundTrips_iff_lines_fit [PyFloat F] (handlers : PushHandlers AsyncParser F)
    (decoding : Decoding) (protocol : Protocol) (replies : List Reply) (limit : Nat)
    (incoming : List Wake)
    (framed : ∀ reply ∈ replies, reply.All (Reply.Framed protocol))
    (sound : ∀ reply ∈ replies, reply.All (Reply.Sound decoding F))
    (running : ∀ wake ∈ incoming, StreamReader.open' wake)
    (stream : StreamReader.arrivals incoming = replies.flatMap Reply.encode) :
    RoundTrips (readResponseOf handlers decoding protocol) decoding replies limit incoming ↔
      ∀ reply ∈ replies, reply.All (Reply.Readable (refusal limit)) :=
  ⟨fun trips => trips.readable framed sound running stream,
    fun readable => roundTrips_of_readable handlers framed sound running stream readable⟩

/-- A nil in an array and a line, with cancellations inside the header and the body. -/
theorem roundTrips_iff_lines_fit_cancelled :
    RoundTrips (F := Empty) (readResponseOf defaultHandlers .raw .resp3) .raw
        [.array [.null, .bulk (ascii "a\r\nb")], .simple (ascii "OK")] StreamReader.defaultLimit
        [.data (ascii "*2\r\n_") false, .cancel, .data (ascii "\r\n$4\r\na\r") true, .cancel,
          .data (ascii "\nb\r\n+O") false, .data (ascii "K\r\n") true] ↔
      ∀ reply ∈ [Reply.array [.null, .bulk (ascii "a\r\nb")], .simple (ascii "OK")],
        reply.All (Reply.Readable (refusal StreamReader.defaultLimit)) := by
  have framedSimple : lineText (ascii "OK") := by unfold lineText; decide
  have undecoded (data : Bytes) : Decoding.raw.Succeeds data := by intro _ on; cases on
  apply roundTrips_iff_lines_fit defaultHandlers .raw .resp3
  · intro reply member
    simp only [List.mem_cons, List.not_mem_nil, or_false] at member
    rcases member with rfl | rfl
    · refine .intro trivial fun child member => ?_
      simp only [Reply.children, List.mem_cons, List.not_mem_nil, or_false] at member
      rcases member with rfl | rfl
      · exact .intro trivial (by simp [Reply.children])
      · exact .intro trivial (by simp [Reply.children])
    · exact .intro framedSimple (by simp [Reply.children])
  · intro reply member
    simp only [List.mem_cons, List.not_mem_nil, or_false] at member
    rcases member with rfl | rfl
    · refine .intro trivial fun child member => ?_
      simp only [Reply.children, List.mem_cons, List.not_mem_nil, or_false] at member
      rcases member with rfl | rfl
      · exact .intro trivial (by simp [Reply.children])
      · exact .intro (undecoded _) (by simp [Reply.children])
    · exact .intro (undecoded _) (by simp [Reply.children])
  · intro wake member
    simp only [List.mem_cons, List.not_mem_nil, or_false] at member
    rcases member with rfl | rfl | rfl | rfl | rfl | rfl
    · exact fun empty => by cases empty
    · trivial
    · exact fun empty => by cases empty
    · trivial
    · exact fun empty => by cases empty
    · exact fun empty => by cases empty
  · decide +kernel

/-- A status line as long as the limit is never returned. -/
theorem long_line_lost [PyFloat F] (handlers : PushHandlers AsyncParser F) (text : Bytes)
    (line : lineText text) (long : limit ≤ text.length + 1) :
    ¬RoundTrips (readResponseOf handlers .raw .resp2) .raw [.simple text] limit
      [.data (Reply.simple text).encode false] := by
  intro trips
  have undecoded : Decoding.raw.Succeeds text := by intro _ on; cases on
  have framed : (Reply.simple text).All (Reply.Framed .resp2) :=
    .intro line (by simp [Reply.children])
  have sound : (Reply.simple text).All (Reply.Sound .raw F) :=
    .intro undecoded (by simp [Reply.children])
  have some : (Reply.simple text).encode ≠ [] := by
    simp [Reply.encode, Reply.pieces, Reply.header, Piece.wire]
  have readable := trips.readable (by simpa using framed) (by simpa using sound)
    (by simpa [StreamReader.open'] using some) (by simp [StreamReader.arrivals]) (.simple text) (by simp)
  have fits : refusal limit (Reply.simple text).header = none := readable.here
  have refused : ¬(Reply.simple text).header.length < limit := by
    rw [Reply.header, List.length_cons]
    omega
  rw [refusal, if_neg refused] at fits
  cases fits

/-- A status of 65536 octets exceeds the limit that asyncio streams have by default. -/
theorem status_of_default_limit_lost :
    ¬RoundTrips (F := Empty) (readResponseOf defaultHandlers .raw .resp2) .raw
      [.simple (List.replicate 65536 97)] StreamReader.defaultLimit
      [.data (Reply.simple (List.replicate 65536 97)).encode false] := by
  apply long_line_lost
  · constructor
    · intro member
      exact absurd (List.eq_of_mem_replicate member) (by decide)
    · intro member
      exact absurd (List.eq_of_mem_replicate member) (by decide)
  · rw [List.length_replicate, StreamReader.defaultLimit]
    omega

end AsyncParser

end RedisPy
