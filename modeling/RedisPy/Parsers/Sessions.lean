import RedisPy.Lib.Runs
import RedisPy.Parsers.Async

/-!
# The sessions of an asyncio parser

A parser object outlives the connections it reads from: `on_connect` gives it the stream and the
encoder of a new one, `on_disconnect` says that the current one is gone. What the three
implementations keep across these calls differs. The RESP parsers keep their journal until
`on_connect` clears it and never forget the stream; the hiredis parser keeps its reader until
`on_connect` makes a new one. The hiredis library is a parameter.
-/

namespace RedisPy

open Interruptible

variable {F : Type}

/-! ## The parser classes -/

/-- An asyncio parser class, once it has been connected, and what its methods raise before. -/
structure ParserClass (P F : Type) where
  /-- `on_connect`; what is left of the previous session, if there was one, is given to it. -/
  onConnect : Option P → StreamReader → Encoder → P
  /-- `on_disconnect`. -/
  onDisconnect : P → P
  /-- `read_response`, with `disable_decoding` and, where there is one, `push_request`. -/
  readResponse : Bool → Bool → EStateM Stop P (PyVal F)
  /-- `can_read_destructive`. -/
  canReadDestructive : EStateM Stop P Bool
  /-- `self._stream`. -/
  stream : P → StreamReader
  /-- Something happens to the stream while nobody reads. -/
  pass : P → P
  /-- The exception of `read_response` before the first `on_connect`; the flag says whether
  `on_disconnect` was called. -/
  unread : Bool → Exc
  /-- The exception of `can_read_destructive` before the first `on_connect`. -/
  unreadable : Bool → Exc

/-- `if not self._connected` before the first `on_connect`: only `on_disconnect` sets the
attribute. -/
def notConnected (cls : ExcClass) (disconnected : Bool) : Exc :=
  if disconnected then { cls } else { cls := .attributeError }

/-- The next thing that happens to a stream happens while nobody reads. -/
def StreamReader.pass (s : StreamReader) : StreamReader :=
  match s.incoming with
  | .data chunk _ :: rest => { s with buffer := s.buffer ++ chunk, incoming := rest }
  | .eof :: rest => { s with ended := true, incoming := rest }
  | _ => s

/-- `_AsyncRESPBase`. -/
structure RespParser where
  /-- `self.encoder`. -/
  encoder : Encoder
  /-- The other attributes. -/
  parser : AsyncParser

namespace RespParser

/-- `_AsyncRESPBase.on_connect`: `_clear` leaves `_pos` as it is. -/
def onConnect : Option RespParser → StreamReader → Encoder → RespParser
  | none, stream, encoder => { encoder, parser := .onConnect stream }
  | some s, stream, encoder =>
    { encoder, parser := { s.parser.clear with stream, connected := true } }

/-- Run a method of the base class. -/
def onParser {α : Type} (program : EStateM Stop AsyncParser α) : EStateM Stop RespParser α :=
  fun s =>
    match program s.parser with
    | .ok value parser => .ok value { s with parser }
    | .error e parser => .error e { s with parser }

/-- `_AsyncRESPBase.can_read_destructive`. -/
def canReadDestructive : EStateM Stop RespParser Bool := fun s =>
  match s.parser.canReadDestructive with
  | .ok readable => .ok readable s
  | .error e => .error (.raised e) s

/-- The functions that handle pushes: they know nothing of the parser. -/
structure Handlers (F : Type) where
  /-- `pubsub_push_handler_func`. -/
  pubsub : PyVal F → Except Stop (PyVal F)
  /-- `invalidation_push_handler_func`. -/
  invalidation : Option (PyVal F → Except Stop (PyVal F))

/-- The handlers as the parser calls them. -/
def Handlers.awaited (handlers : Handlers F) : PushHandlers AsyncParser F where
  pubsub response := settle (handlers.pubsub response)
  invalidation := handlers.invalidation.map fun handler response => settle (handler response)

variable [PyFloat F]

/-- `_AsyncRESP2Parser.read_response`. -/
def readResponse2 (handlers : Handlers F) (disabled : Bool) : EStateM Stop RespParser (PyVal F) :=
  fun s =>
    onParser (AsyncParser.readResponseOf handlers.awaited { encoder := s.encoder, disabled } .resp2) s

/-- `_AsyncRESP3Parser.read_response`: nothing looks at `_connected`. -/
def readResponse3 (handlers : Handlers F) (disabled pushRequest : Bool) :
    EStateM Stop RespParser (PyVal F) := fun s =>
  onParser (AsyncParser.readResponse fun depth =>
    Resp3.readReply (AsyncParser.ops handlers.awaited) { encoder := s.encoder, disabled } depth
      pushRequest) s

/-- What the two RESP parsers share. -/
def classOf (readResponse : Bool → Bool → EStateM Stop RespParser (PyVal F)) (unread : Bool → Exc) :
    ParserClass RespParser F where
  onConnect := onConnect
  onDisconnect s := { s with parser := s.parser.onDisconnect }
  readResponse := readResponse
  canReadDestructive := canReadDestructive
  stream s := s.parser.stream
  pass s := { s with parser := { s.parser with stream := s.parser.stream.pass } }
  unread := unread
  unreadable := notConnected .redisError

/-- `_AsyncRESP2Parser`. -/
def resp2 (handlers : Handlers F) : ParserClass RespParser F :=
  classOf (fun disabled _ => readResponse2 handlers disabled) (notConnected .connectionError)

/-- `_AsyncRESP3Parser`: without a stream, `_read_response` raises `ConnectionError`. -/
def resp3 (handlers : Handlers F) : ParserClass RespParser F :=
  classOf (readResponse3 handlers) fun _ => { cls := .connectionError }

end RespParser

/-! ## The hiredis parser -/

/-- What `Reader.gets` comes to. -/
inductive Gets (F : Type) where
  /-- `NOT_ENOUGH_DATA`. -/
  | notEnoughData
  /-- A reply, or the exception object of an error reply. -/
  | reply (value : PyVal F)
  /-- The reader raises. -/
  | raises (e : Exc)

/-- `hiredis.Reader`, with readers of type `R`. -/
structure Hiredis (R F : Type) where
  /-- `hiredis.Reader(...)`, which decodes if the encoder does. -/
  reader : Encoder → R
  /-- `feed`. -/
  feed : R → Bytes → R
  /-- `gets(False)` if decoding is disabled, else `gets()`. -/
  gets : R → Bool → Gets F × R

/-- `StreamReader.read(n)`, one pass for each time it waits. -/
def StreamReader.readLoop (n : Nat) : Nat → StreamReader → EStateM.Result Stop StreamReader Bytes
  | 0, s => .error .blocked s
  | passes + 1, s =>
    if n = 0 then .ok [] s
    else if s.buffer ≠ [] ∨ s.ended then
      .ok (s.buffer.take n) { s with buffer := s.buffer.drop n }
    else
      match waitForData s with
      | .ok _ t => readLoop n passes t
      | .error e t => .error e t

/-- `StreamReader.read`. -/
def StreamReader.read (n : Nat) : EStateM Stop StreamReader Bytes := fun s =>
  readLoop n (s.incoming.length + 1) s

/-- Waiting for data moves it from what is to come to what has arrived. -/
theorem StreamReader.waitForData_content {s t : StreamReader} {u : Unit}
    (ran : waitForData s = .ok u t) : t.content = s.content := by
  unfold waitForData at ran
  unfold content
  split at ran
  · cases ran
  · next coming => cases ran; simp [coming, arrivals]
  · next coming => cases ran; simp [coming, arrivals]
  · cases ran

/-- `read` takes what it returns from the front of the stream. -/
theorem StreamReader.readLoop_content {n passes : Nat} {s t : StreamReader} {data : Bytes}
    (ran : readLoop n passes s = .ok data t) : s.content = data ++ t.content := by
  induction passes generalizing s with
  | zero => cases ran
  | succ passes ih =>
    rw [readLoop] at ran
    split at ran
    · cases ran
      rfl
    split at ran
    · cases ran
      show s.buffer ++ arrivals s.incoming = s.buffer.take n ++ (s.buffer.drop n ++ arrivals s.incoming)
      rw [← List.append_assoc, List.take_append_drop]
    cases waited : waitForData s with
    | ok u w =>
      rw [waited] at ran
      rw [← waitForData_content waited]
      exact ih ran
    | error e w => rw [waited] at ran; cases ran

/-- `_AsyncHiredisParser`, once connected. -/
structure HiredisParser (R : Type) where
  /-- `_stream`. -/
  stream : StreamReader
  /-- `_reader`. -/
  reader : R
  /-- `_connected`. -/
  connected : Bool

namespace HiredisParser

variable {R : Type}

/-- `read_from_socket`. -/
def readFromSocket (lib : Hiredis R F) (readSize : Nat) : EStateM Stop (HiredisParser R) Unit :=
  fun s =>
    match StreamReader.read readSize s.stream with
    | .ok [] stream => .error (.ofClass .connectionError) { s with stream }
    | .ok buffer stream => .ok () { s with stream, reader := lib.feed s.reader buffer }
    | .error e stream => .error e { s with stream }

/-- `can_read_destructive`; with a timeout of zero, a read that has to wait is cancelled. -/
def canReadDestructive (lib : Hiredis R F) (readSize : Nat) :
    EStateM Stop (HiredisParser R) Bool := fun s =>
  if !s.connected then .error (.ofClass .connectionError) s
  else
    match lib.gets s.reader false with
    | (.raises e, reader) => .error (.raised e) { s with reader }
    | (.reply _, reader) => .ok true { s with reader }
    | (.notEnoughData, reader) =>
      if s.stream.buffer = [] ∧ !s.stream.ended ∧ readSize ≠ 0 then .ok false { s with reader }
      else
        match readFromSocket lib readSize { s with reader } with
        | .ok _ t => .ok true t
        | .error e t => .error e t

/-- A `ConnectionError`, or a list that starts with one, is raised. -/
def delivered : PyVal F → Except Stop (PyVal F)
  | .exc e => if e.isinstance .connectionError then .error (.raised e) else .ok (.exc e)
  | .list (.exc e :: items) =>
    if e.isinstance .connectionError then .error (.raised e) else .ok (.list (.exc e :: items))
  | value => .ok value

/-- `while response is NOT_ENOUGH_DATA`; every pass takes at least one octet of the stream. -/
def responseLoop (lib : Hiredis R F) (readSize : Nat) (disabled : Bool) :
    Nat → EStateM Stop (HiredisParser R) (PyVal F)
  | 0, s => .error .blocked s
  | passes + 1, s =>
    match lib.gets s.reader disabled with
    | (.raises e, reader) => .error (.raised e) { s with reader }
    | (.reply value, reader) => settle (delivered value) { s with reader }
    | (.notEnoughData, reader) =>
      match readFromSocket lib readSize { s with reader } with
      | .ok _ t => responseLoop lib readSize disabled passes t
      | .error e t => .error e t

/-- After `read_from_socket`, the stream is shorter. -/
theorem readFromSocket_shorter {lib : Hiredis R F} {readSize : Nat} {s t : HiredisParser R} {u : Unit}
    (ran : readFromSocket lib readSize s = .ok u t) :
    t.stream.content.length < s.stream.content.length := by
  unfold readFromSocket at ran
  split at ran
  · cases ran
  · next buffer stream some read =>
    cases ran
    have whole := congrArg List.length (StreamReader.readLoop_content read)
    rw [List.length_append] at whole
    have taken : 0 < buffer.length := List.length_pos_iff.mpr some
    show stream.content.length < _
    omega
  · cases ran

/-- More passes than the stream has octets change nothing: `read_response` never runs out of
them. -/
theorem responseLoop_enough (lib : Hiredis R F) (readSize : Nat) (disabled : Bool) {few many : Nat}
    {s : HiredisParser R} (enough : s.stream.content.length < few) (more : few ≤ many) :
    responseLoop lib readSize disabled many s = responseLoop lib readSize disabled few s := by
  induction few generalizing s many with
  | zero => omega
  | succ few ih =>
    cases many with
    | zero => omega
    | succ many =>
      rw [responseLoop, responseLoop]
      split
      · rfl
      · rfl
      · next reader _ =>
        cases ran : readFromSocket lib readSize { s with reader } with
        | error e t => rfl
        | ok u t =>
          have shorter := readFromSocket_shorter ran
          have room : t.stream.content.length < few := by
            have same : ({ s with reader } : HiredisParser R).stream = s.stream := rfl
            rw [same] at shorter
            omega
          exact ih room (by omega)

/-- `read_response`. -/
def readResponse (lib : Hiredis R F) (readSize : Nat) (disabled : Bool) :
    EStateM Stop (HiredisParser R) (PyVal F) := fun s =>
  if !s.connected then .error (.ofClass .connectionError) s
  else responseLoop lib readSize disabled (s.stream.content.length + 1) s

/-- `_AsyncHiredisParser`. -/
def hiredis (lib : Hiredis R F) (readSize : Nat) : ParserClass (HiredisParser R) F where
  onConnect _ stream encoder := { stream, reader := lib.reader encoder, connected := true }
  onDisconnect s := { s with connected := false }
  readResponse disabled _ := readResponse lib readSize disabled
  canReadDestructive := canReadDestructive lib readSize
  stream s := s.stream
  pass s := { s with stream := s.stream.pass }
  unread := notConnected .connectionError
  unreadable := notConnected .connectionError

end HiredisParser

/-! ## Calls on a parser object -/

/-- A parser object: before the first `on_connect`, after `on_disconnect` or not, or since. -/
inductive Session (P : Type) where
  | before (disconnected : Bool)
  | since (parser : P)

/-- The calls on a parser object, and what happens to its stream between them. -/
inductive SessionCall where
  | onConnect (stream : StreamReader) (encoder : Encoder)
  | onDisconnect
  | readResponse (disableDecoding pushRequest : Bool)
  | canReadDestructive
  | pass

/-- What a call comes to. -/
inductive Shown (F : Type) where
  | done
  | response (value : PyVal F)
  | readable (answer : Bool)
  | stopped (e : Stop)

namespace ParserClass

variable {P : Type} (cls : ParserClass P F)

/-- The call of a method. -/
def called {α : Type} (present : α → Shown F) : EStateM.Result Stop P α → Session P × Shown F
  | .ok value p => (.since p, present value)
  | .error e p => (.since p, .stopped e)

/-- One call. -/
def step : Session P → SessionCall → Session P × Shown F
  | .before _, .onConnect stream encoder => (.since (cls.onConnect none stream encoder), .done)
  | .before _, .onDisconnect => (.before true, .done)
  | .before disconnected, .readResponse _ _ =>
    (.before disconnected, .stopped (.raised (cls.unread disconnected)))
  | .before disconnected, .canReadDestructive =>
    (.before disconnected, .stopped (.raised (cls.unreadable disconnected)))
  | .before disconnected, .pass => (.before disconnected, .done)
  | .since p, .onConnect stream encoder => (.since (cls.onConnect (some p) stream encoder), .done)
  | .since p, .onDisconnect => (.since (cls.onDisconnect p), .done)
  | .since p, .readResponse disabled pushRequest =>
    called .response (cls.readResponse disabled pushRequest p)
  | .since p, .canReadDestructive => called .readable (cls.canReadDestructive p)
  | .since p, .pass => (.since (cls.pass p), .done)

/-- The stream of a parser object. -/
def streamOf : Session P → Option StreamReader
  | .before _ => none
  | .since p => some (cls.stream p)

/-- Where calls on a new parser object lead. -/
def after (calls : List SessionCall) : Session P := Runs.final cls.step (.before false) calls

/-- `read_response` raises `ConnectionError` and takes nothing from the stream. -/
def Refuses (s : Session P) (disabled pushRequest : Bool) : Prop :=
  (cls.step s (.readResponse disabled pushRequest)).2 = .stopped (.ofClass .connectionError) ∧
  cls.streamOf (cls.step s (.readResponse disabled pushRequest)).1 = cls.streamOf s

/-- The call starts a session. -/
def connects : SessionCall → Prop
  | .onConnect _ _ => True
  | _ => False

/-- A parser that lost its connection stays closed until the next `on_connect`, and after it
behaves like a new parser object. -/
structure StaysClosed (calls : List SessionCall) : Prop where
  /-- Between `on_disconnect` and the next `on_connect`, all reads are refused. -/
  refused : ∀ earlier middle disabled pushRequest later,
    calls = earlier ++ .onDisconnect :: middle ++ .readResponse disabled pushRequest :: later →
    (∀ call ∈ middle, ¬connects call) →
    cls.Refuses (cls.after (earlier ++ .onDisconnect :: middle)) disabled pushRequest
  /-- Nothing of the sessions before an `on_connect` is seen after it. -/
  forgotten : ∀ earlier stream encoder later rest,
    calls = earlier ++ .onConnect stream encoder :: later ++ rest →
    Runs.shown cls.step (cls.after (earlier ++ [.onConnect stream encoder])) later =
      Runs.shown cls.step (cls.after [.onConnect stream encoder]) later ∧
    cls.streamOf (cls.after (earlier ++ .onConnect stream encoder :: later)) =
      cls.streamOf (cls.after (.onConnect stream encoder :: later))

/-! ## What is left of a session -/

/-- Results that are the same up to alike parsers. -/
def SameUpTo {α : Type} (Alike : P → P → Prop) :
    EStateM.Result Stop P α → EStateM.Result Stop P α → Prop
  | .ok value p, .ok other q => value = other ∧ Alike p q
  | .error e p, .error f q => e = f ∧ Alike p q
  | _, _ => False

/-- A parser is like a new one after `on_connect`, and alike parsers do the same. -/
structure Forgets (Alike : P → P → Prop) : Prop where
  /-- `on_connect` makes a parser like a new one. -/
  connected : ∀ previous stream encoder,
    Alike (cls.onConnect previous stream encoder) (cls.onConnect none stream encoder)
  /-- Two parsers that are connected again are alike. -/
  reconnected : ∀ p q stream encoder,
    Alike (cls.onConnect (some p) stream encoder) (cls.onConnect (some q) stream encoder)
  /-- Alike parsers are alike after `on_disconnect`. -/
  disconnected : ∀ p q, Alike p q → Alike (cls.onDisconnect p) (cls.onDisconnect q)
  /-- They have one stream. -/
  stream : ∀ p q, Alike p q → cls.stream p = cls.stream q
  /-- What happens to it happens to both. -/
  passed : ∀ p q, Alike p q → Alike (cls.pass p) (cls.pass q)
  /-- Both read the same. -/
  read : ∀ disabled pushRequest p q, Alike p q →
    SameUpTo Alike (cls.readResponse disabled pushRequest p) (cls.readResponse disabled pushRequest q)
  /-- Both can read, or neither can. -/
  readable : ∀ p q, Alike p q → SameUpTo Alike (cls.canReadDestructive p) (cls.canReadDestructive q)

/-- Sessions of alike parsers. -/
def Together (Alike : P → P → Prop) : Session P → Session P → Prop
  | .since p, .since q => Alike p q
  | _, _ => False

variable {cls} {Alike : P → P → Prop}

/-- Calls with the same results lead to alike parsers and come to the same. -/
theorem SameUpTo.called {α : Type} {first second : EStateM.Result Stop P α}
    (agree : SameUpTo Alike first second) (present : α → Shown F) :
    (called present first).2 = (called present second).2 ∧
      Together Alike (called present first).1 (called present second).1 := by
  cases first with
  | ok value p =>
    cases second with
    | ok other q =>
      obtain ⟨same, alike⟩ := agree
      exact ⟨congrArg present same, alike⟩
    | error e q => exact agree.elim
  | error e p =>
    cases second with
    | ok other q => exact agree.elim
    | error f q =>
      obtain ⟨same, alike⟩ := agree
      exact ⟨congrArg Shown.stopped same, alike⟩

/-- No call tells alike parsers apart. -/
theorem Forgets.step (forgets : cls.Forgets Alike) (s t : Session P) (call : SessionCall)
    (together : Together Alike s t) :
    (cls.step s call).2 = (cls.step t call).2 ∧
      Together Alike (cls.step s call).1 (cls.step t call).1 := by
  cases s with
  | before _ => exact together.elim
  | since p =>
    cases t with
    | before _ => exact together.elim
    | since q =>
      cases call with
      | onConnect stream encoder => exact ⟨rfl, forgets.reconnected p q stream encoder⟩
      | onDisconnect => exact ⟨rfl, forgets.disconnected p q together⟩
      | readResponse disabled pushRequest =>
        exact (forgets.read disabled pushRequest p q together).called .response
      | canReadDestructive => exact (forgets.readable p q together).called .readable
      | pass => exact ⟨rfl, forgets.passed p q together⟩

/-- Alike parsers have one stream. -/
theorem Forgets.streamOf (forgets : cls.Forgets Alike) {s t : Session P}
    (together : Together Alike s t) : cls.streamOf s = cls.streamOf t := by
  cases s with
  | before _ => exact together.elim
  | since p =>
    cases t with
    | before _ => exact together.elim
    | since q => exact congrArg some (forgets.stream p q together)

/-- After `on_connect` an object is like a new one. -/
theorem Forgets.connect (forgets : cls.Forgets Alike) (s : Session P) (stream : StreamReader)
    (encoder : Encoder) :
    Together Alike (cls.step s (.onConnect stream encoder)).1
      (cls.after [.onConnect stream encoder]) := by
  cases s with
  | before _ => exact forgets.connected none stream encoder
  | since p => exact forgets.connected (some p) stream encoder

/-- Nothing of earlier sessions is seen after `on_connect`. -/
theorem Forgets.forgotten (forgets : cls.Forgets Alike) (earlier : List SessionCall)
    (stream : StreamReader) (encoder : Encoder) (later : List SessionCall) :
    Runs.shown cls.step (cls.after (earlier ++ [.onConnect stream encoder])) later =
      Runs.shown cls.step (cls.after [.onConnect stream encoder]) later ∧
    cls.streamOf (cls.after (earlier ++ .onConnect stream encoder :: later)) =
      cls.streamOf (cls.after (.onConnect stream encoder :: later)) := by
  have start := forgets.connect (cls.after earlier) stream encoder
  obtain ⟨seen, together⟩ := Runs.shown_eq forgets.step start later
  have here : cls.after (earlier ++ [.onConnect stream encoder]) =
      (cls.step (cls.after earlier) (.onConnect stream encoder)).1 :=
    Runs.final_append cls.step (.before false) earlier [.onConnect stream encoder]
  constructor
  · rw [here]
    exact seen
  · have left : cls.after (earlier ++ .onConnect stream encoder :: later) =
        Runs.final cls.step (cls.step (cls.after earlier) (.onConnect stream encoder)).1 later :=
      Runs.final_append cls.step (.before false) earlier (.onConnect stream encoder :: later)
    rw [left]
    exact forgets.streamOf together

/-! ## Closed parsers -/

/-- A closed parser is one that `on_disconnect` leaves behind. Allowed calls keep it closed, and
reads among them are refused. -/
structure Closes (cls : ParserClass P F) (closed : P → Prop)
    (Allowed : Session P → SessionCall → Prop) : Prop where
  /-- `on_disconnect` closes. -/
  disconnected : ∀ p, closed (cls.onDisconnect p)
  /-- A closed parser that loses its stream, or whose stream goes on, is closed. -/
  passed : ∀ p, closed p → closed (cls.pass p)
  /-- `can_read_destructive` opens nothing. -/
  asked : ∀ p, closed p → ∃ e, cls.canReadDestructive p = .error e p
  /-- Without a stream there is nothing to read from. -/
  unread : cls.unread true = { cls := .connectionError }
  /-- Allowed reads are refused. -/
  refused : ∀ p disabled pushRequest, closed p →
    Allowed (.since p) (.readResponse disabled pushRequest) →
    ∃ q, cls.readResponse disabled pushRequest p = .error (.ofClass .connectionError) q ∧
      closed q ∧ cls.stream q = cls.stream p

/-- The connection of a parser object is lost. -/
def Lost (closed : P → Prop) : Session P → Prop
  | .before disconnected => disconnected = true
  | .since p => closed p

variable {closed : P → Prop} {Allowed : Session P → SessionCall → Prop}

/-- After `on_disconnect` the connection is lost. -/
theorem Closes.lose (closes : cls.Closes closed Allowed) (s : Session P) :
    Lost closed (cls.step s .onDisconnect).1 := by
  cases s with
  | before _ => exact rfl
  | since p => exact closes.disconnected p

/-- Reads of a lost connection are refused. -/
theorem Closes.refuses (closes : cls.Closes closed Allowed) {s : Session P} (lost : Lost closed s)
    {disabled pushRequest : Bool} (allowed : Allowed s (.readResponse disabled pushRequest)) :
    cls.Refuses s disabled pushRequest := by
  cases s with
  | before disconnected =>
    have known : disconnected = true := lost
    refine ⟨?_, rfl⟩
    show Shown.stopped (.raised (cls.unread disconnected)) = _
    rw [known, closes.unread]
  | since p =>
    obtain ⟨q, ran, -, same⟩ := closes.refused p disabled pushRequest lost allowed
    constructor
    · show (called .response (cls.readResponse disabled pushRequest p)).2 = _
      rw [ran]
      rfl
    · show cls.streamOf (called .response (cls.readResponse disabled pushRequest p)).1 = _
      rw [ran]
      exact congrArg some same

/-- A lost connection stays lost until the next `on_connect`. -/
theorem Closes.stays (closes : cls.Closes closed Allowed) (s : Session P) (call : SessionCall)
    (lost : Lost closed s) (allowed : Allowed s call ∧ ¬connects call) :
    Lost closed (cls.step s call).1 := by
  cases call with
  | onConnect stream encoder => exact absurd trivial allowed.2
  | onDisconnect => exact closes.lose s
  | readResponse disabled pushRequest =>
    cases s with
    | before _ => exact lost
    | since p =>
      obtain ⟨q, ran, shut, -⟩ := closes.refused p disabled pushRequest lost allowed.1
      show Lost closed (called .response (cls.readResponse disabled pushRequest p)).1
      rw [ran]
      exact shut
  | canReadDestructive =>
    cases s with
    | before _ => exact lost
    | since p =>
      obtain ⟨e, ran⟩ := closes.asked p lost
      show Lost closed (called .readable (cls.canReadDestructive p)).1
      rw [ran]
      exact lost
  | pass =>
    cases s with
    | before _ => exact lost
    | since p => exact closes.passed p lost

/-- The calls of a run are allowed. -/
def Lawful (cls : ParserClass P F) (Allowed : Session P → SessionCall → Prop)
    (calls : List SessionCall) : Prop :=
  Runs.Each (fun s call => (cls.step s call).1) Allowed (.before false) calls

/-- Between `on_disconnect` and the next `on_connect`, allowed reads are refused. -/
theorem Closes.refused_between (closes : cls.Closes closed Allowed) {calls : List SessionCall}
    (lawful : cls.Lawful Allowed calls) {earlier middle later : List SessionCall}
    {disabled pushRequest : Bool}
    (split : calls = earlier ++ .onDisconnect :: middle ++ .readResponse disabled pushRequest :: later)
    (between : ∀ call ∈ middle, ¬connects call) :
    cls.Refuses (cls.after (earlier ++ .onDisconnect :: middle)) disabled pushRequest := by
  have lost : Lost closed (cls.after (earlier ++ [.onDisconnect])) := by
    have here : cls.after (earlier ++ [.onDisconnect]) =
        (cls.step (cls.after earlier) .onDisconnect).1 :=
      Runs.final_append cls.step (.before false) earlier [.onDisconnect]
    rw [here]
    exact closes.lose (cls.after earlier)
  have same : cls.after (earlier ++ .onDisconnect :: middle) =
      Runs.final cls.step (cls.after (earlier ++ [.onDisconnect])) middle := by
    have cut : earlier ++ .onDisconnect :: middle = earlier ++ [.onDisconnect] ++ middle := by simp
    rw [cut]
    exact Runs.final_append cls.step (.before false) (earlier ++ [.onDisconnect]) middle
  have reached : Lost closed (cls.after (earlier ++ .onDisconnect :: middle)) := by
    rw [same]
    apply Runs.inv_of_each (Lost closed) closes.stays lost
    intro front call back cut
    constructor
    · have known := lawful (earlier ++ .onDisconnect :: front) call
        (back ++ .readResponse disabled pushRequest :: later) (by rw [split, cut]; simp)
      have there : (earlier ++ .onDisconnect :: front).foldl
          (fun s call => (cls.step s call).1) (.before false) =
          front.foldl (fun s call => (cls.step s call).1) (cls.after (earlier ++ [.onDisconnect])) := by
        simp [after, Runs.final, List.foldl_append]
      rw [← there]
      exact known
    · exact between call (by rw [cut]; simp)
  exact closes.refuses reached (lawful _ _ _ split)

/-- A parser class that closes and forgets stays closed in every run of allowed calls. -/
theorem staysClosed_of_lawful (closes : cls.Closes closed Allowed) (forgets : cls.Forgets Alike)
    {calls : List SessionCall} (lawful : cls.Lawful Allowed calls) : cls.StaysClosed calls where
  refused _ _ _ _ _ split between := closes.refused_between lawful split between
  forgotten earlier stream encoder later _ _ := forgets.forgotten earlier stream encoder later

/-- If all calls are allowed, so are those of a run. -/
theorem lawful_of_all (cls : ParserClass P F) (calls : List SessionCall) :
    cls.Lawful (fun _ _ => True) calls := fun _ _ _ _ => trivial

end ParserClass

open ParserClass

/-! ## The hiredis parser forgets and closes -/

namespace HiredisParser

variable {R : Type} (lib : Hiredis R F) (readSize : Nat)

/-- A result is the same as itself. -/
theorem sameUpTo_refl {P α : Type} (result : EStateM.Result Stop P α) : SameUpTo Eq result result := by
  cases result with
  | ok value p => exact ⟨rfl, rfl⟩
  | error e p => exact ⟨rfl, rfl⟩

/-- `on_connect` replaces all attributes. -/
theorem hiredis_forgets : (hiredis lib readSize).Forgets Eq where
  connected _ _ _ := rfl
  reconnected _ _ _ _ := rfl
  disconnected _ _ same := congrArg _ same
  stream _ _ same := congrArg _ same
  passed _ _ same := congrArg _ same
  read _ _ _ _ same := same ▸ sameUpTo_refl _
  readable _ _ same := same ▸ sameUpTo_refl _

/-- Both methods look at `_connected` first. -/
theorem hiredis_closes :
    (hiredis lib readSize).Closes (fun p => p.connected = false) fun _ _ => True where
  disconnected _ := rfl
  passed _ closed := closed
  asked p closed := by
    refine ⟨.ofClass .connectionError, ?_⟩
    show canReadDestructive lib readSize p = _
    simp [canReadDestructive, closed]
  unread := rfl
  refused p disabled _ closed _ := by
    have ran : readResponse lib readSize disabled p = .error (.ofClass .connectionError) p := by
      simp [readResponse, closed]
    exact ⟨p, ran, closed, rfl⟩

end HiredisParser

/-! ## The RESP parsers forget, and one of them closes -/

namespace RespParser

variable [PyFloat F] (handlers : Handlers F)

/-- Parsers that differ in `_pos` at most; the next call resets it. -/
def Alike (p q : RespParser) : Prop := ∃ pos, q = { p with parser := { p.parser with pos } }

omit [PyFloat F] in
/-- Running one program on one parser gives one result. -/
theorem onParser_sameUpTo {program : EStateM Stop AsyncParser (PyVal F)} {p q : RespParser}
    (alike : Alike p q) (same : program q.parser = program p.parser) :
    SameUpTo Alike (onParser program p) (onParser program q) := by
  obtain ⟨pos, rfl⟩ := alike
  unfold onParser
  rw [same]
  cases program p.parser with
  | ok value t => exact ⟨rfl, t.pos, rfl⟩
  | error e t => exact ⟨rfl, t.pos, rfl⟩

/-- A call of `read_response` begins with `_pos = 0`. -/
theorem readResponse_pos {α : Type} (readReply : Nat → EStateM Stop AsyncParser α)
    (s : AsyncParser) (pos : Int) :
    AsyncParser.readResponse readReply { s with pos } = AsyncParser.readResponse readReply s := rfl

/-- A call of `read_response` that raises leaves the journal. -/
theorem readResponse_of_error {α : Type} {readReply : Nat → EStateM Stop AsyncParser α}
    {s t : AsyncParser} {e : Stop} (ran : readReply (s.available + 1) s.start = .error e t) :
    AsyncParser.readResponse readReply s = .error e t := by
  unfold AsyncParser.readResponse
  rw [ran]

omit [PyFloat F] in
/-- What the RESP parsers share forgets, if its reads do. -/
theorem classOf_forgets {readResponse : Bool → Bool → EStateM Stop RespParser (PyVal F)}
    {unread : Bool → Exc}
    (read : ∀ disabled pushRequest p q, Alike p q →
      SameUpTo Alike (readResponse disabled pushRequest p) (readResponse disabled pushRequest q)) :
    (classOf readResponse unread).Forgets Alike where
  connected previous stream encoder := by
    cases previous with
    | none => exact ⟨0, rfl⟩
    | some s => exact ⟨0, rfl⟩
  reconnected _ q _ _ := ⟨q.parser.pos, rfl⟩
  disconnected _ _ alike := by
    obtain ⟨pos, rfl⟩ := alike
    exact ⟨pos, rfl⟩
  stream _ _ alike := by
    obtain ⟨pos, rfl⟩ := alike
    rfl
  passed _ _ alike := by
    obtain ⟨pos, rfl⟩ := alike
    exact ⟨pos, rfl⟩
  read := read
  readable p _ alike := by
    obtain ⟨pos, rfl⟩ := alike
    have same : ({ p.parser with pos } : AsyncParser).canReadDestructive =
        p.parser.canReadDestructive := rfl
    show SameUpTo Alike (canReadDestructive p) (canReadDestructive _)
    unfold canReadDestructive
    rw [same]
    cases p.parser.canReadDestructive with
    | ok answer => exact ⟨rfl, pos, rfl⟩
    | error e => exact ⟨rfl, pos, rfl⟩

/-- A connected RESP2 parser reads a reply. -/
theorem readResponseOf_connected (decoding : Decoding) {s : AsyncParser}
    (connected : s.connected = true) :
    AsyncParser.readResponseOf handlers.awaited decoding .resp2 s =
      AsyncParser.readResponse (fun depth =>
        Resp2.readReply (AsyncParser.ops handlers.awaited) decoding depth) s := by
  have state : (get : EStateM Stop AsyncParser AsyncParser) s = .ok s s := rfl
  rw [AsyncParser.readResponseOf, bind_of_ok state]
  simp only [connected]
  rfl

/-- A closed RESP2 parser refuses to read. -/
theorem readResponse2_closed {p : RespParser} (disabled : Bool)
    (closed : p.parser.connected = false) :
    readResponse2 handlers disabled p = .error (.ofClass .connectionError) p := by
  have state : (get : EStateM Stop AsyncParser AsyncParser) p.parser = .ok p.parser p.parser := rfl
  have ran : AsyncParser.readResponseOf handlers.awaited { encoder := p.encoder, disabled } .resp2
      p.parser = .error (.ofClass .connectionError) p.parser := by
    rw [AsyncParser.readResponseOf, bind_of_ok state]
    simp only [closed]
    rfl
  rw [readResponse2, onParser, ran]

/-- The RESP2 parser forgets. -/
theorem resp2_forgets : (resp2 handlers).Forgets Alike := by
  refine classOf_forgets fun disabled _ p q alike => ?_
  obtain ⟨pos, rfl⟩ := alike
  cases connected : p.parser.connected with
  | true =>
    apply onParser_sameUpTo ⟨pos, rfl⟩
    have moved : { p.parser with pos }.connected = true := connected
    rw [readResponseOf_connected handlers _ connected, readResponseOf_connected handlers _ moved]
    exact readResponse_pos _ p.parser pos
  | false =>
    rw [readResponse2_closed handlers disabled connected,
      readResponse2_closed handlers disabled (p := { p with parser := { p.parser with pos } }) connected]
    exact ⟨rfl, pos, rfl⟩

/-- The RESP3 parser forgets. -/
theorem resp3_forgets : (resp3 handlers).Forgets Alike := by
  refine classOf_forgets fun disabled pushRequest p q alike => ?_
  obtain ⟨pos, rfl⟩ := alike
  exact onParser_sameUpTo ⟨pos, rfl⟩ (readResponse_pos _ p.parser pos)

omit [PyFloat F] in
/-- A closed parser cannot be asked whether it has something to read. -/
theorem canReadDestructive_closed {p : RespParser} (closed : p.parser.connected = false) :
    canReadDestructive p = .error (.ofClass .redisError) p := by
  have ran : p.parser.canReadDestructive = .error { cls := .redisError } := by
    simp [AsyncParser.canReadDestructive, closed]
  rw [canReadDestructive, ran]

/-- The RESP2 parser closes. -/
theorem resp2_closes :
    (resp2 handlers).Closes (fun p => p.parser.connected = false) fun _ _ => True where
  disconnected _ := rfl
  passed _ closed := closed
  asked _ closed := ⟨_, canReadDestructive_closed closed⟩
  unread := rfl
  refused p disabled _ closed _ := ⟨p, readResponse2_closed handlers disabled closed, closed, rfl⟩

/-! ## The RESP3 parser -/

/-- Nothing is left to read: the stream is at its end and no line ends in the journal. -/
structure Exhausted (s : AsyncParser) : Prop where
  /-- The server closed the connection. -/
  ended : s.stream.ended = true
  /-- All data was taken. -/
  taken : s.stream.buffer = []
  /-- The journal holds no line. -/
  journal : findCrlfFrom (s.buffer ++ s.chunks.flatten) 0 = none

/-- Reads of a closed parser find nothing to read. -/
def OnlyExhausted : Session RespParser → SessionCall → Prop
  | .since p, .readResponse _ _ => p.parser.connected = false → Exhausted p.parser
  | _, _ => True

/-- Without a line in the journal and at the end of the stream, `_readline` fails. -/
theorem Exhausted.readline {s : AsyncParser} (exhausted : Exhausted s) :
    AsyncParser.readline s.start = .error (.ofClass .connectionError) s.start := by
  have state : (get : EStateM Stop AsyncParser AsyncParser) s.start = .ok s.start s.start := rfl
  have line : StreamReader.readline s.stream = .ok [] s.stream := by
    have same : s.stream =
        { buffer := [], limit := s.stream.limit, ended := true, incoming := s.stream.incoming } := by
      rw [← exhausted.taken, ← exhausted.ended]
    rw [same]
    simp [StreamReader.readline, StreamReader.readlineLoop]
  have lift : AsyncParser.onStream StreamReader.readline s.start = .ok [] s.start := by
    have same : s.start.stream = s.stream := rfl
    rw [AsyncParser.onStream, same, line]
    rfl
  have none : findCrlfFrom s.start.buffer s.start.pos = none := exhausted.journal
  rw [AsyncParser.readline, bind_of_ok state, none]
  simp only
  rw [bind_of_ok lift]
  rfl

/-- Such a read ends with `ConnectionError` and takes nothing. -/
theorem Exhausted.readResponse3 {p : RespParser} (exhausted : Exhausted p.parser)
    (disabled pushRequest : Bool) :
    readResponse3 handlers disabled pushRequest p =
      .error (.ofClass .connectionError) { p with parser := p.parser.start } := by
  have ran : AsyncParser.readResponse (fun depth => Resp3.readReply
      (AsyncParser.ops handlers.awaited) { encoder := p.encoder, disabled } depth pushRequest)
      p.parser = .error (.ofClass .connectionError) p.parser.start := by
    apply readResponse_of_error
    rw [Resp3.readReply]
    exact bind_of_error exhausted.readline
  rw [RespParser.readResponse3, onParser, ran]

/-- The RESP3 parser closes as far as its closed reads find nothing. -/
theorem resp3_closes :
    (resp3 handlers).Closes (fun p => p.parser.connected = false) OnlyExhausted where
  disconnected _ := rfl
  passed _ closed := closed
  asked _ closed := ⟨_, canReadDestructive_closed closed⟩
  unread := rfl
  refused p disabled pushRequest closed allowed :=
    ⟨{ p with parser := p.parser.start },
      (allowed closed).readResponse3 handlers disabled pushRequest, closed, rfl⟩

end RespParser

/-! ## All three -/

/-- The RESP2 and the hiredis parser stay closed in every run, and the RESP3 parser in every run
whose reads after `on_disconnect` find nothing to read. -/
theorem parsers_stayClosed [PyFloat F] {R : Type} (handlers : RespParser.Handlers F)
    (lib : Hiredis R F) (readSize : Nat) (calls : List SessionCall) :
    (RespParser.resp2 handlers).StaysClosed calls ∧
    (HiredisParser.hiredis lib readSize).StaysClosed calls ∧
    ((RespParser.resp3 handlers).Lawful RespParser.OnlyExhausted calls →
      (RespParser.resp3 handlers).StaysClosed calls) := by
  have resp2 := staysClosed_of_lawful (RespParser.resp2_closes handlers)
    (RespParser.resp2_forgets handlers) (lawful_of_all _ calls)
  have hiredis := staysClosed_of_lawful (HiredisParser.hiredis_closes lib readSize)
    (HiredisParser.hiredis_forgets lib readSize) (lawful_of_all _ calls)
  exact ⟨resp2, hiredis, staysClosed_of_lawful (RespParser.resp3_closes handlers)
    (RespParser.resp3_forgets handlers)⟩

/-- The stream of a connection that the server closed after it sent the data. -/
def StreamReader.closed (data : Bytes) : StreamReader :=
  { buffer := data, limit := defaultLimit, ended := true, incoming := [] }

/-- All data was taken when the connection is lost and read again. -/
theorem parsers_stayClosed_exhausted :
    let calls : List SessionCall :=
      [.onConnect (.closed (ascii "+OK\r\n")) .raw, .readResponse false false, .onDisconnect,
        .readResponse false false]
    (RespParser.resp3 (F := Empty) { pubsub := .ok, invalidation := none }).StaysClosed calls := by
  intro calls
  have lib : Hiredis Unit Empty :=
    { reader := fun _ => (), feed := fun _ _ => (), gets := fun _ _ => (.notEnoughData, ()) }
  refine (parsers_stayClosed { pubsub := .ok, invalidation := none } lib 65536 calls).2.2 ?_
  -- the first read is of an open parser, the second one finds nothing
  refine Runs.each_cons.mpr ⟨trivial, Runs.each_cons.mpr ⟨fun closed => absurd closed (by decide), ?_⟩⟩
  refine Runs.each_cons.mpr ⟨trivial, Runs.each_cons.mpr ⟨fun _ => ?_, Runs.each_nil⟩⟩
  exact ⟨by decide +kernel, by decide +kernel, by decide +kernel⟩

/-- A reply that arrived before the connection was lost is returned by the RESP3 parser after
`on_disconnect`. -/
theorem resp3_reads_when_closed :
    ¬(RespParser.resp3 (F := Empty) { pubsub := .ok, invalidation := none }).StaysClosed
      [.onConnect (.closed (ascii "+OK\r\n")) .raw, .onDisconnect, .readResponse false false] := by
  intro stays
  have refused := (stays.refused [.onConnect _ .raw] [] false false [] rfl (by simp)).2
  have taken := congrArg (Option.map fun s => s.buffer.length) refused
  revert taken
  decide +kernel

end RedisPy
