import RedisPy.Lib.Contract
import RedisPy.Lib.Polling
import RedisPy.Parsers.Agreement
import RedisPy.Parsers.Sessions

/-!
# Polling a blocking parser

`can_read` of the blocking parsers between calls of `read_response`. The parsers over a
`SocketBuffer` receive octets early and read them later. The hiredis parser also reads a reply
early, before it knows how the reply will be asked for, and keeps it.
-/

namespace RedisPy

open Interruptible Contract Polling

variable {F : Type}

/-- How it goes when a `can_read(timeout)` has to receive. -/
inductive Timing where
  /-- Octets arrive in time. -/
  | arrives
  /-- They do not. -/
  | timeout
  /-- The timeout is zero, and nothing is there. -/
  | wouldBlock
deriving DecidableEq

/-- What its `recv` finds in front of what is still to come. -/
def Timing.meets : Timing → List Recv → List Recv
  | .arrives, socket => socket
  | .timeout, socket => .timeout :: socket
  | .wouldBlock, socket => .nonblocking true :: socket

/-- How a call ended, and the state in which it left the parser. -/
def ended {α σ : Type} : EStateM.Result Stop σ α → Except Stop α × σ
  | .ok value s => (.ok value, s)
  | .error e s => (.error e, s)

/-! ## The parsers over a buffer -/

namespace SocketBuffer

/-- `can_read(timeout)`, which receives if there is nothing to read. -/
def poll (timing : Timing) : EStateM Stop SocketBuffer Bool := fun s =>
  if s.unreadBytes ≠ 0 then canRead s else canRead { s with socket := timing.meets s.socket }

/-- `_RESP2Parser` or `_RESP3Parser`, polled and read from. -/
def polled [PyFloat F] (handlers : PushHandlers SocketBuffer F) (encoder : Encoder)
    (protocol : Protocol) : Reader SocketBuffer Timing Bool (Except Stop (PyVal F)) where
  poll timing s := stateAfter (poll timing s)
  read disabled s := ended (parserReadResponse handlers { encoder, disabled } protocol s)

/-- What reads show of replies in order; a reply that raises stays in front. -/
def serve [PyFloat F] (encoder : Encoder) (disabled : Bool) :
    List Reply → Except Stop (PyVal F) × List Reply
  | [] => (.error .blocked, [])
  | reply :: replies =>
    match decoded refusal { encoder, disabled } reply with
    | .ok value => (.ok value, replies)
    | .error e => (.error e, reply :: replies)

/-- In front of replies, without timeouts to come. -/
def InFront (protocol : Protocol) (s : SocketBuffer) (replies : List Reply) : Prop :=
  (supply protocol).before s replies ∧ timeouts s.socket = 0

/-- Receiving a chunk does not change what is in front. -/
theorem InFront.grow {protocol : Protocol} {s : SocketBuffer} {replies : List Reply}
    (front : InFront protocol s replies) {chunk : Bytes} {rest : List Recv}
    (coming : s.socket = .data chunk :: rest) :
    InFront protocol { s with buffer := s.buffer ++ chunk, socket := rest } replies := by
  obtain ⟨⟨framed, before⟩, prompt⟩ := front
  have moved : Moved s { s with buffer := s.buffer ++ chunk, socket := rest } chunk := by
    refine ⟨rfl, by rw [coming]; rfl, ?_⟩
    rw [coming]
    exact List.suffix_cons _ _
  refine ⟨⟨framed, ?_, moved.peaceful before.peaceful, ?_⟩, ?_⟩
  · show s.pos ≤ (s.buffer ++ chunk).length
    have inside := before.pos
    rw [List.length_append]
    omega
  · rw [moved.unread before.pos rfl, List.append_assoc, ← moved.arrivals]
    exact before.stream
  · have fewer := timeouts_suffix moved.socket
    omega

/-- Polling does not change what is in front. -/
theorem InFront.poll {protocol : Protocol} {s : SocketBuffer} {replies : List Reply}
    (front : InFront protocol s replies) (timing : Timing) :
    InFront protocol (stateAfter (poll timing s)) replies := by
  have state (t : SocketBuffer) : (get : EStateM Stop SocketBuffer SocketBuffer) t = .ok t t := rfl
  unfold SocketBuffer.poll
  by_cases some : s.unreadBytes ≠ 0
  · rw [if_pos some, canRead, bind_of_ok (state s), if_pos some]
    exact front
  · have none : ¬SocketBuffer.unreadBytes { s with socket := timing.meets s.socket } ≠ 0 := some
    rw [if_neg some, canRead, bind_of_ok (state _), if_neg none]
    cases timing with
    | timeout => exact front
    | wouldBlock => exact front
    | arrives =>
      show InFront protocol (stateAfter (recvLoop Option.none false 0 s s.socket)) replies
      cases coming : s.socket with
      | nil =>
        rw [recvLoop, ← coming]
        exact front
      | cons event rest =>
        have orderly := front.1.2.peaceful event (by rw [coming]; exact List.mem_cons_self)
        cases event with
        | data chunk =>
          have filled : chunk ≠ [] := orderly
          rw [recvLoop, if_neg filled]
          exact front.grow coming
        | timeout =>
          have prompt := front.2
          rw [coming] at prompt
          cases prompt
        | nonblocking allowed => exact orderly.elim
        | osError => exact orderly.elim

section Reading

variable [PyFloat F] {encoder : Encoder} {disabled : Bool} {reply : Reply} {replies : List Reply}

/-- A reply that decodes is taken away. -/
theorem serve_ok {value : PyVal F}
    (decodes : decoded refusal { encoder, disabled } reply = .ok value) :
    serve encoder disabled (reply :: replies) = (.ok value, replies) := by
  simp only [serve, decodes]

/-- A reply that raises stays. -/
theorem serve_error {e : Stop}
    (raises : decoded (F := F) refusal { encoder, disabled } reply = .error e) :
    serve (F := F) encoder disabled (reply :: replies) = (.error e, reply :: replies) := by
  simp only [serve, raises]

/-- In front of a reply that decodes, a call returns it. -/
theorem InFront.returns (handlers : PushHandlers SocketBuffer F) {protocol : Protocol}
    {s : SocketBuffer} {value : PyVal F}
    (decodes : decoded refusal { encoder, disabled } reply = .ok value)
    (front : InFront protocol s (reply :: replies)) :
    ∃ t, parserReadResponse handlers { encoder, disabled } protocol s = .ok value t ∧
      InFront protocol t replies := by
  obtain ⟨before, prompt⟩ := front
  have resumes : Resumes (supply protocol)
      (parserReadResponse handlers { encoder, disabled } protocol)
      (decoded refusal { encoder, disabled }) := parserReadResponse_resumes handlers
  have step := resumes.step s reply replies before
  cases ran : parserReadResponse handlers { encoder, disabled } protocol s with
  | ok found t =>
    rw [ran, decodes] at step
    obtain ⟨same, kept, fewer⟩ := step
    cases same
    have still : timeouts t.socket ≤ timeouts s.socket := fewer
    exact ⟨t, rfl, kept, by omega⟩
  | error e t =>
    rw [ran, decodes] at step
    rcases step with ⟨-, -, fewer⟩ | own
    · have still : timeouts t.socket < timeouts s.socket := fewer
      omega
    · cases own

/-- The parsers serve the replies, whatever is polled. -/
theorem polled_serves (handlers : PushHandlers SocketBuffer F) (encoder : Encoder)
    (protocol : Protocol) :
    Serves (polled handlers encoder protocol) (fun _ _ _ => True) (serve encoder)
      fun _ => InFront protocol where
  poll timing front _ := front.poll timing
  read {disabled _ s replies} front := by
    obtain ⟨readReply, same, reads, line⟩ :=
      parserReadResponse_eq handlers { encoder, disabled } protocol
    show (ended (parserReadResponse handlers { encoder, disabled } protocol s)).1 = _ ∧
      InFront protocol (ended (parserReadResponse handlers { encoder, disabled } protocol s)).2 _
    cases replies with
    | nil =>
      obtain ⟨t, waits, kept, still⟩ := readResponse_waits line front.1.2 front.2
      rw [same, waits]
      exact ⟨rfl, ⟨nofun, kept⟩, still⟩
    | cons reply replies =>
      cases outcome : decoded (F := F) refusal { encoder, disabled } reply with
      | ok value =>
        obtain ⟨t, returns, kept⟩ := front.returns handlers outcome
        rw [returns, serve_ok outcome]
        exact ⟨rfl, kept⟩
      | error e =>
        obtain ⟨t, raises, kept, still⟩ := readResponse_sticks reads outcome front.1 front.2
        rw [same, raises, serve_error outcome]
        exact ⟨rfl, kept, still⟩

end Reading

end SocketBuffer

/-! ## The hiredis parser -/

/-- What `gets` shows to `read_response`, if there is a reply. -/
def Gets.seen : Gets F → Option (Except Stop (PyVal F))
  | .notEnoughData => none
  | .reply value => some (HiredisParser.delivered value)
  | .raises e => some (.error (.raised e))

/-- What `gets` comes to for a reply. -/
def Gets.of : Except Exc (PyVal F) → Gets F
  | .ok value => .reply value
  | .error e => .raises e

/-- `_HiredisParser`, once connected. -/
structure BlockingHiredis (R F : Type) where
  /-- `_sock`, as what it still delivers. -/
  sock : List Recv
  /-- `_reader` is set. -/
  connected : Bool
  /-- `_reader`. -/
  reader : R
  /-- `_next_response`; `NOT_ENOUGH_DATA` is `none`. -/
  nextResponse : Option (PyVal F)

namespace BlockingHiredis

variable {R : Type}

/-- `on_connect`. -/
def onConnect (lib : Hiredis R F) (encoder : Encoder) (sock : List Recv) : BlockingHiredis R F :=
  { sock, connected := true, reader := lib.reader encoder, nextResponse := none }

/-- `read_from_socket`. -/
def readFromSocket (lib : Hiredis R F) (raiseOnTimeout : Bool) :
    EStateM Stop (BlockingHiredis R F) Bool := fun s =>
  match s.sock with
  | [] => .error .blocked s
  | .data chunk :: rest =>
    if chunk = [] then .error (.ofClass .connectionError) { s with sock := rest }
    else .ok true { s with sock := rest, reader := lib.feed s.reader chunk }
  | .timeout :: rest =>
    if raiseOnTimeout then .error (.ofClass .timeoutError) { s with sock := rest }
    else .ok false { s with sock := rest }
  | .nonblocking allowed :: rest =>
    if !raiseOnTimeout && allowed then .ok false { s with sock := rest }
    else .error (.ofClass .connectionError) { s with sock := rest }
  | .osError :: rest => .error (.ofClass .osError) { s with sock := rest }

/-- `can_read(timeout)`. -/
def canRead (lib : Hiredis R F) (timing : Timing) : EStateM Stop (BlockingHiredis R F) Bool :=
  fun s =>
    if !s.connected then .error (.ofClass .connectionError) s
    else
      match s.nextResponse with
      | some _ => .ok true s
      | none =>
        match lib.gets s.reader false with
        | (.raises e, reader) => .error (.raised e) { s with reader }
        | (.reply value, reader) => .ok true { s with reader, nextResponse := some value }
        | (.notEnoughData, reader) =>
          readFromSocket lib false { s with reader, sock := timing.meets s.sock }

/-- `while response is NOT_ENOUGH_DATA`; every pass receives once. -/
def responseLoop (lib : Hiredis R F) (disabled : Bool) :
    Nat → EStateM Stop (BlockingHiredis R F) (PyVal F)
  | 0, s => .error .blocked s
  | passes + 1, s =>
    match lib.gets s.reader disabled with
    | (.raises e, reader) => .error (.raised e) { s with reader }
    | (.reply value, reader) => settle (HiredisParser.delivered value) { s with reader }
    | (.notEnoughData, reader) =>
      match readFromSocket lib true { s with reader } with
      | .ok _ t => responseLoop lib disabled passes t
      | .error e t => .error e t

/-- `read_response`; a reply that `can_read` kept is returned as it is. -/
def readResponse (lib : Hiredis R F) (disabled : Bool) :
    EStateM Stop (BlockingHiredis R F) (PyVal F) := fun s =>
  if !s.connected then .error (.ofClass .connectionError) s
  else
    match s.nextResponse with
    | some value => .ok value { s with nextResponse := none }
    | none => responseLoop lib disabled (s.sock.length + 1) s

/-- `_HiredisParser`, polled and read from. -/
def polled (lib : Hiredis R F) :
    Reader (BlockingHiredis R F) Timing Bool (Except Stop (PyVal F)) where
  poll timing s := stateAfter (canRead lib timing s)
  read disabled s := ended (readResponse lib disabled s)

/-- The reply that a poll takes out of the reader, if it does, is one that the next read would take
out and show alike: the reader does not raise, the reply is of no connection class and does not
begin with an error that is, and it decodes to the same value. -/
def Foreseen (lib : Hiredis R F) (s : BlockingHiredis R F) (_ : Timing) (asks : List Bool) : Prop :=
  s.nextResponse = none →
    match (lib.gets s.reader false).1 with
    | .notEnoughData => True
    | .raises _ => False
    | .reply value => ∀ disabled ∈ asks.head?, (lib.gets s.reader disabled).1.seen = some (.ok value)

end BlockingHiredis

/-- The reader finds these replies in what it is fed, however that is cut: `unread` are the octets
that it was fed and of which it has made no reply, and a reply comes to the same `outcome` wherever
it stands. -/
structure Hiredis.Incremental {R : Type} (lib : Hiredis R F) (encoder : Encoder)
    (replies : List Reply) (outcome : Bool → Reply → Except Exc (PyVal F))
    (Unread : R → Bytes → Prop) : Prop where
  /-- A new reader was fed nothing. -/
  new : Unread (lib.reader encoder) []
  /-- What it is fed comes behind the rest. -/
  feed : ∀ r unread chunk, Unread r unread → Unread (lib.feed r chunk) (unread ++ chunk)
  /-- Nothing is not enough. -/
  nothing : ∀ r disabled, Unread r [] →
    ∃ r', lib.gets r disabled = (.notEnoughData, r') ∧ Unread r' []
  /-- A part of a reply is not enough. -/
  part : ∀ reply ∈ replies, ∀ r unread more disabled, Unread r unread →
    reply.encode = unread ++ more → more ≠ [] →
    ∃ r', lib.gets r disabled = (.notEnoughData, r') ∧ Unread r' unread
  /-- A reply is taken from the front. -/
  whole : ∀ reply ∈ replies, ∀ r rest disabled, Unread r (reply.encode ++ rest) →
    ∃ r', lib.gets r disabled = (.of (outcome disabled reply), r') ∧ Unread r' rest

namespace BlockingHiredis

variable {R : Type} {lib : Hiredis R F} {encoder : Encoder} {replies : List Reply}
variable {outcome : Bool → Reply → Except Exc (PyVal F)} {Unread : R → Bytes → Prop}

/-- What `read_response` makes of a reply. -/
def shownAs (outcome : Bool → Reply → Except Exc (PyVal F)) (disabled : Bool) (reply : Reply) :
    Except Stop (PyVal F) :=
  match outcome disabled reply with
  | .ok value => HiredisParser.delivered value
  | .error e => .error (.raised e)

/-- What reads show of replies in order. -/
def serve (outcome : Bool → Reply → Except Exc (PyVal F)) (disabled : Bool) :
    List Reply → Except Stop (PyVal F) × List Reply
  | [] => (.error .blocked, [])
  | reply :: replies => (shownAs outcome disabled reply, replies)

/-- A reply that the reader has whole is seen as it is shown. -/
theorem seen_of (disabled : Bool) (reply : Reply) :
    (Gets.of (outcome disabled reply)).seen = some (shownAs outcome disabled reply) := by
  unfold shownAs
  cases outcome disabled reply <;> rfl

/-- A `recv` of octets. -/
def delivers : Recv → Prop
  | .data chunk => chunk ≠ []
  | _ => False

/-- The octets in the reader and those to come encode these replies. -/
structure Holds (Unread : R → Bytes → Prop) (replies : List Reply) (s : BlockingHiredis R F)
    (ahead : List Reply) : Prop where
  /-- The parser is connected. -/
  connected : s.connected = true
  /-- The socket delivers octets only. -/
  delivers : ∀ event ∈ s.sock, delivers event
  /-- The replies are of those that the reader can read. -/
  known : ∀ reply ∈ ahead, reply ∈ replies
  /-- They are next. -/
  stream : ∃ unread, Unread s.reader unread ∧
    unread ++ SocketBuffer.arrivals s.sock = ahead.flatMap Reply.encode

/-- In front of replies; a reply that was read early is shown as the next read would show it. -/
def InFront (outcome : Bool → Reply → Except Exc (PyVal F)) (Unread : R → Bytes → Prop)
    (replies : List Reply) (asks : List Bool) (s : BlockingHiredis R F) (ahead : List Reply) : Prop :=
  match s.nextResponse with
  | none => s.Holds Unread replies ahead
  | some value => ∃ reply rest, ahead = reply :: rest ∧ s.Holds Unread replies rest ∧
    ∀ disabled ∈ asks.head?, shownAs outcome disabled reply = .ok value

/-- A parser that keeps no reply. -/
theorem inFront_of_none {asks : List Bool} {s : BlockingHiredis R F} {ahead : List Reply}
    (kept : s.nextResponse = none) :
    InFront outcome Unread replies asks s ahead ↔ s.Holds Unread replies ahead := by
  unfold InFront
  rw [kept]

/-- A parser that keeps a reply. -/
theorem inFront_of_some {asks : List Bool} {s : BlockingHiredis R F} {ahead : List Reply}
    {value : PyVal F} (kept : s.nextResponse = some value) :
    InFront outcome Unread replies asks s ahead ↔
      ∃ reply rest, ahead = reply :: rest ∧ s.Holds Unread replies rest ∧
        ∀ disabled ∈ asks.head?, shownAs outcome disabled reply = .ok value := by
  unfold InFront
  rw [kept]

/-- Octets that stand in front of others are a part of a reply, or contain it. -/
theorem part_or_whole {unread coming reply rest : Bytes} (stream : unread ++ coming = reply ++ rest) :
    (∃ more, more ≠ [] ∧ reply = unread ++ more ∧ coming = more ++ rest) ∨
      ∃ behind, unread = reply ++ behind ∧ behind ++ coming = rest := by
  rcases List.append_eq_append_iff.mp stream with ⟨more, part, others⟩ | ⟨behind, whole, others⟩
  · cases more with
    | nil =>
      rw [List.append_nil] at part
      exact .inr ⟨[], by rw [part, List.append_nil], others⟩
    | cons octet more => exact .inl ⟨octet :: more, List.cons_ne_nil _ _, part, others⟩
  · exact .inr ⟨behind, whole, others.symm⟩

/-- A reply that was kept is returned as it is. -/
theorem readResponse_of_some {s : BlockingHiredis R F} {value : PyVal F}
    (connected : s.connected = true) (kept : s.nextResponse = some value) (disabled : Bool) :
    readResponse lib disabled s = .ok value { s with nextResponse := none } := by
  unfold readResponse
  simp only [connected, kept, Bool.not_true, Bool.false_eq_true, ↓reduceIte]

/-- Otherwise the reader is asked. -/
theorem readResponse_of_none {s : BlockingHiredis R F} (connected : s.connected = true)
    (empty : s.nextResponse = none) (disabled : Bool) :
    readResponse lib disabled s = responseLoop lib disabled (s.sock.length + 1) s := by
  unfold readResponse
  simp only [connected, empty, Bool.not_true, Bool.false_eq_true, ↓reduceIte]

/-- A reply that was kept is shown by the next read, however it is asked for. -/
theorem head?_shown_of_some {s : BlockingHiredis R F} {value : PyVal F}
    (connected : s.connected = true) (kept : s.nextResponse = some value)
    {calls : List (Access Timing Bool)} (more : asked calls ≠ []) :
    (shown (polled lib) s calls).head? = some (.ok value) := by
  have stays (t : BlockingHiredis R F) (timing : Timing)
      (stores : t.connected = true ∧ t.nextResponse = some value) :
      ((polled lib).poll timing t).connected = true ∧
        ((polled lib).poll timing t).nextResponse = some value := by
    have still : canRead lib timing t = .ok true t := by
      unfold canRead
      simp only [stores.1, stores.2, Bool.not_true, Bool.false_eq_true, ↓reduceIte]
    show (stateAfter (canRead lib timing t)).connected = true ∧
      (stateAfter (canRead lib timing t)).nextResponse = some value
    rw [still]
    exact stores
  refine head?_shown stays ?_ ⟨connected, kept⟩ more
  intro t disabled stores
  show (ended (readResponse lib disabled t)).1 = .ok value
  rw [readResponse_of_some stores.1 stores.2]
  rfl

section Incremental

variable (incremental : lib.Incremental encoder replies outcome Unread)

include incremental

/-- The reader has too little for a reply, or a reply, however it is asked. -/
theorem Holds.gets {s : BlockingHiredis R F} {ahead : List Reply}
    (holds : s.Holds Unread replies ahead) :
    (∀ disabled, ∃ r, lib.gets s.reader disabled = (.notEnoughData, r) ∧
      Holds Unread replies { s with reader := r } ahead ∧ (s.sock = [] → ahead = [])) ∨
    ∃ reply rest, ahead = reply :: rest ∧
      ∀ disabled, ∃ r, lib.gets s.reader disabled = (.of (outcome disabled reply), r) ∧
        Holds Unread replies { s with reader := r } rest := by
  obtain ⟨unread, fed, stream⟩ := holds.stream
  cases ahead with
  | nil =>
    have none : unread = [] := (List.append_eq_nil_iff.mp stream).1
    rw [none] at fed
    refine .inl fun disabled => ?_
    obtain ⟨r, got, kept⟩ := incremental.nothing s.reader disabled fed
    refine ⟨r, got, ⟨holds.connected, holds.delivers, holds.known, [], kept, ?_⟩, fun _ => rfl⟩
    rw [none] at stream
    exact stream
  | cons reply rest =>
    have member := holds.known reply List.mem_cons_self
    rw [List.flatMap_cons] at stream
    rcases part_or_whole stream with ⟨more, some, part, coming⟩ | ⟨behind, whole, others⟩
    · refine .inl fun disabled => ?_
      obtain ⟨r, got, kept⟩ := incremental.part reply member s.reader unread more disabled fed part some
      refine ⟨r, got, ⟨holds.connected, holds.delivers, holds.known, unread, kept, ?_⟩, ?_⟩
      · rw [List.flatMap_cons]
        exact stream
      · intro quiet
        rw [quiet] at coming
        exact absurd (List.append_eq_nil_iff.mp coming.symm).1 some
    · refine .inr ⟨reply, rest, rfl, fun disabled => ?_⟩
      rw [whole] at fed
      obtain ⟨r, got, kept⟩ := incremental.whole reply member s.reader behind disabled fed
      refine ⟨r, got, holds.connected, holds.delivers, ?_, behind, kept, others⟩
      exact fun other listed => holds.known other (List.mem_cons_of_mem reply listed)

/-- Octets are received and fed to the reader. -/
theorem Holds.receive {s : BlockingHiredis R F} {ahead : List Reply} {chunk : Bytes}
    {rest : List Recv} (holds : s.Holds Unread replies ahead) (coming : s.sock = .data chunk :: rest) :
    Holds Unread replies { s with sock := rest, reader := lib.feed s.reader chunk } ahead := by
  obtain ⟨unread, fed, stream⟩ := holds.stream
  refine ⟨holds.connected, ?_, holds.known, unread ++ chunk,
    incremental.feed s.reader unread chunk fed, ?_⟩
  · intro event member
    apply holds.delivers event
    rw [coming]
    exact List.mem_cons_of_mem _ member
  · rw [← stream, coming, List.append_assoc]
    rfl

/-- `read_from_socket` has nothing to wait for, or receives. -/
theorem Holds.readFromSocket {s : BlockingHiredis R F} {ahead : List Reply}
    (holds : s.Holds Unread replies ahead) (raiseOnTimeout : Bool) :
    s.sock = [] ∧ readFromSocket lib raiseOnTimeout s = .error .blocked s ∨
      ∃ t, readFromSocket lib raiseOnTimeout s = .ok true t ∧ t.sock.length + 1 = s.sock.length ∧
        t.nextResponse = s.nextResponse ∧ t.Holds Unread replies ahead := by
  unfold BlockingHiredis.readFromSocket
  cases coming : s.sock with
  | nil => exact .inl ⟨rfl, rfl⟩
  | cons event rest =>
    have octets := holds.delivers event (by rw [coming]; exact List.mem_cons_self)
    cases event with
    | data chunk =>
      have some : chunk ≠ [] := octets
      refine .inr ⟨{ s with sock := rest, reader := lib.feed s.reader chunk }, ?_, rfl, rfl,
        holds.receive incremental coming⟩
      simp only [if_neg some]
    | timeout => exact octets.elim
    | nonblocking allowed => exact octets.elim
    | osError => exact octets.elim

/-- Reading what `can_read` did not keep. -/
theorem Holds.responseLoop {s : BlockingHiredis R F} {ahead : List Reply}
    (holds : s.Holds Unread replies ahead) (disabled : Bool) (passes : Nat)
    (enough : s.sock.length < passes) :
    ∃ t, ended (responseLoop lib disabled passes s) = ((serve outcome disabled ahead).1, t) ∧
      t.nextResponse = s.nextResponse ∧ t.Holds Unread replies (serve outcome disabled ahead).2 := by
  induction passes generalizing s with
  | zero => omega
  | succ passes ih =>
    rw [BlockingHiredis.responseLoop]
    rcases holds.gets incremental with wants | ⟨reply, rest, rfl, has⟩
    · obtain ⟨r, got, kept, dry⟩ := wants disabled
      simp only [got]
      rcases kept.readFromSocket incremental true with ⟨quiet, waits⟩ | ⟨t, received, fewer, same, next⟩
      · have none := dry quiet
        subst none
        rw [waits]
        exact ⟨_, rfl, rfl, kept⟩
      · have room : t.sock.length < passes := by
          have shorter : t.sock.length + 1 = s.sock.length := fewer
          omega
        obtain ⟨u, shows, still, ends⟩ := ih next room
        rw [received]
        exact ⟨u, shows, still.trans same, ends⟩
    · obtain ⟨r, got, kept⟩ := has disabled
      simp only [got, serve, shownAs]
      cases outcome disabled reply with
      | ok value =>
        simp only [Gets.of]
        cases HiredisParser.delivered value with
        | ok shown => exact ⟨_, rfl, rfl, kept⟩
        | error e => exact ⟨_, rfl, rfl, kept⟩
      | error e => exact ⟨_, rfl, rfl, kept⟩

/-- Receiving for a poll. -/
theorem Holds.receiveFor {s : BlockingHiredis R F} {ahead : List Reply} {asks : List Bool}
    (holds : s.Holds Unread replies ahead) (empty : s.nextResponse = none) (timing : Timing) :
    InFront outcome Unread replies asks
      (stateAfter (BlockingHiredis.readFromSocket lib false { s with sock := timing.meets s.sock }))
      ahead := by
  cases timing with
  | timeout => exact (inFront_of_none empty).mpr holds
  | wouldBlock => exact (inFront_of_none empty).mpr holds
  | arrives =>
    rcases holds.readFromSocket incremental false with ⟨-, waits⟩ | ⟨t, received, -, same, next⟩
    · show InFront outcome Unread replies asks
        (stateAfter (BlockingHiredis.readFromSocket lib false s)) ahead
      rw [waits]
      exact (inFront_of_none empty).mpr holds
    · show InFront outcome Unread replies asks
        (stateAfter (BlockingHiredis.readFromSocket lib false s)) ahead
      rw [received]
      exact (inFront_of_none (same.trans empty)).mpr next

omit incremental in
/-- The reader has the next reply: a poll takes it out, and keeps it. -/
theorem canRead_takes {s : BlockingHiredis R F} {reply : Reply} {rest : List Reply} {value : PyVal F}
    (connected : s.connected = true) (empty : s.nextResponse = none)
    (has : ∀ disabled, ∃ r, lib.gets s.reader disabled = (.of (outcome disabled reply), r) ∧
      Holds Unread replies { s with reader := r } rest)
    (decodes : outcome false reply = .ok value) (timing : Timing) :
    ∃ t, canRead lib timing s = .ok true t ∧ t.nextResponse = some value ∧
      t.Holds Unread replies rest := by
  obtain ⟨r, got, kept⟩ := has false
  rw [decodes] at got
  refine ⟨{ s with reader := r, nextResponse := some value }, ?_, rfl,
    kept.connected, kept.delivers, kept.known, kept.stream⟩
  unfold canRead
  simp only [connected, empty, got, Gets.of, Bool.not_true, Bool.false_eq_true, ↓reduceIte]

/-- A poll that is foreseen leaves the replies as they are. -/
theorem InFront.canRead {s : BlockingHiredis R F} {ahead : List Reply} {asks : List Bool}
    (front : InFront outcome Unread replies asks s ahead) (timing : Timing)
    (foreseen : Foreseen lib s timing asks) :
    InFront outcome Unread replies asks (stateAfter (canRead lib timing s)) ahead := by
  cases kept : s.nextResponse with
  | some value =>
    obtain ⟨reply, rest, -, holds, -⟩ := (inFront_of_some kept).mp front
    have still : BlockingHiredis.canRead lib timing s = .ok true s := by
      unfold BlockingHiredis.canRead
      simp only [holds.connected, kept, Bool.not_true, Bool.false_eq_true, ↓reduceIte]
    rw [still]
    exact front
  | none =>
    have holds := (inFront_of_none kept).mp front
    have finds := foreseen kept
    rcases holds.gets incremental with wants | ⟨reply, rest, rfl, has⟩
    · obtain ⟨r, got, same, -⟩ := wants false
      have polls : BlockingHiredis.canRead lib timing s =
          BlockingHiredis.readFromSocket lib false
            { s with reader := r, sock := timing.meets s.sock } := by
        unfold BlockingHiredis.canRead
        simp only [holds.connected, kept, got, Bool.not_true, Bool.false_eq_true, ↓reduceIte]
      rw [polls]
      exact same.receiveFor incremental kept timing
    · obtain ⟨r, got, -⟩ := has false
      rw [got] at finds
      cases decodes : outcome false reply with
      | error e =>
        rw [decodes] at finds
        exact finds.elim
      | ok value =>
        obtain ⟨t, took, keeps, next⟩ := canRead_takes holds.connected kept has decodes timing
        rw [took]
        refine (inFront_of_some keeps).mpr ⟨reply, rest, rfl, next, fun disabled member => ?_⟩
        rw [decodes] at finds
        have seen : (lib.gets s.reader disabled).1.seen = some (.ok value) := finds disabled member
        obtain ⟨r', asked, -⟩ := has disabled
        rw [asked, seen_of] at seen
        exact Option.some.inj seen

/-- The parser serves the replies, as long as every poll is foreseen. -/
theorem polled_serves :
    Serves (polled lib) (Foreseen lib) (serve outcome) (InFront outcome Unread replies) where
  poll timing front foreseen := front.canRead incremental timing foreseen
  read {disabled asks s ahead} front := by
    show (ended (readResponse lib disabled s)).1 = _ ∧
      InFront outcome Unread replies asks (ended (readResponse lib disabled s)).2 _
    cases kept : s.nextResponse with
    | some value =>
      obtain ⟨reply, rest, rfl, holds, shows⟩ := (inFront_of_some kept).mp front
      rw [readResponse_of_some holds.connected kept]
      refine ⟨(shows disabled rfl).symm, (inFront_of_none rfl).mpr ?_⟩
      exact ⟨holds.connected, holds.delivers, holds.known, holds.stream⟩
    | none =>
      have holds := (inFront_of_none kept).mp front
      obtain ⟨t, shows, same, next⟩ :=
        holds.responseLoop incremental disabled (s.sock.length + 1) (Nat.lt_succ_self _)
      rw [readResponse_of_none holds.connected kept, shows]
      exact ⟨rfl, (inFront_of_none (same.trans kept)).mpr next⟩

/-- A poll that is not foreseen is given away by the next read, unless the reader raises. -/
theorem shown_canRead_ne {s : BlockingHiredis R F} {ahead : List Reply}
    {calls : List (Access Timing Bool)} {timing : Timing}
    (front : InFront outcome Unread replies (asked calls) s ahead)
    (decodes : ∀ reply ∈ ahead, ∃ value, outcome false reply = .ok value)
    (unforeseen : ¬Foreseen lib s timing (asked calls)) :
    shown (polled lib) ((polled lib).poll timing s) calls ≠
      served (serve outcome) ahead (asked calls) := by
  intro same
  apply unforeseen
  intro empty
  have holds := (inFront_of_none empty).mp front
  rcases holds.gets incremental with wants | ⟨reply, rest, rfl, has⟩
  · obtain ⟨r, got, -⟩ := wants false
    rw [got]
    trivial
  · obtain ⟨value, decoded⟩ := decodes reply List.mem_cons_self
    obtain ⟨r, got, -⟩ := has false
    rw [got, decoded]
    intro disabled next
    obtain ⟨t, took, kept, later⟩ := canRead_takes holds.connected empty has decoded timing
    obtain ⟨asks, split⟩ : ∃ asks, asked calls = disabled :: asks := by
      cases more : asked calls with
      | nil =>
        rw [more] at next
        cases next
      | cons first asks =>
        rw [more] at next
        cases next
        exact ⟨asks, rfl⟩
    have more : asked calls ≠ [] := by
      rw [split]
      exact List.cons_ne_nil _ _
    have first : (shown (polled lib) t calls).head? = some (.ok value) :=
      head?_shown_of_some later.connected kept more
    have polled : (polled lib).poll timing s = t := by
      show stateAfter (canRead lib timing s) = t
      rw [took]
      rfl
    rw [polled, split] at same
    rw [same] at first
    obtain ⟨r', asked', -⟩ := has disabled
    rw [asked', seen_of]
    exact first

end Incremental

/-- A parser that was just connected is in front of what its socket delivers. -/
theorem inFront_onConnect (incremental : lib.Incremental encoder replies outcome Unread)
    {chunks : List Bytes} (some : ∀ chunk ∈ chunks, chunk ≠ [])
    (wire : chunks.flatten = replies.flatMap Reply.encode) (asks : List Bool) :
    InFront outcome Unread replies asks (onConnect lib encoder (chunked chunks)) replies := by
  refine (inFront_of_none rfl).mpr ⟨rfl, ?_, fun _ => id, [], incremental.new, ?_⟩
  · intro event member
    obtain ⟨chunk, listed, rfl⟩ := List.mem_map.mp member
    exact some chunk listed
  · show [] ++ SocketBuffer.arrivals (chunked chunks) = _
    rw [List.nil_append, (chunked_arrivals chunks).1, wire]

end BlockingHiredis

/-! ## Polling is unseen -/

section Unseen

variable [PyFloat F] {replies : List Reply} {chunks : List Bytes} {protocol : Protocol}

/-- A buffer over a socket is in front of what the socket delivers. -/
theorem SocketBuffer.inFront_connected
    (framed : ∀ reply ∈ replies, reply.All (Reply.Framed protocol))
    (some : ∀ chunk ∈ chunks, chunk ≠ [])
    (wire : chunks.flatten = replies.flatMap Reply.encode) :
    InFront protocol (connected (chunked chunks)) replies := by
  refine ⟨⟨framed, Nat.le_refl 0, chunked_orderly some, ?_⟩, (chunked_arrivals chunks).2⟩
  show [] ++ SocketBuffer.arrivals (chunked chunks) = _
  rw [List.nil_append, (chunked_arrivals chunks).1, wire]
  exact List.flatMap_assoc.symm

/-- Polling never changes what the parsers over a buffer read. It does not change what the hiredis
parser reads when every poll is foreseen; and where the reader raises on no reply, only then. -/
theorem polling_unseen (handlers : PushHandlers SocketBuffer F) (encoder : Encoder)
    (protocol : Protocol) {R : Type} (lib : Hiredis R F)
    (outcome : Bool → Reply → Except Exc (PyVal F)) (Unread : R → Bytes → Prop)
    (replies : List Reply) (chunks : List Bytes) (calls : List (Access Timing Bool))
    (framed : ∀ reply ∈ replies, reply.All (Reply.Framed protocol))
    (some : ∀ chunk ∈ chunks, chunk ≠ []) (wire : chunks.flatten = replies.flatMap Reply.encode)
    (incremental : lib.Incremental encoder replies outcome Unread) :
    Unseen (SocketBuffer.polled handlers encoder protocol)
        (SocketBuffer.connected (chunked chunks)) calls ∧
      (EachPoll (BlockingHiredis.polled lib) (BlockingHiredis.Foreseen lib)
          (BlockingHiredis.onConnect lib encoder (chunked chunks)) calls →
        Unseen (BlockingHiredis.polled lib)
          (BlockingHiredis.onConnect lib encoder (chunked chunks)) calls) ∧
      ((∀ reply ∈ replies, ∃ value, outcome false reply = .ok value) →
        (Unseen (BlockingHiredis.polled lib)
            (BlockingHiredis.onConnect lib encoder (chunked chunks)) calls ↔
          EachPoll (BlockingHiredis.polled lib) (BlockingHiredis.Foreseen lib)
            (BlockingHiredis.onConnect lib encoder (chunked chunks)) calls)) := by
  have buffered := SocketBuffer.inFront_connected framed some wire
  have front := BlockingHiredis.inFront_onConnect incremental some wire (asked calls)
  have serves := BlockingHiredis.polled_serves incremental
  refine ⟨?_, fun foreseen => serves.unseen front foreseen, fun decodes => ?_⟩
  · exact (SocketBuffer.polled_serves handlers encoder protocol).unseen buffered
      fun _ _ _ _ => trivial
  · have keeps (disabled : Bool) (ahead : List Reply)
        (all : ∀ reply ∈ ahead, ∃ value, outcome false reply = .ok value) :
        ∀ reply ∈ (BlockingHiredis.serve outcome disabled ahead).2,
          ∃ value, outcome false reply = .ok value := by
      cases ahead with
      | nil => exact all
      | cons reply rest => exact fun other later => all other (List.mem_cons_of_mem reply later)
    refine (serves.keeping keeps).unseen_iff ?_ ⟨front, decodes⟩
    intro s ahead timing later sim unforeseen
    exact BlockingHiredis.shown_canRead_ne incremental sim.1 sim.2 unforeseen

end Unseen

/-! ## A reply that was read too early -/

/-- A reader for streams of one reply, which it decodes like this. -/
def lineReader (line : Bytes) (value : Bool → PyVal F) : Hiredis Bytes F where
  reader _ := []
  feed unread chunk := unread ++ chunk
  gets unread disabled :=
    if line <+: unread then (.reply (value disabled), unread.drop line.length)
    else (.notEnoughData, unread)

/-- It reads that reply. -/
theorem lineReader_incremental (encoder : Encoder) (reply : Reply) (value : Bool → PyVal F)
    (some : reply.encode ≠ []) :
    (lineReader reply.encode value).Incremental encoder [reply] (fun disabled _ => .ok (value disabled))
      Eq where
  new := rfl
  feed := by
    rintro r unread chunk rfl
    rfl
  nothing := by
    rintro r disabled rfl
    have short : ¬reply.encode <+: [] := fun front => some (List.prefix_nil.mp front)
    exact ⟨[], if_neg short, rfl⟩
  part := by
    rintro other member r unread more disabled rfl split rest
    cases List.mem_singleton.mp member
    have short : ¬reply.encode <+: r := by
      intro front
      have lengths := congrArg List.length split
      have inside := front.length_le
      have left : 0 < more.length := List.length_pos_iff.mpr rest
      rw [List.length_append] at lengths
      omega
    exact ⟨r, if_neg short, rfl⟩
  whole := by
    rintro other member r rest disabled rfl
    cases List.mem_singleton.mp member
    have front : reply.encode <+: reply.encode ++ rest := List.prefix_append _ _
    exact ⟨_, if_pos front, List.drop_left⟩

/-- `+OK`. -/
def okReply : Reply := .simple (ascii "OK")

/-- Its octets, or the text in them. -/
def okValue (disabled : Bool) : PyVal Empty :=
  if disabled then .bytes (ascii "OK") else .str (decodeReplace (ascii "OK"))

/-- An encoder that decodes and replaces what it cannot decode. -/
def replacing : Encoder :=
  { decodeResponses := true, decodeBytes := fun data => some (decodeReplace data) }

/-- A reader for `+OK`. -/
def okReader : Hiredis Bytes Empty := lineReader okReply.encode okValue

/-- Its octets in one chunk. -/
def okChunks : List Bytes := [ascii "+OK\r\n"]

/-- The octets arrive, `can_read` is called once more, and then the reply is read. -/
def polledTwice (disabled : Bool) : List (Access Timing Bool) :=
  [.poll .arrives, .poll .arrives, .read disabled]

/-- The reader for `+OK` reads it. -/
theorem okReader_incremental :
    okReader.Incremental replacing [okReply] (fun disabled _ => .ok (okValue disabled)) Eq :=
  lineReader_incremental replacing okReply okValue (by decide)

/-- Polling is unseen when the reply is read with decoding, as it was read early. -/
theorem polling_unseen_decoded :
    Unseen (SocketBuffer.polled (defaultHandlers (F := Empty)) replacing .resp2)
        (SocketBuffer.connected (chunked okChunks)) (polledTwice false) ∧
      (EachPoll (BlockingHiredis.polled okReader) (BlockingHiredis.Foreseen okReader)
          (BlockingHiredis.onConnect okReader replacing (chunked okChunks)) (polledTwice false) →
        Unseen (BlockingHiredis.polled okReader)
          (BlockingHiredis.onConnect okReader replacing (chunked okChunks)) (polledTwice false)) ∧
      ((∀ reply ∈ [okReply], ∃ value, Except.ok (ε := Exc) (okValue false) = .ok value) →
        (Unseen (BlockingHiredis.polled okReader)
            (BlockingHiredis.onConnect okReader replacing (chunked okChunks)) (polledTwice false) ↔
          EachPoll (BlockingHiredis.polled okReader) (BlockingHiredis.Foreseen okReader)
            (BlockingHiredis.onConnect okReader replacing (chunked okChunks)) (polledTwice false))) := by
  have framed : lineText (ascii "OK") := by unfold lineText; decide
  apply polling_unseen defaultHandlers replacing .resp2 okReader
    (fun disabled _ => .ok (okValue disabled)) Eq [okReply] okChunks (polledTwice false)
  · intro reply member
    cases List.mem_singleton.mp member
    exact .intro framed (by simp [okReply, Reply.children])
  · decide
  · decide
  · exact okReader_incremental

/-- The hiredis parser shows text to a caller that has disabled decoding, if `can_read` read the
reply early; without polls it shows octets. -/
theorem early_reply_decoded :
    okReader.Incremental replacing [okReply] (fun disabled _ => .ok (okValue disabled)) Eq ∧
      okChunks.flatten = [okReply].flatMap Reply.encode ∧
      ¬Unseen (BlockingHiredis.polled okReader)
        (BlockingHiredis.onConnect okReader replacing (chunked okChunks)) (polledTwice true) := by
  refine ⟨okReader_incremental, by decide, fun same => ?_⟩
  have polled : shown (BlockingHiredis.polled okReader)
      (BlockingHiredis.onConnect okReader replacing (chunked okChunks)) (polledTwice true) =
        [.ok (.str "OK".toList)] := rfl
  have unpolled : shown (BlockingHiredis.polled okReader)
      (BlockingHiredis.onConnect okReader replacing (chunked okChunks))
      (Polling.unpolled (polledTwice true)) = [.ok (.bytes (ascii "OK"))] := rfl
  unfold Unseen at same
  rw [polled, unpolled] at same
  cases same

end RedisPy
