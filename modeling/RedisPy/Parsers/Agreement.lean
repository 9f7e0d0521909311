import RedisPy.Parsers.Socket
import RedisPy.Parsers.Async

/-!
# Blocking and asyncio parsers side by side

Both parsers read the same replies from the same octets, however these are cut, one call
for each reply. They come apart where a call raises: the blocking parser rewinds to the
reply and raises it again, for ever, while the asyncio parser has dropped what it read; and
where a stream of the asyncio parser refuses a long line.
-/

namespace RedisPy

open Interruptible

variable {F : Type} [PyFloat F]

/-! ## The law -/

/-- What a caller sees of a call: the value, or the class of the exception. -/
def seen {α : Type} : Except Stop α → Except (Option ExcClass) α
  | .ok value => .ok value
  | .error (.raised e) => .error (some e.cls)
  | .error .blocked => .error none

/-- The law: call by call both parsers show the same, namely what the replies decode to in order;
behind the last reply they wait. -/
def Agree (blocking : EStateM Stop SocketBuffer (PyVal F))
    (asyncio : EStateM Stop AsyncParser (PyVal F)) (decoding : Decoding) (replies : List Reply)
    (s : SocketBuffer) (t : AsyncParser) : Prop :=
  ∀ count,
    (calls blocking count s).1.map seen = (calls asyncio count t).1.map seen ∧
      (calls blocking count s).1.map seen =
        (awaited (decoded (fun _ => none) decoding) .blocked replies count).map seen

omit [PyFloat F] in
/-- Only waiting looks like waiting. -/
theorem seen_error_ne {e : Stop} (raised : e ≠ .blocked) :
    (seen (.error e) : Except (Option ExcClass) (PyVal F)) ≠ seen (.error .blocked) := by
  cases e with
  | raised e => simp [seen]
  | blocked => exact absurd rfl raised

/-! ## The blocking parser -/

namespace SocketBuffer

variable {decoding : Decoding} {protocol : Protocol}

/-- A socket without timeouts that has nothing left to give is used up. -/
theorem socket_nil {events : List Recv} (peaceful : ∀ event ∈ events, orderly event)
    (prompt : timeouts events = 0) (nothing : arrivals events = []) : events = [] := by
  cases events with
  | nil => rfl
  | cons event events =>
    have head := peaceful event List.mem_cons_self
    cases event with
    | data chunk =>
      have empty : chunk = [] := (List.append_eq_nil_iff.mp nothing).1
      exact absurd empty head
    | timeout => cases prompt
    | nonblocking allowed => exact head.elim
    | osError => exact head.elim

omit [PyFloat F] in
/-- With nothing to come, a call of a parser waits. -/
theorem readResponse_waits {readReply : Nat → EStateM Stop SocketBuffer (PyVal F)}
    (line : ∀ depth, ∃ next, readReply (depth + 1) = readline >>= next) {s : SocketBuffer}
    (before : Before s []) (prompt : timeouts s.socket = 0) :
    ∃ t, readResponse readReply s = .error .blocked t ∧ Before t [] ∧ timeouts t.socket = 0 := by
  have stream : s.unread ++ arrivals s.socket = [] := before.stream
  have empty : s.unread = [] := (List.append_eq_nil_iff.mp stream).1
  have quiet := socket_nil before.peaceful prompt (List.append_eq_nil_iff.mp stream).2
  have state : (get : EStateM Stop SocketBuffer SocketBuffer) s = .ok s s := rfl
  have read : bufferReadline s = .ok [] s := by simp [bufferReadline, empty, firstLine]
  have unfinished : ¬crlf <:+ [] := by decide
  have received : readFromSocket none true s = .error .blocked s := by
    rw [readFromSocket, quiet, recvLoop, ← quiet]
  have waited : readline s = .error .blocked s := by
    rw [readline, bind_of_ok state, bind_of_ok read, readlineLoop, if_neg unfinished,
      bind_of_error received]
  obtain ⟨next, split⟩ := line s.available
  refine ⟨s.rewind s.pos, ?_, before, prompt⟩
  rw [readResponse, split, bind_of_error waited]

/-- A call in front of a reply that raises is back in front of it. -/
theorem readResponse_sticks {readReply : Nat → EStateM Stop SocketBuffer (PyVal F)}
    (reads : ∀ depth (reply : Reply), reply.All (Reply.Framed protocol) →
      reply.pieces.length ≤ depth →
      Reads source (readReply depth) reply.pieces (decoded refusal decoding reply))
    {item : Reply} {items : List Reply} {e : Stop}
    (failed : decoded (F := F) refusal decoding item = .error e) {s : SocketBuffer}
    (before : (supply protocol).before s (item :: items)) (prompt : timeouts s.socket = 0) :
    ∃ t, readResponse readReply s = .error e t ∧ (supply protocol).before t (item :: items) ∧
      timeouts t.socket = 0 := by
  obtain ⟨framed, front⟩ := before
  have split := front
  rw [List.flatMap_cons] at split
  have deep : item.pieces.length ≤ s.available + 1 :=
    Nat.le_succ_of_le (pieces_length_le_available split)
  have outcome := reads _ item (framed item List.mem_cons_self) deep s _ split
  unfold readResponse
  cases ran : readReply (s.available + 1) s with
  | ok result t =>
    rw [ran, failed] at outcome
    cases outcome.1
  | error raised t =>
    rw [ran] at outcome
    rcases outcome with out | ⟨own, got, moved⟩
    · have := out.fewer
      omega
    · rw [failed] at own
      cases own
      have fewer := timeouts_suffix moved.socket
      refine ⟨t.rewind s.pos, rfl, ⟨framed, front.rewind moved⟩, ?_⟩
      show timeouts t.socket = 0
      omega

/-- Both protocols' parsers start with a line. -/
theorem parserReadResponse_eq (handlers : PushHandlers SocketBuffer F) (decoding : Decoding)
    (protocol : Protocol) :
    ∃ readReply, parserReadResponse handlers decoding protocol = readResponse readReply ∧
      (∀ depth (reply : Reply), reply.All (Reply.Framed protocol) → reply.pieces.length ≤ depth →
        Reads source (readReply depth) reply.pieces (decoded refusal decoding reply)) ∧
      ∀ depth, ∃ next, readReply (depth + 1) = readline >>= next := by
  cases protocol with
  | resp2 => exact ⟨_, rfl, reads_reply2 (ops_lawful handlers), fun depth => ⟨_, rfl⟩⟩
  | resp3 =>
    exact ⟨_, rfl, fun depth => reads_reply3 (ops_lawful handlers) depth false,
      fun depth => ⟨_, rfl⟩⟩

/-- All further calls in front of a reply that raises are alike. -/
theorem calls_stick (handlers : PushHandlers SocketBuffer F) {item : Reply} {items : List Reply}
    {e : Stop} (failed : decoded (F := F) refusal decoding item = .error e) (count : Nat)
    {s : SocketBuffer} (before : (supply protocol).before s (item :: items))
    (prompt : timeouts s.socket = 0) :
    (calls (parserReadResponse handlers decoding protocol) count s).1 =
      List.replicate count (.error e) := by
  obtain ⟨readReply, same, reads, -⟩ := parserReadResponse_eq handlers decoding protocol
  rw [same]
  induction count generalizing s with
  | zero => rfl
  | succ count ih =>
    obtain ⟨t, ran, kept, still⟩ := readResponse_sticks reads failed before prompt
    rw [calls, ran, List.replicate_succ]
    simp only [ih kept still]

/-- In front of replies that decode, the calls are the awaited ones. -/
theorem calls_awaited (handlers : PushHandlers SocketBuffer F) (count : Nat) {replies : List Reply}
    (good : ∀ reply ∈ replies, ∃ value : PyVal F, decoded refusal decoding reply = .ok value)
    {s : SocketBuffer} (before : (supply protocol).before s replies)
    (prompt : timeouts s.socket = 0) :
    (calls (parserReadResponse handlers decoding protocol) count s).1 =
      awaited (decoded refusal decoding) .blocked replies count := by
  obtain ⟨readReply, same, -, line⟩ := parserReadResponse_eq handlers decoding protocol
  refine (parserReadResponse_resumes handlers).calls_prompt ?_ count good before prompt
  intro s before prompt
  obtain ⟨t, ran, kept, still⟩ := readResponse_waits line before.2 prompt
  exact ⟨t, by rw [same, ran], ⟨by simp, kept⟩, still⟩

end SocketBuffer

/-! ## The asyncio parser -/

namespace AsyncParser

variable {decoding : Decoding} {protocol : Protocol} {limit : Nat}

/-- An event loop without cancellations that has no data left brings nothing. -/
theorem incoming_nil {events : List Wake} (running : ∀ wake ∈ events, StreamReader.open' wake)
    (prompt : StreamReader.cancels events = 0) (nothing : StreamReader.arrivals events = []) :
    events = [] := by
  cases events with
  | nil => rfl
  | cons wake events =>
    have head := running wake List.mem_cons_self
    cases wake with
    | data chunk meanwhile =>
      have empty : chunk = [] := (List.append_eq_nil_iff.mp nothing).1
      exact absurd empty head
    | eof => exact head.elim
    | cancel => cases prompt

omit [PyFloat F] in
/-- With nothing to come, a call of a parser waits. -/
theorem readResponse_waits (readReply : Nat → EStateM Stop AsyncParser (PyVal F))
    (line : ∀ depth, ∃ next, readReply (depth + 1) = readline >>= next) {s : AsyncParser}
    (before : (supply limit protocol).before s []) (prompt : cancels s = 0) :
    ∃ t, call (readResponse readReply) s = .error .blocked t ∧
      (supply limit protocol).before t [] ∧ cancels t = 0 := by
  obtain ⟨held, fresh, whole, -, sane, journal, stream⟩ := before.2
  obtain ⟨unheld, nothing⟩ := List.append_eq_nil_iff.mp whole.symm
  rw [nothing] at stream
  rw [unheld] at journal
  obtain ⟨unread, quiet⟩ := List.append_eq_nil_iff.mp stream
  have idle := incoming_nil sane.live.incoming prompt quiet
  have arrived : s.arrive = s := by
    have same : s.stream.arrive [] = s.stream := rfl
    rw [AsyncParser.arrive, idle, same]
  have empty : s.start.buffer = [] := journal
  have same : s.start.stream = s.stream := rfl
  have noFeed : ¬(10 : UInt8) ∈ ([] : Bytes) := by simp
  have short : ¬([] : Bytes).length > s.stream.limit := by simp
  have running : ¬s.stream.ended = true := by rw [sane.live.running]; decide
  have waited : StreamReader.readline s.stream = .error .blocked s.stream := by
    rw [StreamReader.readline, StreamReader.readlineLoop, unread, if_neg noFeed, if_neg short,
      if_neg running, StreamReader.waitForData, idle]
  have lift : onStream StreamReader.readline s.start = .error .blocked s.start := by
    simp only [onStream, same, waited]
    rfl
  have state : (get : EStateM Stop AsyncParser AsyncParser) s.start = .ok s.start s.start := rfl
  have read : readline s.start = .error .blocked s.start := by
    rw [readline, bind_of_ok state, empty]
    exact bind_of_error lift
  obtain ⟨next, split⟩ := line s.available
  refine ⟨s.start, by rw [call, arrived, readResponse, split, bind_of_error read], ⟨by simp, ?_⟩,
    prompt⟩
  refine ⟨[], [], rfl, List.suffix_refl _, ⟨sane.live, sane.connected, by simp⟩, ?_, stream⟩
  show s.start.buffer ++ [] = []
  rw [empty]
  rfl

/-- In front of nothing, the parser of either protocol waits. -/
theorem readResponseOf_waits (handlers : PushHandlers AsyncParser F) {s : AsyncParser}
    (before : (supply limit protocol).before s []) (prompt : cancels s = 0) :
    ∃ t, call (readResponseOf handlers decoding protocol) s = .error .blocked t ∧
      (supply limit protocol).before t [] ∧ cancels t = 0 := by
  cases protocol with
  | resp3 =>
    have line (depth : Nat) :
        ∃ next, Resp3.readReply (ops handlers) decoding (depth + 1) false = readline >>= next :=
      ⟨_, rfl⟩
    exact readResponse_waits (fun depth => Resp3.readReply (ops handlers) decoding depth false) line
      before prompt
  | resp2 =>
    obtain ⟨held, fresh, -, -, sane, -⟩ := before.2
    have line (depth : Nat) :
        ∃ next, Resp2.readReply (ops handlers) decoding (depth + 1) = readline >>= next :=
      ⟨_, rfl⟩
    have waits := readResponse_waits (Resp2.readReply (ops handlers) decoding) line before prompt
    have state : (get : EStateM Stop AsyncParser AsyncParser) s.arrive = .ok s.arrive s.arrive := rfl
    have on : (!s.arrive.connected) = false := by
      show (!s.connected) = false
      rw [sane.connected]
      rfl
    have same : call (readResponseOf handlers decoding .resp2) s =
        call (readResponse (Resp2.readReply (ops handlers) decoding)) s := by
      rw [call, readResponseOf, bind_of_ok state, on]
      rfl
    rw [same]
    exact waits

/-- In front of replies that decode, the calls are the awaited ones. -/
theorem calls_awaited (handlers : PushHandlers AsyncParser F) (count : Nat) {replies : List Reply}
    (good : ∀ reply ∈ replies, ∃ value : PyVal F, decoded (refusal limit) decoding reply = .ok value)
    {s : AsyncParser} (before : (supply limit protocol).before s replies) (prompt : cancels s = 0) :
    (calls (call (readResponseOf handlers decoding protocol)) count s).1 =
      awaited (decoded (refusal limit) decoding) .blocked replies count :=
  (readResponseOf_resumes handlers).calls_prompt
    (fun _ before prompt => readResponseOf_waits handlers before prompt) count good before prompt

end AsyncParser

/-! ## Agreement -/

section Agreement

variable {decoding : Decoding} {protocol : Protocol} {limit : Nat}

/-- Replies that decode on their way through either parser. -/
def Passable (limit : Nat) (decoding : Decoding) (F : Type) [PyFloat F] (reply : Reply) : Prop :=
  reply.All (Reply.Sound decoding F) ∧ reply.All (Reply.Readable (AsyncParser.refusal limit))

/-- Passable replies decode alike. -/
theorem Passable.decoded {reply : Reply} (passable : Passable limit decoding F reply) :
    (∃ value : PyVal F, decoded (AsyncParser.refusal limit) decoding reply = .ok value) ∧
      decoded (F := F) (AsyncParser.refusal limit) decoding reply =
        RedisPy.decoded (fun _ => none) decoding reply := by
  refine ⟨(decoded_iff_readable passable.1).mpr passable.2, ?_⟩
  exact decoded_admitted (passable.2.mono fun _ => Reply.Readable.admits)

omit [PyFloat F] in
/-- What calls await depends on the outcomes of the items only. -/
theorem awaited_congr {γ α : Type} {first second : γ → Except Stop α} {stop : Stop} (items : List γ)
    (same : ∀ item ∈ items, first item = second item) (count : Nat) :
    awaited first stop items count = awaited second stop items count := by
  induction count generalizing items with
  | zero => cases items <;> rfl
  | succ count ih =>
    cases items with
    | nil => rw [awaited, awaited, ih [] same]
    | cons item items =>
      have rest := ih items fun other member => same other (List.mem_cons_of_mem item member)
      rw [awaited, awaited, same item List.mem_cons_self, rest]

/-- Parsers in front of passable replies agree. -/
theorem agree_of_passable (blockingHandlers : PushHandlers SocketBuffer F)
    (asyncioHandlers : PushHandlers AsyncParser F) {replies : List Reply}
    (passable : ∀ reply ∈ replies, Passable limit decoding F reply) {s : SocketBuffer}
    {t : AsyncParser} (blocking : (SocketBuffer.supply protocol).before s replies)
    (asyncio : (AsyncParser.supply limit protocol).before t replies)
    (prompt : SocketBuffer.timeouts s.socket = 0) (undisturbed : AsyncParser.cancels t = 0) :
    Agree (parserReadResponse blockingHandlers decoding protocol)
      (AsyncParser.call (AsyncParser.readResponseOf asyncioHandlers decoding protocol)) decoding
      replies s t := by
  have same : ∀ reply ∈ replies, decoded (F := F) (AsyncParser.refusal limit) decoding reply =
      decoded (fun _ => none) decoding reply :=
    fun reply member => (passable reply member).decoded.2
  have good : ∀ reply ∈ replies,
      ∃ value : PyVal F, decoded (AsyncParser.refusal limit) decoding reply = .ok value :=
    fun reply member => (passable reply member).decoded.1
  have plain : ∀ reply ∈ replies,
      ∃ value : PyVal F, decoded SocketBuffer.refusal decoding reply = .ok value := by
    intro reply member
    obtain ⟨value, found⟩ := good reply member
    exact ⟨value, (same reply member).symm.trans found⟩
  intro count
  have one := SocketBuffer.calls_awaited blockingHandlers count plain blocking prompt
  have two := AsyncParser.calls_awaited asyncioHandlers count good asyncio undisturbed
  have awaitedSame : awaited (decoded (F := F) (AsyncParser.refusal limit) decoding) .blocked
      replies count = awaited (decoded (fun _ => none) decoding) .blocked replies count :=
    awaited_congr replies same count
  constructor
  · rw [one, two, awaitedSame]
    rfl
  · rw [one]
    rfl

/-- Parsers that agree are in front of passable replies. -/
theorem passable_of_agree (blockingHandlers : PushHandlers SocketBuffer F)
    (asyncioHandlers : PushHandlers AsyncParser F) {replies : List Reply} {s : SocketBuffer}
    {t : AsyncParser} (blocking : (SocketBuffer.supply protocol).before s replies)
    (asyncio : (AsyncParser.supply limit protocol).before t replies)
    (prompt : SocketBuffer.timeouts s.socket = 0) (undisturbed : AsyncParser.cancels t = 0)
    (agree : Agree (parserReadResponse blockingHandlers decoding protocol)
      (AsyncParser.call (AsyncParser.readResponseOf asyncioHandlers decoding protocol)) decoding
      replies s t) : ∀ reply ∈ replies, Passable limit decoding F reply := by
  induction replies generalizing s t with
  | nil => simp
  | cons item items ih =>
    have framed := blocking.1 item List.mem_cons_self
    have blockingResumes : Resumes (SocketBuffer.supply protocol)
        (parserReadResponse blockingHandlers decoding protocol)
        (decoded SocketBuffer.refusal decoding) :=
      SocketBuffer.parserReadResponse_resumes blockingHandlers
    have asyncioResumes : Resumes (AsyncParser.supply limit protocol)
        (AsyncParser.call (AsyncParser.readResponseOf asyncioHandlers decoding protocol))
        (decoded (AsyncParser.refusal limit) decoding) :=
      AsyncParser.readResponseOf_resumes asyncioHandlers
    have blockingStep := blockingResumes.step s item items blocking
    have asyncioStep := asyncioResumes.step t item items asyncio
    cases plain : decoded (F := F) SocketBuffer.refusal decoding item with
    | error e =>
      -- the blocking parser raises again where it should wait
      have stuck := SocketBuffer.calls_stick blockingHandlers plain (items.length + 2) blocking prompt
      have last := congrArg List.getLast? (agree (items.length + 2)).2
      have waits := awaited_last (decoded (F := F) SocketBuffer.refusal decoding) .blocked
        (item :: items)
      have same : some (seen (.error e)) =
          some (seen (.error .blocked) : Except (Option ExcClass) (PyVal F)) := by
        rw [stuck, List.getLast?_map, List.getLast?_map, List.getLast?_replicate] at last
        exact last.trans (congrArg (Option.map seen) waits)
      exact absurd (Option.some.inj same) (seen_error_ne (decoded_raises framed plain))
    | ok value =>
      rw [plain] at blockingStep
      cases ran : parserReadResponse blockingHandlers decoding protocol s with
      | error e s' =>
        rw [ran] at blockingStep
        rcases blockingStep with ⟨-, -, fewer⟩ | failed
        · have : SocketBuffer.timeouts s'.socket < SocketBuffer.timeouts s.socket := fewer
          omega
        · cases failed
      | ok first s' =>
        rw [ran] at blockingStep
        obtain ⟨-, behind, stillPrompt⟩ := blockingStep
        cases took : AsyncParser.call
            (AsyncParser.readResponseOf asyncioHandlers decoding protocol) t with
        | error e t' =>
          have differ := (agree 1).1
          simp only [calls, ran, took, List.map_cons, List.cons.injEq] at differ
          cases e <;> cases differ.1
        | ok second t' =>
          rw [took] at asyncioStep
          obtain ⟨found, after, stillUndisturbed⟩ := asyncioStep
          have passable : Passable limit decoding F item := (decoded_iff framed).mp ⟨second, found⟩
          have later : Agree (parserReadResponse blockingHandlers decoding protocol)
              (AsyncParser.call (AsyncParser.readResponseOf asyncioHandlers decoding protocol))
              decoding items s' t' := by
            intro count
            have both := agree (count + 1)
            simp only [calls, ran, took, awaited, List.map_cons, List.cons.injEq] at both
            exact ⟨both.1.2, both.2.2⟩
          have prompt' : SocketBuffer.timeouts s'.socket = 0 := by
            have : SocketBuffer.timeouts s'.socket ≤ SocketBuffer.timeouts s.socket := stillPrompt
            omega
          have undisturbed' : AsyncParser.cancels t' = 0 := by
            have : AsyncParser.cancels t' ≤ AsyncParser.cancels t := stillUndisturbed
            omega
          intro reply member
          rcases List.mem_cons.mp member with rfl | member
          · exact passable
          · exact ih behind after prompt' undisturbed' later reply member

/-- A socket that gives these chunks. -/
def chunked (chunks : List Bytes) : List Recv := chunks.map .data

/-- An event loop that brings these chunks, during a wait or between calls. -/
def arriving (chunks : List (Bytes × Bool)) : List Wake := chunks.map fun chunk => .data chunk.1 chunk.2

/-- Chunks are received in order. -/
theorem chunked_arrivals (chunks : List Bytes) :
    SocketBuffer.arrivals (chunked chunks) = chunks.flatten ∧
      SocketBuffer.timeouts (chunked chunks) = 0 := by
  induction chunks with
  | nil => exact ⟨rfl, rfl⟩
  | cons chunk chunks ih => exact ⟨congrArg (chunk ++ ·) ih.1, ih.2⟩

/-- Chunks that are not empty are received without a failure. -/
theorem chunked_orderly {chunks : List Bytes} (some : ∀ chunk ∈ chunks, chunk ≠ []) :
    ∀ event ∈ chunked chunks, SocketBuffer.orderly event := by
  intro event member
  obtain ⟨chunk, listed, rfl⟩ := List.mem_map.mp member
  exact some chunk listed

/-- Chunks arrive in order. -/
theorem arriving_arrivals (chunks : List (Bytes × Bool)) :
    StreamReader.arrivals (arriving chunks) = (chunks.map (·.1)).flatten ∧
      StreamReader.cancels (arriving chunks) = 0 := by
  induction chunks with
  | nil => exact ⟨rfl, rfl⟩
  | cons chunk chunks ih => exact ⟨congrArg (chunk.1 ++ ·) ih.1, ih.2⟩

/-- The parsers agree call by call, and go on to the next reply after each call, exactly in front of
replies that decode: no connection-class error and no redirection without an address, at any
depth, and no header line that the asyncio stream refuses. -/
theorem agree_iff_passable (blockingHandlers : PushHandlers SocketBuffer F)
    (asyncioHandlers : PushHandlers AsyncParser F) (decoding : Decoding) (protocol : Protocol)
    (limit : Nat) (replies : List Reply) (chunks : List Bytes) (pieces : List (Bytes × Bool))
    (framed : ∀ reply ∈ replies, reply.All (Reply.Framed protocol))
    (some : ∀ chunk ∈ chunks, chunk ≠ []) (someAsync : ∀ chunk ∈ pieces, chunk.1 ≠ [])
    (wire : chunks.flatten = replies.flatMap Reply.encode)
    (wireAsync : (pieces.map (·.1)).flatten = replies.flatMap Reply.encode) :
    Agree (parserReadResponse blockingHandlers decoding protocol)
        (AsyncParser.call (AsyncParser.readResponseOf asyncioHandlers decoding protocol)) decoding
        replies (SocketBuffer.connected (chunked chunks))
        (AsyncParser.connectedTo limit (arriving pieces)) ↔
      ∀ reply ∈ replies, Passable limit decoding F reply := by
  have peaceful := chunked_orderly some
  have running : ∀ wake ∈ arriving pieces, StreamReader.open' wake := by
    intro wake member
    obtain ⟨chunk, listed, rfl⟩ := List.mem_map.mp member
    exact someAsync chunk listed
  have blocking : (SocketBuffer.supply protocol).before
      (SocketBuffer.connected (chunked chunks)) replies := by
    refine ⟨framed, Nat.le_refl 0, peaceful, ?_⟩
    show [] ++ SocketBuffer.arrivals (chunked chunks) = _
    rw [List.nil_append, (chunked_arrivals chunks).1, wire]
    exact List.flatMap_assoc.symm
  have asyncio : (AsyncParser.supply limit protocol).before
      (AsyncParser.connectedTo limit (arriving pieces)) replies := by
    apply AsyncParser.before_connectedTo framed running
    rw [(arriving_arrivals pieces).1, wireAsync]
  have prompt := (chunked_arrivals chunks).2
  have undisturbed : AsyncParser.cancels (AsyncParser.connectedTo limit (arriving pieces)) = 0 :=
    (arriving_arrivals pieces).2
  exact ⟨passable_of_agree blockingHandlers asyncioHandlers blocking asyncio prompt undisturbed,
    fun passable =>
      agree_of_passable blockingHandlers asyncioHandlers passable blocking asyncio prompt undisturbed⟩

/-- A line and an error reply that is returned, in one chunk and in three. -/
theorem agree_iff_passable_returned :
    Agree (F := Empty) (parserReadResponse defaultHandlers .raw .resp2)
        (AsyncParser.call (AsyncParser.readResponseOf defaultHandlers .raw .resp2)) .raw
        [.simple (ascii "OK"), .error (ascii "ERR no")]
        (SocketBuffer.connected (chunked [ascii "+OK\r\n-ERR no\r\n"]))
        (AsyncParser.connectedTo StreamReader.defaultLimit
          (arriving [(ascii "+OK\r", false), (ascii "\n-ERR", true), (ascii " no\r\n", false)])) ↔
      ∀ reply ∈ [Reply.simple (ascii "OK"), .error (ascii "ERR no")],
        Passable StreamReader.defaultLimit .raw Empty reply := by
  have framedSimple : lineText (ascii "OK") := by unfold lineText; decide
  have framedError : lineText (ascii "ERR no") := by unfold lineText; decide
  apply agree_iff_passable
  · intro reply member
    simp only [List.mem_cons, List.not_mem_nil, or_false] at member
    rcases member with rfl | rfl
    · exact .intro framedSimple (by simp [Reply.children])
    · exact .intro framedError (by simp [Reply.children])
  · decide
  · decide
  · decide +kernel
  · decide +kernel

/-- The octets of an error reply of a node that loads its data set, and of a line. -/
def loadingThenOk : Bytes := ascii "-LOADING\r\n+OK\r\n"

/-- While a node loads its data set, the blocking parser raises the first error reply for ever; the
asyncio parser goes on to the next reply. -/
theorem loading_not_agree :
    ¬Agree (F := Empty) (parserReadResponse defaultHandlers .raw .resp2)
      (AsyncParser.call (AsyncParser.readResponseOf defaultHandlers .raw .resp2)) .raw
      [.error (ascii "LOADING"), .simple (ascii "OK")]
      (SocketBuffer.connected (chunked [loadingThenOk]))
      (AsyncParser.connectedTo StreamReader.defaultLimit (arriving [(loadingThenOk, false)])) := by
  intro agree
  have blocking : ((calls (parserReadResponse (F := Empty) defaultHandlers .raw .resp2) 2
      (SocketBuffer.connected (chunked [loadingThenOk]))).1.map seen).map Except.isOk =
        [false, false] := by decide +kernel
  have asyncio : ((calls (AsyncParser.call
      (AsyncParser.readResponseOf (F := Empty) defaultHandlers .raw .resp2)) 2
      (AsyncParser.connectedTo StreamReader.defaultLimit
        (arriving [(loadingThenOk, false)]))).1.map seen).map Except.isOk = [false, true] := by
    decide +kernel
  have same := congrArg (List.map Except.isOk) (agree 2).1
  rw [blocking, asyncio] at same
  cases same

end Agreement

end RedisPy
