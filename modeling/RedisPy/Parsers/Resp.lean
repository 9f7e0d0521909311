import RedisPy.Parsers.Value

/-!
# The RESP2 and RESP3 parsers over any reader

`_read_response` is the same text in the blocking and in the asyncio parser of one
protocol, up to the calls that fetch octets and to what happens before a connection
error is raised. Here it is one definition for each protocol over those operations;
the two transports instantiate it. A recursion bound stands for the depth of Python's
own recursion; the transports pass more than any reply within reach can use.

`reads_reply2` and `reads_reply3` say that over any lawful reader a parser in front of
the pieces of a reply has the outcome `decoded` gives the reply, unless it is
interrupted.
-/

namespace RedisPy

open Interruptible

variable {σ F : Type}

/-- What a parser needs from its transport. -/
structure Ops (σ F : Type) where
  /-- `self._buffer.readline()` or `await self._readline()`. -/
  readline : EStateM Stop σ Bytes
  /-- `self._buffer.read(length)` or `await self._read(length)`. -/
  read : Int → EStateM Stop σ Bytes
  /-- The class raised for an empty line. -/
  emptyLine : ExcClass
  /-- What is done before a `ConnectionError` reply is raised. -/
  onConnectionError : EStateM Stop σ Unit
  /-- `self.pubsub_push_handler_func`. -/
  pubsubPush : PyVal F → EStateM Stop σ (PyVal F)
  /-- `self.invalidation_push_handler_func`. -/
  invalidationPush : Option (PyVal F → EStateM Stop σ (PyVal F))

/-- The push handlers of a connection. -/
structure PushHandlers (σ F : Type) where
  /-- `pubsub_push_handler_func`. -/
  pubsub : PyVal F → EStateM Stop σ (PyVal F)
  /-- `invalidation_push_handler_func`. -/
  invalidation : Option (PyVal F → EStateM Stop σ (PyVal F))

/-- `handle_pubsub_push_response`, and no handler for invalidations. -/
def defaultHandlers {σ : Type} : PushHandlers σ F := { pubsub := pure, invalidation := none }

/-- Return a decided outcome. -/
def settle {α : Type} : Except Stop α → EStateM Stop σ α
  | .ok value => pure value
  | .error e => throw e

/-- `int(response)` of a header line. -/
def intResponse (response : Bytes) : EStateM Stop σ Int :=
  match intOfBytes response with
  | some value => pure value
  | none => throw (.ofClass .valueError)

/-- The branch of an error reply: raise a `ConnectionError`, return any other exception. -/
def errorReply (ops : Ops σ F) (response : Bytes) : EStateM Stop σ (PyVal F) :=
  match parseError (decodeReplace response) with
  | .error e => throw (.raised e)
  | .ok error =>
    if error.isinstance .connectionError then do
      ops.onConnectionError
      throw (.raised error)
    else pure (.exc error)

/-- `_INVALIDATION_MESSAGE`. -/
def isInvalidationMessage : PyVal F → Bool
  | .bytes name => name == ascii "invalidate"
  | .str name => name == "invalidate".toList
  | _ => false

/-- `handle_push_response`. -/
def handlePushResponse (ops : Ops σ F) : List (PyVal F) → EStateM Stop σ (PyVal F)
  | [] => throw (.ofClass .indexError)
  | kind :: rest =>
    if isInvalidationMessage kind then
      match ops.invalidationPush with
      | some handler => handler (.list (kind :: rest))
      | none => pure .none
    else ops.pubsubPush (.list (kind :: rest))

/-! ## Lawful readers -/

/-- The reader delivers lines and bodies piece by piece, and an exception raised by the
parser itself leaves its state as it is. -/
structure Ops.Lawful (ops : Ops σ F) (S : Source σ Stop Piece) (refusal : Bytes → Option Exc) :
    Prop where
  /-- Raising changes nothing. -/
  raised : ∀ e s, S.raised e s s
  /-- A line is read up to its CRLF, or refused. -/
  readline : ∀ line, 10 ∉ line →
    Reads S ops.readline [.line line] (admitted refusal line >>= fun _ => .ok line)
  /-- A body is read with its CRLF. -/
  read : ∀ data, Reads S (ops.read (data.length : Int)) [.body data] (.ok data)
  /-- A connection error is raised after the transport's own reaction. -/
  connectionError : ∀ e : Exc, e.isinstance .connectionError = true → ∀ α,
    Reads S (do ops.onConnectionError; throw (.raised e) : EStateM Stop σ α) []
      (.error (.raised e))

variable {S : Source σ Stop Piece} {refusal : Bytes → Option Exc} {ops : Ops σ F} {decoding : Decoding}

/-- A lawful reader is lawful for a source that says less. -/
theorem Ops.Lawful.coarsen {coarse : Source σ Stop Piece} (lawful : ops.Lawful S refusal)
    (refines : S.Refines coarse) (raised : ∀ e s, coarse.raised e s s) :
    ops.Lawful coarse refusal where
  raised := raised
  readline line plain := (lawful.readline line plain).coarsen refines
  read data := (lawful.read data).coarsen refines
  connectionError e connection α := (lawful.connectionError e connection α).coarsen refines

/-- A decided outcome consumes nothing. -/
theorem reads_settle (lawful : ops.Lawful S refusal) {α : Type} (outcome : Except Stop α) :
    Reads S (settle outcome) [] outcome := by
  cases outcome with
  | ok value => exact Reads.pure value
  | error e => exact Reads.throw (lawful.raised e) []

/-- The error branch has the outcome of the error text. -/
theorem reads_errorReply (lawful : ops.Lawful S refusal) (text : Bytes) :
    Reads S (errorReply ops text) [] (decodedError text) := by
  unfold errorReply decodedError
  cases parsed : parseError (decodeReplace text) with
  | error e => exact Reads.throw (lawful.raised _) []
  | ok error =>
    by_cases connection : error.isinstance .connectionError = true
    · simpa only [connection, ↓reduceIte] using lawful.connectionError error connection _
    · simp only [Bool.not_eq_true] at connection
      simpa only [connection, Bool.false_eq_true, ↓reduceIte] using Reads.pure _

/-- A written length is read back. -/
theorem intResponse_decimalNat (n : Nat) :
    (intResponse (decimalNat n) : EStateM Stop σ Int) = pure (n : Int) := by
  rw [intResponse, intOfBytes_decimalNat]

/-- A written integer is read back. -/
theorem intResponse_decimal (n : Int) :
    (intResponse (decimal n) : EStateM Stop σ Int) = pure n := by
  rw [intResponse, intOfBytes_decimal]

/-- A framed header has no line feed. -/
theorem header_no_lf {protocol : Protocol} {reply : Reply} (framed : reply.Framed protocol) :
    10 ∉ reply.header := by
  have nat (b : UInt8) (n : Nat) (plain : b ≠ 10) : (10 : UInt8) ∉ b :: decimalNat n := by
    simp only [List.mem_cons, not_or]
    exact ⟨plain.symm, decimal_no_lf (.ofNat n)⟩
  have int (b : UInt8) (n : Int) (plain : b ≠ 10) : (10 : UInt8) ∉ b :: decimal n := by
    simp only [List.mem_cons, not_or]
    exact ⟨plain.symm, decimal_no_lf n⟩
  have text (b : UInt8) (t : Bytes) (line : lineText t) (plain : b ≠ 10) :
      (10 : UInt8) ∉ b :: t := by
    simp only [List.mem_cons, not_or]
    exact ⟨plain.symm, line.1⟩
  cases reply with
  | simple t => exact text 43 t (by cases protocol <;> exact framed) (by decide)
  | error t => exact text 45 t (by cases protocol <;> exact framed) (by decide)
  | bulkError t => exact nat 33 _ (by decide)
  | int value => exact int 58 value (by decide)
  | bigInt value => exact int 40 value (by decide)
  | null => decide
  | nullBulk => decide
  | nullArray => decide
  | double t =>
    cases protocol with
    | resp2 => exact framed.elim
    | resp3 => exact text 44 t framed (by decide)
  | bool value => cases value <;> decide
  | bulk data => exact nat 36 _ (by decide)
  | verbatim format data => exact nat 61 _ (by decide)
  | array items => exact nat 42 _ (by decide)
  | set items => exact nat 126 _ (by decide)
  | map entries => exact nat 37 _ (by decide)

/-- Reading a header line and continuing with it. -/
theorem reads_header (lawful : ops.Lawful S refusal) {protocol : Protocol} {reply : Reply}
    (framed : reply.Framed protocol) {α : Type} {next : Bytes → EStateM Stop σ α}
    {pieces : List Piece} (outcome : Except Stop α)
    (reads : Reads S (next reply.header) pieces outcome) :
    Reads S (ops.readline >>= next) (.line reply.header :: pieces)
      (admitted refusal reply.header >>= fun _ => outcome) := by
  have line := lawful.readline reply.header (header_no_lf framed)
  have whole : Reads S (ops.readline >>= next) ([.line reply.header] ++ pieces)
      ((admitted refusal reply.header >>= fun _ => .ok reply.header) >>= fun _ => outcome) := by
    refine line.bind fun raw found => ?_
    have same : raw = reply.header := by
      cases ended : admitted refusal reply.header with
      | ok _ => simp [ended] at found; exact found.symm
      | error e => simp [ended] at found
    rw [same]
    exact reads
  simpa [bind_assoc] using whole

/-- A bulk body after its length. -/
theorem reads_body (lawful : ops.Lawful S refusal) (data : Bytes) {α : Type}
    {next : Bytes → EStateM Stop σ α} {outcome : Except Stop α}
    (reads : Reads S (next data) [] outcome) :
    Reads S (do
      let length ← intResponse (decimalNat data.length)
      let read ← ops.read length
      next read) [.body data] outcome := by
  rw [intResponse_decimalNat, pure_bind]
  exact (lawful.read data).after reads

/-! ## The parsers -/

variable [PyFloat F]

/-- The branches of `_RESP2Parser._read_response` after the header line is read. -/
def Resp2.branch (ops : Ops σ F) (decoding : Decoding) (nested : EStateM Stop σ (PyVal F)) :
    Bytes → EStateM Stop σ (PyVal F)
  | [] => throw (.ofClass ops.emptyLine)
  | byte :: response =>
    if byte = 45 then errorReply ops response
    else if byte = 43 then settle (decoding.finish (.bytes response))
    else if byte = 58 then do
      let value ← intResponse response
      pure (.int value)
    else if byte = 36 ∧ response = ascii "-1" then pure .none
    else if byte = 36 then do
      let length ← intResponse response
      let data ← ops.read length
      settle (decoding.finish (.bytes data))
    else if byte = 42 ∧ response = ascii "-1" then pure .none
    else if byte = 42 then do
      let count ← intResponse response
      let items ← repeatM nested count.toNat
      settle (decoding.finish (.list items))
    else throw (.ofClass .invalidResponse)

/-- `_RESP2Parser._read_response`. -/
def Resp2.readReply (ops : Ops σ F) (decoding : Decoding) : Nat → EStateM Stop σ (PyVal F)
  | 0 => throw (.ofClass .runtimeError)
  | depth + 1 => do
    let raw ← ops.readline
    Resp2.branch ops decoding (Resp2.readReply ops decoding depth) raw

/-- One pass of the loop of a map: the key, the value, then `resp_dict[key] = value`. -/
def Resp3.readEntry (key value : EStateM Stop σ (PyVal F)) (stored : List (PyVal F × PyVal F)) :
    EStateM Stop σ (List (PyVal F × PyVal F)) := do
  let k ← key
  let v ← value
  settle (storeEntry stored k v)

/-- The branches of `_RESP3Parser._read_response` after the header line is read; `plain`
reads a nested reply without a push request, `nested` with the caller's. -/
def Resp3.branch (ops : Ops σ F) (decoding : Decoding) (pushRequest : Bool)
    (plain nested : EStateM Stop σ (PyVal F)) : Bytes → EStateM Stop σ (PyVal F)
  | [] => throw (.ofClass ops.emptyLine)
  | byte :: response =>
    if byte = 45 then errorReply ops response
    else if byte = 33 then do
      let length ← intResponse response
      let data ← ops.read length
      errorReply ops data
    else if byte = 43 then settle (decoding.finish (.bytes response))
    else if byte = 95 then pure .none
    else if byte = 58 ∨ byte = 40 then do
      let value ← intResponse response
      pure (.int value)
    else if byte = 44 then
      match (PyFloat.ofBytes response : Option F) with
      | some value => pure (.float value)
      | none => throw (.ofClass .valueError)
    else if byte = 35 then pure (.bool (response == ascii "t"))
    else if byte = 36 then do
      let length ← intResponse response
      let data ← ops.read length
      settle (decoding.finish (.bytes data))
    else if byte = 61 then do
      let length ← intResponse response
      let data ← ops.read length
      settle (decoding.finish (.bytes (data.drop 4)))
    else if byte = 42 ∨ byte = 126 then do
      let count ← intResponse response
      let items ← repeatM plain count.toNat
      pure (.list items)
    else if byte = 37 then do
      let count ← intResponse response
      let items ← iterateM (Resp3.readEntry plain nested) count.toNat []
      pure (.dict items)
    else if byte = 62 then do
      let count ← intResponse response
      let items ← repeatM nested count.toNat
      let handled ← handlePushResponse ops items
      if pushRequest then pure handled else nested
    else throw (.ofClass .invalidResponse)

/-- `_RESP3Parser._read_response`. -/
def Resp3.readReply (ops : Ops σ F) (decoding : Decoding) :
    Nat → Bool → EStateM Stop σ (PyVal F)
  | 0, _ => throw (.ofClass .runtimeError)
  | depth + 1, pushRequest => do
    let raw ← ops.readline
    Resp3.branch ops decoding pushRequest (Resp3.readReply ops decoding depth false)
      (Resp3.readReply ops decoding depth pushRequest) raw

/-! ## What they decode -/

/-- Members of a list after their count. -/
theorem reads_members {nested : EStateM Stop σ (PyVal F)} (items : List Reply)
    (each : ∀ item ∈ items, Reads S nested item.pieces (decoded refusal decoding item))
    {α : Type} {next : List (PyVal F) → EStateM Stop σ α}
    {outcome : List (PyVal F) → Except Stop α} (reads : ∀ values, Reads S (next values) []
      (outcome values)) :
    Reads S (do
      let count ← intResponse (decimalNat items.length)
      let values ← repeatM nested count.toNat
      next values) (items.flatMap Reply.pieces)
      (collect (decoded refusal decoding) items >>= outcome) := by
  rw [intResponse_decimalNat, pure_bind, Int.toNat_natCast]
  exact (reads_repeatM items each).then fun values _ => reads values

omit [PyFloat F] in
/-- A list is returned as it is. -/
theorem Decoding.finish_list (items : List (PyVal F)) :
    decoding.finish (.list items) = .ok (.list items) := by
  unfold Decoding.finish
  cases decoding.disabled <;> rfl

/-- The RESP2 parser has the decoded outcome of every framed reply. -/
theorem reads_reply2 (lawful : ops.Lawful S refusal) :
    ∀ (depth : Nat) (reply : Reply), reply.All (Reply.Framed .resp2) →
      reply.pieces.length ≤ depth →
      Reads S (Resp2.readReply ops decoding depth) reply.pieces (decoded refusal decoding reply)
  | 0, reply, _, bound => by rw [Reply.pieces_eq] at bound; simp at bound
  | depth + 1, reply, framed, bound => by
    -- members are shallower, so the bound of the recursion suffices for each of them
    have members (child : Reply) (member : child ∈ reply.children) :
        Reads S (Resp2.readReply ops decoding depth) child.pieces
          (decoded refusal decoding child) :=
      reads_reply2 lawful depth child (framed.within child member)
        (by have := Reply.pieces_length_child member; omega)
    have top := framed.here
    rw [Reply.pieces_eq]
    cases reply with
    | simple text =>
      exact (reads_header lawful top _ (reads_settle lawful _)).of_eq (by simp [decoded])
    | error text =>
      exact (reads_header lawful top _ (reads_errorReply lawful text)).of_eq (by simp [decoded])
    | int value =>
      refine (reads_header lawful top (.ok (.int value)) ?_).of_eq (by simp [decoded])
      simp only [Reply.header, Resp2.branch, intResponse_decimal, pure_bind]
      exact Reads.pure _
    | nullBulk => exact (reads_header lawful top (.ok .none) (Reads.pure _)).of_eq (by simp [decoded])
    | nullArray => exact (reads_header lawful top (.ok .none) (Reads.pure _)).of_eq (by simp [decoded])
    | bulk data =>
      refine (reads_header lawful top (decoding.finish (.bytes data)) ?_).of_eq
        (by simp [decoded])
      have length := decimalNat_ne_minus_one data.length
      simp only [Reply.header, Resp2.branch, length, and_false, ↓reduceIte,
        show ¬(36 : UInt8) = 45 by decide, show ¬(36 : UInt8) = 43 by decide,
        show ¬(36 : UInt8) = 58 by decide]
      exact reads_body lawful data (reads_settle lawful _)
    | array items =>
      refine (reads_header lawful top (collect (decoded refusal decoding) items >>=
        fun values => .ok (.list values)) ?_).of_eq (by simp [decoded, decodedList_eq])
      have count := decimalNat_ne_minus_one items.length
      simp only [Reply.header, Reply.body, Reply.children, Resp2.branch, count, and_false,
        ↓reduceIte, List.map_nil, List.nil_append,
        show ¬(42 : UInt8) = 45 by decide, show ¬(42 : UInt8) = 43 by decide,
        show ¬(42 : UInt8) = 58 by decide, show ¬(42 : UInt8) = 36 by decide]
      refine reads_members items members fun values => ?_
      rw [Decoding.finish_list]
      exact Reads.pure _
    | _ => exact top.elim

/-- The RESP3 parser has the decoded outcome of every framed reply. -/
theorem reads_reply3 (lawful : ops.Lawful S refusal) :
    ∀ (depth : Nat) (pushRequest : Bool) (reply : Reply), reply.All (Reply.Framed .resp3) →
      reply.pieces.length ≤ depth →
      Reads S (Resp3.readReply ops decoding depth pushRequest) reply.pieces
        (decoded refusal decoding reply)
  | 0, _, reply, _, bound => by rw [Reply.pieces_eq] at bound; simp at bound
  | depth + 1, pushRequest, reply, framed, bound => by
    have members (request : Bool) (child : Reply) (member : child ∈ reply.children) :
        Reads S (Resp3.readReply ops decoding depth request) child.pieces
          (decoded refusal decoding child) :=
      reads_reply3 lawful depth request child (framed.within child member)
        (by have := Reply.pieces_length_child member; omega)
    have top := framed.here
    rw [Reply.pieces_eq]
    cases reply with
    | simple text =>
      exact (reads_header lawful top _ (reads_settle lawful _)).of_eq (by simp [decoded])
    | error text =>
      exact (reads_header lawful top _ (reads_errorReply lawful text)).of_eq (by simp [decoded])
    | bulkError text =>
      refine (reads_header lawful top (decodedError text) ?_).of_eq (by simp [decoded])
      exact reads_body lawful text (reads_errorReply lawful text)
    | int value =>
      refine (reads_header lawful top (.ok (.int value)) ?_).of_eq (by simp [decoded])
      simp only [Reply.header, Resp3.branch, intResponse_decimal, pure_bind]
      exact Reads.pure _
    | bigInt value =>
      refine (reads_header lawful top (.ok (.int value)) ?_).of_eq (by simp [decoded])
      simp only [Reply.header, Resp3.branch, intResponse_decimal, pure_bind]
      exact Reads.pure _
    | null => exact (reads_header lawful top (.ok .none) (Reads.pure _)).of_eq (by simp [decoded])
    | double text =>
      refine (reads_header lawful top (match (PyFloat.ofBytes text : Option F) with
        | some value => .ok (.float value)
        | none => .error (.ofClass .valueError)) ?_).of_eq ?_
      · change Reads S (match (PyFloat.ofBytes text : Option F) with
          | some value => (pure (PyVal.float value) : EStateM Stop σ (PyVal F))
          | none => throw (.ofClass .valueError)) []
          (match (PyFloat.ofBytes text : Option F) with
          | some value => .ok (PyVal.float value)
          | none => .error (.ofClass .valueError))
        cases (PyFloat.ofBytes text : Option F) with
        | some value => exact Reads.pure _
        | none => exact Reads.throw (lawful.raised _) []
      · rw [decoded]
        cases (PyFloat.ofBytes text : Option F) <;> rfl
    | bool value =>
      refine (reads_header lawful top (.ok (.bool value)) ?_).of_eq (by simp [decoded])
      cases value with
      | true => exact Reads.pure _
      | false => exact Reads.pure _
    | bulk data =>
      refine (reads_header lawful top (decoding.finish (.bytes data)) ?_).of_eq
        (by simp [decoded])
      exact reads_body lawful data (reads_settle lawful _)
    | verbatim format data =>
      refine (reads_header lawful top (decoding.finish (.bytes data)) ?_).of_eq
        (by simp [decoded])
      have width : format.length = 3 := top
      have stripped : (format ++ 58 :: data).drop 4 = data := by
        rw [List.drop_append, width, List.drop_of_length_le (by omega)]
        rfl
      have rest : Reads S (settle (decoding.finish (.bytes ((format ++ 58 :: data).drop 4))))
          [] (decoding.finish (F := F) (.bytes data)) := by
        rw [stripped]
        exact reads_settle lawful _
      exact reads_body lawful (format ++ 58 :: data) rest
    | array items =>
      refine (reads_header lawful top (collect (decoded refusal decoding) items >>=
        fun values => .ok (.list values)) ?_).of_eq (by simp [decoded, decodedList_eq])
      exact reads_members items (members false) fun values => Reads.pure _
    | set items =>
      refine (reads_header lawful top (collect (decoded refusal decoding) items >>=
        fun values => .ok (.list values)) ?_).of_eq (by simp [decoded, decodedList_eq])
      exact reads_members items (members false) fun values => Reads.pure _
    | map entries =>
      refine (reads_header lawful top (thread (decodedEntry refusal decoding) entries []
        >>= fun items => .ok (.dict items)) ?_).of_eq (by simp [decoded, decodedEntries_eq])
      have entry (item : Reply × Reply) (member : item ∈ entries)
          (stored : List (PyVal F × PyVal F)) :
          Reads S (Resp3.readEntry (Resp3.readReply ops decoding depth false)
            (Resp3.readReply ops decoding depth pushRequest) stored)
            (item.1.pieces ++ item.2.pieces) (decodedEntry refusal decoding item stored) := by
        have inside (child : Reply) (part : child = item.1 ∨ child = item.2) :
            child ∈ (Reply.map entries).children :=
          List.mem_flatMap.mpr ⟨item, member, by simpa using part⟩
        exact (members false item.1 (inside _ (.inl rfl))).bind fun key _ =>
          (members pushRequest item.2 (inside _ (.inr rfl))).then fun value _ =>
            reads_settle lawful _
      have wire : (Reply.map entries).children.flatMap Reply.pieces =
          entries.flatMap fun item => item.1.pieces ++ item.2.pieces := by
        simp [Reply.children, List.flatMap_assoc]
      rw [wire]
      change Reads S (do
        let count ← intResponse (decimalNat entries.length)
        let items ← iterateM (Resp3.readEntry (Resp3.readReply ops decoding depth false)
          (Resp3.readReply ops decoding depth pushRequest)) count.toNat []
        pure (PyVal.dict items)) _ _
      rw [intResponse_decimalNat, pure_bind, Int.toNat_natCast]
      exact (reads_iterateM entries [] entry).then fun items _ => Reads.pure _
    | _ => exact top.elim

end RedisPy
