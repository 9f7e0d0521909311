import RedisPy.Lib.Recording
import RedisPy.Parsers.Socket
import RedisPy.Parsers.Async

/-!
# Pushes

A RESP3 server may send pushes before a reply. `_read_response` hands each push to the handler of
its kind and goes on to the reply, while `read_response` starts over after an interruption. Here
are both RESP3 parsers with handlers that remember what they are given, and the interruptions
after which a handler is given a push again.
-/

namespace RedisPy

open Interruptible

variable {σ F : Type}

/-! ## Pushes and turns -/

/-- A push: its kind and what it carries. -/
structure Push where
  /-- `response[0]`. -/
  kind : Reply
  /-- The other members. -/
  items : List Reply

/-- The members of a push. -/
def Push.parts (push : Push) : List Reply := push.kind :: push.items

/-- The first line of a push, without its CRLF. -/
def Push.header (push : Push) : Bytes := 62 :: decimalNat push.parts.length

/-- The wire form of a push, in the pieces it is read in. -/
def Push.pieces (push : Push) : List Piece :=
  .line push.header :: push.parts.flatMap Reply.pieces

/-- A reply with the pushes before it. -/
structure Turn where
  /-- They come first. -/
  pushes : List Push
  /-- What the caller waits for. -/
  reply : Reply

/-- The wire form of a turn. -/
def Turn.pieces (turn : Turn) : List Piece := turn.pushes.flatMap Push.pieces ++ turn.reply.pieces

/-- The octets of a turn. -/
def Turn.encode (turn : Turn) : Bytes := turn.pieces.flatMap Piece.wire

/-- A turn that RESP3 can frame. -/
structure Turn.Framed (turn : Turn) : Prop where
  /-- Its pushes. -/
  pushes : ∀ push ∈ turn.pushes, ∀ part ∈ push.parts, part.All (Reply.Framed .resp3)
  /-- Its reply. -/
  reply : turn.reply.All (Reply.Framed .resp3)

/-- A turn in which everything decodes: its reply, and its pushes with their members. -/
structure Turn.Passes (refusal : Bytes → Option Exc) (decoding : Decoding) (F : Type) [PyFloat F]
    (turn : Turn) : Prop where
  /-- The header line of each push is admitted. -/
  headers : ∀ push ∈ turn.pushes, refusal push.header = none
  /-- The members of each push decode. -/
  pushes : ∀ push ∈ turn.pushes, ∀ part ∈ push.parts,
    part.All (Reply.Sound decoding F) ∧ part.All (Reply.Readable refusal)
  /-- The reply decodes. -/
  reply : turn.reply.All (Reply.Sound decoding F) ∧ turn.reply.All (Reply.Readable refusal)

/-! ## Handlers -/

/-- What a handler was given. -/
inductive Heard (F : Type) where
  /-- `invalidation_push_handler_func(response)`. -/
  | invalidation (response : PyVal F)
  /-- `pubsub_push_handler_func(response)`. -/
  | pubsub (response : PyVal F)

/-- The handler for a push with these members, and what it is given. -/
def heard (members : List (PyVal F)) : Heard F :=
  if members.head?.any isInvalidationMessage then .invalidation (.list members)
  else .pubsub (.list members)

/-- What is to be heard of a push. -/
def Push.note [PyFloat F] (refusal : Bytes → Option Exc) (decoding : Decoding) (push : Push) :
    Except Stop (Heard F) := do
  admitted refusal push.header
  let members ← collect (decoded refusal decoding) push.parts
  pure (heard members)

/-- The outcome of a turn. -/
def Turn.value [PyFloat F] (refusal : Bytes → Option Exc) (decoding : Decoding) (turn : Turn) :
    Except Stop (PyVal F) := do
  let _ ← collect (Push.note (F := F) refusal decoding) turn.pushes
  decoded refusal decoding turn.reply

/-- The operations of a transport, with two handlers that remember what they are given. -/
def listening (ops : Ops σ F) : Ops (Recorded σ (Heard F)) F where
  readline := unrecorded ops.readline
  read length := unrecorded (ops.read length)
  emptyLine := ops.emptyLine
  onConnectionError := unrecorded ops.onConnectionError
  pubsubPush response := do
    report (.pubsub response)
    pure response
  invalidationPush := some fun response => do
    report (.invalidation response)
    pure .none

/-- `read_response` of the blocking RESP3 parser, without a push request, with both handlers. -/
def SocketBuffer.listen [PyFloat F] (decoding : Decoding) :
    EStateM Stop (Recorded SocketBuffer (Heard F)) (PyVal F) := fun s =>
  match Resp3.readReply (listening (SocketBuffer.ops defaultHandlers)) decoding
      (s.inner.available + 1) false s with
  | .ok result t => .ok result { t with inner := t.inner.purge }
  | .error e t => .error e { t with inner := t.inner.rewind s.inner.pos }

/-- `read_response` of the asyncio RESP3 parser, without a push request, with both handlers, after
whatever has arrived since the last call. -/
def AsyncParser.listen [PyFloat F] (decoding : Decoding) :
    EStateM Stop (Recorded AsyncParser (Heard F)) (PyVal F) := fun s =>
  match Resp3.readReply (listening (AsyncParser.ops defaultHandlers)) decoding
      (s.inner.arrive.available + 1) false { s with inner := s.inner.arrive.start } with
  | .ok response t => .ok response { t with inner := t.inner.clear }
  | .error e t => .error e t

/-! ## Interruptions -/

/-- How many of the pushes have arrived while `missing` octets have not: those that are followed by
at least as many, with `behind` octets after the last push. -/
def arrivedPushes (behind missing : Nat) : List Push → Nat
  | [] => 0
  | _ :: pushes =>
    (if missing ≤ octets (pushes.flatMap Push.pieces) + behind then 1 else 0) +
      arrivedPushes behind missing pushes

/-- How many pushes are read in vain by a call that is interrupted while `missing` octets have not
arrived: those before the reply it waits for that have arrived. -/
def orphans (missing : Nat) : List Turn → Nat
  | [] => 0
  | turn :: turns =>
    if missing ≤ octets (turns.flatMap Turn.pieces) then orphans missing turns
    else arrivedPushes (octets turn.reply.pieces + octets (turns.flatMap Turn.pieces)) missing
      turn.pushes

/-- All pushes that will be read in vain, with the octets that are missing at each interruption. -/
def allOrphans (turns : List Turn) : List Nat → Nat
  | [] => 0
  | missing :: outages => orphans missing turns + allOrphans turns outages

/-- Nothing is read in vain when no interruption finds a push. -/
theorem allOrphans_eq_zero {outages : List Nat} {turns : List Turn} :
    allOrphans turns outages = 0 ↔ ∀ missing ∈ outages, orphans missing turns = 0 := by
  induction outages with
  | nil => simp [allOrphans]
  | cons missing outages ih =>
    rw [allOrphans, Nat.add_eq_zero_iff, ih, List.forall_mem_cons]

/-- With nothing to come nothing is read in vain. -/
theorem allOrphans_nil (outages : List Nat) : allOrphans [] outages = 0 :=
  allOrphans_eq_zero.mpr fun _ _ => rfl

/-- Pushes that are followed by less than is missing have not arrived. -/
theorem arrivedPushes_none {behind missing : Nat} (pushes : List Push)
    (short : octets (pushes.flatMap Push.pieces) + behind < missing) :
    arrivedPushes behind missing pushes = 0 := by
  induction pushes with
  | nil => rfl
  | cons push pushes ih =>
    rw [List.flatMap_cons, octets_append] at short
    have late : ¬missing ≤ octets (pushes.flatMap Push.pieces) + behind := by omega
    rw [arrivedPushes, if_neg late, ih (by omega)]

/-- Interruptions after a turn do not depend on it. -/
theorem allOrphans_later {outages : List Nat} {turn : Turn} {turns : List Turn}
    (later : ∀ missing ∈ outages, missing ≤ octets (turns.flatMap Turn.pieces)) :
    allOrphans (turn :: turns) outages = allOrphans turns outages := by
  induction outages with
  | nil => rfl
  | cons missing outages ih =>
    have rest := ih fun other member => later other (List.mem_cons_of_mem missing member)
    rw [allOrphans, allOrphans, rest, orphans, if_pos (later missing List.mem_cons_self)]

/-- An interruption during a turn, and those after it. -/
theorem allOrphans_during {outages : List Nat} {missing : Nat} {turn : Turn} {turns : List Turn}
    (during : octets (turns.flatMap Turn.pieces) < missing) :
    allOrphans (turn :: turns) (missing :: outages) =
      arrivedPushes (octets turn.reply.pieces + octets (turns.flatMap Turn.pieces)) missing
        turn.pushes + allOrphans (turn :: turns) outages := by
  rw [allOrphans, orphans, if_neg (Nat.not_le.mpr during)]

/-! ## Reading a turn -/

section Turns

variable {S : Source σ Stop Piece} {refusal : Bytes → Option Exc} {ops : Ops σ F}
  {decoding : Decoding}

/-- Handlers that remember do not disturb a lawful reader. -/
theorem listening_lawful (lawful : ops.Lawful S refusal) :
    (listening ops).Lawful (S.recorded (Heard F)) refusal where
  raised e s := lawful.raised e s.inner
  readline line plain := (lawful.readline line plain).unrecorded
  read data := (lawful.read data).unrecorded
  connectionError e connection α := by
    have same : (do (listening ops).onConnectionError; throw (.raised e) :
        EStateM Stop (Recorded σ (Heard F)) α) =
        unrecorded (do ops.onConnectionError; throw (.raised e)) := by
      funext s
      change (unrecorded ops.onConnectionError >>= fun _ => throw (.raised e)) s = _
      cases ran : ops.onConnectionError s.inner with
      | ok value t =>
        have left : (unrecorded ops.onConnectionError :
            EStateM Stop (Recorded σ (Heard F)) Unit) s = .ok value { s with inner := t } := by
          simp only [unrecorded, ran]
        rw [bind_of_ok left, unrecorded, bind_of_ok ran]
        rfl
      | error x t =>
        have left : (unrecorded ops.onConnectionError :
            EStateM Stop (Recorded σ (Heard F)) Unit) s = .error x { s with inner := t } := by
          simp only [unrecorded, ran]
        rw [bind_of_error left, unrecorded, bind_of_error ran]
    rw [same]
    exact (lawful.connectionError e connection α).unrecorded

/-- A push goes to the handler of its kind. -/
theorem handlePushResponse_listening (ops : Ops σ F) {members : List (PyVal F)} (some : members ≠ [])
    (s : Recorded σ (Heard F)) :
    ∃ result, handlePushResponse (listening ops) members s =
      .ok result { s with record := s.record ++ [heard members] } := by
  cases members with
  | nil => exact absurd rfl some
  | cons kind rest =>
    rw [handlePushResponse, heard, List.head?_cons, Option.any_some]
    by_cases invalidation : isInvalidationMessage kind = true
    · rw [if_pos invalidation, if_pos invalidation]
      exact ⟨_, rfl⟩
    · rw [if_neg invalidation, if_neg invalidation]
      exact ⟨_, rfl⟩

/-- How the reading of some pushes and a reply ends. -/
def TurnEnds [PyFloat F] (S : Source σ Stop Piece) (gauge : Gauge S octets)
    (refusal : Bytes → Option Exc) (decoding : Decoding) (turn : Turn) (rest : List Piece)
    (s : Recorded σ (Heard F)) : EStateM.Result Stop (Recorded σ (Heard F)) (PyVal F) → Prop
  | .ok value t => turn.value refusal decoding = .ok value ∧ S.before t.inner rest ∧
    S.keeps s.inner t.inner ∧ ∃ said, collect (Push.note refusal decoding) turn.pushes = .ok said ∧
      t.record = s.record ++ said
  | .error e t => (S.stopped e s.inner rest t.inner ∧ ∃ said, t.record = s.record ++ said ∧
      said.length = arrivedPushes (octets turn.reply.pieces + octets rest) (gauge.missing t.inner)
        turn.pushes) ∨ turn.value (F := F) refusal decoding = .error e

/-- A push has a header line and no line feed in it. -/
theorem Push.header_plain (push : Push) : 10 ∉ push.header := by
  simp only [Push.header, List.mem_cons, not_or]
  exact ⟨by decide, decimal_no_lf (.ofNat _)⟩

/-- The outcome of a push in front of the rest of its turn. -/
theorem Turn.value_cons [PyFloat F] (push : Push) (pushes : List Push) (reply : Reply) :
    Turn.value (F := F) refusal decoding ⟨push :: pushes, reply⟩ =
      (push.note (F := F) refusal decoding >>= fun _ =>
        Turn.value refusal decoding ⟨pushes, reply⟩) := by
  simp only [Turn.value, collect]
  cases push.note (F := F) refusal decoding with
  | error e => rfl
  | ok said =>
    cases collect (Push.note (F := F) refusal decoding) pushes with
    | error e => rfl
    | ok saids => rfl

/-- After the header line of a push its members are read and handled, then the reply. -/
theorem branch_push [PyFloat F] (push : Push) (nested : EStateM Stop σ (PyVal F)) :
    Resp3.branch ops decoding false nested nested push.header =
      (repeatM nested push.parts.length >>= fun members =>
        handlePushResponse ops members >>= fun _ => nested) := by
  change (do
    let count ← intResponse (decimalNat push.parts.length)
    let items ← repeatM nested count.toNat
    let handled ← handlePushResponse ops items
    if false then pure handled else nested) = _
  rw [intResponse_decimalNat, pure_bind, Int.toNat_natCast]
  rfl

/-- A member has no more pieces than all members together. -/
theorem pieces_length_le_flatMap {part : Reply} {parts : List Reply} (member : part ∈ parts) :
    part.pieces.length ≤ (parts.flatMap Reply.pieces).length := by
  obtain ⟨front, back, rfl⟩ := List.append_of_mem member
  rw [List.flatMap_append, List.flatMap_cons, List.length_append, List.length_append]
  omega

/-- The RESP3 parser in front of a turn hands over its pushes and reads its reply. -/
theorem reads_turn [PyFloat F] (lawful : ops.Lawful S refusal) (gauge : Gauge S octets)
    (pushes : List Push) (reply : Reply) (depth : Nat) (framed : Turn.Framed ⟨pushes, reply⟩)
    (deep : (Turn.pieces ⟨pushes, reply⟩).length ≤ depth) (rest : List Piece)
    (s : Recorded σ (Heard F)) (before : S.before s.inner (Turn.pieces ⟨pushes, reply⟩ ++ rest)) :
    TurnEnds S gauge refusal decoding ⟨pushes, reply⟩ rest s
      (Resp3.readReply (listening ops) decoding depth false s) := by
  have recorded := listening_lawful lawful
  induction pushes generalizing depth s with
  | nil =>
    have reads : Reads (S.recorded (Heard F)) (Resp3.readReply (listening ops) decoding depth false)
        reply.pieces (decoded refusal decoding reply) :=
      reads_reply3 recorded depth false reply framed.reply deep
    have ends := reads s rest before
    cases ran : Resp3.readReply (listening ops) decoding depth false s with
    | ok value t =>
      rw [ran] at ends
      obtain ⟨found, behind, kept, same⟩ := ends
      exact ⟨found, behind, kept, [], rfl, by rw [same, List.append_nil]⟩
    | error e t =>
      rw [ran] at ends
      rcases ends with ⟨stopped, same⟩ | ⟨own, -⟩
      · exact .inl ⟨stopped, [], by rw [same, List.append_nil], rfl⟩
      · exact .inr own
  | cons push pushes ih =>
    cases depth with
    | zero => simp [Turn.pieces, Push.pieces] at deep
    | succ depth =>
      have inner : Turn.Framed ⟨pushes, reply⟩ :=
        ⟨fun other member => framed.pushes other (List.mem_cons_of_mem push member), framed.reply⟩
      have split : Turn.pieces ⟨push :: pushes, reply⟩ ++ rest =
          [.line push.header] ++ (push.parts.flatMap Reply.pieces ++
            (Turn.pieces ⟨pushes, reply⟩ ++ rest)) := by
        simp [Turn.pieces, Push.pieces]
      have behind : octets (Turn.pieces ⟨pushes, reply⟩ ++ rest) =
          octets (pushes.flatMap Push.pieces) + (octets reply.pieces + octets rest) := by
        rw [Turn.pieces, octets_append, octets_append, Nat.add_assoc]
      have shallower : (push.parts.flatMap Reply.pieces).length +
          (Turn.pieces ⟨pushes, reply⟩).length ≤ depth := by
        simp only [Turn.pieces, Push.pieces, List.flatMap_cons, List.length_append,
          List.length_cons] at deep ⊢
        omega
      -- an interruption inside the push finds no push that has arrived
      have early {e : Stop} {t : Recorded σ (Heard F)} (same : t.record = s.record)
          (stopped : S.stopped e s.inner (Turn.pieces ⟨pushes, reply⟩ ++ rest) t.inner) :
          TurnEnds (F := F) S gauge refusal decoding ⟨push :: pushes, reply⟩ rest s
            (.error e t) := by
        have short := gauge.starved stopped
        rw [behind] at short
        have none : arrivedPushes (octets reply.pieces + octets rest) (gauge.missing t.inner)
            (push :: pushes) = 0 := by
          rw [arrivedPushes, if_neg (by omega), arrivedPushes_none pushes (by omega)]
        exact .inl ⟨S.stopped_earlier stopped, [], by rw [same, List.append_nil], none.symm⟩
      rw [split] at before
      have line := recorded.readline push.header push.header_plain s _ before
      change TurnEnds S gauge refusal decoding _ rest s (((listening ops).readline >>=
        Resp3.branch (listening ops) decoding false (Resp3.readReply (listening ops) decoding depth
          false) (Resp3.readReply (listening ops) decoding depth false)) s)
      cases ran : (listening ops).readline s with
      | error e t =>
        rw [ran] at line
        rw [bind_of_error ran]
        rcases line with ⟨stopped, same⟩ | ⟨refused, -⟩
        · exact early same (S.stopped_earlier stopped)
        · refine .inr ?_
          rw [Turn.value_cons, Push.note]
          cases admits : admitted refusal push.header with
          | ok _ => simp [admits] at refused
          | error x => simpa [admits] using refused
      | ok raw t =>
        rw [ran] at line
        obtain ⟨found, middle, kept, same⟩ := line
        have admits : admitted refusal push.header = .ok () := by
          cases admits : admitted refusal push.header with
          | ok _ => rfl
          | error x => simp [admits] at found
        have header : raw = push.header := by
          rw [admits, ok_bind, Except.ok.injEq] at found
          exact found.symm
        rw [bind_of_ok ran, header, branch_push]
        have each : ∀ part ∈ push.parts, Reads (S.recorded (Heard F))
            (Resp3.readReply (listening ops) decoding depth false) part.pieces
            (decoded refusal decoding part) := fun part member =>
          reads_reply3 recorded depth false part (framed.pushes push List.mem_cons_self part member)
            (by have := pieces_length_le_flatMap member; omega)
        have members := reads_repeatM push.parts each t _ middle
        cases ended : repeatM (Resp3.readReply (listening ops) decoding depth false)
            push.parts.length t with
        | error e u =>
          rw [ended] at members
          rw [bind_of_error ended]
          rcases members with ⟨stopped, sameParts⟩ | ⟨own, -⟩
          · exact early (sameParts.trans same) (S.stopped_trans kept stopped)
          · refine .inr ?_
            rw [Turn.value_cons, Push.note, admits, own]
            rfl
        | ok values u =>
          rw [ended] at members
          obtain ⟨collected, front, keptParts, sameParts⟩ := members
          have note : push.note (F := F) refusal decoding = .ok (heard values) := by
            rw [Push.note, admits, collected]
            rfl
          have some : values ≠ [] := by
            rintro rfl
            have := collect_length collected
            simp [Push.parts] at this
          obtain ⟨result, handled⟩ := handlePushResponse_listening ops some u
          rw [bind_of_ok ended, bind_of_ok handled]
          have next := ih depth inner (by omega)
            { u with record := u.record ++ [heard values] } front
          have record : u.record = s.record := sameParts.trans same
          cases final : Resp3.readReply (listening ops) decoding depth false
              { u with record := u.record ++ [heard values] } with
          | ok value v =>
            rw [final] at next
            obtain ⟨reads, after, keptTurn, said, collectedTurn, recordTurn⟩ := next
            refine ⟨?_, after, S.keeps_trans kept (S.keeps_trans keptParts keptTurn),
              heard values :: said, ?_, ?_⟩
            · rw [Turn.value_cons, note]
              exact reads
            · rw [collect, note, collectedTurn]
              rfl
            · rw [recordTurn, record, List.append_assoc]
              rfl
          | error e v =>
            rw [final] at next
            rcases next with ⟨stopped, said, recordTurn, count⟩ | own
            · have arrived := gauge.within front stopped
              rw [behind] at arrived
              refine .inl ⟨S.stopped_trans kept (S.stopped_trans keptParts stopped),
                heard values :: said, ?_, ?_⟩
              · rw [recordTurn, record, List.append_assoc]
                rfl
              · rw [arrivedPushes, if_pos arrived, List.length_cons, count, Nat.add_comm]
            · refine .inr ?_
              rw [Turn.value_cons, note]
              exact own

/-! ## What passes -/

variable [PyFloat F]

omit [PyFloat F] in
/-- A line that is admitted is not refused. -/
theorem refusal_of_admitted {line : Bytes} (admits : admitted refusal line = .ok ()) :
    refusal line = none := by
  cases refused : refusal line with
  | none => rfl
  | some x => simp [admitted, refused] at admits

/-- The parts of a push of which something is to be heard. -/
theorem Push.parts_of_note {push : Push} {said : Heard F}
    (found : push.note refusal decoding = .ok said) :
    refusal push.header = none ∧
      ∀ part ∈ push.parts, ∃ value : PyVal F, decoded refusal decoding part = .ok value := by
  unfold Push.note at found
  cases admits : admitted refusal push.header with
  | error e => simp [admits] at found
  | ok _ =>
    cases members : collect (decoded (F := F) refusal decoding) push.parts with
    | error e => simp [admits, members] at found
    | ok values => exact ⟨refusal_of_admitted admits, ok_of_collect members⟩

/-- Turns whose pushes and replies decode pass. -/
theorem Turn.passes_of_decoded {turn : Turn} (framed : turn.Framed) {said : List (Heard F)}
    (pushes : collect (Push.note refusal decoding) turn.pushes = .ok said)
    {value : PyVal F} (reply : decoded refusal decoding turn.reply = .ok value) :
    turn.Passes refusal decoding F where
  headers push member := by
    obtain ⟨one, found⟩ := ok_of_collect pushes push member
    exact (Push.parts_of_note found).1
  pushes push member part inside := by
    obtain ⟨one, found⟩ := ok_of_collect pushes push member
    obtain ⟨value, decodes⟩ := (Push.parts_of_note found).2 part inside
    exact (decoded_iff (framed.pushes push member part inside)).mp ⟨value, decodes⟩
  reply := (decoded_iff framed.reply).mp ⟨value, reply⟩

/-- Something is to be heard of each push of a turn that passes. -/
theorem Turn.Passes.notes {turn : Turn} (passes : turn.Passes refusal decoding F) :
    ∃ said : List (Heard F), collect (Push.note refusal decoding) turn.pushes = .ok said := by
  refine collect_ok turn.pushes fun push member => ?_
  have members : ∀ part ∈ push.parts,
      ∃ value : PyVal F, decoded refusal decoding part = .ok value := fun part inside =>
    (decoded_iff_readable (passes.pushes push member part inside).1).mpr
      (passes.pushes push member part inside).2
  obtain ⟨values, collected⟩ := collect_ok push.parts members
  refine ⟨heard values, ?_⟩
  rw [Push.note, admitted, passes.headers push member, collected]
  rfl

/-- A turn has a value exactly if it passes. -/
theorem Turn.passes_iff {turn : Turn} (framed : turn.Framed) :
    (∃ value : PyVal F, turn.value refusal decoding = .ok value) ↔
      turn.Passes refusal decoding F := by
  constructor
  · rintro ⟨value, found⟩
    unfold Turn.value at found
    cases pushes : collect (Push.note (F := F) refusal decoding) turn.pushes with
    | error e => simp [pushes] at found
    | ok said =>
      rw [pushes, ok_bind] at found
      exact Turn.passes_of_decoded framed pushes found
  · intro passes
    obtain ⟨said, pushes⟩ := passes.notes
    obtain ⟨value, found⟩ := (decoded_iff_readable passes.reply.1).mpr passes.reply.2
    exact ⟨value, by rw [Turn.value, pushes, ok_bind, found]⟩

/-- The pushes of a turn that passes are heard as if no line was ever refused. -/
theorem Turn.Passes.note_eq {turn : Turn} (passes : turn.Passes refusal decoding F) :
    ∀ push ∈ turn.pushes, push.note (F := F) refusal decoding = push.note (fun _ => none) decoding := by
  intro push member
  have members : collect (decoded (F := F) refusal decoding) push.parts =
      collect (decoded (fun _ => none) decoding) push.parts :=
    collect_congr push.parts fun part inside =>
      decoded_admitted ((passes.pushes push member part inside).2.mono fun _ => Reply.Readable.admits)
  rw [Push.note, Push.note, admitted, passes.headers push member, members]
  rfl

/-- Its reply decodes as if no line was ever refused. -/
theorem Turn.Passes.reply_eq {turn : Turn} (passes : turn.Passes refusal decoding F) :
    decoded (F := F) refusal decoding turn.reply = decoded (fun _ => none) decoding turn.reply :=
  decoded_admitted (passes.reply.2.mono fun _ => Reply.Readable.admits)

/-- A turn that would pass if no line was refused fails by a refused line only. -/
theorem Turn.value_error {turn : Turn} (passes : turn.Passes (fun _ => none) decoding F)
    (refuses : ∀ line x, refusal line = some x → x = { cls := .valueError }) {e : Stop}
    (failed : turn.value (F := F) refusal decoding = .error e) : e = .ofClass .valueError := by
  unfold Turn.value at failed
  cases pushes : collect (Push.note (F := F) refusal decoding) turn.pushes with
  | ok said =>
    rw [pushes, ok_bind] at failed
    exact decoded_error passes.reply.1 refuses failed
  | error x =>
    rw [pushes, error_bind, Except.error.injEq] at failed
    obtain ⟨push, member, inner⟩ := error_of_collect pushes
    rw [← failed]
    unfold Push.note at inner
    cases refused : refusal push.header with
    | some y =>
      simp only [admitted, refused, error_bind, Except.error.injEq] at inner
      rw [← inner, refuses push.header y refused]
    | none =>
      simp only [admitted, refused, ok_bind] at inner
      cases members : collect (decoded (F := F) refusal decoding) push.parts with
      | ok values => simp [members] at inner
      | error z =>
        simp only [members, error_bind, Except.error.injEq] at inner
        obtain ⟨part, inside, partFailed⟩ := error_of_collect members
        rw [← inner]
        exact decoded_error (passes.pushes push member part inside).1 refuses partFailed

/-! ## Delivery -/

/-- However often the parser is called, the calls that return give the replies in order, each once,
and the handlers were given the pushes before these replies, in order, each once; every call
is interrupted until all replies are returned, and enough calls return them all. -/
structure DeliversOnce (program : EStateM Stop (Recorded σ (Heard F)) (PyVal F)) (interruption : Stop)
    (decoding : Decoding) (turns : List Turn) (s : Recorded σ (Heard F)) : Prop where
  /-- At any time. -/
  always : ∀ count, ∃ done pending, turns = done ++ pending ∧
    List.Forall₂ (fun turn value => decoded (fun _ => none) decoding turn.reply = .ok value) done
      (returned (calls program count s).1) ∧
    collect (Push.note (fun _ => none) decoding) (done.flatMap Turn.pushes) =
      .ok (calls program count s).2.record ∧
    (pending ≠ [] → ∀ e ∈ failures (calls program count s).1, e = interruption)
  /-- In the end. -/
  complete : ∃ count, (returned (calls program count s).1).length = turns.length

section Delivery

variable {supply : Supply (Recorded σ (Heard F)) Stop Turn}
  {program : EStateM Stop (Recorded σ (Heard F)) (PyVal F)}
  {debt : Recorded σ (Heard F) → List Turn → Nat} {interruption : Stop} {turns : List Turn}
  {s : Recorded σ (Heard F)}

/-- Turns that are all delivered pass if no line is refused. -/
theorem DeliversOnce.passes (delivers : DeliversOnce program interruption decoding turns s)
    (framed : ∀ turn ∈ turns, turn.Framed) :
    ∃ count, (returned (calls program count s).1).length = turns.length ∧
      collect (Push.note (fun _ => none) decoding) (turns.flatMap Turn.pushes) =
        .ok (calls program count s).2.record ∧
      ∀ turn ∈ turns, turn.Passes (fun _ => none) decoding F := by
  obtain ⟨count, full⟩ := delivers.complete
  obtain ⟨done, pending, split, values, record, -⟩ := delivers.always count
  have replies := all_of_full split values full
  have lengths := congrArg List.length split
  rw [List.length_append, values.length_eq] at lengths
  have empty : pending = [] := List.length_eq_zero_iff.mp (by omega)
  rw [empty, List.append_nil] at split
  rw [← split] at record
  refine ⟨count, full, record, fun turn member => ?_⟩
  obtain ⟨value, reply⟩ := replies turn member
  have notes : ∀ push ∈ turn.pushes,
      ∃ said : Heard F, push.note (fun _ => none) decoding = .ok said := fun push inside =>
    ok_of_collect record push (List.mem_flatMap.mpr ⟨turn, member, inside⟩)
  obtain ⟨said, pushes⟩ := collect_ok turn.pushes notes
  exact Turn.passes_of_decoded (framed turn member) pushes reply

/-- The pushes of turns that pass are heard as if no line was ever refused. -/
theorem collect_note_eq (passes : ∀ turn ∈ turns, turn.Passes refusal decoding F) :
    collect (Push.note (F := F) refusal decoding) (turns.flatMap Turn.pushes) =
      collect (Push.note (fun _ => none) decoding) (turns.flatMap Turn.pushes) := by
  refine collect_congr _ fun push member => ?_
  obtain ⟨turn, listed, inside⟩ := List.mem_flatMap.mp member
  exact (passes turn listed).note_eq push inside

/-- A parser that resumes and reports delivers everything once exactly if everything passes and no
interruption finds a push that has arrived. -/
theorem deliversOnce_iff (resumes : Resumes supply program (Turn.value refusal decoding))
    (reports : Reports supply program (Turn.value refusal decoding) Turn.pushes
      (Push.note refusal decoding) Recorded.record debt)
    (interrupts : ∀ e, supply.interrupt e ↔ e = interruption)
    (refuses : ∀ line x, refusal line = some x → x = { cls := .valueError })
    (apart : interruption ≠ .ofClass .valueError) (framed : ∀ turn ∈ turns, turn.Framed)
    (before : supply.before s turns) (fresh : s.record = []) :
    DeliversOnce program interruption decoding turns s ↔
      (∀ turn ∈ turns, turn.Passes refusal decoding F) ∧ debt s turns = 0 := by
  constructor
  · intro delivers
    obtain ⟨count, full, record, unrefused⟩ := delivers.passes framed
    have own : ∀ turn ∈ turns, ∀ e, turn.value (F := F) refusal decoding = .error e →
        ¬supply.interrupt e := by
      intro turn member e failed interrupted
      have cause := Turn.value_error (unrefused turn member) refuses failed
      exact apart (((interrupts e).mp interrupted).symm.trans cause)
    have peace (n : Nat) (short : (returned (calls program n s).1).length < turns.length) :
        ∀ e ∈ failures (calls program n s).1, supply.interrupt e := by
      obtain ⟨done, pending, split, values, -, failed⟩ := delivers.always n
      intro e member
      refine (interrupts e).mpr (failed ?_ e member)
      rintro rfl
      rw [List.append_nil] at split
      rw [split, values.length_eq] at short
      exact Nat.lt_irrefl _ short
    have good := resumes.good_of_full count own before full peace
    have passes : ∀ turn ∈ turns, turn.Passes refusal decoding F := fun turn member =>
      (Turn.passes_iff (framed turn member)).mp (good turn member)
    refine ⟨passes, ?_⟩
    obtain ⟨done, pending, said, due, delivery, account⟩ :=
      reports.calls_account resumes count good before
    have lengths := congrArg List.length delivery.split
    rw [List.length_append, delivery.values.length_eq] at lengths
    have empty : pending = [] := List.length_eq_zero_iff.mp (by omega)
    have split := delivery.split
    rw [empty, List.append_nil] at split
    have collected := account.collected
    rw [← split, collect_note_eq passes, record, account.grown, fresh, List.nil_append,
      Except.ok.injEq] at collected
    have rest := delivery.rest
    rw [empty] at rest
    have balance := account.balance
    rw [empty, reports.clear _ rest, collected] at balance
    omega
  · rintro ⟨passes, clear⟩
    have good : ∀ turn ∈ turns, ∃ value : PyVal F, turn.value refusal decoding = .ok value :=
      fun turn member => (Turn.passes_iff (framed turn member)).mpr (passes turn member)
    constructor
    · intro count
      obtain ⟨done, pending, said, due, delivery, account⟩ :=
        reports.calls_account resumes count good before
      have front : ∀ turn ∈ done, turn.Passes refusal decoding F := fun turn member =>
        passes turn (by rw [delivery.split]; exact List.mem_append_left _ member)
      refine ⟨done, pending, delivery.split, ?_, ?_, ?_⟩
      · have both := (List.forall₂_and_left done _).mpr ⟨front, delivery.values⟩
        refine both.imp fun turn value found => ?_
        obtain ⟨turnPasses, found⟩ := found
        obtain ⟨notes, pushes⟩ := turnPasses.notes
        rw [Turn.value, pushes, ok_bind, turnPasses.reply_eq] at found
        exact found
      · rw [← collect_note_eq front, account.collected, account.grown, fresh, List.nil_append,
          account.exact clear]
      · intro left e member
        exact (interrupts e).mp (delivery.failed left e member)
    · exact ⟨_, resumes.calls_complete _ good before (Nat.le_refl _)⟩

end Delivery

end Turns

/-! ## The blocking parser -/

namespace SocketBuffer

variable [PyFloat F]

/-- Octets of the socket are missing. -/
def gauge : Gauge punctual octets where
  missing s := (arrivals s.socket).length
  within := fun {_ s pieces _ t} before stopped => by
    obtain ⟨got, moved⟩ := stopped.out.moved
    have stream := congrArg List.length before.stream
    have arrived := congrArg List.length moved.arrivals
    rw [List.length_append] at stream arrived
    show (arrivals t.socket).length ≤ (pieces.flatMap Piece.wire).length
    omega
  starved stopped := stopped.short

/-- No more octets arrive after a timeout than arrive at all. -/
theorem outages_le {events : List Recv} :
    ∀ missing ∈ outages events, missing ≤ (arrivals events).length := by
  induction events with
  | nil => simp [outages]
  | cons event events ih =>
    intro missing member
    cases event with
    | data chunk =>
      rw [arrivals, List.length_append]
      exact Nat.le_trans (ih missing member) (Nat.le_add_left _ _)
    | timeout =>
      rcases List.mem_cons.mp member with rfl | member
      · exact Nat.le_refl _
      · exact ih missing member
    | nonblocking allowed => exact ih missing member
    | osError => exact ih missing member

/-- Turns in front of a blocking parser. -/
def turnSupply : Supply (Recorded SocketBuffer (Heard F)) Stop Turn where
  before s turns := (∀ turn ∈ turns, turn.Framed) ∧ Before s.inner (turns.flatMap Turn.pieces)
  patience s := timeouts s.inner.socket
  interrupt e := e = .ofClass .timeoutError

/-- The pushes that the timeouts to come will find. -/
def debt (s : Recorded SocketBuffer (Heard F)) (turns : List Turn) : Nat :=
  allOrphans turns (outages s.inner.socket)

/-- The parser in front of turns reads the first one. -/
theorem listen_reads (decoding : Decoding) {turn : Turn} {turns : List Turn} {s : Recorded SocketBuffer (Heard F)}
    (before : turnSupply.before s (turn :: turns)) :
    TurnEnds punctual gauge refusal decoding turn (turns.flatMap Turn.pieces) s
      (Resp3.readReply (listening (ops defaultHandlers)) decoding (s.inner.available + 1) false s) := by
  obtain ⟨framed, stream⟩ := before
  rw [List.flatMap_cons] at stream
  have lengths := congrArg List.length stream.stream
  have pieces := pieces_length_le turn.pieces
  rw [List.flatMap_append, List.length_append, List.length_append] at lengths
  have deep : turn.pieces.length ≤ s.inner.available + 1 := by
    rw [available]
    omega
  exact reads_turn (ops_punctual defaultHandlers) gauge turn.pushes turn.reply _
    (framed turn List.mem_cons_self) deep _ s stream

/-- With nothing to come the parser waits. -/
theorem listen_idle (decoding : Decoding) {s : Recorded SocketBuffer (Heard F)} (before : turnSupply.before s []) :
    ∃ e t, listen decoding s = .error e t ∧ turnSupply.before t [] ∧ t.record = s.record := by
  obtain ⟨e, t, ran, got, moved⟩ := readline_idle before.2
  have line : (listening (ops defaultHandlers)).readline s = .error e { s with inner := t } := by
    have same : (listening (ops (F := F) defaultHandlers)).readline s =
        unrecorded readline s := rfl
    rw [same, unrecorded, ran]
  refine ⟨e, { s with inner := t.rewind s.inner.pos }, ?_, ⟨by simp, before.2.rewind moved⟩, rfl⟩
  rw [listen, Resp3.readReply, bind_of_error line]

/-- The blocking parser resumes. -/
theorem listen_resumes (decoding : Decoding) : Resumes (turnSupply (F := F)) (listen decoding)
    (Turn.value refusal decoding) where
  step s turn turns before := by
    have ends := listen_reads decoding before
    obtain ⟨framed, stream⟩ := before
    have others : ∀ other ∈ turns, other.Framed :=
      fun other member => framed other (List.mem_cons_of_mem turn member)
    unfold listen
    cases ran : Resp3.readReply (listening (ops defaultHandlers)) decoding (s.inner.available + 1)
        false s with
    | ok value t =>
      rw [ran] at ends
      obtain ⟨found, behind, ⟨-, quiet⟩, -⟩ := ends
      refine ⟨found, ⟨others, behind.purge⟩, Nat.le_of_eq ?_⟩
      show timeouts t.inner.purge.socket = timeouts s.inner.socket
      rw [purge_socket, ← outages_length, ← outages_length, quiet]
    | error e t =>
      rw [ran] at ends
      rcases ends with ⟨stopped, -⟩ | own
      · obtain ⟨got, moved⟩ := stopped.out.moved
        exact .inl ⟨stopped.out.timeout, ⟨framed, stream.rewind moved⟩, stopped.out.fewer⟩
      · exact .inr own
  idle s before := by
    obtain ⟨e, t, ran, kept, -⟩ := listen_idle decoding before
    exact ⟨e, t, ran, kept⟩

/-- Its reports balance. -/
theorem listen_reports (decoding : Decoding) : Reports (turnSupply (F := F)) (listen decoding)
    (Turn.value refusal decoding) Turn.pushes (Push.note refusal decoding) Recorded.record debt where
  step s turn turns before := by
    have ends := listen_reads decoding before
    unfold listen
    cases ran : Resp3.readReply (listening (ops defaultHandlers)) decoding (s.inner.available + 1)
        false s with
    | ok value t =>
      rw [ran] at ends
      obtain ⟨-, behind, ⟨-, quiet⟩, said, collected, record⟩ := ends
      refine ⟨said, collected, record, ?_⟩
      have later : ∀ missing ∈ outages t.inner.socket,
          missing ≤ octets (turns.flatMap Turn.pieces) := by
        intro missing member
        have most := outages_le missing member
        have stream := congrArg List.length behind.stream
        rw [List.length_append] at stream
        show missing ≤ ((turns.flatMap Turn.pieces).flatMap Piece.wire).length
        omega
      show allOrphans turns (outages t.inner.purge.socket) =
        allOrphans (turn :: turns) (outages s.inner.socket)
      rw [purge_socket, ← quiet, allOrphans_later later]
    | error e t =>
      rw [ran] at ends
      rcases ends with ⟨stopped, said, record, count⟩ | own
      · refine .inl ⟨said, record, ?_⟩
        show allOrphans (turn :: turns) (outages s.inner.socket) =
          said.length + allOrphans (turn :: turns) (outages t.inner.socket)
        rw [stopped.outages, allOrphans_during stopped.short, count]
        rfl
      · exact .inr own
  idle s before := by
    obtain ⟨e, t, ran, -, same⟩ := listen_idle decoding before
    rw [ran]
    exact same
  clear s _ := allOrphans_nil _

end SocketBuffer

/-! ## The asyncio parser -/

namespace AsyncParser

variable [PyFloat F] {limit : Nat}

/-- What arrives is part of what is next. -/
theorem Before.coming {bound : Nat} {all pieces : List Piece} {s : AsyncParser}
    (before : Before limit bound all s pieces) :
    (StreamReader.arrivals s.stream.incoming).length ≤ octets pieces := by
  have inside {fresh : List Piece} (stream : s.stream.content = wire fresh) :
      (StreamReader.arrivals s.stream.incoming).length ≤ octets fresh := by
    have lengths := congrArg List.length stream
    rw [StreamReader.content, List.length_append] at lengths
    show (StreamReader.arrivals s.stream.incoming).length ≤ (wire fresh).length
    omega
  rcases before with ⟨consumed, held, fresh, -, split, -, state⟩ | ⟨taken, -, state⟩
  · rw [split, octets_append]
    exact Nat.le_trans (inside state.stream) (Nat.le_add_left _ _)
  · exact inside state.stream

/-- Octets of the stream are missing. -/
def gauge (limit bound : Nat) (all : List Piece) : Gauge (punctual limit bound all) octets where
  missing s := (StreamReader.arrivals s.stream.incoming).length
  within before stopped := Nat.le_trans stopped.2.1.coming before.coming
  starved stopped := stopped.2.2

/-- No more octets arrive after a cancellation than arrive at all. -/
theorem outages_le {events : List Wake} : ∀ missing ∈ StreamReader.outages events,
    missing ≤ (StreamReader.arrivals events).length := by
  induction events with
  | nil => simp [StreamReader.outages]
  | cons wake events ih =>
    intro missing member
    cases wake with
    | data chunk meanwhile =>
      rw [StreamReader.arrivals, List.length_append]
      exact Nat.le_trans (ih missing member) (Nat.le_add_left _ _)
    | eof => exact ih missing member
    | cancel =>
      rcases List.mem_cons.mp member with rfl | member
      · exact Nat.le_refl _
      · exact ih missing member

/-- Turns in front of an asyncio parser; the journal holds part of the first one at most. -/
def turnSupply (limit : Nat) : Supply (Recorded AsyncParser (Heard F)) Stop Turn where
  before s turns := (∀ turn ∈ turns, turn.Framed) ∧
    Resumable limit (turns.flatMap Turn.pieces) (turns.tail.flatMap Turn.pieces) s.inner
  patience s := cancels s.inner
  interrupt e := e = .ofClass .cancelledError

/-- The pushes that the cancellations to come will find. -/
def debt (s : Recorded AsyncParser (Heard F)) (turns : List Turn) : Nat :=
  allOrphans turns (StreamReader.outages s.inner.stream.incoming)

/-- What has arrived is there when a call starts. -/
def started (s : Recorded AsyncParser (Heard F)) : Recorded AsyncParser (Heard F) :=
  { s with inner := s.inner.arrive.start }

omit [PyFloat F] in
/-- Starting a call cancels nothing. -/
theorem started_calm (s : Recorded AsyncParser (Heard F)) :
    StreamReader.Calm s.inner.stream (started s).inner.stream :=
  StreamReader.arrive_calm s.inner.stream.incoming rfl

/-- The parser in front of turns reads the first one. -/
theorem listen_reads (decoding : Decoding) {turn : Turn} {turns : List Turn}
    {s : Recorded AsyncParser (Heard F)} (before : (turnSupply limit).before s (turn :: turns)) :
    TurnEnds (punctual limit turn.pieces.length (turn.pieces ++ turns.flatMap Turn.pieces))
      (gauge limit turn.pieces.length (turn.pieces ++ turns.flatMap Turn.pieces)) (refusal limit)
      decoding turn (turns.flatMap Turn.pieces) (started s)
      (Resp3.readReply (listening (ops defaultHandlers)) decoding (s.inner.arrive.available + 1)
        false (started s)) := by
  obtain ⟨framed, resumable⟩ := before
  rw [List.flatMap_cons, List.tail_cons] at resumable
  have arrived := resumable.arrive
  have first := arrived.start
  have within : (turn.pieces ++ turns.flatMap Turn.pieces).length -
      (turns.flatMap Turn.pieces).length = turn.pieces.length := by
    rw [List.length_append]
    omega
  rw [within] at first
  have deep : turn.pieces.length ≤ s.inner.arrive.available + 1 := by
    have := pieces_length_le (turn.pieces ++ turns.flatMap Turn.pieces)
    rw [arrived.available, wire]
    rw [List.length_append] at this
    omega
  exact reads_turn (ops_punctual _ _ _ defaultHandlers) (gauge _ _ _) turn.pushes turn.reply _
    (framed turn List.mem_cons_self) deep _ (started s) first

/-- With nothing to come the parser waits. -/
theorem listen_idle (decoding : Decoding) {s : Recorded AsyncParser (Heard F)}
    (before : (turnSupply limit).before s []) :
    ∃ e t, listen decoding s = .error e t ∧ (turnSupply limit).before t [] ∧
      t.record = s.record := by
  obtain ⟨e, t, ran, kept⟩ := readline_idle before.2
  have line : (listening (ops defaultHandlers)).readline (started s) =
      .error e { s with inner := t } := by
    have same : (listening (ops (F := F) defaultHandlers)).readline (started s) =
        unrecorded readline (started s) := rfl
    have inner : readline (started s).inner = .error e t := ran
    rw [same, unrecorded, inner]
    rfl
  refine ⟨e, { s with inner := t }, ?_, ⟨by simp, kept⟩, rfl⟩
  have start : { s with inner := s.inner.arrive.start } = started s := rfl
  rw [listen, Resp3.readReply, start, bind_of_error line]

/-- The asyncio parser resumes. -/
theorem listen_resumes (limit : Nat) (decoding : Decoding) :
    Resumes (turnSupply (F := F) limit) (listen decoding) (Turn.value (refusal limit) decoding) where
  step s turn turns before := by
    have ends := listen_reads decoding before
    have fewer : StreamReader.outages (started s).inner.stream.incoming =
        StreamReader.outages s.inner.stream.incoming := (started_calm s).outages
    obtain ⟨framed, resumable⟩ := before
    have others : ∀ other ∈ turns, other.Framed :=
      fun other member => framed other (List.mem_cons_of_mem turn member)
    unfold listen
    cases ran : Resp3.readReply (listening (ops defaultHandlers)) decoding
        (s.inner.arrive.available + 1) false { s with inner := s.inner.arrive.start } with
    | ok value t =>
      rw [started, ran] at ends
      obtain ⟨found, behind, quiet, -⟩ := ends
      have ends : turns.tail.flatMap Turn.pieces <:+ turns.flatMap Turn.pieces := by
        cases turns with
        | nil => exact List.suffix_refl _
        | cons other turns => exact List.suffix_append _ _
      refine ⟨found, ⟨others, behind.clear ends⟩, Nat.le_of_eq ?_⟩
      show StreamReader.cancels t.inner.stream.incoming =
        StreamReader.cancels s.inner.stream.incoming
      rw [← StreamReader.outages_length, ← StreamReader.outages_length, quiet.outages, ← fewer]
      rfl
    | error e t =>
      rw [started, ran] at ends
      rcases ends with ⟨⟨⟨cancelled, rest⟩, broken, -⟩, -⟩ | own
      · refine .inl ⟨cancelled, ⟨framed, ?_⟩, ?_⟩
        · rw [List.flatMap_cons]
          exact rest
        · have used := congrArg List.length (fewer.symm.trans broken.outages)
          rw [List.length_cons, StreamReader.outages_length, StreamReader.outages_length] at used
          show StreamReader.cancels t.inner.stream.incoming <
            StreamReader.cancels s.inner.stream.incoming
          omega
      · exact .inr own
  idle s before := by
    obtain ⟨e, t, ran, kept, -⟩ := listen_idle decoding before
    exact ⟨e, t, ran, kept⟩

/-- Its reports balance. -/
theorem listen_reports (limit : Nat) (decoding : Decoding) :
    Reports (turnSupply (F := F) limit) (listen decoding) (Turn.value (refusal limit) decoding)
      Turn.pushes (Push.note (refusal limit) decoding) Recorded.record debt where
  step s turn turns before := by
    have ends := listen_reads decoding before
    have fewer : StreamReader.outages (started s).inner.stream.incoming =
        StreamReader.outages s.inner.stream.incoming := (started_calm s).outages
    unfold listen
    cases ran : Resp3.readReply (listening (ops defaultHandlers)) decoding
        (s.inner.arrive.available + 1) false { s with inner := s.inner.arrive.start } with
    | ok value t =>
      rw [started, ran] at ends
      obtain ⟨-, behind, quiet, said, collected, record⟩ := ends
      refine ⟨said, collected, record, ?_⟩
      have later : ∀ missing ∈ StreamReader.outages t.inner.stream.incoming,
          missing ≤ octets (turns.flatMap Turn.pieces) := fun missing member =>
        Nat.le_trans (outages_le missing member) behind.coming
      have same : StreamReader.outages s.inner.stream.incoming =
          StreamReader.outages t.inner.stream.incoming := fewer.symm.trans quiet.outages.symm
      show allOrphans turns (StreamReader.outages t.inner.stream.incoming) =
        allOrphans (turn :: turns) (StreamReader.outages s.inner.stream.incoming)
      rw [same, allOrphans_later later]
    | error e t =>
      rw [started, ran] at ends
      rcases ends with ⟨⟨-, broken, short⟩, said, record, count⟩ | own
      · refine .inl ⟨said, record, ?_⟩
        have used : StreamReader.outages s.inner.stream.incoming =
            (StreamReader.arrivals t.inner.stream.incoming).length ::
              StreamReader.outages t.inner.stream.incoming := fewer.symm.trans broken.outages
        show allOrphans (turn :: turns) (StreamReader.outages s.inner.stream.incoming) =
          said.length + allOrphans (turn :: turns) (StreamReader.outages t.inner.stream.incoming)
        rw [used, allOrphans_during short, count]
        rfl
      · exact .inr own
  idle s before := by
    obtain ⟨e, t, ran, -, same⟩ := listen_idle decoding before
    rw [ran]
    exact same
  clear s _ := allOrphans_nil _

omit [PyFloat F] in
/-- A connected parser is in front of the turns that its stream brings. -/
theorem turns_connectedTo {turns : List Turn} {incoming : List Wake}
    (framed : ∀ turn ∈ turns, turn.Framed) (running : ∀ wake ∈ incoming, StreamReader.open' wake)
    (stream : StreamReader.arrivals incoming = turns.flatMap Turn.encode) :
    (turnSupply (F := F) limit).before { inner := connectedTo limit incoming, record := [] } turns := by
  refine ⟨framed, [], turns.flatMap Turn.pieces, rfl, ?_, ⟨⟨rfl, rfl, running⟩, rfl, by simp⟩,
    rfl, ?_⟩
  · cases turns with
    | nil => exact List.suffix_refl _
    | cons turn turns => exact List.suffix_append _ _
  · show [] ++ StreamReader.arrivals incoming = wire (turns.flatMap Turn.pieces)
    rw [List.nil_append, stream]
    exact List.flatMap_assoc.symm

end AsyncParser

/-! ## Both parsers -/

section Both

variable [PyFloat F]

/-- Both parsers deliver every reply and every push once, exactly if everything in the stream decodes
and no timeout or cancellation falls where a push has arrived and the reply after it has not. -/
theorem deliversOnce_iff_undisturbed (decoding : Decoding) (turns : List Turn) (socket : List Recv)
    (limit : Nat) (incoming : List Wake) (framed : ∀ turn ∈ turns, turn.Framed)
    (peaceful : ∀ event ∈ socket, SocketBuffer.orderly event)
    (running : ∀ wake ∈ incoming, StreamReader.open' wake)
    (wire : SocketBuffer.arrivals socket = turns.flatMap Turn.encode)
    (stream : StreamReader.arrivals incoming = turns.flatMap Turn.encode) :
    (DeliversOnce (F := F) (SocketBuffer.listen decoding) (.ofClass .timeoutError) decoding turns
        { inner := SocketBuffer.connected socket, record := [] } ↔
      (∀ turn ∈ turns, turn.Passes SocketBuffer.refusal decoding F) ∧
        ∀ missing ∈ SocketBuffer.outages socket, orphans missing turns = 0) ∧
    (DeliversOnce (F := F) (AsyncParser.listen decoding) (.ofClass .cancelledError) decoding turns
        { inner := AsyncParser.connectedTo limit incoming, record := [] } ↔
      (∀ turn ∈ turns, turn.Passes (AsyncParser.refusal limit) decoding F) ∧
        ∀ missing ∈ StreamReader.outages incoming, orphans missing turns = 0) := by
  have blocking : (SocketBuffer.turnSupply (F := F)).before
      { inner := SocketBuffer.connected socket, record := [] } turns := by
    refine ⟨framed, Nat.le_refl 0, peaceful, ?_⟩
    show [] ++ SocketBuffer.arrivals socket = _
    rw [List.nil_append, wire]
    exact List.flatMap_assoc.symm
  constructor
  · rw [← allOrphans_eq_zero]
    exact deliversOnce_iff (SocketBuffer.listen_resumes decoding)
      (SocketBuffer.listen_reports decoding) (fun _ => Iff.rfl) (fun _ _ none => by cases none)
      (by decide) framed blocking rfl
  · have refuses : ∀ line x, AsyncParser.refusal limit line = some x → x = { cls := .valueError } := by
      intro line x refused
      unfold AsyncParser.refusal at refused
      split at refused
      · cases refused
      · exact (Option.some.inj refused).symm
    rw [← allOrphans_eq_zero]
    exact deliversOnce_iff (AsyncParser.listen_resumes limit decoding)
      (AsyncParser.listen_reports limit decoding) (fun _ => Iff.rfl) refuses (by decide) framed
      (AsyncParser.turns_connectedTo framed running stream) rfl

/-- Handlers are never given more than the pushes of the stream. -/
theorem DeliversOnce.record_length {program : EStateM Stop (Recorded σ (Heard F)) (PyVal F)}
    {interruption : Stop} {decoding : Decoding} {turns : List Turn} {s : Recorded σ (Heard F)}
    (delivers : DeliversOnce program interruption decoding turns s) (count : Nat) :
    (calls program count s).2.record.length ≤ (turns.flatMap Turn.pushes).length := by
  obtain ⟨done, pending, split, -, record, -⟩ := delivers.always count
  rw [collect_length record, split, List.flatMap_append, List.length_append]
  exact Nat.le_add_right _ _

end Both

/-- An invalidation before a line. -/
def invalidationThenOk : Turn where
  pushes := [{ kind := .bulk (ascii "invalidate"), items := [.array [.bulk (ascii "foo")]] }]
  reply := .simple (ascii "OK")

/-- Interruptions inside the push. -/
theorem deliversOnce_iff_undisturbed_inside :
    (DeliversOnce (F := Empty) (SocketBuffer.listen .raw) (.ofClass .timeoutError) .raw
        [invalidationThenOk]
        { inner := SocketBuffer.connected [.data (ascii ">2\r\n$10\r\ninval"), .timeout,
            .data (ascii "idate\r\n*1\r\n$3\r\nfoo\r\n+OK\r\n")], record := [] } ↔
      (∀ turn ∈ [invalidationThenOk], turn.Passes SocketBuffer.refusal .raw Empty) ∧
        ∀ missing ∈ SocketBuffer.outages [.data (ascii ">2\r\n$10\r\ninval"), .timeout,
            .data (ascii "idate\r\n*1\r\n$3\r\nfoo\r\n+OK\r\n")],
          orphans missing [invalidationThenOk] = 0) ∧
    (DeliversOnce (F := Empty) (AsyncParser.listen .raw) (.ofClass .cancelledError) .raw
        [invalidationThenOk]
        { inner := AsyncParser.connectedTo StreamReader.defaultLimit
            [.data (ascii ">2\r\n$10\r\ninval") false, .cancel,
              .data (ascii "idate\r\n*1\r\n$3\r\nfoo\r\n+OK\r\n") true], record := [] } ↔
      (∀ turn ∈ [invalidationThenOk],
          turn.Passes (AsyncParser.refusal StreamReader.defaultLimit) .raw Empty) ∧
        ∀ missing ∈ StreamReader.outages [.data (ascii ">2\r\n$10\r\ninval") false, .cancel,
            .data (ascii "idate\r\n*1\r\n$3\r\nfoo\r\n+OK\r\n") true],
          orphans missing [invalidationThenOk] = 0) := by
  have framedSimple : lineText (ascii "OK") := by unfold lineText; decide
  apply deliversOnce_iff_undisturbed
  · intro turn member
    rw [List.mem_singleton.mp member]
    constructor
    · intro push listed part inside
      rw [List.mem_singleton.mp listed] at inside
      simp only [Push.parts, List.mem_cons, List.not_mem_nil, or_false] at inside
      rcases inside with rfl | rfl
      · exact .intro trivial (by simp [Reply.children])
      · exact .intro trivial (by simpa [Reply.children] using .intro trivial (by simp [Reply.children]))
    · have line : invalidationThenOk.reply = .simple (ascii "OK") := rfl
      rw [line]
      exact .intro framedSimple (by simp [Reply.children])
  · intro event member
    simp only [List.mem_cons, List.not_mem_nil, or_false] at member
    rcases member with rfl | rfl | rfl
    · exact fun empty => by cases empty
    · trivial
    · exact fun empty => by cases empty
  · intro wake member
    simp only [List.mem_cons, List.not_mem_nil, or_false] at member
    rcases member with rfl | rfl | rfl
    · exact fun empty => by cases empty
    · trivial
    · exact fun empty => by cases empty
  · decide +kernel
  · decide +kernel

/-- The octets of the invalidation. -/
def invalidationOctets : Bytes := ascii ">2\r\n$10\r\ninvalidate\r\n*1\r\n$3\r\nfoo\r\n"

/-- When a call is interrupted between a push and its reply, the next call reads the push again, and
its handler is given it twice. -/
theorem interrupted_push_not_deliveredOnce :
    ¬DeliversOnce (F := Empty) (SocketBuffer.listen .raw) (.ofClass .timeoutError) .raw
        [invalidationThenOk]
        { inner := SocketBuffer.connected [.data invalidationOctets, .timeout,
            .data (ascii "+OK\r\n")], record := [] } ∧
    ¬DeliversOnce (F := Empty) (AsyncParser.listen .raw) (.ofClass .cancelledError) .raw
        [invalidationThenOk]
        { inner := AsyncParser.connectedTo StreamReader.defaultLimit
            [.data invalidationOctets false, .cancel, .data (ascii "+OK\r\n") false],
          record := [] } := by
  constructor
  · intro delivers
    have twice : (calls (SocketBuffer.listen (F := Empty) .raw) 2
        { inner := SocketBuffer.connected [.data invalidationOctets, .timeout,
            .data (ascii "+OK\r\n")], record := [] }).2.record.length = 2 := by decide +kernel
    have once := delivers.record_length 2
    rw [twice] at once
    exact absurd once (by decide)
  · intro delivers
    have twice : (calls (AsyncParser.listen (F := Empty) .raw) 2
        { inner := AsyncParser.connectedTo StreamReader.defaultLimit
            [.data invalidationOctets false, .cancel, .data (ascii "+OK\r\n") false],
          record := [] }).2.record.length = 2 := by decide +kernel
    have once := delivers.record_length 2
    rw [twice] at once
    exact absurd once (by decide)

end RedisPy
