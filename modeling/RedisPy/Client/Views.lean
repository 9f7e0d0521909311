import RedisPy.Client.Packing
import RedisPy.Lib.Holes
import RedisPy.Lib.Interruptible
import Mathlib.Algebra.BigOperators.Group.List.Basic

/-!
# Packing memoryviews of any format

`PythonRespSerializer.pack` and `pack_commands` for arguments that may be memoryviews of any item
format and shape. The length that is written for an argument is its `len`, which for a view
counts the items of the first dimension, while the socket sends all its octets. So a command is
framed rightly when its views have as many items in their first dimension as they have octets.
-/

namespace RedisPy

/-- A `memoryview`. -/
structure MemoryView where
  /-- `format`. -/
  format : Text
  /-- `itemsize`. -/
  itemsize : Nat
  /-- `shape`. -/
  shape : List Nat
  /-- `tobytes()`. -/
  data : Bytes
  /-- `nbytes` is the number of items times their size. -/
  nbytes : data.length = itemsize * shape.prod

namespace MemoryView

/-- A view of octets. -/
def ofBytes (data : Bytes) : MemoryView where
  format := "B".toList
  itemsize := 1
  shape := [data.length]
  data := data
  nbytes := by simp

/-- `len(view)`. A view without dimensions had the length 1 before Python 3.12; since then it has
none. -/
def len (scalars : Bool) (view : MemoryView) : Except Exc Nat :=
  match view.shape with
  | [] => if scalars then .ok 1 else .error { cls := .typeError }
  | items :: _ => .ok items

/-- The formats whose items a view reads, with or without `@`. -/
def nativeFormats : List Char := "?bBhHiIlLqQnNefdPc".toList

/-- `NotImplementedError`, a `RuntimeError`. -/
def notImplementedError : Exc := { cls := .user 0 .runtimeError }

/-- `b" " in view`: the items are compared, which are octets for the format `c` only. -/
def containsBlank (view : MemoryView) : Except Exc Bool :=
  match view.shape with
  | [] => .error { cls := .typeError }
  | [_] =>
    match if view.format.head? = some '@' then view.format.tail else view.format with
    | [format] =>
      if format ∈ nativeFormats then .ok (decide (format = 'c' ∧ 32 ∈ view.data))
      else .error notImplementedError
    | _ => .error notImplementedError
  | _ => .error notImplementedError

/-- The items of a view of octets are numbers, none of which is a blank. -/
theorem containsBlank_ofBytes (data : Bytes) : (ofBytes data).containsBlank = .ok false := by
  have other : ¬('B' = 'c' ∧ 32 ∈ data) := fun both => absurd both.1 (by decide)
  show Except.ok (decide ('B' = 'c' ∧ 32 ∈ data)) = Except.ok false
  exact congrArg Except.ok (decide_eq_false other)

end MemoryView

/-- An argument of a command. Values of other types are refused like a `bool`. -/
inductive ViewArg (F : Type) where
  | bytes (data : Bytes)
  | str (text : Text)
  | int (value : Int)
  | float (value : F)
  | bool (value : Bool)
  | memoryview (view : MemoryView)

/-- A bytes-like object. -/
inductive BytesLike where
  | bytes (data : Bytes)
  | memoryview (view : MemoryView)

namespace BytesLike

/-- `isinstance(arg, memoryview)`. -/
def isMemoryview : BytesLike → Bool
  | .bytes _ => false
  | .memoryview _ => true

/-- `len(arg)`. -/
def len (scalars : Bool) : BytesLike → Except Exc Nat
  | .bytes data => .ok data.length
  | .memoryview view => view.len scalars

/-- What the socket sends of it: all its octets. -/
def sent : BytesLike → Chunk
  | .bytes data => .bytes data
  | .memoryview view => .memoryview view.data

/-- Octets are sent as they are. -/
@[simp] theorem sent_bytes (data : Bytes) : (bytes data).sent.data = data := rfl

end BytesLike

namespace Views

open Interruptible

variable {F : Type}

/-- `Encoder.encode`. -/
def encode (encoder : ArgEncoder F) : ViewArg F → Except Exc BytesLike
  | .bytes data => .ok (.bytes data)
  | .memoryview view => .ok (.memoryview view)
  | .bool _ => .error { cls := .dataError }
  | .int value => .ok (.bytes (decimal value))
  | .float value => .ok (.bytes (encoder.reprFloat value))
  | .str text => (encoder.encodeText text).map .bytes

/-- The literal arguments in the command name are split off. -/
def splitName : List (ViewArg F) → Except Exc (List (ViewArg F))
  | [] => .error { cls := .indexError }
  | .str text :: args => .ok ((splitBlanks (utf8 text)).map .bytes ++ args)
  | .bytes data :: args =>
    if 32 ∈ data then .ok ((splitBlanks data).map .bytes ++ args) else .ok (.bytes data :: args)
  | .memoryview view :: args =>
    match view.containsBlank with
    | .ok false => .ok (.memoryview view :: args)
    | .ok true => .error { cls := .attributeError }
    | .error e => .error e
  | _ :: _ => .error { cls := .typeError }

section Packing

variable (encoder : ArgEncoder F) (scalars : Bool) (cutoff : Int)

/-- The loop over the arguments with its locals `buff` and `output`. -/
def packArgs : List (ViewArg F) → Bytes → List BytesLike → Except Exc (List BytesLike)
  | [], buff, output => .ok (output ++ [.bytes buff])
  | value :: values, buff, output => do
    let arg ← encode encoder value
    let length ← arg.len scalars
    if buff.length > cutoff ∨ length > cutoff ∨ arg.isMemoryview then
      packArgs values crlf (output ++ [.bytes (buff ++ bulkHeader length), arg])
    else packArgs values (buff ++ bulkHeader length ++ arg.sent.data ++ crlf) output

/-- `PythonRespSerializer.pack`. -/
def pack (args : List (ViewArg F)) : Except Exc (List BytesLike) := do
  let args ← splitName args
  packArgs encoder scalars cutoff args (arrayHeader args.length) []

/-- The locals of `pack_commands`. -/
structure Gathered where
  /-- `output`. -/
  output : List BytesLike
  /-- `pieces`. -/
  pieces : List BytesLike
  /-- `buffer_length`. -/
  bufferLength : Int

/-- `if pieces: output.append(SYM_EMPTY.join(pieces))`. -/
def Gathered.flush (g : Gathered) : List BytesLike :=
  if g.pieces.isEmpty then g.output
  else g.output ++ [.bytes (g.pieces.flatMap fun piece => piece.sent.data)]

/-- The body of the inner loop. -/
def Gathered.add (g : Gathered) (chunk : BytesLike) : Except Exc Gathered := do
  let length ← chunk.len scalars
  let g :=
    if g.bufferLength > cutoff ∨ length > cutoff ∨ chunk.isMemoryview then
      { output := g.flush, pieces := [], bufferLength := 0 }
    else g
  if length > cutoff ∨ chunk.isMemoryview then pure { g with output := g.output ++ [chunk] }
  else pure { g with pieces := g.pieces ++ [chunk], bufferLength := g.bufferLength + length }

/-- The loop over the commands. -/
def gatherCommands : List (List (ViewArg F)) → Gathered → Except Exc Gathered
  | [], g => .ok g
  | cmd :: commands, g => do
    let chunks ← pack encoder scalars cutoff cmd
    let g ← chunks.foldlM (Gathered.add scalars cutoff) g
    gatherCommands commands g

/-- `pack_commands`. -/
def packCommands (commands : List (List (ViewArg F))) : Except Exc (List BytesLike) := do
  let g ← gatherCommands encoder scalars cutoff commands
    { output := [], pieces := [], bufferLength := 0 }
  pure g.flush

end Packing

/-! ## The law -/

/-- What the socket sends. -/
def wired (packed : Except Exc (List BytesLike)) : Except Exc (List Chunk) :=
  packed.map (List.map BytesLike.sent)

section Law

variable (encoder : ArgEncoder F) (scalars : Bool)

/-- The length that is written for an argument, and its octets. -/
def measured (arg : ViewArg F) : Option (Nat × Bytes) := do
  let encoded ← (encode encoder arg).toOption
  let length ← (encoded.len scalars).toOption
  some (length, encoded.sent.data)

/-- The octets of the arguments that a command stands for, where all of them have some. -/
def words (cmd : List (ViewArg F)) : Option (List Bytes) := do
  let args ← (splitName cmd).toOption
  args.mapM fun arg => (measured encoder scalars arg).map (·.2)

/-- The length of every view of a command is the number of its octets. -/
def Fits (cmd : List (ViewArg F)) : Prop :=
  ∀ view, .memoryview view ∈ cmd → ∀ length, view.len scalars = .ok length →
    length = view.data.length

end Law

/-! ## Frames -/

/-- One argument on the wire: the length written for it, and its octets. -/
def frame (argument : Nat × Bytes) : Bytes := bulkHeader argument.1 ++ argument.2 ++ crlf

/-- A command on the wire. -/
def frames (arguments : List (Nat × Bytes)) : Bytes :=
  arrayHeader arguments.length ++ arguments.flatMap frame

/-- Every length is that of its octets. -/
def Sized (arguments : List (Nat × Bytes)) : Prop := ∀ argument ∈ arguments, argument.1 = argument.2.length

/-- The length and what follows can be read off a header. -/
theorem bulkHeader_inj {length other : Nat} {rest later : Bytes}
    (same : bulkHeader length ++ rest = bulkHeader other ++ later) :
    length = other ∧ rest = later := by
  have header (n : Nat) : bulkHeader n = 36 :: (decimalNat n ++ crlf) := by
    simp [bulkHeader, ascii]
  have first := readHeader_recovers 36 (by decide) length rest
  have second := readHeader_recovers 36 (by decide) other later
  rw [header, header] at same
  rw [same, second] at first
  have pair := Option.some.inj first
  exact ⟨(congrArg Prod.fst pair).symm, (congrArg Prod.snd pair).symm⟩

/-- Arguments are on the wire as bulk strings if and only if their lengths are those of their
octets. -/
theorem flatMap_frame_iff {arguments : List (Nat × Bytes)} {rest later : Bytes} :
    arguments.flatMap frame ++ rest = (arguments.map (·.2)).flatMap bulkString ++ later ↔
      Sized arguments ∧ rest = later := by
  induction arguments with
  | nil => simp [Sized]
  | cons argument arguments ih =>
    have sized : Sized (argument :: arguments) ↔
        argument.1 = argument.2.length ∧ Sized arguments := by simp [Sized]
    rw [sized, and_assoc, ← ih, List.flatMap_cons, List.map_cons, List.flatMap_cons, frame, bulkString]
    simp only [List.append_assoc]
    constructor
    · intro same
      obtain ⟨length, tail⟩ := bulkHeader_inj same
      exact ⟨length, List.append_cancel_left (List.append_cancel_left tail)⟩
    · rintro ⟨length, tail⟩
      rw [length, tail]

/-- Commands are on the wire as arrays of bulk strings if and only if all lengths are those of the
octets. -/
theorem flatMap_frames_iff {commands : List (List (Nat × Bytes))} :
    commands.flatMap frames = (commands.map fun arguments => arguments.map (·.2)).flatMap respArray ↔
      ∀ arguments ∈ commands, Sized arguments := by
  induction commands with
  | nil => simp
  | cons arguments commands ih =>
    rw [List.forall_mem_cons, ← ih, List.flatMap_cons, List.map_cons, List.flatMap_cons, frames,
      respArray, List.length_map, List.append_assoc, List.append_assoc, List.append_cancel_left_eq]
    exact flatMap_frame_iff

/-! ## One command -/

section Commands

variable (encoder : ArgEncoder F) (scalars : Bool) (cutoff : Int)

/-- Chunks that have a length. -/
def Measurable (chunks : List BytesLike) : Prop := ∀ chunk ∈ chunks, ∃ length, chunk.len scalars = .ok length

/-- An argument that can be measured is encoded and has a length. -/
theorem measured_eq_some {arg : ViewArg F} {argument : Nat × Bytes}
    (measure : measured encoder scalars arg = some argument) :
    ∃ encoded, encode encoder arg = .ok encoded ∧ encoded.len scalars = .ok argument.1 ∧
      encoded.sent.data = argument.2 := by
  unfold measured at measure
  cases encoded : encode encoder arg with
  | error e => simp [encoded, Except.toOption] at measure
  | ok chunk =>
    cases length : chunk.len scalars with
    | error e => simp [encoded, length, Except.toOption] at measure
    | ok count =>
      have pair : (count, chunk.sent.data) = argument := by
        simpa [encoded, length, Except.toOption] using measure
      rw [← pair]
      exact ⟨chunk, rfl, length, rfl⟩

/-- An argument that cannot be measured ends the loop. -/
theorem packArgs_of_unmeasured {arg : ViewArg F} (measure : measured encoder scalars arg = none)
    (args : List (ViewArg F)) (buff : Bytes) (output : List BytesLike) :
    ∃ e, packArgs encoder scalars cutoff (arg :: args) buff output = .error e := by
  unfold measured at measure
  rw [packArgs]
  cases encoded : encode encoder arg with
  | error e => exact ⟨e, rfl⟩
  | ok chunk =>
    cases length : chunk.len scalars with
    | error e =>
      simp only [ok_bind, length]
      exact ⟨e, rfl⟩
    | ok count => simp [encoded, length, Except.toOption] at measure

/-- However the loop cuts, its chunks put the buffer and the arguments on the wire. -/
theorem packArgs_ok {args : List (ViewArg F)} {arguments : List (Nat × Bytes)}
    (measures : args.mapM (measured encoder scalars) = some arguments) (buff : Bytes)
    {output : List BytesLike} (ready : Measurable scalars output) :
    ∃ chunks, packArgs encoder scalars cutoff args buff output = .ok chunks ∧
      Measurable scalars chunks ∧
        stream (chunks.map BytesLike.sent) =
          stream (output.map BytesLike.sent) ++ buff ++ arguments.flatMap frame := by
  induction args generalizing arguments buff output with
  | nil =>
    have none : arguments = [] := by simpa [eq_comm] using measures
    refine ⟨_, rfl, ?_, ?_⟩
    · intro chunk member
      rcases List.mem_append.mp member with before | last
      · exact ready chunk before
      · rw [List.mem_singleton.mp last]
        exact ⟨_, rfl⟩
    · simp [none, stream, BytesLike.sent, Chunk.data]
  | cons arg args ih =>
    cases measure : measured encoder scalars arg with
    | none => simp [measure] at measures
    | some argument =>
      cases others : args.mapM (measured encoder scalars) with
      | none => simp [measure, others] at measures
      | some rest =>
        have pair : arguments = argument :: rest := by
          simpa [measure, others, eq_comm] using measures
        obtain ⟨chunk, encoded, length, data⟩ := measured_eq_some encoder scalars measure
        rw [packArgs, encoded]
        simp only [ok_bind, length]
        split
        · have more : Measurable scalars
              (output ++ [.bytes (buff ++ bulkHeader argument.1), chunk]) := by
            intro other member
            simp only [List.mem_append, List.mem_cons, List.not_mem_nil, or_false] at member
            rcases member with before | rfl | rfl
            · exact ready other before
            · exact ⟨_, rfl⟩
            · exact ⟨_, length⟩
          obtain ⟨chunks, packed, measurable, wire⟩ := ih others crlf more
          refine ⟨chunks, packed, measurable, ?_⟩
          rw [wire, pair]
          simp [stream, frame, data]
        · obtain ⟨chunks, packed, measurable, wire⟩ :=
            ih others (buff ++ bulkHeader argument.1 ++ chunk.sent.data ++ crlf) ready
          refine ⟨chunks, packed, measurable, ?_⟩
          rw [wire, pair, data]
          simp [frame]

/-- Where an argument cannot be measured, packing raises. -/
theorem packArgs_error {args : List (ViewArg F)}
    (measures : args.mapM (measured encoder scalars) = none) (buff : Bytes)
    (output : List BytesLike) : ∃ e, packArgs encoder scalars cutoff args buff output = .error e := by
  induction args generalizing buff output with
  | nil => simp at measures
  | cons arg args ih =>
    cases measure : measured encoder scalars arg with
    | none => exact packArgs_of_unmeasured encoder scalars cutoff measure args buff output
    | some argument =>
      cases others : args.mapM (measured encoder scalars) with
      | some rest => simp [measure, others] at measures
      | none =>
        obtain ⟨chunk, encoded, length, _⟩ := measured_eq_some encoder scalars measure
        rw [packArgs, encoded]
        simp only [ok_bind, length]
        split
        · exact ih others _ _
        · exact ih others _ _

/-- The arguments of a command with their lengths, where it can be packed. -/
def sizes (cmd : List (ViewArg F)) : Option (List (Nat × Bytes)) := do
  let args ← (splitName cmd).toOption
  args.mapM (measured encoder scalars)

/-- The words of a command are the octets of its arguments. -/
theorem words_eq (cmd : List (ViewArg F)) :
    words encoder scalars cmd = (sizes encoder scalars cmd).map (List.map (·.2)) := by
  unfold words sizes
  cases splitName cmd with
  | error e => rfl
  | ok args =>
    show (args.mapM fun arg => (measured encoder scalars arg).map (·.2)) =
      (args.mapM (measured encoder scalars)).map (List.map (·.2))
    induction args with
    | nil => rfl
    | cons arg args ih =>
      rw [List.mapM_cons, List.mapM_cons, ih]
      cases measured encoder scalars arg with
      | none => rfl
      | some argument => cases args.mapM (measured encoder scalars) <;> rfl

/-- A command is packed as its frame. -/
theorem pack_ok {cmd : List (ViewArg F)} {arguments : List (Nat × Bytes)}
    (measures : sizes encoder scalars cmd = some arguments) :
    ∃ chunks, pack encoder scalars cutoff cmd = .ok chunks ∧ Measurable scalars chunks ∧
      stream (chunks.map BytesLike.sent) = frames arguments := by
  unfold sizes at measures
  unfold pack
  cases split : splitName cmd with
  | error e => simp [split, Except.toOption] at measures
  | ok args =>
    have all : args.mapM (measured encoder scalars) = some arguments := by
      simpa [split, Except.toOption] using measures
    have count : arguments.length = args.length := by
      have lengths := congrArg List.length (Holes.mapM_eq_some_iff.mp all)
      simpa using lengths.symm
    have none : Measurable scalars [] := fun chunk member => by cases member
    obtain ⟨chunks, packed, measurable, wire⟩ :=
      packArgs_ok encoder scalars cutoff all (arrayHeader args.length) none
    refine ⟨chunks, packed, measurable, ?_⟩
    rw [wire, frames, count]
    simp [stream]

/-- A command that cannot be packed is refused. -/
theorem pack_error {cmd : List (ViewArg F)} (measures : sizes encoder scalars cmd = none) :
    ∃ e, pack encoder scalars cutoff cmd = .error e := by
  unfold sizes at measures
  unfold pack
  cases split : splitName cmd with
  | error e => exact ⟨e, rfl⟩
  | ok args =>
    have all : args.mapM (measured encoder scalars) = none := by
      simpa [split, Except.toOption] using measures
    exact packArgs_error encoder scalars cutoff all (arrayHeader args.length) []

/-! ## Many commands -/

/-- What is on its way to the wire. -/
def Gathered.wire (g : Gathered) : Bytes :=
  stream (g.output.map BytesLike.sent) ++ stream (g.pieces.map BytesLike.sent)

/-- Flushing loses nothing. -/
theorem Gathered.stream_flush (g : Gathered) : stream (g.flush.map BytesLike.sent) = g.wire := by
  unfold flush wire
  cases pieces : g.pieces with
  | nil => simp [stream]
  | cons piece pieces => simp [stream, BytesLike.sent, Chunk.data, List.flatMap_map]

/-- A chunk is added behind everything else. -/
theorem Gathered.add_ok (g : Gathered) {chunk : BytesLike} {length : Nat}
    (measure : chunk.len scalars = .ok length) :
    ∃ added, g.add scalars cutoff chunk = .ok added ∧ added.wire = g.wire ++ chunk.sent.data := by
  have direct (h : Gathered) (clear : h.pieces = []) :
      wire { h with output := h.output ++ [chunk] } = h.wire ++ chunk.sent.data := by
    simp [wire, clear, stream]
  have later (h : Gathered) (count : Int) :
      wire { h with pieces := h.pieces ++ [chunk], bufferLength := count } =
        h.wire ++ chunk.sent.data := by
    simp [wire, stream]
  have flushed : wire { output := g.flush, pieces := [], bufferLength := 0 } = g.wire := by
    have all := stream_flush g
    simpa [wire, stream] using all
  unfold add
  simp only [measure, ok_bind]
  by_cases large : (length : Int) > cutoff ∨ chunk.isMemoryview
  · have cut : g.bufferLength > cutoff ∨ (length : Int) > cutoff ∨ chunk.isMemoryview := .inr large
    simp only [if_pos cut, if_pos large]
    refine ⟨_, rfl, ?_⟩
    rw [← flushed]
    exact direct { output := g.flush, pieces := [], bufferLength := 0 } rfl
  · by_cases cut : g.bufferLength > cutoff ∨ (length : Int) > cutoff ∨ chunk.isMemoryview
    · simp only [if_pos cut, if_neg large]
      refine ⟨_, rfl, ?_⟩
      rw [← flushed]
      exact later { output := g.flush, pieces := [], bufferLength := 0 } _
    · simp only [if_neg cut, if_neg large]
      exact ⟨_, rfl, later g _⟩

/-- Chunks are added in order. -/
theorem Gathered.foldlM_ok {chunks : List BytesLike} (measurable : Measurable scalars chunks)
    (g : Gathered) :
    ∃ added, chunks.foldlM (Gathered.add scalars cutoff) g = .ok added ∧
      added.wire = g.wire ++ stream (chunks.map BytesLike.sent) := by
  induction chunks generalizing g with
  | nil => exact ⟨g, rfl, by simp [stream]⟩
  | cons chunk chunks ih =>
    obtain ⟨length, measure⟩ := measurable chunk List.mem_cons_self
    obtain ⟨first, added, wire⟩ := g.add_ok scalars cutoff measure
    obtain ⟨last, rest, all⟩ :=
      ih (fun other member => measurable other (List.mem_cons_of_mem chunk member)) first
    refine ⟨last, ?_, ?_⟩
    · rw [List.foldlM_cons, added]
      exact rest
    · rw [all, wire]
      simp [stream]

/-- Commands are gathered frame by frame. -/
theorem gatherCommands_ok {commands : List (List (ViewArg F))}
    {lists : List (List (Nat × Bytes))}
    (measures : commands.mapM (sizes encoder scalars) = some lists) (g : Gathered) :
    ∃ gathered, gatherCommands encoder scalars cutoff commands g = .ok gathered ∧
      gathered.wire = g.wire ++ lists.flatMap frames := by
  rw [Holes.mapM_eq_some_iff] at measures
  induction commands generalizing lists g with
  | nil =>
    have none : lists = [] := List.map_eq_nil_iff.mp measures.symm
    exact ⟨g, rfl, by simp [none]⟩
  | cons cmd commands ih =>
    cases lists with
    | nil => simp at measures
    | cons arguments lists =>
      obtain ⟨first, others⟩ := List.cons.inj measures
      obtain ⟨chunks, packed, measurable, wire⟩ := pack_ok encoder scalars cutoff first
      obtain ⟨added, adds, more⟩ := Gathered.foldlM_ok scalars cutoff measurable g
      obtain ⟨gathered, rest, all⟩ := ih others added
      refine ⟨gathered, ?_, ?_⟩
      · rw [gatherCommands, packed]
        simp only [ok_bind, adds]
        exact rest
      · rw [all, more, wire]
        simp

/-- Where a command cannot be packed, none is. -/
theorem gatherCommands_error {commands : List (List (ViewArg F))}
    (measures : commands.mapM (sizes encoder scalars) = none) (g : Gathered) :
    ∃ e, gatherCommands encoder scalars cutoff commands g = .error e := by
  induction commands generalizing g with
  | nil => simp at measures
  | cons cmd commands ih =>
    rw [gatherCommands]
    cases first : sizes encoder scalars cmd with
    | none =>
      obtain ⟨e, refused⟩ := pack_error encoder scalars cutoff first
      exact ⟨e, by rw [refused]; rfl⟩
    | some arguments =>
      have others : commands.mapM (sizes encoder scalars) = none := by
        cases rest : commands.mapM (sizes encoder scalars) with
        | none => rfl
        | some lists => simp [first, rest] at measures
      obtain ⟨chunks, packed, measurable, _⟩ := pack_ok encoder scalars cutoff first
      obtain ⟨added, adds, _⟩ := Gathered.foldlM_ok scalars cutoff measurable g
      rw [packed]
      simp only [ok_bind, adds]
      exact ih others added

/-! ## Which commands are framed rightly -/

/-- The views of a command are those among its arguments. -/
theorem mem_splitName {cmd args : List (ViewArg F)} (split : splitName cmd = .ok args)
    (view : MemoryView) : .memoryview view ∈ args ↔ .memoryview view ∈ cmd := by
  unfold splitName at split
  split at split
  · cases split
  · cases split
    simp
  · split at split
    · cases split
      simp
    · cases split
      exact Iff.rfl
  · split at split
    · cases split
      exact Iff.rfl
    · cases split
    · cases split
  · cases split

/-- The lengths of a command are those of its octets if and only if its views fit. -/
theorem sized_iff_fits {cmd : List (ViewArg F)} {arguments : List (Nat × Bytes)}
    (measures : sizes encoder scalars cmd = some arguments) :
    Sized arguments ↔ Fits scalars cmd := by
  unfold sizes at measures
  cases split : splitName cmd with
  | error e => simp [split, Except.toOption] at measures
  | ok args =>
    have all : args.map (measured encoder scalars) = arguments.map some := by
      apply Holes.mapM_eq_some_iff.mp
      simpa [split, Except.toOption] using measures
    constructor
    · intro sized view member length measure
      have among := (mem_splitName split view).mpr member
      have known : measured encoder scalars (.memoryview view) = some (length, view.data) := by
        simp [measured, encode, BytesLike.len, BytesLike.sent, Chunk.data, Except.toOption, measure]
      have stored : some (length, view.data) ∈ arguments.map some := by
        rw [← all, ← known]
        exact List.mem_map_of_mem among
      obtain ⟨argument, listed, same⟩ := List.mem_map.mp stored
      have fits := sized argument listed
      cases same
      exact fits
    · intro fits argument listed
      have stored : some argument ∈ args.map (measured encoder scalars) := by
        rw [all]
        exact List.mem_map_of_mem listed
      obtain ⟨arg, among, measure⟩ := List.mem_map.mp stored
      obtain ⟨chunk, encoded, length, data⟩ := measured_eq_some encoder scalars measure
      cases chunk with
      | bytes octets =>
        cases data
        exact (Except.ok.inj length).symm
      | memoryview view =>
        have is : arg = .memoryview view := by
          cases arg with
          | memoryview other =>
            cases encoded
            rfl
          | str text =>
            simp only [encode] at encoded
            cases found : encoder.encodeText text <;> simp [found, Except.map] at encoded
          | _ => simp [encode] at encoded
        have member := (mem_splitName split view).mp (is ▸ among)
        have exact := fits view member argument.1 length
        rw [exact, ← data]
        rfl

/-- The lengths of all commands are those of their octets if and only if all views fit. -/
theorem all_sized_iff_fits {commands : List (List (ViewArg F))}
    {lists : List (List (Nat × Bytes))}
    (measures : commands.map (sizes encoder scalars) = lists.map some) :
    (∀ arguments ∈ lists, Sized arguments) ↔ ∀ cmd ∈ commands, Fits scalars cmd := by
  induction commands generalizing lists with
  | nil =>
    have none : lists = [] := List.map_eq_nil_iff.mp measures.symm
    simp [none]
  | cons cmd commands ih =>
    cases lists with
    | nil => simp at measures
    | cons arguments lists =>
      obtain ⟨first, others⟩ := List.cons.inj measures
      have rest := ih others
      rw [List.forall_mem_cons, List.forall_mem_cons, rest, sized_iff_fits encoder scalars first]

/-- Right frames are read back. -/
theorem carries_iff {packed : Except Exc (List BytesLike)} {lists : List (List (Nat × Bytes))}
    {chunks : List BytesLike} (done : packed = .ok chunks)
    (wire : stream (chunks.map BytesLike.sent) = lists.flatMap frames) :
    Carries (wired packed) (some (lists.map fun arguments => arguments.map (·.2))) ↔
      ∀ arguments ∈ lists, Sized arguments := by
  rw [← flatMap_frames_iff, ← wire]
  constructor
  · rintro ⟨others, sent, same, _⟩
    rw [done] at sent
    cases sent
    exact same
  · intro same
    apply carries_some
    exact ⟨chunks.map BytesLike.sent, by rw [done]; rfl, same⟩

/-- What raises carries nothing. -/
theorem carries_none {packed : Except Exc (List BytesLike)} (refused : ∃ e, packed = .error e) :
    Carries (wired packed) none := by
  obtain ⟨e, rfl⟩ := refused
  exact ⟨e, rfl⟩

/-- A command is put on the wire as the array of its octets if and only if its views fit, where it
can be packed at all. -/
theorem pack_carries_iff (cmd : List (ViewArg F)) :
    Carries (wired (pack encoder scalars cutoff cmd))
        ((words encoder scalars cmd).map fun words => [words]) ↔
      (words encoder scalars cmd ≠ none → Fits scalars cmd) := by
  rw [words_eq]
  cases measures : sizes encoder scalars cmd with
  | none =>
    have refused := carries_none (pack_error encoder scalars cutoff measures)
    simpa using refused
  | some arguments =>
    obtain ⟨chunks, packed, _, wire⟩ := pack_ok encoder scalars cutoff measures
    have one : stream (chunks.map BytesLike.sent) = [arguments].flatMap frames := by
      simpa using wire
    have carries := carries_iff packed one
    simpa [sized_iff_fits encoder scalars measures] using carries

/-- Commands are put on the wire as the arrays of their octets if and only if all their views fit,
where they can be packed at all. -/
theorem packCommands_carries_iff (commands : List (List (ViewArg F))) :
    Carries (wired (packCommands encoder scalars cutoff commands))
        (commands.mapM (words encoder scalars)) ↔
      (commands.mapM (words encoder scalars) ≠ none → ∀ cmd ∈ commands, Fits scalars cmd) := by
  have all : commands.mapM (words encoder scalars) =
      (commands.mapM (sizes encoder scalars)).map
        (List.map fun arguments => arguments.map (·.2)) := by
    induction commands with
    | nil => rfl
    | cons cmd commands ih =>
      rw [List.mapM_cons, List.mapM_cons, ih, words_eq]
      cases sizes encoder scalars cmd with
      | none => rfl
      | some arguments => cases commands.mapM (sizes encoder scalars) <;> rfl
  rw [all]
  cases measures : commands.mapM (sizes encoder scalars) with
  | none =>
    obtain ⟨e, refused⟩ := gatherCommands_error encoder scalars cutoff measures
      { output := [], pieces := [], bufferLength := 0 }
    have none : Carries (wired (packCommands encoder scalars cutoff commands)) none :=
      carries_none ⟨e, by rw [packCommands, refused]; rfl⟩
    simpa using none
  | some lists =>
    obtain ⟨gathered, done, wire⟩ := gatherCommands_ok encoder scalars cutoff measures
      { output := [], pieces := [], bufferLength := 0 }
    have packed : packCommands encoder scalars cutoff commands = .ok gathered.flush := by
      rw [packCommands, done]
      rfl
    have sent : stream (gathered.flush.map BytesLike.sent) = lists.flatMap frames := by
      rw [Gathered.stream_flush, wire]
      simp [Gathered.wire, stream]
    have carries := carries_iff packed sent
    have fits := all_sized_iff_fits encoder scalars (Holes.mapM_eq_some_iff.mp measures)
    simpa [fits] using carries

/-- Commands with memoryviews of any format and shape are framed rightly, one by one and in any
sequence, if and only if the length of each view is the number of its octets. -/
theorem framed_iff_fits (encoder : ArgEncoder F) (scalars : Bool) (cutoff : Int)
    (cmd : List (ViewArg F)) (commands : List (List (ViewArg F))) :
    (Carries (wired (pack encoder scalars cutoff cmd))
        ((words encoder scalars cmd).map fun words => [words]) ↔
      (words encoder scalars cmd ≠ none → Fits scalars cmd)) ∧
    (Carries (wired (packCommands encoder scalars cutoff commands))
        (commands.mapM (words encoder scalars)) ↔
      (commands.mapM (words encoder scalars) ≠ none → ∀ cmd ∈ commands, Fits scalars cmd)) :=
  ⟨pack_carries_iff encoder scalars cutoff cmd, packCommands_carries_iff encoder scalars cutoff commands⟩

end Commands

/-! ## Views of octets -/

/-- An argument whose memoryview, if it is one, is of octets. -/
def ofArg : Arg F → ViewArg F
  | .bytes data => .bytes data
  | .str text => .str text
  | .int value => .int value
  | .float value => .float value
  | .memoryview data => .memoryview (.ofBytes data)

section Octets

variable (encoder : ArgEncoder F) (scalars : Bool) (cutoff : Int)

/-- Such an argument is encoded as before, and its length is that of its octets. -/
theorem encode_ofArg (arg : Arg F) :
    (∃ e, encode encoder (ofArg arg) = .error e ∧ encoder.encode arg = .error e) ∨
      ∃ chunk, encode encoder (ofArg arg) = .ok chunk ∧ encoder.encode arg = .ok chunk.sent ∧
        chunk.len scalars = .ok chunk.sent.data.length ∧
          chunk.isMemoryview = chunk.sent.isMemoryview := by
  cases arg with
  | str text =>
    rw [ofArg, encode, ArgEncoder.encode]
    cases encoder.encodeText text with
    | error e => exact .inl ⟨e, rfl, rfl⟩
    | ok data => exact .inr ⟨.bytes data, rfl, rfl, rfl, rfl⟩
  | memoryview data => exact .inr ⟨.memoryview (.ofBytes data), rfl, rfl, rfl, rfl⟩
  | bytes data => exact .inr ⟨.bytes data, rfl, rfl, rfl, rfl⟩
  | int value => exact .inr ⟨.bytes _, rfl, rfl, rfl, rfl⟩
  | float value => exact .inr ⟨.bytes _, rfl, rfl, rfl, rfl⟩

/-- The loop over such arguments cuts as before. -/
theorem packArgs_ofArg (args : List (Arg F)) (buff : Bytes) (output : List BytesLike) :
    wired (packArgs encoder scalars cutoff (args.map ofArg) buff output) =
      (args.mapM encoder.encode).map fun encoded =>
        RedisPy.packArgs cutoff encoded buff (output.map BytesLike.sent) := by
  induction args generalizing buff output with
  | nil =>
    simp [packArgs, wired, RedisPy.packArgs, Except.map, BytesLike.sent, pure, Except.pure]
  | cons arg args ih =>
    rw [List.map_cons, List.mapM_cons, packArgs]
    rcases encode_ofArg encoder scalars arg with
      ⟨e, refused, before⟩ | ⟨chunk, encoded, before, length, view⟩
    · rw [refused, before]
      rfl
    · rw [encoded, before]
      simp only [ok_bind, length]
      have cut : ∀ rest, RedisPy.packArgs cutoff (chunk.sent :: rest) buff (output.map BytesLike.sent) =
          if buff.length > cutoff ∨ (chunk.sent.data.length : Int) > cutoff ∨ chunk.isMemoryview then
            RedisPy.packArgs cutoff rest crlf
              ((output ++ [.bytes (buff ++ bulkHeader chunk.sent.data.length), chunk]).map
                BytesLike.sent)
          else RedisPy.packArgs cutoff rest
            (buff ++ bulkHeader chunk.sent.data.length ++ chunk.sent.data ++ crlf)
            (output.map BytesLike.sent) := by
        intro rest
        rw [RedisPy.packArgs, view, List.map_append]
        rfl
      split
      · next large =>
        rw [ih]
        cases args.mapM encoder.encode with
        | error e => rfl
        | ok rest =>
          have same := (cut rest).trans (if_pos large)
          exact congrArg Except.ok same.symm
      · next small =>
        rw [ih]
        cases args.mapM encoder.encode with
        | error e => rfl
        | ok rest =>
          have same := (cut rest).trans (if_neg small)
          exact congrArg Except.ok same.symm

/-- A view of octets as the command name contains no blank that would be found. -/
theorem splitName_ofArg (cmd : List (Arg F)) :
    splitName (cmd.map ofArg) = (RedisPy.splitName .sync cmd).map (List.map ofArg) := by
  cases cmd with
  | nil => rfl
  | cons name args =>
    cases name with
    | str text =>
      simp [splitName, RedisPy.splitName, ofArg, Except.map]
    | bytes data =>
      by_cases spaced : 32 ∈ data <;>
        simp [splitName, RedisPy.splitName, ofArg, Except.map, spaced]
    | memoryview data =>
      have blank := MemoryView.containsBlank_ofBytes data
      simp only [splitName, RedisPy.splitName, ofArg, Except.map, List.map_cons, blank]
    | int value => rfl
    | float value => rfl

/-- Commands whose memoryviews are of octets are packed as before. -/
theorem pack_ofArg (cmd : List (Arg F)) :
    wired (pack encoder scalars cutoff (cmd.map ofArg)) =
      PythonRespSerializer.pack encoder cutoff cmd := by
  rw [pack, splitName_ofArg, PythonRespSerializer.pack, packWith]
  cases RedisPy.splitName .sync cmd with
  | error e => rfl
  | ok args =>
    show wired (packArgs encoder scalars cutoff (args.map ofArg)
      (arrayHeader (args.map ofArg).length) []) = _
    rw [packArgs_ofArg, List.length_map, List.map_nil]
    simp only [ok_bind]
    cases args.mapM encoder.encode <;> rfl

end Octets

/-- Two 32-bit integers. -/
def twoIntegers : MemoryView where
  format := "i".toList
  itemsize := 4
  shape := [2]
  data := [1, 0, 0, 0, 2, 0, 0, 0]
  nbytes := rfl

/-- An encoder for ASCII text. -/
def asciiEncoder : ArgEncoder Empty where
  encodeText text := .ok (utf8 text)
  reprFloat value := nomatch value

/-- The length written for a view of two integers is 2, but eight octets are sent. -/
theorem two_integers_misframed :
    ¬Carries (wired (pack asciiEncoder false 6000
        [.bytes (ascii "SET"), .bytes (ascii "k"), .memoryview twoIntegers]))
      ((words asciiEncoder false
        [.bytes (ascii "SET"), .bytes (ascii "k"), .memoryview twoIntegers]).map fun words =>
          [words]) := by
  rintro ⟨chunks, packed, wire, _⟩
  cases packed
  exact absurd wire (by decide)

end Views

end RedisPy
