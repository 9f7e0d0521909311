import RedisPy.Python.Utf8
import RedisPy.Exceptions
import RedisPy.Parsers.Base
import RedisPy.Lib.Wire

/-!
# Packing commands

How a connection turns commands into the chunks that it hands to its socket. A command is
an array of bulk strings on the wire; where the chunks are cut depends on the sizes of the
arguments, on memoryviews and on the cutoff of the buffer, and nothing else may.
-/

namespace RedisPy

variable {F : Type}

/-! ## Arguments -/

/-- An argument of a command; a memoryview is one of bytes. -/
inductive Arg (F : Type) where
  | bytes (data : Bytes)
  | str (text : Text)
  | int (value : Int)
  | float (value : F)
  | memoryview (data : Bytes)

/-- What `Encoder.encode` needs of the codec and of floats. -/
structure ArgEncoder (F : Type) where
  /-- `value.encode(self.encoding, self.encoding_errors)`. -/
  encodeText : Text → Except Exc Bytes
  /-- `repr(value).encode()` of a float. -/
  reprFloat : F → Bytes

/-- A bytes-like object: what `encode` returns, and what goes to the socket. -/
inductive Chunk where
  | bytes (data : Bytes)
  | memoryview (data : Bytes)
deriving DecidableEq

/-- The octets of a bytes-like object. -/
def Chunk.data : Chunk → Bytes
  | bytes data => data
  | memoryview data => data

/-- `isinstance(chunk, memoryview)`. -/
def Chunk.isMemoryview : Chunk → Bool
  | bytes _ => false
  | memoryview _ => true

/-- `len(chunk)`. -/
def Chunk.len (chunk : Chunk) : Int := chunk.data.length

/-- `Encoder.encode`. -/
def ArgEncoder.encode (encoder : ArgEncoder F) : Arg F → Except Exc Chunk
  | .bytes data => .ok (.bytes data)
  | .memoryview data => .ok (.memoryview data)
  | .int value => .ok (.bytes (decimal value))
  | .float value => .ok (.bytes (encoder.reprFloat value))
  | .str text => (encoder.encodeText text).map .bytes

/-- The blanks of `bytes.split()`. -/
def isBlank (byte : UInt8) : Bool := byte = 32 || (9 ≤ byte && byte ≤ 13)

/-- `data.split()`. -/
def splitBlanks (data : Bytes) : List Bytes := (data.splitOnP isBlank).filter (· ≠ [])

/-! ## Packing -/

/-- The packers of the two connection classes. -/
inductive Packer where
  /-- `PythonRespSerializer.pack`. -/
  | sync
  /-- The asyncio `pack_command`, which first asserts that the name is no float. -/
  | async
deriving DecidableEq

/-- The literal arguments in the command name are split off. -/
def splitName (packer : Packer) : List (Arg F) → Except Exc (List (Arg F))
  | [] => .error { cls := .indexError }
  | .str text :: args => .ok ((splitBlanks (utf8 text)).map .bytes ++ args)
  | .bytes data :: args =>
    if 32 ∈ data then .ok ((splitBlanks data).map .bytes ++ args) else .ok (.bytes data :: args)
  | .memoryview data :: args => .ok (.memoryview data :: args)
  | .int _ :: _ => .error { cls := .typeError }
  | .float _ :: _ =>
    match packer with
    | .sync => .error { cls := .typeError }
    | .async => .error { cls := .assertionError }

/-- `SYM_DOLLAR, str(arg_length).encode(), SYM_CRLF`. -/
def bulkHeader (length : Nat) : Bytes := ascii "$" ++ decimalNat length ++ crlf

/-- The loop over the encoded arguments with its locals `buff` and `output`. -/
def packArgs (cutoff : Int) : List Chunk → Bytes → List Chunk → List Chunk
  | [], buff, output => output ++ [.bytes buff]
  | arg :: args, buff, output =>
    if buff.length > cutoff ∨ arg.len > cutoff ∨ arg.isMemoryview then
      packArgs cutoff args crlf
        (output ++ [.bytes (buff ++ bulkHeader arg.data.length), arg])
    else packArgs cutoff args (buff ++ bulkHeader arg.data.length ++ arg.data ++ crlf) output

/-- The start of a packed command. -/
def arrayHeader (length : Nat) : Bytes := ascii "*" ++ decimalNat length ++ crlf

/-- One command, in either class. -/
def packWith (packer : Packer) (encoder : ArgEncoder F) (cutoff : Int) (args : List (Arg F)) :
    Except Exc (List Chunk) := do
  let args ← splitName packer args
  let encoded ← args.mapM encoder.encode
  pure (packArgs cutoff encoded (arrayHeader args.length) [])

/-- `PythonRespSerializer.pack`. -/
def PythonRespSerializer.pack (encoder : ArgEncoder F) (cutoff : Int) (args : List (Arg F)) :
    Except Exc (List Chunk) :=
  packWith .sync encoder cutoff args

/-- `pack_command` of the asyncio connection. -/
def Asyncio.packCommand (encoder : ArgEncoder F) (cutoff : Int) (args : List (Arg F)) :
    Except Exc (List Chunk) :=
  packWith .async encoder cutoff args

/-- The locals of `pack_commands`. -/
structure Gathered where
  /-- `output`. -/
  output : List Chunk
  /-- `pieces`. -/
  pieces : List Chunk
  /-- `buffer_length`. -/
  bufferLength : Int

namespace Gathered

/-- `SYM_EMPTY.join(pieces)`. -/
def join (pieces : List Chunk) : Chunk := .bytes (pieces.flatMap Chunk.data)

/-- `if pieces: output.append(SYM_EMPTY.join(pieces))`. -/
def flush (g : Gathered) : List Chunk :=
  if g.pieces = [] then g.output else g.output ++ [join g.pieces]

/-- The body of the inner loop. -/
def add (cutoff : Int) (g : Gathered) (chunk : Chunk) : Gathered :=
  let g :=
    if g.bufferLength > cutoff ∨ chunk.len > cutoff ∨ chunk.isMemoryview then
      { output := g.flush, pieces := [], bufferLength := 0 }
    else g
  if chunk.len > cutoff ∨ chunk.isMemoryview then { g with output := g.output ++ [chunk] }
  else { g with pieces := g.pieces ++ [chunk], bufferLength := g.bufferLength + chunk.len }

end Gathered

/-- The loop over the commands. -/
def gatherCommands (pack : List (Arg F) → Except Exc (List Chunk)) (cutoff : Int) :
    List (List (Arg F)) → Gathered → Except Exc Gathered
  | [], g => .ok g
  | cmd :: commands, g =>
    match pack cmd with
    | .ok chunks => gatherCommands pack cutoff commands (chunks.foldl (Gathered.add cutoff) g)
    | .error e => .error e

/-- `pack_commands` of either class, around its packer of one command. -/
def packCommandsWith (packer : Packer) (encoder : ArgEncoder F) (cutoff : Int)
    (commands : List (List (Arg F))) : Except Exc (List Chunk) :=
  (gatherCommands (packWith packer encoder cutoff) cutoff commands
    { output := [], pieces := [], bufferLength := 0 }).map Gathered.flush

/-- `AbstractConnection.pack_commands`. -/
def Connection.packCommands (encoder : ArgEncoder F) (cutoff : Int)
    (commands : List (List (Arg F))) : Except Exc (List Chunk) :=
  packCommandsWith .sync encoder cutoff commands

/-- `pack_commands` of the asyncio connection. -/
def Asyncio.packCommands (encoder : ArgEncoder F) (cutoff : Int)
    (commands : List (List (Arg F))) : Except Exc (List Chunk) :=
  packCommandsWith .async encoder cutoff commands

/-- The octets that chunks put on the wire. -/
def stream (chunks : List Chunk) : Bytes := chunks.flatMap Chunk.data

/-! ## Commands on the wire -/

/-- A bulk string. -/
def bulkString (word : Bytes) : Bytes := bulkHeader word.length ++ word ++ crlf

/-- An array of bulk strings. -/
def respArray (words : List Bytes) : Bytes := arrayHeader words.length ++ words.flatMap bulkString

/-- The octets of an argument, where it has some. -/
def ArgEncoder.word (encoder : ArgEncoder F) (arg : Arg F) : Option Bytes :=
  (encoder.encode arg).toOption.map Chunk.data

/-- The argument list that a command stands for; it needs a name of text or octets, and all
its texts must have an encoding. -/
def ArgEncoder.words (encoder : ArgEncoder F) : List (Arg F) → Option (List Bytes)
  | .str text :: args => (args.mapM encoder.word).map (splitBlanks (utf8 text) ++ ·)
  | .bytes data :: args =>
    (args.mapM encoder.word).map ((if 32 ∈ data then splitBlanks data else [data]) ++ ·)
  | .memoryview data :: args => (args.mapM encoder.word).map (data :: ·)
  | _ => none

/-- Read a line. -/
def readLine : Wire.Decoder UInt8 Bytes := fun data =>
  (findCrlf data).map fun stop => (data.take stop, data.drop (stop + 2))

/-- Read a line with a mark and a number. -/
def readHeader (mark : UInt8) : Wire.Decoder UInt8 Nat :=
  Wire.andThen readLine fun line rest =>
    match line with
    | [] => none
    | first :: digits =>
      if first = mark then (intOfBytes digits).map fun length => (length.toNat, rest) else none

/-- Read a bulk string. -/
def readBulk : Wire.Decoder UInt8 Bytes :=
  Wire.andThen (readHeader 36) fun length data =>
    if crlf <+: data.drop length then some (data.take length, data.drop (length + 2)) else none

/-- Read an array of bulk strings. -/
def readArray : Wire.Decoder UInt8 (List Bytes) :=
  Wire.andThen (readHeader 42) (Wire.counted readBulk)

/-- A RESP decoder of a whole stream of commands. -/
def readCommands (data : Bytes) : Option (List (List Bytes)) :=
  Wire.untilEnd readArray data.length data

/-! ## The decoder -/

/-- A line is read up to its CRLF. -/
theorem readLine_line {line : Bytes} (plain : 10 ∉ line) (rest : Bytes) :
    readLine (line ++ crlf ++ rest) = some (line, rest) := by
  have found : findCrlf (line ++ crlf ++ rest) = some line.length := by
    rw [List.append_assoc]
    exact findCrlf_line plain rest
  have past : (line ++ crlf).length = line.length + 2 := by simp [crlf]
  rw [readLine, found, Option.map_some, ← past, List.drop_left, List.append_assoc, List.take_left]

/-- A number behind a mark is read back. -/
theorem readHeader_recovers (mark : UInt8) (visible : mark ≠ 10) :
    Wire.Recovers (readHeader mark) fun length => mark :: (decimalNat length ++ crlf) := by
  intro length rest
  have plain : 10 ∉ mark :: decimalNat length := by
    have digits : (10 : UInt8) ∉ decimalNat length := decimal_no_lf (.ofNat length)
    simp [digits, visible.symm]
  have line := readLine_line plain rest
  have number : intOfBytes (decimalNat length) = some (length : Int) := intOfBytes_decimalNat length
  simp only [List.cons_append] at line
  rw [readHeader, List.cons_append, Wire.andThen, line]
  simp only [↓reduceIte, number, Option.map_some, Int.toNat_natCast]

/-- A bulk string is read back. -/
theorem readBulk_recovers : Wire.Recovers readBulk bulkString := by
  intro word rest
  have header := Wire.andThen_append (readHeader_recovers 36 (by decide))
    (fun length data => if crlf <+: data.drop length then
      some (data.take length, data.drop (length + 2)) else none)
    word.length (word ++ crlf ++ rest)
  have shape : bulkString word ++ rest =
      36 :: (decimalNat word.length ++ crlf) ++ (word ++ crlf ++ rest) := by
    simp [bulkString, bulkHeader, ascii]
  have closed : crlf <+: (word ++ crlf ++ rest).drop word.length := by
    rw [List.append_assoc, List.drop_left]
    exact List.prefix_append crlf rest
  have past : (word ++ crlf).length = word.length + 2 := by simp [crlf]
  rw [shape, readBulk, header, if_pos closed, ← past, List.drop_left, List.append_assoc,
    List.take_left]

/-- An array of bulk strings is read back. -/
theorem readArray_recovers : Wire.Recovers readArray respArray := by
  intro words rest
  have header := Wire.andThen_append (readHeader_recovers 42 (by decide))
    (Wire.counted readBulk) words.length (words.flatMap bulkString ++ rest)
  have shape : respArray words ++ rest =
      42 :: (decimalNat words.length ++ crlf) ++ (words.flatMap bulkString ++ rest) := by
    simp [respArray, arrayHeader, ascii]
  rw [shape, readArray, header, Wire.counted_flatMap readBulk_recovers]

/-- A stream of commands is read back. -/
theorem readCommands_flatMap (lists : List (List Bytes)) :
    readCommands (lists.flatMap respArray) = some lists := by
  have some (words : List Bytes) : respArray words ≠ [] := by
    simp [respArray, arrayHeader, ascii]
  exact Wire.untilEnd_flatMap readArray_recovers some lists (Wire.length_le_flatMap some lists)

/-! ## One command -/

variable (encoder : ArgEncoder F)

/-- Chunks one behind the other put their octets one behind the other. -/
theorem stream_append (left right : List Chunk) : stream (left ++ right) = stream left ++ stream right :=
  List.flatMap_append

/-- However the loop cuts, its chunks put the buffer and the arguments on the wire. -/
theorem stream_packArgs (cutoff : Int) (args : List Chunk) (buff : Bytes) (output : List Chunk) :
    stream (packArgs cutoff args buff output) =
      stream output ++ buff ++ args.flatMap fun arg => bulkString arg.data := by
  induction args generalizing buff output with
  | nil => simp [packArgs, stream, Chunk.data]
  | cons arg args ih =>
    rw [packArgs]
    split
    · rw [ih, stream_append]
      simp [stream, Chunk.data, bulkString]
    · rw [ih]
      simp [bulkString]

/-- Arguments are encoded if and only if they all have octets. -/
theorem encode_args (args : List (Arg F)) :
    match args.mapM encoder.word with
    | some words => ∃ encoded, args.mapM encoder.encode = .ok encoded ∧
        encoded.map Chunk.data = words ∧ encoded.length = args.length
    | none => ∃ e, args.mapM encoder.encode = .error e := by
  induction args with
  | nil => exact ⟨[], rfl, rfl, rfl⟩
  | cons arg args ih =>
    rw [List.mapM_cons, List.mapM_cons]
    cases first : encoder.encode arg with
    | error e =>
      have none : encoder.word arg = .none := by simp [ArgEncoder.word, first, Except.toOption]
      rw [none]
      exact ⟨e, rfl⟩
    | ok chunk =>
      have word : encoder.word arg = some chunk.data := by
        simp [ArgEncoder.word, first, Except.toOption]
      rw [word]
      cases rest : args.mapM encoder.word with
      | none =>
        rw [rest] at ih
        obtain ⟨e, failed⟩ := ih
        exact ⟨e, by rw [failed]; rfl⟩
      | some words =>
        rw [rest] at ih
        obtain ⟨encoded, done, data, length⟩ := ih
        have more : (chunk :: encoded).length = (arg :: args).length := by
          rw [List.length_cons, List.length_cons, length]
        exact ⟨chunk :: encoded, by rw [done]; rfl, by rw [List.map_cons, data], more⟩

/-- Octets are encoded as they are. -/
theorem encode_tokens (tokens : List Bytes) (args : List (Arg F)) :
    (tokens.map Arg.bytes ++ args).mapM encoder.encode =
      (args.mapM encoder.encode).map (tokens.map Chunk.bytes ++ ·) := by
  induction tokens with
  | nil =>
    show args.mapM encoder.encode = _
    cases args.mapM encoder.encode <;> rfl
  | cons token tokens ih =>
    rw [List.map_cons, List.cons_append, List.mapM_cons, ih]
    cases args.mapM encoder.encode <;> rfl

/-- Octets and arguments are encoded in order. -/
theorem encode_split (tokens : List Bytes) (args : List (Arg F)) :
    match args.mapM encoder.word with
    | some words => ∃ encoded, (tokens.map Arg.bytes ++ args).mapM encoder.encode = .ok encoded ∧
        encoded.map Chunk.data = tokens ++ words ∧
          encoded.length = (tokens.map Arg.bytes ++ args).length
    | none => ∃ e, (tokens.map Arg.bytes ++ args).mapM encoder.encode = .error e := by
  have encoded := encode_args encoder args
  rw [encode_tokens]
  cases words : args.mapM encoder.word with
  | none =>
    rw [words] at encoded
    obtain ⟨e, failed⟩ := encoded
    exact ⟨e, by rw [failed]; rfl⟩
  | some words =>
    rw [words] at encoded
    obtain ⟨chunks, done, data, length⟩ := encoded
    have tokensData : (tokens.map Chunk.bytes).map Chunk.data = tokens := by
      simp [Function.comp_def, Chunk.data]
    exact ⟨tokens.map Chunk.bytes ++ chunks, by rw [done]; rfl,
      by rw [List.map_append, tokensData, data], by simp [length]⟩

/-- A command that was split and encoded is packed as an array of its words. -/
theorem packArgs_respArray (cutoff : Int) {args : List Chunk} {words : List Bytes}
    (data : args.map Chunk.data = words) :
    stream (packArgs cutoff args (arrayHeader args.length) []) = respArray words := by
  rw [stream_packArgs, ← data]
  simp [stream, respArray, List.flatMap_map]

/-- What becomes of commands: their words are on the wire as arrays, or packing raises. -/
def Carries (packed : Except Exc (List Chunk)) (lists : Option (List (List Bytes))) : Prop :=
  match lists with
  | some lists => ∃ chunks, packed = .ok chunks ∧ stream chunks = lists.flatMap respArray ∧
      readCommands (stream chunks) = some lists
  | none => ∃ e, packed = .error e

/-- Words on the wire can be read back. -/
theorem carries_some {packed : Except Exc (List Chunk)} {lists : List (List Bytes)}
    (written : ∃ chunks, packed = .ok chunks ∧ stream chunks = lists.flatMap respArray) :
    Carries packed (some lists) := by
  obtain ⟨chunks, done, wire⟩ := written
  exact ⟨chunks, done, wire, by rw [wire, readCommands_flatMap]⟩

/-- Packing what was split off the name. -/
theorem packWith_split {packer : Packer} (cutoff : Int) {cmd : List (Arg F)}
    (tokens : List Bytes) (args : List (Arg F)) (split : splitName packer cmd = .ok (tokens.map Arg.bytes ++ args)) :
    Carries (packWith packer encoder cutoff cmd)
      ((args.mapM encoder.word).map fun words => [tokens ++ words]) := by
  have encoded := encode_split encoder tokens args
  have packed : packWith packer encoder cutoff cmd =
      ((tokens.map Arg.bytes ++ args).mapM encoder.encode).map fun chunks =>
        packArgs cutoff chunks (arrayHeader (tokens.map Arg.bytes ++ args).length) [] := by
    rw [packWith, split]
    rfl
  rw [packed]
  cases words : args.mapM encoder.word with
  | none =>
    rw [words] at encoded
    obtain ⟨e, failed⟩ := encoded
    exact ⟨e, by rw [failed]; rfl⟩
  | some words =>
    rw [words] at encoded
    obtain ⟨chunks, done, data, length⟩ := encoded
    apply carries_some
    refine ⟨_, by rw [done]; rfl, ?_⟩
    rw [← length, packArgs_respArray cutoff data]
    simp

/-- One command is packed as the array of its words. -/
theorem packWith_carries (packer : Packer) (cutoff : Int) (cmd : List (Arg F)) :
    Carries (packWith packer encoder cutoff cmd) ((encoder.words cmd).map fun words => [words]) := by
  cases cmd with
  | nil => exact ⟨_, rfl⟩
  | cons name args =>
    cases name with
    | str text =>
      have split : splitName packer (.str text :: args) =
          .ok ((splitBlanks (utf8 text)).map Arg.bytes ++ args) := rfl
      have packed := packWith_split encoder cutoff _ _ split
      simpa [ArgEncoder.words, Function.comp_def] using packed
    | bytes data =>
      by_cases spaced : 32 ∈ data
      · have split : splitName packer (.bytes data :: args) =
            .ok ((splitBlanks data).map Arg.bytes ++ args) := if_pos spaced
        have packed := packWith_split encoder cutoff _ _ split
        simpa [ArgEncoder.words, Function.comp_def, spaced] using packed
      · have split : splitName packer (.bytes data :: args) =
            .ok ([data].map Arg.bytes ++ args) := if_neg spaced
        have packed := packWith_split encoder cutoff _ _ split
        simpa [ArgEncoder.words, Function.comp_def, spaced] using packed
    | memoryview data =>
      have split : splitName packer (.memoryview data :: args) =
          .ok (([] : List Bytes).map Arg.bytes ++ .memoryview data :: args) := rfl
      have packed := packWith_split encoder cutoff _ _ split
      have word : encoder.word (.memoryview data) = some data := rfl
      rw [List.mapM_cons, word] at packed
      cases words : args.mapM encoder.word with
      | none => simpa [ArgEncoder.words, words] using packed
      | some words => simpa [ArgEncoder.words, words] using packed
    | int value => exact ⟨_, rfl⟩
    | float value =>
      cases packer with
      | sync => exact ⟨_, rfl⟩
      | async => exact ⟨_, rfl⟩

/-! ## Many commands -/

namespace Gathered

/-- What is on its way to the wire. -/
def wire (g : Gathered) : Bytes := stream g.output ++ stream g.pieces

/-- Flushing loses nothing. -/
theorem stream_flush (g : Gathered) : stream g.flush = g.wire := by
  unfold flush wire
  by_cases empty : g.pieces = []
  · rw [if_pos empty, empty]
    simp [stream]
  · rw [if_neg empty, stream_append]
    simp [stream, join, Chunk.data]

/-- A chunk is added behind everything else. -/
theorem wire_add (cutoff : Int) (g : Gathered) (chunk : Chunk) :
    (g.add cutoff chunk).wire = g.wire ++ chunk.data := by
  have direct (h : Gathered) (clear : h.pieces = []) :
      stream (h.output ++ [chunk]) ++ stream h.pieces = h.wire ++ chunk.data := by
    rw [wire, clear, stream_append]
    simp [stream]
  have later (h : Gathered) : stream h.output ++ stream (h.pieces ++ [chunk]) = h.wire ++ chunk.data := by
    rw [wire, stream_append]
    simp [stream]
  have flushed : wire { output := g.flush, pieces := [], bufferLength := 0 } = g.wire := by
    rw [wire, stream_flush]
    simp [stream]
  unfold add
  by_cases large : chunk.len > cutoff ∨ chunk.isMemoryview
  · have cut : g.bufferLength > cutoff ∨ chunk.len > cutoff ∨ chunk.isMemoryview := .inr large
    simp only [if_pos cut, if_pos large]
    rw [← flushed]
    exact direct { output := g.flush, pieces := [], bufferLength := 0 } rfl
  · by_cases cut : g.bufferLength > cutoff ∨ chunk.len > cutoff ∨ chunk.isMemoryview
    · simp only [if_pos cut, if_neg large]
      rw [← flushed]
      exact later { output := g.flush, pieces := [], bufferLength := 0 }
    · simp only [if_neg cut, if_neg large]
      exact later g

/-- Chunks are added in order. -/
theorem wire_foldl (cutoff : Int) (chunks : List Chunk) (g : Gathered) :
    (chunks.foldl (add cutoff) g).wire = g.wire ++ stream chunks := by
  induction chunks generalizing g with
  | nil => simp [stream]
  | cons chunk chunks ih =>
    rw [List.foldl_cons, ih, wire_add]
    simp [stream]

end Gathered

/-- The loop over the commands puts their arrays behind what was there. -/
theorem gatherCommands_wire (packer : Packer) (cutoff : Int) (commands : List (List (Arg F)))
    (g : Gathered) :
    match commands.mapM encoder.words with
    | some lists => ∃ gathered,
        gatherCommands (packWith packer encoder cutoff) cutoff commands g = .ok gathered ∧
          gathered.wire = g.wire ++ lists.flatMap respArray
    | none => ∃ e, gatherCommands (packWith packer encoder cutoff) cutoff commands g = .error e := by
  induction commands generalizing g with
  | nil => exact ⟨g, rfl, by simp⟩
  | cons cmd commands ih =>
    have first := packWith_carries encoder packer cutoff cmd
    rw [List.mapM_cons, gatherCommands]
    cases words : encoder.words cmd with
    | none =>
      rw [words] at first
      obtain ⟨e, failed⟩ := first
      exact ⟨e, by rw [failed]⟩
    | some words =>
      rw [words] at first
      obtain ⟨chunks, done, wire, _⟩ := first
      have rest := ih (chunks.foldl (Gathered.add cutoff) g)
      rw [done]
      cases others : commands.mapM encoder.words with
      | none =>
        rw [others] at rest
        exact rest
      | some lists =>
        rw [others] at rest
        obtain ⟨gathered, finished, all⟩ := rest
        refine ⟨gathered, finished, ?_⟩
        rw [all, Gathered.wire_foldl, wire]
        simp

/-- Commands are packed as the arrays of their words. -/
theorem packCommandsWith_carries (packer : Packer) (cutoff : Int)
    (commands : List (List (Arg F))) :
    Carries (packCommandsWith packer encoder cutoff commands) (commands.mapM encoder.words) := by
  have gathered := gatherCommands_wire encoder packer cutoff commands
    { output := [], pieces := [], bufferLength := 0 }
  unfold packCommandsWith
  cases lists : commands.mapM encoder.words with
  | none =>
    rw [lists] at gathered
    obtain ⟨e, failed⟩ := gathered
    exact ⟨e, by rw [failed]; rfl⟩
  | some lists =>
    rw [lists] at gathered
    obtain ⟨g, done, wire⟩ := gathered
    apply carries_some
    refine ⟨g.flush, by rw [done]; rfl, ?_⟩
    rw [Gathered.stream_flush, wire]
    simp [Gathered.wire, stream]

/-- The octets of packed commands, where packing does not raise. -/
def sentBytes (packed : Except Exc (List Chunk)) : Option Bytes := packed.toOption.map stream

/-- What carries the same words sends the same octets. -/
theorem sentBytes_eq {left right : Except Exc (List Chunk)} {lists : Option (List (List Bytes))}
    (first : Carries left lists) (second : Carries right lists) : sentBytes left = sentBytes right := by
  cases lists with
  | none =>
    obtain ⟨_, rfl⟩ := first
    obtain ⟨_, rfl⟩ := second
    rfl
  | some lists =>
    obtain ⟨_, rfl, wire, _⟩ := first
    obtain ⟨_, rfl, other, _⟩ := second
    exact congrArg some (wire.trans other.symm)

end RedisPy
