import RedisPy.Client.Packing
import RedisPy.Python.Double
import Mathlib.Data.Finset.Card

/-!
# Expiry options

`SET`, `GETEX`, `HSETEX` and `HGETEX` with the options that give a key its time to live. The methods tell
how many of them are supplied by the size of a set of their values, and another function picks the one
that is sent.
-/

namespace RedisPy

variable {F δ : Type}

/-! ## Times -/

/-- `ExpiryT`: seconds or milliseconds, or a `timedelta` in microseconds. -/
inductive ExpiryT where
  | int (value : Int)
  | timedelta (micros : Int)

/-- The point in time of a `datetime`. -/
inductive Moment where
  /-- With a time zone: the microseconds since the epoch. -/
  | aware (micros : Int)
  /-- Without one: the seconds since the epoch by local time, and `microsecond`. -/
  | naive (seconds : Int) (microsecond : Nat)

/-- A `datetime`. -/
structure Datetime (δ : Type) where
  /-- What `==` and `hash` see of it. -/
  identity : δ
  moment : Moment

/-- `AbsExpiryT`: a Unix time in seconds or milliseconds, or a `datetime`. -/
inductive AbsExpiryT (δ : Type) where
  | int (value : Int)
  | datetime (value : Datetime δ)

/-- The microseconds since the epoch. -/
def Moment.micros : Moment → Int
  | aware micros => micros
  | naive seconds microsecond => seconds * 1000000 + microsecond

/-- `timedelta.total_seconds()`. -/
def totalSeconds (micros : Int) : ℚ := Double.nearest (micros / 1000000)

/-- `datetime.timestamp()`. -/
def Moment.timestamp : Moment → ℚ
  | aware micros => totalSeconds micros
  | naive seconds microsecond => Double.nearest (seconds + Double.nearest (microsecond / 1000000))

/-- The time options of a call. -/
structure ExpiryOptions (δ : Type) where
  ex : Option ExpiryT
  px : Option ExpiryT
  exat : Option (AbsExpiryT δ)
  pxat : Option (AbsExpiryT δ)

/-- `extract_expire_flags`. -/
def extractExpireFlags (options : ExpiryOptions δ) : List (Arg F) :=
  match options.ex, options.px, options.exat, options.pxat with
  | some (.timedelta micros), _, _, _ => [.str "EX".toList, .int (Double.toInt (totalSeconds micros))]
  | some (.int value), _, _, _ => [.str "EX".toList, .int value]
  | none, some (.timedelta micros), _, _ =>
    [.str "PX".toList, .int (Double.toInt (Double.nearest (totalSeconds micros * 1000)))]
  | none, some (.int value), _, _ => [.str "PX".toList, .int value]
  | none, none, some (.datetime value), _ =>
    [.str "EXAT".toList, .int (Double.toInt value.moment.timestamp)]
  | none, none, some (.int value), _ => [.str "EXAT".toList, .int value]
  | none, none, none, some (.datetime value) =>
    [.str "PXAT".toList, .int (Double.toInt (Double.nearest (value.moment.timestamp * 1000)))]
  | none, none, none, some (.int value) => [.str "PXAT".toList, .int value]
  | none, none, none, none => []

/-! ## The set of values -/

/-- What a set sees of a time: its type and its value. -/
inductive Hashed (δ : Type) where
  | int (value : Int)
  | timedelta (micros : Int)
  | datetime (identity : δ)
deriving DecidableEq

/-- `hash(value)` and `==`. -/
def ExpiryT.hashed : ExpiryT → Hashed δ
  | int value => .int value
  | timedelta micros => .timedelta micros

/-- `hash(value)` and `==`. -/
def AbsExpiryT.hashed : AbsExpiryT δ → Hashed δ
  | int value => .int value
  | datetime value => .datetime value.identity

section Methods

variable [DecidableEq δ]

namespace ExpiryOptions

/-- The arguments `ex`, `px`, `exat` and `pxat`, as a set sees them. -/
def values (options : ExpiryOptions δ) : List (Option (Hashed δ)) :=
  [options.ex.map ExpiryT.hashed, options.px.map ExpiryT.hashed, options.exat.map AbsExpiryT.hashed,
    options.pxat.map AbsExpiryT.hashed]

/-- `{ex, px, exat, pxat}`. -/
def opset (options : ExpiryOptions δ) : Finset (Option (Hashed δ)) := options.values.toFinset

/-- `len(opset) > 2 or len(opset) > 1 and flag`. -/
def rejects (options : ExpiryOptions δ) (flag : Bool) : Bool :=
  2 < options.opset.card || (1 < options.opset.card && flag)

end ExpiryOptions

/-- `raise DataError(message)`. -/
def dataError (message : String) : Exc := { cls := .dataError, args := [message.toList] }

/-- What the methods raise if they see several options. -/
def mutuallyExclusive (flag : String) : Exc :=
  dataError s!"``ex``, ``px``, ``exat``, ``pxat``, and ``{flag}`` are mutually exclusive."

/-! ## The methods -/

/-- What a method hands to `execute_command`. -/
structure Issued (F : Type) where
  args : List (Arg F)
  /-- `options["get"]`. -/
  get : Bool := false

/-- `HashDataPersistOptions`. -/
inductive HashDataPersistOptions where
  | fnx
  | fxx

/-- `data_persist_option.value`. -/
def HashDataPersistOptions.value : HashDataPersistOptions → Arg F
  | fnx => .str "FNX".toList
  | fxx => .str "FXX".toList

/-- A word that is sent if its flag is given. -/
def flagWord (word : String) (flag : Bool) : List (Arg F) := if flag then [.str word.toList] else []

/-- `set`. -/
def BasicKeyCommands.set (name value : Arg F) (nx xx keepttl get : Bool) (options : ExpiryOptions δ) :
    Except Exc (Issued F) :=
  if options.rejects keepttl then .error (mutuallyExclusive "keepttl")
  else if nx && xx then .error (dataError "``nx`` and ``xx`` are mutually exclusive.")
  else
    let pieces := [name, value] ++ extractExpireFlags options
    let pieces := pieces ++ flagWord "KEEPTTL" keepttl
    let pieces := pieces ++ flagWord "NX" nx
    let pieces := pieces ++ flagWord "XX" xx
    let pieces := pieces ++ flagWord "GET" get
    .ok { args := .str "SET".toList :: pieces, get }

/-- `getex`. -/
def BasicKeyCommands.getex (name : Arg F) (persist : Bool) (options : ExpiryOptions δ) : Except Exc (Issued F) :=
  if options.rejects persist then .error (mutuallyExclusive "persist")
  else
    let expOptions := extractExpireFlags options
    let expOptions := expOptions ++ flagWord "PERSIST" persist
    .ok { args := [.str "GETEX".toList, name] ++ expOptions }

/-- The fields and values of `hsetex`. -/
def hsetexPieces (key : Option (Arg F)) (value : Arg F) (mapping : List (Arg F × Arg F))
    (items : List (Arg F)) : List (Arg F) :=
  items ++ (key.map fun key => [key, value]).getD [] ++ mapping.flatMap fun pair => [pair.1, pair.2]

/-- `hsetex`; a mapping or items that are not given are empty. -/
def HashCommands.hsetex (name : Arg F) (key : Option (Arg F)) (value : Arg F) (mapping : List (Arg F × Arg F))
    (items : List (Arg F)) (dataPersistOption : Option HashDataPersistOptions) (keepttl : Bool)
    (options : ExpiryOptions δ) : Except Exc (Issued F) :=
  if key.isNone && mapping.isEmpty && items.isEmpty then .error (dataError "'hsetex' with no key value pairs")
  else if items.length % 2 ≠ 0 then
    .error (dataError
      "'hsetex' with odd number of items. 'items' must contain a list of key/value pairs.")
  else if options.rejects keepttl then .error (mutuallyExclusive "keepttl")
  else
    let expOptions := extractExpireFlags options
    let expOptions := expOptions ++ (dataPersistOption.map HashDataPersistOptions.value).toList
    let expOptions := expOptions ++ flagWord "KEEPTTL" keepttl
    let pieces := hsetexPieces key value mapping items
    .ok { args := [.str "HSETEX".toList, name] ++ expOptions ++
      [.str "FIELDS".toList, .int (pieces.length / 2 : Nat)] ++ pieces }

/-- `hgetex`. -/
def HashCommands.hgetex (name : Arg F) (keys : List (Arg F)) (persist : Bool) (options : ExpiryOptions δ) :
    Except Exc (Issued F) :=
  if keys.isEmpty then .error (dataError "'hgetex' should have at least one key provided")
  else if options.rejects persist then .error (mutuallyExclusive "persist")
  else
    let expOptions := extractExpireFlags options
    let expOptions := expOptions ++ flagWord "PERSIST" persist
    .ok { args := [.str "HGETEX".toList, name] ++ expOptions ++
      [.str "FIELDS".toList, .int keys.length] ++ keys }

end Methods

end RedisPy
