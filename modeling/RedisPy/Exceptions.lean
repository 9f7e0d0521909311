import RedisPy.Python.Text

/-!
# Exception classes

The classes of `redis/exceptions.py`, the Python classes the client meets, and
`isinstance`. An exception carries its class, its `args` and, for `AskError` and
`MovedError`, the redirection its constructor parsed. `socket.timeout` and
`asyncio.TimeoutError` are the built-in `TimeoutError`, a subclass of `OSError`.
-/

namespace RedisPy

/-- Exception classes; `user` is a class defined outside the library. -/
inductive ExcClass where
  | baseException
  | exception
  | valueError
  | unicodeDecodeError
  | unicodeEncodeError
  | assertionError
  | keyError
  | indexError
  | typeError
  | attributeError
  | runtimeError
  | eofError
  | osError
  | builtinTimeoutError
  | cancelledError
  | keyboardInterrupt
  | redisError
  | connectionError
  | timeoutError
  | authenticationError
  | authorizationError
  | busyLoadingError
  | maxConnectionsError
  | invalidResponse
  | responseError
  | dataError
  | pubSubError
  | watchError
  | noScriptError
  | outOfMemoryError
  | execAbortError
  | readOnlyError
  | noPermissionError
  | moduleError
  | lockError
  | lockNotOwnedError
  | childDeadlockedError
  | authenticationWrongNumberOfArgsError
  | redisClusterException
  | slotNotCoveredError
  | clusterError
  | clusterDownError
  | masterDownError
  | askError
  | movedError
  | tryAgainError
  | clusterCrossSlotError
  | user (name : Nat) (base : ExcClass)
deriving DecidableEq

namespace ExcClass

/-- The ancestors shared by the ordinary exceptions. -/
def plain : List ExcClass := [exception, baseException]

/-- `RedisError` and its ancestors. -/
def underRedis : List ExcClass := redisError :: plain

/-- `ConnectionError` and its ancestors. -/
def underConnection : List ExcClass := connectionError :: underRedis

/-- `ResponseError` and its ancestors. -/
def underResponse : List ExcClass := responseError :: underRedis

/-- `cls.__mro__` as a set: the class and everything it derives from. -/
def ancestors : ExcClass → List ExcClass
  | baseException => [baseException]
  | exception => plain
  | valueError => valueError :: plain
  | unicodeDecodeError => unicodeDecodeError :: valueError :: plain
  | unicodeEncodeError => unicodeEncodeError :: valueError :: plain
  | assertionError => assertionError :: plain
  | keyError => keyError :: plain
  | indexError => indexError :: plain
  | typeError => typeError :: plain
  | attributeError => attributeError :: plain
  | runtimeError => runtimeError :: plain
  | eofError => eofError :: plain
  | osError => osError :: plain
  | builtinTimeoutError => builtinTimeoutError :: osError :: plain
  | cancelledError => [cancelledError, baseException]
  | keyboardInterrupt => [keyboardInterrupt, baseException]
  | redisError => underRedis
  | connectionError => underConnection
  | timeoutError => timeoutError :: underRedis
  | authenticationError => authenticationError :: underConnection
  | authorizationError => authorizationError :: underConnection
  | busyLoadingError => busyLoadingError :: underConnection
  | maxConnectionsError => maxConnectionsError :: underConnection
  | invalidResponse => invalidResponse :: underRedis
  | responseError => underResponse
  | dataError => dataError :: underRedis
  | pubSubError => pubSubError :: underRedis
  | watchError => watchError :: underRedis
  | noScriptError => noScriptError :: underResponse
  | outOfMemoryError => outOfMemoryError :: underResponse
  | execAbortError => execAbortError :: underResponse
  | readOnlyError => readOnlyError :: underResponse
  | noPermissionError => noPermissionError :: underResponse
  | moduleError => moduleError :: underResponse
  | lockError => lockError :: valueError :: underRedis
  | lockNotOwnedError => lockNotOwnedError :: lockError :: valueError :: underRedis
  | childDeadlockedError => childDeadlockedError :: plain
  | authenticationWrongNumberOfArgsError => authenticationWrongNumberOfArgsError :: underResponse
  | redisClusterException => redisClusterException :: plain
  | slotNotCoveredError => slotNotCoveredError :: redisClusterException :: plain
  | clusterError => clusterError :: underRedis
  | clusterDownError => clusterDownError :: clusterError :: underResponse
  | masterDownError => masterDownError :: clusterDownError :: clusterError :: underResponse
  | askError => askError :: underResponse
  | movedError => movedError :: askError :: underResponse
  | tryAgainError => tryAgainError :: underResponse
  | clusterCrossSlotError => clusterCrossSlotError :: underResponse
  | user name base => user name base :: ancestors base

/-- `issubclass(cls, base)`. -/
def issubclass (cls base : ExcClass) : Bool := cls.ancestors.contains base

/-- `issubclass(cls, bases)` for a tuple of classes. -/
def issubclassAny (cls : ExcClass) (bases : List ExcClass) : Bool := bases.any cls.issubclass

end ExcClass

/-- What the constructor of `AskError` reads from the error text. -/
structure Redirect where
  /-- `self.slot_id`. -/
  slotId : Int
  /-- `self.host`. -/
  host : Text
  /-- `self.port`. -/
  port : Int
deriving DecidableEq

/-- An exception object. -/
structure Exc where
  /-- `type(e)`. -/
  cls : ExcClass
  /-- `e.args`. -/
  args : List Text := []
  /-- The redirection held by an `AskError` or a `MovedError`. -/
  redirect : Option Redirect := none
deriving DecidableEq

namespace Exc

/-- `isinstance(e, base)`. -/
def isinstance (e : Exc) (base : ExcClass) : Bool := e.cls.issubclass base

/-- `isinstance(e, bases)` for a tuple of classes. -/
def isinstanceAny (e : Exc) (bases : List ExcClass) : Bool := e.cls.issubclassAny bases

end Exc

end RedisPy
