import RedisPy.Exceptions

/-!
# Error replies

`BaseParser.parse_error` turns the text of an error reply into an exception object.
The first word selects a class of `EXCEPTION_CLASSES`; under `ERR` the rest of the
text selects it. Building an `AskError` or a `MovedError` parses the rest as
`slot host:port` and raises `ValueError` when it has another shape.
-/

namespace RedisPy

/-- A value of `EXCEPTION_CLASSES`: one class, or a class for each message. -/
inductive ErrorEntry where
  | always (cls : ExcClass)
  | byMessage (table : List (String × ExcClass))

/-- `MODULE_LOAD_ERROR`. -/
def moduleLoadError : String :=
  "Error loading the extension. Please check the server logs."

/-- `NO_SUCH_MODULE_ERROR`. -/
def noSuchModuleError : String := "Error unloading module: no such module with that name"

/-- `MODULE_UNLOAD_NOT_POSSIBLE_ERROR`. -/
def moduleUnloadNotPossibleError : String := "Error unloading module: operation not possible."

/-- `MODULE_EXPORTS_DATA_TYPES_ERROR`. -/
def moduleExportsDataTypesError : String :=
  "Error unloading module: the module exports one or more module-side data types, can't unload"

/-- `NO_AUTH_SET_ERROR`. -/
def noAuthSetError : List (String × ExcClass) :=
  [("AUTH <password> called without any password configured for the default user. " ++
      "Are you sure your configuration is correct?", .authenticationError),
   ("Client sent AUTH, but no password is set", .authenticationError)]

/-- `BaseParser.EXCEPTION_CLASSES`. -/
def exceptionClasses : List (String × ErrorEntry) :=
  [("ERR", .byMessage
     ([("max number of clients reached", .connectionError),
       ("invalid password", .authenticationError),
       ("wrong number of arguments for 'auth' command", .authenticationWrongNumberOfArgsError),
       ("wrong number of arguments for 'AUTH' command", .authenticationWrongNumberOfArgsError),
       (moduleLoadError, .moduleError),
       (moduleExportsDataTypesError, .moduleError),
       (noSuchModuleError, .moduleError),
       (moduleUnloadNotPossibleError, .moduleError)] ++ noAuthSetError)),
   ("OOM", .always .outOfMemoryError),
   ("WRONGPASS", .always .authenticationError),
   ("EXECABORT", .always .execAbortError),
   ("LOADING", .always .busyLoadingError),
   ("NOSCRIPT", .always .noScriptError),
   ("READONLY", .always .readOnlyError),
   ("NOAUTH", .always .authenticationError),
   ("NOPERM", .always .noPermissionError),
   ("ASK", .always .askError),
   ("TRYAGAIN", .always .tryAgainError),
   ("MOVED", .always .movedError),
   ("CLUSTERDOWN", .always .clusterDownError),
   ("CROSSSLOT", .always .clusterCrossSlotError),
   ("MASTERDOWN", .always .masterDownError)]

/-- `dict.get` on a table keyed by text. -/
def lookupText {α : Type} (table : List (String × α)) (key : Text) : Option α :=
  (table.find? fun entry => entry.1.toList == key).map (·.2)

/-- `AskError.__init__`: `slot_id, new_node = resp.split(" ")` and
`host, port = new_node.rsplit(":", 1)`, with both numbers converted. -/
def parseRedirect (response : Text) : Option Redirect :=
  match response.splitOn ' ' with
  | [slot, node] => do
    let (host, port) ← rsplitColon node
    let slotId ← intOfText slot
    let port ← intOfText port
    some { slotId, host, port }
  | _ => none

/-- `exception_class(response)`. -/
def buildException (cls : ExcClass) (response : Text) : Except Exc Exc :=
  if cls.issubclass .askError then
    match parseRedirect response with
    | some redirect => .ok { cls, args := [response], redirect := some redirect }
    | none => .error { cls := .valueError }
  else .ok { cls, args := [response] }

/-- The class `parse_error` selects and the text it builds the exception from. -/
def errorClass (response : Text) : ExcClass × Text :=
  let code := ((response.splitOn ' ').head?).getD []
  match lookupText exceptionClasses code with
  | some (.always cls) => (cls, response.drop (code.length + 1))
  | some (.byMessage table) =>
    let message := response.drop (code.length + 1)
    ((lookupText table message).getD .responseError, message)
  | none => (.responseError, response)

/-- `BaseParser.parse_error`. -/
def parseError (response : Text) : Except Exc Exc :=
  buildException (errorClass response).1 (errorClass response).2

/-- Error text answered with a `ConnectionError` or a subclass of it. -/
def isConnectionErrorText (response : Text) : Bool :=
  (errorClass response).1.issubclass .connectionError

/-- Error text that is announced as a redirection. -/
def isRedirectText (response : Text) : Bool := (errorClass response).1.issubclass .askError

/-- An exception is built unless a redirection has the wrong shape. -/
theorem parseError_ok_iff (response : Text) :
    (∃ e, parseError response = .ok e) ↔
      (isRedirectText response = true → (parseRedirect (errorClass response).2).isSome) := by
  unfold parseError buildException isRedirectText
  by_cases redirect : (errorClass response).1.issubclass .askError = true
  · cases parsed : parseRedirect (errorClass response).2 <;> simp [redirect]
  · simp [redirect]

/-- A built exception has the selected class. -/
theorem parseError_cls {response : Text} {e : Exc} (built : parseError response = .ok e) :
    e.cls = (errorClass response).1 := by
  unfold parseError buildException at built
  split at built
  · split at built
    · cases built; rfl
    · cases built
  · cases built; rfl

/-- The only exception that escapes the construction is `ValueError`. -/
theorem parseError_error {response : Text} {e : Exc} (raised : parseError response = .error e) :
    e = { cls := .valueError } := by
  unfold parseError buildException at raised
  split at raised
  · split at raised
    · cases raised
    · cases raised; rfl
  · cases raised

/-- The address of a redirection is what follows its slot. -/
example : (parseError "MOVED 3999 127.0.0.1:6381".toList).toOption.map (·.redirect) =
    some (some { slotId := 3999, host := "127.0.0.1".toList, port := 6381 }) := by decide +kernel

/-- A redirection without an address is not built. -/
example : parseError "ASK later".toList = .error { cls := .valueError } := by decide +kernel

end RedisPy
