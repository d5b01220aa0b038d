/-!
The names of failures that a call may end in, and which of them are kinds of which. Only failures of the transport
are worth another attempt.
-/

namespace Reconcile.Failure

/-- Each failure with the more general one it is a kind of. -/
def kinds : List (String × String) :=
  [("ConnectionError", "OSError"), ("BrokenPipeError", "ConnectionError"),
   ("ConnectionAbortedError", "ConnectionError"), ("ConnectionRefusedError", "ConnectionError"),
   ("ConnectionResetError", "ConnectionError"), ("TimeoutError", "OSError"), ("PermissionError", "OSError"),
   ("FileNotFoundError", "OSError"), ("FileExistsError", "OSError"), ("InterruptedError", "OSError"),
   ("BlockingIOError", "OSError"), ("ChildProcessError", "OSError"), ("IsADirectoryError", "OSError"),
   ("NotADirectoryError", "OSError"), ("ProcessLookupError", "OSError"), ("OSError", "Exception"),
   ("TransportError", "RequestError"), ("TimeoutException", "TransportError"), ("ConnectTimeout", "TimeoutException"),
   ("ReadTimeout", "TimeoutException"), ("WriteTimeout", "TimeoutException"), ("PoolTimeout", "TimeoutException"),
   ("NetworkError", "TransportError"), ("ConnectError", "NetworkError"), ("ReadError", "NetworkError"),
   ("WriteError", "NetworkError"), ("CloseError", "NetworkError"), ("ProtocolError", "TransportError"),
   ("LocalProtocolError", "ProtocolError"), ("RemoteProtocolError", "ProtocolError"), ("ProxyError", "TransportError"),
   ("UnsupportedProtocol", "TransportError"), ("RequestError", "HTTPError"), ("DecodingError", "RequestError"),
   ("TooManyRedirects", "RequestError"), ("HTTPStatusError", "HTTPError"), ("HTTPError", "Exception"),
   ("KeyError", "LookupError"), ("IndexError", "LookupError"), ("LookupError", "Exception"),
   ("JSONDecodeError", "ValueError"), ("UnicodeError", "ValueError"), ("ValueError", "Exception"),
   ("TypeError", "Exception"), ("AttributeError", "Exception"), ("NotImplementedError", "RuntimeError"),
   ("RecursionError", "RuntimeError"), ("RuntimeError", "Exception"), ("ZeroDivisionError", "ArithmeticError"),
   ("OverflowError", "ArithmeticError"), ("ArithmeticError", "Exception"), ("AssertionError", "Exception")]

def isKnown (name : String) : Bool :=
  name = "Exception" || (kinds.lookup name).isSome

/-- Whether a failure is of a kind; `steps` bounds how far up the kinds are followed. -/
def isWithin (kind : String) : Nat → String → Bool
  | 0, name => name = kind
  | steps + 1, name =>
    name = kind || match kinds.lookup name with
      | some above => isWithin kind steps above
      | none => false

def isA (name kind : String) : Bool :=
  isWithin kind 6 name

def retryable : List String :=
  ["ConnectionRefusedError", "ConnectionResetError", "TimeoutError", "OSError", "TransportError"]

def isAnyOf (kinds : List String) (name : String) : Bool :=
  kinds.any (isA name)

end Reconcile.Failure
