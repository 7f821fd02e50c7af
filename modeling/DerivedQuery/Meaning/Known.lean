import DerivedQuery.Expression.Fault
import DerivedQuery.Failure
import DerivedQuery.Meaning

/-!
# Known names

Some classes, functions and constants are known everywhere by their names.
-/

set_option autoImplicit false

namespace DerivedQuery.Meaning

/-- The classes that are known everywhere and take arguments in square brackets. -/
def genericClassNames : List String :=
  ["BaseExceptionGroup", "ExceptionGroup", "dict", "enumerate", "frozenset", "list", "set", "tuple",
    "type"]

/-- The classes of failures that are known everywhere. -/
def failureNames : List String :=
  ["ArithmeticError", "AssertionError", "AttributeError", "BaseException", "BlockingIOError",
    "BrokenPipeError", "BufferError", "BytesWarning", "ChildProcessError", "ConnectionAbortedError",
    "ConnectionError", "ConnectionRefusedError", "ConnectionResetError", "DeprecationWarning",
    "EOFError", "EncodingWarning", "EnvironmentError", "Exception", "FileExistsError",
    "FileNotFoundError", "FloatingPointError", "FutureWarning", "GeneratorExit", "IOError",
    "ImportError", "ImportWarning", "IndentationError", "IndexError", "InterruptedError",
    "IsADirectoryError", "KeyError", "KeyboardInterrupt", "LookupError", "MemoryError",
    "ModuleNotFoundError", "NameError", "NotADirectoryError", "NotImplementedError", "OSError",
    "OverflowError", "PendingDeprecationWarning", "PermissionError", "ProcessLookupError",
    "RecursionError", "ReferenceError", "ResourceWarning", "RuntimeError", "RuntimeWarning",
    "StopAsyncIteration", "StopIteration", "SyntaxError", "SyntaxWarning", "SystemError",
    "SystemExit", "TabError", "TimeoutError", "TypeError", "UnboundLocalError",
    "UnicodeDecodeError", "UnicodeEncodeError", "UnicodeError", "UnicodeTranslateError",
    "UnicodeWarning", "UserWarning", "ValueError", "Warning", "ZeroDivisionError"]

/-- The other classes that are known everywhere. -/
def plainClassNames : List String :=
  ["bool", "bytearray", "bytes", "classmethod", "complex", "filter", "float", "int", "map",
    "memoryview", "object", "property", "range", "reversed", "slice", "staticmethod", "str",
    "super", "zip"]

/-- The functions that are known everywhere. -/
def functionNames : List String :=
  ["__build_class__", "__import__", "abs", "aiter", "all", "anext", "any", "ascii", "bin",
    "breakpoint", "callable", "chr", "compile", "delattr", "dir", "divmod", "eval", "exec",
    "format", "getattr", "globals", "hasattr", "hash", "hex", "id", "input", "isinstance",
    "issubclass", "iter", "len", "locals", "max", "min", "next", "oct", "open", "ord", "pow",
    "print", "repr", "round", "setattr", "sorted", "sum", "vars"]

/-- The other names that are known everywhere. -/
def constants : List (String × Meaning) :=
  [("__debug__", truth true), ("Ellipsis", .ellipsis),
    ("NotImplemented", .object "NotImplementedType" "NotImplemented"),
    ("__name__", text "builtins"), ("__package__", text ""), ("__doc__", .unknown),
    ("__builtins__", .unknown), ("__loader__", .unknown), ("__spec__", .unknown),
    ("credits", .object "_Printer" "credits"), ("exit", .object "Quitter" "exit"),
    ("quit", .object "Quitter" "quit"), ("help", .object "_Helper" "help")]

/-- Two words for system errors mean the general one. -/
def className (name : String) : String :=
  if name = "EnvironmentError" ∨ name = "IOError" then "OSError" else name

/-- Is a name that of a class which is known everywhere? -/
def isClassName (name : String) : Bool :=
  genericClassNames.contains name || plainClassNames.contains name || failureNames.contains name

/-- What a name means that is known everywhere. -/
def ofName (name : String) : Except Failure Meaning :=
  if isClassName name then .ok (.builtinClass (className name))
  else if functionNames.contains name then .ok (.function name)
  else
    match Dictionary.get? constants name with
    | some meaning => .ok meaning
    | none => .error (.expression (.unknownName name))

end DerivedQuery.Meaning
