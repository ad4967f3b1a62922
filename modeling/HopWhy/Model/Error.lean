/-!
# Operational errors

The error every fallible function of the tool returns. The class decides the
exit code; code, message and retryability are what a phase or an error envelope
shows.
-/

namespace HopWhy

inductive ErrorClass where
  | io
  | usage
  | policy
  | budget
  | contract
deriving DecidableEq, Repr

def ErrorClass.exitCode : ErrorClass → Int
  | .io => 1
  | .usage => 2
  | .policy => 3
  | .budget => 4
  | .contract => 5

structure AppError where
  cls : ErrorClass
  code : String
  message : String
  retryable : Bool
deriving DecidableEq, Repr

namespace AppError

def new (cls : ErrorClass) (code message : String) : AppError :=
  { cls, code, message, retryable := false }

def withRetryable (e : AppError) (retryable : Bool) : AppError := { e with retryable }

end AppError

abbrev AppResult (α : Type) := Except AppError α

end HopWhy
