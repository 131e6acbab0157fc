import Mathlib.Init

/-! # The backend's application errors -/

namespace SuitApi

/-- `AppException(status_code, message, code)`; a missing `code` repeats the status. -/
structure AppException where
  statusCode : Int
  message : String
  code : Int
  deriving Repr, DecidableEq

def AppException.make (statusCode : Int) (message : String) (code : Option Int := none) :
    AppException :=
  ⟨statusCode, message, code.getD statusCode⟩

end SuitApi
