import Mathlib.Init

/-! # Domain errors

The error classes that services raise, and the one with which the database
refuses a taken primary key. An error raised without a code carries the name of
its class.
-/

namespace ProjectManager

inductive ErrorClass
  | validationError
  | notFoundError
  | businessRuleError
  | concurrencyError
  | integrityError
  | valueError
  | keyError
  | typeError
  | structError
  | keyboardInterrupt
  deriving DecidableEq, Repr

def ErrorClass.name : ErrorClass → String
  | .validationError => "ValidationError"
  | .notFoundError => "NotFoundError"
  | .businessRuleError => "BusinessRuleError"
  | .concurrencyError => "ConcurrencyError"
  | .integrityError => "IntegrityError"
  | .valueError => "ValueError"
  | .keyError => "KeyError"
  | .typeError => "TypeError"
  | .structError => "error"
  | .keyboardInterrupt => "KeyboardInterrupt"

structure DomainError where
  errorClass : ErrorClass
  message : String
  code : String := errorClass.name
  deriving DecidableEq, Repr

def validationError (message : String) (code : String := "ValidationError") : DomainError where
  errorClass := .validationError
  message := message
  code := code

def notFoundError (message : String) (code : String := "NotFoundError") : DomainError where
  errorClass := .notFoundError
  message := message
  code := code

def businessRuleError (message : String) (code : String := "BusinessRuleError") :
    DomainError where
  errorClass := .businessRuleError
  message := message
  code := code

def concurrencyError (message : String) (code : String := "ConcurrencyError") : DomainError where
  errorClass := .concurrencyError
  message := message
  code := code

def staleWrite (subject : String) : DomainError where
  errorClass := .concurrencyError
  message := subject ++ " changed since you opened it. Refresh and try again."
  code := "STALE_WRITE"

/-- A call that never returns is interrupted. -/
def interrupted : DomainError where
  errorClass := .keyboardInterrupt
  message := ""

def takenPrimaryKey (table : String) : DomainError where
  errorClass := .integrityError
  message := "UNIQUE constraint failed: " ++ table ++ ".id"

end ProjectManager
