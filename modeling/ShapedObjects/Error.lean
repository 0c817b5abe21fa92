import ShapedObjects.Limits
import ShapedObjects.Value

/-!
# Errors of running programs

A program that is being run can be told that an attribute is missing, which it may
handle, or that a limit is exceeded, which it may not. An internal error would be
a defect of this library.
-/

namespace ShapedObjects

/-- What an exception is about. -/
inductive ExceptionKind where
  /-- An attribute is missing. -/
  | attributeError
  /-- A limit is exceeded. -/
  | memoryError
deriving DecidableEq, Repr

namespace ExceptionKind

/-- The name of a kind of exception. -/
def name : ExceptionKind → String
  | attributeError => "AttributeError"
  | memoryError => "MemoryError"

/-- The kind of exception of a given name. -/
def ofName? (name : String) : Option ExceptionKind :=
  [attributeError, memoryError].find? (·.name = name)

end ExceptionKind

/-- An exception. -/
structure Exception where
  /-- What it is about. -/
  kind : ExceptionKind
  /-- Its message. -/
  argument : Option String
deriving DecidableEq, Repr

namespace Exception

/-- An exception is written as its kind, with the message behind a colon. -/
def text (exception : Exception) : String :=
  match exception.argument with
  | some argument => exception.kind.name ++ ": " ++ argument
  | none => exception.kind.name

/-- The exception about an attribute that an object of some type lacks. -/
def missingAttribute (type : ValueType) (name : String) : Exception :=
  ⟨.attributeError, some ("'" ++ type.name ++ "' object has no attribute '" ++ name ++ "'")⟩

/-- The exception about an attribute that an object lacks names the attribute. -/
theorem missingAttribute_object (name : String) :
    missingAttribute .object name =
      ⟨.attributeError, some ("'object' object has no attribute '" ++ name ++ "'")⟩ :=
  rfl

end Exception

/-- Why a call failed. -/
inductive CallError where
  /-- A defect of this library. -/
  | internal (message : String)
  /-- An exception that the program may handle. -/
  | catchable (exception : Exception)
  /-- An exception that the program may not handle. -/
  | uncatchable (exception : Exception)
deriving DecidableEq, Repr

namespace CallError

/-- The text of an error. -/
def text : CallError → String
  | internal message => "internal error: " ++ message
  | catchable exception | uncatchable exception => exception.text

/-- A refusal is reported as an exception that the program may not handle. -/
def ofLimit (refusal : LimitError) : CallError :=
  uncatchable ⟨.memoryError, some refusal.message⟩

/-- Every refusal is a memory error that gives the number that was asked for and the limit. -/
theorem ofLimit_eq (refusal : LimitError) :
    ofLimit refusal = uncatchable ⟨.memoryError, some <| match refusal with
      | .allocation limit count =>
        "allocation limit exceeded: " ++ toString count ++ " > " ++ toString limit
      | .slots limit requested =>
        "attribute slot limit exceeded: " ++ toString requested ++ " > " ++ toString limit⟩ := by
  cases refusal <;> rfl

end CallError

end ShapedObjects
