import AdminGrid.Value

/-!
# Failures

What can go wrong, as causes.  `Failure.message` is the one place where a cause is put into words.
-/

namespace AdminGrid

/-- Why a cell cannot be computed or formatted. -/
inductive FormatFault where
  /-- A formula needs a number where the cell is empty. -/
  | emptyNumber
  /-- A formula needs a number where the cell holds something else. -/
  | notNumber (cell : Value)
  | zeroDivisor
  /-- An expression names something that is no source field. -/
  | unknownName (name : String)
  /-- An expression holds an element that formulas do not allow. -/
  | unsupported (element : String)
  /-- A text is no expression. -/
  | unreadable (expression : String)
  /-- A formula that combines fields has none. -/
  | noSources (formula : String)
  /-- A formula that summarises fields finds them all empty. -/
  | noValues (formula : String)

/-- Why a table cannot be compiled as configured. -/
inductive ConfigurationFault where
  | noDescriptor
  | unknownTable (name : String)
  | unregistered (name : Option String)

/-- Why request input is refused. -/
inductive SecurityFault where
  | tooDeep
  | dangerous
  | badIdentifier (name : Value)
  deriving Inhabited

/-- One step on the way to a value inside a document. -/
inductive Step where
  | name (key : String)
  | index (i : Nat)

/-- What is wrong with a value of a document. -/
inductive IssueKind where
  | missing
  | textExpected
  | integerExpected
  | integerUnreadable
  | integerTooLarge
  | integerHasFraction
  | integerNotFinite
  | truthExpected
  | truthUnreadable
  | listExpected
  | mapExpected
  | recordExpected
  | pathExpected
  | notAmongChoices
  | refused
  | tooSmall
  | tooLarge
  | patternMismatch

/-- One fault of a document: where it is and what is wrong there. -/
structure Issue where
  path : List Step
  kind : IssueKind

/-- Everything that an operation can fail with. -/
inductive Failure where
  | format (fault : FormatFault)
  | configuration (fault : ConfigurationFault)
  | missingFile (path : String)
  | security (fault : SecurityFault) (field : Option String)
  /-- The database cannot answer. -/
  | unavailable
  /-- A request is answered with an error status. -/
  | status (code : Nat) (detail : String) (retryAfter : Option String)
  | invalid (issues : List Issue)
  /-- A number is out of the range of its representation. -/
  | outOfRange
  /-- A text or number is not one that the operation takes. -/
  | badValue
  /-- A value is of a kind that the operation does not take. -/
  | wrongKind
  /-- A record lacks an entry. -/
  | missingEntry
  /-- An object lacks a property. -/
  | missingProperty
  /-- A setting's text cannot be decoded. -/
  | badSetting
  /-- Two columns of a result have one name. -/
  | ambiguousColumn

/-- The words for a fault of a cell. -/
def FormatFault.message : FormatFault → String
  | emptyNumber => "empty value in numeric formula"
  | notNumber cell => "not a number: " ++ cell.quoted
  | zeroDivisor => "division by zero"
  | unknownName name => "unknown name in formula: " ++ name
  | unsupported element => "unsupported expression element: " ++ element
  | unreadable expression => "invalid formula expression: " ++ Text.quoted expression
  | noSources formula => "formula '" ++ formula ++ "' has no source fields"
  | noValues formula => "formula '" ++ formula ++ "' has no values to aggregate"

/-- The words for a fault of the configuration. -/
def ConfigurationFault.message : ConfigurationFault → String
  | noDescriptor => "No table descriptor to compile"
  | unknownTable name => "Unknown table: " ++ name
  | unregistered name => "No descriptor registered for table: " ++ name.getD "None"

/-- The words for a refusal of request input. -/
def SecurityFault.message : SecurityFault → String
  | tooDeep => "Request parameters nested too deeply"
  | dangerous => "Potentially malicious input detected"
  | badIdentifier name => "Invalid identifier: " ++ name.quoted

/-- The words for a failure, where it has any. -/
def Failure.message : Failure → Option String
  | format fault => some fault.message
  | configuration fault => some fault.message
  | missingFile path => some ("Resource not found: " ++ path)
  | security fault _ => some fault.message
  | status _ detail _ => some detail
  | _ => none

/-- The failure of an operation on numbers. -/
def ArithmeticFault.toFailure : ArithmeticFault → Failure
  | zeroDivisor => .format .zeroDivisor
  | outOfRange => .outOfRange

/-- A result, or the failure that took its place. -/
abbrev Attempt (α : Type) := Except Failure α

end AdminGrid
