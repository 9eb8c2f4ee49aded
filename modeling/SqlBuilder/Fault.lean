import SqlBuilder.CompiledQuery
import SqlBuilder.Value.Display
import SqlBuilder.Value.Equality

/-!
# Faults

Everything that can go wrong is a `Fault`, named for its cause. The wording is in
`Fault.message?`; the kinds that concern the use of a value in general (`Misuse`) have no wording.
-/

set_option autoImplicit false

namespace SqlBuilder

/-- The setup is not usable. -/
inductive ConfigurationCause where
  | noConnection
  | unknownOperation (name : String)
  | unsupportedDialect (name : String) (registered : List String)
  | unknownAction (name : String) (valid : List String)
  | unknownFilter (name : String) (valid : List String)
  | reported (message : String)
  deriving Repr

/-- The groups of validation faults. -/
inductive ValidationKind where
  | general
  | emptyData
  | columnNotFound
  | columnDefinition
  | schema
  deriving Repr, DecidableEq

/-- What was given cannot be turned into a query. -/
inductive ValidationCause where
  | invalidBinding (typeName : String)
  | unknownStyle (name : Value)
  | bindingMismatch (placeholders bindings : Nat) (sql : Value)
  | noTable
  | unknownUnion (type : String)
  | invalidOutput (output : String) (allowed : List String)
  /-- A clause that assigns columns has nothing to assign. -/
  | emptyData (clause : Value)
  | columnNotFound (column : Value) (selected : Value)
  /-- A type that needs a length is declared without one. -/
  | missingLength (typeName column : String)
  | noColumns (table : Value)
  | reported (kind : ValidationKind) (message : String) (code : Value)
      (details : List (Value × Value))
  deriving Repr

/-- A statement cannot be expressed. -/
inductive CompilationCause where
  | noTarget (clause : String)
  | unsupported (clause : String) (dialect : Dialect)
  | reported (message : String) (clause : Value)
  deriving Repr

/-- A value was used as something it is not. -/
inductive Misuse where
  /-- A value of the wrong type. -/
  | wrongType
  /-- A value of the right type that does not denote what is asked for. -/
  | badValue
  /-- A key that is not there. -/
  | missingKey
  /-- A place that a list does not have. -/
  | missingPlace
  /-- An operation the value does not have. -/
  | missingAttribute
  /-- A number out of range. -/
  | overflow
  /-- A decimal beyond the greatest one. -/
  | decimalOverflow
  /-- A comparison with a number that signals that it is none. -/
  | invalidOperation
  /-- Something that contains itself without end. -/
  | recursion
  deriving Repr, DecidableEq

/-- Who reports a failure below the driver. -/
inductive ClientKind where
  /-- The client library, by its own kind of error. -/
  | library
  /-- The engine, by its own kind of error. -/
  | engine
  /-- Anything else, by an error the driver does not know. -/
  | foreign
  /-- The client library, by misusing what it is given. -/
  | misuse
  deriving Repr, DecidableEq

/-- What can go wrong. -/
inductive Fault where
  | general (message : String)
  | configuration (cause : ConfigurationCause)
  | validation (cause : ValidationCause)
  | compilation (cause : CompilationCause)
  /-- The driver reports a failure, with the SQL it was running if that is known. -/
  | driver (message : String) (sql : Value)
  /-- A failure tied to a query. -/
  | query (message : String) (query : Option CompiledQuery)
  /-- A transaction failed. `note` is what the message adds to that of the cause. -/
  | transaction (cause : Option Fault) (note : String) (query : Option CompiledQuery)
      (rollback : Option Fault)
  /-- Raised by a program on purpose. -/
  | raised (message : String)
  /-- A failure below the driver that it did not turn into one of its own. -/
  | client (kind : ClientKind) (message : String)
  /-- Settings or a column definition with fields of the wrong form. -/
  | invalidModel
  | misuse (kind : Misuse)
  deriving Repr

instance : Inhabited Fault := ⟨.invalidModel⟩

/-! ## Wording -/

/-- A list of names as messages show it. -/
def displayNames (names : List String) : String :=
  (Value.list (names.map .text)).display

namespace ConfigurationCause

/-- The message of a configuration fault. -/
def message : ConfigurationCause → String
  | .noConnection => "No database connection found."
  | .unknownOperation name => name ++ " is not a known type."
  | .unsupportedDialect name registered =>
    "Unsupported dialect: '" ++ name ++ "'. Registered dialects: " ++ displayNames registered ++ "."
  | .unknownAction name valid =>
    "Unknown action: '" ++ name ++ "'. Valid actions: " ++ ", ".intercalate valid
  | .unknownFilter name valid =>
    "Unknown filter: '" ++ name ++ "'. Valid filters: " ++ ", ".intercalate valid
  | .reported message => message

end ConfigurationCause

namespace ValidationCause

/-- The group a validation fault belongs to. -/
def kind : ValidationCause → ValidationKind
  | .emptyData _ => .emptyData
  | .columnNotFound _ _ => .columnNotFound
  | .missingLength _ _ => .columnDefinition
  | .noColumns _ => .schema
  | .reported kind _ _ _ => kind
  | _ => .general

/-- The message of a validation fault. -/
def message : ValidationCause → String
  | .invalidBinding typeName => "Value type " ++ typeName ++ " not allowed"
  | .unknownStyle name => "Unknown paramstyle '" ++ name.toText ++ "'."
  | .bindingMismatch placeholders bindings _ =>
    "Query has " ++ placeholders.repr ++ " placeholders but " ++ bindings.repr ++ " bindings."
  | .noTable => "No table selected"
  | .unknownUnion type => "Unknown union type '" ++ type ++ "'."
  | .invalidOutput output _ => "Invalid output type: " ++ output
  | .emptyData _ => "No data given."
  | .columnNotFound column _ =>
    "Failed to count query - the column " ++ column.toText ++
      " hasn't been selected in the query."
  | .missingLength typeName _ =>
    "The \"" ++ typeName ++ "\" data type require to specify the length of the column."
  | .noColumns table =>
    "Failed to create table \"" ++ table.toText ++ "\" Table must contain at least 1 column."
  | .reported _ message _ _ => message

/-- The code by which programs recognise a validation fault. -/
def code : ValidationCause → Value
  | .invalidBinding _ => .text "INVALID_BINDING"
  | .unknownStyle _ => .text "INVALID_PARAMSTYLE"
  | .bindingMismatch _ _ _ => .text "BINDING_MISMATCH"
  | .noTable => .text "NO_TABLE"
  | .unknownUnion _ => .text "INVALID_UNION"
  | .invalidOutput _ _ => .text "INVALID_OUTPUT"
  | .emptyData _ => .text "EMPTY_DATA"
  | .columnNotFound _ _ => .text "COLUMN_NOT_FOUND"
  | .missingLength _ _ => .text "INVALID_COLUMN"
  | .noColumns _ => .text "SCHEMA_ERROR"
  | .reported _ _ code _ => code

/-- The union types that are known, sorted. -/
def unionTypes : List String := ["", "ALL", "DISTINCT"]

/-- The particulars of a validation fault, by name. -/
def details : ValidationCause → List (Value × Value)
  | .invalidBinding typeName => [(.text "type", .text typeName)]
  | .unknownStyle name => [(.text "paramstyle", name)]
  | .bindingMismatch _ _ sql => [(.text "sql", sql)]
  | .noTable => []
  | .unknownUnion _ => [(.text "allowed", .list (unionTypes.map .text))]
  | .invalidOutput _ allowed => [(.text "allowed", .list (allowed.map .text))]
  | .emptyData clause => [(.text "clause", clause)]
  | .columnNotFound column selected => [(.text "column", column), (.text "selected", selected)]
  | .missingLength _ column => [(.text "column", .text column)]
  | .noColumns table => [(.text "table", table)]
  | .reported _ _ _ details => details

end ValidationCause

namespace CompilationCause

/-- The message of a compilation fault. -/
def message : CompilationCause → String
  | .noTarget clause => "No table selected for " ++ clause ++ "."
  | .unsupported clause dialect =>
    clause ++ " is not supported by the " ++ dialect.name ++ " dialect."
  | .reported message _ => message

/-- The clause that cannot be written. -/
def clause : CompilationCause → Value
  | .noTarget clause => .text clause
  | .unsupported clause _ => .text clause
  | .reported _ clause => clause

end CompilationCause

namespace Fault

/-- The message of a fault, if its kind has one. A driver fault ends with the SQL that was running,
and a failed transaction speaks with the message of its cause. -/
def message? : Fault → Option String
  | .general message => some message
  | .configuration cause => some cause.message
  | .validation cause => some cause.message
  | .compilation cause => some cause.message
  | .driver message sql =>
    some (if sql.isTrue then message ++ ". SQL query: " ++ sql.toText else message)
  | .query message _ => some message
  | .transaction none note _ _ => some note
  | .transaction (some cause) note _ _ => (message? cause).map (· ++ note)
  | .raised message => some message
  | .client _ message => some message
  | .invalidModel => none
  | .misuse _ => none

/-- The message of a fault as part of another text. -/
def asText (f : Fault) : String := f.message?.getD ""

end Fault

/-- A computation that may fail. -/
abbrev Result := Except Fault

/-- Fails by the use of a value as something it is not. -/
def misuse {α : Type} (kind : Misuse) : Result α := .error (.misuse kind)

end SqlBuilder
