import TypedQuery.Value.Printer

/-!
What can go wrong, by cause, and the wording of each cause. `Error` sorts the causes by who is to
blame: an argument, the schema, a predicate on the wrong kind of field, the query as a whole, the
store's reply, the store itself, or a value that an operation was never meant for.
-/
set_option autoImplicit false

namespace TypedQuery

/-- A value that an operation was never meant for; such an error has no wording of its own. -/
inductive Misuse
  /-- The operation is not defined on values of this type. -/
  | wrongType
  /-- A table has no such key. -/
  | missingKey
  /-- The type is right and the value is not. -/
  | badValue
  /-- Values of this type have no such member. -/
  | noMember
  /-- A number too large to convert. -/
  | overflow
  /-- A position outside a sequence. -/
  | outOfRange
  /-- A result too large to be held. -/
  | outOfMemory
  /-- Something that contains itself, or is nested too deeply. -/
  | endless
  deriving DecidableEq, Repr

inductive InputFault
  | fieldNameNotText (typeName : String)
  | fieldNameEmpty
  | fieldNameTooLong (length : Nat)
  | fieldNameMalformed (name : String)
  | keyPrefixEmpty
  | dimensionNotInteger (typeName : String)
  | dimensionTooSmall (given : Int) (lowest : Value)
  | dimensionTooLarge (given : Int) (highest : Value)
  | neighboursNotInteger (typeName : String)
  | neighboursTooFew (given : Int)
  | neighboursTooMany (given : Int) (highest : Value)
  | windowNotInteger (label typeName : String)
  | windowNegative (label : String) (given : Int)
  | windowTooLarge (given : Int) (highest : Value)
  | vectorNotNumeric
  | vectorNotFlat (depth : Nat)
  | vectorNotFinite
  | notNumber (field typeName : String)
  | missingNumber (field : String)
  | notBoolean (field typeName : String)
  | notText (field typeName : String)
  | emptyTag (field : String)
  | emptyPhrase (field : String)
  | emptyRange (field : String) (lower upper : Value)
  | noTags (field : String)
  | emptyTagAmong (field : String)
  | emptyPattern (field : String)
  | truthValueAsDate (given : Bool)
  | badDateText (given : String)
  | notDate (typeName : String)
  | unknownUnit (given : Value)
  | longitudeOutside (given : Value)
  | latitudeOutside (given : Value)
  | radiusNegative (given : Value)
  | groupNotSearch
  | groupWithNeighbours
  | unknownDirection (given : String)
  | pageTooSmall (given : Value)

/-- What is wrong with a schema or a field declaration. -/
inductive SchemaFault
  | input (fault : InputFault)
  | unknownVariant (given family : String)
  /-- A variant given by a value that cannot be written. -/
  | unwrittenVariant
  | vectorKeyMissing (key : String)
  | unknownType (field : Value) (given : String)
  | vectorParamsMissing (field : String)
  | vectorParamsUnwanted (field type : String)
  | multiNotTag (field type : String)
  | noEntityName
  | unknownStorage (given : String)
  | notField (typeName : String)
  | duplicateName (name : String)
  | duplicateStoreName (name : String)
  | undeclared (name : Value) (entity : String)

/-- A predicate on a field of a type that it does not fit. -/
inductive MismatchFault
  /-- Refused when the predicate was built. -/
  | refused (predicate type field : String) (allowed : List String)
  /-- Found in a tree that was put together by hand. -/
  | targets (predicate type field : String)

inductive QueryFault
  | input (fault : InputFault)
  | schema (fault : SchemaFault)
  | emptyChoice
  | emptyAlternative
  | emptyNegation
  | neighboursNested
  | neighboursTwice
  | notNumber (typeName : String)
  | missingNumber
  | emptyRawQuery
  | unknownDirection (given : Value)
  | unsortable (type field : String)
  | returnFieldsText
  | offsetAlone

inductive ReplyFault
  | malformed (reply : Value)
  | notText
  | badCount (given : Value)
  | oddFields (key : String)
  | notNumber (field token : String)
  | notBoolean (field token : String)
  | notPoint (field token : String)
  | notDate (field token : String)
  | dateOutside (field token : String)
  /-- A fault in a field of the record with this key. -/
  | inRecord (key : String) (fault : ReplyFault)

inductive StorageFault
  | missing
  | directory
  /-- A document, where a directory would be needed. -/
  | blocked
  | longName
  deriving DecidableEq, Repr

/-- What is wrong with the text of a document of settings. -/
inductive DocumentFault
  /-- A character that no document may hold. -/
  | character
  /-- Characters that are no part of a document. -/
  | token
  /-- A part where it may not stand. -/
  | grammar
  /-- A name for a part that is unknown or taken, or a second document. -/
  | reference
  /-- A part that cannot be made a value. -/
  | content
  deriving DecidableEq, Repr

inductive Error
  | input (fault : InputFault)
  | schema (fault : SchemaFault)
  | mismatch (fault : MismatchFault)
  | vectorLength (given expected dimension width : Nat) (type : String)
  | query (fault : QueryFault)
  | reply (fault : ReplyFault)
  | keyPrefix (key expected : String)
  | store (text : String)
  | storage (fault : StorageFault)
  | document (fault : DocumentFault)
  /-- Something else stands where a field or a condition has to. -/
  | notA (expected typeName : String)
  | misuse (kind : Misuse)

/-- The words after which a message about a vector or about bytes says no more. -/
def vectorConversionFailed : String := "Cannot convert query vector"

def bytesNotText : String := "Value is not valid UTF-8"

/-- Labels of the distance units, as a literal. -/
def unitLiteral : String := "('m', 'km', 'mi', 'ft')"

namespace InputFault

/-- The wording of a fault. There is none if a number that it shows is too long to be written. -/
def message? : InputFault → Option String
  | .fieldNameNotText t => some ("Field name must be a string, got " ++ t)
  | .fieldNameEmpty => some "Field name cannot be empty"
  | .fieldNameTooLong n => some ("Field name too long: " ++ natText n ++ " characters (max 256)")
  | .fieldNameMalformed name =>
    some ("Invalid field name '" ++ name ++ "': must start with a letter or underscore and contain "
      ++ "only alphanumeric characters, underscores, hyphens, or dots")
  | .keyPrefixEmpty => some "Key prefix must be a non-empty string"
  | .dimensionNotInteger t => some ("Dimension must be an integer, got " ++ t)
  | .dimensionTooSmall n lowest => do
    return "Dimension too small: " ++ (← intText? n) ++ " (min " ++ (← lowest.display?) ++ ")"
  | .dimensionTooLarge n highest => do
    return "Dimension too large: " ++ (← intText? n) ++ " (max " ++ (← highest.display?) ++ ")"
  | .neighboursNotInteger t => some ("k must be an integer, got " ++ t)
  | .neighboursTooFew n => do return "k must be at least 1, got " ++ (← intText? n)
  | .neighboursTooMany n highest => do
    return "k too large: " ++ (← intText? n) ++ " (max " ++ (← highest.display?) ++ ")"
  | .windowNotInteger label t => some (label ++ " must be an integer, got " ++ t)
  | .windowNegative label n => do return label ++ " must be non-negative, got " ++ (← intText? n)
  | .windowTooLarge n highest => do
    return "count too large: " ++ (← intText? n) ++ " (max " ++ (← highest.display?) ++ ")"
  | .vectorNotNumeric => some vectorConversionFailed
  | .vectorNotFlat depth => some ("Vector must be 1D, got " ++ natText depth ++ "D")
  | .vectorNotFinite => some "Vector contains NaN or Inf values"
  | .notNumber field t => some ("Field '" ++ field ++ "' expects a number, got " ++ t)
  | .missingNumber field => some ("NaN is not a valid value for field '" ++ field ++ "'")
  | .notBoolean field t => some ("Field '" ++ field ++ "' expects a boolean, got " ++ t)
  | .notText field t => some ("Field '" ++ field ++ "' expects a string, got " ++ t)
  | .emptyTag field => some ("Field '" ++ field ++ "' cannot equal an empty tag")
  | .emptyPhrase field => some ("Field '" ++ field ++ "' cannot equal an empty phrase")
  | .emptyRange field lower upper => do
    return "Empty range for field '" ++ field ++ "': " ++ (← lower.literal?) ++ " > "
      ++ (← upper.literal?)
  | .noTags field => some ("contains on '" ++ field ++ "' needs at least one value")
  | .emptyTagAmong field => some ("contains on '" ++ field ++ "' got an empty tag value")
  | .emptyPattern field => some ("matches on '" ++ field ++ "' needs a non-empty string")
  | .truthValueAsDate b => do return "Cannot use " ++ (← (Value.bool b).literal?) ++ " as a date"
  | .badDateText s => some ("Invalid date string: " ++ quotedText s)
  | .notDate t => some ("Cannot use " ++ t ++ " as a date")
  | .unknownUnit v => do
    return "Unknown distance unit " ++ (← v.literal?) ++ " (use one of " ++ unitLiteral ++ ")"
  | .longitudeOutside v => do return "Longitude out of range: " ++ (← v.display?)
  | .latitudeOutside v => do return "Latitude out of range: " ++ (← v.display?)
  | .radiusNegative v => do return "Radius must be non-negative, got " ++ (← v.display?)
  | .groupNotSearch => some "Group builder must return a Search"
  | .groupWithNeighbours => some "Nested groups cannot contain a KNN clause"
  | .unknownDirection s => some ("Sort direction must be ASC or DESC, got " ++ quotedText s)
  | .pageTooSmall v => do return "page_size must be at least 1, got " ++ (← v.display?)

end InputFault

namespace SchemaFault

def message? : SchemaFault → Option String
  | .input fault => fault.message?
  | .unknownVariant given family =>
    some ("Invalid vector parameters: " ++ quotedText given ++ " is not a valid " ++ family)
  | .unwrittenVariant =>
    some ("Invalid vector parameters: Exceeds the limit (" ++ natText longestInteger
      ++ " digits) for integer string conversion; use sys.set_int_max_str_digits() to increase "
      ++ "the limit")
  | .vectorKeyMissing key => some ("Vector declaration missing " ++ quotedText key)
  | .unknownType field given => do
    return "Unknown field type for '" ++ (← field.display?) ++ "': " ++ given
  | .vectorParamsMissing field =>
    some ("Vector field '" ++ field ++ "' requires vector parameters")
  | .vectorParamsUnwanted field type =>
    some ("Field '" ++ field ++ "' of type " ++ type ++ " cannot carry vector parameters")
  | .multiNotTag field type =>
    some ("Only tag fields can be multi-valued, '" ++ field ++ "' is " ++ type)
  | .noEntityName => some "Schema requires an entity name"
  | .unknownStorage given => some ("Unknown data structure: " ++ given)
  | .notField t => some ("Expected FieldDescriptor, got " ++ t)
  | .duplicateName name => some ("Duplicate field name: '" ++ name ++ "'")
  | .duplicateStoreName name => some ("Duplicate store name: '" ++ name ++ "'")
  | .undeclared name entity => do
    return "Field '" ++ (← name.display?) ++ "' is not declared in schema '" ++ entity ++ "'"

end SchemaFault

namespace MismatchFault

def message : MismatchFault → String
  | .refused predicate type field allowed =>
    "'" ++ predicate ++ "' cannot be used on " ++ type ++ " field '" ++ field ++ "' (allowed: "
      ++ joinTexts ", " allowed ++ ")"
  | .targets predicate type field =>
    predicate ++ " cannot target " ++ type ++ " field '" ++ field ++ "'"

end MismatchFault

namespace QueryFault

def message? : QueryFault → Option String
  | .input fault => fault.message?
  | .schema fault => fault.message?
  | .emptyChoice => some "OR group has no conditions"
  | .emptyAlternative => some "OR group contains an empty condition"
  | .emptyNegation => some "Cannot negate an empty condition"
  | .neighboursNested =>
    some "Vector KNN must be the root condition or a direct child of the root AND"
  | .neighboursTwice => some "Only one vector KNN clause is allowed per query"
  | .notNumber t => some ("Expected a number, got " ++ t)
  | .missingNumber => some "NaN cannot be used in a query"
  | .emptyRawQuery => some "Raw query must be a non-empty string"
  | .unknownDirection v => do return "Sort direction must be ASC or DESC, got " ++ (← v.literal?)
  | .unsortable type field => some ("Cannot sort by " ++ type ++ " field '" ++ field ++ "'")
  | .returnFieldsText => some "return_fields must be a sequence of field names"
  | .offsetAlone => some "An offset requires a page size"

end QueryFault

namespace ReplyFault

def message? : ReplyFault → Option String
  | .malformed reply => do return "Malformed search reply: " ++ (← reply.literal?)
  | .notText => some bytesNotText
  | .badCount v => do return "Invalid result count: " ++ (← v.literal?)
  | .oddFields key => some ("Odd-length field array for key '" ++ key ++ "'")
  | .notNumber field token => some ("Field '" ++ field ++ "' is not a number: " ++ quotedText token)
  | .notBoolean field token =>
    some ("Field '" ++ field ++ "' is not a boolean: " ++ quotedText token)
  | .notPoint field token => some ("Field '" ++ field ++ "' is not a point: " ++ quotedText token)
  | .notDate field token => some ("Field '" ++ field ++ "' is not a valid date: " ++ token)
  | .dateOutside field token => some ("Field '" ++ field ++ "' is out of range: " ++ token)
  | .inRecord key fault => do return "Key '" ++ key ++ "': " ++ (← fault.message?)

end ReplyFault

namespace Error

/-- The wording of an error, if it has one. -/
def message? : Error → Option String
  | .input fault => fault.message?
  | .schema fault => fault.message?
  | .mismatch fault => some fault.message
  | .vectorLength given expected dimension width type =>
    some ("Query vector is " ++ natText given ++ " bytes, expected " ++ natText expected ++ " ("
      ++ natText dimension ++ " x " ++ natText width ++ "-byte " ++ type ++ " components)")
  | .query fault => fault.message?
  | .reply fault => fault.message?
  | .keyPrefix key expected =>
    some ("Key '" ++ key ++ "' does not start with prefix '" ++ expected ++ "'")
  | .store text => some text
  | .storage _ => none
  | .document _ => none
  | .notA expected t => some ("Expected " ++ expected ++ ", got " ++ t)
  | .misuse _ => none

/-- An error that has a wording, as it is raised: the wording is made first, and where a number in it
is too long to be written, that is the error. -/
def raised (e : Error) : Error := if e.message?.isSome then e else .misuse .badValue

/-- A fault of an argument, where a schema is made from it. -/
def inSchema : Error → Error
  | .input fault => .schema (.input fault)
  | e => e

/-- A fault of an argument or of a name, where a query is made from it. -/
def inQuery : Error → Error
  | .input fault => .query (.input fault)
  | .schema fault => .query (.schema fault)
  | e => e

end Error

end TypedQuery
