import ServerUi.Json.Basic
import ServerUi.Text.Quoted

/-! What can go wrong while one node is built or one collaborator is asked. -/

namespace ServerUi

inductive FieldType where
  | text
  | number
  | boolean
  | array
  | object
  deriving DecidableEq

def FieldType.phrase : FieldType → String
  | text => "a string"
  | number => "a number"
  | boolean => "a boolean"
  | array => "an array"
  | object => "an object"

inductive FailureKind where
  | runtime
  | value
  | key
  | division
  | member
  | other (name : String)
  deriving DecidableEq

def FailureKind.name : FailureKind → String
  | runtime => "RuntimeError"
  | value => "ValueError"
  | key => "KeyError"
  | division => "ZeroDivisionError"
  | member => "AttributeError"
  | other name => name

/-- Why the system does not open a file, or does not look it up. -/
inductive Unreadable where
  | missing
  | notDirectory
  | isDirectory
  | nameTooLong
  | denied
  deriving DecidableEq

namespace Unreadable

def name : Unreadable → String
  | missing => "FileNotFoundError"
  | notDirectory => "NotADirectoryError"
  | isDirectory => "IsADirectoryError"
  | nameTooLong => "OSError"
  | denied => "PermissionError"

def number : Unreadable → Nat
  | missing => 2
  | denied => 13
  | notDirectory => 20
  | isDirectory => 21
  | nameTooLong => 36

def message : Unreadable → String
  | missing => "No such file or directory"
  | notDirectory => "Not a directory"
  | isDirectory => "Is a directory"
  | nameTooLong => "File name too long"
  | denied => "Permission denied"

/-- Whether it is left open what is there. -/
def leavesOpen : Unreadable → Bool
  | nameTooLong | denied => true
  | missing | notDirectory | isDirectory => false

end Unreadable

inductive Fault where
  | wrongType (field : String) (expected : FieldType) (actual : Json)
  | overflow
  /-- A host has only one of its brackets, or something stands around them. -/
  | hostBrackets
  /-- A host with brackets starts like an address of a later version and is none. -/
  | hostFuture
  | hostVersion4
  | hostUnknown (host : String)
  | hostCharacters (host : String)
  | nullCharacter
  /-- Characters of a name that cannot be encoded, the first of them at a place in the name. -/
  | unencodable (characters : List Char) (place : Nat)
  | file (why : Unreadable) (name : String)
  /-- Code of the host has failed, and this is its message if it can give one at all. -/
  | raised (kind : FailureKind) (message : Option String)

namespace Fault

def name : Fault → String
  | wrongType .. => "NodeFieldError"
  | overflow => "OverflowError"
  | hostBrackets | hostFuture | hostVersion4 | hostUnknown _ | hostCharacters _ | nullCharacter =>
    "ValueError"
  | unencodable .. => "UnicodeEncodeError"
  | file why _ => why.name
  | raised kind _ => kind.name

/-- The place of characters in a name. A single one is shown, by its number. -/
def placed (characters : List Char) (place : Nat) : String :=
  match characters with
  | [c] => s!"character '{String.ofList (numbered c)}' in position {place}"
  | _ => s!"characters in position {place}-{place + characters.length - 1}"

/-- What a fault says. A missing key is quoted. -/
def message : Fault → String
  | wrongType field expected actual =>
    s!"field '{field}' must be {expected.phrase}, got {actual.typeName}"
  | overflow => "int too large to convert to float"
  | hostBrackets => "Invalid IPv6 URL"
  | hostFuture => "IPvFuture address is invalid"
  | hostVersion4 => "An IPv4 address cannot be in brackets"
  | hostUnknown host => s!"{quoted host} does not appear to be an IPv4 or IPv6 address"
  | hostCharacters host =>
    s!"netloc '{host}' contains invalid characters under NFKC normalization"
  | nullCharacter => "embedded null byte"
  | unencodable characters place =>
    s!"'utf-8' codec can't encode {placed characters place}: surrogates not allowed"
  | file why name => s!"[Errno {why.number}] {why.message}: {quoted name}"
  | raised .key (some message) => quoted message
  | raised _ message => message.getD ""

/-- What a fault says, or its name if it says nothing. -/
def details (fault : Fault) : String :=
  if fault.message = "" then fault.name else fault.message

end Fault

inductive NodeError where
  | malformed (node : Json)
  | missingType
  | unknownType (tag : String)
  | failed (fault : Fault)

def NodeError.message : NodeError → String
  | malformed node => s!"malformed node config: expected object, got {node.typeName}"
  | missingType => "missing type field"
  | unknownType tag => s!"unknown widget type: {tag}"
  | failed fault => s!"parse error: {fault.details}"

end ServerUi
