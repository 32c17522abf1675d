import TypedCatalog.Json.Reader
import TypedCatalog.Value.Written

/-! Everything that can go wrong, by cause, and the one place that words it. -/
namespace TypedCatalog

/-- A value that an operation cannot take. -/
inductive Misuse where
  /-- The kind of value does not have the operation. -/
  | unsupported
  /-- The kind of value has no members of that sort. -/
  | noMember
  | missingKey
  | missingItem
  /-- A number too large for its place. -/
  | overflow
  deriving DecidableEq

/-- A value of the right kind whose contents make no sense. -/
inductive BadContent where
  | integer (radix : Nat) (text : Text)
  | tooLong (digits : Nat)
  /-- An integer that is to be written and has too many digits. -/
  | unwritable
  | decimal (text : Text)
  /-- What is undefined has no whole part. -/
  | undefinedWhole
  | calendar (fault : CalendarFault)
  | workers
  | zeroByte
  /-- A number beyond the last character. -/
  | codePoint
  /-- An item that is to be a key and a value. -/
  | pairLength (place length : Nat)
  /-- A host with one bracket only. -/
  | openHost
  /-- A host in brackets that gives a version but no address of it. -/
  | laterHost
  /-- A host in brackets that needs none. -/
  | fourPartHost
  /-- A host in brackets that is no numeric address. -/
  | numericHost (text : Text)
  /-- A host with a character that stands for the end of a host. -/
  | disguisedHost (host : Text)
  deriving DecidableEq

inductive FileProblem where
  | missing
  | present
  | notDirectory
  | directory
  | nameTooLong
  deriving DecidableEq

/-- Why a record cannot be read from a document. -/
inductive RecordProblem where
  | notMapping
  | missing (key : Text)
  deriving DecidableEq

/-- A record that cannot be read: what it is, why, and the field that shows where. -/
structure RecordFault where
  kind : Text
  problem : RecordProblem
  field : Text
  deriving DecidableEq

inductive YamlProblem where
  | character
  | token
  | indentation
  | place
  | anchor
  | tag
  | key
  | directive
  | documents
  deriving DecidableEq

inductive DocumentFault where
  | json (problem : Json.Problem) (position : Json.Position)
  | yaml (problem : YamlProblem)
  deriving DecidableEq

/-- Why a service gave no answer that can be used. -/
inductive ServiceFault where
  | network (url reason : Text)
  | status (status : Int) (reason : Option Text) (details : Value)
  | notJson (url : Text) (status : Int)
  | notFound (id : Text)
  | notUpdated (id : Text)
  | notInitialized

inductive Fault where
  | misuse (misuse : Misuse)
  | content (content : BadContent)
  /-- Bytes that are not text. -/
  | encoding
  /-- An entry is to be dropped where none is held. -/
  | nothingHeld
  | file (problem : FileProblem) (path : Text)
  | noSource (path : Text)
  | record (fault : RecordFault)
  /-- A record fault in a file. -/
  | recordIn (path : Text) (fault : RecordFault)
  | unreadable (path : Text) (cause : Fault)
  | document (path : Text) (cause : DocumentFault)
  | root (path : Text)
  | sameModule (first second name : Text)
  | moduleOf (schema : Text) (cause : Fault)
  | service (fault : ServiceFault)

def BadContent.message : BadContent → Text
  | integer radix text =>
    "invalid literal for int() with base " ++ Text.ofNat radix ++ ": " ++
      (Text.quoted text).take 200
  | tooLong digits =>
    "Exceeds the limit (4300 digits) for integer string conversion: value has " ++
      Text.ofNat digits ++ " digits; use sys.set_int_max_str_digits() to increase the limit"
  | unwritable =>
    "Exceeds the limit (4300 digits) for integer string conversion; " ++
      "use sys.set_int_max_str_digits() to increase the limit"
  | decimal text => "could not convert string to float: " ++ Text.quoted text
  | undefinedWhole => "cannot convert float NaN to integer"
  | calendar fault => fault.message
  | workers => "max_workers must be greater than 0"
  | zeroByte => "embedded null byte"
  | codePoint => "chr() arg not in range(0x110000)"
  | pairLength place length =>
    "dictionary update sequence element #" ++ Text.ofNat place ++ " has length " ++
      Text.ofNat length ++ "; 2 is required"
  | openHost => "Invalid IPv6 URL"
  | laterHost => "IPvFuture address is invalid"
  | fourPartHost => "An IPv4 address cannot be in brackets"
  | numericHost text => Text.quoted text ++ " does not appear to be an IPv4 or IPv6 address"
  | disguisedHost host =>
    "netloc '" ++ host ++ "' contains invalid characters under NFKC normalization"

def FileProblem.number : FileProblem → Nat
  | missing => 2
  | present => 17
  | notDirectory => 20
  | directory => 21
  | nameTooLong => 36

def FileProblem.text : FileProblem → Text
  | missing => "No such file or directory"
  | present => "File exists"
  | notDirectory => "Not a directory"
  | directory => "Is a directory"
  | nameTooLong => "File name too long"

/-- A message that names the field it is about, unless that has no name. -/
def aboutField (field message : Text) : Text :=
  if field = [] then message else "Field '" ++ field ++ "': " ++ message

/-- A message that names the file it is about, unless that has no name. -/
def aboutPath (path : Option Text) (message : Text) : Text :=
  match path with
  | none | some [] => message
  | some path => '[' :: path ++ "] " ++ message

def RecordFault.message (fault : RecordFault) : Text :=
  aboutField fault.field <| match fault.problem with
    | .notMapping => fault.kind ++ " record must be a mapping"
    | .missing key => fault.kind ++ " is missing required '" ++ key ++ ['\'']

def YamlProblem.message : YamlProblem → Text
  | character => "character that cannot stand here"
  | token => "token that cannot be read"
  | indentation => "line that does not fit its block"
  | place => "node that does not fit its place"
  | anchor => "alias without an anchor"
  | tag => "node that does not fit its tag"
  | key => "key that cannot be compared"
  | directive => "directive that cannot be followed"
  | documents => "more than one document"

def DocumentFault.message : DocumentFault → Text
  | json problem position => problem.message ++ ": " ++ position.text
  | yaml problem => problem.message

def ServiceFault.message : ServiceFault → Text
  | network url reason => "Request to " ++ url ++ " failed: " ++ reason
  | status number reason _ => "HTTP error " ++ Text.ofInt number ++ ": " ++ reason.getD "None"
  | notJson url _ => "Invalid JSON response from " ++ url
  | notFound id => "No record found with ID: " ++ id
  | notUpdated id => "Update failed for ID: " ++ id
  | notInitialized => "No schema metadata loaded; call initialize() first"

def ServiceFault.code : ServiceFault → Text
  | network .. => "NETWORK_ERROR"
  | status .. => "HTTP_ERROR"
  | notJson .. => "INVALID_RESPONSE"
  | notFound .. => "NOT_FOUND"
  | notUpdated .. => "UPDATE_FAILED"
  | notInitialized => "NOT_INITIALIZED"

def ServiceFault.status? : ServiceFault → Option Int
  | status number _ _ => some number
  | notJson _ number => some number
  | notFound _ => some 404
  | _ => none

def ServiceFault.details : ServiceFault → Value
  | status _ _ details => details
  | _ => .null

/-- The wording of a fault. A misuse, and what cannot be shown to a user, has none. -/
def Fault.message : Fault → Text
  | misuse _ | encoding | nothingHeld => []
  | content cause => cause.message
  | file problem path =>
    "[Errno " ++ Text.ofNat problem.number ++ "] " ++ problem.text ++ ": " ++ Text.quoted path
  | noSource path => "Metadata path '" ++ path ++ "' does not exist"
  | record fault => fault.message
  | recordIn path fault => aboutPath (some path) fault.message
  | unreadable path cause =>
    aboutPath (some path) ("Failed to read metadata file: " ++ cause.message)
  | document path cause => aboutPath (some path) ("Invalid metadata document: " ++ cause.message)
  | root path =>
    aboutPath (some path) "Metadata root must be a schema mapping or a list of them"
  | sameModule first second name =>
    "Schemas '" ++ first ++ "' and '" ++ second ++ "' both map to module '" ++ name ++ ['\'']
  | moduleOf schema cause =>
    "Failed to generate module for schema '" ++ schema ++ "': " ++ cause.message
  | service fault => fault.message

end TypedCatalog
