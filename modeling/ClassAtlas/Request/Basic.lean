import ClassAtlas.Detail.Listing
import ClassAtlas.Detail.Members
import ClassAtlas.Usage.Scan

/-!
Requests about the classes of a project, and their answers.
-/

namespace ClassAtlas

/-- A request, with its parameters as they were given. -/
inductive Request where
  /-- List the classes under a directory. -/
  | classes (path : Json) (options : ListingOptions) (rawDocBlocks : Bool)
  /-- Find the usages of a class under a directory; a path that does not count as given stands for the
  one in the settings. -/
  | usages (target path : Json) (options : ScanOptions)
  /-- Describe one class with its members. -/
  | detail (reference : Json) (options : DetailOptions)

/-- Whether the settings have a part in a request. -/
def Request.usesSettings : Request → Bool
  | .usages _ path _ => !path.isGiven
  | _ => false

/-- The answer to a request. -/
inductive Answer where
  | classes (descriptions : List Json)
  | usages (report : UsageReport)
  | detail (description : Json)

/-- An answer as JSON. -/
def Answer.toJson : Answer → Json
  | .classes descriptions => .list descriptions
  | .usages report => report.toJson
  | .detail description => description

/-- How requests are answered to programs: a value, or a complaint with its kind. -/
inductive Response where
  | value (data : Json)
  | complaint (text : String) (kind : FailureKind)

namespace Response

/-- The response for a failure. -/
def ofFailure (failure : Failure) : Response := .complaint failure.message failure.kind

/-- Whether a response is a complaint. -/
def isError : Response → Bool
  | .value _ => false
  | .complaint .. => true

/-- The text of a response. -/
def text : Response → String
  | .value data => data.render
  | .complaint text _ => text

/-- The word for the kind of a response. -/
def kindLabel : Response → String
  | .value _ => "ok"
  | .complaint _ kind => kind.label

/-- The value of a response; a complaint has none. -/
def data : Response → Except Fault Json
  | .value data => .ok data
  | .complaint text _ => .error (.badValue ("Error response has no data: " ++ text))

end Response

end ClassAtlas
