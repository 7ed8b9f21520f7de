import ControlPlane.Api.Target
import ControlPlane.Json.Form
import ControlPlane.Json.Parser
import ControlPlane.Text.Quoted

/-!
# Talking to an API server

Requests, responses and what can go wrong between them. A response with an error status is a
`Refusal`: the one its body spells, or else one made from the status and the body's text.
-/

namespace ControlPlane

/-- The method of a request. -/
inductive Method where
  | get
  | post
  | put
  | patch
  | delete
deriving DecidableEq

/-- The name of a method. -/
def Method.name : Method → String
  | .get => "GET"
  | .post => "POST"
  | .put => "PUT"
  | .patch => "PATCH"
  | .delete => "DELETE"

/-- What the body of a request is. -/
inductive ContentType where
  | json
  | mergePatch
deriving DecidableEq

/-- The media type of a body. -/
def ContentType.name : ContentType → String
  | .json => "application/json"
  | .mergePatch => "application/merge-patch+json"

/-- A request to the server. -/
structure Request where
  method : Method
  target : Target
  body : Option (ContentType × Json) := none

/-- What a request is answered with. -/
inductive Response where
  | answer (status : Nat) (body : String)
  /-- The connection failed. -/
  | broken

/-- A refusal by the server. -/
structure Refusal where
  status : String
  message : String := ""
  reason : String := ""
  code : UInt16
deriving DecidableEq

instance : JsonForm Refusal where
  encode r := .obj <|
    Members.always "status" r.status ++
    Members.always "message" r.message ++
    Members.always "reason" r.reason ++
    Members.always "code" r.code
  decode j := do
    let m ← j.record? ["status", "message", "reason", "code"]
    return {
      status := ← m.required "status"
      message := ← m.withDefault "message" ""
      reason := ← m.withDefault "reason" ""
      code := ← m.required "code" }

/-- A refusal in words: the message and the reason, and all of its fields. -/
def Refusal.text (r : Refusal) : String :=
  r.message ++ ": " ++ r.reason ++
    " (ErrorResponse \x7b status: " ++ Text.quoted r.status ++
    ", message: " ++ Text.quoted r.message ++
    ", reason: " ++ Text.quoted r.reason ++
    ", code: " ++ Nat.repr r.code.toNat ++ " \x7d)"

/-- Why a request failed. -/
inductive ClientError where
  | refused (r : Refusal)
  /-- The connection failed. -/
  | connection
  /-- The body of an answer describes no object of the kind asked for. -/
  | undecodable
  /-- The request needs a name and has none. -/
  | unnamed
  /-- A name holds a character that no target may hold. -/
  | unaddressable
deriving DecidableEq

namespace Request

/-- The target that a text stands for. -/
def targetOf (text : String) : Except ClientError Target :=
  match Target.ofText? text with
  | some target => .ok target
  | none => .error .unaddressable

/-- The request for what a path leads to. -/
def get (path : String) : Except ClientError Request := do
  return { method := .get, target := ← targetOf path }

/-- The request for a listing, narrowed down by a query. -/
def list (path : String) (query : List (String × String)) : Except ClientError Request := do
  return { method := .get, target := ← targetOf (Target.withQuery path query) }

/-- The request that sends a body. -/
def send (method : Method) (path : String) (type : ContentType) (body : Json) :
    Except ClientError Request := do
  return { method, target := ← targetOf (Target.withQuery path []), body := some (type, body) }

end Request

/-- The standard phrase for a status. -/
def reasonPhrase (status : Nat) : String :=
  match status with
  | 400 => "Bad Request"
  | 401 => "Unauthorized"
  | 402 => "Payment Required"
  | 403 => "Forbidden"
  | 404 => "Not Found"
  | 405 => "Method Not Allowed"
  | 406 => "Not Acceptable"
  | 407 => "Proxy Authentication Required"
  | 408 => "Request Timeout"
  | 409 => "Conflict"
  | 410 => "Gone"
  | 411 => "Length Required"
  | 412 => "Precondition Failed"
  | 413 => "Payload Too Large"
  | 414 => "URI Too Long"
  | 415 => "Unsupported Media Type"
  | 416 => "Range Not Satisfiable"
  | 417 => "Expectation Failed"
  | 418 => "I'm a teapot"
  | 421 => "Misdirected Request"
  | 422 => "Unprocessable Entity"
  | 423 => "Locked"
  | 424 => "Failed Dependency"
  | 425 => "Too Early"
  | 426 => "Upgrade Required"
  | 428 => "Precondition Required"
  | 429 => "Too Many Requests"
  | 431 => "Request Header Fields Too Large"
  | 451 => "Unavailable For Legal Reasons"
  | 500 => "Internal Server Error"
  | 501 => "Not Implemented"
  | 502 => "Bad Gateway"
  | 503 => "Service Unavailable"
  | 504 => "Gateway Timeout"
  | 505 => "HTTP Version Not Supported"
  | 506 => "Variant Also Negotiates"
  | 507 => "Insufficient Storage"
  | 508 => "Loop Detected"
  | 510 => "Not Extended"
  | 511 => "Network Authentication Required"
  | _ => "<unknown status code>"

/-- The value that a text spells in the form of a type. -/
def decodeText? {α : Type} [JsonForm α] (text : String) : Option α :=
  match Json.parse text with
  | .ok j => decode j
  | .error _ => none

/-- The refusal in the body of an answer with an error status. -/
def Refusal.ofBody (status : Nat) (body : String) : Refusal :=
  (decodeText? body).getD {
    status := Nat.repr status ++ " " ++ reasonPhrase status
    message := Text.quoted body
    reason := "Failed to parse error data"
    code := UInt16.ofNat status }

/-- Whether a status says that the client or the server is at fault. -/
def isErrorStatus (status : Nat) : Bool :=
  400 ≤ status && status < 600

namespace Response

/-- The body of an answer, unless it carries an error status. -/
def success : Response → Except ClientError String
  | .broken => .error .connection
  | .answer status body =>
    if isErrorStatus status then .error (.refused (.ofBody status body)) else .ok body

/-- The object in the body of an answer. -/
def object (α : Type) [JsonForm α] (r : Response) : Except ClientError α := do
  let body ← r.success
  match decodeText? body with
  | some a => return a
  | none => throw .undecodable

/-- The object in the body of an answer; a refusal for the reason `NotFound` says that there is
none. -/
def object? (α : Type) [JsonForm α] (r : Response) : Except ClientError (Option α) :=
  match r.object α with
  | .ok a => .ok (some a)
  | .error (.refused refusal) =>
    if refusal.reason = "NotFound" then .ok none else .error (.refused refusal)
  | .error e => .error e

end Response

/-- The metadata of a listing. -/
structure ListMeta where
  continuation : Option String
  remainingItemCount : Option Int64
  resourceVersion : Option String
  selfLink : Option String

/-- The metadata of a listing, as its object spells it. -/
def ListMeta.ofJson? (j : Json) : Option ListMeta := do
  let m ← j.object?
  return {
    continuation := ← m.lenient "continue"
    remainingItemCount := ← m.lenient "remainingItemCount"
    resourceVersion := ← m.lenient "resourceVersion"
    selfLink := ← m.lenient "selfLink" }

/-- The items of a listing, which must be named but may be `null`. What else the listing says, its
metadata apart, must be readable. -/
def listingItems? (α : Type) [JsonForm α] (j : Json) : Option (List α) := do
  let m ← j.object?
  guard (m.all fun e => e.1 == "metadata" || e.1 == "items" || e.2.isReadable)
  match Json.valuesOf "metadata" m with
  | [] => pure ()
  | [j] => let _ ← ListMeta.ofJson? j
  | _ => none
  match Json.valuesOf "items" m with
  | [.null] => return []
  | [j] => decode j
  | _ => none

/-- The items in the body of an answer. -/
def Response.items (α : Type) [JsonForm α] (r : Response) : Except ClientError (List α) := do
  let body ← r.success
  match (Json.parse body).toOption.bind (listingItems? α) with
  | some l => return l
  | none => throw .undecodable

/-- A cause in the details of a status report. -/
structure ReportCause where
  reason : String
  message : String
  field : String

instance : JsonForm ReportCause where
  encode c := .obj <|
    Members.always "reason" c.reason ++
    Members.always "message" c.message ++
    Members.always "field" c.field
  decode j := do
    let m ← j.record? ["reason", "message", "field"]
    return {
      reason := ← m.withDefault "reason" ""
      message := ← m.withDefault "message" ""
      field := ← m.withDefault "field" "" }

/-- Whether a value has the form of the details of a status report. -/
def isReportDetails (j : Json) : Bool :=
  Option.isSome <| do
    let m ← j.record? ["name", "group", "kind", "uid", "causes", "retryAfterSeconds"]
    let _ : String ← m.withDefault "name" ""
    let _ : String ← m.withDefault "group" ""
    let _ : String ← m.withDefault "kind" ""
    let _ : String ← m.withDefault "uid" ""
    let _ : List ReportCause ← m.withDefault "causes" []
    let _ : UInt32 ← m.withDefault "retryAfterSeconds" 0
    return ()

/-- Whether a value has the form of a status report. -/
def isReport (j : Json) : Bool :=
  Option.isSome <| do
    let m ← j.object?
    match Json.valuesOf "status" m with
    | [] | [.null] => pure ()
    | [j] => guard (j.variant? = some "Success" ∨ j.variant? = some "Failure")
    | _ => none
    let _ : UInt16 ← m.withDefault "code" 0
    let _ : String ← m.withDefault "message" ""
    let _ : String ← m.withDefault "reason" ""
    match Json.valuesOf "details" m with
    | [] | [.null] => pure ()
    | [j] => guard (isReportDetails j)
    | _ => none

/-- The answer to a deletion, which must be readable, describes the object on its way out or reports a
status. -/
def Response.deleted (α : Type) [JsonForm α] (r : Response) : Except ClientError Unit := do
  let body ← r.success
  match Json.read body with
  | .error _ => throw .undecodable
  | .ok j =>
    let decodes :=
      match j.member? "kind" with
      | some (.str "Status") => isReport j
      | _ => (decode (α := α) j).isSome
    if decodes then return () else throw .undecodable

end ControlPlane
