import LapTimer.Http.Target
import LapTimer.Http.Views

/-! The network surface: five resources under fixed paths. Of all requests only one for the
next record and one that sets the lap mode change the stopwatch. -/

namespace LapTimer.Http

structure Request where
  method : String
  target : String
  body : List UInt8 := []

structure Response where
  status : Nat
  headers : List (String × String) := []
  body : List UInt8 := []
  deriving DecidableEq

inductive Resource where
  | state
  | laps
  | count
  | mode
  | record
  deriving DecidableEq, Repr

namespace Resource

def all : List Resource := [state, laps, count, mode, record]

def path : Resource → String
  | state => "/api/state"
  | laps => "/api/laps"
  | count => "/api/laps/count"
  | mode => "/api/laps/mode"
  | record => "/api/record"

def ofPath? (path : String) : Option Resource := all.find? (·.path == path)

def isReadable : Resource → Bool
  | record => false
  | _ => true

def isWritable : Resource → Bool
  | mode | record => true
  | _ => false

/-- The methods of a resource. What can be read can also be asked for its head. -/
def methods (resource : Resource) : List String :=
  (if resource.isReadable then ["GET", "HEAD"] else []) ++
    (if resource.isWritable then ["POST"] else [])

def allow (resource : Resource) : String := ",".intercalate resource.methods

end Resource

def Request.path (request : Request) : String :=
  String.ofList (Target.path request.target.toList)

/-- What a resource tells. -/
inductive Page where
  | state (view : StateView)
  | laps (views : List LapView)
  | count (view : CountView)
  | mode (view : ModeView)
  | record (view : RecordView)
  deriving DecidableEq

def Page.json : Page → Json
  | .state view => Form.toJson view
  | .laps views => Form.toJson views
  | .count view => Form.toJson view
  | .mode view => Form.toJson view
  | .record view => Form.toJson view

inductive Reply where
  | json (status : Nat) (content : Envelope Page)
  | notAllowed (resource : Resource)
  | tooLong
  deriving DecidableEq

namespace Reply

def page (page : Page) : Reply := .json 200 (.ok page)

def badRequest (message : String) : Reply := .json 400 (.fail message)

def notFound : Reply := .json 404 (.fail "Not found")

def response : Reply → Response
  | .json status content =>
      { status
        headers := [("content-type", "application/json")]
        body := (content.json Page.json).bytes }
  | .notAllowed resource => { status := 405, headers := [("allow", resource.allow)] }
  | .tooLong =>
      { status := 413
        headers := [("content-type", "text/plain; charset=utf-8")]
        body := "Failed to buffer the request body: length limit exceeded".toUTF8.toList }

end Reply

variable {P L : Type}

/-- The reply of a readable resource; the record is none. -/
def look (unit : Instrument P L) : Resource → Reply
  | .state => .page (.state (.ofStatus unit.status))
  | .laps => .page (.laps (unit.watch.book.laps.map LapView.ofLap))
  | .count => .page (.count ⟨.ofNat unit.watch.book.count⟩)
  | .mode => .page (.mode ⟨unit.watch.mode.number⟩)
  | .record => .notAllowed .record

/-- The number of bytes a body may have to be read. -/
def bodyLimit : Nat := 2097152

def postMode (unit : Instrument P L) (body : List UInt8) : Instrument P L × Reply :=
  if bodyLimit < body.length then (unit, .tooLong)
  else
    match (Form.read? body : Option ModeRequest) with
    | none => (unit, .badRequest "Invalid lap mode request")
    | some request =>
        match LapMode.ofNumber? request.mode with
        | none => (unit, .badRequest "Lap mode must be 0 or 1")
        | some mode => (unit.setMode mode, .page (.mode ⟨mode.number⟩))

def postRecord (unit : Instrument P L) : Instrument P L × Reply :=
  let (next, record) := unit.readRecord
  (next, .page (.record (.ofRecord record)))

def onResource (unit : Instrument P L) (request : Request) (resource : Resource) :
    Instrument P L × Reply :=
  if (request.method = "GET" || request.method = "HEAD") && resource.isReadable then
    (unit, look unit resource)
  else if request.method = "POST" then
    match resource with
    | .mode => postMode unit request.body
    | .record => postRecord unit
    | other => (unit, .notAllowed other)
  else (unit, .notAllowed resource)

/-- The head of a reply is the whole of it without its body; only what a path
names has one. -/
def route (unit : Instrument P L) (request : Request) : Instrument P L × Response :=
  match Resource.ofPath? request.path with
  | none => (unit, Reply.notFound.response)
  | some resource =>
      let (next, reply) := onResource unit request resource
      let response := reply.response
      (next, if request.method = "HEAD" then { response with body := [] } else response)

def welcomeHeaders : List (String × String) :=
  [("access-control-allow-origin", "*"),
    ("vary", "origin, access-control-request-method, access-control-request-headers")]

/-- The answer to an OPTIONS request, which no resource sees. -/
def preflight (request : Request) : Response :=
  { status := 200
    headers := welcomeHeaders ++
      [("access-control-allow-methods", "*"), ("access-control-allow-headers", "*")] ++
      match Resource.ofPath? request.path with
      | some resource => [("allow", resource.allow)]
      | none => [] }

def serve (welcome : Bool) (unit : Instrument P L) (request : Request) :
    Instrument P L × Response :=
  if welcome && request.method = "OPTIONS" then (unit, preflight request)
  else
    let (next, response) := route unit request
    (next, if welcome then { response with headers := response.headers ++ welcomeHeaders }
      else response)

end LapTimer.Http
