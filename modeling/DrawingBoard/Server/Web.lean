/-
The server as it is seen from the web.

Scripts are sent to the root, either as the body of a POST or in the field `cmd`
of the query of a GET; the latest frame is to be had under its own path.  HEAD is
answered like GET, but without content.  Paths are compared letter by letter.
-/
import DrawingBoard.Server.Basic
import DrawingBoard.Text.Form

namespace DrawingBoard.Web

structure Request where
  method : String
  /-- The path and the query, or a whole address. -/
  target : String
  body : List UInt8 := []

inductive Status where
  | ok
  | badRequest
  | notFound
  | methodNotAllowed
  /-- There is no frame yet. -/
  | unavailable
deriving DecidableEq

def Status.code : Status → Nat
  | .ok => 200
  | .badRequest => 400
  | .notFound => 404
  | .methodNotAllowed => 405
  | .unavailable => 503

inductive Content where
  | text (text : String)
  | image (frame : Canvas)

/-- The answer to a request.  An answer without content of its own leaves the wording to the
transport. -/
structure Response where
  status : Status
  content : Option Content := none

/-- Drops the content, for a client that asked for the head of the answer only. -/
def Response.headOnly (r : Response) : Response :=
  { r with content := if r.status = .ok then some (.text "") else none }

/-- The places that the server knows. -/
inductive Place where
  | root
  | frame
deriving DecidableEq

def Place.ofPath? : String → Option Place
  | "/" => some .root
  | "/frame.png" => some .frame
  | _ => none

/-- May the character stand in the scheme of an address? -/
def isSchemeChar (c : Char) : Bool := c.isAlphanum || c == '+' || c == '-' || c == '.'

/-- What follows the scheme of an address, if there is one. -/
def dropScheme? (address : List Char) : Option (List Char) :=
  match address.dropWhile isSchemeChar with
  | ':' :: '/' :: '/' :: rest => some rest
  | _ => none

/-- Does the character end the host of an address? -/
def endsHost (c : Char) : Bool := c == '/' || c == '?' || c == '#'

/-- The part of a target that names a place on the server: all of it if it begins with a
slash, and what follows the host if it is an address with a scheme.  Other targets, such as a
host alone, name no place. -/
def localPart? (target : List Char) : Option (List Char) :=
  if target.head? = some '/' then some target
  else (dropScheme? target).map (·.dropWhile (!endsHost ·))

/-- The path and the query of a target, without the fragment.  An empty path stands for the
root. -/
def splitTarget? (target : String) : Option (String × String) :=
  (localPart? target.toList).map fun place =>
    let (address, _) := Text.splitFirst (· == '#') place
    let (path, query) := Text.splitFirst (· == '?') address
    (if path.isEmpty then "/" else String.ofList path, String.ofList (query.getD []))

/-- The script in a query: the field `cmd`, or nothing at all.  With two such fields it is not
clear which is meant. -/
def scriptOfQuery? (query : String) : Option String :=
  match Form.valuesOf "cmd" query with
  | [] => some ""
  | [script] => some script
  | _ => none

/-- Submits a script; without one the request is bad. -/
def submit (s : Server) : Option String → Response × Server
  | none => ({ status := .badRequest }, s)
  | some script =>
    match s.accept script with
    | (.ok _, s) => ({ status := .ok, content := some (.text "") }, s)
    | (.error e, s) =>
      ({ status := .badRequest, content := some (.text ("An error occurred: " ++ e.message)) }, s)

def showFrame (s : Server) : Response :=
  match s.latest with
  | some frame => { status := .ok, content := some (.image frame) }
  | none => { status := .unavailable }

def get (s : Server) (place : Place) (query : String) : Response × Server :=
  match place with
  | .root => submit s (scriptOfQuery? query)
  | .frame => (showFrame s, s)

/-- The place that a target names, with the query. -/
def Place.ofTarget? (target : String) : Option (Place × String) := do
  let (path, query) ← splitTarget? target
  let place ← Place.ofPath? path
  return (place, query)

/-- Answers a request, without waiting for the operations that it posts. -/
def answer (s : Server) (request : Request) : Response × Server :=
  match Place.ofTarget? request.target with
  | none => ({ status := .notFound }, s)
  | some (place, query) =>
    match request.method, place with
    | "GET", _ => get s place query
    | "HEAD", _ =>
      let (response, s) := get s place query
      (response.headOnly, s)
    | "POST", .root => submit s (Utf8.decode? request.body)
    | _, _ => ({ status := .methodNotAllowed }, s)

/-- Answers a request and lets the worker come to rest. -/
def respond (s : Server) (request : Request) : Response × Server :=
  let (response, s) := answer s request
  (response, s.rest)

end DrawingBoard.Web
