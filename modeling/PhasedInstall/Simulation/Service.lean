import PhasedInstall.Http.Client
import PhasedInstall.Json.Writer

/-!
# A scripted service

A service answers messages by a script: a list of routes, each for one method and one path, and
each for a number of times or for ever. The first route that fits answers. A route without an
answer of its own sends the body of the request back.
-/

set_option autoImplicit false

namespace PhasedInstall.Simulation

/-- An answer to requests with a method and a path. -/
structure Route where
  method : String
  path : String
  status : Nat
  /-- The text to answer with; without one, the body of the request. -/
  text : Option String
  /-- How often the route still answers; without a number, always. -/
  uses : Option Nat

/-- A service with its record of requests. -/
structure Service where
  routes : List Route
  requests : List Http.Request := []
  events : List Event := []
  now : Nat := 0
  /-- When the record ends. -/
  recordEnd : Option Nat := none

namespace Service

/-- The text of a body. -/
def bodyText (body : Option Json) : String := (body.map Json.compact).getD ""

/-- Whether a route answers a request. -/
def fits (r : Route) (request : Http.Request) : Bool :=
  r.uses != some 0 && r.method == request.method.name && r.path == request.target.path

/-- What is answered where no route fits. -/
def noRoute : Http.Response where
  status := 404
  text := Json.compact (.obj [("kind", .str "Status"), ("status", .str "Failure"),
    ("message", .str "no route"), ("reason", .str "NotFound"), ("code", .int 404)])

/-- The answer to a request, and the routes after it. -/
def follow (request : Http.Request) : List Route → Http.Response × List Route
  | [] => (noRoute, [])
  | r :: rest =>
    if fits r request then
      (⟨r.status, r.text.getD (bodyText request.body)⟩,
        { r with uses := r.uses.map (· - 1) } :: rest)
    else
      let (response, rest) := follow request rest
      (response, r :: rest)

/-- Records a request, unless the record has ended. -/
def record (service : Service) (request : Http.Request) : Service :=
  match service.recordEnd with
  | some time =>
    if time < service.now then service
    else { service with requests := service.requests ++ [request] }
  | none => { service with requests := service.requests ++ [request] }

/-- Takes one step. -/
def answer : (s : Http.Step) → Service → s.Reply × Service
  | .send request, service =>
    let (response, routes) := follow request service.routes
    (response, { service.record request with routes := routes })
  | .clock since, service =>
    (⟨max since service.now, Nat.le_max_left ..⟩, { service with now := max since service.now })
  | .sleep since duration, service =>
    let woken := max since service.now + duration
    (⟨woken, Nat.add_le_add_right (Nat.le_max_left ..) _⟩, { service with now := woken })
  | .report event, service => ((), { service with events := service.events ++ [event] })

/-- Runs a piece of work against the service. There is no result if the work gave up for good. -/
def run {α : Type} (service : Service) (client : Http.Client) (work : Work α) :
    Option (Except Fault α) × Service :=
  (client.perform work).run answer service

/-- The requests since the record was last taken, and the service with an empty record. -/
def takeRequests (service : Service) : List Http.Request × Service :=
  (service.requests, { service with requests := [] })

end Service

end PhasedInstall.Simulation
