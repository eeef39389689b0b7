import SourceAudit.Scan
import SourceAudit.Service.Caller
import SourceAudit.Service.Order
import SourceAudit.Service.Response

/-!
# SourceAudit.Service.Application

The service. An order of a scan is examined, then admitted, and only then carried out: the scans
from one address are limited in the short run, and those of one account a day by its plan.
-/

namespace SourceAudit.Service

open Number Remote

/-- The service as configured. -/
structure Application where
  settings : Settings
  /-- The rules; there are none if the rules file could not be loaded. -/
  registry : Option Registry

/-- What the service keeps between requests, and the world around it. -/
structure State where
  world : World
  controller : Admission.Controller

namespace State

/-- The state of a service that starts in a world. -/
def start (world : World) : State := ⟨world, .start world.now⟩

end State

/-- The answer to a request, and the requests to GitHub made for it. -/
structure Answer where
  response : Response
  requests : List Remote.Request

namespace Application

/-- The key under which the scans from an address are counted. -/
def burstKey (app : Application) (address : String) : String :=
  Admission.key app.settings.burstProfile.name address

/-- The key under which the scans of an account are counted. -/
def planKey (account : String) : String := Admission.key "scan" account

/-- One attempt at a limit: the decision if it is admitted. -/
def attempt (c : Admission.Controller) (now : Rat) (quota : Quota) (key : String)
    (p : Admission.Profile) : Except Failure Admission.Decision × Admission.Controller :=
  match c.check Binary64.round now key p with
  | (.error _, c) => (.error .internal, c)
  | (.ok d, c) => (if d.allowed then .ok d else .error (.quota quota d.resetAt d.limit), c)

/-- Admits a scan of a caller: by its address, and then by the plan of its account. -/
def admission (app : Application) (caller : Caller) (now : Rat) (c : Admission.Controller) :
    Except Failure Admission.Decision × Admission.Controller :=
  match attempt c now .burst (app.burstKey caller.address) app.settings.burstProfile with
  | (.error f, c) => (.error f, c)
  | (.ok _, c) =>
    attempt c now .plan (planKey caller.account) (app.settings.plans.profile caller.tier)

/-- Refuses a request without any call of GitHub. -/
def refuse (st : State) (f : Failure) : Answer × State := (⟨.ofFailure st.world.now f, []⟩, st)

/-- Carries out an order that is admitted. -/
def carryOut (app : Application) (g : Registry) (order : Order) (d : Admission.Decision)
    (st : State) : Answer × State :=
  let scanner : Scanner := .create app.settings none g []
  let (result, session) := scanner.scan order.repository order.token st.world
  let st := { st with world := session.world }
  let response := match result with
    | .ok report => Response.ofReport d report
    | .error f => Response.ofFailure st.world.now f
  (⟨response, session.requests⟩, st)

/-- Carries out an order of a caller if it is admitted. -/
def serve (app : Application) (g : Registry) (caller : Caller) (order : Order) (st : State) :
    Answer × State :=
  match app.admission caller st.world.now st.controller with
  | (.error f, c) => refuse { st with controller := c } f
  | (.ok d, c) => app.carryOut g order d { st with controller := c }

/-- Answers a request for a scan. -/
def scan (app : Application) (r : Request) (st : State) : Answer × State :=
  match r.content, app.registry with
  | .error .grammar, _ => refuse st (.input .unreadableBody)
  | .error _, _ => (⟨.undecodable, []⟩, st)
  | .ok _, none => refuse st .internal
  | .ok j, some g =>
    match Order.ofJson app.settings j with
    | .error fault => refuse st (.input fault)
    | .ok order => app.serve g (.ofRequest r) order st

/-- Answers a request. -/
def handle (app : Application) (r : Request) (st : State) : Answer × State :=
  match r.path, r.method with
  | "/scan", "POST" => app.scan r st
  | "/health", "GET" => (⟨.healthy, []⟩, st)
  | "/scan", _ => (⟨.notAllowed, []⟩, st)
  | "/health", _ => (⟨.notAllowed, []⟩, st)
  | _, _ => (⟨.notFound, []⟩, st)

end Application

end SourceAudit.Service
