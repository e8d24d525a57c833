import UiPolicy.Config
import UiPolicy.Session

/-!
# The backend

The backend hands out the element tree, says whether it is well, and takes submissions. What lies
between is a `Transport`: a function from requests to responses, so that everything said here holds
whatever the network does.
-/

namespace UiPolicy

inductive Request
  | get (address : String)
  | post (address body : String)
deriving Repr, DecidableEq

structure Response where
  status : Nat
  body : String
deriving Repr, DecidableEq

/-- Whether a response says that all went well. -/
def Response.isSuccess (r : Response) : Bool :=
  200 ≤ r.status ∧ r.status < 300

/-- What becomes of a request: a response, or the reason why there is none. -/
structure Transport where
  send : Request → Except String Response

/-- A backend at an address that ends in no slash. -/
structure Backend where
  address : String
  transport : Transport

namespace Backend

def ofConfig (config : BackendConfig) (transport : Transport) : Backend :=
  ⟨config.baseUrl, transport⟩

/-- The value that the backend answers with. -/
def exchange (b : Backend) (request : Request) : Except SubmissionError Json :=
  match b.transport.send request with
  | .error reason => .error (.requestFailed reason)
  | .ok response =>
    if response.isSuccess then
      (Json.decodeText Json.decodeAny response.body).mapError fun e =>
        .requestFailed ("error decoding response body: " ++ e.message)
    else .error (.status response.status response.body)

def health (b : Backend) : Except Failure Json :=
  (b.exchange (.get (b.address ++ "/health"))).mapError .submission

def fetchTree (b : Backend) : Except Failure ElementNode := do
  let body ← (b.exchange (.get (b.address ++ "/"))).mapError .submission
  (Json.decodeValue ElementNode.decode body).mapError fun e => .invalidTree e.message

/-- Sends a submission and notes what became of it. -/
def submit (b : Backend) (request : SolverRequest) : Noted Unit :=
  match b.exchange (.post (b.address ++ "/solver") request.toJson.compact) with
  | .ok _ => note (.submissionSucceeded request.function)
  | .error e => note (.submissionFailed request.function e)

/-- Sends every submission of a session that waits, in order. None waits afterwards. -/
def flush (b : Backend) (s : Session) : Noted Session := do
  s.state.posted.forM b.submit
  return { s with state := { s.state with posted := [] } }

end Backend

end UiPolicy
