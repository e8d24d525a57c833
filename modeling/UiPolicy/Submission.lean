import UiPolicy.Context.Store

/-!
# Submissions

A call or callback policy ends in a request to the backend: the resolved policy text and the whole
context at that moment.
-/

namespace UiPolicy

/-- What is sent to the backend for one policy. -/
structure SolverRequest where
  function : String
  context : List Context.Entry
deriving Repr, DecidableEq

namespace SolverRequest

def toJson (r : SolverRequest) : Json :=
  .object [("function", .string r.function), ("context", .ofList Context.Entry.toJson r.context)]

def record : Json.Record SolverRequest where
  name := "SolverRequest"
  fields := [
    .required "function" Json.decodeString fun function r => { r with function },
    .optional "context" (Json.decodeList Context.Entry.decode) fun context r => { r with context }]
  start := ⟨"", []⟩

def decode : Json.Decoder SolverRequest :=
  record.decode

end SolverRequest

end UiPolicy
