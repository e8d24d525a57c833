import UiPolicy.Text.Quoted

/-!
# Errors

The causes for which an operation fails, and their texts.

* `PolicyError`: a policy cannot be evaluated. It never leaves the handling of an event.
* `SubmissionError`: a policy cannot be handed to the backend.
* `Failure`: what a user of the program meets. `Failure.message` is its text, and `Failure.advice`
  the text for a terminal, with a hint if the backend is out of reach.
-/

namespace UiPolicy

/-- Why a policy cannot be evaluated. -/
inductive PolicyError
  /-- A bracket is closed that was not opened. The tokens up to there are kept. -/
  | unbalancedBrackets (input : String) (position : Nat) (tokens : List String)
  | arity (interaction : String) (policy : String) (expected : Nat) (actual : Nat)
  | elementNotFound (id : String) (key : String) (value : String)
  | resolveLimitExceeded (limit : Nat) (policy : String)
deriving Repr, DecidableEq

def PolicyError.message : PolicyError → String
  | .unbalancedBrackets input position _ =>
    "Unbalanced closing bracket at offset " ++ toString position ++ " in " ++ Text.quoted input
  | .arity interaction policy expected actual =>
    interaction ++ " policy " ++ Text.quoted policy ++ " needs at least " ++ toString expected ++
      " arguments, got " ++ toString actual
  | .elementNotFound id key value =>
    "Element not found: id=" ++ id ++ " key=" ++ key ++ " value=" ++ value
  | .resolveLimitExceeded limit policy =>
    "Context markers kept reappearing after " ++ toString limit ++ " resolution passes: " ++ policy

/-- Why a request to the backend fails. -/
inductive SubmissionError
  | requestFailed (reason : String)
  | status (code : Nat) (body : String)
deriving Repr, DecidableEq

def SubmissionError.message : SubmissionError → String
  | .requestFailed reason => "Backend request failed: " ++ reason
  | .status code body => "Backend returned status " ++ toString code ++ ": " ++ body

/-- Why an operation of the program fails. -/
inductive Failure
  | configuration (reason : String)
  | invalidTree (reason : String)
  | invalidScript (reason : String)
  | policy (error : PolicyError)
  | submission (error : SubmissionError)
  | io (reason : String)
deriving Repr, DecidableEq

def Failure.message : Failure → String
  | .configuration reason => "Configuration error: " ++ reason
  | .invalidTree reason => "Invalid element tree: " ++ reason
  | .invalidScript reason => "Invalid event script: " ++ reason
  | .policy error => "Policy error: " ++ error.message
  | .submission error => "Submission error: " ++ error.message
  | .io reason => "I/O error: " ++ reason

/-- The text of a failure for a terminal. -/
def Failure.advice : Failure → String
  | .submission (.requestFailed reason) =>
    "Backend unreachable: " ++ reason ++ "\nCheck [backend].url in the configuration"
  | failure => failure.message

end UiPolicy
