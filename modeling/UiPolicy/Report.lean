import UiPolicy.Session
import UiPolicy.Table

/-!
# Reports

What commands print: the tokens of an argument list, the state after a replay, and the answer of a
backend. A report is a text for people or a JSON text.
-/

namespace UiPolicy.Report

/-- A number at the right of three columns. -/
def indexColumn (n : Nat) : String :=
  let digits := toString n
  Table.repeated (3 - digits.length) ' ' ++ digits

/-- The tokens of an argument list, and the place of a stray bracket. -/
def tokensText (tokens : List String) (stray : Option Nat) : String :=
  let lines := tokens.zipIdx.map fun (token, index) =>
    indexColumn index ++ "  " ++ Text.quoted token ++ "\n"
  let warning := match stray with
    | some position =>
      "Warning: unbalanced ')' at offset " ++ toString position ++
        "; tokenization stopped early\n"
    | none => ""
  String.join lines ++ "\nTotal: " ++ toString tokens.length ++ " token(s)\n" ++ warning

def tokensJson (tokens : List String) (stray : Option Nat) : String :=
  (Json.object [("tokens", .ofList .string tokens),
    ("unbalanced_at", .ofOption .ofNat stray)]).pretty

/-- The answer of a backend that is well. -/
def healthText (url : String) (body : Json) : String :=
  "Backend " ++ url ++ " is healthy: " ++ body.compact

/-! ## Replays -/

/-- A heading on a terminal, bold and underlined, with an empty line after it. -/
def sectionHead (title : String) : String :=
  "\x1b[4m\x1b[1m" ++ title ++ "\x1b[0m\x1b[0m\n\n"

/-- A table with an empty line after it. -/
def tableText (heading : List String) (rows : List (List String)) : String :=
  (Table.mk heading rows).render ++ "\n\n"

/-- The context, or that it is empty. -/
def contextText (entries : List Context.Entry) : String :=
  sectionHead "Context" ++
    if entries.isEmpty then "  (empty)\n\n"
    else tableText ["Key", "Value"] (entries.map fun e => [e.key, e.value])

/-- The attributes of every element that has some. -/
def attributesText (elements : List (String × List Attribute)) : String :=
  let rows := elements.flatMap fun (id, attributes) =>
    attributes.map fun a => [id, a.key, a.value]
  sectionHead "Element attributes" ++
    if rows.isEmpty then "  (none)\n\n"
    else tableText ["Element", "Key", "Value"] rows

def menuPlace (m : Menu) : String :=
  match m.left, m.top with
  | some left, some top =>
    Decimal.plainLayout.write left ++ ", " ++ Decimal.plainLayout.write top
  | _, _ => "-"

def menusText (menus : List Menu) : String :=
  if menus.isEmpty then ""
  else
    sectionHead "Context menus" ++
      tableText ["Menu", "Display", "Position"]
        (menus.map fun m => [m.key, m.display.name, menuPlace m])

/-- The functions that were submitted, numbered from one. -/
def submissionsText (submissions : List SolverRequest) : String :=
  sectionHead "Submissions" ++
    if submissions.isEmpty then "  (none)\n"
    else
      String.join (submissions.zipIdx.map fun (request, index) =>
        "  " ++ toString (index + 1) ++ ". " ++ request.function ++ "\n")

def snapshotText (s : Snapshot) : String :=
  contextText s.context ++ attributesText s.elements ++ menusText s.menus ++
    submissionsText s.submissions

def snapshotJson (s : Snapshot) : String :=
  (Json.object [
    ("context", .ofList Context.Entry.toJson s.context),
    ("elements", .ofList (fun (id, attributes) =>
      .object [("id", .string id), ("attributes", .ofList Attribute.toJson attributes)])
      s.elements),
    ("menus", .ofList Menu.toJson s.menus),
    ("submissions", .ofList SolverRequest.toJson s.submissions)]).pretty

end UiPolicy.Report
