import UiPolicy.Url.Host

/-!
# Web addresses

Whether a text is an absolute address, and its scheme. White space at the ends and line breaks and
tabs inside do not count. For the schemes of the web any number of slashes, also backward ones, may
stand before the host.
-/

namespace UiPolicy.Url

/-- The kinds of schemes: those of the web need a host, files may have one, and for all others what
stands after the scheme is free. -/
inductive SchemeKind
  | web
  | file
  | other
deriving Repr, DecidableEq

def schemeKind (scheme : String) : SchemeKind :=
  if ["http", "https", "ws", "wss", "ftp"].contains scheme then .web
  else if scheme = "file" then .file
  else .other

/-- The text that counts: without controls and blanks at the ends, tabs and line breaks. -/
def significant (text : String) : List Char :=
  let isOuter (c : Char) : Bool := c.toNat ≤ 0x20
  let trimmed := ((text.toList.dropWhile isOuter).reverse.dropWhile isOuter).reverse
  trimmed.filter fun c => c ≠ '\t' ∧ c ≠ '\n' ∧ c ≠ '\r'

/-- Whether a character may stand in a scheme after its first letter. -/
def isSchemeChar (c : Char) : Bool :=
  c.isAlphanum || c = '+' || c = '-' || c = '.'

/-- The scheme of a text in lower case, and what follows its colon. -/
def cutScheme? (cs : List Char) : Option (String × List Char) :=
  match cs with
  | c :: _ =>
    if c.isAlpha then
      match cs.dropWhile isSchemeChar with
      | ':' :: rest => some (String.ofList ((cs.takeWhile isSchemeChar).map Char.toLower), rest)
      | _ => none
    else none
  | [] => none

/-- Whether a character is a slash; a backward slash counts except for other schemes. -/
def isSlash (kind : SchemeKind) (c : Char) : Bool :=
  c = '/' || (c = '\\' && kind ≠ .other)

/-- Whether a character ends the part with the host. -/
def endsAuthority (kind : SchemeKind) (c : Char) : Bool :=
  isSlash kind c || c = '?' || c = '#'

/-- A text taken apart at the last `@`. -/
def cutCredentials (authority : List Char) : Option (List Char) × List Char :=
  match authority.reverse.dropWhile (· ≠ '@') with
  | [] => (none, authority)
  | _ :: before => (some before.reverse, (authority.reverse.takeWhile (· ≠ '@')).reverse)

/-- A text taken apart at the first colon outside square brackets. -/
def cutPort (inside : Bool) : List Char → List Char × Option (List Char)
  | [] => ([], none)
  | c :: cs =>
    if c = ':' ∧ !inside then ([], some cs)
    else
      let (host, port) := cutPort (if c = '[' then true else if c = ']' then false else inside) cs
      (c :: host, port)

/-- Whether a port is a number below `2 ^ 16`, or left out. -/
def checkPort (port : List Char) : Except UrlError Unit :=
  match numberIn 10 port with
  | some n => if n < Nat.pow 2 16 then .ok () else .error .invalidPort
  | none => .error .invalidPort

/-- Whether what stands between the slashes and the path may stand there. -/
def checkAuthority (kind : SchemeKind) (cs : List Char) : Except UrlError Unit := do
  let authority := cs.takeWhile (!endsAuthority kind ·)
  let ended := authority.length < cs.length
  let (credentials, rest) := cutCredentials authority
  let hasCredentials := credentials.any fun c => c ≠ [] && c ≠ [':']
  if credentials = some [] && rest = [] && ended then throw .emptyHost
  let (host, port) := cutPort false rest
  match kind with
  | .other =>
    checkOpaqueHost host
    if host.isEmpty && (port.isSome || hasCredentials) then throw .emptyHost
  | _ =>
    if host.isEmpty then throw .emptyHost
    checkHost host
  match port with
  | some port => checkPort port
  | none => return

/-- Whether a text is a Windows drive such as `C:`. -/
def isDrive (cs : List Char) : Bool :=
  match cs with
  | [c, ':'] | [c, '|'] => c.isAlpha
  | _ => false

/-- Whether what stands after the scheme of a file may stand there. -/
def checkFile (cs : List Char) : Except UrlError Unit :=
  match cs with
  | a :: b :: rest =>
    if isSlash .file a && isSlash .file b then
      let host := rest.takeWhile (!endsAuthority .file ·)
      if host.isEmpty || isDrive host then .ok () else checkHost host
    else .ok ()
  | _ => .ok ()

def scheme (text : String) : Except UrlError String := do
  match cutScheme? (significant text) with
  | none => throw .relative
  | some (scheme, rest) =>
    match schemeKind scheme with
    | .web => checkAuthority .web (rest.dropWhile (isSlash .web))
    | .file => checkFile rest
    | .other =>
      match rest with
      | '/' :: '/' :: rest => checkAuthority .other rest
      | _ => pure ()
    return scheme

end UiPolicy.Url
