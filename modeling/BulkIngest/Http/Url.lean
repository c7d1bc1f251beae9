import BulkIngest.Http.Host

/-!
Web addresses in their one form: the scheme in lower case, the host as it is looked up, a path
without steps that lead nowhere, and everything that cannot stand in an address as percent escapes.
-/

namespace BulkIngest

/-- A name and a password as they are written in an address. -/
structure Credentials where
  name : String
  password : Option String
deriving DecidableEq

structure Authority where
  credentials : Option Credentials
  host : Host
  port : Option Nat
deriving DecidableEq

structure Url where
  scheme : String
  authority : Option Authority
  path : String
  query : Option String
  fragment : Option String
deriving DecidableEq

namespace Url

inductive SchemeKind
  | file
  /-- The path is never empty, and a backslash is a slash. -/
  | web
  | other
deriving DecidableEq

/-- Schemes of the web, with the ports that go without saying. -/
def defaultPorts : List (String × Nat) :=
  [("http", 80), ("https", 443), ("ws", 80), ("wss", 443), ("ftp", 21)]

def SchemeKind.of (scheme : String) : SchemeKind :=
  if scheme = "file" then .file
  else if (defaultPorts.lookup scheme).isSome then .web
  else .other

def SchemeKind.isSlash (kind : SchemeKind) (c : Char) : Bool :=
  c = '/' || (c = '\\' && kind ≠ .other)

def SchemeKind.endsAuthority (kind : SchemeKind) (c : Char) : Bool :=
  kind.isSlash c || c = '?' || c = '#'

/-! ## What is escaped -/

def isEscapedInFragment (c : Char) : Bool := Percent.isControl c || " \"<>\x60".contains c

def isEscapedInPath (c : Char) : Bool := isEscapedInFragment c || "#?\x7b\x7d".contains c

def isEscapedInCredentials (c : Char) : Bool := isEscapedInPath c || "/:;=@[\\]^|".contains c

def isEscapedInQuery (kind : SchemeKind) (c : Char) : Bool :=
  Percent.isControl c || " \"#<>".contains c || (c = '\'' && kind ≠ .other)

/-! ## Reading -/

/-- The address without blanks around it, line ends and tabs. -/
def cleaned (text : String) : List Char :=
  let isOuter (c : Char) : Bool := c.toNat ≤ 0x20
  let inner := ((text.toList.dropWhile isOuter).reverse.dropWhile isOuter).reverse
  inner.filter fun c => c ≠ '\t' && c ≠ '\n' && c ≠ '\r'

/-- The scheme in front of a colon, and what follows. -/
def scheme? (cs : List Char) : Option (String × List Char) :=
  let isInner (c : Char) : Bool := c.isAlphanum || c = '+' || c = '-' || c = '.'
  let name := cs.takeWhile isInner
  match name, cs.drop name.length with
  | first :: _, ':' :: rest =>
    if first.isAlpha then some (String.ofList (name.map (·.toLower)), rest) else none
  | _, _ => none

/-- Whether a step of a path is `dots`, with any of the dots as an escape. -/
def isDots (dots : List Char) (step : List Char) : Bool :=
  match dots, step with
  | [], [] => true
  | _ :: dots, '.' :: step => isDots dots step
  | _ :: dots, '%' :: '2' :: c :: step => (c = 'e' || c = 'E') && isDots dots step
  | _, _ => false

/-- Takes one more step of a path; those so far have the last one first. -/
def walk (taken : List String) (step : List Char) : List String :=
  if isDots ['.'] step then taken
  else if isDots ['.', '.'] step then taken.tail
  else Percent.encode isEscapedInPath step :: taken

/-- A path behind its first slash. A step at its end that leads nowhere leaves the slash before
it. -/
def rooted (kind : SchemeKind) (cs : List Char) : String :=
  let steps := (cs.map fun c => if kind.isSlash c then '/' else c).splitOn '/'
  let kept := (steps.foldl walk []).reverse
  let closes := steps.getLast?.any fun step => isDots ['.'] step || isDots ['.', '.'] step
  "/" ++ "/".intercalate (if closes then kept ++ [""] else kept)

/-- A path behind the authority. -/
def pathBehindHost (kind : SchemeKind) (cs : List Char) : String :=
  match cs with
  | [] => if kind = .other then "" else "/"
  | c :: rest => if kind.isSlash c then rooted kind rest else rooted kind cs

/-- A path of a file has no more than one slash in front. -/
def filePath (cs : List Char) : String :=
  "/" ++ String.ofList ((rooted .file cs).toList.dropWhile (· = '/'))

/-- The name in front of the first colon, and the password behind it if there is one. -/
def credentials? (cs : List Char) : Option Credentials :=
  let encoded := Percent.encode isEscapedInCredentials
  let name := cs.takeWhile (· ≠ ':')
  let password := cs.drop (name.length + 1)
  if name.isEmpty && password.isEmpty then none
  else some ⟨encoded name, if password.isEmpty then none else some (encoded password)⟩

/-- The credentials in front of the last at sign before the path, and what follows. -/
def splitCredentials (kind : SchemeKind) (cs : List Char) :
    Except UrlProblem (Option Credentials × List Char) :=
  let section_ := cs.takeWhile (!kind.endsAuthority ·)
  let behind := cs.drop section_.length
  if section_.contains '@' then
    let host := (section_.reverse.takeWhile (· ≠ '@')).reverse
    let before := section_.take (section_.length - host.length - 1)
    if before.isEmpty && host.isEmpty && !behind.isEmpty then .error .emptyHost
    else .ok (credentials? before, host ++ behind)
  else .ok (none, cs)

/-- The characters of a host: all up to a colon that does not stand in brackets, or the path. -/
def hostPart (kind : SchemeKind) (inBrackets : Bool) : List Char → List Char
  | [] => []
  | c :: rest =>
    if (c = ':' && !inBrackets) || kind.endsAuthority c then []
    else c :: hostPart kind (c = '[' || (inBrackets && c ≠ ']')) rest

/-- The port behind a colon, unless it goes without saying. -/
def portOf (scheme : String) (digits : List Char) : Except UrlProblem (Option Nat) :=
  let n := digits.foldl (fun n c => n * 10 + (c.toNat - '0'.toNat)) 0
  if !digits.all (·.isDigit) || 65535 < n then .error .invalidPort
  else if digits.isEmpty || defaultPorts.lookup scheme = some n then .ok none
  else .ok (some n)

/-- The host and the port of an address, and what follows. -/
def authorityOf (scheme : String) (cs : List Char) : Except UrlProblem (Authority × List Char) := do
  let kind := SchemeKind.of scheme
  let (credentials, cs) ← splitCredentials kind cs
  let part := hostPart kind false cs
  let behind := cs.drop part.length
  let host ← if kind = .other then Host.parsePlain part
    else if part.isEmpty then .error .emptyHost
    else Host.parse part
  if host.isEmpty ∧ behind.head? = some ':' then .error .emptyHost
  match behind with
  | ':' :: behind =>
    let digits := behind.takeWhile fun c => c ≠ '/' && c ≠ '\\' && c ≠ '?' && c ≠ '#'
    let port ← portOf scheme digits
    return (⟨credentials, host, port⟩, behind.drop digits.length)
  | _ =>
    if host.isEmpty ∧ credentials.isSome then .error .emptyHost
    return (⟨credentials, host, none⟩, behind)

/-- An address from its parts, where `cs` starts with the path. -/
def assemble (scheme : String) (authority : Option Authority) (path : List Char → String)
    (cs : List Char) : Url :=
  let kind := SchemeKind.of scheme
  let steps := cs.takeWhile fun c => c ≠ '?' && c ≠ '#'
  let behind := cs.drop steps.length
  let query := behind.takeWhile (· ≠ '#')
  let fragment := behind.drop query.length
  let shown (escaped : Char → Bool) (cs : List Char) : Option String :=
    if cs.isEmpty then none else some (Percent.encode escaped cs.tail)
  ⟨scheme, authority, path steps, shown (isEscapedInQuery kind) query,
    shown isEscapedInFragment fragment⟩

/-- The address of a file behind its scheme. The host of this machine goes without saying. -/
def file (cs : List Char) : Except UrlProblem Url := do
  let isSlash := SchemeKind.file.isSlash
  let here : Authority := ⟨none, .name "", none⟩
  let pathBehindSlash (cs : List Char) : String :=
    filePath (if cs.head?.any isSlash then cs.tail else cs)
  match cs with
  | first :: second :: rest =>
    if isSlash first && isSlash second then
      let part := rest.takeWhile (!SchemeKind.file.endsAuthority ·)
      let host ← if part.isEmpty then .ok here.host else Host.parse part
      let host := if host = .name "localhost" then here.host else host
      return assemble "file" (some { here with host }) pathBehindSlash (rest.drop part.length)
    else return assemble "file" (some here) pathBehindSlash cs
  | _ => return assemble "file" (some here) pathBehindSlash cs

def parse (text : String) : Except UrlProblem Url :=
  match scheme? (cleaned text) with
  | none => .error .noScheme
  | some (scheme, rest) =>
    let withAuthority (kind : SchemeKind) (cs : List Char) : Except UrlProblem Url := do
      let (authority, rest) ← authorityOf scheme cs
      return assemble scheme (some authority) (pathBehindHost kind) rest
    match SchemeKind.of scheme with
    | .file => file rest
    | .web => withAuthority .web (rest.dropWhile SchemeKind.web.isSlash)
    | .other =>
      match rest with
      | '/' :: '/' :: rest => withAuthority .other rest
      | '/' :: _ => .ok (assemble scheme none (pathBehindHost .other) rest)
      | rest => .ok (assemble scheme none (Percent.encode Percent.isControl) rest)

/-! ## Writing -/

def Credentials.text (credentials : Credentials) : String :=
  let password := (credentials.password.map (":" ++ ·)).getD ""
  credentials.name ++ password ++ "@"

def authorityText (authority : Authority) : String :=
  let credentials := (authority.credentials.map Credentials.text).getD ""
  let port := (authority.port.map fun port => s!":{port}").getD ""
  "//" ++ credentials ++ authority.host.text ++ port

/-- A path that starts with two slashes would be read as a host if none stood before it. -/
def text (url : Url) : String :=
  let front :=
    match url.authority with
    | some authority => authorityText authority
    | none => if url.path.startsWith "//" then "/." else ""
  url.scheme ++ ":" ++ front ++ url.path ++ (url.query.map ("?" ++ ·)).getD "" ++
    (url.fragment.map ("#" ++ ·)).getD ""

def hasHost (url : Url) : Bool := url.authority.any fun authority => !authority.host.isEmpty

def isReadable (written : String) : Bool :=
  (Text.ofBytes? (Percent.decode (Text.bytes written))).isSome

/-- Credentials do not stay in an address, but those stay whose name is no text, or that are a
password only and that is no text. -/
def withoutCredentials (url : Url) : Url :=
  match url.authority with
  | some authority =>
    match authority.credentials with
    | some ⟨name, password⟩ =>
      if isReadable name && (name ≠ "" || password.any isReadable) then
        { url with authority := some { authority with credentials := none } }
      else url
    | none => url
  | none => url

end Url

end BulkIngest
