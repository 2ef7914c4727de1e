import Metering.Url

/-!
# Reading URLs

The reader of URLs. What is behind the first hash is the fragment, and what is behind the first
question mark before it is the query. The schemes of the web are special: they always have a host,
any number of slashes or backslashes may stand before it, and the path behind it is never empty.
-/

namespace Metering

namespace Url

open Metering.Text

/-! ## Schemes -/

inductive SchemeKind where
  | special
  | file
  | other
  deriving DecidableEq, Repr

/-- The usual port of a special scheme. -/
def usualPort? (scheme : String) : Option Nat :=
  [("http", 80), ("https", 443), ("ws", 80), ("wss", 443), ("ftp", 21)].lookup scheme

def schemeKind (scheme : String) : SchemeKind :=
  if scheme = "file" then .file
  else if (usualPort? scheme).isSome then .special
  else .other

/-- The scheme at the beginning of a text, in small letters, and what is behind its colon. -/
def scheme? : List Char → Option (List Char × List Char)
  | [] => none
  | c :: rest =>
    let name := rest.takeWhile fun c => c.isAlphanum || c == '+' || c == '-' || c == '.'
    match c.isAlpha, rest.drop name.length with
    | true, ':' :: rest => some ((c :: name).map Char.toLower, rest)
    | _, _ => none

/-- The text before the first character of a kind, and the text behind it if there is one. -/
def cut (c : Char) (s : List Char) : List Char × Option (List Char) :=
  match s.dropWhile (· != c) with
  | [] => (s, none)
  | _ :: rest => (s.takeWhile (· != c), some rest)

/-- A tab or the end of a line. They are passed over wherever they stand. -/
def isGap (c : Char) : Bool :=
  c == '\t' || c == '\n' || c == '\r'

/-- The text without its gaps. -/
def closeGaps (s : List Char) : List Char :=
  s.filter (!isGap ·)

/-- The text without blanks and controls around it. -/
def trimControls (s : List Char) : List Char :=
  let outer (c : Char) : Bool := c.toNat ≤ 0x20
  ((s.dropWhile outer).reverse.dropWhile outer).reverse

/-! ## Paths -/

/-- A slash of a path. Backslashes count where the scheme is known to the web. -/
def isSlash (kind : SchemeKind) (c : Char) : Bool :=
  c == '/' || (c == '\\' && kind != .other)

/-- The text with encoded dots decoded. -/
def decodeDots : List Char → List Char
  | '%' :: '2' :: 'e' :: rest => '.' :: decodeDots rest
  | '%' :: '2' :: 'E' :: rest => '.' :: decodeDots rest
  | c :: rest => c :: decodeDots rest
  | [] => []

/-- What a segment does to the path before it. -/
inductive Step where
  /-- A single dot leads nowhere. -/
  | stay
  /-- Two dots lead back. -/
  | back
  | down (segment : List Char)
  deriving DecidableEq, Repr

/-- What a segment without gaps does. -/
def Step.of (segment : List Char) : Step :=
  match decodeDots segment with
  | ['.', '.'] => back
  | ['.'] => stay
  | _ => down segment

/-- The drive that a segment names, with a colon. -/
def drive? : List Char → Option (List Char)
  | [c, mark] => if c.isAlpha ∧ (mark = ':' ∨ mark = '|') then some [c, ':'] else none
  | _ => none

/-- Whether a segment is a drive, or begins with one and a backslash. It cannot be left again. -/
def holdsDrive : List Char → Bool
  | [c, mark] => (drive? [c, mark]).isSome
  | c :: mark :: next :: _ => (drive? [c, mark]).isSome && next == '\\'
  | _ => false

/-- The drive that a gap sets off from the rest of a segment, and that rest. -/
def driveBeforeGap? (segment : List Char) : Option (List Char × List Char) :=
  let behind := (segment.dropWhile isGap).drop 1 |>.dropWhile isGap |>.drop 1
  match closeGaps (segment.take (segment.length - behind.length)), behind with
  | [c, ':'], gap :: _ =>
    if c.isAlpha ∧ isGap gap ∧ closeGaps behind ≠ [] then some ([c, ':'], closeGaps behind) else none
  | _, _ => none

/-- A path while it is read. -/
structure Trail where
  /-- The segments, the last one first. -/
  segments : List (List Char)
  /-- Whether it begins with the drive of a file. -/
  drive : Bool := false
  deriving DecidableEq, Repr

/-- The path without its last segment. A drive stays. -/
def Trail.shorten (trail : Trail) : Trail :=
  match trail.segments with
  | [] => trail
  | segment :: rest => if holdsDrive segment then trail else { trail with segments := rest }

/-- The path with a segment behind it. -/
def Trail.push (trail : Trail) (segment : List Char) : Trail :=
  { trail with segments := percentEncode inPathSet segment :: trail.segments }

/-- The path after one more segment. At the beginning of the path of a file there may be a drive. -/
def Trail.enter (kind : SchemeKind) (trail : Trail) (segment : List Char) : Trail :=
  let atDrive := kind == .file && trail.segments.isEmpty
  match if atDrive then driveBeforeGap? segment else none with
  | some (drive, rest) => (trail.push drive).push rest
  | none =>
    match Step.of (closeGaps segment) with
    | .back => trail.shorten
    | .stay => trail
    | .down segment =>
      match if atDrive then drive? segment else none with
      | some drive => ⟨[drive], true⟩
      | none => trail.push segment

/-- The path that segments make. Dots at its end leave an empty segment. -/
def Trail.walk (kind : SchemeKind) (segments : List (List Char)) : Trail :=
  let trail := segments.foldl (enter kind) ⟨[], false⟩
  match segments.getLast?.map fun last => Step.of (closeGaps last) with
  | some .back | some .stay => trail.push []
  | _ => trail

/-- The path that a text behind the first slash gives. -/
def Trail.ofText (kind : SchemeKind) (s : List Char) : Trail :=
  walk kind (splitOn (isSlash kind) s)

/-- The segments of a path in their order. That of a file has no empty ones at its beginning. -/
def Trail.toList (kind : SchemeKind) (trail : Trail) : List (List Char) :=
  match kind, trail.segments.reverse.dropWhile List.isEmpty with
  | .file, [] => [[]]
  | .file, segments => segments
  | _, _ => trail.segments.reverse

/-- The path that a text behind the first slash gives. -/
def pathOf (kind : SchemeKind) (s : List Char) : Path :=
  .rooted ((Trail.ofText kind s).toList kind)

/-- The text behind the slash at its beginning, gaps aside, if there is one. -/
def behindSlash? (kind : SchemeKind) (s : List Char) : Option (List Char) :=
  match s.dropWhile isGap with
  | [] => none
  | c :: rest => if isSlash kind c then some rest else none

/-- The path behind a host. It is never empty where the scheme is known to the web. -/
def pathBehindHost (kind : SchemeKind) (s : List Char) : Path :=
  match kind, s with
  | .other, [] => .rooted []
  | kind, s => pathOf kind ((behindSlash? kind s).getD s)

/-! ## Hosts -/

/-- The user name and password before the last at sign, and what is behind it. -/
def splitUser (s : List Char) : Option (List Char) × List Char :=
  match (s.reverse.dropWhile (· != '@')) with
  | [] => (none, s)
  | _ :: before => (some before.reverse, (s.reverse.takeWhile (· != '@')).reverse)

/-- The host before the first colon outside brackets, and what is behind that colon. -/
def splitPort (inBrackets : Bool) : List Char → List Char × Option (List Char)
  | [] => ([], none)
  | c :: rest =>
    if c = ':' ∧ !inBrackets then ([], some rest)
    else
      let (host, port) := splitPort (c == '[' || (inBrackets && c != ']')) rest
      (c :: host, port)

/-- A port, or nothing for no digits. -/
def portOf (s : List Char) : Except Invalid (Option Nat) :=
  let n := ofDigits s
  if s.isEmpty then .ok none
  else if s.all isDigit && n < 65536 then .ok (some n)
  else .error .port

/--
The URL with the parts that follow two slashes: `authority` is the text up to the next slash, and
`behind` the text from there on. A backslash ends a port in every scheme. What `goesOn` tells is
whether there is a query or a fragment.
-/
def withAuthority (kind : SchemeKind) (u : Url) (authority behind : List Char) (goesOn : Bool) :
    Except Invalid Url := do
  let (user, address) := splitUser authority
  if user = some [] && address.isEmpty && (goesOn || !behind.isEmpty) then throw .emptyHost
  let (userName, password) := cut ':' (user.getD [])
  let userName := percentEncode inUserSet userName
  let password := percentEncode inUserSet (password.getD [])
  let hasUser := !userName.isEmpty || !password.isEmpty
  let (hostText, afterColon) := splitPort false address
  if hostText.isEmpty && (kind != .other || afterColon.isSome) then throw .emptyHost
  let host ← if kind = .other then Host.ofRawText hostText else Host.ofText hostText
  let portText := (afterColon.getD []).takeWhile (· != '\\')
  let port ← portOf portText
  if hostText.isEmpty && hasUser then throw .emptyHost
  return { u with
    userName, password
    host := some host
    port := if port = usualPort? (String.ofList u.scheme) then none else port
    path := pathBehindHost kind ((afterColon.getD []).drop portText.length ++ behind) }

/-- The host of a file, unless it is this machine. -/
def fileHost? (s : List Char) : Except Invalid (Option Host) := do
  if s.isEmpty then return none
  match ← Host.ofText s with
  | .domain name => return if name = "localhost".toList then none else some (.domain name)
  | host => return some host

/-- A URL of a file. A drive takes the place of a host. -/
def ofFile (u : Url) (s : List Char) : Except Invalid Url := do
  let onThisMachine (path : Path) : Url := { u with host := some (.domain []), path }
  let some rest := behindSlash? .file s | return onThisMachine (pathOf .file s)
  let some rest := behindSlash? .file rest | return onThisMachine (pathOf .file rest)
  let nameText := rest.takeWhile fun c => !isSlash .file c
  let name := closeGaps nameText
  if (drive? name).isSome then return onThisMachine (pathOf .file rest)
  let behind := rest.drop nameText.length
  let some host ← fileHost? name | return onThisMachine (pathOf .file behind)
  let trail := Trail.ofText .file ((behindSlash? .file behind).getD behind)
  return { u with
    host := some (if trail.drive then .domain [] else host)
    path := .rooted (trail.toList .file) }

/-- Reads a URL. -/
def parse (input : List Char) : Except Invalid Url := do
  let s := trimControls input
  let (s, fragment) := cut '#' s
  let (s, query) := cut '?' s
  let some (scheme, _) := scheme? (closeGaps s) | throw .noScheme
  let s := ((cut ':' s).2).getD []
  let kind := schemeKind (String.ofList scheme)
  let querySet := if kind = .other then inQuerySet else inSpecialQuerySet
  let u : Url :=
    { scheme, userName := [], password := [], host := none, port := none
      path := .rootless []
      query := query.map fun query => percentEncode querySet (closeGaps query)
      fragment := fragment.map fun fragment => percentEncode inFragmentSet (closeGaps fragment) }
  let goesOn := query.isSome || fragment.isSome
  match kind with
  | .file => ofFile u s
  | .special =>
    let s := (closeGaps s).dropWhile (isSlash .special)
    let authority := s.takeWhile fun c => !isSlash .special c
    withAuthority .special u authority (s.drop authority.length) goesOn
  | .other =>
    match closeGaps s with
    | '/' :: '/' :: s =>
      let authority := s.takeWhile (· != '/')
      withAuthority .other u authority (s.drop authority.length) goesOn
    | '/' :: s => return { u with path := pathOf .other s }
    | s => return { u with path := .rootless (percentEncode isControl s) }

end Url

end Metering
