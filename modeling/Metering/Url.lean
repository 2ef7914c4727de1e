import Metering.Url.Host
import Metering.Url.Percent

/-!
# URLs

A URL in its parts, each part encoded as it stands in the URL, and its text.
-/

namespace Metering

inductive Url.Path where
  /-- A path that does not begin with a slash, as it stands. -/
  | rootless (text : List Char)
  /-- The segments behind the slashes. -/
  | rooted (segments : List (List Char))
  deriving DecidableEq, Repr

/-- A URL in its parts. -/
structure Url where
  scheme : List Char
  userName : List Char
  password : List Char
  host : Option Url.Host
  /-- The port, unless it is the usual one of the scheme. -/
  port : Option Nat
  path : Url.Path
  query : Option (List Char)
  fragment : Option (List Char)
  deriving DecidableEq, Repr

namespace Url

/-- How a path is written. -/
def Path.text : Path → List Char
  | rootless text => text
  | rooted segments => segments.flatMap ('/' :: ·)

/-- How the user name and the password are written. -/
def userText (u : Url) : List Char :=
  if u.userName.isEmpty && u.password.isEmpty then []
  else u.userName ++ (if u.password.isEmpty then [] else ':' :: u.password) ++ ['@']

/--
How the host and its port are written. A path that begins with two slashes is set off from a
missing host.
-/
def authorityText (u : Url) : List Char :=
  match u.host with
  | some host =>
    '/' :: '/' :: u.userText ++ host.text ++
      match u.port with
      | some port => ':' :: Nat.toDigits 10 port
      | none => []
  | none =>
    match u.path with
    | .rooted ([] :: _ :: _) => ['/', '.']
    | _ => []

/-- What a server is asked for: the path and the query. -/
def target (u : Url) : List Char :=
  u.path.text ++ (u.query.map ('?' :: ·)).getD []

def text (u : Url) : List Char :=
  u.scheme ++ ':' :: u.authorityText ++ u.target ++ (u.fragment.map ('#' :: ·)).getD []

/-- The URL with a pair added to its query. -/
def addPair (u : Url) (pair : String × String) : Url :=
  { u with query := some (Form.append (u.query.getD []) pair) }

/-- The URL with pairs added to its query. -/
def addPairs (u : Url) (pairs : List (String × String)) : Url :=
  pairs.foldl addPair u

end Url

end Metering
