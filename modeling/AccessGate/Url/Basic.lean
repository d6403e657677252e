import AccessGate.Url.Host
import AccessGate.Url.Path

/-!
URLs: their parts and their text. A URL without a host has nothing between scheme and path; one
with an empty host still has the slashes there.
-/

namespace AccessGate

/-- A path of segments, or a text that is not one of segments. -/
inductive Url.UrlPath where
  | segments (list : List (List Char))
  | text (chars : List Char)
  deriving DecidableEq, Repr, Inhabited

structure Url where
  scheme : List Char
  username : List Char
  password : List Char
  host : Option Url.Host
  port : Option Nat
  urlPath : Url.UrlPath
  query : Option (List Char)
  fragment : Option (List Char)
  deriving DecidableEq, Repr, Inhabited

namespace Url

def defaultPort? (scheme : List Char) : Option Nat :=
  if scheme = "http".toList ∨ scheme = "ws".toList then some 80
  else if scheme = "https".toList ∨ scheme = "wss".toList then some 443
  else if scheme = "ftp".toList then some 21
  else none

def isFile (scheme : List Char) : Bool := scheme == "file".toList

def isSpecial (scheme : List Char) : Bool :=
  (defaultPort? scheme).isSome || isFile scheme

def path (url : Url) : List Char :=
  match url.urlPath with
  | .segments list => Path.render list
  | .text chars => chars

def hostText (url : Url) : List Char := (url.host.map Host.render).getD []

/-- Host, and the port unless it is the scheme's own. -/
def authority (url : Url) : List Char :=
  match url.port with
  | some port => url.hostText ++ ':' :: Text.natText port
  | none => url.hostText

def userInfo (url : Url) : List Char :=
  let password := if url.password.isEmpty then [] else ':' :: url.password
  if url.username.isEmpty && url.password.isEmpty then [] else url.username ++ password ++ ['@']

/-- What stands between the scheme and the path. Without a host a path that begins with two
slashes needs a mark ahead of it. -/
def beforePath (url : Url) : List Char :=
  match url.host, url.path with
  | some _, _ => "//".toList ++ url.userInfo ++ url.authority
  | none, '/' :: '/' :: _ => "/.".toList
  | none, _ => []

def marked (mark : Char) : Option (List Char) → List Char
  | some text => mark :: text
  | none => []

def render (url : Url) : List Char :=
  url.scheme ++ ':' :: url.beforePath ++ url.path ++ marked '?' url.query ++
    marked '#' url.fragment

def queryPairs (url : Url) : List (List Char × List Char) := Form.parse (url.query.getD [])

end Url

end AccessGate
