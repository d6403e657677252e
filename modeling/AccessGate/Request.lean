import AccessGate.Denial
import AccessGate.Http.Method
import AccessGate.Http.Target
import AccessGate.Json.Value
import AccessGate.Url.Parser

/-!
The parts of an inbound request that the access decision is based on, and how they are derived
from what was received.
-/

namespace AccessGate

open Text (cut trim lower sameIgnoringCase)

structure Request where
  method : Http.Method
  url : Url
  /-- Host and port as the caller sent them; a port that is the scheme's own is kept. -/
  authority : List Char
  token : Option String
  remoteIp : Option String
  context : Json.Members
  deriving Inhabited

namespace Request

def ofUrl (method : Http.Method) (url : Url) : Request :=
  ⟨method, url, url.authority, none, none, []⟩

/-- An empty token is none. -/
def withToken (request : Request) (token : String) : Request :=
  { request with token := if token = "" then none else some token }

/-- What rules are matched against: scheme, authority and path. -/
def matchUrl (request : Request) : List Char :=
  request.url.scheme ++ "://".toList ++ request.authority ++ request.url.path

def header? (headers : Http.Headers) (name : String) : Option (List Char) := headers.text? name

def firstEntry (value : List Char) : List Char := trim (cut ',' value).1

def nonEmpty? (cs : List Char) : Option (List Char) := if cs.isEmpty then none else some cs

/-- Whom a request is addressed to: its host header, else its target. -/
def authorityOf (target : Http.Target) (headers : Http.Headers) : Except Denial (List Char) :=
  match header? headers "host" with
  | some value =>
      match Http.Authority.parse value with
      | .ok authority => .ok (Http.Authority.normal authority)
      | .error e =>
          .error (.badRequest ("invalid host \x60" ++ String.ofList value ++ "\x60: " ++ e.message))
  | none =>
      match target.authority? with
      | some authority => .ok (Http.Authority.normal authority)
      | none => .error (.badRequest "request has no host")

/-- The authority of an absolute URL just as it was written, its own port included. -/
def rawAuthority? (text : List Char) : Option (List Char) :=
  match Http.Target.parse text with
  | .ok target => target.authority?.map Http.Authority.normal
  | .error _ => none

def schemeOf (target : Http.Target) (headers : Http.Headers) : List Char :=
  let forwarded := (header? headers "x-forwarded-proto").bind fun value =>
    nonEmpty? (lower (firstEntry value))
  (forwarded.or target.scheme?).getD "http".toList

def urlOf (target : Http.Target) (headers : Http.Headers) : Except Denial Url :=
  match authorityOf target headers with
  | .error e => .error e
  | .ok authority =>
      let tail := target.pathAndQuery?.getD ['/']
      match Url.parse (schemeOf target headers ++ "://".toList ++ authority ++ tail) with
      | .ok url => .ok url
      | .error e => .error (.badRequest ("malformed request url: " ++ e.message))

def headerToken? (headers : Http.Headers) : Option (List Char) :=
  match header? headers "authorization" with
  | some value =>
      match cut ' ' value with
      | (scheme, some token) =>
          if sameIgnoringCase scheme "bearer".toList then nonEmpty? (trim token) else none
      | _ => none
  | none => none

def tokenParameter : List Char := "access_token".toList

def queryToken? (url : Url) : Option (List Char) :=
  (url.queryPairs.find? (·.1 == tokenParameter)).bind fun pair => nonEmpty? pair.2

/-- The bearer token: of the authorization header, else of the query. -/
def tokenOf (headers : Http.Headers) (url : Url) : Option String :=
  ((headerToken? headers).or (queryToken? url)).map String.ofList

/-- The caller's address as the balancers ahead tell it, else the peer's own. -/
def remoteIpOf (headers : Http.Headers) (peer : Option Net.SocketAddress) : Option String :=
  let forwarded := (header? headers "x-forwarded-for").bind fun value =>
    nonEmpty? (firstEntry value)
  let real := (header? headers "x-real-ip").bind fun value => nonEmpty? (trim value)
  ((forwarded.or real).or (peer.map (·.address.render))).map String.ofList

def ofHttp (method : Http.Method) (target : Http.Target) (headers : Http.Headers)
    (peer : Option Net.SocketAddress) : Except Denial Request :=
  match authorityOf target headers with
  | .error e => .error e
  | .ok authority =>
      match urlOf target headers with
      | .error e => .error e
      | .ok url =>
          .ok ⟨method, url, authority, tokenOf headers url, remoteIpOf headers peer, []⟩

end Request

end AccessGate
