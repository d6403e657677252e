import AccessGate.Http.Field

/-!
Media types: two tokens with a slash between them, and parameters, each a name and a value that may
be quoted.
-/

namespace AccessGate.Http.MediaType

def isQuotedChar (c : Char) : Bool := 32 ≤ c.toNat && c.toNat != 127

def skipQuoted : List Char → Option (List Char)
  | [] => none
  | '"' :: rest => some rest
  | '\\' :: c :: rest => if isQuotedChar c then skipQuoted rest else none
  | c :: rest => if isQuotedChar c then skipQuoted rest else none

def skipValue (cs : List Char) : Option (List Char) :=
  match cs with
  | '"' :: rest => skipQuoted rest
  | _ =>
      let value := cs.takeWhile isTokenChar
      if value.isEmpty then none else some (cs.drop value.length)

def areParameters : Nat → List Char → Bool
  | 0, _ => false
  | fuel + 1, cs =>
      match cs.dropWhile (· == ' ') with
      | [] => true
      | cs =>
          let name := cs.takeWhile isTokenChar
          match name, cs.drop name.length with
          | _ :: _, '=' :: rest =>
              match skipValue rest with
              | some [] => true
              | some (';' :: rest) => areParameters fuel rest
              | _ => false
          | _, _ => false

/-- Type and subtype of a well-formed text, in lower case. -/
def parse? (cs : List Char) : Option (List Char × List Char) :=
  let cs := Text.lower cs
  let type := cs.takeWhile isTokenChar
  match type, cs.drop type.length with
  | _ :: _, '/' :: rest =>
      let subtype := rest.takeWhile isTokenChar
      match subtype, rest.drop subtype.length with
      | _ :: _, [] => some (type, subtype)
      | _ :: _, mark :: behind =>
          if (mark = ';' ∨ mark = ' ') ∧ areParameters (behind.length + 1) behind then
            some (type, subtype)
          else none
      | _, _ => none
  | _, _ => none

def suffix? (subtype : List Char) : Option (List Char) :=
  if subtype.contains '+' then some (subtype.reverse.takeWhile (· != '+')).reverse else none

/-- Whether the media type of a message is JSON or built on it. -/
def isJson (headers : Headers) : Bool :=
  match (headers.text? "content-type").bind parse? with
  | some (type, subtype) =>
      type == "application".toList &&
        (subtype == "json".toList || suffix? subtype == some "json".toList)
  | none => false

end AccessGate.Http.MediaType
