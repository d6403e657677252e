import AccessGate.Json.Value

/-!
JSON text of a value, without blanks. Control characters without a short escape are written as
four hexadecimal digits; everything beyond ASCII stands for itself.
-/

namespace AccessGate.Json

open Text (hexDigit intText)

def escapeChar (c : Char) : List Char :=
  if c = '"' then ['\\', '"']
  else if c = '\\' then ['\\', '\\']
  else if c = '\n' then ['\\', 'n']
  else if c = '\r' then ['\\', 'r']
  else if c = '\t' then ['\\', 't']
  else if c.toNat = 8 then ['\\', 'b']
  else if c.toNat = 12 then ['\\', 'f']
  else if c.toNat < 32 then
    ['\\', 'u', '0', '0', hexDigit (c.toNat / 16), hexDigit (c.toNat % 16)]
  else [c]

def quote (s : String) : List Char := '"' :: s.toList.flatMap escapeChar ++ ['"']

def Number.text : Number → List Char
  | .whole i => intText i
  | .real x => if x.isFinite then x.text else "null".toList

mutual

def Value.chars : Value → List Char
  | .null => "null".toList
  | .bool b => if b then "true".toList else "false".toList
  | .number n => n.text
  | .string s => quote s
  | .array items => '[' :: itemChars items ++ [']']
  | .object members => '\x7b' :: memberChars members ++ ['\x7d']

def itemChars : List Value → List Char
  | [] => []
  | [last] => last.chars
  | first :: rest => first.chars ++ ',' :: itemChars rest

def memberChars : List (String × Value) → List Char
  | [] => []
  | [(name, value)] => quote name ++ ':' :: value.chars
  | (name, value) :: rest => quote name ++ ':' :: value.chars ++ ',' :: memberChars rest

end

def Value.render (value : Value) : String := String.ofList value.chars

end AccessGate.Json
