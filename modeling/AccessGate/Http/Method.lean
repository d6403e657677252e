import AccessGate.Http.Field

/-!
Request methods: tokens whose case counts.
-/

namespace AccessGate.Http

structure Method where
  name : String
  deriving DecidableEq, Repr, Inhabited

namespace Method

def get : Method := ⟨"GET"⟩
def head : Method := ⟨"HEAD"⟩
def post : Method := ⟨"POST"⟩
def put : Method := ⟨"PUT"⟩
def patch : Method := ⟨"PATCH"⟩
def delete : Method := ⟨"DELETE"⟩
def options : Method := ⟨"OPTIONS"⟩
def connect : Method := ⟨"CONNECT"⟩

def ofText? (s : String) : Option Method :=
  if isToken s.toList then some ⟨s⟩ else none

def ofAnyCase? (s : String) : Option Method :=
  ofText? (String.ofList (Text.upper s.toList))

end Method

end AccessGate.Http
