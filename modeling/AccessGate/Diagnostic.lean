/-!
What an operator is told about an error besides its message.
-/

namespace AccessGate

structure Diagnostic where
  code : String
  help : Option String
  deriving DecidableEq, Repr

namespace Diagnostic

def plain (code : String) : Diagnostic := ⟨"portcullis::" ++ code, none⟩

def withHelp (code help : String) : Diagnostic := ⟨"portcullis::" ++ code, some help⟩

end Diagnostic

end AccessGate
