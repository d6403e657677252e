import AccessGate.Settings.Schema

/-!
What the program is called with: the file that it is configured by, or a question about itself.
-/

namespace AccessGate

inductive Invocation where
  | run (configuration : String)
  | help
  | version
  | refused (reason : String)
  deriving DecidableEq, Repr

namespace Invocation

def programName : String := "portcullis"

def programVersion : String := "0.1.0"

def defaultConfiguration : String := "config.toml"

def usage : String := "Usage: " ++ programName ++ " [OPTIONS]"

def helpText : String :=
  String.intercalate "\n"
    ["Identity and access proxy", "", usage, "", "Options:",
     "  -c, --config <CONFIG>  Path to configuration file [default: " ++
       defaultConfiguration ++ "]",
     "  -h, --help             Print help",
     "  -V, --version          Print version"]

def versionText : String := programName ++ " " ++ programVersion

def option : String := "--config <CONFIG>"

def unexpected (argument : String) : Invocation :=
  refused ("unexpected argument '" ++ argument ++ "' found")

def valueMissing : Invocation :=
  refused ("a value is required for '" ++ option ++ "' but none was supplied")

def repeated : Invocation :=
  refused ("the argument '" ++ option ++ "' cannot be used multiple times")

def attached? (argument : List Char) : Option (List Char) :=
  match Text.afterStart? "--config=".toList argument with
  | some value => some value
  | none =>
      match argument with
      | '-' :: 'c' :: '=' :: value => some value
      | '-' :: 'c' :: c :: value => some (c :: value)
      | _ => none

/-- Arguments in their order; a question about the program ends the reading. -/
def read : Option String → List String → Invocation
  | file, [] => run (file.getD defaultConfiguration)
  | file, argument :: rest =>
      if argument = "-h" ∨ argument = "--help" then help
      else if argument = "-V" ∨ argument = "--version" then version
      else if argument = "-c" ∨ argument = "--config" then
        match file, rest with
        | _, [] => valueMissing
        | none, value :: rest =>
            if value.startsWith "-" then valueMissing else read (some value) rest
        | some _, _ :: _ => repeated
      else
        match file, attached? argument.toList with
        | none, some value => read (some (String.ofList value)) rest
        | some _, some _ => repeated
        | _, none => unexpected argument

def ofArguments (arguments : List String) : Invocation := read none arguments

def refusalText (reason : String) : String :=
  String.intercalate "\n"
    ["error: " ++ reason, "", usage, "", "For more information, try '--help'."]

end Invocation

namespace Settings

def variableNames (start : String) : List String :=
  schema.flatMap fun s => s.entries.map fun entry =>
    String.ofList (Text.upper (start ++ s.name ++ "__" ++ entry.name).toList)

end Settings

end AccessGate
