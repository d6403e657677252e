import AccessGate.Config.Conversion
import AccessGate.Config.Toml
import AccessGate.Json.Printer
import AccessGate.Settings.Schema

/-!
Loading the settings: the environment is laid over a file, if it is there, and what both say over the
defaults. A relative path of the rule file is one from the current directory.
-/

namespace AccessGate.Settings

open Json
open Config (Tree)

/-! ## Reading from a configuration -/

def Kind.convert (kind : Kind) (tree : Tree) : Except Config.Error Value :=
  match kind with
  | .text => tree.text.map .string
  | .path => tree.text.map .string
  | .natural "u16" _ => tree.port.map .ofNat
  | .natural _ _ => tree.natural.map .ofNat
  | .flag => tree.flag.map .bool
  | .texts => tree.texts.map .strings
  | .choice title names => (tree.choice title names).map .string

def Entry.convert (entry : Entry) (tree : Tree) : Except Config.Error Value :=
  match entry.isOptional, tree with
  | true, .leaf _ .nothing => .ok .null
  | _, tree => entry.kind.convert tree

def missingField (name : String) : Config.Error :=
  .misshapen ("missing field \x60" ++ name ++ "\x60")

def Entry.missing (entry : Entry) : Except Config.Error Value :=
  match entry.absent with
  | some value => .ok value
  | none => if entry.isOptional then .ok .null else .error (missingField entry.name)

def convertEntries (entries : Config.Entries) : List Entry → Except Config.Error Members
  | [] => .ok []
  | entry :: rest =>
      let value := match entries.get? entry.name with
        | some tree => (entry.convert tree).mapError (Config.Error.under (.member entry.name))
        | none => entry.missing
      match value with
      | .error e => .error e
      | .ok value => (convertEntries entries rest).map ((entry.name, value) :: ·)

/-- A section may be written as the list of its values. -/
def convertItems (expected : String) (index : Nat) :
    List Entry → List Tree → Except Config.Error Members
  | [], _ => .ok []
  | entry :: rest, [] =>
      match entry.absent with
      | some value =>
          (convertItems expected (index + 1) rest []).map ((entry.name, value) :: ·)
      | none =>
          .error (.misshapen ("invalid length " ++ toString index ++ ", expected " ++ expected))
  | entry :: rest, tree :: trees =>
      match entry.convert tree with
      | .error e => .error (e.under (.item index))
      | .ok value =>
          (convertItems expected (index + 1) rest trees).map ((entry.name, value) :: ·)

def Section.convert (s : Section) (tree : Tree) : Except Config.Error Members :=
  let expected := "struct " ++ s.title
  match tree with
  | .table _ entries => convertEntries entries s.entries
  | .list _ items =>
      let count := s.entries.length
      let size := expected ++ " with " ++ toString count ++ Reader.elements count
      convertItems size 0 s.entries items
  | tree => tree.mismatch expected

def Section.missing (s : Section) : Except Config.Error Value :=
  if s.mayBeAbsent then .ok s.absent else .error (missingField s.name)

def convertSections (entries : Config.Entries) : List Section → Except Config.Error Members
  | [] => .ok []
  | s :: rest =>
      let value := match entries.get? s.name with
        | some tree =>
            ((s.convert tree).map Value.object).mapError (Config.Error.under (.member s.name))
        | none => s.missing
      match value with
      | .error e => .error e
      | .ok value => (convertSections entries rest).map ((s.name, value) :: ·)

/-! ## Sources -/

/-- Where settings are loaded from: a file and its content, if there is one, the environment, and
the current directory. -/
structure Sources where
  file : String
  content : Option Http.Octets
  environment : List (String × String)
  directory : String

def preset (name : String) (scalar : Config.Scalar) : String × Tree := (name, .leaf none scalar)

/-- The defaults as a source. Settings that may be missing have none here, and those of the last
section have theirs where they are read. -/
def defaults : Config.Entries :=
  [preset "server.host" (.text default.server.host),
   preset "server.proxy_port" (.whole default.server.proxyPort),
   preset "server.api_port" (.whole default.server.apiPort),
   preset "backend.url" (.text default.backendUrl),
   preset "rules.store" (.text "file"),
   preset "rules.path" (.text "rules.json"),
   preset "rules.refresh_interval_secs" (.whole default.rules.refreshSeconds),
   preset "policy.timeout_secs" (.whole default.policy.timeoutSeconds),
   preset "keys.algorithm" (.text "rs256"),
   preset "keys.key_strength" (.whole default.keys.bits),
   preset "keys.set_id" (.text default.keys.set),
   preset "keys.refresh_interval_secs" (.whole default.keys.refreshSeconds),
   preset "credentials.issuer" (.text default.credentials.issuer),
   preset "credentials.lifespan_secs" (.whole default.credentials.lifespanSeconds)]

def extension? (file : String) : Option String :=
  let name := (file.toList.reverse.takeWhile (· != '/')).reverse
  let parts := Text.pieces '.' name
  match parts.reverse with
  | last :: first :: rest =>
      if first.isEmpty && rest.isEmpty then none else some (String.ofList last)
  | _ => none

def joined (directory path : String) : String :=
  if path.startsWith "/" then path
  else if directory.isEmpty || directory.endsWith "/" then directory ++ path
  else directory ++ "/" ++ path

/-- How the place of a value in a file is told: without the steps of the path that lead nowhere. -/
def placeOf (file : String) : String :=
  if file.startsWith "/" then file
  else
    let steps := (Text.pieces '/' file.toList).filter fun step => !step.isEmpty && step != ['.']
    String.ofList (['/'].intercalate steps)

def parse? (extension : String) (cs : List Char) : Option Members :=
  if extension = "toml" then Toml.parse? cs
  else (Json.parse cs).toOption.bind Value.members?

def fileEntries (sources : Sources) : Except Config.Error Config.Entries :=
  match sources.content with
  | none => .ok []
  | some octets =>
      match (extension? sources.file).filter ["toml", "json"].contains with
      | none => .error (.unknownFormat (joined sources.directory sources.file))
      | some extension =>
          match (Utf8.decode? octets).bind (parse? extension) with
          | some members => .ok (Tree.ofJsonMembers (some (placeOf sources.file)) members)
          | none => .error .unreadable

def environmentStart : String := "PORTCULLIS__"

def said (file : Config.Entries) (environment : List (String × String)) : Tree :=
  (Tree.empty.laySource file).laySource (Config.ofEnvironment environmentStart environment)

/-- All layers. The sources are joined before they are laid over the defaults. -/
def layers (file : Config.Entries) (environment : List (String × String)) : Tree :=
  Tree.layAll (Tree.empty.laySource defaults) (said file environment).entries

def located (directory : String) (s : Settings) : Settings :=
  { s with rules := { s.rules with path := s.rules.path.map (joined directory) } }

def settle (file : Config.Entries) (environment : List (String × String)) (directory : String) :
    Except Config.Error Settings := do
  let full ← convertSections (layers file environment).entries schema
  pure ((ofMembers full).located directory)

def load (sources : Sources) : Except Config.Error Settings := do
  let file ← fileEntries sources
  settle file sources.environment sources.directory

end AccessGate.Settings
