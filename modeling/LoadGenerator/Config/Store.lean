/-
The file that holds the configuration.

* **`Settings.parse?`** — a configuration from the text of a document;
* **`Settings.readFrom`**, **`Settings.saveTo`** — reading and writing at a place;
* **`loadOrDefault`** — what the program starts from. A file that cannot be read, and one that is no
  text, are replaced by the default configuration; a text that cannot be understood is left alone
  and is an error.
-/
import LoadGenerator.Config.Place
import LoadGenerator.Config.Schema
import LoadGenerator.Notice
import LoadGenerator.Toml.Reader
import LoadGenerator.Toml.Writer

namespace LoadGenerator

/-- Why there is no configuration in a file. -/
inductive LoadError where
  /-- The file cannot be read, or its bytes are no text. -/
  | unreadable
  /-- The text is no configuration. -/
  | malformed
  deriving DecidableEq, Repr

namespace LoadError

/-- The text shown for the failure. -/
def message : LoadError → String
  | unreadable => "Could not open config"
  | malformed => "Could not parse"

end LoadError

/-- Why a configuration was not written. -/
inductive SaveError where
  /-- One of its numbers is too great for a document. -/
  | tooGreat
  /-- One of its strings has a run of quotation marks too long to be counted; the program ends
  there. -/
  | uncountable
  | system (error : SystemError)
  deriving DecidableEq, Repr

namespace Settings

/-- The configuration that a text describes. -/
def parse? (text : String) : Option Settings :=
  Toml.parse? text >>= ofEntries?

/-- One notice for every key that the configuration has no field for. -/
def notices (c : Settings) : List Notice :=
  c.other.map fun e => .unknownConfiguration e.1 e.2

/-- The text of a configuration. Its numbers are looked at before its strings. -/
def text (c : Settings) : Except SaveError String :=
  match c.toEntries? with
  | none => .error .tooGreat
  | some entries =>
    match Toml.writeDocument? entries with
    | none => .error .uncountable
    | some text => .ok text

/-- The configuration in a file. -/
def readFrom (place : Place) : Except LoadError Settings :=
  match place.read with
  | .error _ => .error .unreadable
  | .ok content =>
    match String.fromUTF8? content with
    | none => .error .unreadable
    | some text =>
      match parse? text with
      | some c => .ok c
      | none => .error .malformed

/-- The place as saving a configuration leaves it, and why it was not saved, if it was not. Nothing
is touched before its text is known. -/
def saveTo (c : Settings) (place : Place) : Place × Except SaveError Unit :=
  match c.text with
  | .error e => (place, .error e)
  | .ok text =>
    let (place, result) := place.write text.toUTF8
    (place, result.mapError .system)

end Settings

/-- What a start of the program finds: a configuration or none, the place as it is left, and what is
told to the log. -/
structure Startup where
  settings : Option Settings
  place : Place
  notices : List Notice

/-- The configuration at a path. Where there is nothing to read, the default one is written there,
if possible, and taken. -/
def loadOrDefault (path : String) (place : Place) : Startup :=
  match Settings.readFrom place with
  | .ok c => ⟨some c, place, c.notices⟩
  | .error .malformed => ⟨none, place, []⟩
  | .error .unreadable =>
    let default : Settings := {}
    match default.saveTo place with
    | (place, .ok ()) => ⟨some default, place, [.wroteDefaults path]⟩
    | (place, .error (.system e)) => ⟨some default, place, [.couldNotWriteDefaults path e]⟩
    | (place, .error .tooGreat) | (place, .error .uncountable) => ⟨some default, place, []⟩

/-- The text of the error that ends the program when the file at a path is malformed; the reader's
own report would follow. -/
def malformedMessage (path : String) : String := s!"could not parse {path}: "

/-- The name of the configuration file in the working directory. -/
def defaultFileName : String := "settings.toml"

/-- The variable of the environment that names the configuration file. -/
def pathVariable : String := "SURGE_CONFIG"

/-- The path of the configuration: the one that the environment names, even an empty one, or else
the default name in the working directory. -/
def configPath (named : Option String) (workingDirectory : String) : String :=
  match named with
  | some path => path
  | none =>
    if workingDirectory.endsWith "/" then workingDirectory ++ defaultFileName
    else workingDirectory ++ "/" ++ defaultFileName

end LoadGenerator
