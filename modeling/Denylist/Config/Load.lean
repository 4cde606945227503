import Denylist.Config.Format
import Denylist.Config.Rules
import Denylist.Files.Tree
import Denylist.Text.Lines
import Denylist.Text.Utf8

/-!
# Loading a config

From a text or a file to a rule set, with what the log says on the way.
-/

namespace Denylist.Config

/-- The outcome of loading, and what the log says about it. -/
structure Loaded where
  /-- The rule set. -/
  result : Except Failure RuleSet
  /-- The entries. -/
  log : List LogEntry

/-- The rule set of a decoded document. -/
def loadDocument (source : String) (d : Document) : Loaded :=
  match ruleSet source d with
  | .ok s => ⟨.ok s, loadedEntries source s⟩
  | .error f => ⟨.error f, []⟩

/-- The error of a config that cannot be read or decoded. -/
def failed (source detail : String) : Loaded :=
  ⟨.error (.error (unreadable source none detail)), []⟩

/-- The rule set of a text in a notation. -/
def loadText (source : String) (f : Format) (text : String) : Loaded :=
  match f.decode text with
  | .ok d => loadDocument source d
  | .error (.malformed detail) => failed source detail
  | .error (.fault f) => ⟨.error (.fault f), []⟩

/-- The name of the source of a config that is a text. -/
def textSource : String := "<string>"

/-- The rule set of a text in the notation with a name. -/
def loadString (format text : String) : Loaded :=
  match Format.ofName? format with
  | some f => loadText textSource f text
  | none => failed textSource ("unsupported format: " ++ format)

/-- The rule set of the octets of a file. -/
def loadBytes (path : Path) (bytes : List UInt8) : Loaded :=
  match Text.decodeUtf8 bytes with
  | ⟨_, some f⟩ => failed path.text f.message
  | ⟨chars, none⟩ =>
    loadText path.text ((Format.ofSuffix? path.suffix).getD .toml)
      (String.ofList (Text.unifyBreaks chars))

/-- The rule set of a file; its suffix tells the notation, and without a known one it is TOML. -/
def loadFile (t : FileTree) (cwd : List String) (path : Path) : Loaded :=
  if path.hasNul then ⟨.error (.fault .nulInPath), []⟩ else
  match t.read cwd path with
  | .error p => failed path.text (p.message path.text)
  | .ok bytes => loadBytes path bytes

end Denylist.Config
