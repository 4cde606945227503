import Denylist.Json.Reader
import Denylist.Toml.Reader
import Denylist.Yaml.Reader

/-!
# Notations of a config

A config is written in TOML, YAML or JSON.  A text that is not in its notation is an error of the
config; a scalar that the notation admits but that stands for nothing is a fault.
-/

namespace Denylist

/-- A notation for documents. -/
inductive Format where
  /-- TOML. -/
  | toml
  /-- YAML. -/
  | yaml
  /-- JSON. -/
  | json
deriving DecidableEq, Repr

namespace Format

/-- The notation with a name. -/
def ofName? : String → Option Format
  | "toml" => some toml
  | "yaml" => some yaml
  | "json" => some json
  | _ => none

/-- The notation for files with a suffix. -/
def ofSuffix? : String → Option Format
  | ".toml" => some toml
  | ".yaml" => some yaml
  | ".yml" => some yaml
  | ".json" => some json
  | _ => none

/-- What keeps a text from being a document. -/
inductive Refusal where
  /-- The text is not in the notation, with an explanation. -/
  | malformed (detail : String)
  /-- A scalar stands for nothing. -/
  | fault (f : Fault)

/-- The refusal of a YAML text. -/
def Refusal.ofYaml : Yaml.Trouble → Refusal
  | .malformed layer => .malformed layer.message
  | .undecodable f => .malformed f.message
  | .fault f => .fault f

/-- The document of a text. -/
def decode (f : Format) (text : String) : Except Refusal Document :=
  match f with
  | .json =>
    match Json.read text with
    | .ok d => .ok d
    | .error (.longInteger n) => .error (.fault (.longInteger n))
    | .error e => .error (.malformed e.message)
  | .toml =>
    match Toml.read text with
    | .ok d => .ok d
    | .error (.longInteger n) => .error (.fault (.longInteger n))
    | .error e => .error (.malformed e.message)
  | .yaml => (Yaml.read text).mapError .ofYaml

end Format

end Denylist
