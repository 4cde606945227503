import Denylist.Config.Format
import Denylist.Proofs.JsonReading
import Denylist.Proofs.TomlReading
import Denylist.Proofs.YamlTokens
import Denylist.Proofs.YamlValues
import Denylist.Usage.File

/-!
# Proofs — why the decoding of a text ends with a fault

Each notation says what is wrong with a malformed text in its own way.  What it does not catch is a
fault.  In JSON and TOML that is a numeral with more digits than an integer may have.  In YAML it is
a token with a fault, or a scalar that is not what the tag of its node claims (`Source.Faults`).
-/

namespace Denylist
open Sequences

/-- The fault with which something fails, if it does. -/
def Fault.of? {α : Type} : Except Failure α → Option Fault
  | .error (.fault f) => some f
  | _ => none

theorem Fault.of?_eq_some_iff {α : Type} {x : Except Failure α} {f : Fault} :
    Fault.of? x = some f ↔ x = .error (.fault f) := by
  rcases x with (e | g) | a
  · simp [Fault.of?]
  · simp [Fault.of?]
  · simp [Fault.of?]

theorem Fault.of?_eq_none_iff {α : Type} {x : Except Failure α} :
    Fault.of? x = none ↔ ∀ f, x ≠ .error (.fault f) := by
  rw [Option.eq_none_iff_forall_ne_some]
  simp only [ne_eq, Fault.of?_eq_some_iff]

/-! ### YAML -/

/-- A text of YAML has a token with a fault, or a scalar that is not what the tag of a node claims.
-/
inductive Yaml.Source.Faults (s : Yaml.Source) : Fault → Prop where
  | token {f : Fault} (stop : (Yaml.tokensOf s).stop = .fault f) (fault : Yaml.TokenFault f) :
      Faults s f
  | scalar {g : Yaml.Graph} {m n : ℕ} {text : String} {f : Fault}
      (nodes : Yaml.Graph.ofTokens? (Yaml.tokensOf s) = .ok (some g))
      (content : (Yaml.Node.ofNumber g.nodes n).content = .scalar text)
      (value : Yaml.scalarValue (Yaml.Node.ofNumber g.nodes m).tag text = .error (.fault f))
      (misclaim : Yaml.Misclaim (Yaml.Node.ofNumber g.nodes m).tag f) : Faults s f

namespace Yaml.Source

/-- No fault is met behind the characters of a text. -/
def StopsPlainly (s : Source) : Prop := ∀ f, s.stop ≠ some (.fault f)

theorem faults_of_document_eq_error {s : Source} (hs : s.StopsPlainly) {f : Fault}
    (h : s.document = .error (.fault f)) : s.Faults f := by
  rcases bind_eq_error_iff.mp h with h | ⟨g?, hg, h⟩
  · rcases stops_of_ofTokens?_eq_error h with hstop | ⟨layer, hlayer⟩
    · have hbreaks := breaks_of_tokensOf s
      rw [← hstop] at hbreaks
      cases hbreaks with
      | behind hb => exact absurd hb (hs f)
      | fault hf => exact .token hstop.symm hf
    · cases hlayer
  · cases g? with
    | none => cases h
    | some g =>
        rcases blames_of_toDocument_eq_error h with ⟨layer, hlayer⟩ | ⟨m, n, text, hc, hv⟩
        · cases hlayer
        · exact .scalar hg hc hv (misclaim_of_scalarValue_eq_error hv)

theorem exists_mem_of_stop_join {blocks : List (Except Trouble (List Char))} {e : Trouble}
    (h : (join blocks).stop = some e) : .error e ∈ blocks := by
  induction blocks with
  | nil => cases h
  | cons b blocks ih =>
      cases b with
      | error e' =>
          cases h
          exact List.mem_cons_self
      | ok block => exact List.mem_cons_of_mem _ (ih h)

theorem stopsPlainly_join {blocks : List (Except Trouble (List Char))}
    (h : ∀ b ∈ blocks, ∀ f, b ≠ .error (.fault f)) : (join blocks).StopsPlainly :=
  fun f hf => h _ (exists_mem_of_stop_join hf) f rfl

theorem allowed_ne_fault (block : List Char) (f : Fault) : allowed block ≠ .error (.fault f) := by
  unfold allowed
  split
  · simp
  · simp

theorem stopsPlainly_ofChars (l : List Char) : (ofChars l).StopsPlainly := by
  refine stopsPlainly_join fun b hb f => ?_
  rw [List.mem_singleton.mp hb]
  exact allowed_ne_fault l f

theorem stopsPlainly_ofBytes (bytes : List UInt8) : (ofBytes bytes).StopsPlainly := by
  have hblocks (blocks : List (Except Text.Utf8Fault (List Char))) :
      (join (blocks.map ofBlock)).StopsPlainly := by
    refine stopsPlainly_join fun b hb f => ?_
    obtain ⟨block, -, rfl⟩ := List.mem_map.mp hb
    cases block with
    | error g => simp [ofBlock]
    | ok chars => exact allowed_ne_fault chars f
  unfold ofBytes
  split
  · exact hblocks _
  · exact hblocks _

end Yaml.Source

/-! ### All notations -/

/-- Why a text in a notation ends with a fault. -/
inductive Format.Stumbles : Format → String → Fault → Prop where
  | json {text : String} {n : ℕ} (h : LongNumeral Decimal.isDigit n text.toList) :
      Stumbles .json text (.longInteger n)
  | toml {text : String} {n : ℕ} (h : LongNumeral Toml.isNumeralPart n text.toList) :
      Stumbles .toml text (.longInteger n)
  | yaml {text : String} {f : Fault} (h : (Yaml.Source.ofChars text.toList).Faults f) :
      Stumbles .yaml text f

theorem Format.stumbles_of_decode_eq_fault {f : Format} {text : String} {g : Fault}
    (h : f.decode text = .error (.fault g)) : f.Stumbles text g := by
  cases f with
  | json =>
      simp only [Format.decode] at h
      split at h
      · cases h
      · next n hn =>
          cases h
          exact .json (Json.longNumeral_of_read_eq_error hn)
      · cases h
  | toml =>
      simp only [Format.decode] at h
      split at h
      · cases h
      · next n hn =>
          cases h
          exact .toml (Toml.longNumeral_of_read_eq_error hn)
      · cases h
  | yaml =>
      obtain ⟨e, he, hg⟩ := mapError_eq_error_iff.mp h
      cases e with
      | fault g' =>
          cases hg
          exact .yaml (Yaml.Source.faults_of_document_eq_error
            (Yaml.Source.stopsPlainly_ofChars _) he)
      | _ => cases hg

end Denylist
