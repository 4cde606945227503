import Denylist.Config.Load
import Denylist.Proofs.ConfigFailures
import Denylist.Proofs.Decoding

/-!
# Proofs — how the loading of a config ends

A config that is loaded gives a rule set or an error of the config, from whatever text and whatever
octets, with these exceptions (`Escapes`): a scalar of the text ends the decoding with a fault, or
the first thing wrong in the decoded document cannot be written into an error.
-/

namespace Denylist.Config

/-- What is loaded is a rule set or an error of the config, but for the faults that escape. -/
structure EndsIn (x : Except Failure RuleSet) (escapes : Fault → Prop) : Prop where
  error : ∀ e, x = .error (.error e) → e.isConfig = true
  fault : ∀ g, x = .error (.fault g) ↔ escapes g

/-- The faults that escape from a text in a notation: those at which the decoder stumbles over a
scalar, and the one of a value that stands first among what is wrong and cannot be written out. -/
inductive Escapes (f : Format) (text : String) : Fault → Prop where
  | decoding {g : Fault} (decode : f.decode text = .error (.fault g)) (cause : f.Stumbles text g) :
      Escapes f text g
  | showing {before after : List (Scalar × Document)} {m : Scalar × Document}
      (decode : f.decode text = .ok (.table (before ++ m :: after)))
      (readable : ∀ x ∈ before, IsReadable x) (breaks : BreaksOff m) : Escapes f text .longOutput

/-- The faults that escape from the octets of a file. -/
def OctetEscapes (path : Path) (bytes : List UInt8) (g : Fault) : Prop :=
  ∃ chars, Text.decodeUtf8 bytes = ⟨chars, none⟩ ∧
    Escapes ((Format.ofSuffix? path.suffix).getD .toml)
      (String.ofList (Text.unifyBreaks chars)) g

/-- The faults that escape from the file at a path. -/
def FileEscapes (t : FileTree) (cwd : List String) (path : Path) (g : Fault) : Prop :=
  path.hasNul = true ∧ g = .nulInPath ∨
    path.hasNul = false ∧ ∃ bytes, t.read cwd path = .ok bytes ∧ OctetEscapes path bytes g

theorem endsIn_failed (source detail : String) :
    EndsIn (failed source detail).result fun _ => False where
  error e he := by cases he; rfl
  fault g := by simp [failed]

theorem EndsIn.congr {x : Except Failure RuleSet} {escapes escapes' : Fault → Prop}
    (h : EndsIn x escapes) (he : ∀ g, escapes g ↔ escapes' g) : EndsIn x escapes' where
  error := h.error
  fault g := (h.fault g).trans (he g)

theorem result_loadDocument (source : String) (d : Document) :
    (loadDocument source d).result = ruleSet source d := by
  unfold loadDocument
  cases ruleSet source d with
  | ok s => rfl
  | error f => rfl

theorem endsIn_loadText (source : String) (f : Format) (text : String) :
    EndsIn (loadText source f text).result (Escapes f text) := by
  unfold loadText
  split
  · next d hd =>
      rw [result_loadDocument]
      refine ⟨fun e he => isConfig_of_ruleSet_eq_error he, fun g => ?_⟩
      rw [ruleSet_eq_fault_iff]
      constructor
      · rintro ⟨rfl, before, m, after, rfl, hb, hm⟩
        exact .showing hd hb hm
      · intro h
        cases h with
        | decoding hdecode => cases hd.symm.trans hdecode
        | showing hdecode hb hm =>
            cases hd.symm.trans hdecode
            exact ⟨rfl, _, _, _, rfl, hb, hm⟩
  · next detail hd =>
      refine (endsIn_failed source detail).congr fun g => ⟨False.elim, fun h => ?_⟩
      cases h with
      | decoding hdecode => cases hd.symm.trans hdecode
      | showing hdecode => cases hd.symm.trans hdecode
  · next g hd =>
      refine ⟨fun e he => (by cases he), fun g' => ⟨fun h => ?_, fun h => ?_⟩⟩
      · cases h
        exact .decoding hd (Format.stumbles_of_decode_eq_fault hd)
      · cases h with
        | decoding hdecode =>
            cases hd.symm.trans hdecode
            rfl
        | showing hdecode => cases hd.symm.trans hdecode

theorem endsIn_loadString (format text : String) :
    EndsIn (loadString format text).result fun g =>
      ∃ f, Format.ofName? format = some f ∧ Escapes f text g := by
  unfold loadString
  split
  · next f hf => exact (endsIn_loadText _ f text).congr fun g => by simp [hf]
  · next hf => exact (endsIn_failed _ _).congr fun g => by simp [hf]

theorem endsIn_loadBytes (path : Path) (bytes : List UInt8) :
    EndsIn (loadBytes path bytes).result (OctetEscapes path bytes) := by
  unfold loadBytes OctetEscapes
  split
  · next f hf => exact (endsIn_failed _ _).congr fun g => by simp [hf]
  · next chars hchars => exact (endsIn_loadText _ _ _).congr fun g => by simp [hchars]

theorem endsIn_loadFile (t : FileTree) (cwd : List String) (path : Path) :
    EndsIn (loadFile t cwd path).result (FileEscapes t cwd path) := by
  unfold loadFile FileEscapes
  split
  · next hn =>
      refine ⟨fun e he => ?_, fun g => ?_⟩
      · cases he
      · simp [hn, eq_comm]
  · next hn =>
      have hn : path.hasNul = false := by simpa using hn
      split
      · next p hp => exact (endsIn_failed _ _).congr fun g => by simp [hn, hp]
      · next bytes hbytes =>
          exact (endsIn_loadBytes path bytes).congr fun g => by simp [hn, hbytes]

/-- **How loading ends.**  From every text under every name of a notation, from all octets under
every suffix, and from every file of a tree, loading gives a rule set or an error of the config, but
for the faults that escape from the text. -/
theorem load_endsIn (format text : String) (path : Path) (bytes : List UInt8) (t : FileTree)
    (cwd : List String) :
    (EndsIn (loadString format text).result fun g =>
      ∃ f, Format.ofName? format = some f ∧ Escapes f text g) ∧
    EndsIn (loadBytes path bytes).result (OctetEscapes path bytes) ∧
    EndsIn (loadFile t cwd path).result (FileEscapes t cwd path) :=
  ⟨endsIn_loadString format text, endsIn_loadBytes path bytes, endsIn_loadFile t cwd path⟩

/-- A config with a reason that looks like a date and is none. -/
def noDateConfig : String := "disallowed-macros:\n  - \x7bpath: a, reason: 2024-02-30\x7d\n"

/-- Of this config neither a rule set is loaded nor an error of the config reported. -/
theorem no_configError_for_noDateConfig :
    ¬ ((∃ s, (loadString "yaml" noDateConfig).result = .ok s) ∨
      ∃ e, e.isConfig = true ∧ (loadString "yaml" noDateConfig).result = .error (.error e)) := by
  have hfault : Fault.of? (loadString "yaml" noDateConfig).result = some (.calendar .day) := by
    decide +kernel
  rw [Fault.of?_eq_some_iff.mp hfault]
  rintro (⟨s, hs⟩ | ⟨e, -, he⟩)
  · cases hs
  · cases he

end Denylist.Config
