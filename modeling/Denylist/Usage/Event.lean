import Denylist.Usage.Location

/-!
# Usage events

One observed reference to a symbol: its kind, its canonical path and where it stands.  A kind that
is none of the three is kept as the text it is, so that the facts of a front-end that knows more
kinds stay readable; such an event matches no rule.
-/

namespace Denylist

/-- The kind of a referenced symbol. -/
inductive UsageKind where
  /-- One of the kinds that rules have. -/
  | known (k : Kind)
  /-- Any other text. -/
  | other (name : String) (not_kind : Kind.ofName? name = none)
deriving DecidableEq

namespace UsageKind

/-- The name of a kind. -/
def name : UsageKind → String
  | .known k => k.name
  | .other s _ => s

/-- Whether rules may have the kind. -/
def isKnown : UsageKind → Bool
  | .known _ => true
  | .other _ _ => false

/-- The kind of a name. -/
def ofName (s : String) : UsageKind :=
  match h : Kind.ofName? s with
  | some k => .known k
  | none => .other s h

theorem name_ofName (s : String) : (ofName s).name = s := by
  unfold ofName
  split
  · next k h => exact (Kind.ofName?_eq_some_iff.mp h).symm
  · rfl

theorem ofName_name (k : UsageKind) : ofName k.name = k := by
  unfold ofName
  cases k with
  | known k =>
      split
      · next k' h =>
          rw [name, Kind.ofName?_name] at h
          rw [Option.some.inj h]
      · next h =>
          rw [name, Kind.ofName?_name] at h
          cases h
  | other s hs =>
      split
      · next k' h =>
          rw [name, hs] at h
          cases h
      · rfl

/-- A kind is known by its name. -/
theorem eq_ofName_iff {k : UsageKind} {s : String} : k = ofName s ↔ k.name = s := by
  constructor
  · rintro rfl
    exact name_ofName s
  · rintro rfl
    exact (ofName_name k).symm

/-- Rules do not have a kind whose name is none of theirs. -/
theorem isKnown_eq_false_iff {k : UsageKind} : k.isKnown = false ↔ k.name ∉ Kind.names := by
  rw [← Kind.ofName?_eq_none_iff]
  cases k with
  | known k => simp [isKnown, name]
  | other s hs => simp [isKnown, name, hs]

/-- A field that holds a kind.  A value that is no text is neither the name of a kind nor a text,
and both are reported. -/
def read (d : Document) : Checked UsageKind :=
  match readText d with
  | .ok s => .ok (ofName s)
  | .error l =>
    .error (⟨["str-enum[RuleKind]"], .notKind⟩ :: l.map fun i => ⟨"str" :: i.place, i.defect⟩)

end UsageKind

/-- An observed reference to a symbol. -/
structure UsageEvent where
  /-- The kind of the symbol. -/
  kind : UsageKind
  /-- The canonical path of the symbol. -/
  path : String
  /-- Where it is referenced. -/
  location : Location
  /-- The path says something. -/
  path_ne : path ≠ ""

namespace UsageEvent

/-- An event from its fields and the issues of whatever stands beside them. -/
def ofChecked (kind : Checked UsageKind) (path : Checked { s : String // s ≠ "" })
    (location : Checked Location) (others : List Issue) : Checked UsageEvent :=
  match kind, path, location, others with
  | .ok k, .ok ⟨p, hp⟩, .ok at_, [] => .ok ⟨k, p, at_, hp⟩
  | k, p, at_, l => .error (k.issues ++ p.issues ++ at_.issues ++ l)

/-- The event that a table with a nested location describes. -/
def read (d : Document) : Checked UsageEvent :=
  match readTable "UsageEvent" d with
  | .error l => .error l
  | .ok ms =>
    ofChecked (requiredField "kind" UsageKind.read ms) (requiredField "path" readNonempty ms)
      (requiredField "location" Location.read ms)
      (unexpectedMembers ["kind", "path", "location"] ms)

end UsageEvent

end Denylist
