import Denylist.Document.Basic

/-!
# Kinds of symbols

A rule denies a macro, a method or a type.  The set is closed, and each kind has one category of
the config in which its rules are listed.
-/

namespace Denylist

/-- What sort of symbol a rule denies. -/
inductive Kind where
  /-- A macro. -/
  | macroUse
  /-- A method or function. -/
  | method
  /-- A type. -/
  | type
deriving DecidableEq, Repr

namespace Kind

/-- All kinds, in the order in which rules and counts are listed. -/
def all : List Kind := [.macroUse, .method, .type]

/-- The name of a kind in configs, facts and reports. -/
def name : Kind → String
  | .macroUse => "macro"
  | .method => "method"
  | .type => "type"

/-- The config category that lists the rules of a kind. -/
def category : Kind → String
  | .macroUse => "disallowed-macros"
  | .method => "disallowed-methods"
  | .type => "disallowed-types"

/-- The kind of a name; names are matched exactly. -/
def ofName? (s : String) : Option Kind := all.find? fun k => k.name == s

/-- The kind whose rules a config category lists. -/
def ofCategory? (s : String) : Option Kind := all.find? fun k => k.category == s

/-- The kind that a document names: a text that is a kind's name, and nothing else. -/
def ofDocument? (d : Document) : Option Kind := d.text?.bind ofName?

/-- The names of all kinds. -/
def names : List String := all.map name

/-- The three categories, in the order of their kinds. -/
def categories : List String := all.map category

theorem mem_all (k : Kind) : k ∈ all := by cases k <;> decide

@[simp] theorem ofName?_name (k : Kind) : ofName? k.name = some k := by cases k <;> decide

@[simp] theorem ofCategory?_category (k : Kind) : ofCategory? k.category = some k := by
  cases k <;> decide

theorem ofName?_eq_some_iff {s : String} {k : Kind} : ofName? s = some k ↔ s = k.name := by
  constructor
  · intro h
    rw [ofName?] at h
    have hk := List.find?_some h
    exact (beq_iff_eq.mp hk).symm
  · rintro rfl
    exact ofName?_name k

theorem ofName?_eq_none_iff {s : String} : ofName? s = none ↔ s ∉ names := by
  rw [Option.eq_none_iff_forall_ne_some, names, List.mem_map]
  constructor
  · rintro h ⟨k, -, rfl⟩
    exact h k (ofName?_name k)
  · rintro h k hk
    exact h ⟨k, mem_all k, (ofName?_eq_some_iff.mp hk).symm⟩

/-- A kind is named by its name and by nothing else. -/
theorem ofDocument?_eq_some_iff {d : Document} {k : Kind} :
    ofDocument? d = some k ↔ d = .text k.name := by
  rw [ofDocument?, Option.bind_eq_some_iff]
  constructor
  · rintro ⟨s, hs, hk⟩
    rw [Document.eq_text_of_text?_eq_some hs, ofName?_eq_some_iff.mp hk]
  · rintro rfl
    exact ⟨k.name, rfl, ofName?_name k⟩

theorem ofCategory?_eq_some_iff {s : String} {k : Kind} :
    ofCategory? s = some k ↔ s = k.category := by
  constructor
  · intro h
    rw [ofCategory?] at h
    have hk := List.find?_some h
    exact (beq_iff_eq.mp hk).symm
  · rintro rfl
    exact ofCategory?_category k

/-- Different kinds have different names. -/
theorem name_injective {k k' : Kind} (h : k.name = k'.name) : k = k' := by
  have hk := ofName?_name k
  rw [h, ofName?_name] at hk
  exact (Option.some.inj hk).symm

/-- Different kinds have different categories. -/
theorem category_injective {k k' : Kind} (h : k.category = k'.category) : k = k' := by
  have hk := ofCategory?_category k
  rw [h, ofCategory?_category] at hk
  exact (Option.some.inj hk).symm

end Kind

end Denylist
