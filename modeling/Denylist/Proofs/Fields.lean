import Denylist.Proofs.Sequences
import Denylist.Validation
import Mathlib.Data.List.Basic

/-!
# Proofs — reading the fields of a table

What a reader of one field accepts, said without the reader: a text field takes the values that
stand for a text (`Document.Spells`), a required field takes what its reader takes from the member
that is there, and a table has no unexpected member when all its keys are expected texts.
-/

namespace Denylist
open Sequences

/-- A value that stands for a text: the text itself, or octets that are its UTF-8 form. -/
inductive Document.Spells : Document → String → Prop where
  | text (s : String) : Spells (.scalar (.text s)) s
  | octets {bytes : List UInt8} {s : String} (h : Text.utf8Text? bytes = .ok s) :
      Spells (.scalar (.binary bytes)) s

/-- A value stands for at most one text. -/
theorem Document.Spells.unique {d : Document} {s t : String} (hs : d.Spells s) (ht : d.Spells t) :
    s = t := by
  cases hs with
  | text => cases ht; rfl
  | octets h =>
      cases ht with
      | octets h' => exact Except.ok.inj (h.symm.trans h')

@[simp] theorem Document.spells_text_iff {s t : String} : (Document.text s).Spells t ↔ s = t := by
  constructor
  · intro h; cases h; rfl
  · rintro rfl; exact .text s

theorem readText_eq_ok_iff {d : Document} {s : String} : readText d = .ok s ↔ d.Spells s := by
  constructor
  · intro h
    unfold readText at h
    split at h
    · cases h; exact .text _
    · split at h
      · next h' => cases h; exact .octets h'
      · cases h
    · cases h
  · intro h
    cases h with
    | text => rfl
    | octets h => simp only [readText, h]

theorem readKind_eq_ok_iff {d : Document} {k : Kind} : readKind d = .ok k ↔ d.Spells k.name := by
  rw [← readText_eq_ok_iff]
  unfold readKind
  cases readText d with
  | error l => simp [Checked.fail]
  | ok s =>
      rw [Except.ok.injEq, ← Kind.ofName?_eq_some_iff]
      cases h : Kind.ofName? s with
      | none => simp [h, Checked.fail]
      | some k' => simp [h]

theorem Checked.under_eq_ok_iff {α : Type} {key : String} {x : Checked α} {a : α} :
    Checked.under key x = .ok a ↔ x = .ok a := by
  cases x with
  | error l => simp [Checked.under]
  | ok b => simp [Checked.under]

/-- A field is read from its member where there is one. -/
theorem readField_eq_ok_iff {α : Type} {name : String} {read : Document → Checked α}
    {absent : Checked α} {ms : List (Scalar × Document)} {a : α} :
    readField name read absent ms = .ok a ↔
      (∃ d, memberAt? name ms = some d ∧ read d = .ok a) ∨
        memberAt? name ms = none ∧ absent = .ok a := by
  rw [readField, Checked.under_eq_ok_iff]
  cases h : memberAt? name ms with
  | none => simp
  | some d => simp

theorem requiredField_eq_ok_iff {α : Type} {name : String} {read : Document → Checked α}
    {ms : List (Scalar × Document)} {a : α} :
    requiredField name read ms = .ok a ↔ ∃ d, memberAt? name ms = some d ∧ read d = .ok a := by
  rw [requiredField, readField_eq_ok_iff, or_iff_left]
  rintro ⟨-, h⟩
  cases h

/-- No member is unexpected when every key is one of the expected texts. -/
theorem unexpectedMembers_eq_nil_iff {expected : List String} {ms : List (Scalar × Document)} :
    unexpectedMembers expected ms = [] ↔ ∀ m ∈ ms, ∃ s ∈ expected, m.1 = .text s := by
  rw [unexpectedMembers, List.filterMap_eq_nil_iff]
  refine forall₂_congr fun m _ => ?_
  rcases m with ⟨key, d⟩
  cases key with
  | text s => simp
  | _ => simp

theorem mem_of_memberAt?_eq_some {α : Type} {name : String} {ms : List (Scalar × α)} {a : α}
    (h : memberAt? name ms = some a) : (Scalar.text name, a) ∈ ms := by
  induction ms with
  | nil => cases h
  | cons m ms ih =>
      rcases m with ⟨key, b⟩
      cases key with
      | text s =>
          rw [memberAt?] at h
          split at h
          · next hs =>
              rw [hs, Option.some.inj h]
              exact List.mem_cons_self
          · exact List.mem_cons_of_mem _ (ih h)
      | _ => exact List.mem_cons_of_mem _ (ih h)

/-- The member under a key that occurs once is the member with that key. -/
theorem memberAt?_eq_some_iff_mem {α : Type} {name : String} {ms : List (Scalar × α)} {a : α}
    (hn : (ms.map Prod.fst).Nodup) : memberAt? name ms = some a ↔ (.text name, a) ∈ ms := by
  refine ⟨mem_of_memberAt?_eq_some, fun h => ?_⟩
  induction ms with
  | nil => cases h
  | cons m ms ih =>
      rw [List.map_cons, List.nodup_cons] at hn
      rcases List.mem_cons.mp h with rfl | hrest
      · rw [memberAt?, if_pos rfl]
      · rcases m with ⟨key, b⟩
        cases key with
        | text s =>
            have hs : s ≠ name := by
              rintro rfl
              exact hn.1 (List.mem_map.mpr ⟨_, hrest, rfl⟩)
            rw [memberAt?, if_neg hs, ih hn.2 hrest]
        | _ => exact ih hn.2 hrest

/-- The members of a table with text keys. -/
def membersOf (fields : List (String × Document)) : List (Scalar × Document) :=
  fields.map fun f => (.text f.1, f.2)

theorem nodup_keys_membersOf {fields : List (String × Document)}
    (hn : (fields.map Prod.fst).Nodup) : ((membersOf fields).map Prod.fst).Nodup := by
  have htexts : ((fields.map Prod.fst).map Scalar.text).Nodup :=
    hn.map fun s t h => Scalar.text.inj h
  rw [List.map_map] at htexts
  rwa [membersOf, List.map_map]

theorem memberAt?_membersOf_eq_some_iff {fields : List (String × Document)}
    (hn : (fields.map Prod.fst).Nodup) {name : String} {d : Document} :
    memberAt? name (membersOf fields) = some d ↔ (name, d) ∈ fields := by
  rw [memberAt?_eq_some_iff_mem (nodup_keys_membersOf hn), membersOf]
  simp

theorem memberAt?_membersOf_eq_none_iff {fields : List (String × Document)}
    (hn : (fields.map Prod.fst).Nodup) {name : String} :
    memberAt? name (membersOf fields) = none ↔ ∀ d, (name, d) ∉ fields := by
  simp only [Option.eq_none_iff_forall_ne_some, ne_eq, memberAt?_membersOf_eq_some_iff hn]

end Denylist
