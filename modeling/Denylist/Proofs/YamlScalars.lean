import Denylist.Proofs.Outcomes
import Denylist.Yaml.Scalars

/-!
# Proofs — scalars that are not what their tags claim

A scalar of YAML has a value, or the value layer of the notation refuses it, or it fails outside of
all layers.  `Misclaim` lists what the last may be, tag by tag (`misclaim_of_scalarValue_eq_error`).
-/

namespace Denylist.Yaml
open Sequences

/-- The faults of scalars that have a tag and are not what it claims. -/
inductive Misclaim : Tag → Fault → Prop where
  | truth (shown : String) : Misclaim .bool (.truthText shown)
  | noInteger : Misclaim .int .absentText
  | integer (base : ℕ) (shown : String) : Misclaim .int (.integerText base shown)
  | longInteger {n : ℕ} (h : Decimal.maxDigits < n) : Misclaim .int (.longInteger n)
  | noFloat : Misclaim .float .absentText
  | float (shown : String) : Misclaim .float (.floatText shown)
  | hugeFloat : Misclaim .float .hugeWeight
  | moment : Misclaim .timestamp .momentText
  | calendar (what : CalendarFault) : Misclaim .timestamp (.calendar what)

/-- Of a scalar with a tag there is a value, or the value layer refuses it, or it misclaims. -/
def Claims (tag : Tag) {α : Type} (x : Except Trouble α) : Prop :=
  Yields (fun _ => True) (fun e => ∀ f, e = .fault f → Misclaim tag f) x

namespace Claims
variable {tag : Tag} {α β : Type} {x : Except Trouble α}

theorem ok (a : α) : Claims tag (.ok a) := trivial

theorem refused (layer : Layer) : Claims tag (.error (.malformed layer) : Except Trouble α) := by
  intro f hf
  cases hf

theorem fault {f : Fault} (h : Misclaim tag f) : Claims tag (scalarFault f : Except Trouble α) := by
  intro g hg
  cases hg
  exact h

theorem map (h : Claims tag x) (f : α → β) : Claims tag (x.map f) :=
  Yields.map h fun _ _ => trivial

theorem bind {f : α → Except Trouble β} (h : Claims tag x) (hf : ∀ a, Claims tag (f a)) :
    Claims tag (x >>= f) := Yields.bind h fun a _ => hf a

theorem mapM {f : β → Except Trouble α} (hf : ∀ b, Claims tag (f b)) (l : List β) :
    Claims tag (l.mapM f) := by
  induction l with
  | nil =>
      rw [List.mapM_nil]
      exact ok _
  | cons b l ih =>
      rw [List.mapM_cons]
      exact (hf b).bind fun a => ih.bind fun as => ok _

end Claims

theorem claims_integerIn (base : ℕ) (l : List Char) : Claims .int (integerIn base l) := by
  unfold integerIn
  dsimp only
  split
  · next h =>
      rw [Bool.and_eq_true, decide_eq_true_eq] at h
      exact .fault (.longInteger h.2)
  split
  · exact .fault (.integer _ _)
  · exact .ok _

theorem claims_integerOf (l : List Char) : Claims .int (integerOf l) := by
  unfold integerOf
  dsimp only
  split
  · exact .fault .noInteger
  split
  · exact .ok _
  · exact (claims_integerIn _ _).map _
  · exact (claims_integerIn _ _).map _
  · exact (claims_integerIn _ _).map _
  · exact .fault .noInteger
  · split
    · exact (Claims.mapM (claims_integerIn 10) _).map _
    · exact (claims_integerIn _ _).map _

theorem claims_doubleIn (l : List Char) : Claims .float (doubleIn l) := by
  unfold doubleIn
  dsimp only
  split
  · exact .ok _
  split
  · exact .ok _
  split
  · exact .ok _
  · exact .fault (.float _)

theorem claims_addSixties (place : ℕ) (sum : Float) (ds : List Float) :
    Claims .float (addSixties place sum ds) := by
  induction ds generalizing place sum with
  | nil => exact .ok _
  | cons d ds ih =>
      rw [addSixties]
      split
      · exact .fault .hugeFloat
      · exact ih _ _

theorem claims_doubleOf (l : List Char) : Claims .float (doubleOf l) := by
  unfold doubleOf
  dsimp only
  split
  · exact .fault .noFloat
  split
  · exact .ok _
  split
  · exact .ok _
  split
  · exact (Claims.mapM claims_doubleIn _).bind fun ds =>
      (claims_addSixties _ _ _).bind fun x => .ok _
  · exact (claims_doubleIn _).map _

theorem claims_calendarOr {α : Type} (x : Except CalendarFault α) :
    Claims .timestamp (calendarOr x) := by
  cases x with
  | ok a => exact .ok _
  | error f => exact .fault (.calendar f)

theorem claims_momentOf (l : List Char) : Claims .timestamp (momentOf l) := by
  unfold momentOf
  split
  · exact .fault .moment
  · exact (claims_calendarOr _).map _
  · split
    · split
      · exact .fault (.calendar _)
      · exact (claims_calendarOr _).bind fun d => (claims_calendarOr _).bind fun t => .ok _
    · exact (claims_calendarOr _).bind fun d => (claims_calendarOr _).bind fun t => .ok _

theorem claims_truthOf (text : String) : Claims .bool (truthOf text) := by
  unfold truthOf
  dsimp only
  split
  · exact .ok _
  split
  · exact .ok _
  · exact .fault (.truth _)

theorem claims_octetsOf (l : List Char) : Claims .binary (octetsOf l) := by
  unfold octetsOf
  split
  · exact .refused _
  split
  · exact .ok _
  · exact .refused _

/-- A scalar that fails outside of all layers is not what its tag claims. -/
theorem misclaim_of_scalarValue_eq_error {tag : Tag} {text : String} {f : Fault}
    (h : scalarValue tag text = .error (.fault f)) : Misclaim tag f := by
  have hclaims : Claims tag (scalarValue tag text) := by
    cases tag with
    | null => exact .ok _
    | bool => exact (claims_truthOf _).map _
    | int => exact (claims_integerOf _).map _
    | float => exact (claims_doubleOf _).map _
    | binary => exact (claims_octetsOf _).map _
    | timestamp => exact claims_momentOf _
    | str => exact .ok _
    | _ => exact .refused _
  exact hclaims.of_error h f rfl

end Denylist.Yaml
