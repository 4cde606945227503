import Denylist.Proofs.ConfigLanguage
import Denylist.Proofs.JsonWriting
import Denylist.Proofs.Outcomes

/-!
# Proofs — the members of an object as they are written

What is read from JSON has the shape of JSON (`isJson_of_read`).  An object is the table of the
members that are written in it (`read_eq_ok_cases`), where a key that is written again loses what
was written under it before.  The members of a text that was written are those it was written with,
whether or not they have different keys (`writtenMembers_write`).
-/

namespace Denylist.Json
open Config (IsJson)

/-! ### The shape of JSON -/

theorem isJson_ofMembers {fields : List (String × Document)} (h : ∀ f ∈ fields, IsJson f.2) :
    IsJson (.ofMembers (membersOf fields)) := by
  rw [ofMembers_membersOf]
  refine .table (nodup_keys_mergeBy fields) fun f hf => h f ?_
  refine (kept_append_replaced_perm fields).mem_iff.mp (List.mem_append_left _ ?_)
  exact (mergeBy_perm fields).mem_iff.mp hf

/-- What is read satisfies `post`. -/
abbrev Gives {α : Type} (post : α → Prop) (x : Except Stop (α × List Char)) : Prop :=
  Yields (fun r => post r.1) (fun _ => True) x

theorem gives_readString (l : List Char) : Gives (fun _ => True) (readString l) := by
  cases readString l with
  | ok r => trivial
  | error e => trivial

theorem gives_readNumber (l : List Char) : Gives (fun s => IsJson (.scalar s)) (readNumber l) := by
  unfold readNumber
  split
  split
  · trivial
  · dsimp only
    split
    · exact .float _
    · split
      · exact .float _
      · split
        · trivial
        · exact .int _

theorem isJson_of_mem_words {w : List Char × Scalar} (h : w ∈ words) : IsJson (.scalar w.2) := by
  simp only [words, List.mem_cons, List.not_mem_nil, or_false] at h
  rcases h with rfl | rfl | rfl | rfl | rfl | rfl
  · exact .null
  · exact .bool true
  · exact .bool false
  · exact .float _
  · exact .float _
  · exact .float _

theorem gives_readScalar (l : List Char) : Gives IsJson (readScalar l) := by
  unfold readScalar
  split
  · exact (gives_readString _).map fun r _ => IsJson.text r.1
  · split
    · next s rest h =>
        obtain ⟨w, hw, hs⟩ := Option.map_eq_some_iff.mp h
        cases hs
        exact isJson_of_mem_words (List.mem_of_find?_eq_some hw)
    · exact (gives_readNumber l).map fun r hr => hr

/-- The members of an object: their keys are texts, and their values have the shape of JSON. -/
def AreMembers (ms : List (Scalar × Document)) : Prop :=
  ∃ fields, ms = membersOf fields ∧ ∀ f ∈ fields, IsJson f.2

/-- What a text denotes is the value at its front. -/
theorem exists_of_read_eq_ok {s : String} {d : Document} (h : read s = .ok d) :
    ∃ rest, readValue (2 * s.toList.length + 2) (skipSpace s.toList) = .ok (d, rest) := by
  have hchars : readChars? s.toList = .ok d := by
    unfold read at h
    split at h
    · next hd =>
        cases h
        exact hd
    · cases h
    · cases h
  unfold readChars? at hchars
  split at hchars
  · cases hchars
  · obtain ⟨⟨d', rest⟩, hvalue, h⟩ := Sequences.bind_eq_ok_iff.mp hchars
    dsimp only at h
    split at h
    · cases h
      exact ⟨rest, hvalue⟩
    · cases h

/-- Values, items and members are read by one recursion, so they have the shape of JSON together. -/
theorem gives_values (fuel : ℕ) :
    (∀ l, Gives IsJson (readValue fuel l)) ∧
      (∀ l, Gives (fun ds => ∀ d ∈ ds, IsJson d) (readItems fuel l)) ∧
        ∀ l, Gives AreMembers (readMembers fuel l) := by
  induction fuel with
  | zero => exact ⟨fun _ => trivial, fun _ => trivial, fun _ => trivial⟩
  | succ fuel ih =>
      obtain ⟨hvalue, hitems, hmembers⟩ := ih
      refine ⟨fun l => ?_, fun l => ?_, fun l => ?_⟩
      · unfold readValue
        split
        · contradiction
        · next h =>
            obtain rfl := Nat.succ.inj h
            split
            · exact isJson_ofMembers (List.forall_mem_nil fun f : String × Document => IsJson f.2)
            · refine (hmembers _).map fun r hr => ?_
              obtain ⟨fields, hms, hfields⟩ := hr
              rw [hms]
              exact isJson_ofMembers hfields
        · next h =>
            obtain rfl := Nat.succ.inj h
            split
            · exact .list (List.forall_mem_nil _)
            · exact (hitems _).map fun r hr => .list hr
        · exact gives_readScalar _
      · unfold readItems
        refine (hvalue l).bind fun r hd => ?_
        dsimp only
        split
        · exact fun d hm => List.mem_singleton.mp hm ▸ hd
        · exact (hitems _).bind fun r' hds => List.forall_mem_cons.mpr ⟨hd, hds⟩
        · trivial
      · unfold readMembers
        split
        · refine (gives_readString _).bind fun name _ => ?_
          dsimp only
          split
          · refine (hvalue _).bind fun r hd => ?_
            split
            · exact ⟨[(name.1, r.1)], rfl, fun f hf => List.mem_singleton.mp hf ▸ hd⟩
            · refine (hmembers _).bind fun r' hms => ?_
              obtain ⟨fields, hfields, hall⟩ := hms
              exact ⟨(name.1, r.1) :: fields, congrArg _ hfields,
                List.forall_mem_cons.mpr ⟨hd, hall⟩⟩
            · trivial
          · trivial
        · trivial

/-- What is read has the shape of JSON. -/
theorem isJson_of_read {s : String} {d : Document} (h : read s = .ok d) : IsJson d := by
  obtain ⟨rest, hd⟩ := exists_of_read_eq_ok h
  exact ((gives_values _).1 _).of_ok hd

/-! ### Members as they are written -/

/-- The members of the object that a text denotes, as they are written; none if it denotes another
value. -/
def writtenMembers (s : String) : List (String × Document) :=
  match skipSpace s.toList with
  | '{' :: rest =>
    match readMembers (2 * s.toList.length + 1) (skipSpace rest) with
    | .ok (ms, _) => ms.filterMap fun m => m.1.text?.map fun name => (name, m.2)
    | .error _ => []
  | _ => []

theorem filterMap_text?_membersOf (fields : List (String × Document)) :
    (membersOf fields).filterMap (fun m => m.1.text?.map fun name => (name, m.2)) = fields := by
  rw [membersOf, List.filterMap_map]
  exact List.filterMap_some

theorem writtenMembers_of_readMembers {s : String} {rest after : List Char}
    {fields : List (String × Document)} (htext : skipSpace s.toList = '{' :: rest)
    (h : readMembers (2 * s.toList.length + 1) (skipSpace rest) = .ok (membersOf fields, after)) :
    writtenMembers s = fields := by
  simp only [writtenMembers, htext, h, filterMap_text?_membersOf]

/-- The members of an object are those with which it was written, each as often as it was. -/
theorem writtenMembers_write (layout : Layout) {fields : List (String × Document)}
    (h : ∀ f ∈ fields, Plain f.2) : writtenMembers (layout.write (.ofFields fields)) = fields := by
  have hchars : (layout.write (.ofFields fields)).toList = layout.writeAt 0 (.ofFields fields) :=
    String.toList_ofList
  cases fields with
  | nil =>
      rw [writtenMembers, hchars]
      rfl
  | cons f fields =>
      have hbound : 2 * (layout.writeAt 0 (.ofFields (f :: fields))).length ≤
          2 * (layout.writeAt 0 (.ofFields (f :: fields))).length + 1 + 1 := by omega
      obtain ⟨body, hbody, -, hmembers⟩ :=
        readMembers_object (fun g hg => ⟨h g hg, readsBack (h g hg)⟩) hbound []
      rw [List.append_nil] at hbody
      refine writtenMembers_of_readMembers ?_ (hchars ▸ hmembers)
      rw [hchars, hbody]
      rfl

theorem writtenMembers_eq_nil {s : String} (h : ∀ rest, skipSpace s.toList ≠ '{' :: rest) :
    writtenMembers s = [] := by
  unfold writtenMembers
  split
  · next rest htext => exact absurd htext (h rest)
  · rfl

/-- A value without parts is no object. -/
theorem gives_readScalar_ne (l : List Char) :
    Gives (fun d => ∀ ms, d ≠ .table ms) (readScalar l) := by
  unfold readScalar
  split
  · exact (gives_readString _).map fun r _ ms h => by cases h
  · split
    · intro ms h
      cases h
    · exact (gives_readNumber l).map fun r _ ms h => by cases h

/-- An object is the table of the members that are written in it, and in other values none are. -/
theorem read_eq_ok_cases {s : String} {d : Document} (h : read s = .ok d) :
    d = .ofMembers (membersOf (writtenMembers s)) ∨
      (∀ ms, d ≠ .table ms) ∧ writtenMembers s = [] := by
  obtain ⟨after, hd⟩ := exists_of_read_eq_ok h
  unfold readValue at hd
  split at hd
  · contradiction
  · next fuel rest hfuel htext =>
      obtain rfl := Nat.succ.inj hfuel
      refine Or.inl ?_
      split at hd
      · next hclose =>
          cases hd
          have hname : readMembers (2 * s.toList.length + 1) ('}' :: after) =
              .error (.malformed .name ('}' :: after)) := rfl
          have hnone : writtenMembers s = [] := by
            simp only [writtenMembers, htext, hclose, hname]
          rw [hnone]
          rfl
      · obtain ⟨⟨ms, after'⟩, hms, hd⟩ := Sequences.map_eq_ok_iff.mp hd
        obtain ⟨fields, hfields, -⟩ := ((gives_values _).2.2 _).of_ok hms
        obtain rfl : ms = membersOf fields := hfields
        cases hd
        rw [writtenMembers_of_readMembers htext hms]
  · next htext =>
      refine Or.inr ⟨fun ms hms => ?_, writtenMembers_eq_nil fun rest hrest => ?_⟩
      · subst hms
        split at hd
        · cases hd
        · obtain ⟨r, -, hr⟩ := Sequences.map_eq_ok_iff.mp hd
          cases hr
      · rw [htext] at hrest
        cases hrest
  · next hbrace _ =>
      exact Or.inr ⟨(gives_readScalar_ne _).of_ok hd, writtenMembers_eq_nil hbrace⟩

end Denylist.Json
