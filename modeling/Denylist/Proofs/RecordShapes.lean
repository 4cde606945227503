import Denylist.Proofs.ConfigLanguage
import Denylist.Proofs.RecordNesting

/-!
# Proofs — which records are accepted

A record is accepted in two shapes and no other: with a nested location and nothing else beside kind
and path, or with file, line and perhaps column beside them (`HasShape`).  Of a record in the shape
of JSON, the event has the kind, the path and the file as they are written, the kind being one of the
three that rules have exactly where it is named like one, and line and column as the numbers that
their values stand for.  Every other value is refused under the number and the line of the record
(`parse_accepts_shapes`).
-/

namespace Denylist
open Sequences

/-! ### Integers -/

/-- A double is an integer that fits 64 bits with a sign. -/
def IsInteger (x : Float) (n : ℤ) : Prop :=
  ∃ negative m e atStep, Decimal.Parts.ofFloat x = .finite negative m e atStep ∧
    m * Decimal.pow2 e = n.natAbs * Decimal.pow2 (-e) ∧ n.natAbs < Decimal.pow2 63 ∧
      (n < 0 → negative = true) ∧ (0 < n → negative = false)

/-- A value that an integer field takes for an integer: the integer, a truth value, a double that is
whole, or a text in decimal notation. -/
inductive Coerces : Document → ℤ → Prop where
  | int (n : ℤ) : Coerces (.scalar (.int n)) n
  | bool (b : Bool) : Coerces (.scalar (.bool b)) (if b then 1 else 0)
  | float {x : Float} {n : ℤ} (h : IsInteger x n) : Coerces (.scalar (.float x)) n
  | text {d : Document} {s : String} {n : ℤ} (spelled : d.Spells s) (h : Numeral.read? s = .ok n) :
      Coerces d n

theorem pow2_pos (e : ℤ) : 0 < Decimal.pow2 e := Nat.pow_pos (by decide)

/-- A magnitude with a sign. -/
theorem ofSign_eq_iff {negative : Bool} {k : ℕ} {n : ℤ} :
    (if negative then -(k : ℤ) else k) = n ↔
      k = n.natAbs ∧ (n < 0 → negative = true) ∧ (0 < n → negative = false) := by
  cases negative with
  | true => simp; omega
  | false => simp; omega

theorem readIntegerFloat_eq_ok_iff {x : Float} {n : ℤ} :
    readIntegerFloat x = .ok n ↔ IsInteger x n := by
  unfold readIntegerFloat IsInteger
  cases Decimal.Parts.ofFloat x with
  | finite negative m e atStep =>
      have hpos := pow2_pos (-e)
      constructor
      · intro h
        dsimp only at h
        split at h
        · cases h
        · next hwhole =>
            split at h
            · cases h
            · next hsmall =>
                obtain ⟨hmagnitude, hsign⟩ := ofSign_eq_iff.mp (Except.ok.inj h)
                refine ⟨negative, m, e, atStep, rfl, ?_, by omega, hsign⟩
                rw [← hmagnitude, Nat.div_mul_cancel (Nat.dvd_of_mod_eq_zero (not_not.mp hwhole))]
      · rintro ⟨_, _, _, _, hparts, hvalue, hsmall, hsign⟩
        cases hparts
        have hwhole : m * Decimal.pow2 e % Decimal.pow2 (-e) = 0 := by
          rw [hvalue, Nat.mul_mod_left]
        have hmagnitude : m * Decimal.pow2 e / Decimal.pow2 (-e) = n.natAbs := by
          rw [hvalue, Nat.mul_div_cancel _ hpos]
        dsimp only
        rw [if_neg (not_not.mpr hwhole), hmagnitude, if_neg (Nat.not_le.mpr hsmall),
          ofSign_eq_iff.mpr ⟨rfl, hsign⟩]
  | _ => simp [Checked.fail]

theorem readIntegerText_eq_ok_iff {s : String} {n : ℤ} :
    readIntegerText s = .ok n ↔ Numeral.read? s = .ok n := by
  unfold readIntegerText
  split
  · next h => simp [h]
  · next h => simp [h, Checked.fail]
  · next h => simp [h, Checked.fail]

theorem readInteger_eq_ok_iff {d : Document} {n : ℤ} :
    readInteger d = .ok n ↔ Coerces d n := by
  constructor
  · intro h
    unfold readInteger at h
    split at h
    · cases h
      exact .int _
    · cases h
      exact .bool _
    · exact .float (readIntegerFloat_eq_ok_iff.mp h)
    · exact .text (.text _) (readIntegerText_eq_ok_iff.mp h)
    · split at h
      · next hspelled => exact .text (.octets hspelled) (readIntegerText_eq_ok_iff.mp h)
      · cases h
    · cases h
  · intro h
    cases h with
    | int => rfl
    | bool => rfl
    | float h => exact readIntegerFloat_eq_ok_iff.mpr h
    | text spelled h =>
        cases spelled with
        | text s => exact readIntegerText_eq_ok_iff.mpr h
        | octets hspelled =>
            simp only [readInteger, hspelled]
            exact readIntegerText_eq_ok_iff.mpr h

theorem readPositive_eq_ok_iff {d : Document} {n : { n : ℕ // 0 < n }} :
    readPositive d = .ok n ↔ Coerces d n.1 := by
  rw [← readInteger_eq_ok_iff]
  unfold readPositive
  rcases n with ⟨n, hn⟩
  cases readInteger d with
  | error l => simp
  | ok k =>
      rw [Except.ok.injEq]
      dsimp only
      split
      · rw [Except.ok.injEq, Subtype.mk.injEq]
        omega
      · next h =>
          simp only [Checked.fail, reduceCtorEq, false_iff]
          rintro rfl
          exact h (by simpa using hn)

theorem readNonempty_eq_ok_iff {d : Document} {s : { s : String // s ≠ "" }} :
    readNonempty d = .ok s ↔ d.Spells s.1 := by
  rw [← readText_eq_ok_iff]
  unfold readNonempty
  rcases s with ⟨s, hs⟩
  cases readText d with
  | error l => simp
  | ok t =>
      rw [Except.ok.injEq]
      dsimp only
      split
      · rw [Except.ok.injEq, Subtype.mk.injEq]
      · next h =>
          simp only [Checked.fail, reduceCtorEq, false_iff]
          rintro rfl
          exact h hs

/-! ### Shapes -/

/-- What a record says of a use, in plain values. -/
structure PlainUse where
  /-- The kind, as it is written. -/
  kind : String
  /-- The path. -/
  path : String
  /-- The file. -/
  file : String
  /-- The line. -/
  line : ℕ
  /-- The column. -/
  column : ℕ

/-- The plain values of an event. -/
def UsageEvent.plain (e : UsageEvent) : PlainUse :=
  ⟨e.kind.name, e.path, e.location.file, e.location.line, e.location.column⟩

namespace UsageRecord
open Config (IsJson isJson_ofFields_iff spells_iff_of_isJson ofFields_injective)

/-- Members that tell kind and path. -/
structure TellsSymbol (fields : List (String × Document)) (u : PlainUse) : Prop where
  kind : ("kind", .text u.kind) ∈ fields
  path : ("path", .text u.path) ∈ fields
  path_ne : u.path ≠ ""

/-- Members that tell file, line and column, where a missing column is the first. -/
structure TellsPlace (fields : List (String × Document)) (u : PlainUse) : Prop where
  file : ("file", .text u.file) ∈ fields
  file_ne : u.file ≠ ""
  line : ∃ d, ("line", d) ∈ fields ∧ Coerces d u.line
  line_pos : 1 ≤ u.line
  column : (∃ d, ("column", d) ∈ fields ∧ Coerces d u.column) ∨
    (∀ d, ("column", d) ∉ fields) ∧ u.column = 1
  column_pos : 1 ≤ u.column

/-- A record with a nested location. -/
structure NestedShape (fields : List (String × Document)) (u : PlainUse) : Prop where
  keys : ∀ f ∈ fields, f.1 ∈ ["kind", "path", "location"]
  symbol : TellsSymbol fields u
  location : ∃ place, ("location", .ofFields place) ∈ fields ∧
    (∀ f ∈ place, f.1 ∈ Location.fieldNames) ∧ TellsPlace place u

/-- A record with a flat location. -/
structure FlatShape (fields : List (String × Document)) (u : PlainUse) : Prop where
  keys : ∀ f ∈ fields, f.1 ∈ ["kind", "path", "file", "line", "column"]
  symbol : TellsSymbol fields u
  place : TellsPlace fields u

/-- An object in one of the two shapes of records. -/
def HasShape (d : Document) (u : PlainUse) : Prop :=
  ∃ fields, d = .ofFields fields ∧ (NestedShape fields u ∨ FlatShape fields u)

/-! ### Nested records -/

/-- The kind is one of the three that rules have exactly where it is named like one. -/
theorem exists_eq_known_iff (k : UsageKind) :
    (∃ k', k = .known k') ↔ k.name ∈ ["macro", "method", "type"] := by
  have hnames : ["macro", "method", "type"] = Kind.names := rfl
  rw [hnames, Kind.names, List.mem_map]
  constructor
  · rintro ⟨k', rfl⟩
    exact ⟨k', Kind.mem_all k', rfl⟩
  · rintro ⟨k', -, hname⟩
    refine ⟨k', ?_⟩
    rw [← UsageKind.ofName_name k, ← hname]
    exact UsageKind.ofName_name (.known k')

theorem kind_read_eq_ok_iff {d : Document} {k : UsageKind} :
    UsageKind.read d = .ok k ↔ d.Spells k.name := by
  rw [← readText_eq_ok_iff]
  unfold UsageKind.read
  cases readText d with
  | error l => simp
  | ok s =>
      rw [Except.ok.injEq, Except.ok.injEq]
      exact eq_comm.trans (UsageKind.eq_ofName_iff.trans eq_comm)

theorem location_ofChecked_eq_ok_iff {file : Checked { s : String // s ≠ "" }}
    {line column : Checked { n : ℕ // 0 < n }} {others : List Issue} {l : Location} :
    Location.ofChecked file line column others = .ok l ↔
      file = .ok ⟨l.file, l.file_ne⟩ ∧ line = .ok ⟨l.line, l.line_pos⟩ ∧
        column = .ok ⟨l.column, l.column_pos⟩ ∧ others = [] := by
  unfold Location.ofChecked
  split
  · next f n c =>
      rcases l with ⟨f', n', c', hf, hn, hc⟩
      rcases f with ⟨f, _⟩
      rcases n with ⟨n, _⟩
      rcases c with ⟨c, _⟩
      simp
  · next h =>
      simp only [reduceCtorEq, false_iff]
      rintro ⟨rfl, rfl, rfl, rfl⟩
      exact h _ _ _ rfl rfl rfl rfl

section Members

variable {fields : List (String × Document)}

theorem exists_spells_iff (hf : ∀ f ∈ fields, IsJson f.2) {name s : String} :
    (∃ d, (name, d) ∈ fields ∧ d.Spells s) ↔ (name, .text s) ∈ fields := by
  constructor
  · rintro ⟨d, hd, hs⟩
    have hjson : IsJson d := hf _ hd
    rwa [(spells_iff_of_isJson hjson).mp hs] at hd
  · intro h
    exact ⟨_, h, .text s⟩

theorem forall_mem_membersOf_iff {expected : List String} :
    (∀ m ∈ membersOf fields, ∃ s ∈ expected, m.1 = .text s) ↔ ∀ f ∈ fields, f.1 ∈ expected := by
  rw [membersOf, List.forall_mem_map]
  exact forall₂_congr fun f _ => by simp

end Members

theorem location_read_fields_eq_ok_iff {place : List (String × Document)}
    (hd : IsJson (.ofFields place)) {e : UsageEvent} :
    Location.read (.ofFields place) = .ok e.location ↔
      (∀ f ∈ place, f.1 ∈ Location.fieldNames) ∧ TellsPlace place e.plain := by
  obtain ⟨hn, hf⟩ := isJson_ofFields_iff.mp hd
  rw [Document.ofFields, Location.read, readTable, ← membersOf]
  dsimp only
  simp only [location_ofChecked_eq_ok_iff, requiredField_eq_ok_iff, readField_eq_ok_iff,
    readNonempty_eq_ok_iff, readPositive_eq_ok_iff, memberAt?_membersOf_eq_some_iff hn,
    memberAt?_membersOf_eq_none_iff hn, exists_spells_iff hf, unexpectedMembers_eq_nil_iff,
    forall_mem_membersOf_iff, Except.ok.injEq, Subtype.mk.injEq]
  constructor
  · rintro ⟨hfile, hline, hcolumn, hkeys⟩
    exact ⟨hkeys, hfile, e.location.file_ne, hline, e.location.line_pos,
      hcolumn.imp id (And.imp id Eq.symm), e.location.column_pos⟩
  · rintro ⟨hkeys, hplace⟩
    exact ⟨hplace.file, hplace.line, hplace.column.imp id (And.imp id Eq.symm), hkeys⟩

/-- A location is read from an object with these members and no others. -/
theorem location_read_eq_ok_iff {d : Document} (hd : IsJson d) {e : UsageEvent} :
    Location.read d = .ok e.location ↔ ∃ place, d = .ofFields place ∧
      (∀ f ∈ place, f.1 ∈ Location.fieldNames) ∧ TellsPlace place e.plain := by
  constructor
  · intro h
    cases hd with
    | table hn hf =>
        exact ⟨_, rfl, (location_read_fields_eq_ok_iff (.table hn hf)).mp h⟩
    | _ => cases h
  · rintro ⟨place, rfl, hplace⟩
    exact (location_read_fields_eq_ok_iff hd).mpr hplace

/-- An event is read from an object in the nested shape and no other. -/
theorem event_read_eq_ok_iff {fields : List (String × Document)}
    (hd : IsJson (.ofFields fields)) {e : UsageEvent} :
    UsageEvent.read (.ofFields fields) = .ok e ↔ NestedShape fields e.plain := by
  obtain ⟨hn, hf⟩ := isJson_ofFields_iff.mp hd
  rw [Document.ofFields, ← membersOf, UsageEvent.read_eq_ok_iff]
  simp only [requiredField_eq_ok_iff, kind_read_eq_ok_iff, readNonempty_eq_ok_iff,
    memberAt?_membersOf_eq_some_iff hn, exists_spells_iff hf, forall_mem_membersOf_iff]
  constructor
  · rintro ⟨hkind, hpath, ⟨d, hmem, hread⟩, hkeys⟩
    obtain ⟨place, rfl, hplace⟩ := (location_read_eq_ok_iff (hf _ hmem)).mp hread
    exact ⟨hkeys, ⟨hkind, hpath, e.path_ne⟩, place, hmem, hplace⟩
  · rintro ⟨hkeys, hsymbol, place, hmem, hplace⟩
    exact ⟨hsymbol.kind, hsymbol.path,
      ⟨_, hmem, (location_read_eq_ok_iff (hf _ hmem)).mpr ⟨place, rfl, hplace⟩⟩, hkeys⟩

/-! ### Flat records -/

theorem TellsSymbol.congr {fields fields' : List (String × Document)} {u : PlainUse}
    (h : ∀ name ∈ ["kind", "path"], ∀ d, (name, d) ∈ fields ↔ (name, d) ∈ fields') :
    TellsSymbol fields u ↔ TellsSymbol fields' u := by
  have hkind := h "kind" (by decide) (.text u.kind)
  have hpath := h "path" (by decide) (.text u.path)
  constructor
  · exact fun hu => ⟨hkind.mp hu.kind, hpath.mp hu.path, hu.path_ne⟩
  · exact fun hu => ⟨hkind.mpr hu.kind, hpath.mpr hu.path, hu.path_ne⟩

theorem TellsPlace.of_iff {fields fields' : List (String × Document)} {u : PlainUse}
    (h : ∀ name ∈ Location.fieldNames, ∀ d, (name, d) ∈ fields ↔ (name, d) ∈ fields')
    (hu : TellsPlace fields u) : TellsPlace fields' u := by
  have hfile := h "file" (by decide)
  have hline := h "line" (by decide)
  have hcolumn := h "column" (by decide)
  refine ⟨(hfile _).mp hu.file, hu.file_ne, ?_, hu.line_pos, ?_, hu.column_pos⟩
  · obtain ⟨d, hd, hcoerces⟩ := hu.line
    exact ⟨d, (hline d).mp hd, hcoerces⟩
  · rcases hu.column with ⟨d, hd, hcoerces⟩ | ⟨hnone, hone⟩
    · exact Or.inl ⟨d, (hcolumn d).mp hd, hcoerces⟩
    · exact Or.inr ⟨fun d hd => hnone d ((hcolumn d).mpr hd), hone⟩

section Flat

variable {flat : List (String × Document)}

/-- The keys beside a flat location are the two of the symbol exactly where all keys of the record are
those of a flat one. -/
theorem forall_mem_othersOf_iff (unplaced : ∀ d, ("location", d) ∉ flat) :
    (∀ f ∈ othersOf flat, f.1 ∈ ["kind", "path", "location"]) ↔
      ∀ f ∈ flat, f.1 ∈ ["kind", "path", "file", "line", "column"] := by
  have hkeys : ∀ s ∈ ["kind", "path", "location"], s = "location" ∨
      s ∈ ["kind", "path", "file", "line", "column"] := by decide
  have hflat : ∀ s ∈ ["kind", "path", "file", "line", "column"], s ∈ Location.fieldNames ∨
      s ∈ ["kind", "path", "location"] := by decide
  have hnames : ∀ s ∈ Location.fieldNames, s ∈ ["kind", "path", "file", "line", "column"] := by
    decide
  constructor
  · rintro h ⟨name, d⟩ hf
    by_cases hname : name ∈ Location.fieldNames
    · exact hnames name hname
    · rcases hkeys name (h _ (mem_othersOf_iff.mpr ⟨hf, hname⟩)) with rfl | hkey
      · exact absurd hf (unplaced d)
      · exact hkey
  · rintro h ⟨name, d⟩ hf
    obtain ⟨hf, hname⟩ := mem_othersOf_iff.mp hf
    exact (hflat name (h _ hf)).resolve_left hname

theorem nestedShape_iff_flatShape (unplaced : ∀ d, ("location", d) ∉ flat) {u : PlainUse} :
    NestedShape (othersOf flat ++ [("location", .ofFields (placeOf flat))]) u ↔
      FlatShape flat u := by
  have hsymbol : TellsSymbol (othersOf flat ++ [("location", .ofFields (placeOf flat))]) u ↔
      TellsSymbol flat u := by
    refine TellsSymbol.congr fun name hname d => ?_
    have hlocation : name ≠ "location" ∧ name ∉ Location.fieldNames :=
      (by decide : ∀ s ∈ ["kind", "path"], s ≠ "location" ∧ s ∉ Location.fieldNames) name hname
    simp [mem_othersOf_iff, hlocation]
  have hplace (name : String) (hname : name ∈ Location.fieldNames) (d : Document) :
      (name, d) ∈ placeOf flat ↔ (name, d) ∈ flat := by
    rw [mem_placeOf_iff, and_iff_left hname]
  constructor
  · rintro ⟨hkeys, hu, place, hmem, -, htells⟩
    obtain rfl : place = placeOf flat := by
      rcases List.mem_append.mp hmem with hmem | hmem
      · exact absurd (mem_othersOf_iff.mp hmem).1 (unplaced _)
      · exact ofFields_injective (Prod.mk.inj (List.mem_singleton.mp hmem)).2
    obtain ⟨hothers, -⟩ := List.forall_mem_append.mp hkeys
    exact ⟨(forall_mem_othersOf_iff unplaced).mp hothers, hsymbol.mp hu, htells.of_iff hplace⟩
  · rintro ⟨hkeys, hu, htells⟩
    have hlocation : "location" ∈ ["kind", "path", "location"] := by decide
    refine ⟨List.forall_mem_append.mpr ⟨(forall_mem_othersOf_iff unplaced).mpr hkeys,
        List.forall_mem_singleton.mpr hlocation⟩,
      hsymbol.mpr hu, placeOf flat, List.mem_append_right _ List.mem_cons_self, ?_,
      htells.of_iff fun name hname d => (hplace name hname d).symm⟩
    rintro ⟨name, d⟩ hf
    exact (mem_placeOf_iff.mp hf).2

end Flat

/-! ### Records -/

theorem isJson_nested {flat : List (String × Document)} (hd : IsJson (.ofFields flat))
    (hnests : Nests flat (othersOf flat ++ [("location", .ofFields (placeOf flat))])) :
    IsJson (.ofFields (othersOf flat ++ [("location", .ofFields (placeOf flat))])) := by
  obtain ⟨hn, hf⟩ := isJson_ofFields_iff.mp hd
  refine .table hnests.nested_distinct (List.forall_mem_append.mpr ⟨fun f hm => ?_, ?_⟩)
  · exact hf f (List.mem_of_mem_filter hm)
  · refine List.forall_mem_singleton.mpr (.table ?_ fun f hm => hf f (List.mem_of_mem_filter hm))
    exact hn.sublist (List.filter_sublist.map Prod.fst)

/-- A record that stays as it is when it is nested is accepted in the nested shape. -/
theorem parse_of_nest_eq {o : RecordOrigin} {fields : List (String × Document)}
    (hd : IsJson (.ofFields fields)) (h : nest (membersOf fields) = membersOf fields)
    {e : UsageEvent} : parse o (.ofFields fields) = .ok e ↔ NestedShape fields e.plain := by
  rw [← event_read_eq_ok_iff hd, parse_eq_ok_iff]
  constructor
  · rintro ⟨ms, hms, hread⟩
    obtain rfl := Document.table.inj hms
    rwa [← membersOf, h] at hread
  · intro hread
    refine ⟨_, rfl, ?_⟩
    rwa [← membersOf, h]

theorem parse_fields_eq_ok_iff {o : RecordOrigin} {fields : List (String × Document)}
    (hd : IsJson (.ofFields fields)) {e : UsageEvent} :
    parse o (.ofFields fields) = .ok e ↔ NestedShape fields e.plain ∨ FlatShape fields e.plain := by
  obtain ⟨hn, hf⟩ := isJson_ofFields_iff.mp hd
  by_cases unplaced : ∀ d, ("location", d) ∉ fields
  · have hnested : ¬ NestedShape fields e.plain := by
      rintro ⟨-, -, place, hmem, -⟩
      exact unplaced _ hmem
    rw [or_iff_right hnested]
    by_cases present : ∃ f ∈ fields, f.1 ∈ Location.fieldNames
    · have hnests := nests_last hn unplaced present
      have hjson := isJson_nested hd hnests
      have hnone : nest (membersOf (othersOf fields ++ [("location", .ofFields (placeOf fields))])) =
          membersOf (othersOf fields ++ [("location", .ofFields (placeOf fields))]) := by
        refine nest_of_location (hasMember_eq_true_iff.mpr ⟨.ofFields (placeOf fields), ?_⟩)
        rw [memberAt?_membersOf_eq_some_iff hnests.nested_distinct]
        exact List.mem_append_right _ List.mem_cons_self
      rw [parse_eq_of_nests o hnests, parse_of_nest_eq hjson hnone,
        nestedShape_iff_flatShape unplaced]
    · have hsame : nest (membersOf fields) = membersOf fields := by
        refine nest_of_unplaced fun name hname => ?_
        rw [Bool.eq_false_iff, Ne, hasMember_eq_true_iff]
        rintro ⟨d, hmem⟩
        exact present ⟨_, (memberAt?_membersOf_eq_some_iff hn).mp hmem, hname⟩
      have hflat : ¬ FlatShape fields e.plain := fun h =>
        present ⟨_, h.place.file, (by decide : "file" ∈ Location.fieldNames)⟩
      rw [parse_of_nest_eq hd hsame]
      exact iff_of_false hnested hflat
  · have hlocation : ∃ d, ("location", d) ∈ fields := by
      simpa only [not_forall, not_not] using unplaced
    obtain ⟨d, hmem⟩ := hlocation
    have hsame : nest (membersOf fields) = membersOf fields :=
      nest_of_location (hasMember_eq_true_iff.mpr
        ⟨d, (memberAt?_membersOf_eq_some_iff hn).mpr hmem⟩)
    have hflat : ¬ FlatShape fields e.plain := fun h =>
      absurd (h.keys _ hmem) (by decide : "location" ∉ ["kind", "path", "file", "line", "column"])
    rw [or_iff_left hflat, parse_of_nest_eq hd hsame]

theorem parse_eq_ok_iff_hasShape {o : RecordOrigin} {d : Document} (hd : IsJson d)
    {e : UsageEvent} : parse o d = .ok e ↔ HasShape d e.plain := by
  constructor
  · intro h
    cases hd with
    | table hn hf => exact ⟨_, rfl, (parse_fields_eq_ok_iff (.table hn hf)).mp h⟩
    | _ => cases h
  · rintro ⟨fields, rfl, h⟩
    exact (parse_fields_eq_ok_iff hd).mpr h

/-- Plain values in one of the shapes are those of an event. -/
theorem exists_plain_eq {d : Document} {u : PlainUse} (h : HasShape d u) :
    ∃ e : UsageEvent, e.plain = u := by
  have hevent (symbol : u.path ≠ "") (file : u.file ≠ "") (line : 1 ≤ u.line)
      (column : 1 ≤ u.column) : ∃ e : UsageEvent, e.plain = u :=
    ⟨⟨.ofName u.kind, u.path, ⟨u.file, u.line, u.column, file, line, column⟩, symbol⟩, by
      rw [UsageEvent.plain, UsageKind.name_ofName]⟩
  obtain ⟨fields, rfl, h | h⟩ := h
  · obtain ⟨place, -, -, hplace⟩ := h.location
    exact hevent h.symbol.path_ne hplace.file_ne hplace.line_pos hplace.column_pos
  · exact hevent h.symbol.path_ne h.place.file_ne h.place.line_pos h.place.column_pos

/-- **Which records are accepted.**  A value in the shape of JSON is accepted exactly where it is an
object in one of the two shapes, and the event has its plain values.  The kind is one that rules have
exactly where it is written like one.  All else is refused as a malformed record from its origin. -/
theorem parse_accepts_shapes (o : RecordOrigin) {d : Document} (hd : IsJson d) :
    ((∃ e, parse o d = .ok e) ↔ ∃ u, HasShape d u) ∧
      (∀ e, parse o d = .ok e ↔ HasShape d e.plain) ∧
      (∀ e, parse o d = .ok e →
        ((∃ k, e.kind = .known k) ↔ e.kind.name ∈ ["macro", "method", "type"])) ∧
      ((¬ ∃ u, HasShape d u) → ∃ detail,
        parse o d = .error { cause := .malformedRecord o.source o.index o.line detail }) := by
  have hiff : (∃ e, parse o d = .ok e) ↔ ∃ u, HasShape d u := by
    constructor
    · rintro ⟨e, he⟩
      exact ⟨e.plain, (parse_eq_ok_iff_hasShape hd).mp he⟩
    · rintro ⟨u, hu⟩
      obtain ⟨e, rfl⟩ := exists_plain_eq hu
      exact ⟨e, (parse_eq_ok_iff_hasShape hd).mpr hu⟩
  refine ⟨hiff, fun e => parse_eq_ok_iff_hasShape hd, fun e _ => exists_eq_known_iff e.kind,
    fun hnone => ?_⟩
  cases h : parse o d with
  | ok e => exact absurd (hiff.mp ⟨e, h⟩) hnone
  | error e =>
      obtain ⟨detail, rfl⟩ := exists_of_parse_eq_error h
      exact ⟨detail, rfl⟩

/-- A use of a label, with its line as a text and without a column. -/
def labelUse : Document :=
  .ofFields [("kind", .text "label"), ("path", .text "retry"), ("file", .text "c.rs"),
    ("line", .text "12")]

/-- This use is accepted and keeps its kind; a list is refused. -/
theorem parse_accepts_labelUse :
    IsJson labelUse ∧
      (∃ e, parse ⟨memory, some 5, none⟩ labelUse = .ok e ∧
        e.plain = ⟨"label", "retry", "c.rs", 12, 1⟩ ∧ ¬ ∃ k, e.kind = .known k) ∧
      ∃ detail, parse ⟨memory, some 5, none⟩ (.list []) =
        .error { cause := .malformedRecord memory (some 5) none detail } := by
  have hd : IsJson labelUse := by
    refine .table (by decide) fun f hf => ?_
    simp only [List.mem_cons, List.not_mem_nil, or_false] at hf
    obtain rfl | rfl | rfl | rfl := hf <;> exact .text _
  have hline : Coerces (.text "12") 12 := .text (.text "12") rfl
  have hshape : HasShape labelUse ⟨"label", "retry", "c.rs", 12, 1⟩ := by
    refine ⟨_, rfl, Or.inr ⟨by decide, ⟨by simp, by simp, by decide⟩, by simp, by decide,
      ⟨_, by simp, hline⟩, by decide, Or.inr ⟨by simp, rfl⟩, by decide⟩⟩
  obtain ⟨hiff, hevent, hknown, -⟩ := parse_accepts_shapes ⟨memory, some 5, none⟩ hd
  obtain ⟨e, he⟩ := exists_plain_eq hshape
  have hparse : parse ⟨memory, some 5, none⟩ labelUse = .ok e := (hevent e).mpr (he ▸ hshape)
  have hkind : e.kind.name = "label" := congrArg PlainUse.kind he
  obtain ⟨-, -, -, hrefused⟩ :=
    parse_accepts_shapes ⟨memory, some 5, none⟩ (IsJson.list (List.forall_mem_nil _))
  refine ⟨hd, ⟨e, hparse, he, fun h => ?_⟩, hrefused ?_⟩
  · have hmem := (hknown e hparse).mp h
    rw [hkind] at hmem
    exact absurd hmem (by decide)
  · rintro ⟨u, fields, hfields, -⟩
    cases hfields

end UsageRecord

end Denylist
