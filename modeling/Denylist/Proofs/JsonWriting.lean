import Denylist.Proofs.JsonScalars
import Denylist.Proofs.TableMembers

/-!
# Proofs — JSON text that is read back

A document of no values, truth values, integers that can be written, texts, lists and tables with
different keys is plain (`Plain`).  Its text, on one line or with any indent, is read as the
document (`read_write`).  The members of an object are read one by one as they were written, whether
or not a key occurs twice (`readMembers_object`).
-/

namespace Denylist.Json

/-- A document whose text says all of it. -/
inductive Plain : Document → Prop where
  | null : Plain .null
  | bool (b : Bool) : Plain (.bool b)
  | int {n : ℤ} (h : (Scalar.int n).isWritable = true) : Plain (.int n)
  | text (s : String) : Plain (.text s)
  | list {l : List Document} (h : ∀ d ∈ l, Plain d) : Plain (.list l)
  | table {fields : List (String × Document)} (distinct : (fields.map Prod.fst).Nodup)
      (h : ∀ f ∈ fields, Plain f.2) : Plain (.ofFields fields)

/-! ### Blanks -/

theorem skipSpace_append {blanks : List Char} (h : ∀ c ∈ blanks, isSpace c = true)
    (l : List Char) : skipSpace (blanks ++ l) = skipSpace l :=
  List.dropWhile_append_of_pos h

theorem skipSpace_cons {c : Char} (h : isSpace c = false) (l : List Char) :
    skipSpace (c :: l) = c :: l :=
  List.dropWhile_cons_of_neg (by simp [h])

theorem isSpace_lineBreak (layout : Layout) (level : ℕ) :
    ∀ c ∈ layout.lineBreak level, isSpace c = true := by
  intro c h
  unfold Layout.lineBreak at h
  split at h
  · cases h
  · rcases List.mem_cons.mp h with rfl | h
    · rfl
    · rw [(List.mem_replicate.mp h).2]
      rfl

/-- A comma stands between two items, and perhaps blanks behind it. -/
theorem exists_between_eq (layout : Layout) (level : ℕ) :
    ∃ blanks, layout.between level = ',' :: blanks ∧ ∀ c ∈ blanks, isSpace c = true := by
  unfold Layout.between
  split
  · exact ⟨[' '], rfl, by simp [isSpace]⟩
  · exact ⟨_, rfl, isSpace_lineBreak layout level⟩

theorem ends_cons {c : Char} (h : c ∈ [',', ']', '}', '\n']) (l : List Char) : Ends (c :: l) := by
  intro e he
  obtain rfl := Option.mem_some.mp he
  exact h

theorem ends_lineBreak_append (layout : Layout) (level : ℕ) {l : List Char} (h : Ends l) :
    Ends (layout.lineBreak level ++ l) := by
  unfold Layout.lineBreak
  split
  · exact h
  · exact ends_cons (by decide) _

/-! ### The beginning of a value -/

/-- The text begins like a value. -/
def Begins (l : List Char) : Prop :=
  ∃ c cs, l = c :: cs ∧ (Decimal.isDigit c = true ∨ c ∈ ['n', 't', 'f', '"', '-', '[', '{'])

theorem Begins.exists_cons {l : List Char} (h : Begins l) :
    ∃ c cs, l = c :: cs ∧ isSpace c = false ∧ c ≠ ']' ∧ c ≠ '\uFEFF' := by
  obtain ⟨c, cs, rfl, hc⟩ := h
  have hne {e : Char} (hdigit : Decimal.isDigit e = false)
      (hmem : e ∉ ['n', 't', 'f', '"', '-', '[', '{']) : c ≠ e := by
    rintro rfl
    rcases hc with hc | hc
    · rw [hdigit] at hc
      cases hc
    · exact hmem hc
  refine ⟨c, cs, rfl, ?_, hne (by decide) (by decide), hne (by decide) (by decide)⟩
  simp only [isSpace, Bool.or_eq_false_iff, beq_eq_false_iff_ne]
  exact ⟨⟨⟨hne (by decide) (by decide), hne (by decide) (by decide)⟩, hne (by decide) (by decide)⟩,
    hne (by decide) (by decide)⟩

theorem Begins.append {l : List Char} (h : Begins l) (l' : List Char) : Begins (l ++ l') := by
  obtain ⟨c, cs, rfl, hc⟩ := h
  exact ⟨c, cs ++ l', rfl, hc⟩

/-- The blanks in front of a value are skipped. -/
theorem Begins.skipSpace_append {l blanks : List Char} (h : Begins l)
    (hblanks : ∀ c ∈ blanks, isSpace c = true) : skipSpace (blanks ++ l) = l := by
  obtain ⟨c, cs, rfl, hc, -, -⟩ := h.exists_cons
  rw [Json.skipSpace_append hblanks, skipSpace_cons hc]

theorem begins_writeText (asciiOnly : Bool) (s : String) : Begins (writeText asciiOnly s) :=
  ⟨_, _, rfl, Or.inr (by decide)⟩

theorem begins_writeAt (layout : Layout) (level : ℕ) {d : Document} (hd : Plain d) :
    Begins (layout.writeAt level d) := by
  cases hd with
  | null => exact ⟨_, _, rfl, Or.inr (by decide)⟩
  | bool b =>
      cases b with
      | true => exact ⟨_, _, rfl, Or.inr (by decide)⟩
      | false => exact ⟨_, _, rfl, Or.inr (by decide)⟩
  | @int n =>
      have htext : layout.writeAt level (.int n) = (toString n).toList := rfl
      rw [htext, toList_toString_int]
      split
      · exact ⟨_, _, rfl, Or.inr (by decide)⟩
      · obtain ⟨c, ds, hds, hc⟩ := exists_toDigits_eq_cons n.natAbs
        exact ⟨c, ds, hds, Or.inl hc⟩
  | text s => exact ⟨_, _, rfl, Or.inr (by decide)⟩
  | @list l =>
      cases l with
      | nil => exact ⟨_, _, rfl, Or.inr (by decide)⟩
      | cons d ds => exact ⟨_, _, rfl, Or.inr (by decide)⟩
  | @table fields =>
      cases fields with
      | nil => exact ⟨_, _, rfl, Or.inr (by decide)⟩
      | cons f fields => exact ⟨_, _, rfl, Or.inr (by decide)⟩

/-- A bound for the text of a value leaves something for the value itself. -/
theorem exists_fuel_eq_succ {layout : Layout} {level fuel : ℕ} {d : Document} (hd : Plain d)
    (hfuel : 2 * (layout.writeAt level d).length ≤ fuel) : ∃ n, fuel = n + 1 := by
  obtain ⟨c, cs, hcs, -⟩ := begins_writeAt layout level hd
  rw [hcs, List.length_cons] at hfuel
  exact ⟨fuel - 1, by omega⟩

/-! ### Values without parts -/

/-- A text that begins like a number begins with no word. -/
theorem word?_number {negative : Bool} {c : Char} (hc : Decimal.isDigit c = true) (l : List Char) :
    word? ((if negative then ['-'] else []) ++ c :: l) = none := by
  have hne : ∀ e ∈ ['n', 't', 'f', 'N', 'I', '-'], e ≠ c := by
    rintro e he rfl
    have hall : ∀ e ∈ ['n', 't', 'f', 'N', 'I', '-'], Decimal.isDigit e = false := by
      simp [Decimal.isDigit]
    rw [hall e he] at hc
    cases hc
  simp only [List.forall_mem_cons, List.not_mem_nil, false_implies, implies_true, and_true] at hne
  rw [word?, Option.map_eq_none_iff, List.find?_eq_none]
  intro w hw
  simp only [words, List.mem_cons, List.not_mem_nil, or_false] at hw
  cases negative with
  | true => rcases hw with rfl | rfl | rfl | rfl | rfl | rfl <;> simp [hne]
  | false => rcases hw with rfl | rfl | rfl | rfl | rfl | rfl <;> simp [hne]

/-- An integer is written with a digit in front, perhaps behind a sign. -/
theorem exists_toString_int_eq (n : ℤ) :
    ∃ (negative : Bool) (c : Char) (ds : List Char),
      (toString n).toList = (if negative then ['-'] else []) ++ c :: ds ∧
        Decimal.isDigit c = true := by
  obtain ⟨c, ds, hds, hc⟩ := exists_toDigits_eq_cons n.natAbs
  exact ⟨decide (n < 0), c, ds, by rw [toList_toString_int, hds], hc⟩

theorem readScalar_int {n : ℤ} (hn : (Scalar.int n).isWritable = true) {rest : List Char}
    (h : Ends rest) : readScalar ((toString n).toList ++ rest) = .ok (.int n, rest) := by
  obtain ⟨negative, c, ds, hds, hc⟩ := exists_toString_int_eq n
  unfold readScalar
  split
  · next l hl =>
      -- neither a sign nor a digit is a quote
      rw [hds] at hl
      cases negative with
      | true => cases hl
      | false =>
          rw [(List.cons.inj hl).1] at hc
          cases hc
  · have hword : word? ((toString n).toList ++ rest) = none := by
      rw [hds, List.append_assoc, List.cons_append, word?_number hc]
    rw [hword, readNumber_int hn h]
    rfl

theorem readValue_eq_readScalar {fuel : ℕ} (hfuel : 0 < fuel) {c : Char} (hc : c ≠ '{' ∧ c ≠ '[')
    (l : List Char) : readValue fuel (c :: l) = readScalar (c :: l) := by
  obtain ⟨fuel, rfl⟩ := Nat.exists_eq_succ_of_ne_zero (Nat.ne_of_gt hfuel)
  rw [readValue]
  · exact fun _ h => hc.1 (List.cons.inj h).1
  · exact fun _ h => hc.2 (List.cons.inj h).1

/-! ### Values with parts -/

/-- A document is read back from its text. -/
def ReadsBack (layout : Layout) (d : Document) : Prop :=
  ∀ level fuel rest, 2 * (layout.writeAt level d).length ≤ fuel → Ends rest →
    readValue fuel (layout.writeAt level d ++ rest) = .ok (d, rest)

/-- Behind the last part of a value, perhaps after a line break, it is closed. -/
structure Closes (close : Char) (tail rest : List Char) : Prop where
  ends : Ends tail
  closes : skipSpace tail = close :: rest

section Parts

variable {layout : Layout} {level : ℕ} {tail rest : List Char}

theorem closes_lineBreak (layout : Layout) (level : ℕ) {close : Char} (h : close ∈ [']', '}'])
    (rest : List Char) : Closes close (layout.lineBreak level ++ close :: rest) rest := by
  have hends : ∀ c ∈ [']', '}'], c ∈ [',', ']', '}', '\n'] := by simp
  have hspace : ∀ c ∈ [']', '}'], isSpace c = false := by simp [isSpace]
  refine ⟨ends_lineBreak_append _ _ (ends_cons (hends close h) rest), ?_⟩
  rw [skipSpace_append (isSpace_lineBreak layout level), skipSpace_cons (hspace close h)]

/-- The items of a list are read up to its bracket. -/
theorem readItems_write (level : ℕ) {d : Document} {ds : List Document}
    (h : ∀ e ∈ d :: ds, Plain e ∧ ReadsBack layout e) (hclose : Closes ']' tail rest) (fuel : ℕ)
    (hfuel : 2 * (layout.writeAt level d ++ layout.writeItems level ds).length < fuel) :
    readItems fuel (layout.writeAt level d ++ (layout.writeItems level ds ++ tail)) =
      .ok (d :: ds, rest) := by
  -- on the items behind the first; each takes one unit of the bound, and its separator gives two
  induction ds generalizing d fuel with
  | nil =>
      obtain ⟨fuel, rfl⟩ := Nat.exists_eq_succ_of_ne_zero (Nat.ne_of_gt (Nat.zero_lt_of_lt hfuel))
      rw [Layout.writeItems, List.append_nil] at hfuel
      have hread := (h d List.mem_cons_self).2 level fuel tail (by omega) hclose.ends
      rw [readItems, Layout.writeItems, List.nil_append, hread]
      simp only [bind, Except.bind, hclose.closes]
  | cons e ds ih =>
      obtain ⟨fuel, rfl⟩ := Nat.exists_eq_succ_of_ne_zero (Nat.ne_of_gt (Nat.zero_lt_of_lt hfuel))
      obtain ⟨blanks, hbetween, hblanks⟩ := exists_between_eq layout level
      obtain ⟨hd, hds⟩ := List.forall_mem_cons.mp h
      simp only [Layout.writeItems, hbetween, List.length_append, List.length_cons] at hfuel
      have htext : layout.writeItems level (e :: ds) ++ tail =
          ',' :: (blanks ++ (layout.writeAt level e ++ (layout.writeItems level ds ++ tail))) := by
        simp [Layout.writeItems, hbetween]
      have hread (l : List Char) := hd.2 level fuel (',' :: l) (by omega) (ends_cons (by decide) l)
      have hrest := ih hds fuel (by rw [List.length_append]; omega)
      have hskip := ((begins_writeAt layout level (hds e List.mem_cons_self).1).append
        (layout.writeItems level ds ++ tail)).skipSpace_append hblanks
      rw [htext, readItems, hread]
      simp only [bind, Except.bind, skipSpace_cons (c := ',') rfl, hskip, hrest]

/-- The name of a member and its value are read up to what stands behind them. -/
theorem readMembers_member {name : String} {d : Document} (hd : Plain d)
    (hread : ReadsBack layout d) {fuel : ℕ} (hfuel : 2 * (layout.writeAt level d).length ≤ fuel)
    (h : Ends tail) :
    readMembers (fuel + 1)
        (writeText layout.asciiOnly name ++ (':' :: ' ' :: (layout.writeAt level d ++ tail))) =
      match skipSpace tail with
      | '}' :: after => .ok ([(.text name, d)], after)
      | ',' :: after =>
        (readMembers fuel (skipSpace after)).map fun r => ((.text name, d) :: r.1, r.2)
      | other => .error (.malformed .comma other) := by
  have hblank : ∀ c ∈ [' '], isSpace c = true := by simp [isSpace]
  have hvalue : skipSpace (' ' :: (layout.writeAt level d ++ tail)) =
      layout.writeAt level d ++ tail :=
    ((begins_writeAt layout level hd).append tail).skipSpace_append hblank
  obtain ⟨l, hl⟩ : ∃ l, writeText layout.asciiOnly name ++
      (':' :: ' ' :: (layout.writeAt level d ++ tail)) = '"' :: l := ⟨_, rfl⟩
  rw [hl, readMembers, ← hl]
  simp only [readString_writeText, bind, Except.bind, skipSpace_cons (c := ':') rfl, hvalue,
    hread level fuel tail hfuel h]
  rfl

/-- The members of an object are read up to its brace, as they were written. -/
theorem readMembers_write (level : ℕ) {f : String × Document} {fields : List (String × Document)}
    (h : ∀ g ∈ f :: fields, Plain g.2 ∧ ReadsBack layout g.2) (hclose : Closes '}' tail rest)
    (fuel : ℕ) (hfuel : 2 * (layout.writeAt level f.2 ++
      layout.writeMembers level (membersOf fields)).length < fuel) :
    readMembers fuel (writeText layout.asciiOnly f.1 ++ (':' :: ' ' ::
      (layout.writeAt level f.2 ++ (layout.writeMembers level (membersOf fields) ++ tail)))) =
      .ok (membersOf (f :: fields), rest) := by
  induction fields generalizing f fuel with
  | nil =>
      obtain ⟨fuel, rfl⟩ := Nat.exists_eq_succ_of_ne_zero (Nat.ne_of_gt (Nat.zero_lt_of_lt hfuel))
      obtain ⟨hf, hread⟩ := h f List.mem_cons_self
      rw [List.length_append] at hfuel
      rw [membersOf, List.map_nil, Layout.writeMembers, List.nil_append,
        readMembers_member hf hread (by omega) hclose.ends, hclose.closes]
      rfl
  | cons g fields ih =>
      obtain ⟨fuel, rfl⟩ := Nat.exists_eq_succ_of_ne_zero (Nat.ne_of_gt (Nat.zero_lt_of_lt hfuel))
      obtain ⟨blanks, hbetween, hblanks⟩ := exists_between_eq layout level
      obtain ⟨hf, hfields⟩ := List.forall_mem_cons.mp h
      have hmembers : layout.writeMembers level (membersOf (g :: fields)) =
          ',' :: (blanks ++ (writeText layout.asciiOnly g.1 ++ (':' :: ' ' ::
            (layout.writeAt level g.2 ++ layout.writeMembers level (membersOf fields))))) := by
        simp [membersOf, Layout.writeMembers, hbetween, keyName, Scalar.shown]
      rw [hmembers] at hfuel ⊢
      simp only [List.length_append, List.length_cons] at hfuel
      have hrest := ih hfields fuel (by rw [List.length_append]; omega)
      have hskip := ((begins_writeText layout.asciiOnly g.1).append (':' :: ' ' ::
        (layout.writeAt level g.2 ++
          (layout.writeMembers level (membersOf fields) ++ tail)))).skipSpace_append hblanks
      simp only [List.cons_append, List.append_assoc]
      rw [readMembers_member hf.1 hf.2 (by omega) (ends_cons (by decide) _)]
      simp only [skipSpace_cons (c := ',') rfl, hskip, hrest]
      rfl

end Parts

/-! ### Documents -/

section Documents

variable {layout : Layout}

/-- A value without parts is read back if it is as a scalar. -/
theorem ReadsBack.of_readScalar {d : Document} (hd : Plain d) (h : ∀ level rest, Ends rest →
    (∃ c l, layout.writeAt level d ++ rest = c :: l ∧ c ≠ '{' ∧ c ≠ '[') ∧
      readScalar (layout.writeAt level d ++ rest) = .ok (d, rest)) : ReadsBack layout d := by
  intro level fuel rest hfuel hrest
  obtain ⟨fuel, rfl⟩ := exists_fuel_eq_succ hd hfuel
  obtain ⟨⟨c, l, hl, hc⟩, hread⟩ := h level rest hrest
  rw [hl] at hread ⊢
  rw [readValue_eq_readScalar (Nat.succ_pos fuel) hc, hread]

theorem readsBack_null : ReadsBack layout .null :=
  .of_readScalar .null fun _ _ _ => ⟨⟨_, _, rfl, by decide⟩, rfl⟩

theorem readsBack_bool (b : Bool) : ReadsBack layout (.bool b) := by
  cases b with
  | true => exact .of_readScalar (.bool true) fun _ _ _ => ⟨⟨_, _, rfl, by decide⟩, rfl⟩
  | false => exact .of_readScalar (.bool false) fun _ _ _ => ⟨⟨_, _, rfl, by decide⟩, rfl⟩

theorem readsBack_int {n : ℤ} (hn : (Scalar.int n).isWritable = true) :
    ReadsBack layout (.int n) := by
  obtain ⟨negative, c, ds, hds, hc⟩ := exists_toString_int_eq n
  refine .of_readScalar (.int hn) fun level rest hrest => ⟨?_, readScalar_int hn hrest⟩
  have htext : layout.writeAt level (.int n) = (toString n).toList := rfl
  rw [htext, hds]
  cases negative with
  | true => exact ⟨'-', c :: ds ++ rest, rfl, by decide⟩
  | false =>
      refine ⟨c, ds ++ rest, rfl, ?_, ?_⟩
      · rintro rfl
        cases hc
      · rintro rfl
        cases hc

theorem readsBack_text (s : String) : ReadsBack layout (.text s) := by
  refine .of_readScalar (.text s) fun level rest hrest => ⟨⟨_, _, rfl, by decide⟩, ?_⟩
  have hread := readString_writeText layout.asciiOnly s rest
  obtain ⟨l, hl⟩ : ∃ l, writeText layout.asciiOnly s ++ rest = '"' :: l := ⟨_, rfl⟩
  have htext : layout.writeAt level (.text s) = writeText layout.asciiOnly s := rfl
  rw [htext, hl, readScalar, ← hl, hread]
  rfl

theorem readsBack_list {l : List Document} (h : ∀ d ∈ l, Plain d ∧ ReadsBack layout d) :
    ReadsBack layout (.list l) := by
  intro level fuel rest hfuel hrest
  obtain ⟨fuel, rfl⟩ := exists_fuel_eq_succ (.list fun d hd => (h d hd).1) hfuel
  cases l with
  | nil => rfl
  | cons d ds =>
      have hbegins := (begins_writeAt layout (level + 1) (h d List.mem_cons_self).1).append
        (layout.writeItems (level + 1) ds ++ (layout.lineBreak level ++ ']' :: rest))
      have hskip := hbegins.skipSpace_append (isSpace_lineBreak layout (level + 1))
      have hclose : Closes ']' (layout.lineBreak level ++ ']' :: rest) rest :=
        closes_lineBreak layout level (by decide) rest
      simp only [Layout.writeAt, List.length_append, List.length_cons] at hfuel
      have hitems := readItems_write (level + 1) h hclose fuel
        (by rw [List.length_append]; omega)
      simp only [Layout.writeAt, List.cons_append, List.append_assoc, List.nil_append]
      rw [readValue, hskip]
      split
      · next after hafter =>
          obtain ⟨c, cs, hcs, -, hc, -⟩ := hbegins.exists_cons
          rw [hcs] at hafter
          exact absurd (List.cons.inj hafter).1 hc
      · rw [hitems]
        rfl

/-- Whether or not keys occur twice, the members of an object are read as they were written. -/
theorem readMembers_object {f : String × Document} {fields : List (String × Document)}
    (h : ∀ g ∈ f :: fields, Plain g.2 ∧ ReadsBack layout g.2) {level fuel : ℕ}
    (hfuel : 2 * (layout.writeAt level (.ofFields (f :: fields))).length ≤ fuel + 1)
    (rest : List Char) :
    ∃ body, layout.writeAt level (.ofFields (f :: fields)) ++ rest = '{' :: body ∧
      (∀ after, skipSpace body ≠ '}' :: after) ∧
        readMembers fuel (skipSpace body) = .ok (membersOf (f :: fields), rest) := by
  have htext : layout.writeAt level (.ofFields (f :: fields)) =
      '{' :: (layout.lineBreak (level + 1) ++ (writeText layout.asciiOnly f.1 ++ (':' :: ' ' ::
        (layout.writeAt (level + 1) f.2 ++ (layout.writeMembers (level + 1) (membersOf fields) ++
          (layout.lineBreak level ++ ['}'])))))) := by
    simp [Document.ofFields, Layout.writeAt, membersOf, keyName, Scalar.shown]
  have hclose : Closes '}' (layout.lineBreak level ++ '}' :: rest) rest :=
    closes_lineBreak layout level (by decide) rest
  rw [htext] at hfuel
  simp only [List.length_append, List.length_cons] at hfuel
  have hmembers := readMembers_write (level + 1) h hclose fuel
    (by rw [List.length_append]; omega)
  have hskip := ((begins_writeText layout.asciiOnly f.1).append (':' :: ' ' ::
    (layout.writeAt (level + 1) f.2 ++ (layout.writeMembers (level + 1) (membersOf fields) ++
      (layout.lineBreak level ++ '}' :: rest))))).skipSpace_append
        (isSpace_lineBreak layout (level + 1))
  refine ⟨_, ?_, fun after hafter => ?_, (congrArg (readMembers fuel) hskip).trans hmembers⟩
  · simp only [htext, List.append_assoc, List.cons_append, List.nil_append]
  · rw [hskip] at hafter
    cases hafter

theorem readsBack_table {fields : List (String × Document)} (hn : (fields.map Prod.fst).Nodup)
    (h : ∀ f ∈ fields, Plain f.2 ∧ ReadsBack layout f.2) :
    ReadsBack layout (.ofFields fields) := by
  intro level fuel rest hfuel hrest
  obtain ⟨fuel, rfl⟩ := exists_fuel_eq_succ (.table hn fun f hf => (h f hf).1) hfuel
  cases fields with
  | nil => rfl
  | cons f fields =>
      obtain ⟨body, hbody, hopen, hmembers⟩ := readMembers_object h hfuel rest
      rw [hbody, readValue]
      split
      · next after hafter => exact absurd hafter (hopen after)
      · -- only here it matters that the keys are different
        rw [hmembers]
        exact congrArg (fun d => Except.ok (d, rest)) <|
          (ofMembers_membersOf _).trans (congrArg _ (mergeBy_of_nodup hn))

/-- A plain document is read back from its text, whatever follows. -/
theorem readsBack {d : Document} (hd : Plain d) : ReadsBack layout d := by
  induction hd with
  | null => exact readsBack_null
  | bool b => exact readsBack_bool b
  | int hn => exact readsBack_int hn
  | text s => exact readsBack_text s
  | list h ih => exact readsBack_list fun d hd => ⟨h d hd, ih d hd⟩
  | table hn h ih => exact readsBack_table hn fun f hf => ⟨h f hf, ih f hf⟩

/-- The text of a plain document is read as this document. -/
theorem read_write (layout : Layout) {d : Document} (hd : Plain d) :
    read (layout.write d) = .ok d := by
  have hbegins := begins_writeAt layout 0 hd
  have hread : ReadsBack layout d := readsBack hd
  replace hread := hread 0 (2 * (layout.writeAt 0 d).length + 2) [] (by omega)
    fun c hc => by cases hc
  rw [List.append_nil] at hread
  have hskip := hbegins.skipSpace_append (List.forall_mem_nil fun c => isSpace c = true)
  rw [List.nil_append] at hskip
  have hchars : readChars? (layout.writeAt 0 d) = .ok d := by
    unfold readChars?
    split
    · next l hl =>
        obtain ⟨c, cs, hcs, -, -, hc⟩ := hbegins.exists_cons
        rw [hcs] at hl
        exact absurd (List.cons.inj hl).1 hc
    · rw [hskip, hread]
      rfl
  rw [read, Layout.write, String.toList_ofList, hchars]

end Documents

end Denylist.Json
