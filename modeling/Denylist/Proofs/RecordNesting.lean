import Denylist.Proofs.Fields
import Denylist.Proofs.UsageReading
import Mathlib.Data.List.Perm.Basic

/-!
# Proofs — flat and nested records

A record whose location is flat says the same as the record in which file, line and column are moved
into a nested location: both give the same event, or the same error to the letter, wherever the
location stands and in whatever order it lists the three (`flat_and_nested_agree`).

Bringing a record into the nested shape moves members and loses none, does nothing the second time,
and is done on a copy: the step-by-step account of it (`foldRecord`) leaves each table that was there
before as it was.
-/

namespace Denylist

theorem filter_membersOf (p : String → Bool) (q : Scalar → Bool)
    (h : ∀ s, q (.text s) = p s) (fields : List (String × Document)) :
    (membersOf fields).filter (fun m => q m.1) = membersOf (fields.filter fun f => p f.1) := by
  rw [membersOf, membersOf, List.filter_map]
  exact congrArg _ (List.filter_congr fun f _ => h f.1)

/-! ### Members under a key -/

section Members

variable {α : Type} {name : String}

theorem memberAt?_append (ms ms' : List (Scalar × α)) :
    memberAt? name (ms ++ ms') = (memberAt? name ms).or (memberAt? name ms') := by
  induction ms with
  | nil => rfl
  | cons m ms ih =>
      rcases m with ⟨key, a⟩
      cases key with
      | text s =>
          rw [List.cons_append, memberAt?, memberAt?]
          split
          · rfl
          · exact ih
      | _ => exact ih

/-- To take out members with other keys does not matter. -/
theorem memberAt?_filter {p : Scalar → Bool} (h : p (.text name) = true) (ms : List (Scalar × α)) :
    memberAt? name (ms.filter fun m => p m.1) = memberAt? name ms := by
  induction ms with
  | nil => rfl
  | cons m ms ih =>
      rcases m with ⟨key, a⟩
      rw [List.filter_cons]
      cases key with
      | text s =>
          by_cases hs : s = name
          · subst hs
            rw [if_pos h, memberAt?, memberAt?, if_pos rfl, if_pos rfl]
          · split
            · rw [memberAt?, memberAt?, if_neg hs, if_neg hs, ih]
            · rw [memberAt?, if_neg hs, ih]
      | _ =>
          split
          · exact ih
          · exact ih

end Members

/-- Tables with the same members under different keys in any order agree on each key. -/
theorem memberAt?_eq_of_perm {fields fields' : List (String × Document)}
    (hn : (fields.map Prod.fst).Nodup) (h : fields'.Perm fields) (name : String) :
    memberAt? name (membersOf fields') = memberAt? name (membersOf fields) := by
  have hn' : (fields'.map Prod.fst).Nodup := (h.map Prod.fst).nodup_iff.mpr hn
  refine Option.ext fun d => ?_
  rw [memberAt?_membersOf_eq_some_iff hn', memberAt?_membersOf_eq_some_iff hn, h.mem_iff]

theorem unexpectedMembers_filter {expected : List String} {p : Scalar → Bool}
    (h : ∀ key, p key = false → ∃ s ∈ expected, key = .text s) (ms : List (Scalar × Document)) :
    unexpectedMembers expected (ms.filter fun m => p m.1) = unexpectedMembers expected ms := by
  rw [unexpectedMembers, unexpectedMembers, List.filterMap_filter]
  refine List.filterMap_congr fun m _ => ?_
  split
  · rfl
  · next hp =>
      obtain ⟨s, hs, hkey⟩ := h m.1 (by simpa using hp)
      rw [hkey]
      simp [hs]

theorem unexpectedMembers_concat {expected : List String} {name : String} (h : name ∈ expected)
    (ms : List (Scalar × Document)) (d : Document) :
    unexpectedMembers expected (ms ++ [(.text name, d)]) = unexpectedMembers expected ms := by
  rw [unexpectedMembers, unexpectedMembers, List.filterMap_append]
  simp [h]

/-! ### Reading by keys -/

theorem Location.read_congr {ms ms' : List (Scalar × Document)}
    (h : ∀ name ∈ fieldNames, memberAt? name ms = memberAt? name ms')
    (hrest : unexpectedMembers fieldNames ms = unexpectedMembers fieldNames ms') :
    read (.table ms) = read (.table ms') := by
  have hfile := h "file" (by decide)
  have hline := h "line" (by decide)
  have hcolumn := h "column" (by decide)
  simp only [read, readTable, requiredField, readField, hfile, hline, hcolumn, hrest]

theorem UsageEvent.ofChecked_eq_ok_iff {kind : Checked UsageKind}
    {path : Checked { s : String // s ≠ "" }} {location : Checked Location} {others : List Issue}
    {e : UsageEvent} :
    ofChecked kind path location others = .ok e ↔
      kind = .ok e.kind ∧ path = .ok ⟨e.path, e.path_ne⟩ ∧ location = .ok e.location ∧
        others = [] := by
  unfold ofChecked
  split
  · next k p hp l =>
      rcases e with ⟨k', p', l', hp'⟩
      simp
  · next h =>
      simp only [reduceCtorEq, false_iff]
      rintro ⟨rfl, rfl, rfl, rfl⟩
      exact h _ _ _ _ rfl rfl rfl rfl

theorem UsageEvent.read_eq_ok_iff {ms : List (Scalar × Document)} {e : UsageEvent} :
    read (.table ms) = .ok e ↔
      requiredField "kind" UsageKind.read ms = .ok e.kind ∧
        requiredField "path" readNonempty ms = .ok ⟨e.path, e.path_ne⟩ ∧
          requiredField "location" Location.read ms = .ok e.location ∧
            ∀ m ∈ ms, ∃ s ∈ ["kind", "path", "location"], m.1 = .text s := by
  rw [read, ← unexpectedMembers_eq_nil_iff]
  exact ofChecked_eq_ok_iff

theorem UsageEvent.read_congr {ms ms' : List (Scalar × Document)}
    (hkind : memberAt? "kind" ms = memberAt? "kind" ms')
    (hpath : memberAt? "path" ms = memberAt? "path" ms')
    (hlocation : requiredField "location" Location.read ms =
      requiredField "location" Location.read ms')
    (hrest : unexpectedMembers ["kind", "path", "location"] ms =
      unexpectedMembers ["kind", "path", "location"] ms') :
    read (.table ms) = read (.table ms') := by
  have hkind' : requiredField "kind" UsageKind.read ms =
      requiredField "kind" UsageKind.read ms' := by
    rw [requiredField, requiredField, readField, readField, hkind]
  have hpath' : requiredField "path" readNonempty ms = requiredField "path" readNonempty ms' := by
    rw [requiredField, requiredField, readField, readField, hpath]
  simp only [read, readTable, hkind', hpath', hlocation, hrest]

namespace UsageRecord

/-! ### Bringing records into the nested shape -/

theorem isLocationKey_text (s : String) :
    isLocationKey (.text s) = Location.fieldNames.contains s := rfl

theorem hasMember_eq_true_iff {name : String} {ms : List (Scalar × Document)} :
    hasMember name ms = true ↔ ∃ d, memberAt? name ms = some d := by
  rw [hasMember, Option.isSome_iff_exists]

/-- Of the members picked out by name, each is found under its name. -/
theorem memberAt?_filterMap (name : String) (names : List String)
    (ms : List (Scalar × Document)) :
    memberAt? name (names.filterMap fun s => (memberAt? s ms).map fun d => (Scalar.text s, d)) =
      if name ∈ names then memberAt? name ms else none := by
  induction names with
  | nil => rfl
  | cons s names ih =>
      by_cases hs : s = name
      · subst hs
        cases hd : memberAt? s ms with
        | some d => simp [hd, memberAt?]
        | none => simp [hd, ih]
      · have hmem : name ∈ s :: names ↔ name ∈ names := by simp [Ne.symm hs]
        simp only [hmem]
        cases hd : memberAt? s ms with
        | some d => simp [hd, memberAt?, hs, ih]
        | none => simp [hd, ih]

theorem memberAt?_flatLocation {name : String} (h : name ∈ Location.fieldNames)
    (ms : List (Scalar × Document)) : memberAt? name (flatLocation ms) = memberAt? name ms := by
  rw [flatLocation, memberAt?_filterMap, if_pos h]

theorem unexpectedMembers_flatLocation (ms : List (Scalar × Document)) :
    unexpectedMembers Location.fieldNames (flatLocation ms) = [] := by
  rw [unexpectedMembers_eq_nil_iff]
  intro m hm
  obtain ⟨name, hname, hm⟩ := List.mem_filterMap.mp hm
  obtain ⟨d, -, rfl⟩ := Option.map_eq_some_iff.mp hm
  exact ⟨name, hname, rfl⟩

theorem nest_of_location {ms : List (Scalar × Document)} (h : hasMember "location" ms = true) :
    nest ms = ms := by
  rw [nest, h, Bool.true_or, if_pos rfl]

theorem nest_of_unplaced {ms : List (Scalar × Document)}
    (h : ∀ name ∈ Location.fieldNames, hasMember name ms = false) : nest ms = ms := by
  have hnone : Location.fieldNames.any (hasMember · ms) = false := by
    rw [List.any_eq_false]
    intro name hname
    rw [h name hname]
    exact Bool.false_ne_true
  rw [nest, hnone, Bool.not_false, Bool.or_true, if_pos rfl]

theorem nest_of_flat {ms : List (Scalar × Document)} (hlocation : hasMember "location" ms = false)
    (hflat : ∃ name ∈ Location.fieldNames, hasMember name ms = true) :
    nest ms = ms.filter (fun m => !isLocationKey m.1) ++
      [(.text "location", .table (flatLocation ms))] := by
  rw [nest, hlocation, List.any_eq_true.mpr hflat]
  exact if_neg (by decide)

/-- A nested record stays as it is. -/
theorem nest_nest (ms : List (Scalar × Document)) : nest (nest ms) = nest ms := by
  by_cases hlocation : hasMember "location" ms = true
  · rw [nest_of_location hlocation, nest_of_location hlocation]
  · by_cases hflat : ∃ name ∈ Location.fieldNames, hasMember name ms = true
    · rw [Bool.not_eq_true] at hlocation
      rw [nest_of_flat hlocation hflat]
      refine nest_of_location (hasMember_eq_true_iff.mpr ?_)
      rw [memberAt?_append]
      cases memberAt? "location" (ms.filter fun m => !isLocationKey m.1) with
      | none => exact ⟨_, rfl⟩
      | some d => exact ⟨d, rfl⟩
    · have hnone : ∀ name ∈ Location.fieldNames, hasMember name ms = false := by
        intro name hname
        rw [Bool.eq_false_iff]
        exact fun h => hflat ⟨name, hname, h⟩
      rw [nest_of_unplaced hnone, nest_of_unplaced hnone]

/-- Whether a key is anything but this text. -/
def isNotText (name : String) (key : Scalar) : Bool := key.text? != some name

theorem eq_text_of_isNotText_eq_false {name : String} {key : Scalar}
    (h : isNotText name key = false) : key = .text name := by
  cases key with
  | text s => simpa [isNotText, Scalar.text?] using h
  | _ => cases h

theorem isNotText_text (name s : String) : isNotText name (.text s) = (s != name) := rfl

/-- A record with a location and a flat field is refused. -/
theorem parse_of_both (o : RecordOrigin) {ms : List (Scalar × Document)}
    (hlocation : hasMember "location" ms = true)
    (hflat : ∃ name ∈ Location.fieldNames, hasMember name ms = true) :
    ∃ detail, parse o (.table ms) = .error (malformed o detail) := by
  cases h : parse o (.table ms) with
  | error e =>
      obtain ⟨detail, rfl⟩ := exists_of_parse_eq_error h
      exact ⟨detail, rfl⟩
  | ok e =>
      obtain ⟨ms', hms, hread⟩ := parse_eq_ok_iff.mp h
      obtain rfl := Document.table.inj hms
      rw [nest_of_location hlocation] at hread
      obtain ⟨-, -, -, hkeys⟩ := UsageEvent.read_eq_ok_iff.mp hread
      obtain ⟨name, hname, hmember⟩ := hflat
      obtain ⟨d, hd⟩ := hasMember_eq_true_iff.mp hmember
      obtain ⟨s, hs, hkey⟩ := hkeys _ (mem_of_memberAt?_eq_some hd)
      obtain rfl := Scalar.text.inj hkey
      exact absurd hname ((by decide : ∀ s ∈ ["kind", "path", "location"], s ∉ Location.fieldNames)
        name hs)

/-- The second table has the members of the first, perhaps with those of a location in a table of
their own. -/
inductive Keeps (ms : List (Scalar × Document)) : List (Scalar × Document) → Prop where
  | same : Keeps ms ms
  | moved {others place : List (Scalar × Document)} (all : (others ++ place).Perm ms)
      (moved : ∀ m ∈ place, isLocationKey m.1 = true) :
      Keeps ms (others ++ [(.text "location", .table place)])

/-- The flat fields of a location are the members of the record with their keys. -/
theorem flatLocation_perm {ms : List (Scalar × Document)} (hn : (ms.map Prod.fst).Nodup) :
    (flatLocation ms).Perm (ms.filter fun m => isLocationKey m.1) := by
  have hflat : (flatLocation ms).Nodup := by
    refine List.Nodup.filterMap (fun s t m hs ht => ?_) (by decide)
    obtain ⟨d, -, rfl⟩ := Option.map_eq_some_iff.mp hs
    obtain ⟨d', -, heq⟩ := Option.map_eq_some_iff.mp ht
    exact (Scalar.text.inj (Prod.mk.inj heq).1).symm
  refine (List.perm_ext_iff_of_nodup hflat ((hn.of_map _).filter _)).mpr fun m => ?_
  rw [flatLocation, List.mem_filterMap, List.mem_filter]
  constructor
  · rintro ⟨name, hname, hm⟩
    obtain ⟨d, hd, rfl⟩ := Option.map_eq_some_iff.mp hm
    exact ⟨mem_of_memberAt?_eq_some hd, List.contains_iff_mem.mpr hname⟩
  · rintro ⟨hm, hkey⟩
    rcases m with ⟨key, d⟩
    cases key with
    | text s =>
        refine ⟨s, List.contains_iff_mem.mp hkey, ?_⟩
        rw [(memberAt?_eq_some_iff_mem hn).mpr hm, Option.map_some]
    | _ => cases hkey

/-- No member is lost. -/
theorem keeps_nest {ms : List (Scalar × Document)} (hn : (ms.map Prod.fst).Nodup) :
    Keeps ms (nest ms) := by
  rw [nest]
  split
  · exact .same
  · have hperm := flatLocation_perm hn
    refine .moved (((List.Perm.refl _).append hperm).trans ?_) fun m hm => ?_
    · exact List.perm_append_comm.trans (List.filter_append_perm _ ms)
    · exact (List.mem_filter.mp (hperm.mem_iff.mp hm)).2

/-! ### Step by step -/

/-- Tables that can be changed, each under its number. -/
abbrev Tables := List (List (Scalar × Document))

/-- A new table with the members of another one. -/
def copyTable (n : ℕ) : StateM Tables ℕ := fun tables =>
  (tables.length, tables ++ [tables.getD n []])

/-- Takes the member under a text key out of a table. -/
def popMember (n : ℕ) (name : String) : StateM Tables (Option (Scalar × Document)) := fun tables =>
  ((memberAt? name (tables.getD n [])).map fun d => (.text name, d),
    tables.set n ((tables.getD n []).filter fun m => isNotText name m.1))

/-- Takes out the members under text keys, one after the other. -/
def popMembers (n : ℕ) : List String → StateM Tables (List (Scalar × Document))
  | [] => return []
  | name :: names => do
    let m ← popMember n name
    let ms ← popMembers n names
    return m.toList ++ ms

/-- Adds a member to a table. -/
def addMember (n : ℕ) (m : Scalar × Document) : StateM Tables Unit := fun tables =>
  ((), tables.set n (tables.getD n [] ++ [m]))

/-- A copy of a record with its flat location fields moved into a nested location. -/
def foldRecord (n : ℕ) : StateM Tables ℕ := do
  let data ← copyTable n
  let ms := (← get).getD data []
  if hasMember "location" ms || !(Location.fieldNames.any (hasMember · ms)) then
    return data
  else
    let place ← popMembers data Location.fieldNames
    addMember data (.text "location", .table place)
    return data

theorem getD_eq_of_getElem?_eq_some {tables : Tables} {n : ℕ} {ms : List (Scalar × Document)}
    (h : tables[n]? = some ms) : tables.getD n [] = ms := by
  rw [List.getD_eq_getElem?_getD, h, Option.getD_some]

/-- The members under some keys are taken out in the order of the keys, and the others are left. -/
theorem popMembers_eq {n : ℕ} {names : List String} (hnames : names.Nodup) {tables : Tables}
    {ms : List (Scalar × Document)} (hms : tables[n]? = some ms) :
    popMembers n names tables =
      (names.filterMap fun name => (memberAt? name ms).map fun d => (.text name, d),
        tables.set n (ms.filter fun m => names.all (isNotText · m.1))) := by
  induction names generalizing tables ms with
  | nil =>
      have hset : tables.set n ms = tables := by
        obtain ⟨hn, rfl⟩ := List.getElem?_eq_some_iff.mp hms
        exact List.set_getElem_self hn
      change (([] : List (Scalar × Document)), tables) = _
      simp [hset]
  | cons name names ih =>
      obtain ⟨hname, hnames⟩ := List.nodup_cons.mp hnames
      have hlength : n < tables.length := (List.getElem?_eq_some_iff.mp hms).1
      have hpopped : (tables.set n (ms.filter fun m => isNotText name m.1))[n]? =
          some (ms.filter fun m => isNotText name m.1) := by
        rw [List.getElem?_set_self hlength]
      have hfound : ∀ s ∈ names, memberAt? s (ms.filter fun m => isNotText name m.1) =
          memberAt? s ms := by
        intro s hs
        refine memberAt?_filter (p := isNotText name) ?_ ms
        rw [isNotText_text, bne_iff_ne]
        rintro rfl
        exact hname hs
      have hpop : popMember n name tables =
          ((memberAt? name ms).map fun d => (.text name, d),
            tables.set n (ms.filter fun m => isNotText name m.1)) := by
        rw [popMember, getD_eq_of_getElem?_eq_some hms]
      have hrest : popMembers n names (popMember n name tables).2 =
          (names.filterMap fun s => (memberAt? s ms).map fun d => (.text s, d),
            tables.set n (ms.filter fun m => (name :: names).all (isNotText · m.1))) := by
        rw [hpop, ih hnames hpopped, List.set_set, List.filter_filter]
        refine Prod.ext ?_ ?_
        · exact List.filterMap_congr fun s hs => by rw [hfound s hs]
        · simp only [List.all_cons, Bool.and_comm]
      change ((popMember n name tables).1.toList ++
          (popMembers n names (popMember n name tables).2).1,
        (popMembers n names (popMember n name tables).2).2) = _
      rw [hrest, hpop]
      cases hd : memberAt? name ms with
      | none => simp [hd]
      | some d => simp [hd]

/-- The members that are left are those with other keys than the flat ones. -/
theorem all_isNotText_fieldNames (key : Scalar) :
    Location.fieldNames.all (isNotText · key) = !isLocationKey key := by
  cases key with
  | text s =>
      rw [Bool.eq_iff_iff, isLocationKey_text, Location.fieldNames]
      simp [isNotText_text]
  | _ => rfl

/-- To fold a record makes one more table and leaves all others as they were. -/
theorem foldRecord_eq {tables : Tables} {n : ℕ} {ms : List (Scalar × Document)}
    (hms : tables[n]? = some ms) :
    foldRecord n tables = (tables.length, tables ++ [nest ms]) := by
  have hcopy : copyTable n tables = (tables.length, tables ++ [ms]) := by
    rw [copyTable, getD_eq_of_getElem?_eq_some hms]
  have hget (ms : List (Scalar × Document)) : (tables ++ [ms]).getD tables.length [] = ms :=
    getD_eq_of_getElem?_eq_some List.getElem?_concat_length
  have hset (ms ms' : List (Scalar × Document)) :
      (tables ++ [ms]).set tables.length ms' = tables ++ [ms'] := by simp
  have hpop : popMembers tables.length Location.fieldNames (tables ++ [ms]) =
      (flatLocation ms, tables ++ [ms.filter fun m => !isLocationKey m.1]) := by
    rw [popMembers_eq (by decide) List.getElem?_concat_length, hset]
    simp only [all_isNotText_fieldNames]
    rfl
  rw [nest]
  simp only [foldRecord, bind, StateT.bind, hcopy, get, getThe, MonadStateOf.get, StateT.get, pure,
    hget]
  split
  · rfl
  · change (tables.length, (addMember tables.length
      (.text "location", .table (popMembers tables.length Location.fieldNames (tables ++ [ms])).1)
      (popMembers tables.length Location.fieldNames (tables ++ [ms])).2).2) = _
    rw [hpop, addMember]
    dsimp only
    rw [hget, hset]

/-! ### Two shapes of one record -/

/-- The members of a flat location. -/
def placeOf (flat : List (String × Document)) : List (String × Document) :=
  flat.filter fun f => Location.fieldNames.contains f.1

/-- The members beside a flat location. -/
def othersOf (flat : List (String × Document)) : List (String × Document) :=
  flat.filter fun f => !Location.fieldNames.contains f.1

/-- A record with a flat location, and the record in which file, line and column are moved into a
nested one.  The other members keep their order. -/
structure Nests (flat nested : List (String × Document)) : Prop where
  distinct : (flat.map Prod.fst).Nodup
  nested_distinct : (nested.map Prod.fst).Nodup
  unplaced : ∀ d, ("location", d) ∉ flat
  present : ∃ f ∈ flat, f.1 ∈ Location.fieldNames
  others : nested.filter (fun f => f.1 != "location") = othersOf flat
  place : ∃ place, ("location", .ofFields place) ∈ nested ∧ place.Perm (placeOf flat)

section Shapes

variable {flat nested : List (String × Document)}

theorem mem_placeOf_iff {name : String} {d : Document} :
    (name, d) ∈ placeOf flat ↔ (name, d) ∈ flat ∧ name ∈ Location.fieldNames := by
  rw [placeOf, List.mem_filter, List.contains_iff_mem]

theorem mem_othersOf_iff {name : String} {d : Document} :
    (name, d) ∈ othersOf flat ↔ (name, d) ∈ flat ∧ name ∉ Location.fieldNames := by
  rw [othersOf, List.mem_filter, Bool.not_eq_true', ← Bool.not_eq_true, List.contains_iff_mem]

theorem Nests.filter_membersOf (h : Nests flat nested) :
    (membersOf nested).filter (fun m => isNotText "location" m.1) =
      (membersOf flat).filter fun m => !isLocationKey m.1 := by
  rw [Denylist.filter_membersOf _ _ (isNotText_text "location"), h.others, othersOf,
    Denylist.filter_membersOf (fun s => !Location.fieldNames.contains s)
      (fun key => !isLocationKey key) fun s => congrArg not (isLocationKey_text s)]

/-- Under each key but one the nested record has what the flat one has beside its location. -/
theorem Nests.memberAt?_eq (h : Nests flat nested) {name : String}
    (hlocation : name ≠ "location") :
    memberAt? name (membersOf nested) =
      memberAt? name ((membersOf flat).filter fun m => !isLocationKey m.1) := by
  rw [← h.filter_membersOf, memberAt?_filter]
  simpa [isNotText_text] using hlocation

theorem Nests.location_eq (h : Nests flat nested) :
    ∃ place, memberAt? "location" (membersOf nested) = some (.ofFields place) ∧
      Location.read (.table (flatLocation (membersOf flat))) = Location.read (.ofFields place) := by
  obtain ⟨place, hplace, hperm⟩ := h.place
  refine ⟨place, (memberAt?_membersOf_eq_some_iff h.nested_distinct).mpr hplace, ?_⟩
  have hdistinct := h.distinct.sublist
    ((List.filter_sublist (p := fun f => Location.fieldNames.contains f.1)).map Prod.fst)
  refine Location.read_congr (fun name hname => ?_) ?_
  · have hfilter := Denylist.filter_membersOf Location.fieldNames.contains isLocationKey
      isLocationKey_text flat
    rw [memberAt?_flatLocation hname, ← membersOf, memberAt?_eq_of_perm hdistinct hperm, ← hfilter,
      memberAt?_filter]
    rw [isLocationKey_text]
    exact List.contains_iff_mem.mpr hname
  · rw [unexpectedMembers_flatLocation, eq_comm, unexpectedMembers_eq_nil_iff]
    intro m hm
    obtain ⟨f, hf, rfl⟩ := List.mem_map.mp hm
    have hname := (List.mem_filter.mp (hperm.mem_iff.mp hf)).2
    exact ⟨f.1, List.contains_iff_mem.mp hname, rfl⟩

/-- Where the location is nested last, the other members are found in front of it. -/
theorem memberAt?_nested {name : String} (h : name ≠ "location") (others : List (Scalar × Document))
    (d : Document) :
    memberAt? name (others ++ [(.text "location", d)]) = memberAt? name others := by
  rw [memberAt?_append, memberAt?, if_neg h.symm, memberAt?, Option.or_none]

theorem parse_congr (o : RecordOrigin) {ms ms' : List (Scalar × Document)}
    (h : UsageEvent.read (.table (nest ms)) = UsageEvent.read (.table (nest ms'))) :
    parse o (.table ms) = parse o (.table ms') := by
  simp only [parse, h]

/-- Both shapes are read to the same end. -/
theorem parse_eq_of_nests (o : RecordOrigin) (h : Nests flat nested) :
    parse o (.ofFields flat) = parse o (.ofFields nested) := by
  obtain ⟨place, hlocation, hread⟩ := h.location_eq
  have hunplaced : memberAt? "location" (membersOf flat) = none :=
    (memberAt?_membersOf_eq_none_iff h.distinct).mpr h.unplaced
  have hpresent : ∃ name ∈ Location.fieldNames, hasMember name (membersOf flat) = true := by
    obtain ⟨f, hf, hname⟩ := h.present
    exact ⟨f.1, hname, hasMember_eq_true_iff.mpr
      ⟨f.2, (memberAt?_membersOf_eq_some_iff h.distinct).mpr hf⟩⟩
  refine parse_congr o ?_
  rw [← membersOf, ← membersOf, nest_of_flat (by rw [hasMember, hunplaced]; rfl) hpresent,
    nest_of_location (hasMember_eq_true_iff.mpr ⟨_, hlocation⟩)]
  refine UsageEvent.read_congr ?_ ?_ ?_ ?_
  · rw [memberAt?_nested (by decide), h.memberAt?_eq (by decide)]
  · rw [memberAt?_nested (by decide), h.memberAt?_eq (by decide)]
  · have hnone : memberAt? "location" ((membersOf flat).filter fun m => !isLocationKey m.1) =
        none := by
      rw [memberAt?_filter (p := fun key => !isLocationKey key) (by decide), hunplaced]
    rw [requiredField, requiredField, readField, readField, hlocation, memberAt?_append, hnone,
      Option.none_or, memberAt?, if_pos rfl]
    exact congrArg _ hread
  · have hothers (key : Scalar) (hkey : isNotText "location" key = false) :
        ∃ s ∈ ["kind", "path", "location"], key = .text s :=
      ⟨"location", by decide, eq_text_of_isNotText_eq_false hkey⟩
    rw [unexpectedMembers_concat (by decide), ← h.filter_membersOf, unexpectedMembers_filter hothers]

end Shapes

/-- Each flat record can be brought into the nested shape. -/
theorem nests_last {flat : List (String × Document)} (distinct : (flat.map Prod.fst).Nodup)
    (unplaced : ∀ d, ("location", d) ∉ flat) (present : ∃ f ∈ flat, f.1 ∈ Location.fieldNames) :
    Nests flat (othersOf flat ++ [("location", .ofFields (placeOf flat))]) where
  distinct := distinct
  nested_distinct := by
    have hothers := distinct.sublist
      ((List.filter_sublist (p := fun f => !Location.fieldNames.contains f.1)).map Prod.fst)
    rw [List.map_append, List.map_singleton, List.nodup_append]
    refine ⟨hothers, List.nodup_singleton _, fun s hs t ht heq => ?_⟩
    obtain rfl := List.mem_singleton.mp ht
    obtain ⟨⟨s, d⟩, hf, rfl⟩ := List.mem_map.mp hs
    obtain rfl : s = "location" := heq
    exact unplaced d (List.mem_of_mem_filter hf)
  unplaced := unplaced
  present := present
  others := by
    have hkept : ∀ f ∈ othersOf flat, (f.1 != "location") = true := by
      rintro ⟨s, d⟩ hf
      rw [bne_iff_ne]
      rintro rfl
      exact unplaced d (List.mem_of_mem_filter hf)
    rw [List.filter_append, List.filter_eq_self.mpr hkept]
    simp
  place := ⟨_, List.mem_append_right _ List.mem_cons_self, List.Perm.refl _⟩

/-- **Flat and nested records.**  A record with a flat location is read to the same end as the record
in the nested shape: to the same event or to the same error, with all its words.  To nest a record
loses none of its members, changes nothing the second time and leaves the record itself alone, and a
record in both shapes at once is refused. -/
theorem flat_and_nested_agree (o : RecordOrigin) :
    (∀ flat nested, Nests flat nested → parse o (.ofFields flat) = parse o (.ofFields nested)) ∧
      (∀ ms, nest (nest ms) = nest ms) ∧
      (∀ ms, (ms.map Prod.fst).Nodup → Keeps ms (nest ms)) ∧
      (∀ (tables : Tables) n ms, tables[n]? = some ms →
        foldRecord n tables = (tables.length, tables ++ [nest ms])) ∧
      ∀ ms, hasMember "location" ms = true →
        (∃ name ∈ Location.fieldNames, hasMember name ms = true) →
          ∃ detail, parse o (.table ms) =
            .error { cause := .malformedRecord o.source o.index o.line detail } :=
  ⟨fun _ _ h => parse_eq_of_nests o h, nest_nest, fun _ hn => keeps_nest hn,
    fun _ _ _ hms => foldRecord_eq hms, fun _ hlocation hflat => parse_of_both o hlocation hflat⟩

/-- A use in the flat shape, with its members in no particular order. -/
def flatUse : List (String × Document) :=
  [("line", .int 14), ("kind", .text "method"), ("note", .null), ("file", .text "b.rs"),
    ("path", .text "std::env::var")]

/-- The same use in the nested shape. -/
def nestedUse : List (String × Document) :=
  [("location", .ofFields [("file", .text "b.rs"), ("line", .int 14)]), ("kind", .text "method"),
    ("note", .null), ("path", .text "std::env::var")]

theorem flatUse_agrees_nestedUse :
    Nests flatUse nestedUse ∧
      parse ⟨memory, some 3, none⟩ (.ofFields flatUse) =
        parse ⟨memory, some 3, none⟩ (.ofFields nestedUse) ∧
      Keeps (membersOf flatUse) (nest (membersOf flatUse)) ∧
      foldRecord 0 [membersOf flatUse] = (1, [membersOf flatUse, nest (membersOf flatUse)]) ∧
      ∃ detail, parse ⟨memory, some 3, none⟩ (.ofFields (("line", .int 14) :: nestedUse)) =
        .error { cause := .malformedRecord memory (some 3) none detail } := by
  have hnests : Nests flatUse nestedUse :=
    { distinct := by decide
      nested_distinct := by decide
      unplaced := by simp [flatUse]
      present := ⟨_, List.mem_cons_self, by decide⟩
      others := rfl
      place := ⟨_, List.mem_cons_self, .swap _ _ _⟩ }
  obtain ⟨hagree, -, hkeeps, hfold, hboth⟩ := flat_and_nested_agree ⟨memory, some 3, none⟩
  refine ⟨hnests, hagree _ _ hnests, hkeeps _ ?_, hfold [_] 0 _ rfl, hboth _ rfl ⟨"line", ?_, rfl⟩⟩
  · exact nodup_keys_membersOf hnests.distinct
  · decide

end UsageRecord

end Denylist
