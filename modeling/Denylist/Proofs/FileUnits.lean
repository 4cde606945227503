import Denylist.Usage.Units
import Mathlib.Data.List.Induction
import Mathlib.Data.List.Nodup

/-!
# Proofs — grouping events by file

Events join the units one after the other: an event goes behind the events of its file, in a unit
that is there already or in a new one at the end.  So no two units have the same file, the files are
those of the events in the order in which they first occur (`files_ofEvents`), a unit has the events
of its file in their order (`events_of_mem_ofEvents`), and the units in a row hold the events they
were made of (`flatMap_events_ofEvents_perm`).  How many units there are depends on which events
there are and not on their order (`length_ofEvents_eq_of_perm`).

Units of different files, each with events of its own file only, are those of their events in a row
(`ofEvents_flatMap_events`), so grouping what was grouped before changes nothing.  Together this is
what a feed is split into (`ofFeed_partitions_by_file`).
-/

namespace Denylist.FileUnit

/-! ### One more event -/

/-- A new event adds its file at the end, unless the file is there already. -/
theorem files_insert {e : UsageEvent} {us : List FileUnit} :
    (insert e us).map file =
      if e.location.file ∈ us.map file then us.map file
      else us.map file ++ [e.location.file] := by
  induction us with
  | nil => rfl
  | cons u us ih =>
      rw [insert]
      by_cases h : u.file = e.location.file
      · simp [h]
      · -- the event goes past this unit, so it is looked for among the others
        have hmem : e.location.file ∈ (u :: us).map file ↔ e.location.file ∈ us.map file := by
          rw [List.map_cons, List.mem_cons, or_iff_right (Ne.symm h)]
        rw [if_neg h, List.map_cons, ih]
        simp only [hmem]
        split <;> rfl

theorem files_nodup_insert {e : UsageEvent} {us : List FileUnit} (h : (us.map file).Nodup) :
    ((insert e us).map file).Nodup := by
  rw [files_insert]
  split
  · exact h
  · next hn => exact List.nodup_append_comm.mp (List.nodup_cons.mpr ⟨hn, h⟩)

theorem mem_files_insert {e : UsageEvent} {us : List FileUnit} {f : String} :
    f ∈ (insert e us).map file ↔ f ∈ us.map file ∨ e.location.file = f := by
  rw [files_insert]
  split
  · next h =>
      refine (or_iff_left_of_imp ?_).symm
      rintro rfl
      exact h
  · rw [List.mem_append, List.mem_singleton, eq_comm (a := f)]

/-- A new event joins the events that the units hold. -/
theorem flatMap_events_insert_perm {e : UsageEvent} {us : List FileUnit} :
    ((insert e us).flatMap events).Perm (us.flatMap events ++ [e]) := by
  induction us with
  | nil => exact .refl _
  | cons u us ih =>
      rw [insert]
      split
      · rw [List.flatMap_cons, List.flatMap_cons, List.append_assoc, List.append_assoc]
        exact List.perm_append_comm.append_left _
      · rw [List.flatMap_cons, List.flatMap_cons, List.append_assoc]
        exact ih.append_left _

/-! ### All events -/

theorem ofEvents_concat {l : List UsageEvent} {e : UsageEvent} :
    ofEvents (l ++ [e]) = insert e (ofEvents l) := by
  rw [ofEvents, List.foldl_append]
  rfl

theorem files_nodup_ofEvents (l : List UsageEvent) : ((ofEvents l).map file).Nodup := by
  induction l using List.reverseRecOn with
  | nil => exact List.nodup_nil
  | append_singleton l e ih =>
      rw [ofEvents_concat]
      exact files_nodup_insert ih

/-- The files of the units are the files of the events. -/
theorem mem_files_ofEvents {l : List UsageEvent} {f : String} :
    f ∈ (ofEvents l).map file ↔ ∃ e ∈ l, e.location.file = f := by
  induction l using List.reverseRecOn with
  | nil => simp [ofEvents]
  | append_singleton l e ih =>
      rw [ofEvents_concat, mem_files_insert, ih]
      simp only [List.mem_append, List.mem_singleton, or_and_right, exists_or, exists_eq_left]

/-- The units hold the events they were made of. -/
theorem flatMap_events_ofEvents_perm (l : List UsageEvent) :
    ((ofEvents l).flatMap events).Perm l := by
  induction l using List.reverseRecOn with
  | nil => exact .refl _
  | append_singleton l e ih =>
      rw [ofEvents_concat]
      exact flatMap_events_insert_perm.trans (ih.append_right _)

/-- There are no more units than events. -/
theorem length_ofEvents_le (l : List UsageEvent) : (ofEvents l).length ≤ l.length := by
  induction l using List.reverseRecOn with
  | nil => exact Nat.le_refl _
  | append_singleton l e ih =>
      rw [ofEvents_concat, ← List.length_map (f := file), files_insert, List.length_append]
      split
      · rw [List.length_map]
        exact Nat.le_add_right_of_le ih
      · rw [List.length_append, List.length_map]
        exact Nat.add_le_add_right ih 1

/-- Arrangements of the same events make equally many units. -/
theorem length_ofEvents_eq_of_perm {l l' : List UsageEvent} (h : l.Perm l') :
    (ofEvents l).length = (ofEvents l').length := by
  have hp : ((ofEvents l).map file).Perm ((ofEvents l').map file) := by
    rw [List.perm_ext_iff_of_nodup (files_nodup_ofEvents l) (files_nodup_ofEvents l')]
    intro f
    simp only [mem_files_ofEvents, h.mem_iff]
  have hl := hp.length_eq
  rwa [List.length_map, List.length_map] at hl

/-! ### Files and events of the units -/

variable {l : List UsageEvent} {us vs : List FileUnit} {u : FileUnit} {e : UsageEvent}

/-- The files of the units are those of the events, in the order in which they first occur. -/
theorem files_ofEvents (l : List UsageEvent) :
    (ofEvents l).map file = (l.map fun e => e.location.file).eraseDups := by
  induction l using List.reverseRecOn with
  | nil => rfl
  | append_singleton l e ih =>
      rw [ofEvents_concat, files_insert, ih, List.map_append, List.map_singleton,
        List.eraseDups_append]
      simp only [List.mem_eraseDups]
      generalize (l.map fun e => e.location.file) = fs
      split
      · next h => simp [List.removeAll, h]
      · next h => simp [List.removeAll, h, List.eraseDups_cons]

/-- If units have the events of their files among `l`, so they do when an event is added to `l` and
to the units. -/
theorem events_of_mem_insert (hfiles : (us.map file).Nodup)
    (hevents : ∀ v ∈ us, v.events = l.filter fun e => e.location.file = v.file)
    (hnew : e.location.file ∉ us.map file → ∀ e' ∈ l, e'.location.file ≠ e.location.file)
    (hu : u ∈ insert e us) : u.events = (l ++ [e]).filter fun e => e.location.file = u.file := by
  induction us with
  | nil =>
      rw [insert, List.mem_singleton] at hu
      subst hu
      have hnone : (l.filter fun e' => e'.location.file = e.location.file) = [] := by
        rw [List.filter_eq_nil_iff]
        simpa using hnew List.not_mem_nil
      simp [List.filter_append, hnone]
  | cons v us ih =>
      rw [List.map_cons, List.nodup_cons] at hfiles
      rw [insert] at hu
      have hv := hevents v List.mem_cons_self
      split at hu
      · next hfile =>
          rcases List.mem_cons.mp hu with rfl | hu
          · simp [List.filter_append, hv, hfile]
          · -- no other unit has the file
            have hother : e.location.file ≠ u.file := by
              intro h
              rw [hfile, h] at hfiles
              exact hfiles.1 (List.mem_map.mpr ⟨u, hu, rfl⟩)
            rw [hevents u (List.mem_cons_of_mem v hu)]
            simp [List.filter_append, hother]
      · next hfile =>
          rcases List.mem_cons.mp hu with rfl | hu
          · rw [hv]
            simp [List.filter_append, Ne.symm hfile]
          · refine ih hfiles.2 (fun w hw => hevents w (List.mem_cons_of_mem v hw)) (fun h => ?_) hu
            refine hnew fun hmem => ?_
            rcases List.mem_cons.mp hmem with heq | hmem
            · exact hfile heq.symm
            · exact h hmem

/-- A unit has the events of its file, in their order. -/
theorem events_of_mem_ofEvents (hu : u ∈ ofEvents l) :
    u.events = l.filter fun e => e.location.file = u.file := by
  induction l using List.reverseRecOn generalizing u with
  | nil => cases hu
  | append_singleton l e ih =>
      rw [ofEvents_concat] at hu
      refine events_of_mem_insert (files_nodup_ofEvents l) (fun v hv => ih hv) (fun h => ?_) hu
      exact fun e' he' heq => h (mem_files_ofEvents.mpr ⟨e', he', heq⟩)

theorem events_ne_nil_of_mem_ofEvents (hu : u ∈ ofEvents l) : u.events ≠ [] := by
  obtain ⟨e, he, hfile⟩ := mem_files_ofEvents.mp (List.mem_map_of_mem hu)
  rw [events_of_mem_ofEvents hu]
  exact List.ne_nil_of_mem (List.mem_filter.mpr ⟨he, decide_eq_true hfile⟩)

/-! ### Grouping what is grouped -/

/-- Units of different files, each of which has events, and those of its own file only. -/
structure Separate (us : List FileUnit) : Prop where
  /-- No two units have the same file. -/
  files : (us.map file).Nodup
  /-- Every unit has events. -/
  nonempty : ∀ u ∈ us, u.events ≠ []
  /-- The events of a unit are in its file. -/
  own : ∀ u ∈ us, ∀ e ∈ u.events, e.location.file = u.file

theorem separate_ofEvents (l : List UsageEvent) : Separate (ofEvents l) where
  files := files_nodup_ofEvents l
  nonempty := fun _ hu => events_ne_nil_of_mem_ofEvents hu
  own := fun u hu e he => by
    rw [events_of_mem_ofEvents hu, List.mem_filter] at he
    exact of_decide_eq_true he.2

/-- An event goes past the units of other files. -/
theorem insert_append (h : e.location.file ∉ us.map file) :
    insert e (us ++ vs) = us ++ insert e vs := by
  induction us with
  | nil => rfl
  | cons u us ih =>
      rw [List.map_cons, List.mem_cons, not_or] at h
      rw [List.cons_append, insert, if_neg (Ne.symm h.1), ih h.2, List.cons_append]

/-- Events of one file join its unit behind those of other files. -/
theorem foldl_insert_own {f : String} {es es' : List UsageEvent} (hf : f ∉ us.map file)
    (h : ∀ e ∈ es', e.location.file = f) :
    es'.foldl (fun us e => insert e us) (us ++ [⟨f, es⟩]) = us ++ [⟨f, es ++ es'⟩] := by
  induction es' generalizing es with
  | nil => rw [List.append_nil, List.foldl_nil]
  | cons e es' ih =>
      rw [List.forall_mem_cons] at h
      obtain ⟨rfl, h⟩ := h
      rw [List.foldl_cons, insert_append hf, insert, if_pos rfl, ih h, List.append_assoc,
        List.singleton_append]

/-- Separate units are the units of their events in a row. -/
theorem ofEvents_flatMap_events (h : Separate us) : ofEvents (us.flatMap events) = us := by
  induction us using List.reverseRecOn with
  | nil => rfl
  | append_singleton us u ih =>
      obtain ⟨hfiles, hnonempty, hown⟩ := h
      rw [List.map_append, List.map_singleton, List.nodup_append] at hfiles
      rw [List.forall_mem_append, List.forall_mem_singleton] at hnonempty hown
      have hus := ih ⟨hfiles.1, hnonempty.1, hown.1⟩
      have hnew : u.file ∉ us.map file := fun hmem =>
        hfiles.2.2 u.file hmem u.file (List.mem_singleton_self _) rfl
      rcases u with ⟨f, _ | ⟨e, es⟩⟩
      · exact absurd rfl hnonempty.2
      · obtain ⟨rfl, hes⟩ := List.forall_mem_cons.mp hown.2
        -- the first event makes the unit, and the others join it
        have hfirst : insert e us = us ++ [⟨e.location.file, [e]⟩] := by
          have happend := @insert_append us [] e hnew
          rwa [List.append_nil] at happend
        rw [ofEvents] at hus ⊢
        rw [List.flatMap_append, List.flatMap_singleton, List.foldl_append, hus, List.foldl_cons,
          hfirst, foldl_insert_own hnew hes, List.singleton_append]

/-! ### Feeds -/

/-- **Splitting by file.**  The units of a feed that ends are the files of its events in the order
in which they first occur.  No unit is empty, and each has the events of its file in the order of
the feed.  So the units in a row hold the events of the feed, each once, and split into the same
units again.  A feed that breaks off gives its failure and no units. -/
theorem ofFeed_partitions_by_file (l : List UsageEvent) :
    ∃ us, ofFeed (.ofList l) = .ok us ∧
      us.map file = (l.map fun e => e.location.file).eraseDups ∧
      (∀ u ∈ us, u.events ≠ [] ∧ u.events = l.filter fun e => e.location.file = u.file) ∧
      (us.flatMap events).Perm l ∧
      ofFeed (.ofList (us.flatMap events)) = .ok us ∧
      ∀ failure, ofFeed ⟨l, some failure⟩ = .error failure := by
  refine ⟨ofEvents l, rfl, files_ofEvents l, fun u hu => ⟨?_, ?_⟩, ?_, ?_, fun failure => rfl⟩
  · exact events_ne_nil_of_mem_ofEvents hu
  · exact events_of_mem_ofEvents hu
  · exact flatMap_events_ofEvents_perm l
  · exact congrArg Except.ok (ofEvents_flatMap_events (separate_ofEvents l))

/-- A use of a method in some line of a file. -/
def lockUse (file : String) (line : ℕ) (hfile : file ≠ "") (hline : 0 < line) : UsageEvent :=
  ⟨.known .method, "std::sync::Mutex::lock", ⟨file, line, 1, hfile, hline, Nat.one_pos⟩, by decide⟩

/-- Uses in two files that alternate are split into two units, the file that is met first in front,
and the uses of that file stay in their order. -/
theorem splits_alternating_uses :
    ∃ us, ofFeed (.ofList
        [lockUse "b.rs" 9 (by decide) (by decide), lockUse "a.rs" 7 (by decide) (by decide),
          lockUse "b.rs" 3 (by decide) (by decide)]) = .ok us ∧
      us.map file = ["b.rs", "a.rs"] ∧
      ∃ u ∈ us, u.file = "b.rs" ∧
        u.events = [lockUse "b.rs" 9 (by decide) (by decide),
          lockUse "b.rs" 3 (by decide) (by decide)] := by
  obtain ⟨us, hus, hfiles, hunits, -⟩ := ofFeed_partitions_by_file
    [lockUse "b.rs" 9 (by decide) (by decide), lockUse "a.rs" 7 (by decide) (by decide),
      lockUse "b.rs" 3 (by decide) (by decide)]
  have htwo : us.map file = ["b.rs", "a.rs"] := hfiles.trans (by decide)
  have hmem : "b.rs" ∈ us.map file := by
    rw [htwo]
    exact List.mem_cons_self
  obtain ⟨u, hu, hfile⟩ := List.mem_map.mp hmem
  refine ⟨us, hus, htwo, u, hu, hfile, ?_⟩
  rw [(hunits u hu).2, hfile]
  rfl

end Denylist.FileUnit
