import Denylist.Proofs.YamlNodes
import Denylist.Proofs.YamlScalars
import Denylist.Yaml.Reader

/-!
# Proofs — how the values of YAML nodes fail

Values are found in the table of nodes as it is after the merging of mappings.  Merging makes texts
of some tags and puts together the pairs of mappings, and it makes no scalar (`ChangedFrom`).  So the
scalar at which the making of a value stops stands in the nodes as they were read
(`blames_of_toDocument_eq_error`).
-/

namespace Denylist.Yaml
open Sequences

namespace Node

/-- A node of the table keeps its tag or is a text now, and a scalar was this scalar before. -/
structure ChangedFrom (nodes nodes' : Array Node) : Prop where
  tag : ∀ n, (ofNumber nodes' n).tag = (ofNumber nodes n).tag ∨ (ofNumber nodes' n).tag = .str
  scalar : ∀ n text, (ofNumber nodes' n).content = .scalar text →
    (ofNumber nodes n).content = .scalar text

/-- Something stopped since a node stands for no value. -/
def IsRefusal (e : Trouble) : Prop := ∃ layer, e = .malformed layer

/-- Something stopped since a node stands for no value, or at a scalar that is not what its tag
claims. -/
def Blames (nodes : Array Node) (e : Trouble) : Prop :=
  IsRefusal e ∨ ∃ m n text, (ofNumber nodes n).content = .scalar text ∧
    scalarValue (ofNumber nodes m).tag text = .error e

variable {nodes nodes' : Array Node} {α β : Type}

theorem isRefusal_noValue : IsRefusal noValue := ⟨.values, rfl⟩

namespace ChangedFrom

theorem refl (nodes : Array Node) : ChangedFrom nodes nodes :=
  ⟨fun _ => Or.inl rfl, fun _ _ h => h⟩

theorem ofNumber_modify (nodes : Array Node) (i n : ℕ) (f : Node → Node) :
    ofNumber (nodes.modify i f) n = ofNumber nodes n ∨
      ofNumber (nodes.modify i f) n = f (ofNumber nodes n) := by
  simp only [ofNumber, Array.getD_eq_getD_getElem?, Array.getElem?_modify]
  split
  · cases nodes[n]? with
    | none => exact Or.inl rfl
    | some node => exact Or.inr rfl
  · exact Or.inl rfl

theorem setPairs (h : ChangedFrom nodes nodes') (number : ℕ) (pairs : List (ℕ × ℕ)) :
    ChangedFrom nodes
      (nodes'.modify number fun n => { n with content := .mapping pairs }) where
  tag n := by
    rcases ofNumber_modify nodes' number n _ with hn | hn
    · rw [hn]; exact h.tag n
    · rw [hn]; exact h.tag n
  scalar n text ht := by
    rcases ofNumber_modify nodes' number n _ with hn | hn
    · rw [hn] at ht; exact h.scalar n text ht
    · rw [hn] at ht; cases ht

theorem asText (h : ChangedFrom nodes nodes') (number : ℕ) :
    ChangedFrom nodes (nodes'.modify number fun n => { n with tag := .str }) where
  tag n := by
    rcases ofNumber_modify nodes' number n _ with hn | hn
    · rw [hn]; exact h.tag n
    · rw [hn]; exact Or.inr rfl
  scalar n text ht := by
    rcases ofNumber_modify nodes' number n _ with hn | hn
    · rw [hn] at ht; exact h.scalar n text ht
    · rw [hn] at ht; exact h.scalar n text ht

end ChangedFrom

/-! ### Merging -/

/-- A change of the table of nodes that only merges mappings. -/
abbrev Merges (nodes : Array Node) (m : MergeM α) : Prop :=
  Keeps (ChangedFrom nodes) IsRefusal m

theorem merges_pairsOf (number : ℕ) : Merges nodes (pairsOf number) :=
  Keeps.get.bind fun _ => Keeps.pure _

theorem merges_setPairs (number : ℕ) (pairs : List (ℕ × ℕ)) :
    Merges nodes (setPairs number pairs) := Keeps.modify fun _ h => h.setPairs number pairs

theorem merges_valueKeyAsText (number : ℕ) : Merges nodes (valueKeyAsText number) := by
  refine Keeps.get.bind fun s => ?_
  split
  · exact Keeps.modify fun _ h => h.asText number
  · exact Keeps.pure _

theorem merges_mergeFrom (fuel number position : ℕ) (merged : List (ℕ × ℕ)) :
    Merges nodes (mergeFrom fuel number position merged) := by
  induction fuel generalizing number position merged with
  | zero => exact Keeps.throw isRefusal_noValue
  | succ fuel ih =>
      unfold mergeFrom
      have hkey (p : ℕ × ℕ) : Merges nodes (valueKeyAsText p.1) := merges_valueKeyAsText p.1
      have hkeys (l : List (ℕ × ℕ)) : Merges nodes (l.forM fun p => valueKeyAsText p.1) :=
        Keeps.forM hkey l
      refine (merges_pairsOf _).bind fun pairs => Keeps.get.bind fun s => ?_
      split
      refine (hkeys _).bind fun _ => ?_
      split
      · split
        · exact Keeps.pure _
        · exact merges_setPairs _ _
      · refine (merges_setPairs _ _).bind fun _ => Keeps.get.bind fun s => ?_
        split
        on_goal 1 => refine (Keeps.mapM (fun source => ?_) _).bind fun parts => ih _ _ _
        on_goal 2 => refine Keeps.bind ?_ fun parts => ih _ _ _
        -- one source gives its pairs, once it has been merged itself
        all_goals
          refine Keeps.get.bind fun s => ?_
          split
          · exact (ih _ _ _).bind fun _ => merges_pairsOf _
          · exact Keeps.throw isRefusal_noValue

/-! ### Filling -/

/-- A step of filling that stops for a reason that is to be found in the nodes. -/
abbrev Fills (nodes : Array Node) (m : FillM α) : Prop :=
  Keeps (fun s => ChangedFrom nodes s.nodes) (Blames nodes) m

theorem blames_noValue : Blames nodes noValue := Or.inl isRefusal_noValue

theorem exists_scalar_of_scalarText?_eq_some {fuel number : ℕ} {text : String}
    (h : scalarText? nodes fuel number = some text) :
    ∃ n, (ofNumber nodes n).content = .scalar text := by
  induction fuel generalizing number with
  | zero => cases h
  | succ fuel ih =>
      unfold scalarText? at h
      split at h
      · next hc =>
          cases h
          exact ⟨number, hc⟩
      · split at h
        · exact ih h
        · cases h
      · cases h

theorem yields_scalarKey (hc : ChangedFrom nodes nodes') {tag : Tag} {number : ℕ}
    (htag : tag = (ofNumber nodes number).tag ∨ tag = .str) :
    Yields (fun _ => True) (Blames nodes) (scalarKey nodes' tag number) := by
  unfold scalarKey
  split
  · exact blames_noValue
  · next text h =>
      obtain ⟨n, hn⟩ := exists_scalar_of_scalarText?_eq_some h
      have hvalue : Yields (fun _ => True) (Blames nodes) (scalarValue tag text) := by
        cases hv : scalarValue tag text with
        | ok s => trivial
        | error e =>
            rcases htag with rfl | rfl
            · exact Or.inr ⟨number, n, text, hc.scalar n text hn, hv⟩
            · cases hv
      exact hvalue.bind fun s _ => trivial

theorem fills_lookAt (number : ℕ) : Fills nodes (lookAt number) := by
  have hahead : Fills nodes (do
      unless (← get).found.getD number true do
        modify fun s =>
          { s with found := s.found.setIfInBounds number true, ahead := number :: s.ahead }) := by
    refine Keeps.get.bind fun s => ?_
    split
    · exact Keeps.pure _
    · exact Keeps.modify fun _ h => h
  have hkey (tag : Tag) (htag : tag = (ofNumber nodes number).tag ∨ tag = .str) :
      Fills nodes (do
        if ((← get).keys.getD number none).isNone then
          let key ← scalarKey (← get).nodes tag number
          modify fun s => { s with keys := s.keys.setIfInBounds number (some key) }) := by
    refine Keeps.get.bind fun s => ?_
    split
    · refine Keeps.get_bind fun s hs => ?_
      have hlift : Fills nodes (liftM (scalarKey s.nodes tag number)) :=
        Keeps.lift (yields_scalarKey hs htag)
      refine hlift.bind (fun key => ?_) s hs
      exact Keeps.modify fun _ h => h
    · exact Keeps.pure _
  refine Keeps.get_bind fun s hs => ?_
  have htag := hs.tag number
  revert htag
  generalize (ofNumber s.nodes number).tag = tag
  intro htag
  refine (?_ : Fills nodes _) s hs
  dsimp only
  split
  · exact hahead
  · exact hahead
  · exact hahead
  · exact hahead
  · exact hahead
  · exact Keeps.throw blames_noValue
  · exact Keeps.throw blames_noValue
  · exact Keeps.throw blames_noValue
  · exact hkey tag htag

theorem fills_lookAtKey (number : ℕ) : Fills nodes (lookAtKey number) := by
  refine Keeps.get.bind fun s => ?_
  split
  · exact Keeps.throw blames_noValue
  · exact Keeps.throw blames_noValue
  · exact Keeps.throw blames_noValue
  · exact Keeps.throw blames_noValue
  · exact Keeps.throw blames_noValue
  · exact fills_lookAt number

theorem fills_changeNodes {change : MergeM Unit} (h : Merges nodes change) :
    Fills nodes (changeNodes change) := by
  intro s hs
  have hrun := h s.nodes hs
  simp only [changeNodes, StateT.run] at *
  split
  · next e he => exact Or.inl (hrun.of_error he)
  · next nodes' he => exact hrun.of_ok he

theorem fills_fill (depth number : ℕ) : Fills nodes (fill depth number) := by
  have hpair (p : ℕ × ℕ) : Fills nodes (do
      lookAtKey p.1
      lookAt p.2) := (fills_lookAtKey p.1).bind fun _ => fills_lookAt p.2
  have hmapping : Fills nodes (do
      changeNodes (mergeFrom depth number 0 [])
      let pairs := (ofNumber (← get).nodes number).pairs
      pairs.forM fun p => do
        lookAtKey p.1
        lookAt p.2) :=
    (fills_changeNodes (merges_mergeFrom _ _ _ _)).bind fun _ => Keeps.get.bind fun s =>
      Keeps.forM hpair _
  refine Keeps.get.bind fun s => ?_
  dsimp only
  split
  · exact Keeps.forM fills_lookAt _
  · exact hmapping
  · exact hmapping
  on_goal 3 => exact Keeps.throw blames_noValue
  -- an item of a list of pairs is a mapping with one pair
  all_goals
    refine Keeps.forM (fun item => Keeps.get.bind fun s => ?_) _
    split
    · exact (fills_lookAt _).bind fun _ => fills_lookAt _
    · exact Keeps.throw blames_noValue

theorem fills_fillAll (depth fuel : ℕ) : Fills nodes (fillAll depth fuel) := by
  induction fuel with
  | zero => exact Keeps.pure _
  | succ fuel ih =>
      refine Keeps.get.bind fun s => ?_
      split
      · exact Keeps.pure _
      · refine Keeps.bind (Keeps.modify fun _ h => h) fun _ => ?_
        exact (Keeps.forM (fills_fill depth) _).bind fun _ => ih

end Node

/-- Where a graph gives no document, a node stands for no value, or a scalar is not what the tag of
a node claims. -/
theorem blames_of_toDocument_eq_error {g : Graph} {e : Trouble} (h : g.toDocument = .error e) :
    Node.Blames g.nodes e := by
  unfold Graph.toDocument at h
  have hlook : Node.Fills g.nodes (do
      Node.lookAt g.root
      Node.fillAll (Node.mergeCount g.nodes + 1) (g.nodes.size + 1)) :=
    (Node.fills_lookAt _).bind fun _ => Node.fills_fillAll _ _
  rcases bind_eq_error_iff.mp h with h | ⟨⟨_, s⟩, -, h⟩
  · exact (hlook _ (Node.ChangedFrom.refl g.nodes)).of_error h
  · dsimp only at h
    split at h
    · cases h
    · cases h
      exact Node.blames_noValue

end Denylist.Yaml
