import Denylist.Proofs.Outcomes
import Denylist.Yaml.Node

/-!
# Proofs — how the reading of YAML nodes stops

Nodes are read from tokens, behind which stands the reason for which there are no more.  No step of
the reading changes that reason, so where the reading stops, it is for this reason, or since the
tokens make no node (`stops_of_ofTokens?_eq_error`).
-/

namespace Denylist.Yaml
namespace Node

/-- Reading stops at what is met behind the tokens, or the tokens make no node. -/
def Stops (stop e : Trouble) : Prop := e = stop ∨ ∃ layer, e = .malformed layer

/-- Reading from tokens behind which `stop` is met. -/
def Obeys (stop : Trouble) {α : Type} (m : ReadM α) : Prop :=
  Keeps (fun r => r.stop = stop) (Stops stop) m

variable {stop : Trouble} {α β : Type}

namespace Obeys

@[grind ←]
theorem pure (a : α) : Obeys stop (pure a) := Keeps.pure a

@[grind ←]
theorem bind {m : ReadM α} {f : α → ReadM β} (hm : Obeys stop m) (hf : ∀ a, Obeys stop (f a)) :
    Obeys stop (m >>= f) := Keeps.bind hm hf

@[grind ←]
theorem get : Obeys stop (MonadState.get : ReadM Reader) := Keeps.get

@[grind ←]
theorem refuse (layer : Layer) : Obeys stop (throw (.malformed layer) : ReadM α) :=
  Keeps.throw (Or.inr ⟨layer, rfl⟩)

theorem modify {f : Reader → Reader} (h : ∀ r, (f r).stop = r.stop) :
    Obeys stop (modify f : ReadM PUnit) :=
  Keeps.modify fun r hr => (h r).trans hr

end Obeys

@[grind ←]
theorem obeys_disordered : Obeys stop (disordered : ReadM α) := .refuse _

@[grind ←]
theorem obeys_peek : Obeys stop peek := by
  refine Keeps.get_bind fun r hr => ?_
  split
  · exact hr
  · exact Or.inl hr

@[grind ←]
theorem obeys_take : Obeys stop take := .modify fun _ => rfl

@[grind ←]
theorem obeys_add (anchor : Option String) (node : Node) : Obeys stop (add anchor node) := by
  unfold add
  have hpush (number : ℕ) : Obeys stop do
      modify fun r => { r with nodes := r.nodes.push node }
      return number := .bind (.modify fun _ => rfl) fun _ => .pure _
  refine Obeys.get.bind fun r => ?_
  split
  · refine Obeys.get.bind fun r' => ?_
    split
    · exact .bind (.refuse _) fun _ => .bind (.modify fun _ => rfl) fun _ => hpush _
    · exact .bind (.modify fun _ => rfl) fun _ => hpush _
  · exact hpush _

@[grind ←]
theorem obeys_complete (number : ℕ) (content : Content) : Obeys stop (complete number content) :=
  .modify fun _ => rfl

@[grind ←]
theorem obeys_resolveAlias (name : String) : Obeys stop (resolveAlias name) := by
  unfold resolveAlias
  grind

@[grind ←]
theorem obeys_tagName (handle : Option String) (suffix : String) :
    Obeys stop (tagName handle suffix) := by
  unfold tagName
  grind

@[grind ←]
theorem obeys_tagAhead : Obeys stop tagAhead := by
  unfold tagAhead
  grind

@[grind ←]
theorem obeys_anchorAhead : Obeys stop anchorAhead := by
  unfold anchorAhead
  grind

@[grind ←]
theorem obeys_properties : Obeys stop properties := by
  unfold properties
  grind

@[grind ←]
theorem obeys_addScalar (p : Properties) (plain : Bool) (text : String) :
    Obeys stop (addScalar p plain text) := by
  unfold addScalar
  grind

@[grind ←]
theorem obeys_addSequence (p : Properties) {items : ReadM (List ℕ)} (h : Obeys stop items) :
    Obeys stop (addSequence p items) := by
  unfold addSequence
  grind

@[grind ←]
theorem obeys_addMapping (p : Properties) {pairs : ReadM (List (ℕ × ℕ))} (h : Obeys stop pairs) :
    Obeys stop (addMapping p pairs) := by
  unfold addMapping
  grind

@[grind ←]
theorem obeys_isAhead (l : List Token) : Obeys stop (isAhead l) := by
  unfold isAhead
  grind

/-- Nodes and what collections consist of are read by one recursion. -/
theorem obeys_nodes (fuel : ℕ) :
    (∀ place, Obeys stop (read place fuel)) ∧
      (∀ ends place, Obeys stop (readUnless ends place fuel)) ∧
      Obeys stop (blockItems fuel) ∧ Obeys stop (indentlessItems fuel) ∧
      Obeys stop (blockValue fuel) ∧ Obeys stop (blockMembers fuel) ∧
      (∀ close, Obeys stop (flowValue close fuel)) ∧
      (∀ first, Obeys stop (flowItems first fuel)) ∧
      ∀ first, Obeys stop (flowMembers first fuel) := by
  induction fuel with
  | zero =>
      unfold read readUnless blockItems indentlessItems blockValue blockMembers flowValue flowItems
        flowMembers
      grind
  | succ fuel ih =>
      obtain ⟨hread, hunless, hblock, hindentless, hvalue, hmembers, hflow, hitems, hflowMembers⟩ := ih
      refine ⟨fun place => ?_, fun ends place => ?_, ?_, ?_, ?_, ?_, fun close => ?_,
        fun first => ?_, fun first => ?_⟩
      · unfold read
        grind
      · unfold readUnless
        grind
      · unfold blockItems
        grind
      · unfold indentlessItems
        grind
      · unfold blockValue
        grind
      · unfold blockMembers
        grind
      · unfold flowValue
        grind
      · unfold flowItems
        refine (obeys_isAhead _).bind fun isClosed => ?_
        split
        · grind
        split
        on_goal 2 =>
          refine obeys_peek.bind fun t => ?_
          split
          on_goal 1 => refine obeys_take.bind fun _ => ?_
          on_goal 2 => refine obeys_disordered.bind fun _ => ?_
        -- the item is read in the same way whether or not a comma stands before it
        all_goals
          refine obeys_peek.bind fun t => ?_
          split
          all_goals grind
      · unfold flowMembers
        refine (obeys_isAhead _).bind fun isClosed => ?_
        split
        · grind
        split
        on_goal 2 =>
          refine obeys_peek.bind fun t => ?_
          split
          on_goal 1 => refine obeys_take.bind fun _ => ?_
          on_goal 2 => refine obeys_disordered.bind fun _ => ?_
        all_goals
          refine obeys_peek.bind fun t => ?_
          split
          all_goals grind

/-! ### Documents -/

theorem obeys_directives (fuel : ℕ) (versioned : Bool) (handles : List (String × String)) :
    Obeys stop (directives fuel versioned handles) := by
  induction fuel generalizing versioned handles with
  | zero => exact obeys_disordered
  | succ fuel ih =>
      unfold directives
      refine obeys_peek.bind fun t => ?_
      split
      · refine obeys_take.bind fun _ => ?_
        split
        · split
          · exact obeys_disordered.bind fun _ => ih _ _
          · exact ih _ _
        · split
          · exact obeys_disordered.bind fun _ => ih _ _
          · exact ih _ _
        · exact ih _ _
      · exact .pure _

theorem obeys_skipEnds (fuel : ℕ) : Obeys stop (skipEnds fuel) := by
  induction fuel with
  | zero => exact .pure _
  | succ fuel ih =>
      unfold skipEnds
      grind

theorem obeys_openDocument (fuel : ℕ) : Obeys stop (openDocument fuel) := by
  refine (obeys_directives _ _ _).bind fun handles => obeys_peek.bind fun t => ?_
  split
  · exact obeys_take.bind fun _ => .modify fun _ => rfl
  · exact obeys_disordered

theorem obeys_explicitRoot (fuel : ℕ) : Obeys stop (explicitRoot fuel) := by
  refine obeys_peek.bind fun t => ?_
  split
  · exact obeys_add _ _
  · exact obeys_add _ _
  · exact obeys_add _ _
  · exact obeys_add _ _
  · exact (obeys_nodes fuel).1 _

theorem obeys_endStream (fuel : ℕ) : Obeys stop (endStream fuel) := by
  refine (obeys_skipEnds _).bind fun _ => obeys_peek.bind fun t => ?_
  split
  · exact .pure _
  · exact (obeys_openDocument _).bind fun _ => .refuse _

theorem obeys_readStream (fuel : ℕ) : Obeys stop (readStream fuel) := by
  refine obeys_peek.bind fun t => ?_
  split
  on_goal 4 =>
    exact .bind (.modify fun _ => rfl) fun _ => ((obeys_nodes fuel).1 _).bind fun root =>
      (obeys_endStream _).bind fun _ => .pure _
  -- a document that does not begin with a node may have directives and a mark before it
  all_goals
    refine (obeys_skipEnds _).bind fun _ => obeys_peek.bind fun t => ?_
    split
    · exact .pure _
    · exact (obeys_openDocument _).bind fun _ => (obeys_explicitRoot _).bind fun root =>
        (obeys_endStream _).bind fun _ => .pure _

end Node

/-- Making nodes of tokens stops at what is met behind the tokens, or the tokens make none. -/
theorem stops_of_ofTokens?_eq_error {t : Lexer.Tokens} {e : Trouble}
    (h : Graph.ofTokens? t = .error e) : Node.Stops t.stop e := by
  unfold Graph.ofTokens? at h
  exact (Node.obeys_readStream _ _ rfl).of_error (Sequences.map_eq_error_iff.mp h)

end Denylist.Yaml
