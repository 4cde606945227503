import Denylist.Proofs.Outcomes
import Denylist.Yaml.Lexer

/-!
# Proofs — how a YAML text breaks off

The tokens of a text end with its end, or they break off: at what is met behind its characters, at
characters that make no token, or at one of three faults, a version number with too many digits and
an escape for a code point beyond the last (`breaks_of_tokensOf`).

Each reading has one lemma, which follows its steps and cites the lemmas of the readings in it.
-/

namespace Denylist.Yaml

/-- The faults of tokens. -/
@[grind]
inductive TokenFault : Fault → Prop where
  | longVersion {n : ℕ} (h : Decimal.maxDigits < n) : TokenFault (.longInteger n)
  | codePoint : TokenFault .codePoint
  | hugeCodePoint : TokenFault .hugeCodePoint

/-- A text behind whose characters `stop?` is met breaks off there, or it is malformed, or it has a
token with a fault. -/
inductive Breaks (stop? : Option Trouble) : Trouble → Prop where
  | behind {e : Trouble} (h : stop? = some e) : Breaks stop? e
  | malformed (layer : Layer) : Breaks stop? (.malformed layer)
  | fault {f : Fault} (h : TokenFault f) : Breaks stop? (.fault f)

/-- A reading of a text behind whose characters `stop?` is met. -/
def Scans (stop? : Option Trouble) {α : Type} (m : Scan α) : Prop :=
  Keeps (fun c => c.stop = stop?) (Breaks stop?) m

variable {stop? : Option Trouble} {α β : Type}

namespace Scans

@[grind ←]
theorem pure (a : α) : Scans stop? (pure a) := Keeps.pure a

@[grind ←]
theorem bind {m : Scan α} {f : α → Scan β} (hm : Scans stop? m) (hf : ∀ a, Scans stop? (f a)) :
    Scans stop? (m >>= f) := Keeps.bind hm hf

@[grind ←]
theorem get : Scans stop? (MonadState.get : Scan Cursor) := Keeps.get

@[grind ←]
theorem noToken : Scans stop? (noToken : Scan α) := Keeps.throw (.malformed _)

@[grind ←]
theorem fault {f : Fault} (h : TokenFault f) : Scans stop? (throw (.fault f) : Scan α) :=
  Keeps.throw (.fault h)

@[grind ←]
theorem mapM {f : α → Scan β} (hf : ∀ a, Scans stop? (f a)) (l : List α) :
    Scans stop? (l.mapM f) := Keeps.mapM hf l

end Scans

/-! ### Characters -/

@[simp]
theorem stop_next (c : Cursor) : c.next.stop = c.stop := by
  unfold Cursor.next
  split
  · rfl
  · dsimp only
    split
    · rfl
    split
    · rfl
    · rfl

@[simp]
theorem stop_advance (c : Cursor) (n : ℕ) : (c.advance n).stop = c.stop := by
  induction n generalizing c with
  | zero => rfl
  | succ n ih => rw [Cursor.advance, ih, stop_next]

namespace Scan

@[grind ←]
theorem scans_peek (n : ℕ) : Scans stop? (peek n) := by
  refine Keeps.get_bind fun c hc => ?_
  split
  · exact hc
  · exact hc
  · next e _ h => exact .behind (hc.symm.trans h)

@[grind ←]
theorem scans_head : Scans stop? head := scans_peek 0

@[grind ←]
theorem scans_discard {m : Scan α} (h : Scans stop? m) : Scans stop? (discard m) :=
  h.bind fun _ => .pure _

@[grind ←]
theorem scans_ahead (n : ℕ) : Scans stop? (ahead n) := by
  unfold ahead
  grind

@[grind ←]
theorem scans_advance (n : ℕ) : Scans stop? (advance n) :=
  .bind (Keeps.modify fun c hc => (stop_advance c n).trans hc) fun _ => scans_discard scans_head

@[grind ←]
theorem scans_next : Scans stop? next :=
  .bind (Keeps.modify fun c hc => (stop_next c).trans hc) fun _ => scans_discard scans_head

@[grind ←]
theorem scans_taking (n : ℕ) : Scans stop? (taking n) := by
  unfold taking
  grind

@[grind ←]
theorem scans_span (p : Char → Bool) : Scans stop? (span p) := by
  unfold span
  grind

@[grind ←]
theorem scans_skip (p : Char → Bool) : Scans stop? (skip p) := scans_discard (scans_span p)

@[grind ←]
theorem scans_column : Scans stop? column := Scans.get.bind fun _ => .pure _

@[grind ←]
theorem scans_bound : Scans stop? bound := Scans.get.bind fun _ => .pure _

@[grind ←]
theorem scans_lineBreak : Scans stop? lineBreak := by
  unfold lineBreak
  grind

@[grind ←]
theorem scans_skipSpacesAndComment : Scans stop? skipSpacesAndComment := by
  unfold skipSpacesAndComment
  grind

@[grind ←]
theorem scans_isAtDocumentMark : Scans stop? isAtDocumentMark := by
  unfold isAtDocumentMark
  grind

end Scan

/-! ### Plain scalars -/

@[grind ←]
theorem scans_plainWord (flow : Bool) : Scans stop? (plainWord flow) := by
  unfold plainWord
  grind

@[grind ←]
theorem scans_plainBreaks (fuel : ℕ) (acc : List Char) : Scans stop? (plainBreaks fuel acc) := by
  induction fuel generalizing acc with
  | zero => exact .pure _
  | succ fuel ih =>
      unfold plainBreaks
      grind

@[grind ←]
theorem scans_plainSpaces : Scans stop? plainSpaces := by
  unfold plainSpaces
  grind

@[grind ←]
theorem scans_plainChars (flow : Bool) (indent : Int) (fuel : ℕ) (acc spaces : List Char)
    (crossed : Bool) : Scans stop? (plainChars flow indent fuel acc spaces crossed) := by
  induction fuel generalizing acc spaces crossed with
  | zero => exact .pure _
  | succ fuel ih =>
      unfold plainChars
      grind

@[grind ←]
theorem scans_plainScalar (flow : Bool) (indent : Int) : Scans stop? (plainScalar flow indent) := by
  unfold plainScalar
  grind

/-! ### Quoted scalars -/

@[grind ←]
theorem scans_quotedBreaks (fuel : ℕ) (acc : List ℕ) : Scans stop? (quotedBreaks fuel acc) := by
  induction fuel generalizing acc with
  | zero => exact .pure _
  | succ fuel ih =>
      unfold quotedBreaks
      grind

@[grind ←]
theorem scans_quotedSpaces : Scans stop? quotedSpaces := by
  unfold quotedSpaces
  grind

@[grind ←]
theorem scans_numberedEscape (count : ℕ) : Scans stop? (numberedEscape count) := by
  unfold numberedEscape
  grind

@[grind ←]
theorem scans_quotedEscape : Scans stop? quotedEscape := by
  unfold quotedEscape
  grind

@[grind ←]
theorem scans_quotedCodes (double : Bool) (fuel : ℕ) (acc : List ℕ) :
    Scans stop? (quotedCodes double fuel acc) := by
  induction fuel generalizing acc with
  | zero => exact .noToken
  | succ fuel ih =>
      unfold quotedCodes
      grind

@[grind ←]
theorem scans_quotedScalar (double : Bool) : Scans stop? (quotedScalar double) := by
  unfold quotedScalar
  grind

/-! ### Block scalars -/

@[grind ←]
theorem scans_blockIncrement? : Scans stop? blockIncrement? := by
  unfold blockIncrement?
  grind

@[grind ←]
theorem scans_blockHeader : Scans stop? blockHeader := by
  unfold blockHeader
  grind

@[grind ←]
theorem scans_skipHeaderEnd : Scans stop? skipHeaderEnd := by
  unfold skipHeaderEnd
  grind

@[grind ←]
theorem scans_blockIndentation (fuel : ℕ) (acc : List Char) (most : ℕ) :
    Scans stop? (blockIndentation fuel acc most) := by
  induction fuel generalizing acc most with
  | zero => exact .pure _
  | succ fuel ih =>
      unfold blockIndentation
      grind

@[grind ←]
theorem scans_skipIndent (indent fuel : ℕ) : Scans stop? (skipIndent indent fuel) := by
  induction fuel with
  | zero => exact .pure _
  | succ fuel ih =>
      unfold skipIndent
      grind

@[grind ←]
theorem scans_blockBreaks (indent fuel : ℕ) (acc : List Char) :
    Scans stop? (blockBreaks indent fuel acc) := by
  induction fuel generalizing acc with
  | zero => exact .pure _
  | succ fuel ih =>
      unfold blockBreaks
      grind

@[grind ←]
theorem scans_blockLines (folded : Bool) (indent fuel : ℕ) (acc last breaks : List Char) :
    Scans stop? (blockLines folded indent fuel acc last breaks) := by
  induction fuel generalizing acc last breaks with
  | zero => exact .pure _
  | succ fuel ih =>
      unfold blockLines
      have hline : Scans stop? (do
          return (← Scan.column) = indent && (← Scan.head) != endMark) := by grind
      refine hline.bind fun isLine => ?_
      split
      · refine Scan.scans_head.bind fun ch => (Scan.scans_span _).bind fun text => ?_
        refine Scan.scans_lineBreak.bind fun last => Scan.scans_bound.bind fun bound => ?_
        exact (scans_blockBreaks _ _ _).bind fun breaks => hline.bind fun isLine => by grind
      · exact .pure _

@[grind ←]
theorem scans_blockScalar (folded : Bool) (parent : Int) : Scans stop? (blockScalar folded parent) := by
  unfold blockScalar
  refine Scan.scans_next.bind fun _ => scans_blockHeader.bind fun header => ?_
  refine scans_skipHeaderEnd.bind fun _ => ?_
  cases header with
  | mk chomp increment =>
      cases increment with
      | none => grind
      | some n => grind

namespace Lexer

/-! ### Between tokens -/

@[grind ←]
theorem scans_skipLines (fuel : ℕ) (broken : Bool) : Scans stop? (skipLines fuel broken) := by
  induction fuel generalizing broken with
  | zero => exact .pure _
  | succ fuel ih =>
      unfold skipLines
      grind

@[grind ←]
theorem scans_skipBlanks : Scans stop? skipBlanks := by
  unfold skipBlanks
  grind

/-! ### Directives -/

@[grind ←]
theorem scans_versionNumber : Scans stop? versionNumber := by
  unfold versionNumber
  grind

@[grind ←]
theorem scans_versionDirective : Scans stop? versionDirective := by
  unfold versionDirective
  refine (Scan.scans_skip _).bind fun _ => scans_versionNumber.bind fun major => ?_
  grind

@[grind ←]
theorem scans_tagHandle : Scans stop? tagHandle := by
  unfold tagHandle
  refine Scan.scans_head.bind fun ch => ?_
  have hrest : Scans stop? (do
      if (← Scan.peek 1) == ' ' then
        Scan.next
        return "!"
      Scan.next
      let word ← Scan.span isWord
      if (← Scan.head) != '!' then noToken
      Scan.next
      return String.ofList ('!' :: word ++ ['!'])) := by grind
  split
  · exact Scans.noToken.bind fun _ => hrest
  · exact hrest

@[grind ←]
theorem scans_uriEscapes (fuel : ℕ) (acc : List UInt8) : Scans stop? (uriEscapes fuel acc) := by
  induction fuel generalizing acc with
  | zero => exact .pure _
  | succ fuel ih =>
      unfold uriEscapes
      grind

@[grind ←]
theorem scans_uriChars (fuel : ℕ) (acc : List Char) : Scans stop? (uriChars fuel acc) := by
  induction fuel generalizing acc with
  | zero => exact .pure _
  | succ fuel ih =>
      unfold uriChars
      grind

@[grind ←]
theorem scans_tagUri : Scans stop? tagUri := by
  unfold tagUri
  grind

@[grind ←]
theorem scans_handleDirective : Scans stop? handleDirective := by
  unfold handleDirective
  refine (Scan.scans_skip _).bind fun _ => scans_tagHandle.bind fun name => ?_
  refine Scan.scans_head.bind fun ch => ?_
  grind

@[grind ←]
theorem scans_directive : Scans stop? directive := by
  unfold directive
  grind

/-! ### Properties of nodes -/

@[grind ←]
theorem scans_anchorName : Scans stop? anchorName := by
  unfold anchorName
  grind

@[grind ←]
theorem scans_hasHandle : Scans stop? hasHandle := by
  unfold hasHandle
  grind

@[grind ←]
theorem scans_tagParts : Scans stop? tagParts := by
  unfold tagParts
  refine (Scan.scans_peek 1).bind fun ch => ?_
  dsimp only
  split
  · refine (Scan.scans_advance 2).bind fun _ => scans_tagUri.bind fun suffix => ?_
    grind
  split
  · grind
  · refine scans_hasHandle.bind fun hasHandle => ?_
    grind

@[grind ←]
theorem scans_startAhead (block : Bool) : Scans stop? (startAhead block) := by
  unfold startAhead
  refine Scan.scans_head.bind fun ch => Scan.scans_column.bind fun column => ?_
  dsimp only
  split
  · exact .pure _
  split
  · exact .pure _
  refine Scan.scans_isAtDocumentMark.bind fun isAtMark => ?_
  split
  · exact .pure _
  split
  · exact .pure _
  split
  · exact .pure _
  split
  · exact .pure _
  · grind

/-! ### One token -/

/-- A step from one state between tokens to another. -/
def Lexes (stop? : Option Trouble) (x : Except Trouble Lexer) : Prop :=
  Yields (fun s => s.cursor.stop = stop?) (Breaks stop?) x

variable {s : Lexer}

namespace Lexes

theorem ok (h : s.cursor.stop = stop?) : Lexes stop? (.ok s) := h

theorem noToken : Lexes stop? (noToken : Except Trouble Lexer) := .malformed _

theorem bind {x : Except Trouble Lexer} {f : Lexer → Except Trouble Lexer} (h : Lexes stop? x)
    (hf : ∀ s, s.cursor.stop = stop? → Lexes stop? (f s)) : Lexes stop? (x >>= f) :=
  Yields.bind h hf

/-- What is read from the place on, and then a step. -/
theorem scan_bind {m : Scan α} {f : α × Lexer → Except Trouble Lexer}
    (hs : s.cursor.stop = stop?) (hm : Scans stop? m)
    (hf : ∀ a t, t.cursor.stop = stop? → Lexes stop? (f (a, t))) : Lexes stop? (s.scan m >>= f) := by
  refine Yields.bind (Yields.map (hm s.cursor hs) fun r hr => ?_) fun r hr => hf r.1 r.2 hr
  exact hr

end Lexes

@[simp]
theorem stop_allowKey (s : Lexer) (b : Bool) : (s.allowKey b).cursor.stop = s.cursor.stop := rfl

@[simp]
theorem stop_unwindTo (column : Int) (fuel : ℕ) (s : Lexer) :
    (unwindTo column fuel s).cursor.stop = s.cursor.stop := by
  induction fuel generalizing s with
  | zero => rfl
  | succ fuel ih =>
      unfold unwindTo
      split
      · split
        exact ih _
      · rfl

@[simp]
theorem stop_unwind (s : Lexer) (column : Int) : (s.unwind column).cursor.stop = s.cursor.stop :=
  stop_unwindTo _ _ _

theorem lexes_pass (hs : s.cursor.stop = stop?) (n : ℕ) : Lexes stop? (s.pass n) := by
  refine Yields.map (Yields.map (Scan.scans_advance n s.cursor hs) fun r hr => ?_) fun r hr => hr
  exact hr

theorem lexes_dropKey (hs : s.cursor.stop = stop?) : Lexes stop? s.dropKey := by
  unfold dropKey
  split
  · split
    · exact .noToken
    · exact .ok hs
  · exact .ok hs

theorem lexes_dropStaleKeys (hs : s.cursor.stop = stop?) : Lexes stop? s.dropStaleKeys := by
  unfold dropStaleKeys
  split
  · exact .noToken
  · exact .ok hs

theorem lexes_saveKey (hs : s.cursor.stop = stop?) : Lexes stop? s.saveKey := by
  unfold saveKey
  split
  · exact (lexes_dropKey hs).bind fun s hs => .ok hs
  · exact .ok hs

theorem lexes_skipToToken (hs : s.cursor.stop = stop?) : Lexes stop? s.skipToToken :=
  .scan_bind hs scans_skipBlanks fun _ _ ht => ht

theorem lexes_pushMarginal (hs : s.cursor.stop = stop?) {m : Scan Token} (hm : Scans stop? m) :
    Lexes stop? (s.pushMarginal m) := by
  refine (lexes_dropKey (by simpa using hs)).bind fun s hs => ?_
  exact .scan_bind hs hm fun _ _ ht => ht

theorem lexes_pushEnd (hs : s.cursor.stop = stop?) : Lexes stop? s.pushEnd :=
  (lexes_dropKey (by simpa using hs)).bind fun _ hs => hs

theorem lexes_pushOpening (hs : s.cursor.stop = stop?) (t : Token) :
    Lexes stop? (s.pushOpening t) := by
  refine (lexes_saveKey hs).bind fun s hs => (lexes_pass ?_ 1).bind fun s hs => ?_
  · exact hs
  · exact hs

theorem lexes_pushClosing (hs : s.cursor.stop = stop?) (t : Token) :
    Lexes stop? (s.pushClosing t) := by
  refine (lexes_dropKey hs).bind fun s hs => (lexes_pass ?_ 1).bind fun s hs => ?_
  · exact hs
  · exact hs

/-- A key given up, one character passed, and one more token. -/
theorem lexes_dropKey_push (hs : s.cursor.stop = stop?) (t : Token) :
    Lexes stop? (do
      let s ← s.dropKey
      return (← s.pass 1).push t) := by
  refine (lexes_dropKey hs).bind fun s hs => (lexes_pass hs 1).bind fun s hs => ?_
  exact hs

theorem lexes_pushComma (hs : s.cursor.stop = stop?) : Lexes stop? s.pushComma := by
  have hallowed : (s.allowKey true).cursor.stop = stop? := hs
  exact lexes_dropKey_push hallowed _

/-- A mark in a block, which may open a collection, after which a possible key is given up. -/
theorem lexes_pushMark (hs : s.cursor.stop = stop?) (opening mark : Token)
    (allow : Lexer → Bool) : Lexes stop? (do
      if s.inBlock && !s.keyAllowed then noToken
      let s :=
        if s.inBlock && s.isDeeper s.cursor.column then (s.deepen s.cursor.column).push opening
        else s
      let s ← (s.allowKey (allow s)).dropKey
      return (← s.pass 1).push mark) := by
  dsimp only
  by_cases h : (s.inBlock && !s.keyAllowed) = true
  · rw [if_pos h]
    exact .noToken
  · rw [if_neg h]
    refine lexes_dropKey_push ?_ _
    split
    · exact hs
    · exact hs

theorem lexes_pushItem (hs : s.cursor.stop = stop?) : Lexes stop? s.pushItem :=
  lexes_pushMark hs .blockSequence .blockEntry fun _ => true

theorem lexes_pushKey (hs : s.cursor.stop = stop?) : Lexes stop? s.pushKey :=
  lexes_pushMark hs .blockMapping .key inBlock

theorem lexes_pushValue (hs : s.cursor.stop = stop?) : Lexes stop? s.pushValue := by
  unfold pushValue
  split
  · refine (lexes_pass ?_ 1).bind fun s hs => ?_
    · split
      · exact hs
      · exact hs
    · exact hs
  · exact lexes_pushMark hs .blockMapping .value inBlock

theorem lexes_pushNode (hs : s.cursor.stop = stop?) {m : Scan Token} (hm : Scans stop? m) :
    Lexes stop? (s.pushNode m) := by
  refine (lexes_saveKey hs).bind fun s hs => .scan_bind ?_ hm fun _ t ht => ?_
  · exact hs
  · exact ht

theorem lexes_pushBlockScalar (hs : s.cursor.stop = stop?) (folded : Bool) :
    Lexes stop? (s.pushBlockScalar folded) := by
  have hallowed : (s.allowKey true).cursor.stop = stop? := hs
  refine (lexes_dropKey hallowed).bind fun s hs => ?_
  refine .scan_bind hs (scans_blockScalar _ _) fun _ t ht => ?_
  exact ht

theorem lexes_pushPlain (hs : s.cursor.stop = stop?) : Lexes stop? s.pushPlain := by
  refine (lexes_saveKey hs).bind fun s hs => ?_
  refine .scan_bind hs (scans_plainScalar _ _) fun _ t ht => ?_
  exact ht

theorem lexes_fetch (hs : s.cursor.stop = stop?) : Lexes stop? s.fetch := by
  unfold fetch
  refine (lexes_skipToToken hs).bind fun s hs => (lexes_dropStaleKeys hs).bind fun s hs => ?_
  refine .scan_bind (by simpa using hs) (scans_startAhead _) fun start t ht => ?_
  have htoken {α : Type} {m : Scan α} (hm : Scans stop? m) (f : α → Token) :
      Scans stop? (do return f (← m)) := hm.bind fun _ => .pure _
  dsimp only
  split
  · exact lexes_pushEnd ht
  · exact lexes_pushMarginal ht (htoken scans_directive _)
  · exact lexes_pushMarginal ht (by grind)
  · exact lexes_pushItem ht
  · exact lexes_pushKey ht
  · exact lexes_pushValue ht
  · exact lexes_pushPlain ht
  · exact lexes_pushOpening ht _
  · exact lexes_pushOpening ht _
  · exact lexes_pushClosing ht _
  · exact lexes_pushClosing ht _
  · exact lexes_pushComma ht
  · exact lexes_pushNode ht (htoken scans_anchorName _)
  · exact lexes_pushNode ht (htoken scans_anchorName _)
  · exact lexes_pushNode ht (htoken scans_tagParts _)
  · exact lexes_pushNode ht (htoken (scans_quotedScalar _) _)
  · exact lexes_pushNode ht (htoken (scans_quotedScalar _) _)
  · split
    · exact lexes_pushBlockScalar ht _
    · exact .noToken
  · split
    · exact lexes_pushBlockScalar ht _
    · exact .noToken
  · exact .noToken

/-! ### All tokens -/

theorem breaks_of_run (fuel : ℕ) (hs : s.cursor.stop = stop?) : Breaks stop? (run fuel s).stop := by
  induction fuel generalizing s with
  | zero => exact .malformed _
  | succ fuel ih =>
      unfold run
      split
      · next h => exact (lexes_dropStaleKeys hs).of_error h
      · next s h =>
          have hs := (lexes_dropStaleKeys hs).of_ok h
          split
          · next h => exact (lexes_fetch hs).of_error h
          · next t h =>
              split
              · exact .malformed _
              · exact ih ((lexes_fetch hs).of_ok h)

end Lexer

/-- **Where tokens break off.**  Who asks for more tokens than a text has is stopped at what is met
behind its characters, at characters that make no token, or at a fault of a token. -/
theorem breaks_of_tokensOf (source : Source) : Breaks source.stop (tokensOf source).stop :=
  Lexer.breaks_of_run _ rfl

end Denylist.Yaml
