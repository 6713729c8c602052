import FreeVPN.Lib.Transducer
import FreeVPN.Foundation.Text

/-!
# Tokens of HTML

The tokenizer of the HTML standard, as a machine that reads one character after the other.

* `Html.step` — one character, in any state of the tokenizer, and `Html.stateAfter` a text;
* `Html.tags` — the tags of a document, with their attributes;
* `Html.ReadsAsCharacters` — a part of a document that is read as characters and as nothing else.

Character references, line breaks and zeros are left as they are written, in character data as in
attributes, and an attribute that is given twice is there twice.  What the standard leaves to the
construction of the tree is decided by the name of a start tag: how the text of its element is read.

`readsAsCharacters_iff` says which texts in front of a quotation mark are read as characters.
-/

namespace FreeVPN.Foundation.Html

open FreeVPN.Lib

/-! ### Tokens and states -/

/-- A start tag or an end tag. -/
structure Tag where
  name : Text
  isEnd : Bool := false
  attributes : List (Text × Text) := []
  selfClosing : Bool := false
  deriving DecidableEq

/-- The tag with one more attribute. -/
def Tag.push (t : Tag) (name value : Text) : Tag := { t with attributes := t.attributes ++ [(name, value)] }

/-- What the tokenizer puts out. -/
inductive Token
  | char (c : Char)
  | tag (t : Tag)
  | comment (text : Text)
  | doctype (text : Text)
  deriving DecidableEq

/-- Whether a token is character data. -/
def Token.IsChar : Token → Prop
  | .char _ => True
  | _ => False

/-- Where in a script the tokenizer is: behind `<!--`, and there behind `<script`, with as many dashes
behind it, up to two. -/
inductive Escape
  | none
  | escaped (dashes : ℕ)
  | doubleEscaped (dashes : ℕ)
  deriving DecidableEq

/-- The states of the tokenizer. -/
inductive State
  | data
  | plaintext
  | tagOpen
  | endTagOpen
  | tagName (t : Tag)
  | beforeAttributeName (t : Tag)
  | attributeName (t : Tag) (name : Text)
  | afterAttributeName (t : Tag) (name : Text)
  | beforeAttributeValue (t : Tag) (name : Text)
  | attributeValue (quote : Char) (t : Tag) (name value : Text)
  | unquotedValue (t : Tag) (name value : Text)
  | afterAttributeValue (t : Tag)
  | selfClosingStartTag (t : Tag)
  | bogusComment (text : Text)
  | markupDeclarationOpen (seen : Text)
  | commentStart
  | commentStartDash
  | comment (text : Text)
  | commentEndDash (text : Text)
  | commentEnd (text : Text)
  | commentEndBang (text : Text)
  | doctype (text : Text)
  /-- The text of an element that only its end tag ends. -/
  | rawText (element : Text) (e : Escape)
  | rawLessThan (element : Text) (e : Escape)
  | rawEndTagOpen (element : Text) (e : Escape)
  | rawEndTagName (element : Text) (e : Escape) (seen : Text)
  | scriptEscapeStart (dashes : ℕ)
  /-- `<script` or `</script` behind `<!--`. -/
  | scriptDoubleEscape (start : Bool) (seen : Text)
  deriving DecidableEq

/-! ### Steps -/

/-- White space between the parts of a tag. -/
def isSpace (c : Char) : Bool := c ∈ ['\t', '\n', '\x0c', '\r', ' ']

/-- The elements whose text has no tags in it. -/
def rawTextElements : List Text :=
  ["title".toList, "textarea".toList, "style".toList, "xmp".toList, "iframe".toList, "noembed".toList,
    "noframes".toList, "noscript".toList, "script".toList]

/-- The tag is put out; a start tag says how the text behind it is read. -/
def emitTag (t : Tag) : State × List Token :=
  (if t.isEnd then .data
    else if t.name ∈ rawTextElements then .rawText t.name .none
    else if t.name = "plaintext".toList then .plaintext
    else .data, [.tag t])

def dataStep (c : Char) : State × List Token := if c = '<' then (.tagOpen, []) else (.data, [.char c])

def tagOpenStep (c : Char) : State × List Token :=
  if c = '!' then (.markupDeclarationOpen [], [])
  else if c = '/' then (.endTagOpen, [])
  else if c.isAlpha then (.tagName { name := [c.toLower] }, [])
  else if c = '?' then (.bogusComment [c], [])
  else ((dataStep c).1, .char '<' :: (dataStep c).2)

def endTagOpenStep (c : Char) : State × List Token :=
  if c.isAlpha then (.tagName { name := [c.toLower], isEnd := true }, [])
  else if c = '>' then (.data, [])
  else (.bogusComment [c], [])

def tagNameStep (t : Tag) (c : Char) : State × List Token :=
  if isSpace c then (.beforeAttributeName t, [])
  else if c = '/' then (.selfClosingStartTag t, [])
  else if c = '>' then emitTag t
  else (.tagName { t with name := t.name ++ [c.toLower] }, [])

def beforeAttributeNameStep (t : Tag) (c : Char) : State × List Token :=
  if isSpace c then (.beforeAttributeName t, [])
  else if c = '/' then (.selfClosingStartTag t, [])
  else if c = '>' then emitTag t
  else (.attributeName t [c.toLower], [])

def afterAttributeNameStep (t : Tag) (name : Text) (c : Char) : State × List Token :=
  if isSpace c then (.afterAttributeName t name, [])
  else if c = '/' then (.selfClosingStartTag (t.push name []), [])
  else if c = '=' then (.beforeAttributeValue t name, [])
  else if c = '>' then emitTag (t.push name [])
  else (.attributeName (t.push name []) [c.toLower], [])

def attributeNameStep (t : Tag) (name : Text) (c : Char) : State × List Token :=
  if isSpace c || c = '/' || c = '=' || c = '>' then afterAttributeNameStep t name c
  else (.attributeName t (name ++ [c.toLower]), [])

def beforeAttributeValueStep (t : Tag) (name : Text) (c : Char) : State × List Token :=
  if isSpace c then (.beforeAttributeValue t name, [])
  else if c = '"' || c = '\'' then (.attributeValue c t name [], [])
  else if c = '>' then emitTag (t.push name [])
  else (.unquotedValue t name [c], [])

def attributeValueStep (quote : Char) (t : Tag) (name value : Text) (c : Char) : State × List Token :=
  if c = quote then (.afterAttributeValue (t.push name value), [])
  else (.attributeValue quote t name (value ++ [c]), [])

def unquotedValueStep (t : Tag) (name value : Text) (c : Char) : State × List Token :=
  if isSpace c then (.beforeAttributeName (t.push name value), [])
  else if c = '>' then emitTag (t.push name value)
  else (.unquotedValue t name (value ++ [c]), [])

def selfClosingStartTagStep (t : Tag) (c : Char) : State × List Token :=
  if c = '>' then emitTag { t with selfClosing := true } else beforeAttributeNameStep t c

def bogusCommentStep (text : Text) (c : Char) : State × List Token :=
  if c = '>' then (.data, [.comment text]) else (.bogusComment (text ++ [c]), [])

/-- Behind `<!`: `--` begins a comment and `DOCTYPE` a document type, and all else is a comment, too. -/
def markupDeclarationOpenStep (seen : Text) (c : Char) : State × List Token :=
  let word := (seen ++ [c]).map Char.toLower
  if word = ['-', '-'] then (.commentStart, [])
  else if word = "doctype".toList then (.doctype [], [])
  else if word <+: ['-', '-'] ∨ word <+: "doctype".toList then (.markupDeclarationOpen (seen ++ [c]), [])
  else bogusCommentStep seen c

def commentStep (text : Text) (c : Char) : State × List Token :=
  if c = '-' then (.commentEndDash text, []) else (.comment (text ++ [c]), [])

/-- Behind `<!--`, and behind one more dash: a comment can end at once. -/
def commentStartStep (next : State) (text : Text) (c : Char) : State × List Token :=
  if c = '-' then (next, [])
  else if c = '>' then (.data, [.comment []])
  else commentStep text c

def commentEndDashStep (text : Text) (c : Char) : State × List Token :=
  if c = '-' then (.commentEnd text, []) else commentStep (text ++ ['-']) c

def commentEndStep (text : Text) (c : Char) : State × List Token :=
  if c = '>' then (.data, [.comment text])
  else if c = '!' then (.commentEndBang text, [])
  else if c = '-' then (.commentEnd (text ++ ['-']), [])
  else commentStep (text ++ ['-', '-']) c

def commentEndBangStep (text : Text) (c : Char) : State × List Token :=
  if c = '-' then (.commentEndDash (text ++ "--!".toList), [])
  else if c = '>' then (.data, [.comment text])
  else commentStep (text ++ "--!".toList) c

def doctypeStep (text : Text) (c : Char) : State × List Token :=
  if c = '>' then (.data, [.doctype text]) else (.doctype (text ++ [c]), [])

def rawTextStep (element : Text) (e : Escape) (c : Char) : State × List Token :=
  match e with
  | .none => if c = '<' then (.rawLessThan element .none, []) else (.rawText element .none, [.char c])
  | .escaped dashes =>
    if c = '<' then (.rawLessThan element e, [])
    else if c = '-' then (.rawText element (.escaped (min 2 (dashes + 1))), [.char c])
    else if c = '>' ∧ dashes = 2 then (.rawText element .none, [.char c])
    else (.rawText element (.escaped 0), [.char c])
  | .doubleEscaped dashes =>
    if c = '<' then (.rawLessThan element e, [.char c])
    else if c = '-' then (.rawText element (.doubleEscaped (min 2 (dashes + 1))), [.char c])
    else if c = '>' ∧ dashes = 2 then (.rawText element .none, [.char c])
    else (.rawText element (.doubleEscaped 0), [.char c])

/-- The dashes are forgotten. -/
def Escape.restart : Escape → Escape
  | .none => .none
  | .escaped _ => .escaped 0
  | .doubleEscaped _ => .doubleEscaped 0

def rawLessThanStep (element : Text) (e : Escape) (c : Char) : State × List Token :=
  let again := rawTextStep element e.restart c
  match e with
  | .none =>
    if c = '/' then (.rawEndTagOpen element e, [])
    else if c = '!' ∧ element = "script".toList then (.scriptEscapeStart 0, [.char '<', .char '!'])
    else (again.1, .char '<' :: again.2)
  | .escaped _ =>
    if c = '/' then (.rawEndTagOpen element e.restart, [])
    else if c.isAlpha then (.scriptDoubleEscape true [c.toLower], [.char '<', .char c])
    else (again.1, .char '<' :: again.2)
  | .doubleEscaped _ => if c = '/' then (.scriptDoubleEscape false [], [.char c]) else again

def rawEndTagOpenStep (element : Text) (e : Escape) (c : Char) : State × List Token :=
  let again := rawTextStep element e c
  if c.isAlpha then (.rawEndTagName element e [c], []) else (again.1, .char '<' :: .char '/' :: again.2)

def rawEndTagNameStep (element : Text) (e : Escape) (seen : Text) (c : Char) : State × List Token :=
  let t : Tag := { name := element, isEnd := true }
  let again := rawTextStep element e c
  if seen.map Char.toLower = element ∧ isSpace c then (.beforeAttributeName t, [])
  else if seen.map Char.toLower = element ∧ c = '/' then (.selfClosingStartTag t, [])
  else if seen.map Char.toLower = element ∧ c = '>' then emitTag t
  else if c.isAlpha then (.rawEndTagName element e (seen ++ [c]), [])
  else (again.1, .char '<' :: .char '/' :: seen.map .char ++ again.2)

def scriptEscapeStartStep (dashes : ℕ) (c : Char) : State × List Token :=
  if c = '-' then
    (if dashes = 0 then .scriptEscapeStart 1 else .rawText "script".toList (.escaped 2), [.char c])
  else rawTextStep "script".toList .none c

def scriptDoubleEscapeStep (start : Bool) (seen : Text) (c : Char) : State × List Token :=
  if isSpace c || c = '/' || c = '>' then
    (.rawText "script".toList (if decide (seen = "script".toList) = start then .doubleEscaped 0 else .escaped 0),
      [.char c])
  else if c.isAlpha then (.scriptDoubleEscape start (seen ++ [c.toLower]), [.char c])
  else rawTextStep "script".toList (if start then .escaped 0 else .doubleEscaped 0) c

/-- **One character.** -/
def step : State → Char → State × List Token
  | .data, c => dataStep c
  | .plaintext, c => (.plaintext, [.char c])
  | .tagOpen, c => tagOpenStep c
  | .endTagOpen, c => endTagOpenStep c
  | .tagName t, c => tagNameStep t c
  | .beforeAttributeName t, c => beforeAttributeNameStep t c
  | .attributeName t name, c => attributeNameStep t name c
  | .afterAttributeName t name, c => afterAttributeNameStep t name c
  | .beforeAttributeValue t name, c => beforeAttributeValueStep t name c
  | .attributeValue quote t name value, c => attributeValueStep quote t name value c
  | .unquotedValue t name value, c => unquotedValueStep t name value c
  | .afterAttributeValue t, c => beforeAttributeNameStep t c
  | .selfClosingStartTag t, c => selfClosingStartTagStep t c
  | .bogusComment text, c => bogusCommentStep text c
  | .markupDeclarationOpen seen, c => markupDeclarationOpenStep seen c
  | .commentStart, c => commentStartStep .commentStartDash [] c
  | .commentStartDash, c => commentStartStep (.commentEnd []) ['-'] c
  | .comment text, c => commentStep text c
  | .commentEndDash text, c => commentEndDashStep text c
  | .commentEnd text, c => commentEndStep text c
  | .commentEndBang text, c => commentEndBangStep text c
  | .doctype text, c => doctypeStep text c
  | .rawText element e, c => rawTextStep element e c
  | .rawLessThan element e, c => rawLessThanStep element e c
  | .rawEndTagOpen element e, c => rawEndTagOpenStep element e c
  | .rawEndTagName element e seen, c => rawEndTagNameStep element e seen c
  | .scriptEscapeStart dashes, c => scriptEscapeStartStep dashes c
  | .scriptDoubleEscape start seen, c => scriptDoubleEscapeStep start seen c

/-- The end of the document: a tag that is not complete is dropped. -/
def finish : State → List Token
  | .tagOpen | .rawLessThan _ .none | .rawLessThan _ (.escaped _) => [.char '<']
  | .endTagOpen | .rawEndTagOpen _ _ => [.char '<', .char '/']
  | .rawEndTagName _ _ seen => .char '<' :: .char '/' :: seen.map .char
  | .bogusComment text | .markupDeclarationOpen text | .comment text | .commentEndDash text
  | .commentEnd text | .commentEndBang text => [.comment text]
  | .commentStart | .commentStartDash => [.comment []]
  | .doctype text => [.doctype text]
  | _ => []

/-- The state behind a text. -/
def stateAfter (s : State) (text : Text) : State := (feed step s text).1

@[simp] lemma stateAfter_nil (s : State) : stateAfter s [] = s := rfl

lemma stateAfter_append (s : State) (u v : Text) : stateAfter s (u ++ v) = stateAfter (stateAfter s u) v := by
  rw [stateAfter, feed_append]
  rfl

/-- A text that is written as a string, by its characters. -/
lemma stateAfter_ofList {s t : State} (l : List Char) (h : stateAfter s l = t) :
    stateAfter s (String.ofList l).toList = t := by
  rw [String.toList_ofList]
  exact h

/-- The tokens of a text that is read from a state on, to the end of the document. -/
def tokensFrom (s : State) (text : Text) : List Token := (feed step s text).2 ++ finish (feed step s text).1

def Token.tag? : Token → Option Tag
  | .tag t => some t
  | _ => none

/-- The sequence of the tags of a document. -/
def tags (document : Text) : List Tag := (tokensFrom .data document).filterMap Token.tag?

/-- The tags that are complete in a text. -/
def tagsWithin (text : Text) : List Tag := (feed step .data text).2.filterMap Token.tag?

/-! ### Character data -/

/-- The text is read as characters, from a state on and back to character data. -/
def ReadsAsCharacters (s : State) (text : Text) : Prop :=
  (feed step s text).1 = .data ∧ ∀ t ∈ (feed step s text).2, t.IsChar

lemma readsAsCharacters_nil {s : State} : ReadsAsCharacters s [] ↔ s = .data := by
  simp [ReadsAsCharacters, feed]

lemma readsAsCharacters_cons {s : State} {c : Char} {text : Text} :
    ReadsAsCharacters s (c :: text) ↔
      (∀ t ∈ (step s c).2, t.IsChar) ∧ ReadsAsCharacters (step s c).1 text := by
  simp only [ReadsAsCharacters, feed, List.mem_append, or_imp, forall_and]
  exact and_left_comm

/-- Character data has no tags. -/
lemma tags_eq_nil {ts : List Token} (h : ∀ t ∈ ts, t.IsChar) : ts.filterMap Token.tag? = [] := by
  refine List.filterMap_eq_nil_iff.2 fun t ht => ?_
  cases t with
  | char c => rfl
  | tag t => exact (h _ ht).elim
  | comment text => rfl
  | doctype text => rfl

/-- The tags of a document whose beginning leads back to character data. -/
theorem tags_append {u : Text} (h : stateAfter .data u = .data) (v : Text) :
    tags (u ++ v) = tagsWithin u ++ tags v := by
  rw [stateAfter] at h
  rw [tags, tokensFrom, feed_append, h, List.append_assoc, List.filterMap_append]
  rfl

/-- **What is read as characters adds no tags**, and takes none away. -/
theorem tags_append_of_readsAsCharacters {text : Text} (h : ReadsAsCharacters .data text) (after : Text) :
    tags (text ++ after) = tags after := by
  rw [tags_append h.1, tagsWithin, tags_eq_nil h.2, List.nil_append]

/-- A text without a `<` is read as characters, between tags and in an element that has none. -/
lemma stateAfter_of_notMem {s : State} (hs : s = .data ∨ ∃ element, s = .rawText element .none) {text : Text}
    (h : '<' ∉ text) : stateAfter s text = s := by
  have hstep : ∀ c, c ≠ '<' → (step s c).1 = s := by
    intro c hc
    rcases hs with rfl | ⟨element, rfl⟩
    · exact congrArg Prod.fst (if_neg hc)
    · exact congrArg Prod.fst (if_neg hc)
  induction text with
  | nil => rfl
  | cons c text ih =>
    rw [List.mem_cons, not_or] at h
    change stateAfter (step s c).1 text = s
    rw [hstep c (Ne.symm h.1)]
    exact ih h.2

/-- Within a tag, a comment or a document type, which ends with a token that is none of characters. -/
def State.InMarkup : State → Prop
  | .data | .plaintext | .tagOpen | .endTagOpen | .rawText _ _ | .rawLessThan _ _ | .rawEndTagOpen _ _
  | .rawEndTagName _ _ _ | .scriptEscapeStart _ | .scriptDoubleEscape _ _ => False
  | _ => True

/-- A step is within the markup, or puts out what the markup is. -/
def Marks (r : State × List Token) : Prop := r.1.InMarkup ∧ r.2 = [] ∨ ∃ t ∈ r.2, ¬t.IsChar

section Marks

variable (t : Tag) (name value text : Text) (c : Char)

lemma marks_of_inMarkup {s : State} (h : s.InMarkup) : Marks (s, []) := Or.inl ⟨h, rfl⟩

lemma marks_of_not_isChar {s : State} {t : Token} (h : ¬t.IsChar) : Marks (s, [t]) :=
  Or.inr ⟨t, List.mem_singleton_self t, h⟩

lemma marks_emitTag : Marks (emitTag t) := marks_of_not_isChar id

lemma marks_tagNameStep : Marks (tagNameStep t c) := by
  unfold tagNameStep
  split_ifs
  · exact marks_of_inMarkup trivial
  · exact marks_of_inMarkup trivial
  · exact marks_emitTag t
  · exact marks_of_inMarkup trivial

lemma marks_beforeAttributeNameStep : Marks (beforeAttributeNameStep t c) := by
  unfold beforeAttributeNameStep
  split_ifs
  · exact marks_of_inMarkup trivial
  · exact marks_of_inMarkup trivial
  · exact marks_emitTag t
  · exact marks_of_inMarkup trivial

lemma marks_afterAttributeNameStep : Marks (afterAttributeNameStep t name c) := by
  unfold afterAttributeNameStep
  split_ifs
  · exact marks_of_inMarkup trivial
  · exact marks_of_inMarkup trivial
  · exact marks_of_inMarkup trivial
  · exact marks_emitTag _
  · exact marks_of_inMarkup trivial

lemma marks_attributeNameStep : Marks (attributeNameStep t name c) := by
  unfold attributeNameStep
  split_ifs
  · exact marks_afterAttributeNameStep t name c
  · exact marks_of_inMarkup trivial

lemma marks_beforeAttributeValueStep : Marks (beforeAttributeValueStep t name c) := by
  unfold beforeAttributeValueStep
  split_ifs
  · exact marks_of_inMarkup trivial
  · exact marks_of_inMarkup trivial
  · exact marks_emitTag _
  · exact marks_of_inMarkup trivial

lemma marks_attributeValueStep (quote : Char) : Marks (attributeValueStep quote t name value c) := by
  unfold attributeValueStep
  split_ifs
  · exact marks_of_inMarkup trivial
  · exact marks_of_inMarkup trivial

lemma marks_unquotedValueStep : Marks (unquotedValueStep t name value c) := by
  unfold unquotedValueStep
  split_ifs
  · exact marks_of_inMarkup trivial
  · exact marks_emitTag _
  · exact marks_of_inMarkup trivial

lemma marks_selfClosingStartTagStep : Marks (selfClosingStartTagStep t c) := by
  unfold selfClosingStartTagStep
  split_ifs
  · exact marks_emitTag _
  · exact marks_beforeAttributeNameStep t c

lemma marks_bogusCommentStep : Marks (bogusCommentStep text c) := by
  unfold bogusCommentStep
  split_ifs
  · exact marks_of_not_isChar id
  · exact marks_of_inMarkup trivial

lemma marks_markupDeclarationOpenStep (seen : Text) : Marks (markupDeclarationOpenStep seen c) := by
  unfold markupDeclarationOpenStep
  dsimp only
  split_ifs
  · exact marks_of_inMarkup trivial
  · exact marks_of_inMarkup trivial
  · exact marks_of_inMarkup trivial
  · exact marks_bogusCommentStep seen c

lemma marks_commentStep : Marks (commentStep text c) := by
  unfold commentStep
  split_ifs
  · exact marks_of_inMarkup trivial
  · exact marks_of_inMarkup trivial

lemma marks_commentStartStep {next : State} (hnext : next.InMarkup) : Marks (commentStartStep next text c) := by
  unfold commentStartStep
  split_ifs
  · exact marks_of_inMarkup hnext
  · exact marks_of_not_isChar id
  · exact marks_commentStep text c

lemma marks_commentEndDashStep : Marks (commentEndDashStep text c) := by
  unfold commentEndDashStep
  split_ifs
  · exact marks_of_inMarkup trivial
  · exact marks_commentStep _ c

lemma marks_commentEndStep : Marks (commentEndStep text c) := by
  unfold commentEndStep
  split_ifs
  · exact marks_of_not_isChar id
  · exact marks_of_inMarkup trivial
  · exact marks_of_inMarkup trivial
  · exact marks_commentStep _ c

lemma marks_commentEndBangStep : Marks (commentEndBangStep text c) := by
  unfold commentEndBangStep
  split_ifs
  · exact marks_of_inMarkup trivial
  · exact marks_of_not_isChar id
  · exact marks_commentStep _ c

lemma marks_doctypeStep : Marks (doctypeStep text c) := by
  unfold doctypeStep
  split_ifs
  · exact marks_of_not_isChar id
  · exact marks_of_inMarkup trivial

end Marks

/-- **Markup ends with a token that is none of characters.** -/
lemma marks_step (s : State) (c : Char) (hs : s.InMarkup) : Marks (step s c) := by
  cases s with
  | data | plaintext | tagOpen | endTagOpen | rawText | rawLessThan | rawEndTagOpen | rawEndTagName
  | scriptEscapeStart | scriptDoubleEscape => exact hs.elim
  | tagName t => exact marks_tagNameStep t c
  | beforeAttributeName t => exact marks_beforeAttributeNameStep t c
  | attributeName t name => exact marks_attributeNameStep t name c
  | afterAttributeName t name => exact marks_afterAttributeNameStep t name c
  | beforeAttributeValue t name => exact marks_beforeAttributeValueStep t name c
  | attributeValue quote t name value => exact marks_attributeValueStep t name value c quote
  | unquotedValue t name value => exact marks_unquotedValueStep t name value c
  | afterAttributeValue t => exact marks_beforeAttributeNameStep t c
  | selfClosingStartTag t => exact marks_selfClosingStartTagStep t c
  | bogusComment text => exact marks_bogusCommentStep text c
  | markupDeclarationOpen seen => exact marks_markupDeclarationOpenStep c seen
  | commentStart => exact marks_commentStartStep [] c trivial
  | commentStartDash => exact marks_commentStartStep ['-'] c trivial
  | comment text => exact marks_commentStep text c
  | commentEndDash text => exact marks_commentEndDashStep text c
  | commentEnd text => exact marks_commentEndStep text c
  | commentEndBang text => exact marks_commentEndBangStep text c
  | doctype text => exact marks_doctypeStep text c

/-- What goes on within markup is not read as characters. -/
lemma not_readsAsCharacters {s : State} (hs : s.InMarkup) (text : Text) : ¬ReadsAsCharacters s text := by
  rintro ⟨hdata, hchars⟩
  rcases feed_of_stays marks_step hs text with ⟨hmarkup, -⟩ | ⟨t, ht, hno⟩
  · rw [hdata] at hmarkup
    exact hmarkup
  · exact hno (hchars t ht)

/-! ### What begins markup -/

/-- The text makes markup of a `<` in front of it: it begins with a letter, `!`, `?`, or with a `/` that is
not the one of `</>`. -/
def OpensMarkup : Text → Prop
  | [] => False
  | '/' :: s => s.head? ≠ some '>'
  | c :: _ => c.isAlpha ∨ c = '!' ∨ c = '?'

/-- Nothing in the text begins markup. -/
def Inert (text : Text) : Prop := ∀ s, '<' :: s <:+ text → ¬OpensMarkup s

lemma inert_cons {c : Char} {text : Text} :
    Inert (c :: text) ↔ (c = '<' → ¬OpensMarkup text) ∧ Inert text := by
  simp only [Inert, List.suffix_cons_iff, List.cons.injEq, or_imp, forall_and]
  refine and_congr_left' ⟨fun h hc => h text ⟨hc.symm, rfl⟩, ?_⟩
  rintro h s ⟨hc, rfl⟩
  exact h hc.symm

lemma inert_nil : Inert [] := fun s h => by simp at h

/-- A step that puts nothing out. -/
lemma readsAsCharacters_cons_of_nil {s s' : State} {c : Char} (h : step s c = (s', [])) {text : Text} :
    ReadsAsCharacters s (c :: text) ↔ ReadsAsCharacters s' text := by
  rw [readsAsCharacters_cons, h]
  exact and_iff_right (List.forall_mem_nil _)

/-- A character between tags. -/
lemma readsAsCharacters_data_cons {c : Char} (hc : c ≠ '<') {text : Text} :
    ReadsAsCharacters .data (c :: text) ↔ ReadsAsCharacters .data text := by
  have hstep : step .data c = (.data, [.char c]) := if_neg hc
  rw [readsAsCharacters_cons, hstep]
  exact and_iff_right (List.forall_mem_singleton.2 trivial)

/-- A letter, `!` or `?` behind a `<` begins markup. -/
lemma inMarkup_tagOpenStep {c : Char} (hc : c.isAlpha ∨ c = '!' ∨ c = '?') : (tagOpenStep c).1.InMarkup := by
  unfold tagOpenStep
  split_ifs with hbang hslash halpha hquestion
  · trivial
  · rw [hslash] at hc
    exact absurd hc (by decide)
  · trivial
  · trivial
  · exact absurd hc (not_or.2 ⟨halpha, not_or.2 ⟨hbang, hquestion⟩⟩)

/-- Any other character is one behind a `<` that is a character itself. -/
lemma tagOpenStep_eq {c : Char} (hc : ¬(c.isAlpha ∨ c = '!' ∨ c = '?')) (hslash : c ≠ '/') :
    tagOpenStep c = ((dataStep c).1, .char '<' :: (dataStep c).2) := by
  obtain ⟨halpha, hc⟩ := not_or.1 hc
  obtain ⟨hbang, hquestion⟩ := not_or.1 hc
  rw [tagOpenStep, if_neg hbang, if_neg hslash, if_neg halpha, if_neg hquestion]

lemma inMarkup_endTagOpenStep {c : Char} (hc : c ≠ '>') : (endTagOpenStep c).1.InMarkup := by
  unfold endTagOpenStep
  split_ifs
  · trivial
  · trivial

/-- Behind `</`, in front of a quotation mark. -/
lemma readsAsCharacters_endTagOpen (text : Text) :
    ReadsAsCharacters .endTagOpen (text ++ ['"']) ↔
      text.head? = some '>' ∧ ReadsAsCharacters .data ('/' :: text ++ ['"']) := by
  cases text with
  | nil =>
    refine iff_of_false (fun h => ?_) fun h => by cases h.1
    have hmarkup : (endTagOpenStep '"').1.InMarkup := inMarkup_endTagOpenStep (by decide)
    exact not_readsAsCharacters hmarkup [] (readsAsCharacters_cons.1 h).2
  | cons c text =>
    rw [List.cons_append, List.cons_append, readsAsCharacters_data_cons (by decide), List.head?_cons,
      Option.some.injEq]
    by_cases hc : c = '>'
    · have hstep : step .endTagOpen '>' = (.data, []) := rfl
      rw [hc, readsAsCharacters_cons_of_nil hstep, List.cons_append, readsAsCharacters_data_cons (by decide),
        and_iff_right rfl]
    · refine iff_of_false (fun h => ?_) fun h => hc h.1
      exact not_readsAsCharacters (inMarkup_endTagOpenStep hc) _ (readsAsCharacters_cons.1 h).2

/-- Behind a `<`, in front of a quotation mark. -/
lemma readsAsCharacters_tagOpen (text : Text) :
    ReadsAsCharacters .tagOpen (text ++ ['"']) ↔
      ¬OpensMarkup text ∧ ReadsAsCharacters .data (text ++ ['"']) := by
  cases text with
  | nil =>
    have hstep : step .tagOpen '"' = (.data, [.char '<', .char '"']) := rfl
    have hquote : ReadsAsCharacters .data ['"'] :=
      (readsAsCharacters_data_cons (by decide)).2 (readsAsCharacters_nil.2 rfl)
    refine iff_of_true ?_ ⟨id, hquote⟩
    rw [List.nil_append, readsAsCharacters_cons, hstep]
    exact ⟨by simp [Token.IsChar], readsAsCharacters_nil.2 rfl⟩
  | cons c text =>
    by_cases hslash : c = '/'
    · have hstep : step .tagOpen '/' = (.endTagOpen, []) := rfl
      rw [hslash, List.cons_append, readsAsCharacters_cons_of_nil hstep, readsAsCharacters_endTagOpen, OpensMarkup,
        not_not, List.cons_append]
    · have hopens : OpensMarkup (c :: text) ↔ c.isAlpha ∨ c = '!' ∨ c = '?' := by
        rw [OpensMarkup]
        exact hslash
      rw [hopens, List.cons_append, readsAsCharacters_cons, readsAsCharacters_cons]
      by_cases hc : c.isAlpha ∨ c = '!' ∨ c = '?'
      · refine iff_of_false (fun h => ?_) fun h => h.1 hc
        exact not_readsAsCharacters (inMarkup_tagOpenStep hc) _ h.2
      · have hstep : step .tagOpen c = ((step .data c).1, .char '<' :: (step .data c).2) := tagOpenStep_eq hc hslash
        rw [and_iff_right hc, hstep, List.forall_mem_cons]
        exact and_congr_left' (and_iff_right trivial)

/-- **What is read as characters in front of a quotation mark**: any text in which nothing begins markup. -/
theorem readsAsCharacters_iff {text : Text} : ReadsAsCharacters .data (text ++ ['"']) ↔ Inert text := by
  induction text with
  | nil =>
    refine iff_of_true ?_ inert_nil
    rw [List.nil_append, readsAsCharacters_data_cons (by decide), readsAsCharacters_nil]
  | cons c text ih =>
    rw [List.cons_append, inert_cons, ← ih]
    by_cases hc : c = '<'
    · have hstep : step .data '<' = (.tagOpen, []) := rfl
      rw [hc, readsAsCharacters_cons_of_nil hstep, readsAsCharacters_tagOpen, imp_iff_right rfl]
    · rw [readsAsCharacters_data_cons hc, and_iff_right fun h => absurd h hc]

end FreeVPN.Foundation.Html
