import FreeVPN.OpenVPN.Readings

/-!
# How terms are written

The lexer of OpenVPN3 puts terms together scalar by scalar.  Here is what a line must look like for it to
have a first term, and to have others behind that one: a term is spelled with plain scalars, with backslashes
and in quotes, and ends at a blank, at a comment or with the line.

* `Blanks`, `Spells` — what is between terms, and what spells one;
* `Argument`, `NoMore` — whether there is a further term;
* `OneTerm`, `SeveralTerms` — the lines with one term, and with more;
* `bySpace_eq_singleton_iff`, `exists_bySpace_eq_cons_iff` — these are the lines that the lexer finds them in.
-/

namespace FreeVPN.OpenVPN

open FreeVPN.Lib FreeVPN.Foundation

/-! ### Spellings -/

/-- A scalar that means nothing to the lexer. -/
def isPlain (c : Char) : Bool := !isSpace c && c ≠ '\\' && c ≠ '"' && !isComment c

/-- What ends a term: a space, also behind a backslash. -/
inductive Blank : Text → Prop
  | space {c : Char} (hc : isSpace c = true) : Blank [c]
  | escaped {c : Char} (hc : isSpace c = true) : Blank ['\\', c]

/-- What is between two terms. -/
inductive Blanks : Text → Prop
  | nil : Blanks []
  | cons {b t : Text} (hb : Blank b) (ht : Blanks t) : Blanks (b ++ t)

/-- What stands in quotes for a text. -/
inductive Quoted : Text → Text → Prop
  | nil : Quoted [] []
  | scalar {c : Char} {q v : Text} (hc : c ≠ '"' ∧ c ≠ '\\') (hq : Quoted q v) : Quoted (c :: q) (c :: v)
  | escaped {c : Char} {q v : Text} (hq : Quoted q v) : Quoted ('\\' :: c :: q) (c :: v)

/-- What stands for a text in a line. -/
inductive Spells : Text → Text → Prop
  | nil : Spells [] []
  | plain {c : Char} {r w : Text} (hc : isPlain c = true) (hr : Spells r w) : Spells (c :: r) (c :: w)
  | escaped {c : Char} {r w : Text} (hc : isSpace c = false) (hr : Spells r w) :
    Spells ('\\' :: c :: r) (c :: w)
  | quoted {q v r w : Text} (hq : Quoted q v) (hr : Spells r w) : Spells ('"' :: (q ++ '"' :: r)) (v ++ w)

/-- The rest of a line in quotes that are not closed; a backslash at its end stands for nothing. -/
def Unclosed (t v : Text) : Prop := Quoted t v ∨ ∃ q, t = q ++ ['\\'] ∧ Quoted q v

/-- The line has no further scalar for the lexer. -/
def Stops (t : Text) : Prop := t = [] ∨ t = ['\\'] ∨ ∃ c r, t = c :: r ∧ isComment c = true

/-- A term begins here. -/
def StartsTerm (t : Text) : Prop :=
  (∃ c r, t = c :: r ∧ isPlain c = true) ∨ (∃ r, t = '"' :: r) ∨ ∃ c r, t = '\\' :: c :: r ∧ isSpace c = false

/-- There is a further term. -/
def Argument (t : Text) : Prop := ∃ gap r, t = gap ++ r ∧ Blanks gap ∧ StartsTerm r

/-- There is no further term. -/
def NoMore (t : Text) : Prop := ∃ gap r, t = gap ++ r ∧ Blanks gap ∧ Stops r

/-- The last term of a line, and what is behind it. -/
inductive LastTerm : Text → Text → Text → Prop
  | closed {raw rest w : Text} (hraw : Spells raw w) (hrest : NoMore rest) : LastTerm raw rest w
  | unclosed {raw q w v : Text} (hraw : Spells raw w) (hq : Unclosed q v) :
    LastTerm (raw ++ '"' :: q) [] (w ++ v)

/-- The line has the term `w`, and no other. -/
def OneTerm (t w : Text) : Prop :=
  ∃ gap raw rest, t = gap ++ (raw ++ rest) ∧ Blanks gap ∧ raw ≠ [] ∧ LastTerm raw rest w

/-- The first term of the line is `w`, and there are others. -/
def SeveralTerms (t w : Text) : Prop :=
  ∃ gap raw sep rest, t = gap ++ (raw ++ (sep ++ rest)) ∧ Blanks gap ∧ raw ≠ [] ∧ Spells raw w ∧ Blank sep ∧
    Argument rest

/-! ### What the lexer does with them -/

/-- The lexer is in no quote and no comment, and behind no backslash. -/
structure LexComment.IsFresh (lex : LexComment) : Prop where
  inQuote : lex.inQuote = false
  inComment : lex.inComment = false
  backslash : lex.backslash = false

/-- Some terms are finished, and another one has begun or not. -/
structure Terms.At (s : Terms) (term : Text) (isDefined : Bool) (ret : List Text) : Prop where
  lex : s.lex.IsFresh
  term : s.term = term
  isDefined : s.isDefined = isDefined
  ret : s.ret = ret

/-- The same, in quotes. -/
structure Terms.InQuote (s : Terms) (term : Text) (ret : List Text) : Prop where
  inQuote : s.lex.inQuote = true
  inComment : s.lex.inComment = false
  backslash : s.lex.backslash = false
  term : s.term = term
  isDefined : s.isDefined = true
  ret : s.ret = ret

lemma isPlain_iff {c : Char} :
    isPlain c = true ↔ isSpace c = false ∧ c ≠ '\\' ∧ c ≠ '"' ∧ isComment c = false := by
  simp [isPlain, and_assoc]

lemma special_of_isSpace {c : Char} (hc : isSpace c = true) : c ≠ '\\' ∧ c ≠ '"' ∧ isComment c = false := by
  refine ⟨?_, ?_, Bool.eq_false_iff.2 fun hcomment => ?_⟩
  · rintro rfl
    cases hc
  · rintro rfl
    cases hc
  · simp only [isComment, Bool.or_eq_true, decide_eq_true_eq] at hcomment
    rcases hcomment with rfl | rfl <;> cases hc

namespace Terms

variable {s : Terms} {term : Text} {isDefined : Bool} {ret : List Text}

lemma At.finish (h : s.At term isDefined ret) : s.finish = if isDefined then ret ++ [term] else ret := by
  rw [Terms.finish, h.isDefined, h.ret, h.term]

lemma InQuote.finish (h : s.InQuote term ret) : s.finish = ret ++ [term] := by
  rw [Terms.finish, h.isDefined, h.ret, h.term, if_pos rfl]

/-- What a state is after a scalar, part by part. -/
lemma at_of_eq {t : Terms} (hlex : t.lex.inQuote = false ∧ t.lex.inComment = false ∧ t.lex.backslash = false)
    (h : t.term = term ∧ t.isDefined = isDefined ∧ t.ret = ret) : t.At term isDefined ret :=
  ⟨⟨hlex.1, hlex.2.1, hlex.2.2⟩, h.1, h.2.1, h.2.2⟩

/-- A blank ends a term, if one has begun. -/
lemma At.blank (h : s.At term isDefined ret) (hterm : isDefined = false → term = []) {b : Text} (hb : Blank b) :
    (b.foldl put s).At [] false (if isDefined then ret ++ [term] else ret) := by
  obtain ⟨⟨h₁, h₂, h₃⟩, rfl, rfl, rfl⟩ := h
  cases hb with
  | @space c hc =>
    obtain ⟨hb, hq, hcomment⟩ := special_of_isSpace hc
    cases hd : s.isDefined with
    | true => apply at_of_eq <;> simp [put, LexComment.put, *]
    | false => apply at_of_eq <;> simp [put, LexComment.put, hterm hd, *]
  | @escaped c hc =>
    cases hd : s.isDefined with
    | true => apply at_of_eq <;> simp [put, LexComment.put, *]
    | false => apply at_of_eq <;> simp [put, LexComment.put, hterm hd, *]

lemma At.blanks (h : s.At [] false ret) {gap : Text} (hgap : Blanks gap) : (gap.foldl put s).At [] false ret := by
  induction hgap generalizing s with
  | nil => exact h
  | cons hb _ ih =>
    rw [List.foldl_append]
    exact ih (h.blank (fun _ => rfl) hb)

lemma At.plain (h : s.At term isDefined ret) {c : Char} (hc : isPlain c = true) :
    (s.put c).At (term ++ [c]) true ret := by
  obtain ⟨⟨h₁, h₂, h₃⟩, rfl, rfl, rfl⟩ := h
  obtain ⟨hspace, hb, hq, hcomment⟩ := isPlain_iff.1 hc
  apply at_of_eq <;> simp [put, LexComment.put, *]

lemma At.escaped (h : s.At term isDefined ret) {c : Char} (hc : isSpace c = false) :
    ((s.put '\\').put c).At (term ++ [c]) true ret := by
  obtain ⟨⟨h₁, h₂, h₃⟩, rfl, rfl, rfl⟩ := h
  apply at_of_eq <;> simp [put, LexComment.put, *]

lemma At.quote (h : s.At term isDefined ret) : (s.put '"').InQuote term ret := by
  obtain ⟨⟨h₁, h₂, h₃⟩, rfl, rfl, rfl⟩ := h
  constructor <;> simp [put, LexComment.put, *]

/-- What stands in quotes is put to the term as it is meant. -/
lemma InQuote.quoted (h : s.InQuote term ret) {q v : Text} (hq : Quoted q v) :
    (q.foldl put s).InQuote (term ++ v) ret := by
  induction hq generalizing s term with
  | nil => rwa [List.append_nil]
  | @scalar c q v hc _ ih =>
    have hput : (s.put c).InQuote (term ++ [c]) ret := by
      obtain ⟨h₁, h₂, h₃, rfl, h₅, rfl⟩ := h
      constructor <;> simp [put, LexComment.put, *]
    simpa using ih hput
  | @escaped c q v _ ih =>
    have hput : ((s.put '\\').put c).InQuote (term ++ [c]) ret := by
      obtain ⟨h₁, h₂, h₃, rfl, h₅, rfl⟩ := h
      constructor <;> simp [put, LexComment.put, *]
    simpa using ih hput

lemma InQuote.close (h : s.InQuote term ret) : (s.put '"').At term true ret := by
  obtain ⟨h₁, h₂, h₃, rfl, h₅, rfl⟩ := h
  apply at_of_eq <;> simp [put, LexComment.put, *]

/-- A term goes on as it is spelled. -/
lemma At.spells {raw w : Text} (hraw : Spells raw w) : ∀ {s : Terms} {term : Text} {isDefined : Bool},
    s.At term isDefined ret → (raw.foldl put s).At (term ++ w) (isDefined || !raw.isEmpty) ret := by
  induction hraw with
  | nil =>
    intro s term isDefined h
    simpa using h
  | plain hc _ ih =>
    intro s term isDefined h
    simpa using ih (h.plain hc)
  | escaped hc _ ih =>
    intro s term isDefined h
    simpa using ih (h.escaped hc)
  | quoted hq _ ih =>
    intro s term isDefined h
    simpa using ih (h.quote.quoted hq).close

/-- Behind the mark of a comment nothing changes. -/
lemma foldl_of_inComment (h : s.lex.inComment = true) (hquote : s.lex.inQuote = false) (t : Text) :
    (t.foldl put s).finish = s.finish := by
  induction t generalizing s with
  | nil => rfl
  | cons c t ih =>
    have hput : (s.put c).term = s.term ∧ (s.put c).isDefined = s.isDefined ∧ (s.put c).ret = s.ret ∧
        (s.put c).lex.inComment = true ∧ (s.put c).lex.inQuote = false := by
      simp [put, LexComment.put, h, hquote]
    rw [List.foldl_cons, ih hput.2.2.2.1 hput.2.2.2.2, Terms.finish, Terms.finish, hput.1, hput.2.1, hput.2.2.1]

/-- At the end of a line. -/
lemma At.stops (h : s.At term isDefined ret) {t : Text} (ht : Stops t) :
    (t.foldl put s).finish = if isDefined then ret ++ [term] else ret := by
  rcases ht with rfl | rfl | ⟨c, r, rfl, hc⟩
  · exact h.finish
  · obtain ⟨⟨h₁, h₂, h₃⟩, rfl, rfl, rfl⟩ := h
    simp [Terms.put, LexComment.put, Terms.finish, *]
  · obtain ⟨⟨h₁, h₂, h₃⟩, rfl, rfl, rfl⟩ := h
    have hplain : c ≠ '\\' ∧ c ≠ '"' := by
      constructor <;> rintro rfl <;> cases hc
    have hput : (s.put c).term = s.term ∧ (s.put c).isDefined = s.isDefined ∧ (s.put c).ret = s.ret ∧
        (s.put c).lex.inComment = true ∧ (s.put c).lex.inQuote = false := by
      simp [put, LexComment.put, *]
    rw [List.foldl_cons, foldl_of_inComment hput.2.2.2.1 hput.2.2.2.2, Terms.finish, hput.1, hput.2.1, hput.2.2.1]

/-- Without a further term, only the one that has begun is added. -/
lemma At.noMore (h : s.At term isDefined ret) (hterm : isDefined = false → term = []) {t : Text} (ht : NoMore t) :
    (t.foldl put s).finish = if isDefined then ret ++ [term] else ret := by
  obtain ⟨gap, r, rfl, hgap, hr⟩ := ht
  cases hgap with
  | nil => exact h.stops hr
  | cons hb hgap =>
    rw [List.foldl_append, List.foldl_append, ((h.blank hterm hb).blanks hgap).stops hr]
    rfl

/-- The first term is finished, and a second one has begun. -/
def HasMore (s : Terms) (w : Text) : Prop := s.ret = [w] ∧ s.isDefined = true ∨ ∃ a as, s.ret = w :: a :: as

lemma HasMore.put {w : Text} (h : s.HasMore w) (c : Char) : (s.put c).HasMore w := by
  unfold Terms.put
  dsimp only
  rcases h with ⟨hret, hdef⟩ | ⟨a, as, hret⟩
  · split
    · exact Or.inl ⟨hret, by simp [hdef]⟩
    · split_ifs
      · exact Or.inl ⟨hret, rfl⟩
      · exact Or.inr ⟨s.term, [], by rw [hret]; rfl⟩
      · exact Or.inl ⟨hret, by simp [hdef]⟩
  · right
    split
    · exact ⟨a, as, hret⟩
    · split_ifs
      · exact ⟨a, as, hret⟩
      · exact ⟨a, as ++ [s.term], by simp only [hret, List.cons_append]⟩
      · exact ⟨a, as, hret⟩

lemma HasMore.finish {w : Text} (h : s.HasMore w) (t : Text) : ∃ a as, (t.foldl Terms.put s).finish = w :: a :: as := by
  induction t generalizing s with
  | nil =>
    change ∃ a as, s.finish = w :: a :: as
    unfold Terms.finish
    rcases h with ⟨hret, hdef⟩ | ⟨a, as, hret⟩
    · exact ⟨s.term, [], by rw [if_pos hdef, hret]; rfl⟩
    · split_ifs
      · exact ⟨a, as ++ [s.term], by rw [hret]; rfl⟩
      · exact ⟨a, as, hret⟩
  | cons c t ih => exact ih (h.put c)

/-- Where a term begins behind the first one. -/
lemma At.argument {w : Text} (h : s.At [] false [w]) {t : Text} (ht : Argument t) :
    ∃ a as, (t.foldl put s).finish = w :: a :: as := by
  obtain ⟨gap, r, rfl, hgap, hr⟩ := ht
  have hstart := h.blanks hgap
  rw [List.foldl_append]
  generalize gap.foldl put s = s at hstart
  rcases hr with ⟨c, r, rfl, hc⟩ | ⟨r, rfl⟩ | ⟨c, r, rfl, hc⟩
  · have hput := hstart.plain hc
    exact HasMore.finish (Or.inl ⟨hput.ret, hput.isDefined⟩) r
  · have hput := hstart.quote
    exact HasMore.finish (Or.inl ⟨hput.ret, hput.isDefined⟩) r
  · have hput := hstart.escaped hc
    exact HasMore.finish (Or.inl ⟨hput.ret, hput.isDefined⟩) r

lemma InQuote.unclosed (h : s.InQuote term ret) {q v : Text} (hq : Unclosed q v) :
    (q.foldl put s).finish = ret ++ [term ++ v] := by
  rcases hq with hq | ⟨q, rfl, hq⟩
  · exact (h.quoted hq).finish
  · obtain ⟨h₁, h₂, h₃, h₄, h₅, h₆⟩ := h.quoted hq
    rw [List.foldl_append]
    generalize q.foldl put s = s at h₁ h₂ h₃ h₄ h₅ h₆
    simp [Terms.put, LexComment.put, Terms.finish, *]

end Terms

/-- The state at the first term. -/
lemma at_first {gap : Text} (hgap : Blanks gap) : (gap.foldl Terms.put {}).At [] false [] :=
  Terms.At.blanks ⟨⟨rfl, rfl, rfl⟩, rfl, rfl, rfl⟩ hgap

lemma bySpace_of_oneTerm {t w : Text} (h : OneTerm t w) : bySpace t = [w] := by
  obtain ⟨gap, raw, rest, rfl, hgap, hne, hlast⟩ := h
  have hfirst := at_first hgap
  rw [bySpace, List.foldl_append]
  generalize gap.foldl Terms.put {} = s at hfirst
  cases hlast with
  | closed hraw hrest =>
    have hat := Terms.At.spells hraw hfirst
    have hdef : (false || !raw.isEmpty) = true := by simpa using hne
    rw [hdef] at hat
    rw [List.foldl_append, hat.noMore (fun h => by cases h) hrest]
    rfl
  | unclosed hraw hq =>
    have hat := Terms.At.spells hraw hfirst
    rw [List.append_nil, List.foldl_append, List.foldl_cons, hat.quote.unclosed hq]
    rfl

lemma bySpace_of_severalTerms {t w : Text} (h : SeveralTerms t w) : ∃ a as, bySpace t = w :: a :: as := by
  obtain ⟨gap, raw, sep, rest, rfl, hgap, hne, hraw, hsep, hrest⟩ := h
  have hat := Terms.At.spells hraw (at_first hgap)
  have hdef : (false || !raw.isEmpty) = true := by simpa using hne
  rw [hdef] at hat
  rw [bySpace, List.foldl_append, List.foldl_append, List.foldl_append]
  exact (hat.blank (fun h => by cases h) hsep).argument hrest

/-! ### Every line is one of them -/

lemma not_stops_of_startsTerm {r : Text} (h : StartsTerm r) : ¬Stops r := by
  have hmark : ∀ c : Char, isComment c = true → isPlain c = false ∧ c ≠ '"' ∧ c ≠ '\\' := by
    intro c hc
    refine ⟨by simp [isPlain, hc], ?_, ?_⟩ <;> rintro rfl <;> cases hc
  rintro (rfl | rfl | ⟨c, r, rfl, hc⟩)
  · rcases h with ⟨c, r, h, -⟩ | ⟨r, h⟩ | ⟨c, r, h, -⟩ <;> cases h
  · rcases h with ⟨c, r, h, hc⟩ | ⟨r, h⟩ | ⟨c, r, h, -⟩
    · obtain ⟨rfl, -⟩ := List.cons.inj h
      cases hc
    · cases h
    · cases h
  · obtain ⟨h₁, h₂, h₃⟩ := hmark c hc
    rcases h with ⟨d, r, h, hd⟩ | ⟨r, h⟩ | ⟨d, r, h, -⟩
    · obtain ⟨rfl, -⟩ := List.cons.inj h
      rw [h₁] at hd
      cases hd
    · exact h₂ (List.cons.inj h).1
    · exact h₃ (List.cons.inj h).1

lemma not_blank_of_startsTerm {b r : Text} (h : StartsTerm (b ++ r)) : ¬Blank b := by
  intro hb
  cases hb with
  | @space c hc =>
    obtain ⟨h₁, h₂, -⟩ := special_of_isSpace hc
    rcases h with ⟨d, r, h, hd⟩ | ⟨r, h⟩ | ⟨d, r, h, -⟩
    · obtain ⟨rfl, -⟩ := List.cons.inj h
      rw [(isPlain_iff.1 hd).1] at hc
      cases hc
    · exact h₂ (List.cons.inj h).1
    · exact h₁ (List.cons.inj h).1
  | @escaped c hc =>
    rcases h with ⟨d, r, h, hd⟩ | ⟨r, h⟩ | ⟨d, r, h, hd⟩
    · obtain ⟨rfl, -⟩ := List.cons.inj h
      cases hd
    · cases h
    · obtain ⟨-, h⟩ := List.cons.inj h
      obtain ⟨rfl, -⟩ := List.cons.inj h
      rw [hd] at hc
      cases hc

/-- A scalar that is not plain. -/
lemma special_of_not_isPlain {c : Char} (hspace : isSpace c = false) (hc : isPlain c = false) :
    c = '\\' ∨ c = '"' ∨ isComment c = true := by
  by_contra hno
  rw [not_or, not_or, Bool.not_eq_true] at hno
  rw [isPlain_iff.2 ⟨hspace, hno.1, hno.2.1, hno.2.2⟩] at hc
  cases hc

/-- What is in front of the first term, if there is one. -/
theorem exists_blanks (t : Text) : ∃ gap r, t = gap ++ r ∧ Blanks gap ∧ (StartsTerm r ∨ Stops r) := by
  cases t with
  | nil => exact ⟨[], [], rfl, .nil, Or.inr (Or.inl rfl)⟩
  | cons c t =>
    cases hspace : isSpace c with
    | true =>
      obtain ⟨gap, r, rfl, hgap, hr⟩ := exists_blanks t
      exact ⟨[c] ++ gap, r, rfl, .cons (.space hspace) hgap, hr⟩
    | false =>
      cases hplain : isPlain c with
      | true => exact ⟨[], _, rfl, .nil, Or.inl (Or.inl ⟨c, t, rfl, hplain⟩)⟩
      | false =>
        rcases special_of_not_isPlain hspace hplain with rfl | rfl | hcomment
        · cases t with
          | nil => exact ⟨[], _, rfl, .nil, Or.inr (Or.inr (Or.inl rfl))⟩
          | cons d t =>
            cases hd : isSpace d with
            | true =>
              obtain ⟨gap, r, rfl, hgap, hr⟩ := exists_blanks t
              exact ⟨['\\', d] ++ gap, r, rfl, .cons (.escaped hd) hgap, hr⟩
            | false => exact ⟨[], _, rfl, .nil, Or.inl (Or.inr (Or.inr ⟨d, t, rfl, hd⟩))⟩
        · exact ⟨[], _, rfl, .nil, Or.inl (Or.inr (Or.inl ⟨t, rfl⟩))⟩
        · exact ⟨[], _, rfl, .nil, Or.inr (Or.inr (Or.inr ⟨c, t, rfl, hcomment⟩))⟩
termination_by t.length

/-- **There is a further term or there is none.** -/
lemma argument_or_noMore (t : Text) : Argument t ∨ NoMore t := by
  obtain ⟨gap, r, ht, hgap, hr | hr⟩ := exists_blanks t
  · exact Or.inl ⟨gap, r, ht, hgap, hr⟩
  · exact Or.inr ⟨gap, r, ht, hgap, hr⟩

/-- What stands in quotes, to their end or to the end of the line. -/
theorem exists_quoted (t : Text) : (∃ q r v, t = q ++ '"' :: r ∧ Quoted q v) ∨ ∃ v, Unclosed t v := by
  cases t with
  | nil => exact Or.inr ⟨[], Or.inl .nil⟩
  | cons c t =>
    by_cases hquote : c = '"'
    · exact Or.inl ⟨[], t, [], by rw [hquote]; rfl, .nil⟩
    by_cases hback : c = '\\'
    · subst hback
      cases t with
      | nil => exact Or.inr ⟨[], Or.inr ⟨[], rfl, .nil⟩⟩
      | cons d t =>
        rcases exists_quoted t with ⟨q, r, v, rfl, hq⟩ | ⟨v, hq | ⟨q, rfl, hq⟩⟩
        · exact Or.inl ⟨_, r, _, rfl, .escaped (c := d) hq⟩
        · exact Or.inr ⟨_, Or.inl (.escaped hq)⟩
        · exact Or.inr ⟨_, Or.inr ⟨_, rfl, .escaped (c := d) hq⟩⟩
    · rcases exists_quoted t with ⟨q, r, v, rfl, hq⟩ | ⟨v, hq | ⟨q, rfl, hq⟩⟩
      · exact Or.inl ⟨_, r, _, rfl, .scalar ⟨hquote, hback⟩ hq⟩
      · exact Or.inr ⟨_, Or.inl (.scalar ⟨hquote, hback⟩ hq)⟩
      · exact Or.inr ⟨_, Or.inr ⟨_, rfl, .scalar ⟨hquote, hback⟩ hq⟩⟩
termination_by t.length

/-- What spells a term, and where it ends. -/
theorem exists_spells (t : Text) : ∃ raw r w, t = raw ++ r ∧ Spells raw w ∧
    (Stops r ∨ (∃ b r', r = b ++ r' ∧ Blank b) ∨ ∃ q v, r = '"' :: q ∧ Unclosed q v) := by
  cases t with
  | nil => exact ⟨[], [], [], rfl, .nil, Or.inl (Or.inl rfl)⟩
  | cons c t =>
    cases hspace : isSpace c with
    | true => exact ⟨[], _, [], rfl, .nil, Or.inr (Or.inl ⟨[c], t, rfl, .space hspace⟩)⟩
    | false =>
      cases hplain : isPlain c with
      | true =>
        obtain ⟨raw, r, w, rfl, hraw, hr⟩ := exists_spells t
        exact ⟨c :: raw, r, c :: w, rfl, .plain hplain hraw, hr⟩
      | false =>
        rcases special_of_not_isPlain hspace hplain with rfl | rfl | hcomment
        · cases t with
          | nil => exact ⟨[], _, [], rfl, .nil, Or.inl (Or.inr (Or.inl rfl))⟩
          | cons d t =>
            cases hd : isSpace d with
            | true => exact ⟨[], _, [], rfl, .nil, Or.inr (Or.inl ⟨['\\', d], t, rfl, .escaped hd⟩)⟩
            | false =>
              obtain ⟨raw, r, w, rfl, hraw, hr⟩ := exists_spells t
              exact ⟨'\\' :: d :: raw, r, d :: w, rfl, .escaped hd hraw, hr⟩
        · rcases exists_quoted t with ⟨q, r, v, rfl, hq⟩ | ⟨v, hq⟩
          · obtain ⟨raw, r, w, rfl, hraw, hr⟩ := exists_spells r
            exact ⟨'"' :: (q ++ '"' :: raw), r, v ++ w, by simp, .quoted hq hraw, hr⟩
          · exact ⟨[], _, [], rfl, .nil, Or.inr (Or.inr ⟨t, v, rfl, hq⟩)⟩
        · exact ⟨[], _, [], rfl, .nil, Or.inl (Or.inr (Or.inr ⟨c, t, rfl, hcomment⟩))⟩
termination_by t.length
decreasing_by all_goals simp_all <;> omega

lemma bySpace_cases (t : Text) : bySpace t = [] ∨ (∃ w, OneTerm t w) ∨ ∃ w, SeveralTerms t w := by
  obtain ⟨gap, r, rfl, hgap, hr | hr⟩ := exists_blanks t
  · right
    obtain ⟨raw, r', w, rfl, hraw, hend⟩ := exists_spells r
    have hne : ∀ b r'', r' = b ++ r'' → (Blank b ∨ Stops r') → raw ≠ [] := by
      rintro b r'' rfl hb rfl
      rcases hb with hb | hb
      · exact not_blank_of_startsTerm (show StartsTerm (b ++ r'') from hr) hb
      · exact not_stops_of_startsTerm hr hb
    rcases hend with hstops | ⟨b, r'', rfl, hb⟩ | ⟨q, v, rfl, hq⟩
    · exact Or.inl ⟨w, gap, raw, r', rfl, hgap, hne [] r' rfl (Or.inr hstops),
        .closed hraw ⟨[], r', rfl, .nil, hstops⟩⟩
    · have hraw' : raw ≠ [] := hne b r'' rfl (Or.inl hb)
      rcases argument_or_noMore r'' with harg | ⟨gap', r, rfl, hgap', hstops⟩
      · exact Or.inr ⟨w, gap, raw, b, r'', rfl, hgap, hraw', hraw, hb, harg⟩
      · exact Or.inl ⟨w, gap, raw, b ++ (gap' ++ r), rfl, hgap, hraw',
          .closed hraw ⟨b ++ gap', r, by simp, .cons hb hgap', hstops⟩⟩
    · exact Or.inl ⟨w ++ v, gap, raw ++ '"' :: q, [], by simp, hgap, by simp, .unclosed hraw hq⟩
  · left
    rw [bySpace, List.foldl_append, (at_first hgap).stops hr]
    rfl

/-- **The lines with one term.** -/
theorem bySpace_eq_singleton_iff {t w : Text} : bySpace t = [w] ↔ OneTerm t w := by
  refine ⟨fun h => ?_, bySpace_of_oneTerm⟩
  rcases bySpace_cases t with hnil | ⟨v, hv⟩ | ⟨v, hv⟩
  · rw [hnil] at h
    cases h
  · rw [bySpace_of_oneTerm hv] at h
    exact List.singleton_inj.1 h ▸ hv
  · obtain ⟨a, as, hterms⟩ := bySpace_of_severalTerms hv
    rw [hterms] at h
    cases h

/-- **The lines with several terms.** -/
theorem exists_bySpace_eq_cons_iff {t w : Text} : (∃ a as, bySpace t = w :: a :: as) ↔ SeveralTerms t w := by
  refine ⟨fun ⟨a, as, h⟩ => ?_, bySpace_of_severalTerms⟩
  rcases bySpace_cases t with hnil | ⟨v, hv⟩ | ⟨v, hv⟩
  · rw [hnil] at h
    cases h
  · rw [bySpace_of_oneTerm hv] at h
    cases h
  · obtain ⟨a, as, hterms⟩ := bySpace_of_severalTerms hv
    rw [hterms] at h
    exact (List.cons.inj h).1 ▸ hv

/-! ### What is usually written -/

lemma blanks_of_isSpace {u : Text} (hu : ∀ c ∈ u, isSpace c = true) : Blanks u := by
  induction u with
  | nil => exact .nil
  | cons c u ih =>
    obtain ⟨hc, hu⟩ := List.forall_mem_cons.1 hu
    exact .cons (.space hc) (ih hu)

/-- Without a backslash there are only spaces between terms. -/
lemma isSpace_of_blanks {gap : Text} (hgap : Blanks gap) (hback : '\\' ∉ gap) : ∀ c ∈ gap, isSpace c = true := by
  induction hgap with
  | nil => simp
  | cons hb _ ih =>
    intro c hc
    rcases List.mem_append.1 hc with hc | hc
    · cases hb with
      | space hspace => rwa [List.mem_singleton.1 hc]
      | escaped hspace => exact absurd (by simp) hback
    · exact ih (fun hmem => hback (List.mem_append_right _ hmem)) c hc

lemma spells_self {w : Text} (hw : ∀ c ∈ w, isPlain c = true) : Spells w w := by
  induction w with
  | nil => exact .nil
  | cons c w ih =>
    obtain ⟨hc, hw⟩ := List.forall_mem_cons.1 hw
    exact .plain hc (ih hw)

/-- A line that is ignored has no term. -/
lemma bySpace_of_ignoreLine {t : Text} (h : ignoreLine t = true) : bySpace t = [] := by
  have hgap : Blanks (t.takeWhile isSpace) := blanks_of_isSpace fun c hc => List.mem_takeWhile_imp hc
  have hstops : Stops (t.dropWhile isSpace) := by
    unfold ignoreLine at h
    split at h
    · next hnil => exact Or.inl hnil
    · next c r hcons => exact Or.inr (Or.inr ⟨c, r, hcons, h⟩)
  rw [bySpace, ← List.takeWhile_append_dropWhile (p := isSpace) (l := t), List.foldl_append,
    (at_first hgap).stops hstops]
  rfl

end FreeVPN.OpenVPN
