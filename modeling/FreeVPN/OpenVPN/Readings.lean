import FreeVPN.OpenVPN.OptionList

/-!
# How the lines of a configuration are read

What `parse_from_config` makes of a line depends on the lines before it only through the tag of the
inline block that is open.  `readings` follows the lines of a text and says how each is read;
`parseFromConfig_eq_ok` describes the parser by that:

* a text is accepted when no line is an error, no block is left open, and the limits are kept;
* its options are then the `optionsOf` the readings.
-/

namespace FreeVPN.OpenVPN

open FreeVPN.Lib FreeVPN.Foundation

/-- How a line is read. -/
inductive Reading
  /-- Blank, a comment, or no term at all. -/
  | ignored
  | option (name : Text) (args : List Text)
  /-- The open tag of an inline block. -/
  | opens (tag : Text)
  /-- A line in a block, without its newline. -/
  | content (tag line : Text)
  | closes (tag : Text)
  /-- An open tag with something behind it. -/
  | extraneous (name : Text) (args : List Text)
  deriving DecidableEq

namespace Reading

/-- The block that is open after the line. -/
@[simp] def block : Reading → Option Text
  | opens tag | content tag _ => some tag
  | _ => none

/-- The block with what is in it, for what was in it before. -/
@[simp] def multiline (before : Text) : Reading → Option (Text × Text)
  | opens tag => some (tag, [])
  | content tag line => some (tag, before ++ line ++ ['\n'])
  | _ => none

/-- What is in the open block. -/
@[simp] def inside (multiline : Option (Text × Text)) : Text := (multiline.map Prod.snd).getD []

/-- The option that is complete with the line. -/
@[simp] def emitted (before : Text) : Reading → List Opt
  | option name args => [name :: args]
  | closes tag => [[tag, before]]
  | _ => []

/-- The name of that option. -/
@[simp] def named : Reading → Option Text
  | option name _ | closes name => some name
  | _ => none

/-- The name of the option that the line is of. -/
@[simp] def owner : Reading → Option Text
  | option name _ => some name
  | opens tag | content tag _ | closes tag => some tag
  | _ => none

@[simp] def isExtraneous : Reading → Bool
  | extraneous _ _ => true
  | _ => false

/-- What a line is counted with, beside its bytes. -/
@[simp] def cost (lim : Option Limits) : Reading → ℕ
  | option _ args => (args.length + 1) * perTerm lim + perOpt lim
  | opens _ => perTerm lim
  | closes _ => perOpt lim
  | _ => 0

/-- The name is one that the limits allow. -/
def IsValid (lim : Option Limits) (r : Reading) : Prop :=
  ∀ name ∈ r.named, validateDirective lim [name] = .good

@[simp] lemma multiline_map_fst (before : Text) (r : Reading) :
    (r.multiline before).map Prod.fst = r.block := by
  cases r <;> rfl

end Reading

/-- How a line is read in a block, or outside. -/
def readLine (block : Option Text) (line : Text) : Reading :=
  match block with
  | some tag =>
    if isCloseTag (trimCrlf line) tag then .closes tag else .content tag (trimCrlf line)
  | none =>
    if ignoreLine (trimCrlf line) then .ignored
    else match bySpace (trimCrlf line) with
      | [] => .ignored
      | name :: args =>
        if isOpenTag name then if args ≠ [] then .extraneous name args else .opens (untagOpenTag name)
        else .option name args

/-- How lines, that come with something else perhaps, are read one after the other. -/
def readings {α : Type} (text : α → Text) : Option Text → List α → List (α × Reading)
  | _, [] => []
  | block, x :: xs => (x, readLine block (text x)) :: readings text (readLine block (text x)).block xs

/-- The block that is open after some lines. -/
def blockAfter (block : Option Text) : List Reading → Option Text
  | [] => block
  | r :: rs => blockAfter r.block rs

/-- The options of some lines, the first of which come behind `before` in a block. -/
def optionsOf (before : Text) : List Reading → List Opt
  | [] => []
  | r :: rs => r.emitted before ++ optionsOf (Reading.inside (r.multiline before)) rs

/-- The readings of the lines of a text. -/
def readingsOf (block : Option Text) (ls : List Text) : List Reading := (readings id block ls).map Prod.snd

@[simp] lemma readingsOf_nil (block : Option Text) : readingsOf block [] = [] := rfl

@[simp] lemma readingsOf_cons (block : Option Text) (l : Text) (ls : List Text) :
    readingsOf block (l :: ls) = readLine block l :: readingsOf (readLine block l).block ls := rfl

lemma readingsOf_append (block : Option Text) (ls ms : List Text) :
    readingsOf block (ls ++ ms) =
      readingsOf block ls ++ readingsOf (blockAfter block (readingsOf block ls)) ms := by
  induction ls generalizing block with
  | nil => rfl
  | cons l ls ih => simp [ih, blockAfter]

lemma blockAfter_append (block : Option Text) (rs ss : List Reading) :
    blockAfter block (rs ++ ss) = blockAfter (blockAfter block rs) ss := by
  induction rs generalizing block with
  | nil => rfl
  | cons r rs ih => exact ih r.block

lemma map_snd_readings {α : Type} (text : α → Text) (block : Option Text) (xs : List α) :
    (readings text block xs).map Prod.snd = readingsOf block (xs.map text) := by
  induction xs generalizing block with
  | nil => rfl
  | cons x xs ih => simp [readings, ih]

/-- Where a reading comes from. -/
lemma exists_of_mem_readings {α : Type} {text : α → Text} {block : Option Text} {xs : List α}
    {y : α × Reading} (hy : y ∈ readings text block xs) : y.1 ∈ xs ∧ ∃ b, y.2 = readLine b (text y.1) := by
  induction xs generalizing block with
  | nil => cases hy
  | cons x xs ih =>
    rcases List.mem_cons.1 hy with rfl | hy
    · exact ⟨List.mem_cons_self .., block, rfl⟩
    · obtain ⟨hmem, hread⟩ := ih hy
      exact ⟨List.mem_cons_of_mem _ hmem, hread⟩

lemma exists_of_mem_readingsOf {block : Option Text} {ls : List Text} {r : Reading} (hr : r ∈ readingsOf block ls) :
    ∃ before line after, ls = before ++ line :: after ∧
      r = readLine (blockAfter block (readingsOf block before)) line := by
  induction ls generalizing block with
  | nil => cases hr
  | cons l ls ih =>
    rcases List.mem_cons.1 hr with rfl | hr
    · exact ⟨[], l, ls, rfl, rfl⟩
    · obtain ⟨before, line, after, rfl, hread⟩ := ih hr
      exact ⟨l :: before, line, after, rfl, hread⟩

/-- In a block a line is one of the block. -/
lemma readLine_some (tag line : Text) :
    readLine (some tag) line = .closes tag ∨ ∃ l, readLine (some tag) line = .content tag l := by
  unfold readLine
  dsimp only
  split_ifs
  · exact Or.inl rfl
  · exact Or.inr ⟨_, rfl⟩

/-- Outside a block no line is one in a block. -/
lemma readLine_none_ne (line : Text) : (∀ tag l, readLine none line ≠ .content tag l) ∧
    ∀ tag, readLine none line ≠ .closes tag := by
  unfold readLine
  dsimp only
  split_ifs
  · simp
  · cases bySpace (trimCrlf line) with
    | nil => simp
    | cons name args =>
      dsimp only
      split_ifs <;> simp

/-! ### One line -/

lemma addBytes_eq_ok {lim : Option Limits} {bytes n b : ℕ} :
    addBytes lim bytes n = .ok b ↔ (∀ l ∈ lim, bytes + n < l.maxBytes) ∧ bytes + n = b := by
  cases lim with
  | none => simp [addBytes]
  | some l =>
    by_cases h : l.maxBytes ≤ bytes + n
    · simp [addBytes, Option.filter, h, Nat.not_lt.2 h]
    · simp [addBytes, Option.filter, h, Nat.not_le.1 h]

/-- The terms can be counted when the last of them can. -/
lemma addTerms_eq_ok {lim : Option Limits} {bytes b : ℕ} {terms : List Text}
    (hbytes : ∀ l ∈ lim, bytes < l.maxBytes) :
    addTerms lim bytes terms = .ok b ↔
      (∀ l ∈ lim, bytes + terms.length * perTerm lim < l.maxBytes) ∧
        bytes + terms.length * perTerm lim = b := by
  induction terms generalizing bytes with
  | nil => simpa [addTerms] using fun _ => hbytes
  | cons t ts ih =>
    have hcons : addTerms lim bytes (t :: ts) =
        addBytes lim bytes (perTerm lim) >>= fun b => addTerms lim b ts := List.foldlM_cons
    rw [hcons, bind_eq_ok]
    simp only [addBytes_eq_ok, List.length_cons, Nat.succ_mul]
    constructor
    · rintro ⟨_, ⟨hb, rfl⟩, h⟩
      obtain ⟨hall, rfl⟩ := (ih hb).1 h
      exact ⟨fun l hl => by have := hall l hl; omega, by omega⟩
    · rintro ⟨hall, rfl⟩
      have hb : ∀ l ∈ lim, bytes + perTerm lim < l.maxBytes := fun l hl => by have := hall l hl; omega
      exact ⟨_, ⟨hb, rfl⟩, (ih hb).2 ⟨fun l hl => by have := hall l hl; omega, by omega⟩⟩

lemma addOpt_eq_ok {lim : Option Limits} {bytes b : ℕ} {name : Text} {args : List Text} :
    addOpt lim bytes (name :: args) = .ok b ↔ validateDirective lim [name] = .good ∧
      (∀ l ∈ lim, bytes + perOpt lim < l.maxBytes) ∧ bytes + perOpt lim = b := by
  have hname : validateDirective lim (name :: args) = validateDirective lim [name] := rfl
  rw [addOpt, bind_eq_ok, hname]
  by_cases h : validateDirective lim [name] = .good
  · simp [addBytes_eq_ok, h]
  · simp [h]

/-- The state after a line that is read without an error. -/
def ParseState.advance (lim : Option Limits) (s : ParseState) (r : Reading) : ParseState where
  bytes := s.bytes + r.cost lim
  lineNum := s.lineNum + 1
  multiline := r.multiline (Reading.inside s.multiline)
  options := s.options ++ r.emitted (Reading.inside s.multiline)

/-- **One line.** -/
lemma parseLine_eq_ok {lim : Option Limits} {s s' : ParseState} {raw : Text}
    (hbytes : ∀ l ∈ lim, s.bytes < l.maxBytes) {r : Reading}
    (hr : readLine (s.multiline.map Prod.fst) raw = r) :
    parseLine lim s raw = .ok s' ↔ lineOverflow lim raw = false ∧ r.isExtraneous = false ∧
      r.IsValid lim ∧ (∀ l ∈ lim, s.bytes + r.cost lim < l.maxBytes) ∧ s.advance lim r = s' := by
  obtain ⟨bytes, lineNum, multiline, options⟩ := s
  unfold parseLine
  by_cases hover : lineOverflow lim raw = true
  · simp [hover]
  rw [if_neg hover]
  simp only [Bool.eq_false_iff.2 hover, true_and]
  rcases multiline with - | ⟨tag, content⟩
  · simp only [Option.map_none, readLine] at hr ⊢
    by_cases hi : ignoreLine (trimCrlf raw) = true
    · rw [if_pos hi] at hr ⊢
      subst hr
      simpa [Reading.IsValid, ParseState.advance] using fun _ => hbytes
    rw [if_neg hi] at hr ⊢
    simp only [bind_eq_ok, addTerms_eq_ok hbytes]
    cases hopt : bySpace (trimCrlf raw) with
    | nil =>
      simp only [hopt] at hr
      subst hr
      simp [Reading.IsValid, ParseState.advance]
    | cons name args =>
      simp only [hopt] at hr
      by_cases htag : isOpenTag name = true
      · rw [if_pos htag] at hr
        by_cases hargs : args = []
        · rw [if_neg (not_not.2 hargs)] at hr
          subst hr
          simp [htag, hargs, Reading.IsValid, ParseState.advance]
        · rw [if_pos hargs] at hr
          subst hr
          simp [htag, hargs]
      · rw [if_neg htag] at hr
        subst hr
        simp only [htag, Bool.false_eq_true, if_false, bind_eq_ok, addOpt_eq_ok, Reading.IsValid,
          ParseState.advance, Reading.cost, List.length_cons, ← Nat.add_assoc]
        constructor
        · rintro ⟨b, ⟨-, rfl⟩, _, ⟨hvalid, hall, rfl⟩, h⟩
          exact ⟨rfl, by simpa using hvalid, hall, Except.ok.inj h⟩
        · rintro ⟨-, hvalid, hall, rfl⟩
          refine ⟨_, ⟨fun l hl => ?_, rfl⟩, _, ⟨by simpa using hvalid, hall, rfl⟩, rfl⟩
          have := hall l hl
          omega
  · simp only [Option.map_some, readLine] at hr ⊢
    by_cases hi : isCloseTag (trimCrlf raw) tag = true
    · rw [if_pos hi] at hr ⊢
      subst hr
      simp [bind_eq_ok, addOpt_eq_ok, and_assoc, Reading.IsValid, ParseState.advance]
    · rw [if_neg hi] at hr ⊢
      subst hr
      simpa [Reading.IsValid, ParseState.advance] using fun _ => hbytes

/-! ### All lines -/

/-- **A run over lines**: every line can be read and is allowed, and all can be counted. -/
lemma foldlM_parseLine_eq_ok {lim : Option Limits} {s s' : ParseState} {raws : List Text}
    (hbytes : ∀ l ∈ lim, s.bytes < l.maxBytes) {rs : List Reading}
    (hrs : readingsOf (s.multiline.map Prod.fst) raws = rs) :
    raws.foldlM (parseLine lim) s = .ok s' ↔ (∀ raw ∈ raws, lineOverflow lim raw = false) ∧
      (∀ r ∈ rs, r.isExtraneous = false) ∧ (∀ r ∈ rs, r.IsValid lim) ∧
      (∀ l ∈ lim, s.bytes + (rs.map (Reading.cost lim)).sum < l.maxBytes) ∧
      rs.foldl (ParseState.advance lim) s = s' := by
  induction raws generalizing s rs with
  | nil =>
    subst hrs
    simpa [pure, Except.pure] using fun _ => hbytes
  | cons raw raws ih =>
    subst hrs
    rw [List.foldlM_cons, bind_eq_ok]
    simp only [parseLine_eq_ok hbytes rfl, readingsOf_cons, List.forall_mem_cons, List.map_cons,
      List.sum_cons, List.foldl_cons, ← Nat.add_assoc]
    generalize hr : readLine (s.multiline.map Prod.fst) raw = r
    have hblock : (s.advance lim r).multiline.map Prod.fst = r.block := Reading.multiline_map_fst ..
    constructor
    · rintro ⟨_, ⟨hover, hextra, hvalid, hall, rfl⟩, h⟩
      obtain ⟨h₁, h₂, h₃, h₄, h₅⟩ := (ih hall (by rw [hblock])).1 h
      exact ⟨⟨hover, h₁⟩, ⟨hextra, h₂⟩, ⟨hvalid, h₃⟩, h₄, h₅⟩
    · rintro ⟨⟨hover, h₁⟩, ⟨hextra, h₂⟩, ⟨hvalid, h₃⟩, h₄, h₅⟩
      have hall : ∀ l ∈ lim, s.bytes + r.cost lim < l.maxBytes := by
        intro l hl
        have := h₄ l hl
        omega
      exact ⟨_, ⟨hover, hextra, hvalid, hall, rfl⟩, (ih hall (by rw [hblock])).2 ⟨h₁, h₂, h₃, h₄, h₅⟩⟩

lemma foldl_advance_options (lim : Option Limits) (s : ParseState) (rs : List Reading) :
    (rs.foldl (ParseState.advance lim) s).options =
      s.options ++ optionsOf (Reading.inside s.multiline) rs := by
  induction rs generalizing s with
  | nil => simp [optionsOf]
  | cons r rs ih => rw [List.foldl_cons, ih, optionsOf, ← List.append_assoc]; rfl

lemma foldl_advance_multiline (lim : Option Limits) (s : ParseState) (rs : List Reading) :
    (rs.foldl (ParseState.advance lim) s).multiline.map Prod.fst =
      blockAfter (s.multiline.map Prod.fst) rs := by
  induction rs generalizing s with
  | nil => rfl
  | cons r rs ih =>
    rw [List.foldl_cons, ih, blockAfter]
    exact congrArg (blockAfter · rs) (Reading.multiline_map_fst ..)

/-- The lines of a text, without their newlines. -/
abbrev textLines (str : Text) : List Text := str.splitOn '\n'

/-- `SplitLines` leaves an empty last line out. -/
lemma rawLines_spec (str : Text) : ∃ ls last, textLines str = ls ++ [last] ∧
    rawLines str = ls.map (· ++ ['\n']) ++ if last = [] then [] else [last] := by
  induction str with
  | nil => exact ⟨[], [], rfl, rfl⟩
  | cons c s ih =>
    obtain ⟨ls, last, hs, hraw⟩ := ih
    have hcons : textLines (c :: s) =
        if c = '\n' then [] :: textLines s else (textLines s).modifyHead (List.cons c) := by
      simp [textLines, List.splitOn, List.splitOnP_cons_eq_if_modifyHead]
    by_cases hc : c = '\n'
    · refine ⟨[] :: ls, last, ?_, ?_⟩
      · rw [hcons, if_pos hc, hs, List.cons_append]
      · rw [rawLines, if_pos hc, hraw, hc, List.map_cons, List.nil_append, List.cons_append]
    · rw [hcons, if_neg hc, hs, rawLines, if_neg hc, hraw]
      cases ls with
      | nil => exact ⟨[], c :: last, rfl, by by_cases h : last = [] <;> simp [h]⟩
      | cons l ls => exact ⟨(c :: l) :: ls, last, rfl, rfl⟩

lemma readLine_newline (block : Option Text) (l : Text) : readLine block (l ++ ['\n']) = readLine block l := by
  have htrim : trimCrlf (l ++ ['\n']) = trimCrlf l := List.rdropWhile_concat_pos _ _ _ rfl
  unfold readLine
  rw [htrim]

lemma readingsOf_newline (block : Option Text) (ls : List Text) :
    readingsOf block (ls.map (· ++ ['\n'])) = readingsOf block ls := by
  induction ls generalizing block with
  | nil => rfl
  | cons l ls ih => simp [readLine_newline, ih]

/-- How an empty line is read. -/
lemma readLine_nil (block : Option Text) :
    readLine block [] = match block with
      | some tag => .content tag []
      | none => .ignored := by
  cases block <;> rfl

/-- Whether an empty last line is left out or not makes a difference to the content of a block that is
not closed, and to nothing else. -/
lemma readingsOf_rawLines (str : Text) :
    readingsOf none (rawLines str) = readingsOf none (textLines str) ∨
      readingsOf none (textLines str) = readingsOf none (rawLines str) ++
        [readLine (blockAfter none (readingsOf none (rawLines str))) []] := by
  obtain ⟨ls, last, hlines, hraw⟩ := rawLines_spec str
  rw [hlines, hraw]
  split_ifs with h
  · right
    rw [h, List.append_nil, readingsOf_newline, readingsOf_append]
    rfl
  · left
    rw [readingsOf_append, readingsOf_newline, ← readingsOf_append]

/-! ### The parser -/

/-- No line is an error, and no block is left open. -/
structure IsAccepted (rs : List Reading) : Prop where
  extraneous : ∀ r ∈ rs, r.isExtraneous = false
  closed : blockAfter none rs = none

/-- The limits are kept: by the lengths of the lines, by the names of the options, and by all that is
counted. -/
structure WithinLimits (lim : Option Limits) (str : Text) : Prop where
  lines : ∀ raw ∈ rawLines str, lineOverflow lim raw = false
  names : ∀ r ∈ readingsOf none (textLines str), r.IsValid lim
  bytes : ∀ l ∈ lim, l.bytes + byteLength str +
    ((readingsOf none (textLines str)).map (Reading.cost lim)).sum < l.maxBytes

lemma withinLimits_none (str : Text) : WithinLimits none str :=
  ⟨fun _ _ => rfl, fun _ _ _ _ => rfl, fun _ h => by cases h⟩

/-- What the parser does with the lines as `SplitLines` gives them. -/
lemma parseFromConfig_raw {lim : Option Limits} {str : Text} {opts : List Opt} {rs : List Reading}
    (hrs : readingsOf none (rawLines str) = rs) :
    parseFromConfig lim str = .ok opts ↔ IsAccepted rs ∧
      (∀ raw ∈ rawLines str, lineOverflow lim raw = false) ∧ (∀ r ∈ rs, r.IsValid lim) ∧
      (∀ l ∈ lim, l.bytes + byteLength str + (rs.map (Reading.cost lim)).sum < l.maxBytes) ∧
      optionsOf [] rs = opts := by
  have hstart : ∀ l ∈ lim, (lim.map Limits.bytes).getD 0 = l.bytes := by
    rintro l rfl
    rfl
  generalize hs₀ : ({ bytes := (lim.map Limits.bytes).getD 0 + byteLength str } : ParseState) = s₀
  have hb₀ : s₀.bytes = (lim.map Limits.bytes).getD 0 + byteLength str := hs₀ ▸ rfl
  have hrs₀ : readingsOf (s₀.multiline.map Prod.fst) (rawLines str) = rs := hs₀ ▸ hrs
  have hm : (rs.foldl (ParseState.advance lim) s₀).multiline.map Prod.fst = blockAfter none rs := by
    rw [foldl_advance_multiline, ← hs₀]
    rfl
  have hopts : (rs.foldl (ParseState.advance lim) s₀).options = optionsOf [] rs := by
    rw [foldl_advance_options, ← hs₀]
    rfl
  unfold parseFromConfig
  simp only [bind_eq_ok, addBytes_eq_ok]
  constructor
  · rintro ⟨_, ⟨hbytes, rfl⟩, s, hs, h⟩
    rw [hs₀] at hs
    obtain ⟨hover, hextra, hvalid, hall, rfl⟩ := (foldlM_parseLine_eq_ok (hb₀ ▸ hbytes) hrs₀).1 hs
    split at h
    · cases h
    · rename_i hnone
      rw [hnone, eq_comm] at hm
      refine ⟨⟨hextra, hm⟩, hover, hvalid, fun l hl => ?_, hopts.symm.trans (Except.ok.inj h)⟩
      have := hall l hl
      rwa [hb₀, hstart l hl] at this
  · rintro ⟨hacc, hover, hvalid, hall, rfl⟩
    have hall₀ : ∀ l ∈ lim, s₀.bytes + (rs.map (Reading.cost lim)).sum < l.maxBytes := by
      intro l hl
      rw [hb₀, hstart l hl]
      exact hall l hl
    have hbytes : ∀ l ∈ lim, s₀.bytes < l.maxBytes := by
      intro l hl
      have := hall₀ l hl
      omega
    refine ⟨_, ⟨hb₀ ▸ hbytes, rfl⟩, rs.foldl (ParseState.advance lim) s₀, ?_, ?_⟩
    · rw [hs₀]
      exact (foldlM_parseLine_eq_ok hbytes hrs₀).2 ⟨hover, hacc.extraneous, hvalid, hall₀, rfl⟩
    · rw [hacc.closed] at hm
      rw [Option.map_eq_none_iff.1 hm, hopts]

/-- A last line that emits the same in a block and outside. -/
lemma optionsOf_concat {before : Text} {rs : List Reading} {r : Reading} {opts : List Opt}
    (hr : ∀ before, r.emitted before = opts) : optionsOf before (rs ++ [r]) = optionsOf before rs ++ opts := by
  induction rs generalizing before with
  | nil =>
    change r.emitted before ++ [] = opts
    rw [hr, List.append_nil]
  | cons r' rs ih => rw [List.cons_append, optionsOf, ih, optionsOf, List.append_assoc]

/-- **What the parser does**, by how the lines are read. -/
theorem parseFromConfig_eq_ok {lim : Option Limits} {str : Text} {opts : List Opt} :
    parseFromConfig lim str = .ok opts ↔ IsAccepted (readingsOf none (textLines str)) ∧
      WithinLimits lim str ∧ optionsOf [] (readingsOf none (textLines str)) = opts := by
  have hfields : WithinLimits lim str ↔ (∀ raw ∈ rawLines str, lineOverflow lim raw = false) ∧
      (∀ r ∈ readingsOf none (textLines str), r.IsValid lim) ∧ ∀ l ∈ lim, l.bytes + byteLength str +
        ((readingsOf none (textLines str)).map (Reading.cost lim)).sum < l.maxBytes :=
    ⟨fun h => ⟨h.lines, h.names, h.bytes⟩, fun h => ⟨h.1, h.2.1, h.2.2⟩⟩
  rw [parseFromConfig_raw rfl, hfields]
  rcases readingsOf_rawLines str with h | h
  · rw [h]
    simp only [and_assoc]
  rw [h]
  generalize hrs : readingsOf none (rawLines str) = rs
  generalize hr : readLine (blockAfter none rs) [] = r
  -- the empty line emits nothing, costs nothing, and leaves the block as it is
  have hblock : r.block = blockAfter none rs ∧ (∀ before, r.emitted before = []) ∧ r.cost lim = 0 ∧
      r.isExtraneous = false ∧ r.IsValid lim := by
    rw [← hr, readLine_nil]
    cases blockAfter none rs <;> simp [Reading.IsValid]
  obtain ⟨hblock, hemitted, hcost, hextra, hvalid⟩ := hblock
  have hacc : IsAccepted (rs ++ [r]) ↔ IsAccepted rs := by
    constructor
    · rintro ⟨h₁, h₂⟩
      rw [blockAfter_append, blockAfter, blockAfter, hblock] at h₂
      exact ⟨fun r' hr' => h₁ r' (List.mem_append_left _ hr'), h₂⟩
    · rintro ⟨h₁, h₂⟩
      refine ⟨List.forall_mem_append.2 ⟨h₁, by simpa using hextra⟩, ?_⟩
      rw [blockAfter_append, blockAfter, blockAfter, hblock, h₂]
  have hvalid' : (∀ r' ∈ rs ++ [r], r'.IsValid lim) ↔ ∀ r' ∈ rs, r'.IsValid lim := by
    rw [List.forall_mem_append]
    exact and_iff_left (by simpa using hvalid)
  rw [hacc, hvalid', optionsOf_concat hemitted, List.append_nil, List.map_append, List.sum_append,
    List.map_singleton, List.sum_singleton, hcost, Nat.add_zero]
  simp only [and_assoc]

end FreeVPN.OpenVPN
