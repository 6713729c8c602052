import FreeVPN.Foundation.Text
import FreeVPN.Lib.Except

/-!
# The option list of an OpenVPN configuration

`OptionList::parse_from_config` of OpenVPN3 and what it calls (`options.hpp`, `splitlines.hpp`,
`split.hpp`, `lex.hpp`).  A string is the list of its scalars: the bytes of a scalar that is not ASCII
mean nothing to the lexer, so it goes over scalars here; where the lengths of strings are compared
with limits, their bytes are counted.

* `LexComment`, `bySpace` — the terms of a line, with quotes, escapes and comments;
* `rawLines`, `isOpenTag`, `isCloseTag` — lines, and the tags of inline blocks;
* `Limits` — what a profile may need;
* `parseFromConfig` — the loop over the lines.
-/

namespace FreeVPN.OpenVPN

open FreeVPN.Lib FreeVPN.Foundation

/-- `Option`: the name of a directive, and its arguments. -/
abbrev Opt := List Text

/-- `length()`, in bytes. -/
def byteLength (s : Text) : ℕ := (s.map Char.utf8Size).sum

/-! ### Terms -/

/-- `SpaceMatch::is_space`: the spaces of the C locale. -/
def isSpace (c : Char) : Bool := c = ' ' || (0x09 ≤ c.toNat && c.toNat ≤ 0x0D)

/-- `is_comment` -/
def isComment (c : Char) : Bool := c = '#' || c = ';'

/-- `LexComment` -/
structure LexComment where
  inQuote : Bool := false
  inComment : Bool := false
  backslash : Bool := false
  /-- The scalar that is available. -/
  ch : Option Char := none

/-- `put` -/
def LexComment.put (lex : LexComment) (c : Char) : LexComment :=
  if lex.inComment then { lex with ch := none }
  else if lex.backslash then { lex with ch := some c, backslash := false }
  else if c = '\\' then { lex with backslash := true, ch := none }
  else if c = '"' then { lex with inQuote := !lex.inQuote, ch := none }
  else if isComment c && !lex.inQuote then { lex with inComment := true, ch := none }
  else { lex with ch := some c }

/-- The variables of `by_space_void`. -/
structure Terms where
  lex : LexComment := {}
  term : Text := []
  isDefined : Bool := false
  ret : List Text := []

/-- The body of its loop. -/
def Terms.put (s : Terms) (c : Char) : Terms :=
  let lex := s.lex.put c
  let isDefined := s.isDefined || lex.inQuote
  match lex.ch with
  | none => { s with lex, isDefined }
  | some tc =>
    if !isSpace tc || lex.inQuote then { s with lex, isDefined := true, term := s.term ++ [tc] }
    else if isDefined then { lex, term := [], isDefined := false, ret := s.ret ++ [s.term] }
    else { s with lex, isDefined }

/-- The term that ends with the line. -/
def Terms.finish (s : Terms) : List Text := if s.isDefined then s.ret ++ [s.term] else s.ret

/-- `by_space`, with `LexComment`: `parse_option_from_line`. -/
def bySpace (line : Text) : Opt := (line.foldl Terms.put {}).finish

/-! ### Lines and tags -/

/-- The lines of `SplitLines`, with their newlines. -/
def rawLines : Text → List Text
  | [] => []
  | c :: s =>
    if c = '\n' then [c] :: rawLines s
    else match rawLines s with
      | [] => [[c]]
      | line :: rest => (c :: line) :: rest

/-- A `'\r'` or `'\n'`, as `ends_with_crlf` looks for. -/
def isCrlf (c : Char) : Bool := c = '\n' || c = '\r'

/-- `trim_crlf` -/
abbrev trimCrlf (line : Text) : Text := line.rdropWhile isCrlf

/-- `ignore_line`: the line is blank or a comment. -/
def ignoreLine (line : Text) : Bool :=
  match line.dropWhile isSpace with
  | [] => true
  | c :: _ => isComment c

/-- `is_open_tag` -/
def isOpenTag (str : Text) : Bool :=
  3 ≤ str.length && str.head? = some '<' && str[1]? ≠ some '/' && str.getLast? = some '>'

/-- `is_close_tag` -/
def isCloseTag (str tag : Text) : Bool :=
  4 ≤ str.length && str.head? = some '<' && str[1]? = some '/' &&
    (str.drop 2).take (str.length - 3) = tag && str.getLast? = some '>'

/-- `untag_open_tag` -/
def untagOpenTag (str : Text) : Text := if 3 ≤ str.length then (str.drop 1).take (str.length - 2) else str

/-! ### Limits -/

/-- `Limits` -/
structure Limits where
  /-- The bytes counted so far. -/
  bytes : ℕ
  maxBytes : ℕ
  extraBytesPerOpt : ℕ
  extraBytesPerTerm : ℕ
  maxLineLen : ℕ
  maxDirectiveLen : ℕ
  errorMessage : String

/-- `Option::validate_status` -/
inductive ValidateStatus
  | good
  | multiline
  | length
  deriving DecidableEq

/-- The `option_error` that is thrown, as far as it depends on the text. -/
inductive OptionError
  /-- The error message of the limits. -/
  | limits (message : String)
  | directive (opt : Opt) (status : ValidateStatus)
  | lineTooLong (lineNum : ℕ)
  | extraneous (lineNum : ℕ) (opt : Opt)
  | notClosedOut (tag content : Text)

/-- `Option::validate`, for a length with the flag `MULTILINE`, which is `0x8000000`. -/
def validate (str : Text) (maxLen : ℕ) : ValidateStatus :=
  let len := maxLen % 0x8000000
  if str.any isCrlf && !maxLen.testBit 27 then .multiline
  else if 0 < len && len < str.length then .length
  else .good

/-- `extra_bytes_per_term`, nothing without limits. -/
def perTerm (lim : Option Limits) : ℕ := (lim.map Limits.extraBytesPerTerm).getD 0

/-- `extra_bytes_per_opt` -/
def perOpt (lim : Option Limits) : ℕ := (lim.map Limits.extraBytesPerOpt).getD 0

/-- `add_bytes`, and `check_overflow`.  Without limits nothing is checked. -/
def addBytes (lim : Option Limits) (bytes n : ℕ) : Except OptionError ℕ :=
  match lim.filter fun lim => lim.maxBytes ≤ bytes + n with
  | none => .ok (bytes + n)
  | some lim => .error (.limits lim.errorMessage)

/-- `add_term`, for each of the terms. -/
def addTerms (lim : Option Limits) (bytes : ℕ) (terms : List Text) : Except OptionError ℕ :=
  terms.foldlM (fun bytes _ => addBytes lim bytes (perTerm lim)) bytes

/-- `validate_directive` -/
def validateDirective (lim : Option Limits) (opt : Opt) : ValidateStatus :=
  match lim.filter fun lim => 0 < lim.maxDirectiveLen, opt.head? with
  | some lim, some name => validate name lim.maxDirectiveLen
  | _, _ => .good

/-- `add_opt` and `validate_directive` -/
def addOpt (lim : Option Limits) (bytes : ℕ) (opt : Opt) : Except OptionError ℕ := do
  let bytes ← addBytes lim bytes (perOpt lim)
  if validateDirective lim opt = .good then .ok bytes
  else .error (.directive opt (validateDirective lim opt))

/-- `line_overflow`: a line, with its newline, is longer than the limit. -/
def lineOverflow (lim : Option Limits) (raw : Text) : Bool :=
  lim.any fun lim => 0 < lim.maxLineLen && lim.maxLineLen < byteLength raw

/-! ### The loop -/

/-- The variables of `parse_from_config`. -/
structure ParseState where
  bytes : ℕ
  lineNum : ℕ := 0
  /-- The tag and the content of the inline block that is open. -/
  multiline : Option (Text × Text) := none
  options : List Opt := []

/-- The body of its loop. -/
def parseLine (lim : Option Limits) (s : ParseState) (raw : Text) : Except OptionError ParseState := do
  let lineNum := s.lineNum + 1
  let line := trimCrlf raw
  if lineOverflow lim raw then .error (.lineTooLong lineNum)
  else match s.multiline with
    | some (tag, content) =>
      if isCloseTag line tag then
        let bytes ← addOpt lim s.bytes [tag, content]
        .ok { bytes, lineNum, multiline := none, options := s.options ++ [[tag, content]] }
      else .ok { s with lineNum, multiline := some (tag, content ++ line ++ ['\n']) }
    | none =>
      if ignoreLine line then .ok { s with lineNum }
      else
        let opt := bySpace line
        let bytes ← addTerms lim s.bytes opt
        match opt with
        | [] => .ok { s with bytes, lineNum }
        | name :: args =>
          if isOpenTag name then
            if args ≠ [] then .error (.extraneous lineNum opt)
            else .ok { s with bytes, lineNum, multiline := some (untagOpenTag name, []) }
          else
            let bytes ← addOpt lim bytes opt
            .ok { s with bytes, lineNum, options := s.options ++ [opt] }

/-- `parse_from_config` -/
def parseFromConfig (lim : Option Limits) (str : Text) : Except OptionError (List Opt) := do
  let bytes ← addBytes lim ((lim.map Limits.bytes).getD 0) (byteLength str)
  let s ← (rawLines str).foldlM (parseLine lim) { bytes }
  match s.multiline with
  | some (tag, content) => .error (.notClosedOut tag content)
  | none => .ok s.options


end FreeVPN.OpenVPN
