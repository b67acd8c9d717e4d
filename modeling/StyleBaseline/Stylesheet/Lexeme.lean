/-
**How tokens are read.** Each kind of token has a rule that says how many characters at the front of
a text are the longest token of that kind. At each place that is not white space the longest of
these wins, so that a rule which does not complete (an open string, comment or address) leaves the
place to a shorter one.

* `lexemeRules` — the rules, the one for a single character last.
* `longestLexeme` — the kind and length of the token at the front of a text.
* `tokens` — all tokens of a source, the end of the source last.
-/
import StyleBaseline.Stylesheet.Token

namespace StyleBaseline

/-- White space between tokens: space, tab, carriage return, line feed and form feed. -/
def isSpacing (c : Char) : Bool :=
  c == ' ' || c == '\t' || c == '\r' || c == '\n' || c == '\x0c'

/-- A letter of the Latin alphabet or an underscore can begin a name. -/
def isNameStart (c : Char) : Bool :=
  c.isAlpha || c == '_'

/-- Letters, digits, hyphens and underscores can go on with a name. -/
def isNameChar (c : Char) : Bool :=
  isNameStart c || c.isDigit || c == '-'

/-! ### The extent of each kind of token -/

/-- The characters of a name that may begin with one hyphen. -/
def plainNameLength? : List Char → Option Nat
  | '-' :: c :: cs => if isNameStart c then some ((cs.takeWhile isNameChar).length + 2) else none
  | c :: cs => if isNameStart c then some ((cs.takeWhile isNameChar).length + 1) else none
  | [] => none

/-- The characters of a name: a plain one, or two hyphens with at least one more character. -/
def nameLength? : List Char → Option Nat
  | '-' :: '-' :: c :: cs =>
      if isNameChar c then some ((cs.takeWhile isNameChar).length + 3) else none
  | cs => plainNameLength? cs

/-- The characters of an `@` and its plain name. -/
def atKeywordLength? : List Char → Option Nat
  | '@' :: cs => (plainNameLength? cs).map (· + 1)
  | _ => none

/-- The characters up to and with the first `*/`. -/
def commentEnd? : List Char → Option Nat
  | [] => none
  | '*' :: '/' :: _ => some 2
  | _ :: cs => (commentEnd? cs).map (· + 1)

/-- The characters of a comment. -/
def commentLength? : List Char → Option Nat
  | '/' :: '*' :: cs => (commentEnd? cs).map (· + 2)
  | _ => none

/-- The characters up to and with the first quote that no backslash escapes. A line feed, escaped
or not, and the end of the source come too early. -/
def stringEnd? (quote : Char) : List Char → Option Nat
  | [] => none
  | c :: cs =>
      if c = quote then some 1
      else if c = '\n' then none
      else if c = '\\' then
        match cs with
        | [] => none
        | d :: ds => if d = '\n' then none else (stringEnd? quote ds).map (· + 2)
      else (stringEnd? quote cs).map (· + 1)

/-- The characters of a string in the given quotes. -/
def stringLength? (quote : Char) : List Char → Option Nat
  | c :: cs => if c = quote then (stringEnd? quote cs).map (· + 1) else none
  | [] => none

/-- The characters up to and with the first `)`, if no quote comes before it. -/
def addressEnd? : List Char → Option Nat
  | [] => none
  | c :: cs =>
      if c = ')' then some 1
      else if c = '"' || c = '\'' then none
      else (addressEnd? cs).map (· + 1)

/-- The characters of an address: `url(` in letters of any case, and all up to `)`. -/
def urlLength? : List Char → Option Nat
  | u :: r :: l :: '(' :: cs =>
      if u.toLower = 'u' && r.toLower = 'r' && l.toLower = 'l' then
        (addressEnd? cs).map (· + 4)
      else none
  | _ => none

/-- One given character. -/
def charLength? (mark : Char) : List Char → Option Nat
  | c :: _ => if c = mark then some 1 else none
  | [] => none

/-- One character that is not white space. -/
def delimLength? : List Char → Option Nat
  | c :: _ => if isSpacing c then none else some 1
  | [] => none

/-! ### Longest match -/

/-- A rule for one kind of token: the length in characters of the longest one at the front of a
text. -/
structure LexemeRule where
  kind : TokenKind
  length? : List Char → Option Nat

/-- The rules. Where two are of one length the earlier one gives the kind, so that a single
character is a delimiter only if it is nothing else. -/
def lexemeRules : List LexemeRule :=
  [⟨.comment, commentLength?⟩,
   ⟨.string, stringLength? '"'⟩,
   ⟨.string, stringLength? '\''⟩,
   ⟨.url, urlLength?⟩,
   ⟨.ident, nameLength?⟩,
   ⟨.atKeyword, atKeywordLength?⟩,
   ⟨.leftBrace, charLength? '{'⟩,
   ⟨.rightBrace, charLength? '}'⟩,
   ⟨.semicolon, charLength? ';'⟩,
   ⟨.colon, charLength? ':'⟩,
   ⟨.delim, delimLength?⟩]

/-- The longest token at the front of a text, given the longest one of the rules before. -/
def longestOf (cs : List Char) : TokenKind × Nat → List LexemeRule → TokenKind × Nat
  | best, [] => best
  | best, rule :: rules =>
      match rule.length? cs with
      | some count => longestOf cs (if best.2 < count then (rule.kind, count) else best) rules
      | none => longestOf cs best rules

/-- The kind of the token at the front of a text and its length in characters. Where no rule
matches there is an error, with no length. -/
def longestLexeme (cs : List Char) : TokenKind × Nat :=
  longestOf cs (.error, 0) lexemeRules

/-- The tokens of a text that begins at the offset `here`, the first `pending` characters being
the rest of a token that is already read. -/
def tokensFrom : List Char → (pending here : Nat) → List Token
  | [], _, here => [⟨.eof, ⟨here, here⟩⟩]
  | c :: cs, pending + 1, here => tokensFrom cs pending (here + c.utf8Size)
  | c :: cs, 0, here =>
      if isSpacing c then tokensFrom cs 0 (here + c.utf8Size)
      else
        let lexeme := longestLexeme (c :: cs)
        ⟨lexeme.1, ⟨here, here + byteLength ((c :: cs).take lexeme.2)⟩⟩
          :: tokensFrom cs (lexeme.2 - 1) (here + c.utf8Size)

/-- The tokens of a source: in order, without the white space between them, the end of the source
last. -/
def tokens (source : String) : List Token :=
  tokensFrom source.toList 0 0

end StyleBaseline
