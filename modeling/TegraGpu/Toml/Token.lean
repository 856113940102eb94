import TegraGpu.Toml.Value
/-!
# The tokens of a TOML document

The text is cut into tokens before any of it is understood.  The one-character tokens are
`.`, `=`, `,`, the brackets and the braces; a run of spaces and tabs is one token, and so is a
comment, from `#` to the end of its line, and a line break (`\n`, `\r\n`, or a `\r` alone).  A
quote starts a string, which runs to its closing quote: a literal string (`'`) stops early at a
line break, a basic string (`"`) too, skipping the character after each backslash; the two
multi-line strings (`'''` and `"""`) run to their closing triple and keep up to two quotes that
follow it.  A string that is never closed runs to where it stops.  Everything else is a bare
word that runs up to the next character that starts a token other than a quote: keys, numbers,
booleans, dates and the pieces of a float around its point.  The text ends with an end token.

A byte-order mark at the very start is not part of the text.

* `Token` : a token, its stretch and its text.
* `tokenize` : the whole text as tokens.
-/

namespace TegraGpu.Toml

/-- The kinds of token. -/
inductive TokenKind where
  | dot
  | equals
  | comma
  | leftBracket
  | rightBracket
  | leftBrace
  | rightBrace
  | whitespace
  | comment
  | newline
  | literalString
  | basicString
  | multiLiteralString
  | multiBasicString
  | word
  | finish
  deriving DecidableEq

/-- A token: its kind, the stretch of text it covers, and that text. -/
structure Token where
  /-- What the token is. -/
  kind : TokenKind
  /-- Where it stands. -/
  span : Span
  /-- Its characters. -/
  text : List Char

/-- The size of characters in UTF-8 bytes. -/
def byteSize (cs : List Char) : Nat := cs.foldl (fun n c => n + c.utf8Size) 0

/-- Whether a character ends a bare word. -/
def endsWord (c : Char) : Bool :=
  c = '.' || c = '=' || c = ',' || c = '[' || c = ']' || c = '\x7b' || c = '\x7d' ||
    c = ' ' || c = '\t' || c = '#' || c = '\r' || c = '\n'

/-- The rest of a basic string after its opening quote, up to and with its closing quote, or up
to a line break or the end. -/
def basicBody : List Char → List Char
  | [] => []
  | '"' :: _ => ['"']
  | '\n' :: _ => []
  | '\\' :: '\\' :: r => '\\' :: '\\' :: basicBody r
  | '\\' :: '"' :: r => '\\' :: '"' :: basicBody r
  | c :: r => c :: basicBody r

/-- The rest of a literal string after its opening quote, up to and with its closing quote, or
up to a line break or the end. -/
def literalBody : List Char → List Char
  | [] => []
  | '\'' :: _ => ['\'']
  | '\n' :: _ => []
  | c :: r => c :: literalBody r

/-- Up to two more of a quote character. -/
def extraQuotes (q : Char) : List Char → List Char
  | a :: b :: _ => if a = q then (if b = q then [q, q] else [q]) else []
  | [a] => if a = q then [q] else []
  | [] => []

/-- The rest of a multi-line literal string after its opening quotes, up to and with its
closing quotes and up to two quotes after them, or to the end. -/
def multiLiteralBody : List Char → List Char
  | [] => []
  | '\'' :: '\'' :: '\'' :: r => ['\'', '\'', '\''] ++ extraQuotes '\'' r
  | c :: r => c :: multiLiteralBody r

/-- The rest of a multi-line basic string after its opening quotes, up to and with its closing
quotes and up to two quotes after them, or to the end; the character after a backslash is
skipped when it is a backslash or a quote. -/
def multiBasicBody : List Char → List Char
  | [] => []
  | '"' :: '"' :: '"' :: r => ['"', '"', '"'] ++ extraQuotes '"' r
  | '\\' :: '\\' :: r => '\\' :: '\\' :: multiBasicBody r
  | '\\' :: '"' :: r => '\\' :: '"' :: multiBasicBody r
  | c :: r => c :: multiBasicBody r

/-- The kind and the characters of the token at the start of a nonempty text. -/
def nextToken (c : Char) (r : List Char) : TokenKind × List Char :=
  match c, r with
  | '.', _ => (.dot, [c])
  | '=', _ => (.equals, [c])
  | ',', _ => (.comma, [c])
  | '[', _ => (.leftBracket, [c])
  | ']', _ => (.rightBracket, [c])
  | '\x7b', _ => (.leftBrace, [c])
  | '\x7d', _ => (.rightBrace, [c])
  | ' ', _ => (.whitespace, c :: r.takeWhile (fun d => d = ' ' || d = '\t'))
  | '\t', _ => (.whitespace, c :: r.takeWhile (fun d => d = ' ' || d = '\t'))
  | '#', _ => (.comment, c :: r.takeWhile (fun d => d ≠ '\r' && d ≠ '\n'))
  | '\n', _ => (.newline, [c])
  | '\r', '\n' :: _ => (.newline, ['\r', '\n'])
  | '\r', _ => (.newline, [c])
  | '\'', '\'' :: '\'' :: rest => (.multiLiteralString, ['\'', '\'', '\''] ++ multiLiteralBody rest)
  | '\'', _ => (.literalString, c :: literalBody r)
  | '"', '"' :: '"' :: rest => (.multiBasicString, ['"', '"', '"'] ++ multiBasicBody rest)
  | '"', _ => (.basicString, c :: basicBody r)
  | _, _ => (.word, c :: r.takeWhile (fun d => !endsWord d))

/-- Cuts a text into tokens, `pos` being the byte where it starts, at most `fuel` tokens. -/
def tokensFrom : Nat → Nat → List Char → List Token
  | _, pos, [] => [⟨.finish, ⟨pos, pos⟩, []⟩]
  | 0, pos, _ => [⟨.finish, ⟨pos, pos⟩, []⟩]
  | fuel + 1, pos, c :: r =>
    let (kind, text) := nextToken c r
    let stop := pos + byteSize text
    ⟨kind, ⟨pos, stop⟩, text⟩ :: tokensFrom fuel stop ((c :: r).drop text.length)

/-- The tokens of a whole text, after a byte-order mark at its start. -/
def tokenize (text : String) : List Token :=
  match text.toList with
  | '\uFEFF' :: rest => tokensFrom (rest.length + 1) 3 rest
  | cs => tokensFrom (cs.length + 1) 0 cs

end TegraGpu.Toml
