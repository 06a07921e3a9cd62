/-!
# Lines of a structured text

Which characters a structured text may hold, which of them are blanks and which end a line, and how
a text that was broken into lines is put together again.

A quoted scalar may go on over several lines. Its lines are folded (`Piece.fold`): blanks around a
line break are dropped, one break becomes a space, and of several breaks the first one is dropped.
The line and paragraph separators of Unicode also end lines, but they are always kept. What was
written as an escape is text, whatever it stands for.
-/

namespace LteReceiver

/-! ## Characters -/

/-- Whether a character may stand in a structured text: tabs, line breaks and all characters that
are not controls, surrogates or one of the last two of the basic plane. -/
def isPrintable (c : Char) : Bool :=
  let code := c.toNat
  code = 0x09 || code = 0x0A || code = 0x0D || (0x20 ≤ code && code ≤ 0x7E) || code = 0x85 ||
    (0xA0 ≤ code && code ≤ 0xD7FF) || (0xE000 ≤ code && code ≤ 0xFFFD) || 0x10000 ≤ code

/-- A space or a tab. -/
def isBlank (c : Char) : Bool :=
  c = ' ' || c = '\t'

/-- The separators of lines and paragraphs, which end a line and are kept. -/
def isSeparator (c : Char) : Bool :=
  c = '\u2028' || c = '\u2029'

/-- The characters that end a line. -/
def isBreak (c : Char) : Bool :=
  c = '\n' || c = '\r' || c = '\u0085' || isSeparator c

/-- Whether a text ends, or goes on with a blank or a line break. -/
def startsBlank : List Char → Bool
  | [] => true
  | c :: _ => isBlank c || isBreak c

/-! ## Folding -/

/-- The line breaks among blanks and breaks. A separator stays what it is, any other break is a line
feed, and a carriage return with its line feed is one break. -/
def lineBreaks : List Char → List Char
  | [] => []
  | '\r' :: '\n' :: rest => '\n' :: lineBreaks rest
  | c :: rest =>
    if isSeparator c then c :: lineBreaks rest
    else if isBreak c then '\n' :: lineBreaks rest
    else lineBreaks rest

/-- What blanks and line breaks in a row stand for: themselves if there is no break; a space for a
single line feed; else the breaks, without the first one if it is a line feed. -/
def foldBlanks (blanks : List Char) : List Char :=
  match lineBreaks blanks with
  | [] => blanks
  | ['\n'] => [' ']
  | '\n' :: more => more
  | breaks => breaks

/-- A piece of a quoted scalar. -/
inductive Piece where
  /-- A character as it is. -/
  | plain (c : Char)
  /-- A character that was written as an escape. -/
  | escaped (c : Char)
  /-- The end of a line after a backslash, which joins the line with the next one. -/
  | joined
deriving DecidableEq, Repr

namespace Piece

/-- The text of pieces, with its lines folded. The blanks and breaks just read are given in reverse,
and whether a joined line end stands before them. -/
def foldFrom (joined : Bool) (blanks : List Char) (pieces : List Piece) : List Char :=
  let before := if joined then lineBreaks blanks.reverse else foldBlanks blanks.reverse
  match pieces with
  | [] => before
  | .plain c :: rest =>
    if isBlank c || isBreak c then foldFrom joined (c :: blanks) rest
    else before ++ c :: foldFrom false [] rest
  | .escaped c :: rest => before ++ c :: foldFrom false [] rest
  | .joined :: rest => before ++ foldFrom true [] rest

/-- The text of pieces, with its lines folded. -/
def fold (pieces : List Piece) : String :=
  String.ofList (foldFrom false [] pieces)

/-- Whether pieces start with the mark of the start or of the end of a document. -/
def startMark : List Piece → Bool
  | .plain a :: .plain b :: .plain c :: .plain d :: _ =>
    ([a, b, c] = ['-', '-', '-'] || [a, b, c] = ['.', '.', '.']) && (isBlank d || isBreak d)
  | _ => false

/-- Whether a line of pieces starts with the mark of a document. It ends the document, even between
quotes. The first line of a quoted scalar starts with a quote. -/
def hasMark : List Piece → Bool
  | [] => false
  | .plain c :: rest => (isBreak c && startMark rest) || hasMark rest
  | .escaped _ :: rest => hasMark rest
  | .joined :: rest => startMark rest || hasMark rest

end Piece

end LteReceiver
