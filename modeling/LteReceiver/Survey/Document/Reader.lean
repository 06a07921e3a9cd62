import LteReceiver.Survey.Document.Basic
import LteReceiver.Survey.Document.Lines

/-!
# Reading documents

Documents are written in the notation of YAML without its rarer parts: block lists and maps by
indentation, lists and maps in brackets (so the notation of JSON is part of it), plain and quoted
scalars, and comments. Anchors, tags, block text and plain scalars over several lines are not read.

A text with a character that is not printable is refused as a whole, also when the character stands
between quotes. A key in front of a colon has to be on one line and not longer than 1024 bytes, as
it is written.

## Termination

The readers of nested parts count down a number that starts above the length of the text; each step
takes a character of it.
-/

namespace LteReceiver

/-- Why a text cannot be read. -/
inductive ReadFault where
  | unprintable
  | unexpectedEnd
  | unexpected (found : Char)
  | invalidEscape
  | documentMark
  | longKey
  | trailingText
  | nesting
deriving DecidableEq, Repr

/-- The wording of a fault. -/
def ReadFault.message : ReadFault → String
  | unprintable => "a character is not printable"
  | unexpectedEnd => "unexpected end of text"
  | unexpected found => s!"unexpected character {repr found}"
  | invalidEscape => "invalid escape in a quoted scalar"
  | documentMark => "a document ends inside a quoted scalar"
  | longKey => "a key is too long or goes on over several lines"
  | trailingText => "text after the end of the document"
  | nesting => "nesting too deep"

/-! ## Blanks -/

/-- A place in a text, with its column. -/
structure Cursor where
  column : Nat
  chars : List Char

/-- Pass over blanks, line breaks and comments. The answer tells whether a line break was passed. -/
def Cursor.skipBlank (column : Nat) (passed comment : Bool) : List Char → Bool × Cursor
  | [] => (passed, ⟨column, []⟩)
  | c :: rest =>
    if isBreak c then skipBlank 0 true false rest
    else if comment ∨ isBlank c then skipBlank (column + 1) passed comment rest
    else if c = '#' then skipBlank (column + 1) passed true rest
    else (passed, ⟨column, c :: rest⟩)

/-- Pass over blanks, where columns do not count. -/
def skipBlank (chars : List Char) : List Char :=
  (Cursor.skipBlank 0 false false chars).2.chars

/-! ## Reading scalars -/

/-- The character that a letter after a backslash stands for. -/
def escaped? : Char → Option Char
  | '0' => some '\x00'
  | 'a' => some '\x07'
  | 'b' => some '\x08'
  | 't' => some '\t'
  | '\t' => some '\t'
  | 'n' => some '\n'
  | 'v' => some '\x0b'
  | 'f' => some '\x0c'
  | 'r' => some '\r'
  | 'e' => some '\x1b'
  | ' ' => some ' '
  | '"' => some '"'
  | '/' => some '/'
  | '\\' => some '\\'
  | 'N' => some '\u0085'
  | '_' => some '\u00a0'
  | 'L' => some '\u2028'
  | 'P' => some '\u2029'
  | _ => none

/-- A character by the hexadecimal digits of its code, when it is one. -/
def charOfCode? (digits : List Char) : Option Char := do
  let code ← Scalar.digits? 16 digits
  if code.isValidChar then some (Char.ofNat code) else none

/-- The text of a quoted scalar from its pieces. -/
def quotedText (pieces : List Piece) : Except ReadFault String :=
  if Piece.hasMark pieces then .error .documentMark else .ok (Piece.fold pieces)

/-- The rest of a scalar in double quotes; what was read so far is given in reverse. -/
def readDouble : List Char → List Piece → Except ReadFault (String × List Char)
  | [], _ => .error .unexpectedEnd
  | '"' :: rest, read => (quotedText read.reverse).map (·, rest)
  | '\\' :: 'x' :: a :: b :: rest, read =>
    match charOfCode? [a, b] with
    | some x => readDouble rest (.escaped x :: read)
    | none => .error .invalidEscape
  | '\\' :: 'u' :: a :: b :: c :: d :: rest, read =>
    match charOfCode? [a, b, c, d] with
    | some x => readDouble rest (.escaped x :: read)
    | none => .error .invalidEscape
  | '\\' :: 'U' :: a :: b :: c :: d :: e :: f :: g :: h :: rest, read =>
    match charOfCode? [a, b, c, d, e, f, g, h] with
    | some x => readDouble rest (.escaped x :: read)
    | none => .error .invalidEscape
  | '\\' :: '\r' :: '\n' :: rest, read => readDouble rest (.joined :: read)
  | '\\' :: letter :: rest, read =>
    if isBreak letter then readDouble rest (.joined :: read)
    else
      match escaped? letter with
      | some x => readDouble rest (.escaped x :: read)
      | none => .error .invalidEscape
  | c :: rest, read => readDouble rest (.plain c :: read)

/-- The rest of a scalar in single quotes, in which a quote is written twice. -/
def readSingle : List Char → List Piece → Except ReadFault (String × List Char)
  | '\'' :: '\'' :: rest, read => readSingle rest (.plain '\'' :: read)
  | '\'' :: rest, read => (quotedText read.reverse).map (·, rest)
  | c :: rest, read => readSingle rest (.plain c :: read)
  | [], _ => .error .unexpectedEnd

/-- The characters that part the items of a list or map in brackets. -/
def isFlowMark (c : Char) : Bool :=
  c = ',' ∨ c = '[' ∨ c = ']' ∨ c = '{' ∨ c = '}'

/-- Whether a plain scalar ends before a character. -/
def endsPlain (flow : Bool) (c : Char) (rest : List Char) : Bool :=
  isBreak c || (flow && isFlowMark c) ||
    (c = ':' && (startsBlank rest || (flow && rest.head?.any isFlowMark))) ||
    (isBlank c && rest.head? = some '#')

/-- A plain scalar, without the blanks after it. -/
def readPlain (flow : Bool) : List Char → List Char → Scalar × List Char
  | [], read => (⟨String.ofList (read.dropWhile isBlank).reverse, false⟩, [])
  | c :: rest, read =>
    if endsPlain flow c rest then
      (⟨String.ofList (read.dropWhile isBlank).reverse, false⟩, c :: rest)
    else readPlain flow rest (c :: read)

/-- A scalar of any kind. -/
def readScalar (flow : Bool) : List Char → Except ReadFault (Scalar × List Char)
  | [] => .error .unexpectedEnd
  | '"' :: rest => (readDouble rest []).map fun (text, rest) => (⟨text, true⟩, rest)
  | '\'' :: rest => (readSingle rest []).map fun (text, rest) => (⟨text, true⟩, rest)
  | c :: rest =>
    if isFlowMark c ∨ c = '&' ∨ c = '*' ∨ c = '!' ∨ c = '|' ∨ c = '>' ∨ c = '%' ∨ c = '@' then
      .error (.unexpected c)
    else .ok (readPlain flow (c :: rest) [])

/-- The number of bytes that characters take in a file. -/
def byteSize (chars : List Char) : Nat :=
  chars.foldr (fun char size => char.utf8Size + size) 0

/-- A scalar in front of a colon, and what follows it and the blanks after it. A key is a scalar on
one line whose colon comes within 1024 bytes. -/
def readKeyScalar (flow : Bool) (chars : List Char) : Except ReadFault (Scalar × List Char) := do
  let (key, rest) ← readScalar flow chars
  let next := skipBlank rest
  let written := chars.take (chars.length - next.length)
  if next.head? = some ':' ∧ (1024 < byteSize written ∨ written.any isBreak) then throw .longKey
  return (key, next)

/-! ## Reading lists and maps in brackets -/

mutual

/-- A part of a text in brackets. -/
def readFlow : Nat → List Char → Except ReadFault (Document × List Char)
  | 0, _ => .error .nesting
  | fuel + 1, '[' :: rest => readFlowItems fuel (skipBlank rest) []
  | fuel + 1, '{' :: rest => readFlowEntries fuel (skipBlank rest) []
  | _ + 1, chars => (readScalar true chars).map fun (value, rest) => (.scalar value, rest)

/-- The rest of a list in brackets. -/
def readFlowItems : Nat → List Char → List Document → Except ReadFault (Document × List Char)
  | 0, _, _ => .error .nesting
  | _ + 1, ']' :: rest, items => .ok (.list items.reverse, rest)
  | fuel + 1, chars, items => do
    let (item, rest) ← readFlow fuel chars
    match skipBlank rest with
    | ',' :: rest => readFlowItems fuel (skipBlank rest) (item :: items)
    | ']' :: rest => .ok (.list (item :: items).reverse, rest)
    | c :: _ => .error (.unexpected c)
    | [] => .error .unexpectedEnd

/-- The rest of a map in brackets. -/
def readFlowEntries : Nat → List Char → List (String × Document) →
    Except ReadFault (Document × List Char)
  | 0, _, _ => .error .nesting
  | _ + 1, '}' :: rest, entries => .ok (.map entries.reverse, rest)
  | fuel + 1, chars, entries => do
    let (key, rest) ← readKeyScalar true chars
    let (value, rest) ← readFlowValue fuel rest
    match skipBlank rest with
    | ',' :: rest => readFlowEntries fuel (skipBlank rest) ((key.text, value) :: entries)
    | '}' :: rest => .ok (.map ((key.text, value) :: entries).reverse, rest)
    | c :: _ => .error (.unexpected c)
    | [] => .error .unexpectedEnd

/-- The value of an entry in brackets, which may be left out. -/
def readFlowValue : Nat → List Char → Except ReadFault (Document × List Char)
  | 0, _ => .error .nesting
  | fuel + 1, ':' :: rest =>
    match skipBlank rest with
    | ',' :: rest => .ok (default, ',' :: rest)
    | '}' :: rest => .ok (default, '}' :: rest)
    | chars => readFlow fuel chars
  | _ + 1, chars => .ok (default, chars)

end

/-! ## Reading lists and maps by indentation -/

/-- What was read, and the start of the next line with text. -/
abbrev BlockResult := Except ReadFault (Document × Cursor)

/-- The next line with text, after a part that has to end its line. -/
def finishLine (value : Document) (chars : List Char) : BlockResult :=
  match Cursor.skipBlank 1 false false chars with
  | (_, ⟨column, []⟩) => .ok (value, ⟨column, []⟩)
  | (true, cursor) => .ok (value, cursor)
  | (false, ⟨_, c :: _⟩) => .error (.unexpected c)

/-- Whether a list item starts. -/
def startsItem : List Char → Bool
  | '-' :: rest => startsBlank rest
  | _ => false

/-- The key of a map entry at the start of a text, and what follows its colon. -/
def readKey (chars : List Char) : Except ReadFault (String × List Char) := do
  let (key, rest) ← readKeyScalar false chars
  match rest with
  | ':' :: rest => if startsBlank rest then .ok (key.text, rest) else .error (.unexpected ':')
  | c :: _ => .error (.unexpected c)
  | [] => .error .unexpectedEnd

mutual

/-- A part of a text that starts at a cursor. -/
def readBlock : Nat → Cursor → BlockResult
  | 0, _ => .error .nesting
  | fuel + 1, cursor =>
    match cursor.chars with
    | [] => .ok (default, cursor)
    | '[' :: _ | '{' :: _ => do
      let (value, rest) ← readFlow fuel cursor.chars
      finishLine value rest
    | chars =>
      if startsItem chars then readItems fuel cursor.column cursor []
      else
        match readKey chars with
        | .ok _ => readEntries fuel cursor.column cursor []
        | .error _ => do
          let (value, rest) ← readScalar false chars
          finishLine (.scalar value) rest

/-- The rest of a list whose items start at a column. -/
def readItems : Nat → Nat → Cursor → List Document → BlockResult
  | 0, _, _, _ => .error .nesting
  | fuel + 1, column, cursor, items =>
    if cursor.column = column ∧ startsItem cursor.chars then do
      let (passed, start) :=
        Cursor.skipBlank (column + 1) false false (cursor.chars.drop 1)
      if start.chars = [] ∨ (passed ∧ start.column ≤ column) then
        readItems fuel column start (default :: items)
      else
        let (item, next) ← readBlock fuel start
        readItems fuel column next (item :: items)
    else .ok (.list items.reverse, cursor)

/-- The rest of a map whose keys start at a column. -/
def readEntries : Nat → Nat → Cursor → List (String × Document) → BlockResult
  | 0, _, _, _ => .error .nesting
  | fuel + 1, column, cursor, entries =>
    if cursor.column = column ∧ cursor.chars ≠ [] ∧ !startsItem cursor.chars then do
      let (key, rest) ← readKey cursor.chars
      let (passed, start) := Cursor.skipBlank 1 false false rest
      let nested := column < start.column || (start.column == column && startsItem start.chars)
      if start.chars = [] ∨ (passed ∧ !nested) then
        readEntries fuel column start ((key, default) :: entries)
      else if passed then
        let (value, next) ← readBlock fuel start
        readEntries fuel column next ((key, value) :: entries)
      else
        let (value, rest) ← readInline fuel start.chars
        let (value, next) ← finishLine value rest
        readEntries fuel column next ((key, value) :: entries)
    else .ok (.map entries.reverse, cursor)

/-- A value on the line of its key. -/
def readInline : Nat → List Char → Except ReadFault (Document × List Char)
  | 0, _ => .error .nesting
  | fuel + 1, chars =>
    match chars with
    | '[' :: _ | '{' :: _ => readFlow fuel chars
    | _ => (readScalar false chars).map fun (value, rest) => (.scalar value, rest)

end

/-- A text without the mark that can stand at its start. -/
def dropStartMark : List Char → List Char
  | '-' :: '-' :: '-' :: rest => if startsBlank rest then rest else '-' :: '-' :: '-' :: rest
  | chars => chars

/-- The document of a text, which may start with a byte order mark. -/
def Document.read (text : String) : Except ReadFault Document := do
  if !text.toList.all isPrintable then throw .unprintable
  let chars := dropStartMark (skipBlank (text.toList.dropWhile (· = '\ufeff')))
  let (_, start) := Cursor.skipBlank 0 false false chars
  let (document, rest) ← readBlock (3 * chars.length + 3) start
  if rest.chars = [] then .ok document else .error .trailingText

end LteReceiver
