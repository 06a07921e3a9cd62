import LteReceiver.Survey.Document.Basic

/-!
# Documents as JSON

The text of a document in the notation of JSON, on one line and without blanks. A quoted scalar is
written between quotes, any other one as it is, and fields keep their order.
-/

namespace LteReceiver

namespace Document

/-! ## Scalars -/

/-- A character between quotes: a quote, a backslash and the control characters below the space are
written as escapes. -/
def jsonChar (c : Char) : List Char :=
  match c with
  | '"' => ['\\', '"']
  | '\\' => ['\\', '\\']
  | '\x08' => ['\\', 'b']
  | '\t' => ['\\', 't']
  | '\n' => ['\\', 'n']
  | '\x0c' => ['\\', 'f']
  | '\r' => ['\\', 'r']
  | c =>
    if c.toNat < 32 then
      ['\\', 'u', '0', '0', Nat.digitChar (c.toNat / 16), Nat.digitChar (c.toNat % 16)]
    else [c]

/-- A text between quotes. -/
def jsonText (text : String) : List Char :=
  '"' :: text.toList.flatMap jsonChar ++ ['"']

/-! ## Lists and maps -/

mutual

/-- The characters of a document. -/
def jsonChars : Document → List Char
  | .scalar ⟨text, true⟩ => jsonText text
  | .scalar ⟨text, false⟩ => text.toList
  | .list [] => ['[', ']']
  | .list (first :: rest) => '[' :: (jsonChars first ++ jsonItems rest)
  | .map [] => ['{', '}']
  | .map ((name, value) :: rest) =>
    '{' :: (jsonText name ++ ':' :: (jsonChars value ++ jsonEntries rest))

/-- The items of a list after the first one, and its end. -/
def jsonItems : List Document → List Char
  | [] => [']']
  | item :: rest => ',' :: (jsonChars item ++ jsonItems rest)

/-- The entries of a map after the first one, and its end. -/
def jsonEntries : List (String × Document) → List Char
  | [] => ['}']
  | (name, value) :: rest =>
    ',' :: (jsonText name ++ ':' :: (jsonChars value ++ jsonEntries rest))

end

/-- The text of a document in the notation of JSON. -/
def json (document : Document) : String :=
  String.ofList document.jsonChars

end Document

end LteReceiver
