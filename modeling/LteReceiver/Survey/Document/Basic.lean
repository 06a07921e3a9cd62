import LteReceiver.Survey.Document.Scalar

/-!
# Documents

Structured text: scalars, and lists and maps of documents. The entries of a map keep their order.
-/

namespace LteReceiver

/-- A structured text. -/
inductive Document where
  | scalar (value : Scalar)
  | list (items : List Document)
  | map (entries : List (String × Document))

instance : Inhabited Document := ⟨.scalar .absent⟩

namespace Document

/-- A text. -/
def ofText (text : String) : Document :=
  .scalar ⟨text, true⟩

/-- A value that is written without quotes. -/
def ofPlain (text : String) : Document :=
  .scalar ⟨text, false⟩

/-- Whether a document stands for nothing. -/
def isNull : Document → Bool
  | .scalar value => value.isNull
  | _ => false

/-- The value of a field. -/
def get? (document : Document) (name : String) : Option Document :=
  match document with
  | .map entries => entries.lookup name
  | _ => none

/-- A map with the value of a field, in front of its other fields. What is not a map has no
fields. -/
def set (document : Document) (name : String) (value : Document) : Document :=
  match document with
  | .map entries => .map ((name, value) :: entries.filter (·.1 != name))
  | _ => .map [(name, value)]

end Document

end LteReceiver
