import Herald.Diagnostic
import Herald.Json.Shape
import Herald.Text.Quoted
import Herald.Text.Terminal

/-!
# Console lines

A diagnostic is written out either as text, the message first and then each field
with its value, or as one JSON object. Quoted values have quotation marks in the
text form; in JSON every text has them. The message of the text form can come from
anywhere, so nothing in it steers the terminal.
-/

namespace Herald

/-- A field's value in the text form. -/
def FieldValue.text : FieldValue → String
  | .quoted s => Text.quoted s
  | .bare s => s
  | .number n => toString n

/-- A field's value in the JSON form. -/
def FieldValue.json : FieldValue → List Char
  | .quoted s | .bare s => Json.quote s
  | .number n => Json.writeNat n

namespace Diagnostic

/-- The message and the fields as text. -/
def text (d : Diagnostic) : String :=
  Text.defuse d.message ++ String.join (d.fields.map fun f => s!" {f.1}={f.2.text}")

/-- The message and the fields as a JSON object. -/
def fieldsJson (d : Diagnostic) : List Char :=
  Json.writeObject (("message", Json.quote d.message) :: d.fields.map fun f => (f.1, f.2.json))

/-- A whole line of text, with the time. -/
def textLine (time : String) (d : Diagnostic) : String :=
  s!"{time} {d.severity.label} {d.target}: {d.text}"

/-- A whole line of JSON, with the time. -/
def jsonLine (time : String) (d : Diagnostic) : String :=
  String.ofList <| Json.writeObject
    [("timestamp", Json.quote time), ("level", Json.quote d.severity.label),
     ("fields", d.fieldsJson), ("target", Json.quote d.target)]

end Diagnostic

end Herald
