import TypedQuery.Field.Basic

/-!
Field declarations: a table with a type word and options. Some types have a second word, and one
word declares a tag field of several values.
-/
set_option autoImplicit false

namespace TypedQuery

/-- The type that a word declares, and whether the field holds several values. -/
def declaredType? (word : String) : Option (FieldType × Bool) :=
  match word with
  | "text" => some (.text, false)
  | "tag" => some (.tag, false)
  | "string" => some (.tag, false)
  | "string[]" => some (.tag, true)
  | "number" => some (.number, false)
  | "boolean" => some (.boolean, false)
  | "geo" => some (.geo, false)
  | "point" => some (.geo, false)
  | "date" => some (.date, false)
  | "vector" => some (.vector, false)
  | "binary" => some (.vector, false)
  | _ => none

/-- A field from its name and declaration. The type word is looked at first, then the vector
declaration, then the names. -/
def Field.ofDeclaration (name declaration : Value) : Result Field := do
  let entries ← declaration.entries
  let get (key : String) (absent : Value) : Value := (Value.lookup? entries key).getD absent
  match declaredType? (lowerCase (← (get "type" (.text "")).display)) with
  | none => refuse (.schema (.unknownType name (← (get "type" .null).literal)))
  | some (type, multi) =>
    let vector := get "vector" .null
    let params ← if vector.truthy then some <$> VectorParams.ofDeclaration vector else pure none
    Field.ofArguments [
      ("name", name),
      ("type", .text type.label),
      ("store_name", get "alias" (get "field" .null)),
      ("sortable", .bool (get "sortable" (.bool false)).truthy),
      ("separator", get "separator" (.text "|")),
      ("multi", .bool multi)] params

end TypedQuery
