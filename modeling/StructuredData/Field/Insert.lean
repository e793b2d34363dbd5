import StructuredData.Field.Basic

/-!
# Adding fields

A site may add a field to a schema type.  It takes the place of a field with its id, and goes behind
a named field or to the end.
-/

namespace StructuredData.Field

/-- Puts a field directly behind the first one with an id, none if there is no such field. -/
def insertAfter? (new : Field) (id : Value) : List Field → Option (List Field)
  | [] => none
  | f :: rest =>
    if f.id.equals id then some (f :: new :: rest)
    else (insertAfter? new id rest).map (f :: ·)

/-- Adds a field in place of those with its id: behind the field named by `after` if there is one
among the others, else at the end; `after` is null if no field is named. -/
def insert (new : Field) (after : Value) (fields : List Field) : List Field :=
  let kept := fields.filter fun f => !f.id.equals new.id
  match if after.isNull then none else insertAfter? new after kept with
  | some placed => placed
  | none => kept ++ [new]

end StructuredData.Field
