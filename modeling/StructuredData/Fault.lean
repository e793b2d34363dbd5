/-!
# Faults

Why a computation on site data comes to no result.  A fault is a cause; its wording is
`Fault.message`, and `Fault.category` says of what kind it is.
-/

namespace StructuredData

/-- What may be added to a registry before it is frozen. -/
inductive Registration where
  | schemaType (name : String)
  | fields (type : String)
  | contextExtender
  | visibilityVeto
  deriving Repr, DecidableEq

/-- The causes for which there is no result. -/
inductive Fault where
  /-- No kind of page has this name. -/
  | unknownPageKind (name : String)
  /-- Rule options cannot be narrowed to this. -/
  | unknownConsiderType (name : String)
  /-- There is no shared property of this name. -/
  | unknownProperty (name : String)
  /-- The registry takes no more registrations. -/
  | frozen (attempt : Registration)
  /-- A mapping lacks a key that it has to have. -/
  | missingKey (key : String)
  /-- An object was expected. -/
  | notAnObject
  /-- A text was expected. -/
  | notAText
  /-- A moment was expected. -/
  | notAMoment
  /-- The content source does not know about this. -/
  | notOffered
  /-- A schema type was declared without this. -/
  | undeclared (member : String)
  /-- A record lacks a field that has no default. -/
  | missingField (name : String)
  /-- A record has no field of this name. -/
  | unknownField (name : String)
  /-- A record is described by something that is no mapping. -/
  | notARecord
  /-- A value that holds no items was to be gone through. -/
  | notIterable
  /-- A list or mapping was to serve as a key. -/
  | notAKey
  /-- A value that is neither text nor number was to be read as a whole number. -/
  | notANumber
  /-- A value of this kind has no written form. -/
  | notWritable
  /-- Values of different kinds cannot be put in order or added. -/
  | mismatched
  /-- A limit is no number. -/
  | badLimit
  /-- A path is no text. -/
  | badPath
  /-- The text denotes no whole number. -/
  | badInteger (text : String)
  /-- A number is too large to be cut to a whole one. -/
  | tooLarge
  /-- A whole number has more digits than one may be written with. -/
  | tooLong
  /-- The text denotes no moment. -/
  | badDate (text : String)
  /-- A list was to be read as a mapping and an item of it is no pair. -/
  | badPair
  /-- There is no kind of field of this name. -/
  | unknownFieldKind
  /-- A file to be written lies in no directory. -/
  | noDirectory (path : String)
  /-- A file to be written lies in another file. -/
  | notADirectory (path : String)
  /-- A file holds no text in the expected notation. -/
  | unreadable (path : String)
  /-- A file holds a character that no data file may hold. -/
  | badCharacter (path : String)
  deriving Repr, DecidableEq

/-- The broad kinds of faults. -/
inductive Fault.Category where
  | badValue
  | outOfRange
  | badType
  | noSuchMember
  | noSuchKey
  | frozen
  | noSuchFile
  | noSuchDirectory
  | badNotation
  | badCharacter
  deriving Repr, DecidableEq

namespace Registration

/-- What a refused registration was going to do and what refused it. -/
def refusal : Registration → String
  | schemaType name => "register schema type '" ++ name ++ "': schema catalog is frozen"
  | fields type => "extend fields of '" ++ type ++ "': schema catalog is frozen"
  | contextExtender => "add context extender: registry is frozen"
  | visibilityVeto => "add visibility veto: registry is frozen"

end Registration

namespace Fault

/-- The kind of a fault. -/
def category : Fault → Category
  | unknownPageKind _ | unknownConsiderType _ | badInteger _ | badDate _ | badPair
  | tooLong | unknownFieldKind => .badValue
  | missingField _ | unknownField _ | notARecord | notIterable | notAKey | notANumber
  | notWritable | mismatched | badLimit | badPath => .badType
  | notAnObject | notAText | notAMoment | notOffered | undeclared _ => .noSuchMember
  | unknownProperty _ | missingKey _ => .noSuchKey
  | frozen _ => .frozen
  | noDirectory _ => .noSuchFile
  | notADirectory _ => .noSuchDirectory
  | unreadable _ => .badNotation
  | badCharacter _ => .badCharacter
  | tooLarge => .outOfRange

/-- The wording of a fault, where it has one of its own. -/
def message : Fault → Option String
  | unknownPageKind name => some ("Unknown page kind: " ++ name)
  | unknownConsiderType name => some ("Unknown consider type: " ++ name)
  | unknownProperty name => some ("Unknown helper property: " ++ name)
  | frozen attempt => some ("Cannot " ++ attempt.refusal)
  | _ => none

end Fault

end StructuredData
