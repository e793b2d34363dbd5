import StructuredData.Assoc
import StructuredData.Fault
import StructuredData.Value.Scalar

/-!
# Values

Site data, stored schemas and rendered documents are trees of values.  Records and templates hold
whatever the site has stored, so each way to look into a value says what happens when it is of
another kind.
-/

namespace StructuredData

/-- A tree of values.  The keys of an object are distinct and in order. -/
inductive Value where
  | scalar (a : Scalar)
  | list (items : List Value)
  | object (fields : List (Scalar × Value))
  deriving Inhabited

/-- The entries of an object. -/
abbrev Fields := List (Scalar × Value)

/-- The value under a text key. -/
def Fields.get? (e : Fields) (key : String) : Option Value := e.lookup (Scalar.text key)

namespace Value

/-- What is not there. -/
@[match_pattern] abbrev null : Value := scalar .null

/-- A truth value. -/
@[match_pattern] abbrev bool (b : Bool) : Value := scalar (.bool b)

/-- A whole number. -/
@[match_pattern] abbrev int (n : Int) : Value := scalar (.int n)

/-- A float. -/
@[match_pattern] abbrev float (x : Float) : Value := scalar (.float x)

/-- A text. -/
@[match_pattern] abbrev text (s : String) : Value := scalar (.text s)

/-- A moment. -/
@[match_pattern] abbrev moment (t : Moment) : Value := scalar (.moment t)

instance : Coe String Value := ⟨text⟩

instance : Coe Bool Value := ⟨bool⟩

/-- Whether a value counts as given: not null, false, zero or empty. -/
def truthy : Value → Bool
  | scalar a => a.truthy
  | list items => !items.isEmpty
  | object fields => !fields.isEmpty

/-- The value if it counts as given, else another one. -/
def orElse (v w : Value) : Value := if v.truthy then v else w

theorem truthy_orElse {v w : Value} (h : w.truthy = true) : (v.orElse w).truthy = true := by
  unfold orElse
  split
  · assumption
  · exact h

/-- Whether a value is a given text. -/
def isText (s : String) : Value → Bool
  | text t => t == s
  | _ => false

theorem isText_iff {v : Value} {s : String} : v.isText s = true ↔ v = .text s := by
  unfold isText
  split <;> simp_all

/-- Whether a value is a list or an object. -/
def isContainer : Value → Bool
  | list _ | object _ => true
  | scalar _ => false

/-- Whether a value is null. -/
def isNull : Value → Bool
  | null => true
  | _ => false

theorem isNull_iff {v : Value} : v.isNull = true ↔ v = .null := by
  unfold isNull
  split
  · exact iff_of_true rfl rfl
  · exact iff_of_false Bool.false_ne_true ‹_›

/-- A text, or null if there is none. -/
def ofText? : Option String → Value
  | some s => text s
  | none => null

/-- A whole number, or null if there is none. -/
def ofInt? : Option Int → Value
  | some n => int n
  | none => null

/-! ## Looking into a value -/

/-- The value under a key of an object, null if the key is missing. -/
def member (key : String) : Value → Except Fault Value
  | object fields => .ok ((Fields.get? fields key).getD null)
  | _ => .error .notAnObject

/-- The entries of an object. -/
def entries : Value → Except Fault Fields
  | object fields => .ok fields
  | _ => .error .notAnObject

/-- What a value consists of: the items of a list, the characters of a text, the keys of an
object. -/
def items : Value → Except Fault (List Value)
  | list items => .ok items
  | text s => .ok (s.toList.map fun c => text (String.ofList [c]))
  | object fields => .ok (fields.map fun e => scalar e.1)
  | _ => .error .notIterable

/-- The key that a value is. -/
def key : Value → Except Fault Scalar
  | scalar a => .ok a
  | _ => .error .notAKey

/-- The value that a mapping holds under a value. -/
def lookupKey {α : Type} (m : List (Scalar × α)) (v : Value) : Except Fault (Option α) :=
  v.key.map fun a => m.lookup a

/-! ## Numbers -/

/-- The whole number nearest to a float in the direction of zero. -/
def truncate (x : Float) : Except Fault Int :=
  match Binary.ofFloat? x with
  | some b => .ok (if x < 0 then -(b.floor : Int) else b.floor)
  | none => .error (if x.isNaN then .badInteger (floatText x) else .tooLarge)

/-- A value as a whole number: texts are read, floats cut, truth values count as one and zero. -/
def toInteger : Value → Except Fault Int
  | bool b => .ok (if b then 1 else 0)
  | int n => .ok n
  | float x => truncate x
  | text s =>
    match readInteger s with
    | some n => .ok n
    | none => .error (.badInteger s)
  | _ => .error .notANumber

/-- The whole number that a value denotes, if it is one. -/
def asInt? : Value → Option Int
  | scalar a => a.meaning.whole?
  | _ => none

/-- The whole number that a value stands for as a key. -/
def asIntKey (v : Value) : Except Fault (Option Int) := v.key.map fun a => a.meaning.whole?

end Value

end StructuredData
