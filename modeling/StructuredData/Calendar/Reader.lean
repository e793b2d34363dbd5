import StructuredData.Calendar.Moment

/-!
# Reading moments

A date is `YYYY-MM-DD`, `YYYYMMDD`, `YYYY-Www`, `YYYYWww`, `YYYY-Www-D` or `YYYYWwwD`.  One
character of any kind parts it from a time `HH`, `HH:MM` or `HH:MM:SS`, all with or without colons,
with a fraction of a second, and `Z` or a signed offset of the same form.
-/

namespace StructuredData.Calendar

/-- The value of an ASCII digit. -/
def digit? (c : Char) : Option Nat :=
  if '0' ≤ c ∧ c ≤ '9' then some (c.toNat - '0'.toNat) else none

/-- The number that the first `n` characters denote, all of which are digits, and what follows. -/
def takeNumber : Nat → Nat → List Char → Option (Nat × List Char)
  | 0, acc, cs => some (acc, cs)
  | _ + 1, _, [] => none
  | n + 1, acc, c :: rest => (digit? c).bind fun d => takeNumber n (10 * acc + d) rest

/-! ## Dates -/

/-- The length of the date at the head of a text of at least seven characters.  A date by week
without dashes has a weekday if the digits after the year number are an odd count too long to be
part of a time. -/
def dateLength (cs : List Char) : Option Nat :=
  let n := cs.length
  if n = 7 then some 7
  else if cs[4]? = some '-' then
    if cs[5]? = some 'W' then
      if cs[8]? = some '-' then
        if n = 9 then none
        else if ((cs[10]?).bind digit?).isSome then some 8 else some 10
      else some 8
    else some 10
  else if cs[4]? = some 'W' then
    let last := 7 + ((cs.drop 7).takeWhile fun c => (digit? c).isSome).length
    if last < 9 then some last else some (if last % 2 = 0 then 7 else 8)
  else some 8

/-- Reads a date that fills a text. -/
def readDate (cs : List Char) : Option (Nat × Nat × Nat) := do
  let (year, rest) ← takeNumber 4 0 cs
  let dashed := rest.head? = some '-'
  let rest := if dashed then rest.drop 1 else rest
  let dash := fun (cs : List Char) =>
    if dashed then if cs.head? = some '-' then some (cs.drop 1) else none else some cs
  match rest with
  | 'W' :: rest =>
    let (week, rest) ← takeNumber 2 0 rest
    if rest.isEmpty then ofWeek year week 1
    else
      let (weekday, rest) ← takeNumber 1 0 (← dash rest)
      if rest.isEmpty then ofWeek year week weekday else none
  | rest =>
    let (month, rest) ← takeNumber 2 0 rest
    let (day, rest) ← takeNumber 2 0 (← dash rest)
    if rest.isEmpty then some (year, month, day) else none

/-! ## Times -/

/-- Hour, minute, second and microsecond. -/
structure Clock where
  hour : Nat := 0
  minute : Nat := 0
  second : Nat := 0
  micro : Nat := 0

/-- Reads the digits of a fraction of a second; those beyond the sixth are cut.  The flag tells
whether other characters follow them. -/
def readFraction (cs : List Char) : Option (Nat × Bool) := do
  let n := min cs.length 6
  let (value, rest) ← takeNumber n 0 cs
  let rest := rest.dropWhile fun c => (digit? c).isSome
  some (value * Nat.pow 10 (6 - n), !rest.isEmpty)

/-- Reads the parts of a time that follow the `i`-th, `colons` telling whether colons part them.
The flag tells whether characters were left over at the end: one of ASCII after the last part, or
any after the fraction. -/
def readParts (parts : List (Nat → Clock → Clock)) (first colons : Bool) (clock : Clock)
    (cs : List Char) : Option (Clock × Bool) :=
  match parts with
  | [] => (readFraction cs).map fun (micro, excess) => ({ clock with micro }, excess)
  | put :: parts => do
    let (value, rest) ← takeNumber 2 0 cs
    let clock := put value clock
    match rest with
    | [] => some (clock, false)
    | c :: rest =>
      let colons := if first then c = ':' else colons
      if rest.isEmpty ∧ c.toNat < 0x80 then some (clock, true)
      else if colons ∧ c = ':' then readParts parts false colons clock rest
      else if c = '.' ∨ c = ',' then
        (readFraction rest).map fun (micro, excess) => ({ clock with micro }, excess)
      else if colons then none
      else readParts parts false colons clock (c :: rest)

/-- Reads a time without offset. -/
def readClock (cs : List Char) : Option (Clock × Bool) :=
  readParts [fun n c => { c with hour := n }, fun n c => { c with minute := n },
    fun n c => { c with second := n }] true true {} cs

/-- Reads a time and its offset.  A character left over before an offset is passed over. -/
def readTime (cs : List Char) : Option (Clock × Option Int) := do
  let isMark := fun c => c = '+' || c = '-' || c = 'Z'
  let (clock, excess) ← readClock (cs.takeWhile fun c => !isMark c)
  match cs.dropWhile fun c => !isMark c with
  | [] => if excess then none else some (clock, none)
  | 'Z' :: rest => if rest.isEmpty then some (clock, some 0) else none
  | mark :: rest =>
    let (o, excess) ← readClock rest
    if excess then none
    else
      let seconds := o.hour * 3600 + o.minute * 60 + o.second
      let size : Int := if seconds = 0 then 0 else seconds * 1000000 + o.micro
      some (clock, some (if mark = '-' then -size else size))

end Calendar

/-- Reads a moment in standard form. -/
def Moment.read (s : String) : Option Moment := do
  let cs := s.toList
  if cs.length < 7 then none
  else
    let n ← Calendar.dateLength cs
    let (year, month, day) ← Calendar.readDate (cs.take n)
    let t : Moment ← match cs.drop n with
      | [] => some { year, month, day }
      | _ :: rest => do
        let (clock, offset) ← Calendar.readTime rest
        some { year, month, day, hour := clock.hour, minute := clock.minute,
               second := clock.second, micro := clock.micro, offset }
    if t.isValid then some t else none

end StructuredData
