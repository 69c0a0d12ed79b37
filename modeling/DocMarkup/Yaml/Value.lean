import DocMarkup.Calendar
import DocMarkup.Number.Read
import DocMarkup.Number.Shortest
import DocMarkup.Text.Quoted
import DocMarkup.Yaml.Fault

/-!
# YAML values

The values that a YAML document can stand for. Mappings keep the order of their keys. Equality of
keys is numerical across truth values, integers and floating-point numbers.

Main definitions:

- {lit}`Yaml.Value`: the values.
- {lit}`Yaml.Value.sameKey`: equality of keys, also the meaning of {lit}`==`.
- {lit}`Yaml.Value.isTruthy`: the values that count as given.
- {lit}`Yaml.Value.items?`, {lit}`Yaml.Value.entries?`: the parts of collections.
- {lit}`Yaml.Value.text`: how a value reads as text.
- {lit}`Yaml.Value.written`: the same, unless a part cannot be written.
-/

namespace DocMarkup
namespace Yaml

/-- A value. A {lit}`loop` is a collection with a number under which it is met {lit}`again` inside
itself. -/
inductive Value where
  | null
  | bool (b : Bool)
  | int (n : Int)
  | float (x : Binary64)
  | str (s : Text)
  | bytes (bytes : List UInt8)
  | date (d : Date)
  | datetime (t : DateTime)
  | list (items : List Value)
  | pair (first second : Value)
  | map (entries : List (Value × Value))
  | set (members : List Value)
  | loop (number : Nat) (collection : Value)
  | again (number : Nat) (isMapping : Bool)
  deriving Inhabited

namespace Value

/-! ## Keys -/

/-- The integer that a value is equal to, for integers and truth values. -/
def asInt? : Value → Option Int
  | bool b => some (if b then 1 else 0)
  | int n => some n
  | _ => none

/-- Whether two values are the same key. Collections are no keys. -/
def sameKey (v w : Value) : Bool :=
  match asInt? v, asInt? w with
  | some m, some n => m == n
  | some m, none => match w with
    | float y => y.sameInt m
    | _ => false
  | none, some n => match v with
    | float x => x.sameInt n
    | _ => false
  | none, none => match v, w with
    | null, null => true
    | float x, float y => x.same y
    | str s, str t => s == t
    | bytes s, bytes t => s == t
    | date d, date e => d == e
    | datetime t, datetime u => t.same u
    | _, _ => false

instance : BEq Value := ⟨sameKey⟩

/-- Whether a value counts as given: no null, no zero, nothing empty. -/
def isTruthy : Value → Bool
  | null => false
  | bool b => b
  | int n => n != 0
  | float x => !x.isZero
  | str s => !s.isEmpty
  | bytes s => !s.isEmpty
  | list items => !items.isEmpty
  | map entries => !entries.isEmpty
  | set members => !members.isEmpty
  | loop _ v => isTruthy v
  | _ => true

/-- The value unless it counts as not given. -/
def given? (v : Value) : Option Value := if v.isTruthy then some v else none

/-! ## Loops -/

mutual

/-- A value with a whole collection put where it is met again. -/
def unrolled (number : Nat) (whole : Value) : Value → Value
  | again n isMapping => if n = number then whole else again n isMapping
  | loop n v => if n = number then loop n v else loop n (unrolled number whole v)
  | list items => list (unrolledAll number whole items)
  | pair first second => pair (unrolled number whole first) (unrolled number whole second)
  | map entries => map (unrolledEntries number whole entries)
  | v => v

/-- The values of a list with a whole collection put where it is met again. -/
def unrolledAll (number : Nat) (whole : Value) : List Value → List Value
  | [] => []
  | item :: items => unrolled number whole item :: unrolledAll number whole items

/-- The entries of a mapping with a whole collection put where it is met again. -/
def unrolledEntries (number : Nat) (whole : Value) : List (Value × Value) → List (Value × Value)
  | [] => []
  | (key, value) :: entries =>
    (key, unrolled number whole value) :: unrolledEntries number whole entries

end

/-- A value whose parts can be taken out of it: a loop is unrolled once. -/
def opened : Value → Value
  | loop n v => unrolled n (loop n v) v
  | v => v

/-- The items of a list. -/
def items? (v : Value) : Option (List Value) :=
  match v.opened with
  | list items => some items
  | _ => none

/-- The entries of a mapping. -/
def entries? (v : Value) : Option (List (Value × Value)) :=
  match v.opened with
  | map entries => some entries
  | _ => none

/-! ## Terms -/

/-- The day as a term of a collection. -/
def dateTerm (d : Date) : Text :=
  "datetime.date(".toList ++
    ", ".toList.intercalate [Text.ofNat d.year, Text.ofNat d.month, Text.ofNat d.day] ++ [')']

/-- The distance from universal time as a term of a collection. -/
def offsetTerm (offset : Int) : Text :=
  if offset = 0 then "datetime.timezone.utc".toList
  else
    let seconds := Text.ofNat ((offset.emod 1440).toNat * 60)
    "datetime.timezone(datetime.timedelta(".toList ++
      (if offset < 0 then "days=-1, ".toList else []) ++ "seconds=".toList ++ seconds ++ "))".toList

/-- The moment as a term of a collection; seconds and microseconds that are zero are left out. -/
def datetimeTerm (t : DateTime) : Text :=
  let fields := [t.date.year, t.date.month, t.date.day, t.hour, t.minute]
  let fields :=
    if t.microsecond ≠ 0 then fields ++ [t.second, t.microsecond]
    else if t.second ≠ 0 then fields ++ [t.second] else fields
  let zone := match t.offset with
    | none => []
    | some offset => ["tzinfo=".toList ++ offsetTerm offset]
  "datetime.datetime(".toList ++
    ", ".toList.intercalate (fields.map Text.ofNat ++ zone) ++ [')']

/-- What stands for a collection that is met again inside itself. -/
def dots (isMapping : Bool) : Text :=
  if isMapping then "\x7b...\x7d".toList else "[...]".toList

/-- Whether a value is a mapping. -/
def isMapping : Value → Bool
  | map _ => true
  | _ => false

mutual

/-- A value as a term of a collection, inside the collections with some numbers. -/
def termWithin (within : List Nat) : Value → Text
  | null => "None".toList
  | bool b => if b then "True".toList else "False".toList
  | int n => Number.intText n
  | float x => x.text
  | str s => Text.quoted s
  | bytes s => Text.quotedBytes s
  | date d => dateTerm d
  | datetime t => datetimeTerm t
  | list items => '[' :: ", ".toList.intercalate (termsWithin within items) ++ [']']
  | pair first second =>
    '(' :: termWithin within first ++ ", ".toList ++ termWithin within second ++ [')']
  | map entries => '\x7b' :: ", ".toList.intercalate (entryTermsWithin within entries) ++ ['\x7d']
  | set [] => "set()".toList
  | set (member :: members) =>
    '\x7b' :: ", ".toList.intercalate (termWithin within member :: termsWithin within members) ++
      ['\x7d']
  | loop n v => if within.contains n then dots v.isMapping else termWithin (n :: within) v
  | again _ isMapping => dots isMapping

/-- The terms of a list. -/
def termsWithin (within : List Nat) : List Value → List Text
  | [] => []
  | item :: items => termWithin within item :: termsWithin within items

/-- The terms of the entries of a mapping. -/
def entryTermsWithin (within : List Nat) : List (Value × Value) → List Text
  | [] => []
  | (key, value) :: entries =>
    (termWithin within key ++ ": ".toList ++ termWithin within value) ::
      entryTermsWithin within entries

end

/-! ## Text -/

mutual

/-- Whether no integer of a value has too many digits to be written. -/
def isWritable : Value → Bool
  | int n => n.natAbs < 10 ^ Number.maxDigits
  | list items => areWritable items
  | pair first second => isWritable first && isWritable second
  | map entries => areEntriesWritable entries
  | set members => areWritable members
  | loop _ v => isWritable v
  | _ => true

/-- Whether all values of a list can be written. -/
def areWritable : List Value → Bool
  | [] => true
  | item :: items => isWritable item && areWritable items

/-- Whether all keys and values of a mapping can be written. -/
def areEntriesWritable : List (Value × Value) → Bool
  | [] => true
  | (key, value) :: entries => isWritable key && isWritable value && areEntriesWritable entries

end

/-- How a value reads as text. -/
def text : Value → Text
  | str s => s
  | date d => d.text
  | datetime t => t.text ' '
  | v => termWithin [] v

/-- How a value reads as text, if it can be written. -/
def written (v : Value) : Except Fault Text :=
  if v.isWritable then .ok v.text else .error .longInteger

end Value
end Yaml
end DocMarkup
