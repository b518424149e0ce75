import ImportOrder.Number.Binary64

/-! Decoded documents: the values that JSON and YAML texts stand for, sets and binary data aside. -/

namespace ImportOrder

/-- A moment of a calendar day, with its distance from universal time in seconds if one is given. -/
structure Moment where
  year : Nat
  month : Nat
  day : Nat
  hour : Nat
  minute : Nat
  second : Nat
  micro : Nat
  zone : Option Int
deriving DecidableEq, Repr

/-- A decoded document. A mapping keeps its entries in the order of their first appearance. A pair
stands in a list only, where an entry of a mapping is written for it. -/
inductive Document
  | null
  | bool (value : Bool)
  | int (value : Int)
  | real (value : Binary64)
  | text (value : String)
  | date (year month day : Nat)
  | moment (value : Moment)
  | pair (first second : Document)
  | list (items : List Document)
  | mapping (entries : List (Document × Document))
deriving Repr

instance : Inhabited Document := ⟨.null⟩

/-- The entries of a mapping. -/
abbrev Entries := List (Document × Document)

namespace Document

/-- The name of the kind of a document, as messages spell it. -/
def kindName : Document → String
  | .null => "NoneType"
  | .bool _ => "bool"
  | .int _ => "int"
  | .real _ => "float"
  | .text _ => "str"
  | .date .. => "date"
  | .moment _ => "datetime"
  | .pair .. => "tuple"
  | .list _ => "list"
  | .mapping _ => "dict"

/-- Whether a document says something: null, false, zero and everything empty say nothing. -/
def saysSomething : Document → Bool
  | .null => false
  | .bool value => value
  | .int value => value != 0
  | .real value => !value.isZero
  | .text value => value != ""
  | .list items => !items.isEmpty
  | .mapping entries => !entries.isEmpty
  | _ => true

/-- A truth value or whole number as a whole number. -/
def asInt? : Document → Option Int
  | .bool value => some (if value then 1 else 0)
  | .int value => some value
  | _ => none

/-- Whether two documents are the same key of a mapping: numbers are compared as numbers. -/
def sameKey (a b : Document) : Bool :=
  match a, b with
  | .null, .null => true
  | .text s, .text t => s == t
  | .date y m d, .date y' m' d' => y == y' && m == m' && d == d'
  | .moment s, .moment t => s == t
  | .real x, .real y => x.equals y
  -- A whole number and a floating-point number are one key if their values are equal.
  | .real x, other => other.asInt?.any x.equalsInt
  | other, .real y => other.asInt?.any y.equalsInt
  | a, b => a.asInt?.isSome && a.asInt? == b.asInt?

/-- Whether a document can be a key of a mapping. -/
def canBeKey : Document → Bool
  | .pair .. => false
  | .list _ => false
  | .mapping _ => false
  | _ => true

end Document

namespace Entries

/-- The value of a key. -/
def find? (key : Document) : Entries → Option Document
  | [] => none
  | (other, value) :: rest => if Document.sameKey key other then some value else find? key rest

/-- The value of a key that is a text. -/
def get? (name : String) (entries : Entries) : Option Document := find? (.text name) entries

/-- Give a key a value: in its place if it has one, else at the end. -/
def insert (key value : Document) : Entries → Entries
  | [] => [(key, value)]
  | (other, old) :: rest =>
    if Document.sameKey key other then (other, value) :: rest
    else (other, old) :: insert key value rest

/-- Give each key of `other` its value there. -/
def update (entries other : Entries) : Entries :=
  other.foldl (fun entries (key, value) => insert key value entries) entries

/-- The entries in which a later value of a key replaces an earlier one. -/
def ofList (entries : List (Document × Document)) : Entries := update [] entries

end Entries

end ImportOrder
