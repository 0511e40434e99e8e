import SeedCatalog.Text.Basic

/-!
# Values of a document

A document is a table.  A table has its entries in the order in which their keys first came, each
key once.  Numbers with a fraction, dates and times are kept as they are written.
-/

namespace SeedCatalog

/-- A value of a document, or of a setting that does not come from a document. -/
inductive Value where
  /-- No value; no document has it. -/
  | null
  | boolean (b : Bool)
  | integer (n : Int)
  /-- A number with a fraction or an exponent, an infinity, or no number. -/
  | decimal (written : Text)
  /-- A date, a time or both. -/
  | moment (written : Text)
  | string (text : Text)
  | array (items : List Value)
  | table (entries : List (Text × Value))
  deriving Inhabited

namespace Value

mutual

/-- Values are the same when they are built in the same way. -/
def decEq : (first second : Value) → Decidable (first = second)
  | .null, second => by
      cases second with
      | null => exact isTrue rfl
      | _ => exact isFalse nofun
  | .boolean a, second => by
      cases second with
      | boolean b => exact decidable_of_iff (a = b) (by simp)
      | _ => exact isFalse nofun
  | .integer a, second => by
      cases second with
      | integer b => exact decidable_of_iff (a = b) (by simp)
      | _ => exact isFalse nofun
  | .decimal a, second => by
      cases second with
      | decimal b => exact decidable_of_iff (a = b) (by simp)
      | _ => exact isFalse nofun
  | .moment a, second => by
      cases second with
      | moment b => exact decidable_of_iff (a = b) (by simp)
      | _ => exact isFalse nofun
  | .string a, second => by
      cases second with
      | string b => exact decidable_of_iff (a = b) (by simp)
      | _ => exact isFalse nofun
  | .array a, second => by
      cases second with
      | array b =>
          have := decEqItems a b
          exact decidable_of_iff (a = b) (by simp)
      | _ => exact isFalse nofun
  | .table a, second => by
      cases second with
      | table b =>
          have := decEqEntries a b
          exact decidable_of_iff (a = b) (by simp)
      | _ => exact isFalse nofun

/-- Lists of values are the same when they are so value by value. -/
def decEqItems : (first second : List Value) → Decidable (first = second)
  | [], [] => isTrue rfl
  | [], _ :: _ => isFalse nofun
  | _ :: _, [] => isFalse nofun
  | a :: as, b :: bs =>
      have := decEq a b
      have := decEqItems as bs
      decidable_of_iff (a = b ∧ as = bs) (by simp)

/-- Entries are the same when they are so key by key and value by value, in the same order. -/
def decEqEntries : (first second : List (Text × Value)) → Decidable (first = second)
  | [], [] => isTrue rfl
  | [], _ :: _ => isFalse nofun
  | _ :: _, [] => isFalse nofun
  | (key, a) :: as, (key', b) :: bs =>
      have := decEq a b
      have := decEqEntries as bs
      decidable_of_iff ((key = key' ∧ a = b) ∧ as = bs) (by simp)

end

instance : DecidableEq Value :=
  decEq

end Value

namespace Toml

/-- Why a text is not taken for a document. -/
inductive Refusal where
  /-- The text breaks a rule of documents. -/
  | malformed
  /-- An integer with more digits than an integer is read with. -/
  | longInteger (digits : Nat)
  /-- A value inside too many others. -/
  | deepValue
  deriving DecidableEq, Repr

/-- What a reader read, where reading nothing breaks a rule of documents. -/
def orMalformed {α : Type} : Option α → Except Refusal α
  | some a => .ok a
  | none => .error .malformed

/-- The entries of a table, in the order in which their keys first came. -/
abbrev Entries := List (Text × Value)

/-- The value of a key. -/
def Entries.get? (key : Text) : Entries → Option Value
  | [] => none
  | entry :: rest => if entry.1 = key then some entry.2 else Entries.get? key rest

/-- Give a key a value; a new key goes to the end. -/
def Entries.set (key : Text) (value : Value) : Entries → Entries
  | [] => [(key, value)]
  | entry :: rest =>
      if entry.1 = key then (key, value) :: rest else entry :: Entries.set key value rest

/-- Change the entries of the table at the end of a path.  Tables that are missing on the way are
made.  An array of tables on the way stands for its last table, if `throughArrays` allows it; any
other value blocks the way. -/
def Entries.changeAt (throughArrays : Bool) (change : Entries → Option Entries) :
    (path : List Text) → Entries → Option Entries
  | [], entries => change entries
  | key :: path, entries =>
      match entries.get? key with
      | none => (Entries.changeAt throughArrays change path []).map fun inner =>
          entries.set key (.table inner)
      | some (.table inner) => (Entries.changeAt throughArrays change path inner).map fun inner =>
          entries.set key (.table inner)
      | some (.array items) =>
          match throughArrays, items.getLast? with
          | true, some (.table inner) =>
              (Entries.changeAt throughArrays change path inner).map fun inner =>
                entries.set key (.array (items.dropLast ++ [.table inner]))
          | _, _ => none
      | some _ => none

/-- Add an entry at the end of a path, unless it is there. -/
def Entries.addAt (throughArrays : Bool) (path : List Text) (key : Text) (value : Value)
    (entries : Entries) : Option Entries :=
  entries.changeAt throughArrays
    (fun inner => if (inner.get? key).isSome then none else some (inner.set key value)) path

/-- The value at the end of a path through tables. -/
def Entries.find? : (path : List Text) → Entries → Option Value
  | [], entries => some (.table entries)
  | [key], entries => entries.get? key
  | key :: path, entries =>
      match entries.get? key with
      | some (.table inner) => Entries.find? path inner
      | _ => none

end Toml

end SeedCatalog

