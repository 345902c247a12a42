import Mathlib.Data.Rat.Floor
import GreenIsland.Qt.Basic

/-! Qt's JSON values, and how they convert.

A value that is not of the asked type converts to the type's empty value.  Numbers
are exact.  A `QVariantMap` made from an object converts its members more freely
(`variantToBool`, `variantToInt`, `variantToString`); what Qt reads of a string and
writes of a number is a parameter there (`QtNumbers`). -/

namespace GreenIsland

/-- `QJsonValue`; an object lists its members. -/
inductive QJsonValue
  | null
  | bool (b : Bool)
  | double (x : ℚ)
  | string (s : String)
  | array (values : List QJsonValue)
  | object (members : List (String × QJsonValue))

abbrev QJsonObject := List (String × QJsonValue)

/-- `QJsonDocument`; `null` is the document of what could not be parsed. -/
inductive QJsonDocument
  | null
  | array (values : List QJsonValue)
  | object (members : QJsonObject)

/-- `QJsonDocument::object` -/
def QJsonDocument.toObject : QJsonDocument → QJsonObject
  | .object members => members
  | _ => []

def QJsonDocument.isObject : QJsonDocument → Bool
  | .object _ => true
  | _ => false

namespace QJsonObject

/-- `none` is the undefined value. -/
def value (o : QJsonObject) (key : String) : Option QJsonValue := o.lookup key

def contains (o : QJsonObject) (key : String) : Bool := (o.value key).isSome

/-- The members are kept in the order of their keys. -/
def insert : QJsonObject → String → QJsonValue → QJsonObject
  | [], key, v => [(key, v)]
  | (key', v') :: o, key, v =>
    if key < key' then (key, v) :: (key', v') :: o
    else if key = key' then (key, v) :: o
    else (key', v') :: insert o key v

theorem value_cons_of_ne {key key' : String} (h : key ≠ key') (v : QJsonValue) (o : QJsonObject) :
    value ((key', v) :: o) key = value o key := by
  unfold value
  rw [List.lookup_cons, beq_eq_false_iff_ne.2 h]

@[simp] theorem value_insert_self (o : QJsonObject) (key : String) (v : QJsonValue) :
    (o.insert key v).value key = some v := by
  induction o with
  | nil => exact List.lookup_cons_self
  | cons member o ih =>
    obtain ⟨key', v'⟩ := member
    unfold insert
    split_ifs with hlt heq
    · exact List.lookup_cons_self
    · exact List.lookup_cons_self
    · rw [value_cons_of_ne heq, ih]

theorem value_insert_of_ne (o : QJsonObject) {key key' : String} (h : key' ≠ key) (v : QJsonValue) :
    (o.insert key v).value key' = o.value key' := by
  induction o with
  | nil => exact value_cons_of_ne h v []
  | cons member o ih =>
    obtain ⟨k, w⟩ := member
    unfold insert
    split_ifs with hlt heq
    · exact value_cons_of_ne h v _
    · rw [value_cons_of_ne h, value_cons_of_ne (heq ▸ h)]
    · by_cases hk : key' = k
      · rw [hk]
        exact List.lookup_cons_self.trans List.lookup_cons_self.symm
      · rw [value_cons_of_ne hk, value_cons_of_ne hk, ih]

end QJsonObject

/-! ## Conversions -/

namespace QJsonValue

def toObject : Option QJsonValue → QJsonObject
  | some (.object members) => members
  | _ => []

def toArray : Option QJsonValue → List QJsonValue
  | some (.array values) => values
  | _ => []

def toBool (v : Option QJsonValue) (default : Bool) : Bool :=
  match v with
  | some (.bool b) => b
  | _ => default

def toString : Option QJsonValue → String
  | some (.string s) => s
  | _ => ""

/-- `QString::toLongLong` and `QString::number`. -/
structure QtNumbers where
  toLongLong : String → Int
  number : ℚ → String

/-- `QVariant::toBool` -/
def variantToBool : Option QJsonValue → Bool
  | some (.bool b) => b
  | some (.double x) => x != 0
  | some (.string s) => !(s.toLower == "0" || s.toLower == "false" || s.toLower == "")
  | _ => false

/-- `QVariant::toInt`; a number is rounded first. -/
def variantToInt (qt : QtNumbers) : Option QJsonValue → Int
  | some (.bool b) => b.toNat
  | some (.double x) => qint32 ⌊x + 1 / 2⌋
  | some (.string s) => qint32 (qt.toLongLong s)
  | _ => 0

/-- `QVariant::toString` -/
def variantToString (qt : QtNumbers) : Option QJsonValue → String
  | some (.bool b) => if b then "true" else "false"
  | some (.double x) => qt.number x
  | some (.string s) => s
  | _ => ""

end QJsonValue

end GreenIsland
