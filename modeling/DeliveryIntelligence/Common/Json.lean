import DeliveryIntelligence.Common.Postgres

set_option autoImplicit false

/-!
# JSON values

A JSON document as `jsonb` stores it: a number is a decimal `mantissa * 10 ^ (-scale)`, and of
several members of an object with one name the last one counts. PostgreSQL rejects a document
with a NUL character in one of its strings. A parsed document may also contain a number that is
not finite, which Python reads and writes as `NaN`, `Infinity` or `-Infinity`; PostgreSQL
rejects these words.
-/

inductive Json
  | null
  | bool (value : Bool)
  | number (mantissa : Int) (scale : Nat)
  | nonFinite (word : String)
  | string (value : String)
  | array (items : List Json)
  | object (members : List (String × Json))
  deriving Repr

namespace Json

/-- `value -> name`: the member of an object, SQL `NULL` for anything else. -/
def member (name : String) : Json → Option Json
  | .object members => (members.reverse.find? fun m => m.1 = name).map Prod.snd
  | _ => none

mutual

/-- No string of the document contains a NUL character, and every number is finite. -/
def fitsJsonb : Json → Bool
  | .nonFinite _ => false
  | .string s => Postgres.fitsText s
  | .array items => itemsFitJsonb items
  | .object members => membersFitJsonb members
  | _ => true

def itemsFitJsonb : List Json → Bool
  | [] => true
  | value :: rest => fitsJsonb value && itemsFitJsonb rest

def membersFitJsonb : List (String × Json) → Bool
  | [] => true
  | (name, value) :: rest => Postgres.fitsText name && fitsJsonb value && membersFitJsonb rest

end

end Json

namespace Postgres

/-- A column typed `jsonb`. -/
def jsonbColumn {ρ : Type} (column : String) (value : ρ → Json) : Constraint ρ :=
  ⟨.columnType column, fun row => (value row).fitsJsonb⟩

end Postgres
