import PlatformArchitecture.Foundations.Json

/-!
# Input functions of the database's column types

A value bound to a parameter is written as text by the driver and read by the
input function of its column type.  These functions belong to the database;
nothing is assumed about which texts they accept.
-/

namespace PlatformArchitecture.Postgres

open PlatformArchitecture.Foundations

/-- What a column of each type holds after a value is bound to it, if its
input function accepts the value.  A `uuid` is held as its canonical text. -/
structure ColumnTypes where
  uuid : String → Option String
  integer : JsNumber → Option Int
  jsonb : Json → Option Json

/-- Columns that accept every value as it is, and every whole number. -/
def ColumnTypes.verbatim : ColumnTypes where
  uuid := some
  integer
    | .finite value => if value.den = 1 then some value.num else none
    | .infinite _ => none
  jsonb := some

/-- Columns whose documents come back as they were, but for the order of
properties and for infinities. -/
structure DocumentColumns extends ColumnTypes where
  jsonb_document : ∀ {value stored : Json}, jsonb value = some stored →
    stored.document = value.document

def DocumentColumns.verbatim : DocumentColumns where
  toColumnTypes := ColumnTypes.verbatim
  jsonb_document accepted := congrArg Json.document (Option.some.inj accepted).symm

/-- A nullable `uuid` column: `undefined ?? null` is stored as it is. -/
def ColumnTypes.nullableUuid (types : ColumnTypes) :
    Option String → Option (Option String)
  | none => some none
  | some value => (types.uuid value).map some

end PlatformArchitecture.Postgres
