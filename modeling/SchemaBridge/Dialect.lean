/-!
# Dialects

JSON schema comes in several dialects, each of which is known by the address of its own schema.
Documents are written in draft 4. A schema may say which dialect it is written in, and then the
keywords of that dialect count in it, and no others.

* `ofIdentifier?_identifier`: a dialect is found by its identifier.
-/

namespace SchemaBridge

/-- The dialects of JSON schema. -/
inductive Dialect where
  | draft3 | draft4 | draft6 | draft7 | draft2019 | draft2020
deriving DecidableEq

namespace Dialect

/-- All the dialects. -/
def all : List Dialect := [draft3, draft4, draft6, draft7, draft2019, draft2020]

/-- The host at which the schemas of all dialects are. -/
def host : String := "json-schema.org"

/-- The scheme and the directory of the addresses that belong to a dialect. -/
def directory : Dialect → String × String
  | draft3 => ("http", "/draft-03/")
  | draft4 => ("http", "/draft-04/")
  | draft6 => ("http", "/draft-06/")
  | draft7 => ("http", "/draft-07/")
  | draft2019 => ("https", "/draft/2019-09/")
  | draft2020 => ("https", "/draft/2020-12/")

/-- The address of something that belongs to a dialect. -/
def address (dialect : Dialect) (name : String) : String :=
  dialect.directory.1 ++ "://" ++ host ++ dialect.directory.2 ++ name

/-- The identifier of a dialect: the address of its schema. -/
def identifier (dialect : Dialect) : String := dialect.address "schema"

/-- The dialect with a given identifier. -/
def ofIdentifier? (text : String) : Option Dialect := all.find? (·.identifier == text)

/-- The identifier that documents give for draft 4, in which they are written. -/
def draft04 : String := "http://json-schema.org/draft-04/schema#"

/-- A reference stands alone: what stands beside it does not count. -/
def refStandsAlone : Dialect → Bool
  | draft3 | draft4 | draft6 | draft7 => true
  | draft2019 | draft2020 => false

/-- An integral binary64 number is an integer. -/
def hasWholeFloats : Dialect → Bool
  | draft3 | draft4 => false
  | draft6 | draft7 | draft2019 | draft2020 => true

theorem ofIdentifier?_identifier (dialect : Dialect) :
    ofIdentifier? dialect.identifier = some dialect := by
  cases dialect <;> decide

end Dialect

/-- The rules that a schema is read by: those of a dialect, or those of a registry, which are those
of draft 4 and what is registered beyond it. -/
inductive Rules where
  | registered
  | plain (dialect : Dialect)
deriving DecidableEq

/-- The dialect of which the rules are. -/
def Rules.dialect : Rules → Dialect
  | registered => .draft4
  | plain dialect => dialect

end SchemaBridge
