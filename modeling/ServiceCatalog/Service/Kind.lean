import ServiceCatalog.Text.Blank
import ServiceCatalog.Text.Lowercase

/-!
# Kinds of service

A service is a document store, a relational store or a generic service. Names are read in any letter case.
-/

namespace ServiceCatalog.Service

/-- The kind of a service. -/
inductive Kind where
  | documentStore
  | relationalStore
  | generic
deriving DecidableEq, Repr

namespace Kind

/-- The name of a kind. -/
def name : Kind → String
  | documentStore => "document-store"
  | relationalStore => "relational-store"
  | generic => "generic"

/-- All kinds. -/
def all : List Kind := [documentStore, relationalStore, generic]

/-- Every name of a kind. -/
def names : List (String × Kind) :=
  all.map (fun k => (k.name, k)) ++
    [("mongodb", documentStore), ("postgresql", relationalStore), ("postgres", relationalStore)]

/-- A text as it is compared with the names: trimmed and in lower case. -/
def normalize (text : String) : String := Text.lower (Text.trim text)

/-- The kind that a text names. -/
def ofText? (text : String) : Option Kind := names.lookup (normalize text)

end Kind

end ServiceCatalog.Service
