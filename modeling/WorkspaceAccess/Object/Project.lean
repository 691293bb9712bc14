import WorkspaceAccess.Object.Kind
import WorkspaceAccess.Object.Meta

/-!
# Project Objects

A project that was taken on by the foundation. It is given a workspace of its own, which the
controllers record in its annotations: the name, the phase and, once there is one, the address. The
specification is what people have entered; the controllers read it with the object and never change
it.

Absent fields of the specification are written as `null`, and a specification may also be written as
an array of its fields in order, which is a property of records (`Json.record?`) and not of
projects. Objects of these kinds are read whatever kind and version they name.
-/

namespace WorkspaceAccess

open Json (optional? orDefault? required?)

/-- What is known of a project, as it was entered by people. -/
structure ProjectSpec where
  /-- The name that people read. -/
  displayName : Option String := none
  /-- How far the project has come in the foundation, if it is known. -/
  maturity : Option String := none
  /-- Where the project is developed. -/
  repositories : List String := []
  deriving DecidableEq

namespace ProjectSpec

/-- The specification that a value describes. -/
def ofJson? (j : Json) : Option ProjectSpec := do
  let field ← j.record? ["displayName", "maturity", "repositories"] 2
  return {
    displayName := ← optional? Json.string? (field "displayName")
    maturity := ← optional? Json.string? (field "maturity")
    repositories := ← orDefault? [] (Json.list? Json.string?) (field "repositories") }

/-- The specification as a value. -/
def toJson (s : ProjectSpec) : Json :=
  .object [
    ("displayName", .ofOption s.displayName),
    ("maturity", .ofOption s.maturity),
    ("repositories", .ofStrings s.repositories)]

end ProjectSpec

/-- A project: its metadata and its specification. -/
structure Project where
  /-- The metadata, with the annotations that describe its workspace. -/
  metadata : ObjectMeta
  /-- What is known of it. -/
  spec : ProjectSpec

namespace Project

/-- The project that a value describes. -/
def ofJson? (j : Json) : Option Project := do
  let field ← j.record? ["metadata", "spec"] 2
  return {
    metadata := ← required? ObjectMeta.ofJson? (field "metadata")
    spec := ← required? ProjectSpec.ofJson? (field "spec") }

/-- The project as a value. -/
def toJson (p : Project) : Json :=
  .object [
    ("apiVersion", .string ObjectKind.project.apiVersion),
    ("kind", .string ObjectKind.project.name),
    ("metadata", p.metadata.toJson),
    ("spec", p.spec.toJson)]

/-- The annotations of the project, none for absent ones. -/
def annotations (p : Project) : Annotations := p.metadata.annotationsD

/-- The project with annotations added to its own; under keys that it has already the new values
count. -/
def annotate (p : Project) (annotations : Annotations) : Project :=
  { p with metadata := { p.metadata with
      annotations := some (p.annotations.merge annotations) } }

end Project

end WorkspaceAccess
