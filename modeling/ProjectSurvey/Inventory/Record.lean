import ProjectSurvey.Json.Basic

/-! The records that a survey of source text collects. -/

namespace ProjectSurvey

structure Component where
  name : Text
  file : Text
  role : Text
  deriving DecidableEq, Repr

structure Hook where
  name : Text
  file : Text
  deriving DecidableEq, Repr

structure Import where
  package : Text
  file : Text
  statement : Text
  deriving DecidableEq, Repr

/-- Everything that extraction finds, each kind in the order of the text. -/
structure Inventory where
  components : List Component
  hooks : List Hook
  imports : List Import
  deriving DecidableEq, Repr

def Component.toJson (component : Component) : Json :=
  .object [("name", .str component.name), ("file", .str component.file),
    ("type", .str component.role)]

def Hook.toJson (hook : Hook) : Json :=
  .object [("name", .str hook.name), ("file", .str hook.file)]

def Import.toJson (record : Import) : Json :=
  .object [("module", .str record.package), ("file", .str record.file),
    ("statement", .str record.statement)]

end ProjectSurvey
