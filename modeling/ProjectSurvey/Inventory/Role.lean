import ProjectSurvey.Text.Case

/-! The role of a declared component, guessed from its name and the text of its file. -/

namespace ProjectSurvey

/-- A role and what speaks for it: a part of the small name, a part of the small text, or the
start of the small name. -/
structure RoleRule where
  role : Text
  nameParts : List Text
  textParts : List Text
  nameStarts : List Text

/-- The roles in the order in which they are tried. -/
def roleRules : List RoleRule := [
  ⟨"modal", ["modal"], ["modal"], []⟩,
  ⟨"button", ["button"], ["onclick"], []⟩,
  ⟨"form", ["form"], ["onsubmit"], []⟩,
  ⟨"table", ["table"], ["thead"], []⟩,
  ⟨"card", ["card"], ["card"], []⟩,
  ⟨"header", ["header"], ["nav"], []⟩,
  ⟨"footer", ["footer"], [], []⟩,
  ⟨"sidebar", ["sidebar"], [], []⟩,
  ⟨"service", ["service"], ["api"], []⟩,
  ⟨"hook", ["hook"], [], ["use"]⟩]

def defaultRole : Text := "component"

namespace RoleRule

/-- Whether a rule speaks for a small name whatever the text. -/
def fitsName (rule : RoleRule) (name : Text) : Bool :=
  Text.anyOccursIn rule.nameParts name || rule.nameStarts.any (·.isPrefixOf name)

/-- Whether a rule speaks for every component in a small text. -/
def fitsText (rule : RoleRule) (text : Text) : Bool :=
  Text.anyOccursIn rule.textParts text

end RoleRule

/-- The rules, each with whether it speaks for every component in a small text. -/
def judgedRules (text : Text) : List (RoleRule × Bool) :=
  roleRules.map fun rule => (rule, rule.fitsText text)

/-- The role of a small name by rules that are judged for its text. -/
def roleBy (judged : List (RoleRule × Bool)) (name : Text) : Text :=
  match judged.find? fun (rule, inText) => inText || rule.fitsName name with
  | some (rule, _) => rule.role
  | none => defaultRole

def roleOf (name text : Text) : Text :=
  roleBy (judgedRules text.lower) name.lower

end ProjectSurvey
