import ProjectSurvey.FileTree.Basic

/-! Following a path through a file tree. Links are followed wherever they stand, up to a fixed
number of them; `..` leads to the directory above the one reached, not to the part before it. -/

namespace ProjectSurvey

/-- The greatest number of bytes in a name. -/
def nameLimit : Nat := 255

/-- The number of bytes that a path must stay below. -/
def pathLimit : Nat := 4096

def linkLimit : Nat := 40

/-- Whether no name can hold a lone surrogate; some stand for bytes that are no text. -/
def isRefused (surrogate : Nat) : Bool :=
  !(0xDC80 ≤ surrogate && surrogate < 0xDD00)

/-- The number of bytes of a name or a path. A lone surrogate in it stands for one byte. -/
def systemLength (text : Text) : Nat :=
  (text.flatMap fun c => ((Text.surrogate? c).map ([·.toUInt8])).getD (Utf8.encodeChar c)).length

def Fault.ofText? (text : Text) : Option Fault :=
  match Text.unencodable? isRefused text with
  | some cause => some (.unencodable cause)
  | none => if text.contains (Char.ofNat 0) then some .nulCharacter else none

/-- One step along a path; each of them needs a directory to start from. -/
inductive Step where
  | stay
  | up
  | enter (name : Text)
  deriving DecidableEq, Repr

namespace Step

def ofPart (part : Text) : Step :=
  if part = parentPart then .up else .enter part

/-- The steps of a link's target; a slash at its end asks for a directory. -/
def ofTarget (target : Text) : List Step :=
  let parts := target.pieces '/'
  let steps := (parts.filter fun part => !part.isEmpty).map fun part =>
    if part = ".".toList then Step.stay else ofPart part
  if parts.getLast? = some [] then steps ++ [.stay] else steps

end Step

def Path.steps (path : Path) : List Step :=
  path.parts.map Step.ofPart

def startOf (current : Location) (anchor : Anchor) : Location :=
  if anchor = .here then current else []

namespace Node

/-- Takes the steps from a place; `follow` goes on behind a link. With `toNew` the last name may
be one that is not there yet. -/
def take (tree : Node) (toNew : Bool) (follow : Location → List Step → Except Fault Location)
    (here : Location) : List Step → Except Fault Location
  | [] => .ok here
  | step :: steps =>
    match tree.at? here with
    | some (.directory entries) =>
      match step with
      | .stay => tree.take toNew follow here steps
      | .up => tree.take toNew follow here.dropLast steps
      | .enter name =>
        if nameLimit < systemLength name then .error .nameTooLong
        else match childNamed? entries name with
          | none => if toNew && steps.isEmpty then .ok (here ++ [name]) else .error .missing
          | some (.link target) =>
            follow (startOf here (Path.anchorOf target)) (Step.ofTarget target ++ steps)
          | some _ => tree.take toNew follow (here ++ [name]) steps
    | some _ => .error .notDirectory
    | none => .error .missing

def follow (tree : Node) (toNew : Bool) : (links : Nat) → Location → List Step →
    Except Fault Location
  | 0 => tree.take toNew fun _ _ => .error .tooManyLinks
  | links + 1 => tree.take toNew (tree.follow toNew links)

end Node

namespace Place

/-- Faults that the text of a path alone decides. -/
def textFault? (path : Path) : Option Fault :=
  let text := path.toText
  (Fault.ofText? text).or (if pathLimit ≤ systemLength text then some .nameTooLong else none)

/-- The place that a path leads to; with `toNew` its last name may be one that is not there. -/
def locate (place : Place) (toNew : Bool) (path : Path) : Except Fault Location :=
  match textFault? path with
  | some fault => .error fault
  | none =>
    place.tree.follow toNew linkLimit (startOf place.current path.anchor) path.steps

/-- The object that a path leads to, links followed. -/
def find (place : Place) (path : Path) : Except Fault Node := do
  let location ← place.locate false path
  match place.tree.at? location with
  | some node => .ok node
  | none => .error .missing

end Place

end ProjectSurvey
