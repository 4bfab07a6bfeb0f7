import ProjectSurvey.FileTree.Access

/-! The canonical form of a path: absolute, without `..`, and without links as far as it leads to
something. A path need not lead anywhere; its parts beyond what is there are kept. -/

namespace ProjectSurvey

structure Homes where
  /-- The home of the user who asks. -/
  own : Text
  others : List (Text × Text)

inductive CanonicalFault where
  /-- The path begins at the home of someone who is not known. -/
  | unknownHome
  /-- Links lead back to themselves on the way to this path. -/
  | linkLoop (path : Path)
  /-- Too many links lead to further links. -/
  | tooDeep
  /-- The path is one that no file can have, or starts from a current directory that has been removed. -/
  | unusable (fault : Fault)
  deriving DecidableEq, Repr

/-- The home that a first part such as `~` or `~name` stands for. -/
def Homes.of? (homes : Homes) (part : Text) : Option Text :=
  match part with
  | ['~'] => some (let home := homes.own.trimEnd (· = '/'); if home.isEmpty then ['/'] else home)
  | '~' :: name => (homes.others.find? (·.1 == name)).map (·.2)
  | _ => none

/-- The path with a home in place of its first part, if that stands for one. -/
def Path.atHome (homes : Homes) (path : Path) : Except CanonicalFault Path :=
  match path.anchor, path.parts with
  | .here, first :: rest =>
    if first.head? != some '~' then .ok path
    else match Fault.ofText? (first.drop 1), homes.of? first with
      | some fault, _ => .error (.unusable fault)
      | none, some home =>
        if home.head? = some '~' then .error .unknownHome else .ok ((Path.ofText home).descend rest)
      | none, none => .error .unknownHome
  | _, _ => .ok path

/-- A path joined with what is written after it; that takes its place if it begins with a slash. -/
def joinWritten (path rest : Text) : Text :=
  if rest.head? = some '/' then rest
  else if path.getLast? = some '/' then path ++ rest
  else path ++ '/' :: rest

inductive Reached where
  | settled (path : Path)
  /-- A link is met again while it is being followed. It is left as it is, with what is written after
  it. -/
  | stuck (written : Text)
  deriving DecidableEq, Repr

def Reached.path : Reached → Path
  | .settled path => path
  | .stuck written => .ofText written

/-- The links that have been met, the last one first, and where each leads; nowhere yet while it is
being followed. -/
abbrev MetLinks := List (Path × Option Path)

namespace Path

def above (path : Path) : Path :=
  match path.anchor, path.parts.getLast? with
  | .here, none => path.descend [parentPart]
  | .here, some last =>
    if last = parentPart then path.descend [parentPart] else path.parent
  | _, _ => path.parent

end Path

namespace Place

def linkAt? (place : Place) (path : Path) : Except CanonicalFault (Option Text) :=
  match textFault? path with
  | some fault => if fault.isOfText then .error (.unusable fault) else .ok none
  | none =>
    match place.tree.at? (path.absoluteParts place.current) with
    | some (.link target) => .ok (some target)
    | _ => .ok none

/-- Goes along the names that are written after a path; `enter` follows the link at a path. -/
def goAlong (place : Place)
    (enter : MetLinks → Path → Text → Except CanonicalFault (MetLinks × Reached)) :
    MetLinks → Path → List Text → Except CanonicalFault (MetLinks × Reached)
  | met, here, [] => .ok (met, .settled here)
  | met, here, name :: rest =>
    if name.isEmpty || name = ".".toList then place.goAlong enter met here rest
    else if name = parentPart then place.goAlong enter met here.above rest
    else do
      let next := here.descend [name]
      match ← place.linkAt? next, met.find? (·.1 == next) with
      | none, _ => place.goAlong enter met next rest
      | some _, some (_, some path) => place.goAlong enter met path rest
      | some _, some (_, none) =>
        .ok (met, .stuck (joinWritten next.toText (Text.join "/" rest)))
      | some target, none =>
        match ← enter met next target with
        | (met, .settled path) => place.goAlong enter ((next, some path) :: met) path rest
        | (met, .stuck written) => .ok (met, .stuck (joinWritten written (Text.join "/" rest)))

/-- Follows what is written after a path through links that lead to further links, at most `depth`
deep. -/
def reach (place : Place) : (depth : Nat) → MetLinks → Path → Text →
    Except CanonicalFault (MetLinks × Reached)
  | 0, _, _, _ => .error .tooDeep
  | depth + 1, met, here, written =>
    place.goAlong
      (fun met next target => place.reach depth ((next, none) :: met) next.parent target)
      met (if written.head? = some '/' then ⟨.root, []⟩ else here) (written.pieces '/')

def reachLimit : Nat := 950

def canonical (place : Place) (path : Path) : Except CanonicalFault Path := do
  let (_, reached) ← place.reach reachLimit [] ⟨.here, []⟩ path.toText
  let found ← (place.absolute reached.path).mapError .unusable
  match place.find found with
  | .error .tooManyLinks => .error (.linkLoop found)
  | .error fault => if fault.isOfText then .error (.unusable fault) else .ok found
  | .ok _ => .ok found

end Place

def CanonicalFault.message : CanonicalFault → Text
  | .unknownHome => "Could not determine home directory."
  | .linkLoop path => "Symlink loop from " ++ path.toText.quoted
  | .tooDeep => "maximum recursion depth exceeded"
  | .unusable fault => fault.systemText

end ProjectSurvey
