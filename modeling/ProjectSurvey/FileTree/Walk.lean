import ProjectSurvey.FileTree.Access
import ProjectSurvey.Text.Order

/-! The walk through a project: every regular file below its root in a fixed order, build output
and hidden directories left out. It goes into directories however deep they are nested; a limit on the
depth of calls, such as reading JSON and following links have, is not part of it. -/

namespace ProjectSurvey

def ignoredDirectories : List Text := ["node_modules", "target", "build", "dist", "vendor"]

def isPruned (name : Text) : Bool :=
  ".".toList.isPrefixOf name || ignoredDirectories.contains name

/-- What a walk meets under one name: something to look at, or the places below a directory. -/
structure Met where
  name : Text
  below : Option (List Location)

/-- What is met in a directory: first its own leaves in the order of names, then what lies below
its directories in the order of names. -/
def arrange (met : List Met) : List Location :=
  let sorted := met.mergeSort fun a b => Text.inOrder a.name b.name
  let leaves := sorted.filterMap fun m => if m.below.isNone then some [m.name] else none
  let deeper := sorted.flatMap fun m => (m.below.getD []).map (m.name :: ·)
  leaves ++ deeper

namespace Node

mutual

/-- The places below a node that may hold a regular file, in the order of the walk. -/
def leaves : Node → List Location
  | .directory entries => arrange (meet entries)
  | _ => []
  termination_by structural node => node

/-- What is met in the entries of a directory, pruned directories left out. -/
def meet : List (Text × Node) → List Met
  | [] => []
  | (name, child) :: others =>
    match child with
    | .directory _ =>
      if isPruned name then meet others else ⟨name, some child.leaves⟩ :: meet others
    | _ => ⟨name, none⟩ :: meet others
  termination_by structural entries => entries

end

end Node

/-- The places that a walk looks at below the node that `root` leads to. Of a directory whose path is
too long to be listed there are none. -/
def Place.listed (place : Place) (root : Path) (node : Node) : List Location :=
  node.leaves.filter fun location => (place.list (root.descend location.dropLast)).isOk

/-- The regular files below the root of a project, links to regular files included. A root that
does not lead to a directory has none. -/
def Place.walk (place : Place) (root : Path) : Except Fault (List Path) :=
  match place.find root with
  | .ok node => ((place.listed root node).map root.descend).filterM place.isFile
  | .error fault => if fault.isOfText then .error fault else .ok []

end ProjectSurvey
