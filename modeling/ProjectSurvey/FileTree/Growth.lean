import ProjectSurvey.FileTree.Basic

/-! What a file tree has gained since an earlier time at which nothing was taken from it: new files,
and bytes at the ends of old ones. -/

namespace ProjectSurvey

/-- A directory in which others stand one inside the other, each named by a part of a place. -/
def Node.nested (location : Location) : Node :=
  location.foldr (fun name node => .directory [(name, node)]) (.directory [])

namespace Node

mutual

/-- The files that are new or longer than in an earlier tree, each with the bytes it has gained. -/
def growth (earlier : Option Node) : Node → List (Location × Bytes)
  | .file content =>
    match earlier with
    | some (.file known) =>
      let gained := content.drop known.length
      if gained.isEmpty then [] else [([], gained)]
    | _ => [([], content)]
  | .link _ => []
  | .directory entries =>
    growthOf (match earlier with | some (.directory known) => known | _ => []) entries

def growthOf (earlier : List (Text × Node)) : List (Text × Node) → List (Location × Bytes)
  | [] => []
  | (name, child) :: others =>
    (child.growth (childNamed? earlier name)).map (fun (location, gained) =>
      (name :: location, gained)) ++ growthOf earlier others

end

end Node

end ProjectSurvey
