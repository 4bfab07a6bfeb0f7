import ProjectSurvey.Config
import ProjectSurvey.Proofs.CanonicalPaths

/-! Which file the settings of a path come from. The path is made canonical first, so that what it leads to counts
and not how it is written: a link to a file is taken for one by the name of that file. -/

namespace ProjectSurvey

def Config.ofBytes (root : Path) (file : Text) (bytes : Bytes) : Except ConfigFault Config := do
  let text ← (Utf8.decode bytes).mapError .undecodable
  Config.ofText root file text.unifyNewlines

theorem Path.name_descend (path : Path) (name : Text) : (path.descend [name]).name = name := by
  simp [Path.name, Path.descend]

theorem Path.isPart_of_atHome {homes : Homes} {text : Text} {path : Path}
    (expanded : (Path.ofText text).atHome homes = .ok path) : ∀ part ∈ path.parts, Path.IsPart part := by
  have written : ∀ part ∈ (Path.ofText text).parts, Path.IsPart part := fun _ => Path.isPart_of_mem_partsOf
  rw [Path.atHome] at expanded
  split at expanded
  · next first rest anchor parts =>
    split at expanded
    · cases expanded
      exact written
    · split at expanded
      · cases expanded
      · split at expanded
        · cases expanded
        · cases expanded
          intro part member
          rcases List.mem_append.mp member with home | later
          · exact Path.isPart_of_mem_partsOf home
          · exact written part (parts ▸ List.mem_cons_of_mem _ later)
      · cases expanded
  · cases expanded
    exact written

namespace Place

variable {place : Place} {homes : Homes} {path file : Path} {location : Location}

/-- Settings are read from a file, and are the standard ones where there is none. -/
theorem loadConfig_of_configFile (resolved : place.configFile homes path = .ok file) :
    place.loadConfig homes path = match place.find file with
      | .ok (.file bytes) => Config.ofBytes file.parent file.name bytes
      | .error .nameTooLong => .error (.inaccessible .nameTooLong)
      | _ => .ok (.standard file.parent) := by
  rw [loadConfig, resolved]
  simp only [isFile, leadsTo, readBytes, bind, Except.bind, Except.mapError]
  cases found : place.find file with
  | ok node => cases node <;> rfl
  | error fault =>
    by_cases long : fault = .nameTooLong
    · subst long
      rfl
    · have absent : fault.isAbsence = true := by
        rw [← Bool.not_eq_false]
        exact mt (find_not_absence found).mp long
      simp only [absent, if_true]
      cases fault <;> first | rfl | exact absurd rfl long

theorem contains_configExtensions {ending : Text} :
    configExtensions.contains ending = true ↔ ending = ".yml" ∨ ending = ".yaml" := by
  rw [List.contains_iff_mem, configExtensions, List.mem_cons, List.mem_singleton]

theorem find_beneath_file {bytes : Bytes} {name : Text} (located : place.locate false path = .ok location)
    (found : place.tree.at? location = some (.file bytes)) (accepted : textFault? (path.descend [name]) = none) :
    place.find (path.descend [name]) = .error .notDirectory := by
  obtain ⟨left, onward⟩ := Node.follow_append place.tree linkLimit (startOf place.current path.anchor) path.steps
  have further := onward [Step.ofPart name]
  rw [(locate_eq_ok.mp located).2] at further
  have stops : place.locate false (path.descend [name]) = .error .notDirectory := by
    simp only [locate, accepted, descend_steps]
    refine further.trans ?_
    change place.tree.follow false left location _ = _
    rw [Node.follow_eq_take, Node.take_cons, Node.shapeAt?_eq_some.mpr ⟨_, found, rfl⟩]
    rfl
  simp only [find, stops, bind, Except.bind]

section

variable {text : Text} (named : place.tree.everyName isFileName = true)
  (expanded : (Path.ofText text).atHome homes = .ok path) (located : place.locate false path = .ok location)
  (sees : place.SeesLinks path.start path.parts)
  (short : systemLength ((Path.ofLocation location).descend [configName]).toText < pathLimit)

include named expanded located sees short

theorem canonical_and_find {node : Node} (found : place.tree.at? location = some node)
    (real : ∀ target, node ≠ .link target) :
    place.canonical path = .ok (.ofLocation location) ∧ place.find (.ofLocation location) = .ok node := by
  have fits : systemLength (Path.ofLocation location).toText < pathLimit := by
    cases location with
    | nil => decide
    | cons first others =>
      rw [Path.toText_descend (List.cons_ne_nil first others), systemLength_append] at short
      omega
  refine ⟨canonical_eq named (Path.isPart_of_atHome expanded) located found real sees, ?_⟩
  rw [find_ofLocation named found real, if_pos fits]

theorem configFile_of_file {bytes : Bytes} (found : place.tree.at? location = some (.file bytes)) :
    place.configFile homes (.ofText text) =
      .ok (if configExtensions.contains (Path.ofLocation location).suffix then .ofLocation location
        else (Path.ofLocation location).descend [configName]) := by
  obtain ⟨canonical, leads⟩ := canonical_and_find named expanded located sees short found nofun
  simp only [configFile, expanded, canonical, isDirectory, leadsTo, leads, bind, Except.bind, Except.mapError]
  split <;> rfl

theorem configFile_of_directory {entries : List (Text × Node)}
    (found : place.tree.at? location = some (.directory entries)) :
    place.configFile homes (.ofText text) = .ok ((Path.ofLocation location).descend [configName]) := by
  obtain ⟨canonical, leads⟩ := canonical_and_find named expanded located sees short found nofun
  simp only [configFile, expanded, canonical, isDirectory, leadsTo, leads, bind, Except.bind, Except.mapError]
  split <;> rfl

theorem find_beneath_location {bytes : Bytes} (found : place.tree.at? location = some (.file bytes)) :
    place.find ((Path.ofLocation location).descend [configName]) = .error .notDirectory := by
  obtain ⟨-, leads⟩ := canonical_and_find named expanded located sees short found nofun
  obtain ⟨there, leadsThere, stands⟩ := find_eq_ok.mp leads
  have config : ∀ c ∈ configName, isNameable c = true := List.all_eq_true.mp (by decide)
  have nameable : ((Path.ofLocation location).descend [configName]).IsNameable := by
    refine List.forall_mem_append.mpr ⟨fun name member => ?_, List.forall_mem_singleton.mpr config⟩
    exact (isFileName_iff.mp ((Node.everyName_of_at? named found).1 name member)).2.1
  exact find_beneath_file leadsThere stands (textFault?_eq_none.mpr ⟨Path.isNameable_iff.mp nameable, short⟩)

end

/-- The settings for a path come from what it leads to, links followed. For a file they come from its bytes exactly if
its own name, which need not be the one that the path ends in, has one of the two extensions, and are the standard
ones otherwise. For a directory they come from the configuration file that is found in it, and are the standard ones
if there is no such file, unless that cannot be looked for because a name is too long. -/
theorem loadConfig_by_location {text : Text} (named : place.tree.everyName isFileName = true)
    (expanded : (Path.ofText text).atHome homes = .ok path) (located : place.locate false path = .ok location)
    (sees : place.SeesLinks path.start path.parts)
    (short : systemLength ((Path.ofLocation location).descend [configName]).toText < pathLimit) :
    let found := Path.ofLocation location
    (∀ bytes, place.tree.at? location = some (.file bytes) → place.loadConfig homes (.ofText text) =
      if found.suffix = ".yml" ∨ found.suffix = ".yaml" then Config.ofBytes found.parent found.name bytes
      else .ok (.standard found)) ∧
    ∀ entries, place.tree.at? location = some (.directory entries) → place.loadConfig homes (.ofText text) =
      match place.find (found.descend [configName]) with
      | .ok (.file bytes) => Config.ofBytes found configName bytes
      | .error .nameTooLong => .error (.inaccessible .nameTooLong)
      | _ => .ok (.standard found) := by
  intro found
  refine ⟨fun bytes stands => ?_, fun entries stands => ?_⟩
  · have resolved := configFile_of_file named expanded located sees short stands
    by_cases told : configExtensions.contains found.suffix = true
    · rw [if_pos told] at resolved
      obtain ⟨-, leads⟩ := canonical_and_find named expanded located sees short stands nofun
      rw [loadConfig_of_configFile resolved, leads, if_pos (contains_configExtensions.mp told)]
    · rw [if_neg told] at resolved
      have beneath := find_beneath_location named expanded located sees short stands
      rw [loadConfig_of_configFile resolved, beneath, Path.parent_descend,
        if_neg (mt contains_configExtensions.mpr told)]
  · have resolved := configFile_of_directory named expanded located sees short stands
    rw [loadConfig_of_configFile resolved, Path.parent_descend, Path.name_descend]

/-- A link without an extension leads to the settings of the file that it leads to. -/
theorem loadConfig_by_location_link :
    let bytes := Utf8.encode "verbose: true"
    let place : Place := ⟨.directory [("a.yml", .file bytes), ("b", .link "d/../a.yml"), ("d", .directory [])], []⟩
    let homes : Homes := ⟨"/", []⟩
    place.loadConfig homes (.ofText "b") = Config.ofBytes ⟨.root, []⟩ "a.yml" bytes ∧
      place.loadConfig homes (.ofText "d") = .ok (.standard ⟨.root, ["d"]⟩) := by
  intro bytes place homes
  have named : place.tree.everyName isFileName = true := by decide +kernel
  have behind : place.SeesLinks ⟨.here, []⟩ ["d", "..", "a.yml"] :=
    .enter (by decide) (fun _ => nofun) (.up (.enter (by decide) (fun _ => nofun) .done))
  have sees : place.SeesLinks (Path.ofText "b").start (Path.ofText "b").parts :=
    .link (by decide) rfl (by decide) behind
  have located : place.locate false (.ofText "b") = .ok ["a.yml"] := rfl
  obtain ⟨ofFile, -⟩ := loadConfig_by_location named
    (rfl : (Path.ofText "b").atHome homes = .ok (.ofText "b")) located sees (by decide)
  have seesDirectory : place.SeesLinks (Path.ofText "d").start (Path.ofText "d").parts :=
    .enter (by decide) (fun _ => nofun) .done
  have locatedDirectory : place.locate false (.ofText "d") = .ok ["d"] := rfl
  obtain ⟨-, ofDirectory⟩ := loadConfig_by_location named
    (rfl : (Path.ofText "d").atHome homes = .ok (.ofText "d")) locatedDirectory seesDirectory (by decide)
  refine ⟨(ofFile bytes rfl).trans ?_, (ofDirectory [] rfl).trans ?_⟩
  · rfl
  · rfl

/-- The settings in a file may be passed over although the path that leads to it has one of the two extensions. -/
theorem loadConfig_misses_linked_file :
    ¬ ∀ (place : Place) (homes : Homes) (text content : Text) (path : Path) (location : Location) (data : Yaml.Data)
      (pairs : List (Yaml.Value × Yaml.Value)),
      (Path.ofText text).suffix = ".yml" ∨ (Path.ofText text).suffix = ".yaml" →
      (Path.ofText text).atHome homes = .ok path → place.locate false path = .ok location →
      place.tree.at? location = some (.file (Utf8.encode content)) →
      (Yaml.Data.ofText content.unifyNewlines).toOption = some data → data.heap.pairs? data.root = some pairs →
      place.loadConfig homes (.ofText text) =
        Config.ofBytes (Path.ofLocation location).parent (Path.ofLocation location).name (Utf8.encode content) := by
  intro always
  let place : Place :=
    ⟨.directory [("settings", .file (Utf8.encode "verbose: true")), ("a.yml", .link "settings")], []⟩
  have mapping : ((Yaml.Data.ofText (Text.unifyNewlines "verbose: true")).toOption.bind fun data =>
      data.heap.pairs? data.root).isSome = true := by decide +kernel
  obtain ⟨pairs, found⟩ := Option.isSome_iff_exists.mp mapping
  obtain ⟨data, read, root⟩ := Option.bind_eq_some_iff.mp found
  have same := always place ⟨"/", []⟩ "a.yml" "verbose: true" (.ofText "a.yml") ["settings"] data pairs (.inl rfl)
    rfl rfl rfl read root
  have passed : (place.loadConfig ⟨"/", []⟩ (.ofText "a.yml")).toOption.map (·.verbose) = some false := by
    decide +kernel
  have told : (Config.ofBytes ⟨.root, []⟩ "settings" (Utf8.encode "verbose: true")).toOption.map (·.verbose) =
      some true := by decide +kernel
  rw [same] at passed
  cases passed.symm.trans told

end Place

end ProjectSurvey
