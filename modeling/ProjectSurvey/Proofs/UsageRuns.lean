import ProjectSurvey.Proofs.EncodedText
import ProjectSurvey.Proofs.FileContents
import ProjectSurvey.Proofs.UsageLines

/-! The usage log over whole runs. A call adds the line of its event to the file of its day, or leaves the bytes
of every file; over a run each file gets the lines of some of the calls, in their order. -/

namespace ProjectSurvey

namespace Place

variable {place between after : Place} {location : Location} {text : Text}

/-- Whether every file has the bytes that it had before. -/
def KeepsContents (place after : Place) : Prop :=
  ∀ location, after.contentAt? location = place.contentAt? location

/-- Whether the bytes of a text have come to the end of one file, which is made if need be, and every other file
has the bytes that it had before. -/
structure GrowsBy (place after : Place) (location : Location) (text : Text) : Prop where
  grown : after.contentAt? location = some ((place.contentAt? location).getD [] ++ Utf8.encode text)
  apart : ∀ other, other ≠ location → after.contentAt? other = place.contentAt? other

theorem Gains.keepsContents (gains : place.Gains after none) : place.KeepsContents after :=
  fun _ => gains.contentAt? nofun

theorem KeepsContents.growsBy (keeps : place.KeepsContents between) (grows : between.GrowsBy after location text) :
    place.GrowsBy after location text :=
  ⟨by rw [grows.grown, keeps location], fun other apart => by rw [grows.apart other apart, keeps other]⟩

/-- Files grow by one text only, unless it is empty. -/
theorem GrowsBy.unique {other : Location} {added : Text} (grows : place.GrowsBy after location text)
    (also : place.GrowsBy after other added) (something : added ≠ []) : text = added := by
  by_cases here : other = location
  · subst here
    exact Utf8.encode_injective (List.append_cancel_left (Option.some.inj (grows.grown.symm.trans also.grown)))
  · have kept := (grows.apart other here).symm.trans also.grown
    cases before : place.contentAt? other with
    | none =>
      rw [before] at kept
      cases kept
    | some content =>
      rw [before, Option.getD_some, Option.some.injEq, List.self_eq_append_right] at kept
      exact absurd (Utf8.encode_injective kept) something

/-- A text that is added to a file once it is open is added to what was in the file before. -/
theorem append_grows {path : Path} {opened : Place} (named : path.parts ≠ [])
    (done : place.openForAppending path = .ok (opened, location)) (text : Text) :
    place.GrowsBy (opened.append location (Utf8.encode text)) location text := by
  refine ⟨append_content (openForAppending_content named done) _, ?_⟩
  intro other apart
  have here : some location ≠ some other := fun same => apart (Option.some.inj same).symm
  rw [(opened.append_gains location _).contentAt? here, (openForAppending_gains named done).1.contentAt? here]

end Place

namespace UsageLog

variable {directory : Path} {occasion : Occasion} {place after : Place} {event : Event} {location : Location}

theorem write_failed {failure : Failure} (failed : write directory occasion place event = (after, some failure)) :
    place.KeepsContents after := by
  obtain ⟨-, same⟩ | ⟨-, made, gains, ⟨_, _, same⟩ | ⟨_, _, same⟩ | ⟨_, _, _, same⟩⟩ :=
    write_cases directory occasion place event
  · cases failed.symm.trans same
    exact fun _ => rfl
  · cases failed.symm.trans same
    exact gains.keepsContents
  · cases failed.symm.trans same
    exact gains.keepsContents
  · cases failed.symm.trans same

theorem write_done (done : write directory occasion place event = (after, none)) :
    ∃ location, after.locate false (fileFor directory occasion.now) = .ok location ∧
      place.GrowsBy after location (line occasion place.currentPath event) := by
  obtain ⟨-, same⟩ | ⟨-, made, gains, ⟨_, _, same⟩ | ⟨_, _, same⟩ | ⟨opened, location, openedAt, same⟩⟩ :=
    write_cases directory occasion place event
  · cases done.symm.trans same
  · cases done.symm.trans same
  · cases done.symm.trans same
  · cases done.symm.trans same
    have named := fileFor_parts directory occasion.now
    obtain ⟨opens, located⟩ := Place.openForAppending_gains named openedAt
    exact ⟨location, (opened.append_gains location _).locate_ok located,
      gains.keepsContents.growsBy (Place.append_grows named openedAt _)⟩

/-- What a call that returns has done to the files, which the note about it tells. -/
theorem record_cases {recorded : Recorded} (done : record (.daily directory) occasion place event = .ok recorded) :
    (∃ message, recorded.notes = [⟨"usage", .warning, "Failed to write usage log: " ++ message⟩] ∧
      place.KeepsContents recorded.place) ∨
    recorded.notes = [⟨"usage", .debug, event.action ++ " " ++ (Json.object event.details).render⟩] ∧
      ∃ location, recorded.place.locate false (fileFor directory occasion.now) = .ok location ∧
        place.GrowsBy recorded.place location (line occasion place.currentPath event) := by
  simp only [record] at done
  split at done
  · next after failure failed =>
    split at done
    · cases done
    · cases done
      exact .inl ⟨_, rfl, write_failed failed⟩
  · next after written =>
    cases done
    exact .inr ⟨rfl, write_done written⟩

theorem record_gains {recorded : Recorded} (done : record (.daily directory) occasion place event = .ok recorded) :
    place.Gains recorded.place (fileAt? directory occasion recorded.place) := by
  rw [record_place done]
  exact write_gains directory occasion place event

/-- What a call leaves behind; one that fails leaves the place as it is. -/
def afterCall (directory : Path) (place : Place) (call : Occasion × Event) : Place :=
  match record (.daily directory) call.1 place call.2 with
  | .ok recorded => recorded.place
  | .error _ => place

/-- What calls leave behind, one after another. -/
def afterCalls (directory : Path) (place : Place) (calls : List (Occasion × Event)) : Place :=
  calls.foldl (afterCall directory) place

def lines (current : Path) (calls : List (Occasion × Event)) : Text :=
  calls.flatMap fun call => line call.1 current call.2

theorem afterCall_gains (directory : Path) (place : Place) (call : Occasion × Event) :
    place.Gains (afterCall directory place call) (fileAt? directory call.1 (afterCall directory place call)) := by
  rw [afterCall]
  split
  · next recorded done => exact record_gains done
  · exact .refl place _

theorem afterCall_contentAt? (directory : Path) (place : Place) (call : Occasion × Event) (location : Location) :
    (afterCall directory place call).contentAt? location = place.contentAt? location ∨
    (afterCall directory place call).locate false (fileFor directory call.1.now) = .ok location ∧
      (afterCall directory place call).contentAt? location =
        some ((place.contentAt? location).getD [] ++ Utf8.encode (line call.1 place.currentPath call.2)) := by
  rw [afterCall]
  split
  · next recorded done =>
    rcases record_cases done with ⟨_, _, keeps⟩ | ⟨_, there, located, grows⟩
    · exact .inl (keeps location)
    · by_cases here : there = location
      · subst here
        exact .inr ⟨located, grows.grown⟩
      · exact .inl (grows.apart location (Ne.symm here))
  · exact .inl rfl

theorem afterCalls_currentPath (directory : Path) (place : Place) (calls : List (Occasion × Event)) :
    (afterCalls directory place calls).currentPath = place.currentPath := by
  induction calls generalizing place with
  | nil => rfl
  | cons call calls ih =>
    rw [afterCalls, List.foldl_cons, ← afterCalls, ih, Place.currentPath,
      (afterCall_gains directory place call).current, Place.currentPath]

/-- Where a path leads to once, it leads to over the whole run. -/
theorem afterCalls_locate (directory : Path) {path : Path} (calls : List (Occasion × Event))
    (located : place.locate false path = .ok location) :
    (afterCalls directory place calls).locate false path = .ok location := by
  induction calls generalizing place with
  | nil => exact located
  | cons call calls ih => exact ih ((afterCall_gains directory place call).locate_ok located)

/-- What calls have added to a file over a run: the lines of some of them, in their order. -/
theorem afterCalls_grows (directory : Path) (place : Place) (calls : List (Occasion × Event)) (location : Location) :
    ∃ added, added.Sublist calls ∧
      (∀ call ∈ added, (afterCalls directory place calls).locate false (fileFor directory call.1.now) = .ok location) ∧
      (afterCalls directory place calls).contentAt? location =
        if added = [] then place.contentAt? location
        else some ((place.contentAt? location).getD [] ++ Utf8.encode (lines place.currentPath added)) := by
  induction calls generalizing place with
  | nil => exact ⟨[], .refl _, List.forall_mem_nil _, rfl⟩
  | cons call calls ih =>
    obtain ⟨added, among, leads, grown⟩ := ih (afterCall directory place call)
    have same : (afterCall directory place call).currentPath = place.currentPath :=
      afterCalls_currentPath directory place [call]
    rw [same] at grown
    rw [afterCalls, List.foldl_cons, ← afterCalls]
    rcases afterCall_contentAt? directory place call location with kept | ⟨located, stands⟩
    · exact ⟨added, among.cons call, leads, by rw [grown, kept]⟩
    · refine ⟨call :: added, among.cons_cons call, List.forall_mem_cons.mpr ⟨?_, leads⟩, ?_⟩
      · exact afterCalls_locate directory calls located
      · have more : Utf8.encode (lines place.currentPath (call :: added)) =
            Utf8.encode (line call.1 place.currentPath call.2) ++ Utf8.encode (lines place.currentPath added) :=
          List.flatMap_append
        rw [grown, stands, if_neg (List.cons_ne_nil call added), more]
        split
        · next none => rw [none]; simp [lines, Utf8.encode]
        · rw [Option.getD_some, List.append_assoc]

/-- The log only grows, line by line: a call that returns has added the line of its event to the file of its day
or changed no file, that line is one line with the entry of the event on it, and over a run every file gets the
lines of some of the calls. -/
theorem record_appends_lines (directory : Path) :
    (∀ occasion place event recorded, record (.daily directory) occasion place event = .ok recorded →
      (∃ message, recorded.notes = [⟨"usage", .warning, "Failed to write usage log: " ++ message⟩] ∧
        place.KeepsContents recorded.place) ∨
      recorded.notes = [⟨"usage", .debug, event.action ++ " " ++ (Json.object event.details).render⟩] ∧
        ∃ location, recorded.place.locate false (directory.descend ["usage-" ++ occasion.now.dateText ++ ".log"]) =
            .ok location ∧
          place.GrowsBy recorded.place location (line occasion place.currentPath event)) ∧
    (∀ occasion current (event : Event), (event.details.map (·.1)).Nodup →
      (Text.ofNat occasion.process).length ≤ Json.digitLimit →
      IsLineFor occasion current event (line occasion current event)) ∧
    ∀ place calls location, ∃ added : List (Occasion × Event), added.Sublist calls ∧
      (∀ call ∈ added, (afterCalls directory place calls).locate false
        (directory.descend ["usage-" ++ call.1.now.dateText ++ ".log"]) = .ok location) ∧
      (afterCalls directory place calls).contentAt? location =
        if added = [] then place.contentAt? location
        else some ((place.contentAt? location).getD [] ++ Utf8.encode (lines place.currentPath added)) := by
  refine ⟨?_, ?_, afterCalls_grows directory⟩
  · intro occasion place event recorded done
    exact record_cases done
  · intro occasion current event single process
    exact isLineFor_line single process

/-- A line feed in a detail is written as two characters, and a detail stands in place of the current
directory. -/
theorem record_appends_lines_overridden :
    let directory : Path := .ofText defaultLogDirectory
    let file : Location := [".guard-logs".toList, "usage-2024-01-01.log".toList]
    let place : Place := ⟨.directory [(".guard-logs".toList, .directory [
      ("usage-2024-01-01.log".toList, .file (Utf8.encode "old"))])], []⟩
    let event : Event := ⟨"SEARCH", [("cwd", .str "/x"), ("term", .str "a\nb")]⟩
    let occasion : Occasion := ⟨⟨2024, 1, 1, 0, 0, 0, 0⟩, 1⟩
    let text : Text := line occasion place.currentPath event
    ∃ recorded, record (.daily directory) occasion place event = .ok recorded ∧
      place.GrowsBy recorded.place file text ∧
      Json.parse text = .ok (.object [
        ("timestamp", .str "2024-01-01T00:00:00+00:00"), ("action", .str "SEARCH"), ("pid", .int 1),
        ("cwd", .str "/x"), ("term", .str "a\nb")]) := by
  intro directory file place event occasion text
  obtain ⟨calls, lines, -⟩ := record_appends_lines directory
  have nameable : directory.IsNameable := Path.isNameable_iff.mpr (List.all_eq_true.mp rfl)
  have grown : (write directory occasion place event).1.contentAt? file ≠ place.contentAt? file := by decide +kernel
  have there : (write directory occasion place event).1.locate false (fileFor directory occasion.now) =
      .ok file := by decide +kernel
  obtain ⟨notes, done⟩ := record_eq_ok (fun _ => nameable) occasion event
  generalize (write directory occasion place event).1 = after at grown there done
  refine ⟨_, done, ?_, ?_⟩
  · rcases calls occasion place event _ done with ⟨_, _, keeps⟩ | ⟨_, location, located, grows⟩
    · exact absurd (keeps file) grown
    · cases located.symm.trans there
      exact grows
  · have short : (Text.ofNat 1).length ≤ Json.digitLimit := by decide +kernel
    have single : (event.details.map (·.1)).Nodup := by decide +kernel
    have readable : (Json.object event.details).IsReadable Json.depthLimit :=
      .object (by decide +kernel) (List.forall_mem_cons.mpr ⟨.str, List.forall_mem_singleton.mpr .str⟩)
    have exact : (Json.object event.details).IsExact :=
      .object (by decide +kernel) (List.forall_mem_cons.mpr ⟨.str (by decide +kernel),
        List.forall_mem_singleton.mpr (.str (by decide +kernel))⟩)
    have stamp : occasion.now.toText = "2024-01-01T00:00:00+00:00" := by decide +kernel
    have stands := lines occasion place.currentPath event single short
    rw [stands.parses readable.bounded_and_merged.1,
      stands.exact Json.depthLimit readable exact (by decide +kernel) (by decide +kernel), entry, ← stamp]
    rfl

/-- Of two details whose names are read as one, the halves of a surrogate pair and the character that they make
up, one is lost on the way to a reader. -/
theorem record_merges_halves :
    ¬ ∀ (directory : Path) (occasion : Occasion) (place : Place) (event : Event) (recorded : Recorded),
      (event.details.map (·.1)).Nodup → record (.daily directory) occasion place event = .ok recorded →
      place.KeepsContents recorded.place ∨
        ∃ location text, place.GrowsBy recorded.place location text ∧
          Json.parse text = .ok (entry occasion place.currentPath event) := by
  intro always
  let place : Place := ⟨.directory [], []⟩
  let halves : Text := [Text.charOf 0xD83D, Text.charOf 0xDE00]
  let event : Event := ⟨"SEARCH", [(halves, .null), ("😀", .null)]⟩
  let occasion : Occasion := ⟨⟨2024, 1, 1, 0, 0, 0, 0⟩, 1⟩
  have single : (event.details.map (·.1)).Nodup := by decide +kernel
  have nameable : (Path.ofText ".").IsNameable := Path.isNameable_iff.mpr (List.all_eq_true.mp rfl)
  obtain ⟨notes, done⟩ := record_eq_ok (fun _ : place.hasCurrent = true => nameable) occasion event
  have grown : (write (Path.ofText ".") occasion place event).1.contentAt? ["usage-2024-01-01.log".toList] ≠
      place.contentAt? ["usage-2024-01-01.log".toList] := by decide +kernel
  generalize (write (Path.ofText ".") occasion place event).1 = after at grown done
  have changed : ¬ place.KeepsContents after := fun keeps => grown (keeps _)
  obtain ⟨_, _, keeps⟩ | ⟨_, _, _, grows⟩ := record_cases done
  · exact changed keeps
  obtain keeps | ⟨_, text, also, read⟩ := always (.ofText ".") occasion place event _ single done
  · exact changed keeps
  have something : text ≠ [] := by
    rintro rfl
    cases read
  rw [← grows.unique also something] at read
  have bounded : (Json.object event.details).IsBounded Json.depthLimit :=
    .object (List.forall_mem_cons.mpr ⟨.null, List.forall_mem_singleton.mpr .null⟩)
  have stands : IsLineFor occasion place.currentPath event (line occasion place.currentPath event) :=
    isLineFor_line single (by decide +kernel)
  have shown := congrArg Json.render (Except.ok.inj ((stands.parses bounded).symm.trans read))
  exact absurd shown (by decide +kernel)

end UsageLog

end ProjectSurvey
