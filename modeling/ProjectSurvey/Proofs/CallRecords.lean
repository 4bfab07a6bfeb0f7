import ProjectSurvey.Proofs.CallFaults
import ProjectSurvey.Proofs.PlaceLikeness
import ProjectSurvey.Proofs.UsageRuns

/-! What a call of a tool leaves in the files. Both of its events come to the file of their day or neither does,
for a write opens its file wherever one before it could have, and nothing else is changed but the log file, which
gets the messages. -/

namespace ProjectSurvey

/-- What a file holds once a text has come to its end. An empty text does not make a file. -/
def grown (content : Option Bytes) (text : Text) : Option Bytes :=
  if text = [] then content else some (content.getD [] ++ Utf8.encode text)

@[simp] theorem grown_nil (content : Option Bytes) : grown content [] = content := rfl

theorem grown_grown (content : Option Bytes) (first second : Text) :
    grown (grown content first) second = grown content (first ++ second) := by
  by_cases one : first = []
  · rw [one, grown_nil, List.nil_append]
  · by_cases other : second = []
    · rw [other, grown_nil, List.append_nil]
    · simp [grown, one, other, Utf8.encode]

theorem grown_getD (content : Option Bytes) (text : Text) :
    (grown content text).getD [] = content.getD [] ++ Utf8.encode text := by
  by_cases nothing : text = []
  · rw [nothing, grown_nil]
    exact (List.append_nil _).symm
  · rw [grown, if_neg nothing, Option.getD_some]

namespace UsageLog

variable {directory : Path} {occasion : Occasion} {place later : Place} {event : Event}

/-- Where the file for a day stands that a write opens, if the directory can be made and the file be opened. -/
def opened? (directory : Path) (occasion : Occasion) (place : Place) : Option Location :=
  match place.makeDirectories directory with
  | (_, some _) => none
  | (made, none) => made.openedAt? (fileFor directory occasion.now)

theorem write_opened (stands : place.hasCurrent = true) {location : Location}
    (opened : opened? directory occasion place = some location) (event : Event) :
    place.GrowsBy (write directory occasion place event).1 location (line occasion place.currentPath event) := by
  rw [write_of_hasCurrent stands]
  rw [opened?] at opened
  cases done : place.makeDirectories directory with
  | mk made failure =>
    rw [done] at opened
    cases failure with
    | some failure => cases opened
    | none =>
      have gains := (Place.makeDirectories_eq_iff.mp done).gains
      have named := fileFor_parts directory occasion.now
      cases opening : made.openForAppending (fileFor directory occasion.now) with
      | error fault => simp [Place.openedAt?, opening] at opened
      | ok result =>
        obtain ⟨now, there⟩ := result
        obtain rfl : there = location := by simpa [Place.openedAt?, opening] using opened
        simp only [opening]
        exact gains.keepsContents.growsBy (Place.append_grows named opening _)

theorem write_unopened (stands : place.hasCurrent = true) (unopened : opened? directory occasion place = none)
    (event : Event) : place.KeepsContents (write directory occasion place event).1 := by
  rw [write_of_hasCurrent stands]
  rw [opened?] at unopened
  cases done : place.makeDirectories directory with
  | mk made failure =>
    have gains := (Place.makeDirectories_eq_iff.mp done).gains
    rw [done] at unopened
    cases failure with
    | some failure => exact gains.keepsContents
    | none =>
      cases opening : made.openForAppending (fileFor directory occasion.now) with
      | error fault =>
        simp only [opening]
        exact gains.keepsContents
      | ok result => simp [Place.openedAt?, opening] at unopened

/-- What a log adds to a file for an event: its line, if there is a current directory and that is the file it
opens. -/
def lineAt (log : UsageLog) (occasion : Occasion) (place : Place) (event : Event) (location : Location) : Text :=
  match log with
  | .silent => []
  | .daily directory =>
    if place.hasCurrent = true ∧ opened? directory occasion place = some location then
      line occasion place.currentPath event
    else []

/-- A write adds the line of its event to the file that it opens, and changes no other. -/
theorem write_grown (directory : Path) (occasion : Occasion) (place : Place) (event : Event)
    (location : Location) :
    (write directory occasion place event).1.contentAt? location = grown (place.contentAt? location)
      ((daily directory).lineAt occasion place event location) := by
  rw [lineAt]
  cases stands : place.hasCurrent with
  | false => rw [write_of_removed stands, if_neg nofun, grown_nil]
  | true =>
    cases opened : opened? directory occasion place with
    | none =>
      rw [if_neg nofun, grown_nil]
      exact write_unopened stands opened event location
    | some there =>
      obtain ⟨grows, apart⟩ := write_opened stands opened event
      by_cases here : there = location
      · have nonempty : line occasion place.currentPath event ≠ [] := by simp [line]
        rw [if_pos ⟨rfl, congrArg some here⟩, grown, if_neg nonempty, ← here]
        exact grows
      · rw [if_neg (by simpa using here), grown_nil]
        exact apart location (Ne.symm here)

/-- Where a write opens a file is a matter of the tree and of where the path of the directory starts. -/
theorem opened?_resembles (resembles : Place.Resembles directory.anchor place later) :
    opened? directory occasion later = opened? directory occasion place := by
  have attempts := resembles.makeDirectories directory
  rw [opened?, opened?]
  generalize place.makeDirectories directory = attempt at attempts ⊢
  generalize later.makeDirectories directory = otherAttempt at attempts ⊢
  obtain ⟨made, failure⟩ := attempt
  obtain ⟨otherMade, otherFailure⟩ := otherAttempt
  obtain ⟨like, same⟩ := attempts
  obtain rfl : otherFailure = failure := same
  cases otherFailure with
  | some cause => rfl
  | none => exact Place.Refiles.openedAt? (fileFor directory occasion.now) ⟨like.start, like.tree.refiles⟩

/-- What a write leaves where the directory can be made: everything that was there then, and perhaps a new
file. -/
theorem write_made (stands : place.hasCurrent = true) {made : Place}
    (done : place.makeDirectories directory = (made, none)) (event : Event) :
    (∃ file, made.Gains (write directory occasion place event).1 file) ∧
      made.tree.Refiles (write directory occasion place event).1.tree := by
  rw [write_of_hasCurrent stands, done]
  simp only
  cases opening : made.openForAppending (fileFor directory occasion.now) with
  | error fault => exact ⟨⟨none, .refl made none⟩, (Node.Resembles.refl made.tree).refiles⟩
  | ok result =>
    obtain ⟨opened, location⟩ := result
    have named := fileFor_parts directory occasion.now
    exact ⟨⟨some location, (Place.openForAppending_gains named opening).1.trans (opened.append_gains location _)⟩,
      (Place.openForAppending_refiles named opening).trans_resembles (opened.append_resembles location _)⟩

/-- Once an event has been written, or could not be, every later one is written as it would have been in its
place. -/
theorem opened?_write (resembles : Place.Resembles directory.anchor
    (write directory occasion place event).1 later) (other : Occasion) :
    opened? directory other later = opened? directory other place := by
  cases stands : place.hasCurrent with
  | false =>
    rw [write_of_removed stands] at resembles
    exact opened?_resembles resembles
  | true =>
    cases done : place.makeDirectories directory with
    | mk made failure =>
      cases failure with
      | some cause =>
        have stopped : (write directory occasion place event).1 = made := by rw [write_of_hasCurrent stands, done]
        obtain ⟨left, reason, again⟩ := (Place.makeDirectories_eq_iff.mp done).fails_again rfl
        have attempts := resembles.makeDirectories directory
        rw [stopped, Place.makeDirectories_eq_iff.mpr again] at attempts
        have failed : (later.makeDirectories directory).2 = some reason := attempts.failure
        rw [opened?, opened?, done]
        split
        · rfl
        · next done => rw [done] at failed; cases failed
      | none =>
        obtain ⟨⟨file, gains⟩, refiles⟩ := write_made stands done event
        obtain ⟨entries, found⟩ := (Place.makeDirectories_eq_iff.mp done).find
        rw [List.reverse_reverse] at found
        obtain ⟨node, kept, like⟩ := gains.find_ok found
        obtain ⟨last, there, likewise⟩ := resembles.alike.find_ok kept
        obtain ⟨inner, rfl⟩ : ∃ inner, last = .directory inner := by
          cases node <;> cases like
          cases last <;> cases likewise
          exact ⟨_, rfl⟩
        have again : later.makeDirectories directory = (later, none) :=
          Place.makeDirectories_eq_iff.mpr (.of_find (by rwa [List.reverse_reverse]))
        have start : startOf later.current directory.anchor = startOf made.current directory.anchor := by
          rw [resembles.start, gains.current]
        rw [opened?, opened?, done, again]
        exact Place.Refiles.openedAt? (fileFor directory other.now)
          ⟨start, refiles.trans_resembles resembles.tree⟩

theorem record_grown {log : UsageLog} {recorded : Recorded}
    (done : record log occasion place event = .ok recorded) (location : Location) :
    recorded.place.contentAt? location =
      grown (place.contentAt? location) (log.lineAt occasion place event location) := by
  cases log with
  | silent => cases done; rfl
  | daily directory => rw [record_place done, write_grown]

end UsageLog

namespace Place

/-- Whether a place differs from another in bytes at the end of one file. -/
structure Adds (file : Option Location) (place after : Place) : Prop where
  current : after.current = place.current
  tree : place.tree.Resembles after.tree
  apart : ∀ location, file ≠ some location → after.contentAt? location = place.contentAt? location
  grows : ∀ location, ∃ bytes,
    (after.contentAt? location).getD [] = (place.contentAt? location).getD [] ++ bytes

variable {file : Option Location} {place between after : Place}

theorem Adds.refl (file : Option Location) (place : Place) : Adds file place place :=
  ⟨rfl, .refl place.tree, fun _ _ => rfl, fun _ => ⟨[], (List.append_nil _).symm⟩⟩

theorem Adds.trans (one : Adds file place between) (next : Adds file between after) : Adds file place after := by
  refine ⟨next.current.trans one.current, one.tree.trans next.tree, ?_, ?_⟩
  · intro location apart
    rw [next.apart location apart, one.apart location apart]
  · intro location
    obtain ⟨first, grown⟩ := one.grows location
    obtain ⟨second, grownMore⟩ := next.grows location
    exact ⟨first ++ second, by rw [grownMore, grown, List.append_assoc]⟩

theorem Adds.hasCurrent (adds : Adds file place after) : after.hasCurrent = place.hasCurrent := by
  rw [hasCurrent_eq, hasCurrent_eq, adds.current, Bool.eq_iff_iff, Option.isSome_iff_ne_none,
    Option.isSome_iff_ne_none, ne_eq, ne_eq, adds.tree.none_iff]

theorem Adds.resembles (adds : Adds file place after) (anchor : Anchor) : Resembles anchor place after :=
  ⟨by rw [adds.current], adds.tree⟩

theorem append_adds (place : Place) (location : Location) (bytes : Bytes) :
    Adds (some location) place (place.append location bytes) := by
  refine ⟨place.append_current location bytes, place.append_resembles location bytes,
    fun other apart => (place.append_gains location bytes).contentAt? apart, fun other => ?_⟩
  by_cases here : location = other
  · subst here
    cases stands : place.contentAt? location with
    | some content => exact ⟨bytes, by rw [append_content stands]; rfl⟩
    | none =>
      have kept : place.append location bytes = place := by
        rw [append]
        split
        · next content there => rw [contentAt?_of_at? there] at stands; cases stands
        · rfl
      exact ⟨[], by rw [kept, stands]; rfl⟩
  · exact ⟨[], by rw [(place.append_gains location bytes).contentAt? (by simpa using here), List.append_nil]⟩

end Place

/-- What has been recorded and told meanwhile does not change what a log adds for an event. -/
theorem UsageLog.lineAt_later {log : UsageLog} {start finish : Occasion} {place later : Place} {first event : Event}
    {recorded : Recorded} {file : Option Location} (done : log.record start place first = .ok recorded)
    (tells : Place.Adds file recorded.place later) :
    log.lineAt finish later event = log.lineAt finish place event := by
  cases log with
  | silent => rfl
  | daily directory =>
    have resembles := tells.resembles directory.anchor
    rw [record_place done] at resembles
    have current : later.currentPath = place.currentPath := by
      rw [Place.currentPath, Place.currentPath, tells.current, record_place done,
        (write_gains directory start place first).current]
    have standing : later.hasCurrent = place.hasCurrent := by
      rw [tells.hasCurrent, record_place done, write_hasCurrent]
    funext location
    simp only [lineAt, opened?_write resembles finish, current, standing]

/-- Whether a listener does nothing but add bytes at the end of one file. -/
def Listener.AddsTo (listener : Listener) (file : Option Location) : Prop :=
  ∀ place notes, Place.Adds file place (listener place notes)

theorem Diagnostics.file_of_detached (diagnostics : Diagnostics) {place : Place} {location : Location}
    (kept : (diagnostics.detached place).file = some location) : diagnostics.file = some location := by
  rw [detached] at kept
  split at kept
  · exact kept
  · cases kept

theorem Diagnostics.listener_addsTo (time : Text) (diagnostics : Option Diagnostics) :
    (Diagnostics.listener time diagnostics).AddsTo (diagnostics.bind Diagnostics.file) := by
  intro place notes
  cases diagnostics with
  | none => exact .refl none place
  | some diagnostics =>
    rw [Option.bind_some, listener, tell]
    split
    · exact .refl diagnostics.file place
    · next location kept =>
      rw [diagnostics.file_of_detached kept]
      exact place.append_adds location _

section

variable {listener : Listener} {file : Option Location} (adds : listener.AddsTo file)

include adds

theorem readSources_adds (root : Path) (place : Place) (files : List Path) :
    Place.Adds file place (readSources listener root place files).1 := by
  induction files generalizing place with
  | nil => exact .refl file place
  | cons path paths ih => exact (adds place _).trans (ih _)

theorem tellSources_adds (place : Place) (root : Path) (extensions : List Text) :
    Place.Adds file place (place.tellSources listener root extensions).1 := by
  rw [Place.tellSources]
  split
  · exact readSources_adds adds root place _
  · exact .refl file place

theorem Request.run_adds (place : Place) (category : Text) (request : Request) :
    Place.Adds file place (request.run listener place category).1 := by
  cases request with
  | analyze path =>
    simp only [run, analyzeAndTell]
    split
    · exact .refl file place
    · next root _ =>
      split
      · exact .refl file place
      · have told := (adds place (classifyNotes place root)).trans (tellSources_adds adds _ root sourceExtensions)
        split
        · next stopped => rwa [stopped] at told
        · next done =>
          rw [done] at told
          exact told.trans (adds _ _)
  | search path wanted term =>
    simp only [run, searchAndTell]
    split
    · exact .refl file place
    · next root _ =>
      have told := tellSources_adds adds place root sourceExtensions
      split
      · next stopped => rwa [stopped] at told
      · next done =>
        rw [done] at told
        exact told.trans (adds _ _)

end

/-- Whether two texts have come to the ends of files, the first one before the second, and nothing else but bytes
of one file, which may stand after either of them. -/
structure Place.Records (file : Option Location) (place after : Place) (first second : Location → Text) : Prop where
  exact : ∀ location, file ≠ some location →
    after.contentAt? location = grown (place.contentAt? location) (first location ++ second location)
  among : ∀ location, ∃ between last, (after.contentAt? location).getD [] =
    (place.contentAt? location).getD [] ++ Utf8.encode (first location) ++ between ++
      Utf8.encode (second location) ++ last

theorem Place.Records.of_steps {file : Option Location} {place one told two after : Place}
    {first second : Location → Text}
    (begun : ∀ location, one.contentAt? location = grown (place.contentAt? location) (first location))
    (tells : Adds file one told)
    (ended : ∀ location, two.contentAt? location = grown (told.contentAt? location) (second location))
    (last : Adds file two after) : Records file place after first second := by
  refine ⟨?_, ?_⟩
  · intro location apart
    rw [last.apart location apart, ended, tells.apart location apart, begun, grown_grown]
  · intro location
    obtain ⟨between, middle⟩ := tells.grows location
    obtain ⟨rest, final⟩ := last.grows location
    exact ⟨between, rest, by rw [final, ended, grown_getD, middle, begun, grown_getD]⟩

/-- What is recorded at a place is recorded at one before it that has the same bytes in its files, whether or not
the one file is there. -/
theorem Place.Records.since {file : Option Location} {place begun after : Place} {first second : Location → Text}
    (records : Records file begun after first second)
    (others : ∀ location, file ≠ some location → begun.contentAt? location = place.contentAt? location)
    (bytes : ∀ location, (begun.contentAt? location).getD [] = (place.contentAt? location).getD []) :
    Records file place after first second := by
  refine ⟨?_, ?_⟩
  · intro location apart
    rw [records.exact location apart, others location apart]
  · intro location
    rw [← bytes location]
    exact records.among location

/-- A call that gives an answer records its two events where the log has them at the place as it was. -/
theorem callToolUntil_records {log : UsageLog} {listener : Listener} {file : Option Location}
    (adds : listener.AddsTo file) {start finish : Occasion} {place : Place} {name category : Text}
    {arguments : Option Json} {answer : Answer}
    (answered : (callToolUntil log listener start finish place name arguments category).result = .ok answer) :
    ∃ request, Request.ofCall name arguments category = .ok request ∧
      Place.Records file place (callToolUntil log listener start finish place name arguments category).place
        (log.lineAt start place request.startEvent) (log.lineAt finish place answer.completion) := by
  obtain ⟨request, started, told, completed, made, recorded, ran, closed, whole⟩ :=
    callToolUntil_comesTo.completion answered
  have tells := (adds started.place started.notes).trans (request.run_adds adds _ category)
  rw [ran] at tells
  refine ⟨request, made, ?_⟩
  rw [whole]
  refine .of_steps (UsageLog.record_grown recorded) tells (fun location => ?_) (adds _ _)
  rw [UsageLog.record_grown closed location, UsageLog.lineAt_later recorded tells]

end ProjectSurvey
