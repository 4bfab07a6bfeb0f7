import ProjectSurvey.Proofs.JsonReading
import ProjectSurvey.UsageLog

/-! The lines of the usage log. Each is one line whatever an event holds, and on it stands a JSON object with
the circumstances of the event and its details. -/

namespace ProjectSurvey

namespace Moment

theorem isOneLine_dateText (moment : Moment) : moment.dateText.IsOneLine := by
  have number (width n : Nat) := Text.isOneLine_padded (by decide : 1 < 10) (by decide) width n
  have dash : Text.IsOneLine "-" := by decide
  simp only [dateText, Text.isOneLine_append, number, dash, and_self]

theorem isOneLine_toText (moment : Moment) : moment.toText.IsOneLine := by
  have number (width n : Nat) := Text.isOneLine_padded (by decide : 1 < 10) (by decide) width n
  have fraction : Text.IsOneLine (if moment.microsecond = 0 then [] else
      '.' :: Text.padded 10 6 moment.microsecond) := by
    split
    · exact List.forall_mem_nil _
    · exact List.forall_mem_cons.mpr ⟨by decide, number _ _⟩
  have between : Text.IsOneLine "T" ∧ Text.IsOneLine ":" ∧ Text.IsOneLine "+00:00" := by decide
  simp only [toText, Text.isOneLine_append, isOneLine_dateText, number, fraction, between, and_self]

theorem toText_eq (moment : Moment) : ∃ time, moment.toText = moment.dateText ++ time := by
  simp only [toText, List.append_assoc]
  exact ⟨_, rfl⟩

end Moment

namespace UsageLog

variable {occasion : Occasion} {current : Path} {event : Event} {depth : Nat}

/-- What is told of an event before its details. -/
def circumstances (occasion : Occasion) (current : Path) (action : Text) : List (Text × Json) :=
  [("timestamp", .str occasion.now.toText), ("action", .str action), ("pid", .int occasion.process),
    ("cwd", .str current.toText)]

/-- The entry of an event: its circumstances, in which a detail of that name takes the place of what is told
otherwise, and the other details in their order. -/
def entry (occasion : Occasion) (current : Path) (event : Event) : Json :=
  .object (Json.overridden (circumstances occasion current event.action) event.details)

theorem entryFields_eq (single : (event.details.map (·.1)).Nodup) :
    entryFields occasion current event =
      Json.overridden (circumstances occasion current event.action) event.details :=
  Json.setFields_eq_overridden single

theorem circumstances_nodup (occasion : Occasion) (current : Path) (action : Text) :
    ((circumstances occasion current action).map (·.1)).Nodup := by
  show ["timestamp".toList, "action".toList, "pid".toList, "cwd".toList].Nodup
  decide

theorem forall_mem_entry {holds : Text × Json → Prop}
    (stamped : holds ("timestamp", .str occasion.now.toText)) (done : holds ("action", .str event.action))
    (process : holds ("pid", .int occasion.process)) (there : holds ("cwd", .str current.toText))
    (details : ∀ detail ∈ event.details, holds detail) :
    ∀ field ∈ Json.overridden (circumstances occasion current event.action) event.details, holds field := by
  intro field member
  rcases Json.mem_overridden member with own | other
  · simp only [circumstances, List.mem_cons, List.not_mem_nil, or_false] at own
    rcases own with rfl | rfl | rfl | rfl <;> assumption
  · exact details field other

theorem isBounded_entry (current : Path) (bounded : (Json.object event.details).IsBounded depth)
    (process : (Text.ofNat occasion.process).length ≤ Json.digitLimit) :
    (entry occasion current event).IsBounded depth := by
  cases bounded with
  | object bounded => exact .object (forall_mem_entry .str .str (.int process) .str bounded)

theorem isExact_entry (exact : (Json.object event.details).IsExact) (action : event.action.IsWhole)
    (there : current.toText.IsWhole) : (entry occasion current event).IsExact := by
  have stamped := (Moment.isOneLine_toText occasion.now).isPlain.isWhole
  cases exact with
  | object names values =>
    refine .object (forall_mem_entry ?_ ?_ ?_ ?_ names)
      (forall_mem_entry (.str stamped) (.str action) .int (.str there) values)
    · exact (show Text.IsPlain "timestamp" by decide).isWhole
    · exact (show Text.IsPlain "action" by decide).isWhole
    · exact (show Text.IsPlain "pid" by decide).isWhole
    · exact (show Text.IsPlain "cwd" by decide).isWhole

/-- An entry of exact details comes back as it is. -/
theorem reread_entry (readable : (Json.object event.details).IsReadable depth)
    (exact : (Json.object event.details).IsExact) (action : event.action.IsWhole)
    (there : current.toText.IsWhole) :
    (entry occasion current event).reread.merged = entry occasion current event := by
  rw [(isExact_entry exact action there).reread_eq]
  cases readable with
  | object distinct readable =>
    cases exact with
    | object _ exact =>
      have read : ((event.details.map (·.1)).map Text.rejoined).Nodup := by rwa [List.map_map]
      have single := read.of_map _
      have values : ∀ detail ∈ event.details, detail.2.merged = detail.2 := fun detail member => by
        have same := (readable detail member).bounded_and_merged.2
        rwa [(exact detail member).reread_eq] at same
      exact Json.object_merged (Json.overridden_nodup (circumstances_nodup _ _ _) single)
        (forall_mem_entry rfl rfl rfl rfl values)

/-- Whether a text is the line of an event: it ends in the only line feed that it contains, and the JSON
object on it is the entry of the event, with the date of the day where no detail has taken its place. -/
structure IsLineFor (occasion : Occasion) (current : Path) (event : Event) (text : Text) : Prop where
  single : ∃ body, text = body ++ ['\n'] ∧ '\n' ∉ body
  reads : ∀ depth, (Json.object event.details).IsBounded depth →
    Json.value depth text = .ok ((entry occasion current event).reread.merged, ['\n'])
  parses : (Json.object event.details).IsBounded Json.depthLimit →
    Json.parse text = .ok (entry occasion current event).reread.merged
  exact : ∀ depth, (Json.object event.details).IsReadable depth → (Json.object event.details).IsExact →
    event.action.IsWhole → current.toText.IsWhole →
    (entry occasion current event).reread.merged = entry occasion current event
  dated : Json.field? event.details "timestamp" = none →
    ∃ fields time, (entry occasion current event).reread.merged = .object fields ∧
      Json.field? fields "timestamp" = some (.str (occasion.now.dateText ++ time))

theorem line_eq (single : (event.details.map (·.1)).Nodup) :
    line occasion current event = (entry occasion current event).render ++ ['\n'] := by
  rw [line, entryFields_eq single]
  rfl

theorem entry_dated (single : (event.details.map (·.1)).Nodup)
    (absent : Json.field? event.details "timestamp" = none) :
    ∃ fields time, (entry occasion current event).reread.merged = .object fields ∧
      Json.field? fields "timestamp" = some (.str (occasion.now.dateText ++ time)) := by
  have distinct := Json.overridden_nodup (circumstances_nodup occasion current event.action) single
  obtain ⟨rest, first⟩ : ∃ rest, Json.overridden (circumstances occasion current event.action) event.details =
      ("timestamp".toList, .str occasion.now.toText) :: rest := Json.overridden_first absent _
  obtain ⟨time, told⟩ := occasion.now.toText_eq
  have whole := (Moment.isOneLine_toText occasion.now).isPlain.isWhole
  have plain : Text.IsPlain "timestamp" := by decide
  have found : Json.field? (Json.overridden (circumstances occasion current event.action) event.details)
      "timestamp" = some (.str occasion.now.toText) := by
    rw [first, Json.field?_first]
  have read := Json.field?_readFields plain distinct
  rw [found, Option.map_some, Json.reread, Text.rejoined_of_isWhole whole, told, Json.merged] at read
  exact ⟨_, time, Json.reread_object_merged _, read⟩

theorem isLineFor_line (single : (event.details.map (·.1)).Nodup)
    (process : (Text.ofNat occasion.process).length ≤ Json.digitLimit) :
    IsLineFor occasion current event (line occasion current event) := by
  rw [line_eq single]
  have ends : Json.Ends ['\n'] := by simp [Json.Ends]
  refine ⟨⟨_, rfl, (Json.isOneLine_render _).feed_not_mem⟩, ?_, ?_, ?_, entry_dated single⟩
  · intro depth bounded
    exact (isBounded_entry current bounded process).reads.1.reads _ ends
  · intro bounded
    have read := (isBounded_entry current bounded process).reads.1.document (.inr rfl)
    have plain : Text.IsPlain ((entry occasion current event).render ++ ['\n']) :=
      Text.isPlain_append.mpr ⟨Json.isPlain_render _, by decide⟩
    exact (Json.parse_eq plain read).1
  · intro depth readable exact action there
    exact reread_entry readable exact action there

end UsageLog

end ProjectSurvey
